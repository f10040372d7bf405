import Brainfuck.Tape

/-!
# Checked access to a tape

Requests to a tape by index.  An index outside the tape is refused and changes
nothing.
-/

namespace Brainfuck

namespace Tape

inductive Access where
  | get (index : Nat)
  | set (index : Nat) (value : UInt8)
  | length
  | last
  | cells
  /-- Whether the tape equals a new tape of its length. -/
  | isFresh
  | unknown (name : String)

inductive Reply where
  | done
  | cell (value : UInt8)
  | number (value : Nat)
  | flag (value : Bool)
  | cells (values : List (Nat × UInt8))

inductive AccessError where
  | outside (length index : Nat)
  | unknown (name : String)

namespace AccessError

def message : AccessError → String
  | outside length index =>
      "index out of bounds: the len is " ++ toString length
        ++ " but the index is " ++ toString index
  | unknown name => "unknown step " ++ name

end AccessError

/-- Answer a request, with the tape as it is afterwards. -/
def access (tape : Tape) : Access → Except AccessError Reply × Tape
  | .get index =>
      if inside : index < tape.length then (.ok (.cell (tape.get index inside)), tape)
      else (.error (.outside tape.length index), tape)
  | .set index value =>
      if inside : index < tape.length then (.ok .done, tape.set index inside value)
      else (.error (.outside tape.length index), tape)
  | .length => (.ok (.number tape.length), tape)
  | .last => (.ok (.number tape.last), tape)
  | .cells => (.ok (.cells tape.nonzeroCells), tape)
  | .isFresh => (.ok (.flag (tape = zeroed ⟨tape.length, tape.length_pos⟩)), tape)
  | .unknown name => (.error (.unknown name), tape)

def accessAll (tape : Tape) : List Access → List (Except AccessError Reply)
  | [] => []
  | request :: rest =>
      let (reply, tape) := tape.access request
      reply :: tape.accessAll rest

end Tape

end Brainfuck
