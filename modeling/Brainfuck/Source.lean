import Brainfuck.Instruction

/-!
# Source text

Every character of a source that is not the symbol of an instruction is a
comment.  Loops have to be balanced: the scan keeps the byte offsets of the
loop starts that are still open, refuses a loop end when there is none, and
reports the innermost open start when the text ends too early.
-/

namespace Brainfuck

/-- Why a text is not the source of a program.  Offsets count the bytes of the
text in UTF-8. -/
inductive SourceError where
  /-- A loop end that no loop start before it can match. -/
  | unmatchedLoopEnd (offset : Nat)
  /-- A loop start that no loop end after it can match. -/
  | unclosedLoopStart (offset : Nat)
  deriving DecidableEq

namespace SourceError

def offset : SourceError → Nat
  | unmatchedLoopEnd offset => offset
  | unclosedLoopStart offset => offset

def message : SourceError → String
  | unmatchedLoopEnd offset =>
      "loop ending at byte " ++ toString offset ++ " has no beginning"
  | unclosedLoopStart offset =>
      "loop starting at byte " ++ toString offset ++ " is never closed"

end SourceError

namespace Source

/-- Scan the characters that start at byte `offset`.  `openings` holds the
offsets of the open loop starts, innermost first, and `found` the instructions
met so far, last first. -/
def scan (offset : Nat) (openings : List Nat) (found : List Instruction) :
    List Char → Except SourceError (List Instruction)
  | [] =>
      match openings with
      | [] => .ok found.reverse
      | opening :: _ => .error (.unclosedLoopStart opening)
  | char :: rest =>
      let next := offset + char.utf8Size
      match Instruction.ofSymbol? char with
      | none => scan next openings found rest
      | some .loopStart =>
          scan next (offset :: openings) (.loopStart :: found) rest
      | some .loopEnd =>
          match openings with
          | [] => .error (.unmatchedLoopEnd offset)
          | _ :: outer => scan next outer (.loopEnd :: found) rest
      | some instruction => scan next openings (instruction :: found) rest

def parse (source : String) : Except SourceError (List Instruction) :=
  scan 0 [] [] source.toList

end Source

end Brainfuck
