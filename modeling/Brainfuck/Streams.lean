import Brainfuck.FailureKind

/-!
# Scripted streams

The input and output of a run are scripts.  A script has one item for every
call of a stream and says how the call ends; when it is used up, input is at
its end and output is accepted.  Every call is recorded as an event.

A read or write of one byte calls its stream again as long as it is
interrupted; a flush is a single call.
-/

namespace Brainfuck

/-- How a call that reads one byte ends. -/
inductive InputItem where
  | byte (value : UInt8)
  | endOfInput
  | failure (kind : FailureKind)
  deriving DecidableEq

/-- How a call that writes one byte ends. -/
inductive WriteItem where
  | accept
  /-- The call takes no byte at all. -/
  | refuse
  | failure (kind : FailureKind)
  deriving DecidableEq

/-- How a call that flushes the output ends. -/
inductive FlushItem where
  | succeed
  | failure (kind : FailureKind)
  deriving DecidableEq

/-- A call of a stream and how it ended. -/
inductive Event where
  | read (item : InputItem)
  | write (value : UInt8) (item : WriteItem)
  | flush (item : FlushItem)
  deriving DecidableEq

/-- The streams of a run: the unused parts of their scripts, the bytes written
so far, and all calls so far. -/
structure Streams where
  input : List InputItem := []
  writes : List WriteItem := []
  flushes : List FlushItem := []
  output : Array UInt8 := #[]
  events : Array Event := #[]
  deriving DecidableEq

namespace Streams

/-- Read one byte from a script: the byte, or nothing at the end of input; the
rest of the script; and the calls made, added to `events`. -/
def readFrom (events : Array Event) :
    List InputItem → Except FailureKind (Option UInt8) × List InputItem × Array Event
  | [] => (.ok none, [], events.push (.read .endOfInput))
  | item :: rest =>
      let recorded := events.push (.read item)
      match item with
      | .byte value => (.ok (some value), rest, recorded)
      | .endOfInput => (.ok none, rest, recorded)
      | .failure .unexpectedEof => (.ok none, rest, recorded)
      | .failure .interrupted => readFrom recorded rest
      | .failure kind => (.error kind, rest, recorded)

/-- Write one byte through a script. -/
def writeThrough (value : UInt8) (events : Array Event) :
    List WriteItem → Except FailureKind Unit × List WriteItem × Array Event
  | [] => (.ok (), [], events.push (.write value .accept))
  | item :: rest =>
      let recorded := events.push (.write value item)
      match item with
      | .accept => (.ok (), rest, recorded)
      | .refuse => (.error .writeZero, rest, recorded)
      | .failure .interrupted => writeThrough value recorded rest
      | .failure kind => (.error kind, rest, recorded)

/-- Read one byte, or find the input at its end. -/
def read : EStateM FailureKind Streams (Option UInt8)
  | ⟨input, writes, flushes, output, events⟩ =>
      match readFrom events input with
      | (.ok value, rest, recorded) => .ok value ⟨rest, writes, flushes, output, recorded⟩
      | (.error kind, rest, recorded) => .error kind ⟨rest, writes, flushes, output, recorded⟩

def write (value : UInt8) : EStateM FailureKind Streams Unit
  | ⟨input, writes, flushes, output, events⟩ =>
      match writeThrough value events writes with
      | (.ok (), rest, recorded) => .ok () ⟨input, rest, flushes, output.push value, recorded⟩
      | (.error kind, rest, recorded) => .error kind ⟨input, rest, flushes, output, recorded⟩

def flush : EStateM FailureKind Streams Unit
  | ⟨input, writes, flushes, output, events⟩ =>
      match flushes with
      | [] => .ok () ⟨input, writes, [], output, events.push (.flush .succeed)⟩
      | item :: rest =>
          let recorded := events.push (.flush item)
          match item with
          | .succeed => .ok () ⟨input, writes, rest, output, recorded⟩
          | .failure kind => .error kind ⟨input, writes, rest, output, recorded⟩

def ofBytes (bytes : List UInt8) : Streams where
  input := bytes.map .byte

end Streams

end Brainfuck
