import Brainfuck.Instruction
import Brainfuck.Machine
import Brainfuck.Statistics
import Brainfuck.Streams

/-!
# Performing single instructions

The effect of an instruction on a machine and its streams.  A `,` flushes the
output before it reads, so that prompts are visible; at the end of input the
cell keeps its value.
-/

namespace Brainfuck

namespace Execution

/-- A machine and the streams that it is connected to. -/
structure State where
  machine : Machine
  streams : Streams
  deriving DecidableEq

/-- Change the machine and leave the streams alone. -/
def State.onMachine (change : Machine → Machine) : State → State
  | ⟨machine, streams⟩ => ⟨change machine, streams⟩

def writeCell : EStateM FailureKind State Unit
  | ⟨machine, streams⟩ =>
      match Streams.write machine.current streams with
      | .ok () streams => .ok () ⟨machine, streams⟩
      | .error kind streams => .error kind ⟨machine, streams⟩

/-- Read a byte into the current cell and say whether there was one. -/
def readCell : EStateM FailureKind State Bool
  | ⟨machine, streams⟩ =>
      match Streams.read streams with
      | .ok (some value) streams => .ok true ⟨machine.setCurrent value, streams⟩
      | .ok none streams => .ok false ⟨machine, streams⟩
      | .error kind streams => .error kind ⟨machine, streams⟩

def flush : EStateM FailureKind State Unit
  | ⟨machine, streams⟩ =>
      match Streams.flush streams with
      | .ok () streams => .ok () ⟨machine, streams⟩
      | .error kind streams => .error kind ⟨machine, streams⟩

/-- Perform an instruction.  The brackets have no effect of their own. -/
def perform (instruction : Instruction) : EStateM FailureKind State Transfer :=
  match instruction with
  | .moveLeft => fun state => .ok .nothing (state.onMachine Machine.moveLeft)
  | .moveRight => fun state => .ok .nothing (state.onMachine Machine.moveRight)
  | .increment => fun state => .ok .nothing (state.onMachine Machine.increment)
  | .decrement => fun state => .ok .nothing (state.onMachine Machine.decrement)
  | .output => do
      writeCell
      return .byteWritten
  | .input => do
      flush
      if ← readCell then
        return .byteRead
      else
        return .endOfInput
  | .loopStart => return .nothing
  | .loopEnd => return .nothing

end Execution

end Brainfuck
