import Brainfuck.Execution.Basic
import Brainfuck.Program

/-!
# Running programs

A run goes through the instructions of a program by index.  A `[` on a zero
cell and a `]` on a non-zero cell jump to just after their partner; every other
instruction is performed and followed by its successor.  A run that reaches
the end of the program closes by flushing the output; a failing instruction
ends it at once.

Runs need not end, so they are given a limit on the number of steps.  Reaching
the limit is told apart from every result of a run.
-/

namespace Brainfuck

/-- Whether an instruction jumps to its partner, given that the current cell
is non-zero or not. -/
def Instruction.jumps : Instruction → (isNonzero : Bool) → Bool
  | .loopStart, isNonzero => !isNonzero
  | .loopEnd, isNonzero => isNonzero
  | _, _ => false

def Program.jumpEntry (program : Program) (index : Nat) (inside : index < program.size) :
    Nat :=
  have := program.size_jumps
  program.jumps[index]

namespace Execution

/-- A moment of a run: the index of the next instruction, the counters so far,
and the machine with its streams. -/
structure Moment where
  index : Nat := 0
  statistics : Statistics := {}
  state : State
  deriving DecidableEq

inductive Step where
  /-- There was no instruction left. -/
  | finished (statistics : Statistics) (state : State)
  | running (next : Moment)
  | failed (kind : FailureKind) (state : State)
  deriving DecidableEq

def step (program : Program) : Moment → Step
  | ⟨index, statistics, state⟩ =>
      if inside : index < program.size then
        let instruction := program.instructions[index]
        if instruction.jumps state.machine.isNonzero then
          .running
            ⟨program.jumpEntry index inside + 1, statistics.record .nothing, state⟩
        else
          match perform instruction state with
          | .ok transfer state => .running ⟨index + 1, statistics.record transfer, state⟩
          | .error kind state => .failed kind state
      else .finished statistics state

/-- What a run leads to: the counters, or the kind of failure, and the machine
with its streams. -/
abbrev Outcome := EStateM.Result FailureKind State Statistics

/-- Step until the run ends, at most `limit` times. -/
def runFrom (program : Program) : (limit : Nat) → Moment → Option Outcome
  | 0, _ => none
  | limit + 1, moment =>
      match step program moment with
      | .finished statistics state => some (.ok statistics state)
      | .running next => runFrom program limit next
      | .failed kind state => some (.error kind state)

/-- The flush that closes a run. -/
def close : Outcome → Outcome
  | .ok statistics state =>
      match flush state with
      | .ok () state => .ok statistics state
      | .error kind state => .error kind state
  | .error kind state => .error kind state

/-- Run a program from its first instruction to its last, in at most `limit`
steps, and close the run. -/
def run (limit : Nat) (program : Program) (state : State) : Option Outcome :=
  (runFrom program limit { state }).map close

end Execution

end Brainfuck
