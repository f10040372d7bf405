import Brainfuck.Execution.Loop
import Brainfuck.Execution.Run

/-!
# Hosts

A host drives one machine step by step: by the primitive operations, by loops
around further steps, and by whole programs.  It can put copies of the machine
aside and take them back.  Every step leaves an entry in a log.

A host has a limited number of steps.  Every step takes one before it starts
and every pass of a loop takes one more; without any left nothing starts.  The
steps inside a program are not counted here but have a limit of their own.
-/

namespace Brainfuck

namespace Host

inductive Step where
  | moveLeft (count : Nat)
  | moveRight (count : Nat)
  | increment (count : Nat)
  | decrement (count : Nat)
  /-- Read a byte into the current cell, without flushing the output. -/
  | input
  | output
  | isNonzero
  | cells
  | length
  /-- Put a copy of the machine aside. -/
  | save
  /-- Compare the machine with the copy put aside last. -/
  | same
  /-- Take the machine back that was put aside last. -/
  | restore
  /-- Append items to the input. -/
  | feed (items : List InputItem)
  | fail
  | loop (body : List Step)
  | run (source : String)
  /-- Flush the output and go on with a fresh machine. -/
  | finish
  | unknown (name : String)
  deriving Inhabited

namespace Step

def name : Step → String
  | moveLeft _ => "<"
  | moveRight _ => ">"
  | increment _ => "+"
  | decrement _ => "-"
  | input => ","
  | output => "."
  | isNonzero => "nonzero"
  | cells => "cells"
  | length => "length"
  | save => "save"
  | same => "same"
  | restore => "restore"
  | feed _ => "feed"
  | fail => "fail"
  | loop _ => "loop"
  | run _ => "run"
  | finish => "finish"
  | unknown name => name

end Step

inductive Reply where
  | done
  | flag (value : Bool)
  | number (value : Nat)
  | cells (values : List (Nat × UInt8))
  | passes (count : Nat)
  | statistics (value : Statistics)

inductive HostError where
  | stream (kind : FailureKind)
  | program (error : ProgramError)
  | requested
  | outOfSteps
  /-- A program did not end within the limit on its own steps. -/
  | unfinishedRun
  | unknownStep (name : String)

namespace HostError

def message : HostError → String
  | stream _ => "an IO error has occurred"
  | program error => error.message
  | requested => "fail step"
  | outOfSteps => "host step limit reached"
  | unfinishedRun => "program step limit reached"
  | unknownStep name => "unknown step " ++ name

end HostError

/-- The log entry of a step: its name, the pointer and the current cell after
it, and its result. -/
structure Entry where
  name : String
  pointer : Nat
  cell : UInt8
  result : Except HostError Reply

/-- A host: the machine and its streams, the copies put aside, the number of
steps left, and the log. -/
structure State where
  execution : Execution.State
  saved : List Machine := []
  steps : Nat
  log : Array Entry := #[]

abbrev Action := EStateM HostError State

def onMachine (change : Machine → Machine) : Action Reply
  | ⟨execution, saved, steps, log⟩ =>
      .ok .done ⟨execution.onMachine change, saved, steps, log⟩

def onExecution {α : Type} (action : EStateM FailureKind Execution.State α) : Action α
  | ⟨execution, saved, steps, log⟩ =>
      match action execution with
      | .ok value execution => .ok value ⟨execution, saved, steps, log⟩
      | .error kind execution => .error (.stream kind) ⟨execution, saved, steps, log⟩

/-- Take one of the steps left. -/
def spend : Action Unit
  | ⟨execution, saved, steps, log⟩ =>
      match steps with
      | 0 => .error .outOfSteps ⟨execution, saved, 0, log⟩
      | left + 1 => .ok () ⟨execution, saved, left, log⟩

/-- Put a copy of the machine aside; the number of copies. -/
def save : Action Reply
  | ⟨execution, saved, steps, log⟩ =>
      .ok (.number (saved.length + 1)) ⟨execution, execution.machine :: saved, steps, log⟩

/-- Take back the machine that was put aside last, if there is one. -/
def restore : Action Reply
  | ⟨execution, [], steps, log⟩ => .ok (.flag false) ⟨execution, [], steps, log⟩
  | ⟨execution, machine :: saved, steps, log⟩ =>
      .ok (.flag true) ⟨{ execution with machine }, saved, steps, log⟩

/-- Append items to the input; the number of unused items. -/
def feed (items : List InputItem) : Action Reply
  | ⟨⟨machine, streams⟩, saved, steps, log⟩ =>
      let input := streams.input ++ items
      .ok (.number input.length) ⟨⟨machine, { streams with input }⟩, saved, steps, log⟩

/-- Run the program of a source text, in at most `limit` steps of its own. -/
def runSource (limit : Nat) (source : String) : Action Reply
  | ⟨execution, saved, steps, log⟩ =>
      match Program.parse source with
      | .error error => .error (.program error) ⟨execution, saved, steps, log⟩
      | .ok program =>
          match Execution.run limit program execution with
          | none => .error .unfinishedRun ⟨execution, saved, steps, log⟩
          | some (.ok statistics execution) =>
              .ok (.statistics statistics) ⟨execution, saved, steps, log⟩
          | some (.error kind execution) =>
              .error (.stream kind) ⟨execution, saved, steps, log⟩

/-- Flush the output and replace the machine by a fresh one, even if the flush
fails. -/
def finish : Action Reply
  | ⟨⟨machine, streams⟩, saved, steps, log⟩ =>
      let fresh := Machine.fresh machine.tapeLength
      match Streams.flush streams with
      | .ok () streams => .ok .done ⟨⟨fresh, streams⟩, saved, steps, log⟩
      | .error kind streams => .error (.stream kind) ⟨⟨fresh, streams⟩, saved, steps, log⟩

def observe (reading : State → Reply) : Action Reply :=
  fun state => .ok (reading state) state

def logged (name : String) (action : Action Reply) : Action Unit := fun state =>
  match action state with
  | .ok reply ⟨execution, saved, steps, log⟩ =>
      let machine := execution.machine
      let entry := ⟨name, machine.pointer, machine.current, .ok reply⟩
      .ok () ⟨execution, saved, steps, log.push entry⟩
  | .error error ⟨execution, saved, steps, log⟩ =>
      let machine := execution.machine
      let entry := ⟨name, machine.pointer, machine.current, .error error⟩
      .error error ⟨execution, saved, steps, log.push entry⟩

mutual

/-- What a step does.  A loop takes a step for each pass when the pass begins. -/
def Step.action (limit : Nat) : Step → Action Reply
  | .moveLeft count => onMachine (Nat.repeat Machine.moveLeft count)
  | .moveRight count => onMachine (Nat.repeat Machine.moveRight count)
  | .increment count => onMachine (Nat.repeat Machine.increment count)
  | .decrement count => onMachine (Nat.repeat Machine.decrement count)
  | .input => do return .flag (← onExecution Execution.readCell)
  | .output => do
      onExecution Execution.writeCell
      return .done
  | .isNonzero => observe fun state => .flag state.execution.machine.isNonzero
  | .cells => observe fun state => .cells state.execution.machine.tape.nonzeroCells
  | .length => observe fun state => .number state.execution.machine.tape.length
  | .save => save
  | .same => observe fun state => .flag (state.saved.head? = some state.execution.machine)
  | .restore => restore
  | .feed items => feed items
  | .fail => throw .requested
  | .loop body => do
      let passes ← Execution.loopFrom (fun state => state.execution.machine.isNonzero)
        (do spend; bodyAction limit body) .outOfSteps 0 (← get).steps
      return .passes passes
  | .run source => runSource limit source
  | .finish => finish
  | .unknown name => throw (.unknownStep name)

/-- The steps of a loop body; a failing step ends them. -/
def bodyAction (limit : Nat) : List Step → Action Unit
  | [] => return ()
  | step :: rest => do
      spend
      logged step.name (step.action limit)
      bodyAction limit rest

end

/-- Drive a host through steps.  A failing step does not stop the others. -/
def drive (limit : Nat) (state : State) : List Step → State
  | [] => state
  | step :: rest =>
      match bodyAction limit [step] state with
      | .ok () state => drive limit state rest
      | .error _ state => drive limit state rest

end Host

end Brainfuck
