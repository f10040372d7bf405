import Brainfuck.Proofs.Path
import Brainfuck.Proofs.Perform

/-!
# Runs in lockstep

Two runs of a program keep in step as long as their states stay related: they go
through the same instructions and end in the same way.  Where the streams of the
two runs are the same it is enough that the operations of the machines preserve
the relation.

A relation may be preserved only by instructions that are performed under some
condition.  It is then up to the first run to meet that condition throughout.

Where the machines of the two runs are the same it is enough that the calls of the
streams preserve a relation.
-/

namespace Brainfuck

/-! ## Cells of machines -/

namespace Machine

def cell? (machine : Machine) (index : Nat) : Option UInt8 :=
  machine.tape.cells[index]?

@[simp]
theorem cell?_moveLeft (machine : Machine) (index : Nat) :
    machine.moveLeft.cell? index = machine.cell? index :=
  rfl

@[simp]
theorem cell?_moveRight (machine : Machine) (index : Nat) :
    machine.moveRight.cell? index = machine.cell? index :=
  rfl

@[simp]
theorem cell?_pointer (machine : Machine) :
    machine.cell? machine.pointer = some machine.current :=
  Array.getElem?_eq_getElem machine.pointer_lt

theorem current_eq_of_cell? {first second : Machine}
    (sameCell : second.cell? second.pointer = first.cell? first.pointer) :
    second.current = first.current := by
  rw [cell?_pointer, cell?_pointer] at sameCell
  exact Option.some.inj sameCell

theorem cell?_setCurrent (machine : Machine) (value : UInt8) (index : Nat) :
    (machine.setCurrent value).cell? index =
      if index = machine.pointer then some value else machine.cell? index := by
  by_cases atPointer : index = machine.pointer
  · rw [if_pos atPointer, atPointer]
    exact Array.getElem?_set_self machine.pointer_lt
  · rw [if_neg atPointer]
    exact Array.getElem?_set_ne machine.pointer_lt (Ne.symm atPointer)

theorem lt_length_of_cell? {machine : Machine} {index : Nat} {value : UInt8}
    (found : machine.cell? index = some value) : index < machine.tape.length :=
  (Array.getElem?_eq_some_iff.mp found).1

theorem exists_cell? {machine : Machine} {index : Nat} (inside : index < machine.tape.length) :
    ∃ value, machine.cell? index = some value :=
  ⟨machine.tape.cells[index], Array.getElem?_eq_getElem inside⟩

theorem ext_cell? {first second : Machine}
    (lengthEq : first.tape.length = second.tape.length) (pointerEq : first.pointer = second.pointer)
    (cellEq : ∀ index < first.tape.length, first.cell? index = second.cell? index) :
    first = second := by
  obtain ⟨⟨cells, positive⟩, pointer, inside⟩ := first
  obtain ⟨⟨otherCells, otherPositive⟩, otherPointer, otherInside⟩ := second
  obtain rfl : pointer = otherPointer := pointerEq
  obtain rfl : cells = otherCells := by
    apply Array.ext lengthEq
    intro index here there
    have same := cellEq index here
    simpa [cell?, here, there] using same
  rfl

end Machine

namespace Execution

/-! ## Related results -/

/-- Two results are the same value, or the same kind of failure, in related
states. -/
inductive Corresponds {α : Type} (related : State → State → Prop) :
    EStateM.Result FailureKind State α → EStateM.Result FailureKind State α → Prop
  | ok {value : α} {first second : State} (states : related first second) :
      Corresponds related (.ok value first) (.ok value second)
  | error {kind : FailureKind} {first second : State} (states : related first second) :
      Corresponds related (.error kind first) (.error kind second)

inductive StepsAlike (related : State → State → Prop) : Step → Step → Prop
  | finished {statistics : Statistics} {first second : State} (states : related first second) :
      StepsAlike related (.finished statistics first) (.finished statistics second)
  | running {index : Nat} {statistics : Statistics} {first second : State}
      (states : related first second) :
      StepsAlike related (.running ⟨index, statistics, first⟩)
        (.running ⟨index, statistics, second⟩)
  | failed {kind : FailureKind} {first second : State} (states : related first second) :
      StepsAlike related (.failed kind first) (.failed kind second)

/-! ## Moments of a run -/

def Always (program : Program) (start : Moment) (property : Moment → Prop) : Prop :=
  ∀ passed moment, Path program start passed moment → property moment

/-- Whenever an instruction is due in a run, its state allows it. -/
def Throughout (program : Program) (start : Moment) (allows : State → Instruction → Prop) : Prop :=
  Always program start fun moment =>
    ∀ instruction, due? program moment = some instruction → allows moment.state instruction

section Always

variable {program : Program} {start : Moment} {property : Moment → Prop}

theorem Always.next (always : Always program start property) {next : Moment}
    (running : step program start = .running next) : Always program next property :=
  fun passed moment path => always (start :: passed) moment (.step running path)

theorem always_of_running (holds : property start) {next : Moment}
    (running : step program start = .running next)
    (further : Always program next property) : Always program start property := by
  intro passed moment path
  cases path with
  | here => exact holds
  | step pathRunning rest =>
      obtain rfl := Step.running.inj (pathRunning.symm.trans running)
      exact further _ moment rest

theorem always_of_outcome? (holds : property start) {outcome : Outcome}
    (ended : (step program start).outcome? = some outcome) : Always program start property := by
  intro passed moment path
  cases path with
  | here => exact holds
  | step running _ => exact absurd running (ne_running_of_outcome? ended _)

end Always

/-! ## Runs -/

/-- A relation that every allowed instruction preserves, and so does the flush
that closes a run. -/
structure Lockstep (allows : State → Instruction → Prop) (related : State → State → Prop) :
    Prop where
  isNonzero_eq : ∀ {first second : State} {instruction : Instruction}, related first second →
    allows first instruction → second.machine.isNonzero = first.machine.isNonzero
  perform : ∀ {first second : State} {instruction : Instruction}, related first second →
    allows first instruction →
      Corresponds related (perform instruction first) (perform instruction second)
  flush : ∀ {first second : State}, related first second →
    Corresponds related (flush first) (flush second)

namespace Lockstep

variable {allows : State → Instruction → Prop} {related : State → State → Prop}
  {program : Program} {first second : State}

theorem step (lockstep : Lockstep allows related) (states : related first second) {index : Nat}
    (allowed : ∀ instruction, program.toList[index]? = some instruction →
      allows first instruction)
    (statistics : Statistics) :
    StepsAlike related (step program ⟨index, statistics, first⟩)
      (step program ⟨index, statistics, second⟩) := by
  by_cases inside : index < program.size
  · obtain ⟨instruction, found⟩ := program.exists_getElem?_toList inside
    have sameTest := lockstep.isNonzero_eq states (allowed instruction found)
    cases jumps : instruction.jumps first.machine.isNonzero with
    | true =>
        obtain ⟨partner, paired⟩ := program.nestedPairing.exists_partner
          ⟨instruction, found, Instruction.isBracket_of_jumps jumps⟩
        have entry := (Program.partner?_eq_some_iff.mp paired).2
        rw [step_jump found jumps entry, step_jump found (by rw [sameTest, jumps]) entry]
        exact .running states
    | false =>
        rw [step_perform found jumps, step_perform found (by rw [sameTest, jumps])]
        have performed := lockstep.perform states (allowed instruction found)
        generalize Execution.perform instruction first = done at performed ⊢
        generalize Execution.perform instruction second = otherDone at performed ⊢
        cases performed with
        | ok after => exact .running after
        | error after => exact .failed after
  · simp only [Execution.step, dif_neg inside]
    exact .finished states

/-- The induction is on the steps that are left. -/
theorem runFrom (lockstep : Lockstep allows related) (limit : Nat) {index : Nat}
    {statistics : Statistics} (states : related first second)
    (throughout : Throughout program ⟨index, statistics, first⟩ allows) :
    Option.Rel (Corresponds related) (runFrom program limit ⟨index, statistics, first⟩)
      (runFrom program limit ⟨index, statistics, second⟩) := by
  induction limit generalizing index statistics first second with
  | zero => exact .none
  | succ limit ih =>
      have alike := lockstep.step states (throughout [] _ (.here _)) statistics
      rw [Execution.runFrom, Execution.runFrom]
      generalize stepEq : Execution.step program ⟨index, statistics, first⟩ = taken at alike ⊢
      generalize Execution.step program ⟨index, statistics, second⟩ = otherTaken at alike ⊢
      cases alike with
      | finished after => exact .some (.ok after)
      | running after => exact ih after (Always.next throughout stepEq)
      | failed after => exact .some (.error after)

theorem close (lockstep : Lockstep allows related) {outcome otherOutcome : Outcome}
    (outcomes : Corresponds related outcome otherOutcome) :
    Corresponds related (close outcome) (close otherOutcome) := by
  cases outcomes with
  | error states => exact .error states
  | ok states =>
      rw [Execution.close, Execution.close]
      have flushed := lockstep.flush states
      generalize Execution.flush _ = done at flushed ⊢
      generalize Execution.flush _ = otherDone at flushed ⊢
      cases flushed with
      | ok after => exact .ok after
      | error after => exact .error after

/-- Under every limit either both runs end, in the same way, or neither does. -/
theorem run (lockstep : Lockstep allows related) (limit : Nat) (states : related first second)
    (throughout : Throughout program { state := first } allows) :
    Option.Rel (Corresponds related) (run limit program first) (run limit program second) := by
  rw [Execution.run, Execution.run]
  have outcomes := lockstep.runFrom limit states throughout
  generalize Execution.runFrom program limit { state := first } = outcome at outcomes ⊢
  generalize Execution.runFrom program limit { state := second } = otherOutcome at outcomes ⊢
  cases outcomes with
  | none => exact .none
  | some outcomes => exact .some (lockstep.close outcomes)

end Lockstep

/-! ## Related machines -/

structure Connected (related : Machine → Machine → Prop) (first second : State) : Prop where
  machines : related first.machine second.machine
  streams_eq : second.streams = first.streams

/-- A relation between machines that every allowed operation preserves. -/
structure Simulation (allows : Machine → Instruction → Prop)
    (related : Machine → Machine → Prop) : Prop where
  current_eq : ∀ {first second : Machine} {instruction : Instruction}, related first second →
    allows first instruction → second.current = first.current
  setCurrent : ∀ {first second : Machine} {instruction : Instruction}, related first second →
    allows first instruction → ∀ value, related (first.setCurrent value) (second.setCurrent value)
  moveLeft : ∀ {first second : Machine}, related first second → allows first .moveLeft →
    related first.moveLeft second.moveLeft
  moveRight : ∀ {first second : Machine}, related first second → allows first .moveRight →
    related first.moveRight second.moveRight

namespace Simulation

variable {allows : Machine → Instruction → Prop} {related : Machine → Machine → Prop}
  {first second : Machine} {instruction : Instruction}

theorem perform (simulation : Simulation allows related) (machines : related first second)
    (allowed : allows first instruction) (streams : Streams) :
    Corresponds (Connected related) (perform instruction ⟨first, streams⟩)
      (perform instruction ⟨second, streams⟩) := by
  have currentEq := simulation.current_eq machines allowed
  cases instruction with
  | moveLeft => exact .ok ⟨simulation.moveLeft machines allowed, rfl⟩
  | moveRight => exact .ok ⟨simulation.moveRight machines allowed, rfl⟩
  | increment =>
      have changed := simulation.setCurrent machines allowed (first.current + 1)
      refine .ok ⟨?_, rfl⟩
      rwa [State.onMachine, State.onMachine, Machine.increment, Machine.increment, currentEq]
  | decrement =>
      have changed := simulation.setCurrent machines allowed (first.current - 1)
      refine .ok ⟨?_, rfl⟩
      rwa [State.onMachine, State.onMachine, Machine.decrement, Machine.decrement, currentEq]
  | output =>
      rw [perform_output, perform_output, currentEq]
      cases Streams.write first.current streams with
      | ok _ after => exact .ok ⟨machines, rfl⟩
      | error kind after => exact .error ⟨machines, rfl⟩
  | input =>
      rw [perform_input, perform_input]
      cases Streams.flush streams with
      | error kind after => exact .error ⟨machines, rfl⟩
      | ok _ flushed =>
          simp only
          cases Streams.read flushed with
          | error kind after => exact .error ⟨machines, rfl⟩
          | ok found after =>
              cases found with
              | none => exact .ok ⟨machines, rfl⟩
              | some value => exact .ok ⟨simulation.setCurrent machines allowed value, rfl⟩
  | loopStart => exact .ok ⟨machines, rfl⟩
  | loopEnd => exact .ok ⟨machines, rfl⟩

theorem flush_connected (machines : related first second) (streams : Streams) :
    Corresponds (Connected related) (flush ⟨first, streams⟩) (flush ⟨second, streams⟩) := by
  rw [flush, flush]
  cases Streams.flush streams with
  | ok _ after => exact .ok ⟨machines, rfl⟩
  | error kind after => exact .error ⟨machines, rfl⟩

theorem lockstep (simulation : Simulation allows related) :
    Lockstep (fun state => allows state.machine) (Connected related) where
  isNonzero_eq := by
    intro first second instruction ⟨machines, _⟩ allowed
    rw [Machine.isNonzero, Machine.isNonzero, simulation.current_eq machines allowed]
  perform := by
    rintro ⟨first, _⟩ ⟨second, streams⟩ instruction ⟨machines, rfl⟩ allowed
    exact simulation.perform machines allowed streams
  flush := by
    rintro ⟨first, _⟩ ⟨second, streams⟩ ⟨machines, rfl⟩
    exact flush_connected machines streams

theorem run (simulation : Simulation allows related) {program : Program} {streams : Streams}
    (machines : related first second)
    (throughout : Throughout program { state := ⟨first, streams⟩ } fun state =>
      allows state.machine)
    (limit : Nat) :
    Option.Rel (Corresponds (Connected related)) (run limit program ⟨first, streams⟩)
      (run limit program ⟨second, streams⟩) :=
  simulation.lockstep.run limit ⟨machines, rfl⟩ throughout

end Simulation

/-! ## Related streams -/

inductive Answers {α : Type} (related : Streams → Streams → Prop) :
    EStateM.Result FailureKind Streams α → EStateM.Result FailureKind Streams α → Prop
  | ok {value : α} {first second : Streams} (streams : related first second) :
      Answers related (.ok value first) (.ok value second)
  | error {kind : FailureKind} {first second : Streams} (streams : related first second) :
      Answers related (.error kind first) (.error kind second)

structure Attached (related : Streams → Streams → Prop) (first second : State) : Prop where
  machine_eq : second.machine = first.machine
  streams : related first.streams second.streams

structure StreamSimulation (related : Streams → Streams → Prop) : Prop where
  write : ∀ {first second : Streams}, related first second → ∀ value,
    Answers related (Streams.write value first) (Streams.write value second)
  read : ∀ {first second : Streams}, related first second →
    Answers related (Streams.read first) (Streams.read second)
  flush : ∀ {first second : Streams}, related first second →
    Answers related (Streams.flush first) (Streams.flush second)

namespace StreamSimulation

variable {related : Streams → Streams → Prop} {first second : Streams}

theorem perform (simulation : StreamSimulation related) (streams : related first second)
    (instruction : Instruction) (machine : Machine) :
    Corresponds (Attached related) (perform instruction ⟨machine, first⟩)
      (perform instruction ⟨machine, second⟩) := by
  by_cases isOutput : instruction = .output
  · obtain rfl := isOutput
    rw [perform_output, perform_output]
    have written := simulation.write streams machine.current
    generalize Streams.write machine.current first = done at written ⊢
    generalize Streams.write machine.current second = otherDone at written ⊢
    cases written with
    | ok after => exact .ok ⟨rfl, after⟩
    | error after => exact .error ⟨rfl, after⟩
  by_cases isInput : instruction = .input
  · obtain rfl := isInput
    rw [perform_input, perform_input]
    have flushed := simulation.flush streams
    generalize Streams.flush first = done at flushed ⊢
    generalize Streams.flush second = otherDone at flushed ⊢
    cases flushed with
    | error after => exact .error ⟨rfl, after⟩
    | @ok _ ready otherReady readyStreams =>
        simp only
        have answered := simulation.read readyStreams
        generalize Streams.read ready = found at answered ⊢
        generalize Streams.read otherReady = otherFound at answered ⊢
        cases answered with
        | error after => exact .error ⟨rfl, after⟩
        | @ok found _ _ after =>
            cases found with
            | none => exact .ok ⟨rfl, after⟩
            | some value => exact .ok ⟨rfl, after⟩
  · obtain ⟨change, -, changed⟩ := exists_perform_eq_onMachine isOutput isInput
    rw [changed, changed]
    exact .ok ⟨rfl, streams⟩

theorem lockstep (simulation : StreamSimulation related) :
    Lockstep (fun _ _ => True) (Attached related) where
  isNonzero_eq := by
    intro first second instruction ⟨machineEq, _⟩ _
    rw [machineEq]
  perform := by
    rintro ⟨_, first⟩ ⟨machine, second⟩ instruction ⟨rfl, streams⟩ _
    exact simulation.perform streams instruction machine
  flush := by
    rintro ⟨machine, first⟩ ⟨_, second⟩ ⟨rfl, streams⟩
    rw [Execution.flush, Execution.flush]
    have flushed := simulation.flush streams
    generalize Streams.flush first = done at flushed ⊢
    generalize Streams.flush second = otherDone at flushed ⊢
    cases flushed with
    | ok after => exact .ok ⟨rfl, after⟩
    | error after => exact .error ⟨rfl, after⟩

theorem run (simulation : StreamSimulation related) (streams : related first second)
    (program : Program) (machine : Machine) (limit : Nat) :
    Option.Rel (Corresponds (Attached related)) (run limit program ⟨machine, first⟩)
      (run limit program ⟨machine, second⟩) :=
  simulation.lockstep.run limit ⟨rfl, streams⟩ fun _ _ _ _ _ => trivial

end StreamSimulation

end Execution

end Brainfuck
