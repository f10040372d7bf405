import Brainfuck.Proofs.Path
import Brainfuck.Proofs.Perform

/-!
# Unguarded machines

The pointer of an unguarded machine is a mere number, and the length of its
tape is kept apart from the cells.  Every access to the cells or to a jump
table is checked when it happens, and so is every computation with pointers,
which are machine words: what does not pass is a panic.

Machines become unguarded by erasing what is known about them.  Erasing
commutes with everything that a machine does, so an unguarded machine that
comes from a machine never panics.
-/

namespace Brainfuck

namespace Unguarded

inductive Panic where
  /-- An index is not below the length. -/
  | outside (length index : Nat)
  /-- A computation leaves the machine words. -/
  | overflow
  deriving DecidableEq

def checkedAdd (first second : Nat) : Except Panic Nat :=
  if first + second < USize.size then .ok (first + second) else .error .overflow

def checkedSub (first second : Nat) : Except Panic Nat :=
  if second ≤ first then .ok (first - second) else .error .overflow

@[simp]
theorem ok_bind {α β : Type} (value : α) (next : α → Except Panic β) :
    (Except.ok value >>= next) = next value :=
  rfl

@[simp]
theorem pure_eq_ok {α : Type} (value : α) : (pure value : Except Panic α) = .ok value :=
  rfl

/-! ## Machines -/

@[ext]
structure Machine where
  cells : Array UInt8
  length : Nat
  pointer : Nat
  deriving DecidableEq

namespace Machine

def fresh (length : TapeLength) : Machine where
  cells := Array.replicate length.count 0
  length := length.count
  pointer := 0

def current (machine : Machine) : Except Panic UInt8 :=
  match machine.cells[machine.pointer]? with
  | some value => .ok value
  | none => .error (.outside machine.cells.size machine.pointer)

def setCurrent (machine : Machine) (value : UInt8) : Except Panic Machine :=
  if machine.pointer < machine.cells.size then
    .ok { machine with cells := machine.cells.setIfInBounds machine.pointer value }
  else .error (.outside machine.cells.size machine.pointer)

def last (machine : Machine) : Except Panic Nat :=
  checkedSub machine.length 1

def isNonzero (machine : Machine) : Except Panic Bool := do
  return (← machine.current) != 0

def increment (machine : Machine) : Except Panic Machine := do
  machine.setCurrent ((← machine.current) + 1)

def decrement (machine : Machine) : Except Panic Machine := do
  machine.setCurrent ((← machine.current) - 1)

def moveRight (machine : Machine) : Except Panic Machine := do
  if machine.pointer = (← machine.last) then
    return { machine with pointer := 0 }
  else
    return { machine with pointer := ← checkedAdd machine.pointer 1 }

def moveLeft (machine : Machine) : Except Panic Machine := do
  if machine.pointer = 0 then
    return { machine with pointer := ← machine.last }
  else
    return { machine with pointer := ← checkedSub machine.pointer 1 }

end Machine

/-- Forget that the pointer is inside the tape. -/
def erase (machine : Brainfuck.Machine) : Machine where
  cells := machine.tape.cells
  length := machine.tape.length
  pointer := machine.pointer

section Erase

variable (machine : Brainfuck.Machine)

theorem erase_fresh (length : TapeLength) :
    erase (Brainfuck.Machine.fresh length) = Machine.fresh length := by
  simp [erase, Brainfuck.Machine.fresh, Machine.fresh, Tape.zeroed, Tape.length]

@[simp]
theorem current_erase : (erase machine).current = .ok machine.current := by
  have found : machine.tape.cells[machine.pointer]? = some machine.current :=
    Array.getElem?_eq_getElem machine.pointer_lt
  simp [Machine.current, erase, found]

@[simp]
theorem setCurrent_erase (value : UInt8) :
    (erase machine).setCurrent value = .ok (erase (machine.setCurrent value)) := by
  have inside : (erase machine).pointer < (erase machine).cells.size := machine.pointer_lt
  rw [Machine.setCurrent, if_pos inside, Array.setIfInBounds, dif_pos inside]
  apply congrArg Except.ok
  apply Machine.ext
  · rfl
  · exact (Tape.length_set ..).symm
  · rfl

@[simp]
theorem last_erase : (erase machine).last = .ok machine.tape.last := by
  have positive : 1 ≤ (erase machine).length := machine.tape.length_pos
  rw [Machine.last, checkedSub, if_pos positive]
  rfl

@[simp]
theorem isNonzero_erase : (erase machine).isNonzero = .ok machine.isNonzero := by
  simp [Machine.isNonzero, Brainfuck.Machine.isNonzero]

@[simp]
theorem increment_erase : (erase machine).increment = .ok (erase machine.increment) := by
  simp [Machine.increment, Brainfuck.Machine.increment]

@[simp]
theorem decrement_erase : (erase machine).decrement = .ok (erase machine.decrement) := by
  simp [Machine.decrement, Brainfuck.Machine.decrement]

@[simp]
theorem moveLeft_erase : (erase machine).moveLeft = .ok (erase machine.moveLeft) := by
  have pointerEq : (erase machine).pointer = machine.pointer := rfl
  simp only [Machine.moveLeft, last_erase, pointerEq, ok_bind, pure_eq_ok]
  by_cases atFirst : machine.pointer = 0
  · simp [erase, Brainfuck.Machine.moveLeft, atFirst]
  · have positive : 1 ≤ machine.pointer := Nat.one_le_iff_ne_zero.mpr atFirst
    simp [erase, Brainfuck.Machine.moveLeft, atFirst, checkedSub, positive]

/-- A pointer that leaves room for the length of its tape can be moved on. -/
theorem moveRight_erase (fits : machine.tape.length < USize.size) :
    (erase machine).moveRight = .ok (erase machine.moveRight) := by
  have pointerEq : (erase machine).pointer = machine.pointer := rfl
  simp only [Machine.moveRight, last_erase, pointerEq, ok_bind, pure_eq_ok]
  by_cases atLast : machine.pointer = machine.tape.last
  · simp [erase, Brainfuck.Machine.moveRight, atLast]
  · have small : machine.pointer + 1 < USize.size := Nat.lt_of_le_of_lt machine.pointer_lt fits
    simp [erase, Brainfuck.Machine.moveRight, atLast, checkedAdd, small]

end Erase

/-! ## Instructions -/

structure State where
  machine : Machine
  streams : Streams
  deriving DecidableEq

abbrev Result := EStateM.Result FailureKind State

def writeCell : State → Except Panic (Result Unit)
  | ⟨machine, streams⟩ => do
      match Streams.write (← machine.current) streams with
      | .ok () streams => return .ok () ⟨machine, streams⟩
      | .error kind streams => return .error kind ⟨machine, streams⟩

def readCell : State → Except Panic (Result Bool)
  | ⟨machine, streams⟩ =>
      match Streams.read streams with
      | .ok (some value) streams => do return .ok true ⟨← machine.setCurrent value, streams⟩
      | .ok none streams => do
          -- a trace of the run shows the cell that is kept
          let _ ← machine.current
          return .ok false ⟨machine, streams⟩
      | .error kind streams => return .error kind ⟨machine, streams⟩

def perform : Instruction → State → Except Panic (Result Transfer)
  | .moveLeft, ⟨machine, streams⟩ => do return .ok .nothing ⟨← machine.moveLeft, streams⟩
  | .moveRight, ⟨machine, streams⟩ => do return .ok .nothing ⟨← machine.moveRight, streams⟩
  | .increment, ⟨machine, streams⟩ => do return .ok .nothing ⟨← machine.increment, streams⟩
  | .decrement, ⟨machine, streams⟩ => do return .ok .nothing ⟨← machine.decrement, streams⟩
  | .output, state => do
      match ← writeCell state with
      | .ok () state => return .ok .byteWritten state
      | .error kind state => return .error kind state
  | .input, ⟨machine, streams⟩ =>
      match Streams.flush streams with
      | .error kind streams => return .error kind ⟨machine, streams⟩
      | .ok () streams => do
          match ← readCell ⟨machine, streams⟩ with
          | .ok true state => return .ok .byteRead state
          | .ok false state => return .ok .endOfInput state
          | .error kind state => return .error kind state
  | .loopStart, state => return .ok .nothing state
  | .loopEnd, state => return .ok .nothing state

def eraseState (state : Execution.State) : State :=
  ⟨erase state.machine, state.streams⟩

@[simp]
theorem machine_eraseState (state : Execution.State) :
    (eraseState state).machine = erase state.machine :=
  rfl

def eraseResult {α : Type} : EStateM.Result FailureKind Execution.State α → Result α
  | .ok value state => .ok value (eraseState state)
  | .error kind state => .error kind (eraseState state)

theorem writeCell_erase (state : Execution.State) :
    writeCell (eraseState state) = .ok (eraseResult (Execution.writeCell state)) := by
  obtain ⟨machine, streams⟩ := state
  simp only [writeCell, eraseState, current_erase, ok_bind, Execution.writeCell]
  cases Streams.write machine.current streams <;> rfl

theorem readCell_erase (state : Execution.State) :
    readCell (eraseState state) = .ok (eraseResult (Execution.readCell state)) := by
  obtain ⟨machine, streams⟩ := state
  simp only [readCell, eraseState, Execution.readCell]
  cases Streams.read streams with
  | error kind after => rfl
  | ok found after =>
      cases found with
      | none => simp [eraseResult, eraseState]
      | some value => simp [eraseResult, eraseState]

theorem perform_erase (instruction : Instruction) (state : Execution.State)
    (fits : state.machine.tape.length < USize.size) :
    perform instruction (eraseState state) =
      .ok (eraseResult (Execution.perform instruction state)) := by
  obtain ⟨machine, streams⟩ := state
  cases instruction with
  | moveRight =>
      simp [perform, eraseState, moveRight_erase machine fits, Execution.perform, eraseResult,
        Execution.State.onMachine]
  | output =>
      rw [perform, writeCell_erase]
      simp only [Execution.perform, bind, EStateM.bind]
      cases Execution.writeCell ⟨machine, streams⟩ <;> rfl
  | input =>
      simp only [perform, eraseState, Execution.perform, bind, EStateM.bind, Execution.flush]
      cases Streams.flush streams with
      | error kind after => rfl
      | ok _ ready =>
          have found := readCell_erase ⟨machine, ready⟩
          simp only [eraseState] at found
          simp only [found]
          cases Execution.readCell ⟨machine, ready⟩ with
          | error kind after => rfl
          | ok hasByte after => cases hasByte <;> rfl
  | moveLeft | increment | decrement =>
      simp [perform, eraseState, Execution.perform, eraseResult, Execution.State.onMachine]
  | loopStart | loopEnd => rfl

/-! ## Runs -/

/-- Whether an instruction jumps.  Only brackets test the cell. -/
def jumps : Instruction → Machine → Except Panic Bool
  | .loopStart, machine => do return !(← machine.isNonzero)
  | .loopEnd, machine => machine.isNonzero
  | _, _ => return false

def jumpTarget (program : Program) (index : Nat) : Except Panic Nat :=
  match program.jumps[index]? with
  | some target => .ok target
  | none => .error (.outside program.jumps.size index)

def runFrom (program : Program) :
    (limit index : Nat) → Statistics → State → Except Panic (Option (Result Statistics))
  | 0, _, _, _ => return none
  | limit + 1, index, statistics, state =>
      match program.instructions[index]? with
      | none => return some (.ok statistics state)
      | some instruction => do
          if ← jumps instruction state.machine then
            let target ← jumpTarget program index
            runFrom program limit (target + 1) (statistics.record .nothing) state
          else
            match ← perform instruction state with
            | .ok transfer state =>
                runFrom program limit (index + 1) (statistics.record transfer) state
            | .error kind state => return some (.error kind state)

def close : Result Statistics → Result Statistics
  | .ok statistics ⟨machine, streams⟩ =>
      match Streams.flush streams with
      | .ok () streams => .ok statistics ⟨machine, streams⟩
      | .error kind streams => .error kind ⟨machine, streams⟩
  | .error kind state => .error kind state

def run (limit : Nat) (program : Program) (state : State) :
    Except Panic (Option (Result Statistics)) := do
  return (← runFrom program limit 0 {} state).map close

@[simp]
theorem jumps_erase (instruction : Instruction) (machine : Brainfuck.Machine) :
    jumps instruction (erase machine) = .ok (instruction.jumps machine.isNonzero) := by
  cases instruction <;> simp [jumps, Instruction.jumps]

theorem close_erase (outcome : Execution.Outcome) :
    close (eraseResult outcome) = eraseResult (Execution.close outcome) := by
  cases outcome with
  | ok statistics state =>
      simp only [eraseResult, eraseState, close, Execution.close, Execution.flush]
      cases Streams.flush state.streams <;> rfl
  | error kind state => rfl

/-- Every step of a run stays inside the tape and inside the jump table. -/
theorem runFrom_erase (program : Program) (limit : Nat) (moment : Execution.Moment)
    (fits : moment.state.machine.tape.length < USize.size) :
    runFrom program limit moment.index moment.statistics (eraseState moment.state) =
      .ok ((Execution.runFrom program limit moment).map eraseResult) := by
  induction limit generalizing moment with
  | zero => rfl
  | succ limit ih =>
      have view := Execution.stepView program moment
      rw [Execution.runFrom]
      generalize Execution.step program moment = next at view
      cases view with
      | @ends index statistics state atEnd =>
          have outside : program.instructions[index]? = none :=
            Array.getElem?_eq_none atEnd
          simp [runFrom, outside, eraseResult]
      | @jumps index partner statistics state instruction found jumps paired =>
          have entry := (Program.partner?_eq_some_iff.mp paired).2
          have target : jumpTarget program index = .ok partner := by rw [jumpTarget, entry]
          have further := ih ⟨partner + 1, statistics.record .nothing, state⟩ fits
          simpa [runFrom, Program.getElem?_instructions found, jumps, target] using further
      | @performs index statistics state next instruction transfer found stays performed =>
          have erased := perform_erase instruction state fits
          have lengthEq := (Execution.completed_of_perform performed).length_eq
          have further := ih ⟨index + 1, statistics.record transfer, next⟩ (lengthEq ▸ fits)
          rw [performed] at erased
          simpa [runFrom, Program.getElem?_instructions found, stays, erased, eraseResult]
            using further
      | @fails index statistics state next instruction kind found stays failed =>
          have erased := perform_erase instruction state fits
          rw [failed] at erased
          simp [runFrom, Program.getElem?_instructions found, stays, erased, eraseResult]

theorem run_erase (program : Program) (limit : Nat) (state : Execution.State)
    (fits : state.machine.tape.length < USize.size) :
    run limit program (eraseState state) =
      .ok ((Execution.run limit program state).map eraseResult) := by
  have erased := runFrom_erase program limit { state } fits
  simp only [run, Execution.run] at erased ⊢
  rw [erased]
  cases Execution.runFrom program limit { state } <;> simp [close_erase]

end Unguarded

end Brainfuck
