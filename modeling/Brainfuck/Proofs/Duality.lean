import Brainfuck.Proofs.Substitution
import Mathlib.Data.Nat.ModEq

/-!
# Duals of programs

Left and right are duals of each other, and so are addition and subtraction.  With the moves
exchanged a program does on the mirrored tape what it does on the tape itself.  With the
increments and decrements exchanged it does to the negated bytes what it does to the bytes
themselves.
-/

namespace Brainfuck

/-! ## Mirrored machines -/

namespace Tape

/-- Where a cell stands after the tape has been reversed around its first cell. -/
def mirrorIndex (length index : Nat) : Nat :=
  (length - index) % length

theorem mirrorIndex_lt {length : Nat} (index : Nat) (positive : 0 < length) :
    mirrorIndex length index < length :=
  Nat.mod_lt _ positive

theorem add_mirrorIndex_mod {length index : Nat} (inside : index < length) :
    (index + mirrorIndex length index) % length = 0 := by
  rw [mirrorIndex, Nat.add_mod_mod, Nat.add_sub_cancel' inside.le, Nat.mod_self]

theorem mirrorIndex_eq_iff {length index other : Nat} (inside : index < length)
    (otherInside : other < length) :
    mirrorIndex length index = other ↔ (index + other) % length = 0 := by
  constructor
  · rintro rfl
    exact add_mirrorIndex_mod inside
  · intro opposite
    have congruent : mirrorIndex length index ≡ other [MOD length] :=
      Nat.ModEq.add_left_cancel' index ((add_mirrorIndex_mod inside).trans opposite.symm)
    exact congruent.eq_of_lt_of_lt (Nat.mod_lt _ (by omega)) otherInside

theorem mirrorIndex_mirrorIndex {length index : Nat} (inside : index < length) :
    mirrorIndex length (mirrorIndex length index) = index := by
  rw [mirrorIndex_eq_iff (mirrorIndex_lt index (by omega)) inside, Nat.add_comm]
  exact add_mirrorIndex_mod inside

/-- Going on in one direction is going back in the other one. -/
theorem mirrorIndex_add {length index distance back : Nat} (inside : index < length)
    (around : distance + back = length) :
    mirrorIndex length ((index + distance) % length) =
      (mirrorIndex length index + back) % length := by
  have positive : 0 < length := by omega
  rw [mirrorIndex_eq_iff (Nat.mod_lt _ positive) (Nat.mod_lt _ positive), ← Nat.add_mod,
    show index + distance + (mirrorIndex length index + back) =
      index + mirrorIndex length index + length by omega, Nat.add_mod_right]
  exact add_mirrorIndex_mod inside

/-- The tape with its cells in reversed order around the first one. -/
def mirror (tape : Tape) : Tape where
  cells := Array.ofFn fun index : Fin tape.length =>
    tape.get (mirrorIndex tape.length index) (mirrorIndex_lt _ tape.length_pos)
  size_pos := by simpa using tape.size_pos

@[simp]
theorem length_mirror (tape : Tape) : tape.mirror.length = tape.length := by
  simp [mirror, Tape.length]

@[simp]
theorem last_mirror (tape : Tape) : tape.mirror.last = tape.last := by
  rw [last, last, length_mirror]

theorem last_add_one (tape : Tape) : tape.last + 1 = tape.length :=
  Nat.sub_add_cancel tape.length_pos

def negate (tape : Tape) : Tape where
  cells := tape.cells.map (- ·)
  size_pos := by simpa using tape.size_pos

@[simp]
theorem length_negate (tape : Tape) : tape.negate.length = tape.length := by
  simp [negate, Tape.length]

@[simp]
theorem last_negate (tape : Tape) : tape.negate.last = tape.last := by
  rw [last, last, length_negate]

end Tape

namespace Machine

open Tape (mirrorIndex mirrorIndex_lt mirrorIndex_mirrorIndex mirrorIndex_add)

def mirror (machine : Machine) : Machine where
  tape := machine.tape.mirror
  pointer := mirrorIndex machine.tape.length machine.pointer
  pointer_lt := by simpa using mirrorIndex_lt machine.pointer machine.tape.length_pos

@[simp]
theorem tape_mirror (machine : Machine) : machine.mirror.tape = machine.tape.mirror :=
  rfl

theorem pointer_mirror (machine : Machine) :
    machine.mirror.pointer = mirrorIndex machine.tape.length machine.pointer :=
  rfl

theorem cell?_mirror {machine : Machine} {index : Nat} (inside : index < machine.tape.length) :
    machine.mirror.cell? index = machine.cell? (mirrorIndex machine.tape.length index) := by
  have mirroredInside := mirrorIndex_lt index machine.tape.length_pos
  simp [cell?, mirror, Tape.mirror, Tape.get, inside, mirroredInside]

theorem current_mirror (machine : Machine) : machine.mirror.current = machine.current := by
  apply current_eq_of_cell?
  have inside := mirrorIndex_lt machine.pointer machine.tape.length_pos
  rw [pointer_mirror, cell?_mirror inside, mirrorIndex_mirrorIndex machine.pointer_lt]

theorem eq_pointer_mirror_iff {machine : Machine} {index : Nat}
    (inside : index < machine.tape.length) :
    index = machine.mirror.pointer ↔
      mirrorIndex machine.tape.length index = machine.pointer := by
  rw [pointer_mirror]
  constructor
  · rintro rfl
    exact mirrorIndex_mirrorIndex machine.pointer_lt
  · intro same
    rw [← same, mirrorIndex_mirrorIndex inside]

theorem mirror_setCurrent (machine : Machine) (value : UInt8) :
    (machine.setCurrent value).mirror = machine.mirror.setCurrent value := by
  apply ext_cell?
  · simp [mirror]
  · simp [mirror]
  · intro index inside
    have insideFirst : index < machine.tape.length := by simpa [mirror] using inside
    have lengthEq : (machine.setCurrent value).tape.length = machine.tape.length :=
      Tape.length_set ..
    have insideToo : index < (machine.setCurrent value).tape.length := by rwa [lengthEq]
    rw [cell?_mirror insideToo, cell?_setCurrent, cell?_setCurrent, cell?_mirror insideFirst,
      lengthEq]
    simp only [eq_pointer_mirror_iff insideFirst]

/-- The step around the end of the tape has its mirror image in the step around the other
end. -/
theorem mirror_moveRight (machine : Machine) :
    machine.moveRight.mirror = machine.mirror.moveLeft := by
  apply Machine.ext
  · rfl
  · have around : 1 + machine.tape.last = machine.tape.length := by
      rw [Nat.add_comm, Tape.last_add_one]
    rw [pointer_moveLeft, pointer_mirror, pointer_mirror, pointer_moveRight, tape_moveRight,
      tape_mirror, Tape.length_mirror, Tape.last_mirror]
    exact mirrorIndex_add machine.pointer_lt around

theorem mirror_moveLeft (machine : Machine) :
    machine.moveLeft.mirror = machine.mirror.moveRight := by
  apply Machine.ext
  · rfl
  · rw [pointer_moveRight, pointer_mirror, pointer_mirror, pointer_moveLeft, tape_moveLeft,
      tape_mirror, Tape.length_mirror]
    exact mirrorIndex_add machine.pointer_lt machine.tape.last_add_one

/-! ## Negated machines -/

def negate (machine : Machine) : Machine where
  tape := machine.tape.negate
  pointer := machine.pointer
  pointer_lt := by simpa using machine.pointer_lt

theorem cell?_negate (machine : Machine) (index : Nat) :
    machine.negate.cell? index = (machine.cell? index).map (- ·) := by
  simp [cell?, negate, Tape.negate]

theorem current_negate (machine : Machine) : machine.negate.current = -machine.current := by
  have currentEq := machine.cell?_negate machine.pointer
  rw [cell?_pointer, Option.map_some] at currentEq
  exact Option.some.inj ((cell?_pointer machine.negate).symm.trans currentEq)

theorem negate_setCurrent (machine : Machine) (value : UInt8) :
    (machine.setCurrent value).negate = machine.negate.setCurrent (-value) := by
  apply ext_cell?
  · simp [negate]
  · rfl
  · intro index _
    rw [cell?_negate, cell?_setCurrent, cell?_setCurrent, cell?_negate]
    exact apply_ite ..

theorem isNonzero_negate (machine : Machine) : machine.negate.isNonzero = machine.isNonzero := by
  rw [isNonzero, isNonzero, current_negate]
  grind

theorem negate_increment (machine : Machine) :
    machine.increment.negate = machine.negate.decrement := by
  rw [increment, decrement, negate_setCurrent, current_negate]
  congr 1
  grind

theorem negate_decrement (machine : Machine) :
    machine.decrement.negate = machine.negate.increment := by
  rw [increment, decrement, negate_setCurrent, current_negate]
  congr 1
  grind

theorem negate_moveRight (machine : Machine) :
    machine.moveRight.negate = machine.negate.moveRight := by
  apply Machine.ext
  · rfl
  · simp [negate, moveRight]

theorem negate_moveLeft (machine : Machine) :
    machine.moveLeft.negate = machine.negate.moveLeft := by
  apply Machine.ext
  · rfl
  · simp [negate, moveLeft]

end Machine

/-! ## Negated streams -/

def InputItem.negate : InputItem → InputItem
  | .byte value => .byte (-value)
  | item => item

def Event.negate : Event → Event
  | .read item => .read item.negate
  | .write value item => .write (-value) item
  | .flush item => .flush item

namespace InputItem

theorem failure?_negate (item : InputItem) : item.negate.failure? = item.failure? := by
  cases item <;> rfl

theorem byte?_negate (item : InputItem) : item.negate.byte? = item.byte?.map (- ·) := by
  cases item <;> rfl

theorem negate_eq_interrupted_iff {item : InputItem} :
    item.negate = .failure .interrupted ↔ item = .failure .interrupted := by
  cases item <;> simp [negate]

theorem map_negate_interrupted (retries : Nat) (rest : List InputItem) :
    (List.replicate retries (InputItem.failure .interrupted) ++ rest).map negate =
      List.replicate retries (.failure .interrupted) ++ rest.map negate := by
  rw [List.map_append, List.map_replicate]
  rfl

end InputItem

namespace Streams

def negateInput (streams : Streams) : Streams :=
  { streams with input := streams.input.map InputItem.negate }

theorem map_negate_readCalls (retries : Nat) (item : InputItem) :
    (readCalls retries item).map Event.negate = readCalls retries item.negate := by
  rw [readCalls, List.map_append, List.map_replicate]
  rfl

theorem map_negate_writeCalls (value : UInt8) (retries : Nat) (item : WriteItem) :
    (writeCalls value retries item).map Event.negate = writeCalls (-value) retries item := by
  rw [writeCalls, List.map_append, List.map_replicate]
  rfl

/-- The second streams will deliver the negated bytes, and since the start they have
written the negated bytes and have been called in the same way. -/
structure NegatedSince (start first second : Streams) : Prop where
  input_eq : second.input = first.input.map InputItem.negate
  writes_eq : second.writes = first.writes
  flushes_eq : second.flushes = first.flushes
  output_eq : ∃ bytes, first.output.toList = start.output.toList ++ bytes ∧
    second.output.toList = start.output.toList ++ bytes.map (- ·)
  events_eq : ∃ calls, first.events.toList = start.events.toList ++ calls ∧
    second.events.toList = start.events.toList ++ calls.map Event.negate

theorem negatedSince_start (start : Streams) : NegatedSince start start start.negateInput :=
  ⟨rfl, rfl, rfl, ⟨[], by simp [negateInput]⟩, ⟨[], by simp [negateInput]⟩⟩

namespace NegatedSince

variable {start first second : Streams}

theorem recordAll (negated : NegatedSince start first second) {calls otherCalls : List Event}
    (callsEq : calls.map Event.negate = otherCalls) :
    NegatedSince start (first.recordAll calls) (second.recordAll otherCalls) := by
  obtain ⟨earlier, firstEq, secondEq⟩ := negated.events_eq
  refine ⟨negated.input_eq, negated.writes_eq, negated.flushes_eq, negated.output_eq,
    earlier ++ calls, ?_, ?_⟩
  · rw [toList_events_recordAll, firstEq, List.append_assoc]
  · rw [toList_events_recordAll, secondEq, List.map_append, callsEq, List.append_assoc]

theorem push (negated : NegatedSince start first second) (value : UInt8) :
    ∃ bytes, (first.output.push value).toList = start.output.toList ++ bytes ∧
      (second.output.push (-value)).toList = start.output.toList ++ bytes.map (- ·) := by
  obtain ⟨bytes, firstEq, secondEq⟩ := negated.output_eq
  exact ⟨bytes ++ [value], by simp [firstEq], by simp [secondEq]⟩

end NegatedSince

end Streams

/-! ## Dual instructions -/

namespace Instruction

/-- The instruction with left and right exchanged. -/
def mirror : Instruction → Instruction
  | moveLeft => moveRight
  | moveRight => moveLeft
  | instruction => instruction

/-- The instruction with addition and subtraction exchanged. -/
def negate : Instruction → Instruction
  | increment => decrement
  | decrement => increment
  | instruction => instruction

theorem keepsBrackets_some {rename : Instruction → Instruction}
    (loopStart : rename .loopStart = .loopStart) (loopEnd : rename .loopEnd = .loopEnd)
    (isBracket_eq : ∀ instruction, (rename instruction).isBracket = instruction.isBracket) :
    KeepsBrackets (some ∘ rename) where
  loopStart := congrArg some loopStart
  loopEnd := congrArg some loopEnd
  plain := by
    intro instruction other isPlain renamed
    obtain rfl := Option.some.inj renamed
    rw [isBracket_eq, isPlain]

theorem keepsBrackets_mirror : KeepsBrackets (some ∘ mirror) :=
  keepsBrackets_some rfl rfl fun instruction => by cases instruction <;> rfl

theorem keepsBrackets_negate : KeepsBrackets (some ∘ negate) :=
  keepsBrackets_some rfl rfl fun instruction => by cases instruction <;> rfl

end Instruction

namespace Execution

open Streams (NegatedSince)

/-- Renamed instructions do to a state what the instructions themselves do to a related one. -/
structure Symmetry (rename : Instruction → Instruction) (related : State → State → Prop) :
    Prop where
  isNonzero_eq : ∀ first second, related first second →
    second.machine.isNonzero = first.machine.isNonzero
  perform : ∀ instruction first second, related first second →
    Corresponds related (perform instruction first) (perform (rename instruction) second)
  flush : ∀ first second, related first second → Corresponds related (flush first) (flush second)

namespace Symmetry

variable {rename : Instruction → Instruction} {related : State → State → Prop}

theorem preserves (symmetry : Symmetry rename related) :
    Preserves (some ∘ rename) Eq related where
  isNonzero_eq := symmetry.isNonzero_eq
  empty := rfl
  test := fun statistics counted same => by rw [same]
  becomes := by
    rintro instruction other - renamed statistics _ first second rfl states
    obtain rfl := Option.some.inj renamed
    exact (symmetry.perform instruction first second states).performCounted fun _ _ _ => rfl
  leaves := fun erased => nomatch erased
  flush := symmetry.flush

/-- A program whose instructions are renamed ends as the program itself does. -/
theorem endAlike (symmetry : Symmetry rename related) (keeps : KeepsBrackets (some ∘ rename))
    {program other : Program} (built : Program.ofList (program.toList.map rename) = .ok other)
    {start otherStart : State} (states : related start otherStart) :
    EndAlike Eq related program other start otherStart := by
  rw [← List.filterMap_eq_map] at built
  exact symmetry.preserves.endAlike keeps built states

end Symmetry

theorem exists_ofList_map {rename : Instruction → Instruction}
    (keeps : KeepsBrackets (some ∘ rename)) (program : Program) :
    ∃ other, Program.ofList (program.toList.map rename) = .ok other := by
  rw [← List.filterMap_eq_map]
  exact keeps.exists_ofList program

/-! ## Left and right -/

abbrev Mirrored : State → State → Prop :=
  Connected fun first second => second = first.mirror

/-- Instructions that do not move do not tell left from right. -/
theorem simulation_mirror :
    Simulation (fun _ instruction => instruction ≠ .moveLeft ∧ instruction ≠ .moveRight)
      fun first second => second = first.mirror where
  current_eq := by
    rintro first _ instruction rfl -
    exact first.current_mirror
  setCurrent := by
    rintro first _ instruction rfl - value
    exact (first.mirror_setCurrent value).symm
  moveLeft := fun _ allowed => absurd rfl allowed.1
  moveRight := fun _ allowed => absurd rfl allowed.2

theorem symmetry_mirror : Symmetry Instruction.mirror Mirrored where
  isNonzero_eq := by
    rintro first second ⟨mirrored, -⟩
    rw [mirrored, Machine.isNonzero, Machine.isNonzero, Machine.current_mirror]
  perform := by
    rintro instruction ⟨machine, _⟩ ⟨other, streams⟩ ⟨mirrored, rfl⟩
    obtain rfl : other = machine.mirror := mirrored
    cases instruction with
    | moveLeft => exact .ok ⟨machine.mirror_moveLeft.symm, rfl⟩
    | moveRight => exact .ok ⟨machine.mirror_moveRight.symm, rfl⟩
    | _ => exact simulation_mirror.perform rfl (by decide) streams
  flush := fun _ _ states => simulation_mirror.lockstep.flush states

/-! ## Addition and subtraction -/

section Calls

variable {start first second : Streams}

theorem answers_write_negated (negated : NegatedSince start first second) (value : UInt8) :
    Answers (NegatedSince start) (Streams.write value first) (Streams.write (-value) second) := by
  obtain ⟨retries, rest, script, outcome⟩ := first.writes_cases
  have otherScript := negated.writes_eq.trans script
  rcases outcome with accepted | ⟨item, further, kind, rfl, failed⟩
  · rw [Streams.write_of_accept script accepted, Streams.write_of_accept otherScript accepted]
    obtain ⟨inputEq, -, flushesEq, -, eventsEq⟩ :=
      negated.recordAll (Streams.map_negate_writeCalls value retries .accept)
    exact .ok ⟨inputEq, rfl, flushesEq, negated.push value, eventsEq⟩
  · rw [Streams.write_of_failure script failed, Streams.write_of_failure otherScript failed]
    obtain ⟨inputEq, -, flushesEq, outputEq, eventsEq⟩ :=
      negated.recordAll (Streams.map_negate_writeCalls value retries item)
    exact .error ⟨inputEq, rfl, flushesEq, outputEq, eventsEq⟩

/-- The negated byte is read where the byte itself is. -/
theorem answers_read_negated (negated : NegatedSince start first second) :
    Answers (NegatedSince start) (EStateM.map (Option.map (- ·)) Streams.read first)
      (Streams.read second) := by
  obtain ⟨retries, rest, script, outcome⟩ := first.input_cases
  have otherScript : second.input =
      List.replicate retries (.failure .interrupted) ++ rest.map InputItem.negate := by
    rw [negated.input_eq, script, InputItem.map_negate_interrupted]
  rcases outcome with ⟨decisive, quiet⟩ | ⟨item, further, kind, rfl, failed⟩
  · have headEq : (rest.map InputItem.negate).headD .endOfInput =
        (rest.headD .endOfInput).negate := by
      cases rest <;> rfl
    have decisiveToo : (rest.map InputItem.negate).head? ≠ some (.failure .interrupted) := by
      cases rest with
      | nil => exact decisive
      | cons item further => simpa [InputItem.negate_eq_interrupted_iff] using decisive
    have quietToo : ((rest.map InputItem.negate).headD .endOfInput).failure? = none := by
      rw [headEq, InputItem.failure?_negate, quiet]
    rw [EStateM.map, Streams.read_of_quiet script decisive quiet,
      Streams.read_of_quiet otherScript decisiveToo quietToo, headEq, InputItem.byte?_negate]
    obtain ⟨-, writesEq, flushesEq, outputEq, eventsEq⟩ :=
      negated.recordAll (Streams.map_negate_readCalls retries (rest.headD .endOfInput))
    exact .ok ⟨List.map_tail.symm, writesEq, flushesEq, outputEq, eventsEq⟩
  · have failedToo : item.negate.failure? = some kind := by
      rw [InputItem.failure?_negate, failed]
    rw [EStateM.map, Streams.read_of_failure script failed,
      Streams.read_of_failure otherScript failedToo]
    obtain ⟨-, writesEq, flushesEq, outputEq, eventsEq⟩ :=
      negated.recordAll (Streams.map_negate_readCalls retries item)
    exact .error ⟨rfl, writesEq, flushesEq, outputEq, eventsEq⟩

theorem answers_flush_negated (negated : NegatedSince start first second) :
    Answers (NegatedSince start) (Streams.flush first) (Streams.flush second) := by
  rcases Streams.flush_alike negated.flushes_eq with
    ⟨flushed, otherFlushed⟩ | ⟨kind, rest, flushed, otherFlushed⟩
  · rw [flushed, otherFlushed]
    obtain ⟨inputEq, writesEq, -, outputEq, eventsEq⟩ :=
      negated.recordAll (show [Event.flush .succeed].map Event.negate = _ from rfl)
    exact .ok ⟨inputEq, writesEq, congrArg List.tail negated.flushes_eq, outputEq, eventsEq⟩
  · rw [flushed, otherFlushed]
    obtain ⟨inputEq, writesEq, -, outputEq, eventsEq⟩ :=
      negated.recordAll (show [Event.flush (.failure kind)].map Event.negate = _ from rfl)
    exact .error ⟨inputEq, writesEq, rfl, outputEq, eventsEq⟩

end Calls

/-- The cells of the second machine are those of the first one negated, and so is what goes
through its streams from the start on. -/
structure Negated (start : Streams) (first second : State) : Prop where
  machine_eq : second.machine = first.machine.negate
  streams : NegatedSince start first.streams second.streams

section Negated

variable {start first second : Streams}

theorem perform_output_negated (machine : Machine) (negated : NegatedSince start first second) :
    Corresponds (Negated start) (perform .output ⟨machine, first⟩)
      (perform .output ⟨machine.negate, second⟩) := by
  rw [perform_output, perform_output, Machine.current_negate]
  have written := answers_write_negated negated machine.current
  generalize Streams.write machine.current first = done at written ⊢
  generalize Streams.write (-machine.current) second = otherDone at written ⊢
  cases written with
  | ok after => exact .ok ⟨rfl, after⟩
  | error after => exact .error ⟨rfl, after⟩

theorem perform_input_negated (machine : Machine) (negated : NegatedSince start first second) :
    Corresponds (Negated start) (perform .input ⟨machine, first⟩)
      (perform .input ⟨machine.negate, second⟩) := by
  rw [perform_input, perform_input]
  have flushed := answers_flush_negated negated
  generalize Streams.flush first = done at flushed ⊢
  generalize Streams.flush second = otherDone at flushed ⊢
  cases flushed with
  | error after => exact .error ⟨rfl, after⟩
  | @ok _ ready otherReady readyNegated =>
      simp only
      have answered := answers_read_negated readyNegated
      rw [EStateM.map] at answered
      generalize Streams.read ready = found at answered ⊢
      generalize Streams.read otherReady = otherFound at answered ⊢
      cases found with
      | error kind after =>
          cases answered with
          | error after => exact .error ⟨rfl, after⟩
      | ok value after =>
          cases answered with
          | ok after =>
              cases value with
              | none => exact .ok ⟨rfl, after⟩
              | some value => exact .ok ⟨(machine.negate_setCurrent value).symm, after⟩

end Negated

theorem symmetry_negate (start : Streams) : Symmetry Instruction.negate (Negated start) where
  isNonzero_eq := by
    rintro first second ⟨machineEq, -⟩
    rw [machineEq, Machine.isNonzero_negate]
  perform := by
    rintro instruction ⟨machine, first⟩ ⟨_, second⟩ ⟨rfl, negated⟩
    cases instruction with
    | moveLeft => exact .ok ⟨machine.negate_moveLeft.symm, negated⟩
    | moveRight => exact .ok ⟨machine.negate_moveRight.symm, negated⟩
    | increment => exact .ok ⟨machine.negate_increment.symm, negated⟩
    | decrement => exact .ok ⟨machine.negate_decrement.symm, negated⟩
    | output => exact perform_output_negated machine negated
    | input => exact perform_input_negated machine negated
    | loopStart => exact .ok ⟨rfl, negated⟩
    | loopEnd => exact .ok ⟨rfl, negated⟩
  flush := by
    rintro ⟨machine, first⟩ ⟨_, second⟩ ⟨rfl, negated⟩
    rw [Execution.flush, Execution.flush]
    have flushed := answers_flush_negated negated
    generalize Streams.flush first = done at flushed ⊢
    generalize Streams.flush second = otherDone at flushed ⊢
    cases flushed with
    | ok after => exact .ok ⟨rfl, after⟩
    | error after => exact .error ⟨rfl, after⟩

/-- Programs have duals.  With left and right exchanged, a program on the mirrored machine
ends if and as the program itself does on the machine: with the same result and counters, the
same calls of its streams, and the mirrored machine.  With addition and subtraction exchanged,
and the cells and the bytes of the input negated, it ends with the same result and counters,
the pointer on the same cell, the negated cells and the negated output, after the same kinds
of calls. -/
theorem run_dual (program : Program) :
    (∃ mirrored, Program.ofList (program.toList.map Instruction.mirror) = .ok mirrored ∧
      ∀ machine streams,
        EndAlike Eq Mirrored program mirrored ⟨machine, streams⟩ ⟨machine.mirror, streams⟩) ∧
    ∃ negated, Program.ofList (program.toList.map Instruction.negate) = .ok negated ∧
      ∀ machine streams,
        EndAlike Eq (Negated streams) program negated ⟨machine, streams⟩
          ⟨machine.negate, streams.negateInput⟩ := by
  obtain ⟨mirrored, mirroredBuilt⟩ := exists_ofList_map Instruction.keepsBrackets_mirror program
  obtain ⟨negated, negatedBuilt⟩ := exists_ofList_map Instruction.keepsBrackets_negate program
  refine ⟨⟨mirrored, mirroredBuilt, fun machine streams => ?_⟩,
    negated, negatedBuilt, fun machine streams => ?_⟩
  · exact symmetry_mirror.endAlike Instruction.keepsBrackets_mirror mirroredBuilt ⟨rfl, rfl⟩
  · exact (symmetry_negate streams).endAlike Instruction.keepsBrackets_negate negatedBuilt
      ⟨rfl, Streams.negatedSince_start streams⟩

end Execution

end Brainfuck
