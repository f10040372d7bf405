import Brainfuck.Proofs.StraightLine

/-!
# Net effects

A run of straight-line code performs each instruction once, and the moves so far tell where
the pointer is before each of them.  The code has done what its net moves and its net changes
of the cells tell, so two pieces of code have the same effect on a machine exactly if these
agree, the moves modulo the length of the tape and the changes modulo 256.
-/

namespace Brainfuck

open Instruction

namespace Machine

variable {machine : Machine} {index : Nat}

/-! ## Changes of cells -/

/-- How often an instruction is performed while the pointer is at an index: before each
instruction the pointer is where the moves so far have taken it, around the tape. -/
def performedOn (machine : Machine) (instruction : Instruction) (index : Nat)
    (instructions : List Instruction) : Nat :=
  (List.range instructions.length).countP fun place =>
    instructions[place]? = some instruction ∧
      ((machine.pointer : Int) + displacement (instructions.take place)) % machine.tape.length =
        index

/-- The increments less the decrements of the cell at an index. -/
def netChangeOn (machine : Machine) (index : Nat) (instructions : List Instruction) : Int :=
  machine.performedOn .increment index instructions -
    machine.performedOn .decrement index instructions

/-- The moves that take the pointer to an index are told by the offset of the index. -/
theorem emod_eq_index_iff (inside : index < machine.tape.length) (moves : Int) :
    ((machine.pointer : Int) + moves) % machine.tape.length = index ↔
      (machine.tape.length : Int) ∣ moves - (index - machine.pointer) := by
  have indexEq : (index : Int) % machine.tape.length = index :=
    Int.emod_eq_of_lt (by omega) (by omega)
  have regrouped : moves - ((index : Int) - machine.pointer) =
      machine.pointer + moves - index := by ring
  rw [regrouped, ← Int.modEq_iff_dvd, Int.modEq_comm, Int.ModEq, indexEq]

theorem performedOn_eq_performedAt (inside : index < machine.tape.length)
    (instruction : Instruction) (instructions : List Instruction) :
    machine.performedOn instruction index instructions =
      performedAt instruction machine.tape.length (index - machine.pointer) instructions := by
  simp only [performedOn, performedAt, emod_eq_index_iff inside]

theorem netChangeOn_eq_netChange (inside : index < machine.tape.length)
    (instructions : List Instruction) :
    machine.netChangeOn index instructions =
      netChange machine.tape.length (index - machine.pointer) instructions := by
  rw [netChangeOn, netChange, performedOn_eq_performedAt inside, performedOn_eq_performedAt inside]

theorem cell?_after_eq_grown (inside : index < machine.tape.length)
    (instructions : List Instruction) :
    (machine.after instructions).cell? index =
      grown (machine.netChangeOn index instructions) (machine.cell? index) := by
  rw [cell?_after instructions inside, netChangeOn_eq_netChange inside]

/-! ## Code with the same effect -/

theorem pointer_after_eq_iff (first second : List Instruction) :
    (machine.after first).pointer = (machine.after second).pointer ↔
      displacement first ≡ displacement second [ZMOD machine.tape.length] := by
  rw [← Int.natCast_inj, pointer_after, pointer_after]
  constructor
  · intro same
    exact Int.ModEq.add_left_cancel' _ same
  · intro same
    exact same.add_left _

theorem cell?_after_eq_iff (inside : index < machine.tape.length)
    (first second : List Instruction) :
    (machine.after first).cell? index = (machine.after second).cell? index ↔
      machine.netChangeOn index first ≡ machine.netChangeOn index second [ZMOD 256] := by
  obtain ⟨value, found⟩ := exists_cell? inside
  rw [cell?_after_eq_grown inside, cell?_after_eq_grown inside, found, grown_some_eq_iff]

/-- Code has the same effect exactly if it has the same net moves around the tape and the
same net changes modulo 256. -/
theorem after_eq_after_iff (first second : List Instruction) :
    machine.after first = machine.after second ↔
      displacement first ≡ displacement second [ZMOD machine.tape.length] ∧
      ∀ index < machine.tape.length,
        machine.netChangeOn index first ≡ machine.netChangeOn index second [ZMOD 256] := by
  rw [← pointer_after_eq_iff]
  constructor
  · intro same
    refine ⟨by rw [same], fun index inside => ?_⟩
    rw [← cell?_after_eq_iff inside, same]
  · rintro ⟨pointerEq, changes⟩
    apply ext_cell?
    · rw [length_after, length_after]
    · exact pointerEq
    · intro index inside
      rw [length_after] at inside
      exact (cell?_after_eq_iff inside first second).mpr (changes index inside)

end Machine

namespace Execution

variable {instructions : List Instruction} {program : Program}

/-! ## Runs -/

/-- The induction is on the instructions that have been performed. -/
theorem exists_path_of_elementary
    (elementary : ∀ instruction ∈ instructions, instruction.isElementary = true)
    (built : Program.ofList instructions = .ok program) (start : State) {place : Nat}
    (reached : place ≤ instructions.length) :
    ∃ passed, passed.length = place ∧
      Path program { state := start } passed
        ⟨place, { instructions := place },
          ⟨start.machine.after (instructions.take place), start.streams⟩⟩ := by
  induction place with
  | zero => exact ⟨[], rfl, .here _⟩
  | succ place ih =>
      obtain ⟨passed, lengthEq, path⟩ := ih (by omega)
      have here : instructions[place]? = some instructions[place] :=
        List.getElem?_eq_getElem reached
      have isElementary := elementary _ (List.getElem_mem reached)
      have found : program.toList[place]? = some instructions[place] := by
        rw [Program.toList_of_ofList built, here]
      have afterEq : instructions[place].effect (start.machine.after (instructions.take place)) =
          start.machine.after (instructions.take (place + 1)) := by
        rw [List.take_succ_eq_append_getElem reached, Machine.after_append]
        rfl
      refine ⟨_, ?_, path.append (.step ?_ (.here _))⟩
      · simp [lengthEq]
      · rw [step_perform found (jumps_of_plain (isBracket_of_isElementary isElementary) _),
          perform_of_isElementary isElementary, afterEq]
        rfl

theorem run_of_elementary
    (elementary : ∀ instruction ∈ instructions, instruction.isElementary = true)
    (built : Program.ofList instructions = .ok program) (start : State) {limit : Nat}
    (enough : instructions.length < limit) :
    run limit program start =
      some (close (.ok { instructions := instructions.length }
        ⟨start.machine.after instructions, start.streams⟩)) := by
  obtain ⟨passed, lengthEq, path⟩ := exists_path_of_elementary elementary built start le_rfl
  have sizeEq : program.size = instructions.length := by
    rw [← Program.toList_of_ofList built, Program.toList, Program.size, Array.length_toList]
  rw [List.take_length, ← sizeEq] at path
  refine run_eq_some_iff.mpr ⟨_, runFrom_eq_some_iff.mpr ⟨passed, _, path, by omega, ?_⟩, rfl⟩
  rw [step_end, sizeEq]
  rfl

theorem machine_stateAfter_close (statistics : Statistics) (state : State) :
    (stateAfter (close (.ok statistics state))).machine = state.machine := by
  obtain ⟨machine, streams⟩ := state
  rw [close, flush]
  cases Streams.flush streams <;> rfl

theorem machine_of_run_of_elementary
    (elementary : ∀ instruction ∈ instructions, instruction.isElementary = true)
    (built : Program.ofList instructions = .ok program) {start : State} {limit : Nat}
    {outcome : Outcome} (ended : run limit program start = some outcome) :
    (stateAfter outcome).machine = start.machine.after instructions := by
  have endedAlike := run_of_elementary elementary built start (Nat.lt_succ_self _)
  rw [eq_of_run ended endedAlike, machine_stateAfter_close]

/-- A run of moves and changes by one performs each of them once, with the pointer where the
moves so far have taken it, around the tape.  Behind the run the pointer has moved by all the
moves, and each cell has grown by the increments less the decrements that were performed
while the pointer was on it.  Other code does the same to the machine exactly if its net
moves are the same around the tape and its net changes of each cell modulo 256. -/
theorem run_net_effect
    (elementary : ∀ instruction ∈ instructions, instruction.isElementary = true) :
    ∃ program, Program.ofList instructions = .ok program ∧
      ∀ (length : Nat) (start : State), start.machine.tape.length = length →
        ∃ final : Machine,
          (∀ limit, instructions.length < limit →
            run limit program start =
              some (close (.ok { instructions := instructions.length }
                ⟨final, start.streams⟩))) ∧
          final.tape.length = length ∧
          (final.pointer : Int) = (start.machine.pointer + displacement instructions) % length ∧
          (∀ index < length, final.cell? index =
            grown (start.machine.netChangeOn index instructions) (start.machine.cell? index)) ∧
          (∀ place ≤ instructions.length, ∃ passed machine,
            passed.length = place ∧
            Path program { state := start } passed
              ⟨place, { instructions := place }, ⟨machine, start.streams⟩⟩ ∧
            (machine.pointer : Int) =
              (start.machine.pointer + displacement (instructions.take place)) % length) ∧
          ∀ other otherProgram, (∀ instruction ∈ other, instruction.isElementary = true) →
            Program.ofList other = .ok otherProgram →
              ∀ limit outcome, run limit otherProgram start = some outcome →
                ((stateAfter outcome).machine = final ↔
                  displacement other ≡ displacement instructions [ZMOD length] ∧
                  ∀ index < length, start.machine.netChangeOn index other ≡
                    start.machine.netChangeOn index instructions [ZMOD 256]) := by
  obtain ⟨block, blockEq⟩ := exists_block_of_elementary instructions elementary
  obtain ⟨program, built⟩ := Program.exists_ofList_eq_ok_iff.mpr ⟨block, blockEq⟩
  refine ⟨program, built, ?_⟩
  rintro length start rfl
  refine ⟨start.machine.after instructions, ?_, ?_, ?_, ?_, ?_, ?_⟩
  · intro limit enough
    exact run_of_elementary elementary built start enough
  · exact start.machine.length_after instructions
  · exact start.machine.pointer_after instructions
  · intro index inside
    exact Machine.cell?_after_eq_grown inside instructions
  · intro place reached
    obtain ⟨passed, lengthEq, path⟩ := exists_path_of_elementary elementary built start reached
    exact ⟨passed, _, lengthEq, path, start.machine.pointer_after _⟩
  · intro other otherProgram otherElementary otherBuilt limit outcome ended
    rw [machine_of_run_of_elementary otherElementary otherBuilt ended]
    exact Machine.after_eq_after_iff other instructions

/-- On a tape of two cells three moves to the right are one to the left, and a decrement
behind one move is made up for by an increment behind three. -/
theorem run_net_effect_around :
    ∃ (machine final : Machine) (program otherProgram : Program) (outcome : Outcome),
      machine.tape.cells = #[250, 255] ∧ machine.pointer = 1 ∧
      Program.ofList
        [.increment, .moveRight, .decrement, .moveRight, .moveRight, .increment] = .ok program ∧
      run 7 program ⟨machine, {}⟩ = some (close (.ok { instructions := 6 } ⟨final, {}⟩)) ∧
      final.pointer = 0 ∧ final.cell? 0 = some 250 ∧ final.cell? 1 = some 0 ∧
      Program.ofList [.increment, .moveLeft] = .ok otherProgram ∧
      run 3 otherProgram ⟨machine, {}⟩ = some outcome ∧
      (stateAfter outcome).machine = final := by
  let instructions : List Instruction :=
    [.increment, .moveRight, .decrement, .moveRight, .moveRight, .increment]
  let other : List Instruction := [.increment, .moveLeft]
  let machine : Machine := ⟨⟨#[250, 255], by decide⟩, 1, by decide⟩
  have otherElementary : ∀ instruction ∈ other, instruction.isElementary = true := by decide
  have sameMoves : displacement other ≡ displacement instructions [ZMOD (2 : Nat)] := by decide
  have sameChanges : ∀ index < 2, machine.netChangeOn index other ≡
      machine.netChangeOn index instructions [ZMOD 256] := by decide
  obtain ⟨program, built, ends⟩ := @run_net_effect instructions (by decide)
  obtain ⟨final, runs, -, pointerEq, cells, -, alike⟩ := ends 2 ⟨machine, {}⟩ rfl
  obtain ⟨otherProgram, otherBuilt, otherEnds⟩ := @run_net_effect other otherElementary
  obtain ⟨_, otherRuns, -⟩ := otherEnds 2 ⟨machine, {}⟩ rfl
  have otherRun := otherRuns 3 (by decide)
  have sameMachine := (alike other otherProgram otherElementary otherBuilt 3 _ otherRun).mpr
    ⟨sameMoves, sameChanges⟩
  have first := cells 0 (by decide)
  have second := cells 1 (by decide)
  exact ⟨machine, final, program, otherProgram, _, rfl, rfl, built, runs 7 (by decide),
    Int.ofNat_inj.mp (pointerEq.trans (by decide)), first.trans (by decide),
    second.trans (by decide), otherBuilt, otherRun, sameMachine⟩

end Execution

end Brainfuck
