import Brainfuck.Proofs.Lockstep

/-!
# Longer tapes

The length of a tape shows only where a run goes around one of its ends.  A run
that never does so is the same on a longer tape that begins with the same cells,
and the cells behind them are left alone.
-/

namespace Brainfuck

theorem Machine.pointer_moveLeft_of_ne_zero {machine : Machine} (notFirst : machine.pointer ≠ 0) :
    machine.moveLeft.pointer = machine.pointer - 1 :=
  if_neg notFirst

theorem Machine.pointer_moveRight_of_ne_last {machine : Machine}
    (notLast : machine.pointer ≠ machine.tape.last) :
    machine.moveRight.pointer = machine.pointer + 1 :=
  if_neg notLast

namespace Execution

/-- An instruction that does not take the pointer around an end of the tape. -/
def StaysInside (machine : Machine) (instruction : Instruction) : Prop :=
  (instruction = .moveLeft → machine.pointer ≠ 0) ∧
    (instruction = .moveRight → machine.pointer ≠ machine.tape.last)

/-- The second machine has the pointer of the first one and, up to a length, the
same cells.  From there on it has the cells of a third one. -/
structure Extended (length : Nat) (original first second : Machine) : Prop where
  length_eq : first.tape.length = length
  pointer_eq : second.pointer = first.pointer
  cell?_eq : ∀ index < length, second.cell? index = first.cell? index
  kept : ∀ index, length ≤ index → second.cell? index = original.cell? index

namespace Extended

variable {length : Nat} {original first second : Machine}

theorem pointer_lt (extended : Extended length original first second) : first.pointer < length := by
  have inside := first.pointer_lt
  rwa [extended.length_eq] at inside

theorem lt_length (extended : Extended length original first second) {index : Nat}
    (inside : index < length) : index < second.tape.length := by
  rw [← extended.length_eq] at inside
  obtain ⟨value, found⟩ := Machine.exists_cell? inside
  rw [extended.length_eq] at inside
  exact Machine.lt_length_of_cell? ((extended.cell?_eq index inside).trans found)

theorem current_eq (extended : Extended length original first second) :
    second.current = first.current := by
  apply Machine.current_eq_of_cell?
  rw [extended.pointer_eq, extended.cell?_eq first.pointer extended.pointer_lt]

theorem setCurrent (extended : Extended length original first second) (value : UInt8) :
    Extended length original (first.setCurrent value) (second.setCurrent value) where
  length_eq := by simpa using extended.length_eq
  pointer_eq := extended.pointer_eq
  cell?_eq := by
    intro index inside
    rw [Machine.cell?_setCurrent, Machine.cell?_setCurrent, extended.pointer_eq,
      extended.cell?_eq index inside]
  kept := by
    intro index behind
    have apart : index ≠ second.pointer := by
      have := extended.pointer_lt
      have := extended.pointer_eq
      omega
    rw [Machine.cell?_setCurrent, if_neg apart, extended.kept index behind]

theorem moveLeft (extended : Extended length original first second)
    (stays : StaysInside first .moveLeft) :
    Extended length original first.moveLeft second.moveLeft where
  length_eq := extended.length_eq
  pointer_eq := by
    have notFirst := stays.1 rfl
    have notFirstThere : second.pointer ≠ 0 := by rwa [extended.pointer_eq]
    rw [Machine.pointer_moveLeft_of_ne_zero notFirst,
      Machine.pointer_moveLeft_of_ne_zero notFirstThere, extended.pointer_eq]
  cell?_eq := extended.cell?_eq
  kept := extended.kept

theorem moveRight (extended : Extended length original first second)
    (stays : StaysInside first .moveRight) :
    Extended length original first.moveRight second.moveRight where
  length_eq := extended.length_eq
  pointer_eq := by
    have notLast := stays.2 rfl
    -- the longer tape goes on at least as far as the shorter one
    have room : first.pointer + 1 < second.tape.length := by
      apply extended.lt_length
      have := extended.pointer_lt
      have := extended.length_eq
      rw [Tape.last] at notLast
      omega
    have notLastThere : second.pointer ≠ second.tape.last := by
      rw [extended.pointer_eq, Tape.last]
      omega
    rw [Machine.pointer_moveRight_of_ne_last (stays.2 rfl),
      Machine.pointer_moveRight_of_ne_last notLastThere, extended.pointer_eq]
  cell?_eq := extended.cell?_eq
  kept := extended.kept

end Extended

theorem simulation_extended (length : Nat) (original : Machine) :
    Simulation StaysInside (Extended length original) where
  current_eq := fun extended _ => extended.current_eq
  setCurrent := fun extended _ => extended.setCurrent
  moveLeft := fun extended stays => extended.moveLeft stays
  moveRight := fun extended stays => extended.moveRight stays

/-- A run that never goes around an end of its tape reaches the same outcomes on a
longer tape that begins with the same cells. -/
theorem run_of_longer {program : Program} {machine longer : Machine} {streams : Streams}
    (stays : Throughout program { state := ⟨machine, streams⟩ } fun state =>
      StaysInside state.machine)
    (samePointer : longer.pointer = machine.pointer)
    (sameCells : ∀ index < machine.tape.length, longer.cell? index = machine.cell? index)
    (limit : Nat) :
    Option.Rel (Corresponds (Connected (Extended machine.tape.length longer)))
      (run limit program ⟨machine, streams⟩) (run limit program ⟨longer, streams⟩) :=
  (simulation_extended machine.tape.length longer).run
    ⟨rfl, samePointer, sameCells, fun _ _ => rfl⟩ stays limit

theorem run_of_longer_resting :
    ∃ (machine longer : Machine) (program : Program),
      machine.tape.cells = #[0, 5] ∧ machine.pointer = 0 ∧
      longer.tape.cells = #[0, 5, 7] ∧ longer.pointer = 0 ∧
      Program.ofList [.moveRight, .output] = .ok program ∧
      (Throughout program { state := ⟨machine, {}⟩ } fun state => StaysInside state.machine) ∧
      (run 3 program ⟨machine, {}⟩).isSome ∧
      Option.Rel (Corresponds (Connected (Extended 2 longer)))
        (run 3 program ⟨machine, {}⟩) (run 3 program ⟨longer, {}⟩) := by
  let machine : Machine := ⟨⟨#[0, 5], by decide⟩, 0, by decide⟩
  let longer : Machine := ⟨⟨#[0, 5, 7], by decide⟩, 0, by decide⟩
  let program : Program := ⟨#[.moveRight, .output], #[0, 0], rfl⟩
  have stays : Throughout program { state := ⟨machine, {}⟩ } fun state =>
      StaysInside state.machine := by
    refine always_of_running ?_ rfl (always_of_running ?_ rfl (always_of_outcome? ?_ rfl))
    · rintro instruction ⟨⟩
      exact ⟨by decide, by decide⟩
    · rintro instruction ⟨⟩
      exact ⟨by decide, by decide⟩
    · rintro instruction ⟨⟩
  have ended : (run 3 program ⟨machine, {}⟩).isSome := by decide
  have samePointer : longer.pointer = machine.pointer := rfl
  have sameCells : ∀ index < machine.tape.length, longer.cell? index = machine.cell? index := by
    decide
  exact ⟨machine, longer, program, rfl, rfl, rfl, rfl, rfl, stays, ended,
    run_of_longer stays samePointer sameCells 3⟩

end Execution

end Brainfuck
