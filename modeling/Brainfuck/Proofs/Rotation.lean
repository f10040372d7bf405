import Brainfuck.Proofs.Lockstep
import Mathlib.Data.Nat.ModEq

/-!
# Rotated tapes

No cell of a tape is distinguished.  A machine whose cells and pointer are moved
on around the tape behaves like the machine itself: what is a step around the end
of the tape for one of them may be a step between two cells for the other.
-/

namespace Brainfuck

namespace Execution

/-- The second machine is the first one with the pointer and all cells moved on by
an offset, around the tape. -/
structure Rotated (offset : Nat) (first second : Machine) : Prop where
  length_eq : second.tape.length = first.tape.length
  pointer_eq : second.pointer = (first.pointer + offset) % first.tape.length
  cell?_eq : ∀ index < first.tape.length,
    second.cell? ((index + offset) % first.tape.length) = first.cell? index

namespace Rotated

variable {offset : Nat} {first second : Machine}

theorem current_eq (rotated : Rotated offset first second) : second.current = first.current := by
  apply Machine.current_eq_of_cell?
  rw [rotated.pointer_eq, rotated.cell?_eq first.pointer first.pointer_lt]

/-- Rotation keeps cells apart. -/
theorem eq_pointer_iff (rotated : Rotated offset first second) {index : Nat}
    (inside : index < first.tape.length) :
    (index + offset) % first.tape.length = second.pointer ↔ index = first.pointer := by
  rw [rotated.pointer_eq]
  constructor
  · intro same
    have congruent : index ≡ first.pointer [MOD first.tape.length] :=
      Nat.ModEq.add_right_cancel' offset same
    exact Nat.ModEq.eq_of_lt_of_lt congruent inside first.pointer_lt
  · rintro rfl
    rfl

theorem setCurrent (rotated : Rotated offset first second) (value : UInt8) :
    Rotated offset (first.setCurrent value) (second.setCurrent value) where
  length_eq := by simpa using rotated.length_eq
  pointer_eq := by simpa using rotated.pointer_eq
  cell?_eq := by
    intro index inside
    have insideFirst : index < first.tape.length := by simpa using inside
    have lengthEq : (first.setCurrent value).tape.length = first.tape.length := Tape.length_set ..
    rw [lengthEq, Machine.cell?_setCurrent, Machine.cell?_setCurrent]
    simp only [rotated.eq_pointer_iff insideFirst, rotated.cell?_eq index insideFirst]

/-- Wherever an operation moves the pointer of a machine on, it moves the pointer
of the rotated machine on. -/
theorem pointer_add (rotated : Rotated offset first second) (distance : Nat) :
    (second.pointer + distance) % first.tape.length =
      ((first.pointer + distance) % first.tape.length + offset) % first.tape.length := by
  rw [rotated.pointer_eq, Nat.mod_add_mod, Nat.mod_add_mod, Nat.add_right_comm]

theorem moveRight (rotated : Rotated offset first second) :
    Rotated offset first.moveRight second.moveRight where
  length_eq := rotated.length_eq
  pointer_eq := by
    rw [Machine.pointer_moveRight, Machine.pointer_moveRight, Machine.tape_moveRight,
      rotated.length_eq]
    exact rotated.pointer_add 1
  cell?_eq := rotated.cell?_eq

theorem moveLeft (rotated : Rotated offset first second) :
    Rotated offset first.moveLeft second.moveLeft where
  length_eq := rotated.length_eq
  pointer_eq := by
    have lastEq : second.tape.last = first.tape.last := by
      rw [Tape.last, Tape.last, rotated.length_eq]
    rw [Machine.pointer_moveLeft, Machine.pointer_moveLeft, Machine.tape_moveLeft,
      rotated.length_eq, lastEq]
    exact rotated.pointer_add first.tape.last
  cell?_eq := rotated.cell?_eq

end Rotated

theorem simulation_rotated (offset : Nat) :
    Simulation (fun _ _ => True) (Rotated offset) where
  current_eq := fun rotated _ => rotated.current_eq
  setCurrent := fun rotated _ => rotated.setCurrent
  moveLeft := fun rotated _ => rotated.moveLeft
  moveRight := fun rotated _ => rotated.moveRight

/-- Running commutes with rotation: a rotated machine reaches the same outcomes,
with the same counters and streams, and its final machine is rotated alike. -/
theorem run_of_rotated {offset : Nat} {machine rotated : Machine}
    (moved : Rotated offset machine rotated) (program : Program) (streams : Streams)
    (limit : Nat) :
    Option.Rel (Corresponds (Connected (Rotated offset)))
      (run limit program ⟨machine, streams⟩) (run limit program ⟨rotated, streams⟩) :=
  (simulation_rotated offset).run moved (fun _ _ _ _ _ => trivial) limit

theorem run_of_rotated_around :
    ∃ (machine rotated : Machine) (program : Program),
      machine.tape.cells = #[1, 2, 3] ∧ machine.pointer = 2 ∧
      rotated.tape.cells = #[3, 1, 2] ∧ rotated.pointer = 0 ∧
      Program.ofList [.moveRight, .output, .loopStart, .decrement, .loopEnd] = .ok program ∧
      Rotated 1 machine rotated ∧ (run 6 program ⟨machine, {}⟩).isSome ∧
      Option.Rel (Corresponds (Connected (Rotated 1)))
        (run 6 program ⟨machine, {}⟩) (run 6 program ⟨rotated, {}⟩) := by
  let machine : Machine := ⟨⟨#[1, 2, 3], by decide⟩, 2, by decide⟩
  let rotated : Machine := ⟨⟨#[3, 1, 2], by decide⟩, 0, by decide⟩
  let program : Program :=
    ⟨#[.moveRight, .output, .loopStart, .decrement, .loopEnd], #[0, 0, 4, 0, 2], rfl⟩
  have moved : Rotated 1 machine rotated := ⟨rfl, by decide, by decide⟩
  have ended : (run 6 program ⟨machine, {}⟩).isSome := by decide
  exact ⟨machine, rotated, program, rfl, rfl, rfl, rfl, rfl, moved, ended,
    run_of_rotated moved program {} 6⟩

end Execution

end Brainfuck
