import Brainfuck.Proofs.Lockstep

/-!
# Footprints of runs

A run depends on no cells but those that its pointer comes to, and it changes no
others.  Which cells these are is known only from the run itself.
-/

namespace Brainfuck

namespace Execution

/-- The pointer of a run comes to a position, at its start or later. -/
def Visits (program : Program) (start : State) (position : Nat) : Prop :=
  ∃ passed moment, Path program { state := start } passed moment ∧
    moment.state.machine.pointer = position

/-- Two machines with the same pointer agree on the cells at some positions.  At
all other positions they have the cells of two further machines. -/
structure AgreeOn (visited : Nat → Prop) (original otherOriginal first second : Machine) :
    Prop where
  length_eq : second.tape.length = first.tape.length
  pointer_eq : second.pointer = first.pointer
  cell?_eq : ∀ position, visited position → second.cell? position = first.cell? position
  kept : ∀ position, ¬ visited position → first.cell? position = original.cell? position
  otherKept : ∀ position, ¬ visited position →
    second.cell? position = otherOriginal.cell? position

namespace AgreeOn

variable {visited : Nat → Prop} {original otherOriginal first second : Machine}

theorem current_eq (agree : AgreeOn visited original otherOriginal first second)
    (here : visited first.pointer) : second.current = first.current := by
  apply Machine.current_eq_of_cell?
  rw [agree.pointer_eq, agree.cell?_eq first.pointer here]

theorem setCurrent (agree : AgreeOn visited original otherOriginal first second)
    (here : visited first.pointer) (value : UInt8) :
    AgreeOn visited original otherOriginal (first.setCurrent value) (second.setCurrent value) where
  length_eq := by simpa using agree.length_eq
  pointer_eq := agree.pointer_eq
  cell?_eq := by
    intro position inside
    rw [Machine.cell?_setCurrent, Machine.cell?_setCurrent, agree.pointer_eq,
      agree.cell?_eq position inside]
  kept := by
    intro position outside
    have apart : position ≠ first.pointer := fun same => outside (same ▸ here)
    rw [Machine.cell?_setCurrent, if_neg apart, agree.kept position outside]
  otherKept := by
    intro position outside
    have apart : position ≠ second.pointer := by
      rw [agree.pointer_eq]
      exact fun same => outside (same ▸ here)
    rw [Machine.cell?_setCurrent, if_neg apart, agree.otherKept position outside]

theorem moveLeft (agree : AgreeOn visited original otherOriginal first second) :
    AgreeOn visited original otherOriginal first.moveLeft second.moveLeft where
  length_eq := agree.length_eq
  pointer_eq := by
    rw [Machine.pointer_moveLeft, Machine.pointer_moveLeft, Tape.last, Tape.last,
      agree.length_eq, agree.pointer_eq]
  cell?_eq := agree.cell?_eq
  kept := agree.kept
  otherKept := agree.otherKept

theorem moveRight (agree : AgreeOn visited original otherOriginal first second) :
    AgreeOn visited original otherOriginal first.moveRight second.moveRight where
  length_eq := agree.length_eq
  pointer_eq := by
    rw [Machine.pointer_moveRight, Machine.pointer_moveRight, agree.length_eq, agree.pointer_eq]
  cell?_eq := agree.cell?_eq
  kept := agree.kept
  otherKept := agree.otherKept

end AgreeOn

/-- Moves may lead anywhere; what matters is where an instruction is performed. -/
theorem simulation_agreeOn (visited : Nat → Prop) (original otherOriginal : Machine) :
    Simulation (fun machine _ => visited machine.pointer)
      (AgreeOn visited original otherOriginal) where
  current_eq := fun agree here => agree.current_eq here
  setCurrent := fun agree here => agree.setCurrent here
  moveLeft := fun agree _ => agree.moveLeft
  moveRight := fun agree _ => agree.moveRight

theorem throughout_visits (program : Program) (start : State) :
    Throughout program { state := start } fun state _ =>
      Visits program start state.machine.pointer :=
  fun passed moment path _ _ => ⟨passed, moment, path, rfl⟩

/-- Cells that a run does not visit neither influence it nor are changed by it: on
a machine that has the same cells at the visited positions it reaches the same
outcomes, and both runs leave all other cells as they were. -/
theorem run_of_agree {program : Program} {machine other : Machine} {streams : Streams}
    (sameLength : other.tape.length = machine.tape.length)
    (samePointer : other.pointer = machine.pointer)
    (agree : ∀ position, Visits program ⟨machine, streams⟩ position →
      other.cell? position = machine.cell? position)
    (limit : Nat) :
    Option.Rel (Corresponds (Connected (AgreeOn (Visits program ⟨machine, streams⟩) machine other)))
      (run limit program ⟨machine, streams⟩) (run limit program ⟨other, streams⟩) :=
  (simulation_agreeOn _ machine other).run
    ⟨sameLength, samePointer, agree, fun _ _ => rfl, fun _ _ => rfl⟩
    (throughout_visits program ⟨machine, streams⟩) limit

theorem run_of_agree_failing :
    ∃ (machine other : Machine) (streams : Streams) (program : Program),
      machine.tape.cells = #[1, 2, 3] ∧ other.tape.cells = #[1, 2, 9] ∧
      streams.input = [.failure .brokenPipe] ∧
      Program.ofList [.moveRight, .increment, .input] = .ok program ∧
      other.tape.length = machine.tape.length ∧ other.pointer = machine.pointer ∧
      (∀ position, Visits program ⟨machine, streams⟩ position →
        other.cell? position = machine.cell? position) ∧
      (run 3 program ⟨machine, streams⟩).isSome ∧
      Option.Rel (Corresponds
          (Connected (AgreeOn (Visits program ⟨machine, streams⟩) machine other)))
        (run 3 program ⟨machine, streams⟩) (run 3 program ⟨other, streams⟩) := by
  let machine : Machine := ⟨⟨#[1, 2, 3], by decide⟩, 0, by decide⟩
  let other : Machine := ⟨⟨#[1, 2, 9], by decide⟩, 0, by decide⟩
  let streams : Streams := { input := [.failure .brokenPipe] }
  let program : Program := ⟨#[.moveRight, .increment, .input], #[0, 0, 0], rfl⟩
  have sameLength : other.tape.length = machine.tape.length := rfl
  have samePointer : other.pointer = machine.pointer := rfl
  have sameHere : Always program { state := ⟨machine, streams⟩ } fun moment =>
      other.cell? moment.state.machine.pointer = machine.cell? moment.state.machine.pointer :=
    always_of_running rfl rfl (always_of_running rfl rfl (always_of_outcome? rfl rfl))
  have agree : ∀ position, Visits program ⟨machine, streams⟩ position →
      other.cell? position = machine.cell? position := by
    rintro position ⟨passed, moment, path, rfl⟩
    exact sameHere passed moment path
  have ended : (run 3 program ⟨machine, streams⟩).isSome := by decide
  exact ⟨machine, other, streams, program, rfl, rfl, rfl, rfl, sameLength, samePointer, agree,
    ended, run_of_agree sameLength samePointer agree 3⟩

end Execution

end Brainfuck
