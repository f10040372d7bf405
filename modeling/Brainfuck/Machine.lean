import Brainfuck.Tape

/-!
# Machines

A machine is a tape with a pointer to its current cell.  Moving past either
end of the tape wraps around, and so does arithmetic past either end of a byte.
-/

namespace Brainfuck

/-- A tape with a pointer to one of its cells. -/
@[ext]
structure Machine where
  tape : Tape
  pointer : Nat
  pointer_lt : pointer < tape.length
  deriving DecidableEq

namespace Machine

/-- A machine on a fresh tape, with the pointer on the first cell. -/
def fresh (length : TapeLength) : Machine where
  tape := Tape.zeroed length
  pointer := 0
  pointer_lt := Tape.length_pos _

def current (machine : Machine) : UInt8 :=
  machine.tape.get machine.pointer machine.pointer_lt

def setCurrent (machine : Machine) (value : UInt8) : Machine :=
  match machine with
  | ⟨tape, pointer, inside⟩ => ⟨tape.set pointer inside value, pointer, by simpa using inside⟩

@[simp]
theorem pointer_setCurrent (machine : Machine) (value : UInt8) :
    (machine.setCurrent value).pointer = machine.pointer :=
  rfl

@[simp]
theorem tape_setCurrent (machine : Machine) (value : UInt8) :
    (machine.setCurrent value).tape =
      machine.tape.set machine.pointer machine.pointer_lt value :=
  rfl

@[simp]
theorem current_setCurrent (machine : Machine) (value : UInt8) :
    (machine.setCurrent value).current = value := by
  simp [current, Tape.get, Tape.set]

/-- Whether a loop on the current cell runs its body. -/
def isNonzero (machine : Machine) : Bool :=
  machine.current != 0

theorem isNonzero_eq_true_iff {machine : Machine} :
    machine.isNonzero = true ↔ machine.current ≠ 0 :=
  bne_iff_ne

theorem isNonzero_eq_false_iff {machine : Machine} :
    machine.isNonzero = false ↔ machine.current = 0 :=
  bne_eq_false_iff_eq

def increment (machine : Machine) : Machine :=
  machine.setCurrent (machine.current + 1)

def decrement (machine : Machine) : Machine :=
  machine.setCurrent (machine.current - 1)

def moveRight (machine : Machine) : Machine where
  tape := machine.tape
  pointer := if machine.pointer = machine.tape.last then 0 else machine.pointer + 1
  pointer_lt := by
    have := machine.pointer_lt
    have := machine.tape.length_pos
    have : machine.tape.last = machine.tape.length - 1 := rfl
    split <;> omega

@[simp]
theorem tape_moveRight (machine : Machine) : machine.moveRight.tape = machine.tape :=
  rfl

/-- Moving right is adding one modulo the length of the tape. -/
theorem pointer_moveRight (machine : Machine) :
    machine.moveRight.pointer = (machine.pointer + 1) % machine.tape.length := by
  have inside := machine.pointer_lt
  have lastEq : machine.tape.last = machine.tape.length - 1 := rfl
  simp only [moveRight]
  by_cases atLast : machine.pointer = machine.tape.last
  · have wrapped : machine.pointer + 1 = machine.tape.length := by omega
    rw [if_pos atLast, wrapped, Nat.mod_self]
  · rw [if_neg atLast, Nat.mod_eq_of_lt (by omega)]

def moveLeft (machine : Machine) : Machine where
  tape := machine.tape
  pointer := if machine.pointer = 0 then machine.tape.last else machine.pointer - 1
  pointer_lt := by
    have := machine.pointer_lt
    have := machine.tape.last_lt_length
    split <;> omega

@[simp]
theorem tape_moveLeft (machine : Machine) : machine.moveLeft.tape = machine.tape :=
  rfl

/-- Moving left is adding the index of the last cell modulo the length of the
tape. -/
theorem pointer_moveLeft (machine : Machine) :
    machine.moveLeft.pointer =
      (machine.pointer + machine.tape.last) % machine.tape.length := by
  have inside := machine.pointer_lt
  have lastInside := machine.tape.last_lt_length
  have lastEq : machine.tape.last = machine.tape.length - 1 := rfl
  simp only [moveLeft]
  by_cases atFirst : machine.pointer = 0
  · rw [if_pos atFirst, atFirst, Nat.zero_add, Nat.mod_eq_of_lt lastInside]
  · have around :
        machine.pointer + machine.tape.last =
          machine.pointer - 1 + machine.tape.length := by omega
    rw [if_neg atFirst, around, Nat.add_mod_right, Nat.mod_eq_of_lt (by omega)]

/-- The length of the tape, for a fresh machine of the same size. -/
def tapeLength (machine : Machine) : TapeLength where
  count := machine.tape.length
  count_pos := machine.tape.length_pos

end Machine

end Brainfuck
