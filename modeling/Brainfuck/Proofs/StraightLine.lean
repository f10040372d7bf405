import Brainfuck.Proofs.Lockstep
import Mathlib.Algebra.Order.Ring.Int
import Mathlib.Data.Int.ModEq
import Mathlib.Tactic.Ring

/-!
# Straight-line code

Moves and changes of cells by one, without loops, have a closed form.  The pointer has moved
by the moves to the right less those to the left, around the tape; and every cell has grown
by the increments less the decrements that were performed with the pointer on it, modulo 256.

The pointer goes around the tape, so cells are told apart by their offsets from where it
began, and offsets count modulo the length of the tape.
-/

namespace Brainfuck

namespace Instruction

/-! ## Net effects -/

/-- Whether the instruction moves the pointer, or changes the current cell, by one. -/
def isElementary : Instruction → Bool
  | moveLeft | moveRight | increment | decrement => true
  | _ => false

theorem isBracket_of_isElementary {instruction : Instruction}
    (elementary : instruction.isElementary = true) : instruction.isBracket = false := by
  cases instruction <;> first | rfl | cases elementary

/-- The moves to the right less those to the left. -/
def displacement (instructions : List Instruction) : Int :=
  instructions.count moveRight - instructions.count moveLeft

/-- How often an instruction is performed, on a tape of a length, with the pointer at an
offset from where it began. -/
def performedAt (instruction : Instruction) (length : Nat) (offset : Int)
    (instructions : List Instruction) : Nat :=
  (List.range instructions.length).countP fun index =>
    instructions[index]? = some instruction ∧
      (length : Int) ∣ displacement (instructions.take index) - offset

/-- The increments less the decrements of the cell at an offset. -/
def netChange (length : Nat) (offset : Int) (instructions : List Instruction) : Int :=
  performedAt increment length offset instructions -
    performedAt decrement length offset instructions

theorem displacement_cons (instruction : Instruction) (rest : List Instruction) :
    displacement (instruction :: rest) = displacement [instruction] + displacement rest := by
  simp only [displacement, List.count_cons, List.count_nil]
  push_cast
  ring

/-- Behind its first instruction, code is performed with the pointer moved on. -/
theorem performedAt_cons (instruction : Instruction) (length : Nat) (offset : Int)
    (first : Instruction) (rest : List Instruction) :
    performedAt instruction length offset (first :: rest) =
      performedAt instruction length offset [first] +
        performedAt instruction length (offset - displacement [first]) rest := by
  have onRest (index : Nat) :
      displacement ((first :: rest).take (index + 1)) - offset =
        displacement (rest.take index) - (offset - displacement [first]) := by
    rw [List.take_succ_cons, displacement_cons]
    ring
  simp only [performedAt, List.length_cons, List.range_succ_eq_map, List.countP_cons,
    List.countP_map, List.getElem?_cons_zero, List.take_zero, List.length_nil, List.range_zero,
    List.map_nil, List.countP_nil]
  rw [Nat.add_comm, Nat.zero_add]
  congr 2
  funext index
  simp only [Function.comp_apply, List.getElem?_cons_succ, onRest]

@[simp]
theorem netChange_nil (length : Nat) (offset : Int) : netChange length offset [] = 0 :=
  rfl

theorem netChange_cons (length : Nat) (offset : Int) (first : Instruction)
    (rest : List Instruction) :
    netChange length offset (first :: rest) =
      netChange length offset [first] + netChange length (offset - displacement [first]) rest := by
  simp only [netChange, performedAt_cons _ length offset first rest]
  push_cast
  ring

theorem netChange_singleton (length : Nat) (offset : Int) (instruction : Instruction) :
    netChange length offset [instruction] =
      if (length : Int) ∣ offset then
        (if instruction = increment then 1 else 0) - (if instruction = decrement then 1 else 0)
      else 0 := by
  simp only [netChange, performedAt, List.length_singleton, List.range_one, List.countP_singleton,
    List.getElem?_cons_zero, List.take_zero, displacement, List.count_nil, Int.ofNat_zero,
    sub_zero, zero_sub, Int.dvd_neg, Option.some.injEq, Bool.decide_and, Bool.and_eq_true,
    decide_eq_true_eq]
  by_cases here : (length : Int) ∣ offset
  · simp [here]
  · simp [here]

/-- Offsets count modulo the length of the tape. -/
theorem netChange_congr {length : Nat} {offset other : Int}
    (same : offset ≡ other [ZMOD length]) (instructions : List Instruction) :
    netChange length offset instructions = netChange length other instructions := by
  have sameCount (instruction : Instruction) :
      performedAt instruction length offset instructions =
        performedAt instruction length other instructions := by
    unfold performedAt
    congr 1
    funext index
    have shifted := same.sub_left (displacement (instructions.take index))
    exact decide_eq_decide.mpr (and_congr_right fun _ => shifted.dvd_iff)
  rw [netChange, netChange, sameCount, sameCount]

end Instruction

/-! ## Cells that grow -/

/-- A cell that has grown by an amount, modulo 256. -/
def grown (amount : Int) (cell : Option UInt8) : Option UInt8 :=
  cell.map (· + UInt8.ofInt amount)

@[simp]
theorem grown_zero (cell : Option UInt8) : grown 0 cell = cell := by
  cases cell with
  | none => rfl
  | some value => exact congrArg some (UInt8.add_zero value)

@[simp]
theorem grown_grown (first further : Int) (cell : Option UInt8) :
    grown further (grown first cell) = grown (first + further) cell := by
  cases cell with
  | none => rfl
  | some value =>
      simp only [grown, Option.map_some, UInt8.ofInt_add, UInt8.add_assoc]

theorem ofInt_eq_ofInt_iff {first second : Int} :
    UInt8.ofInt first = UInt8.ofInt second ↔ first ≡ second [ZMOD 256] := by
  have firstSmall := Int.emod_lt_of_pos first (show (0 : Int) < 256 by decide)
  have secondSmall := Int.emod_lt_of_pos second (show (0 : Int) < 256 by decide)
  rw [UInt8.ofInt, UInt8.ofInt, UInt8.ofNat_eq_iff_mod_eq_toNat, UInt8.toNat_ofNat', Int.ModEq]
  omega

/-- A cell grows alike by amounts that are the same modulo 256. -/
theorem grown_some_eq_iff {first second : Int} {value : UInt8} :
    grown first (some value) = grown second (some value) ↔ first ≡ second [ZMOD 256] := by
  rw [← ofInt_eq_ofInt_iff]
  constructor
  · intro same
    exact (UInt8.add_right_inj value).mp (Option.some.inj same)
  · intro same
    rw [grown, same]
    rfl

/-! ## Effects on machines -/

/-- What an elementary instruction does to a machine. -/
def Instruction.effect : Instruction → Machine → Machine
  | moveLeft => Machine.moveLeft
  | moveRight => Machine.moveRight
  | increment => Machine.increment
  | decrement => Machine.decrement
  | _ => id

namespace Machine

open Instruction

/-- What elementary instructions do to a machine, one after the other. -/
def after (machine : Machine) (instructions : List Instruction) : Machine :=
  instructions.foldl (fun reached instruction => instruction.effect reached) machine

@[simp]
theorem after_nil (machine : Machine) : machine.after [] = machine :=
  rfl

@[simp]
theorem after_cons (machine : Machine) (instruction : Instruction) (rest : List Instruction) :
    machine.after (instruction :: rest) = (instruction.effect machine).after rest :=
  rfl

theorem after_append (machine : Machine) (front behind : List Instruction) :
    machine.after (front ++ behind) = (machine.after front).after behind :=
  List.foldl_append

@[simp]
theorem length_effect (instruction : Instruction) (machine : Machine) :
    (instruction.effect machine).tape.length = machine.tape.length := by
  cases instruction <;> first | rfl | exact Tape.length_set ..

theorem pointer_effect (instruction : Instruction) (machine : Machine) :
    ((instruction.effect machine).pointer : Int) ≡
      machine.pointer + displacement [instruction] [ZMOD machine.tape.length] := by
  cases instruction with
  | moveRight =>
      rw [effect, pointer_moveRight]
      push_cast
      exact Int.mod_modEq _ _
  | moveLeft =>
      have lastEq : (machine.tape.last : Int) = machine.tape.length - 1 := by
        have := machine.tape.length_pos
        rw [Tape.last]
        omega
      rw [effect, pointer_moveLeft]
      push_cast
      refine (Int.mod_modEq _ _).trans ?_
      rw [lastEq]
      exact Int.modEq_iff_dvd.mpr ⟨-1, by simp [displacement]; ring⟩
  | _ => rfl

theorem dvd_offset_iff {machine : Machine} {index : Nat} (inside : index < machine.tape.length) :
    (machine.tape.length : Int) ∣ index - machine.pointer ↔ index = machine.pointer := by
  have pointerInside := machine.pointer_lt
  constructor
  · intro here
    have congruent : machine.pointer ≡ index [MOD machine.tape.length] :=
      Nat.modEq_iff_dvd.mpr here
    exact (congruent.eq_of_lt_of_lt pointerInside inside).symm
  · rintro rfl
    simp

theorem cell?_effect (instruction : Instruction) {machine : Machine} {index : Nat}
    (inside : index < machine.tape.length) :
    (instruction.effect machine).cell? index =
      grown (netChange machine.tape.length (index - machine.pointer) [instruction])
        (machine.cell? index) := by
  rw [netChange_singleton]
  simp only [dvd_offset_iff inside]
  by_cases here : index = machine.pointer
  · subst here
    cases instruction with
    | increment => simp [effect, increment, cell?_setCurrent, grown]
    | decrement => simp [effect, decrement, cell?_setCurrent, grown, UInt8.sub_eq_add_neg]
    | _ => simp [effect]
  · cases instruction <;> simp [effect, increment, decrement, cell?_setCurrent, here]

@[simp]
theorem length_after (machine : Machine) (instructions : List Instruction) :
    (machine.after instructions).tape.length = machine.tape.length := by
  induction instructions generalizing machine with
  | nil => rfl
  | cons instruction rest ih => rw [after_cons, ih, length_effect]

theorem pointer_after_modEq (machine : Machine) (instructions : List Instruction) :
    ((machine.after instructions).pointer : Int) ≡
      machine.pointer + displacement instructions [ZMOD machine.tape.length] := by
  induction instructions generalizing machine with
  | nil => simp [displacement]
  | cons instruction rest ih =>
      have behind := ih (instruction.effect machine)
      rw [length_effect] at behind
      rw [after_cons, displacement_cons, ← add_assoc]
      exact behind.trans ((pointer_effect instruction machine).add_right _)

/-- The pointer has moved by the displacement of the code, around the tape. -/
theorem pointer_after (machine : Machine) (instructions : List Instruction) :
    ((machine.after instructions).pointer : Int) =
      (machine.pointer + displacement instructions) % machine.tape.length := by
  have inside := (machine.after instructions).pointer_lt
  rw [length_after] at inside
  rw [← machine.pointer_after_modEq instructions]
  exact (Int.emod_eq_of_lt (by omega) (by omega)).symm

/-- Every cell has grown by the net change at its offset. -/
theorem cell?_after (instructions : List Instruction) {machine : Machine} {index : Nat}
    (inside : index < machine.tape.length) :
    (machine.after instructions).cell? index =
      grown (netChange machine.tape.length (index - machine.pointer) instructions)
        (machine.cell? index) := by
  induction instructions generalizing machine with
  | nil => simp
  | cons instruction rest ih =>
      have stillInside : index < (instruction.effect machine).tape.length := by
        rwa [length_effect]
      have moved : (index : Int) - (instruction.effect machine).pointer ≡
          index - machine.pointer - displacement [instruction] [ZMOD machine.tape.length] := by
        rw [sub_sub]
        exact (pointer_effect instruction machine).sub_left index
      rw [after_cons, ih stillInside, cell?_effect instruction inside, length_effect,
        netChange_congr moved, netChange_cons _ _ instruction rest, grown_grown]

end Machine

namespace Execution

theorem perform_of_isElementary {instruction : Instruction}
    (elementary : instruction.isElementary = true) (machine : Machine) (streams : Streams) :
    perform instruction ⟨machine, streams⟩ =
      .ok .nothing ⟨instruction.effect machine, streams⟩ := by
  cases instruction <;> first | rfl | cases elementary

theorem exists_block_of_elementary (instructions : List Instruction)
    (elementary : ∀ instruction ∈ instructions, instruction.isElementary = true) :
    ∃ block : Block, block.toList = instructions := by
  induction instructions with
  | nil => exact ⟨.done, rfl⟩
  | cons instruction rest ih =>
      obtain ⟨block, blockEq⟩ :=
        ih fun next member => elementary next (List.mem_cons_of_mem _ member)
      have isPlain :=
        Instruction.isBracket_of_isElementary (elementary instruction List.mem_cons_self)
      exact ⟨.plain instruction isPlain block, by rw [Block.toList, blockEq]⟩

end Execution

end Brainfuck
