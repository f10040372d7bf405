import Brainfuck.Program
import Brainfuck.Proofs.Block

/-!
# Jump tables

The jump table of a program is filled by a pass over its brackets: it exists
exactly if the instructions have a block, and wherever a loop stands in the
program, the entries at its two ends are the indices of each other.
-/

namespace Brainfuck

open Instruction

def ProgramError.ofFault : Fault Nat → ProgramError
  | .unmatched index => .unmatchedLoopEnd index
  | .unclosed index => .unclosedLoopStart index

namespace Program

theorem map_fillJumps (index : Nat) (openings : List Nat) (jumps : Array Nat)
    (instructions : List Instruction) :
    (fillJumps index openings jumps instructions).map (fun _ => ()) =
      Brackets.verdict ProgramError.ofFault
        (Brackets.check openings (indexed index instructions)) := by
  induction instructions generalizing index openings jumps with
  | nil => cases openings <;> rfl
  | cons instruction rest ih =>
      cases instruction with
      | loopStart => exact ih (index + 1) (index :: openings) jumps
      | loopEnd =>
          cases openings with
          | nil => rfl
          | cons opening outer => exact ih (index + 1) outer _
      | _ => exact ih (index + 1) openings jumps

theorem map_ofList (instructions : List Instruction) :
    (ofList instructions).map (fun _ => ()) =
      Brackets.verdict ProgramError.ofFault (Brackets.check [] (indexed 0 instructions)) := by
  have checked := map_fillJumps 0 [] (Array.replicate instructions.length 0) instructions
  rw [← jumpTable] at checked
  unfold ofList
  split
  · next jumps filled => exact (filled ▸ checked :)
  · next error failed => exact (failed ▸ checked :)

theorem exists_jumpTable_eq_ok_iff {instructions : List Instruction} :
    (∃ table, jumpTable instructions = .ok table) ↔
      ∃ block, Block.ofList? instructions = some block := by
  rw [← Block.check_indexed_eq_none_iff_ofList?]
  have checked := map_fillJumps 0 [] (Array.replicate instructions.length 0) instructions
  rw [← jumpTable] at checked
  cases found : Brackets.check [] (indexed 0 instructions) <;>
    cases filled : jumpTable instructions <;>
    simp [found, filled, Except.map, Brackets.verdict] at checked ⊢

/-! ## Building programs -/

theorem ofList_toList (program : Program) : ofList program.toList = .ok program := by
  obtain ⟨instructions, jumps, filled⟩ := program
  simp only [ofList, toList]
  split
  · next table tableFilled =>
      rw [filled] at tableFilled
      cases tableFilled
      rfl
  · next error failed =>
      rw [filled] at failed
      cases failed

theorem toList_of_ofList {instructions : List Instruction} {program : Program}
    (built : ofList instructions = .ok program) : program.toList = instructions := by
  unfold ofList at built
  split at built
  · cases built
    rfl
  · cases built

def block (program : Program) : Block :=
  (Block.ofList? program.toList).get (by
    rw [Option.isSome_iff_exists, ← exists_jumpTable_eq_ok_iff]
    exact ⟨program.jumps, program.jumpTable_eq⟩)

@[simp]
theorem toList_block (program : Program) : program.block.toList = program.toList := by
  rw [← Block.ofList?_eq_some_iff]
  exact (Option.some_get _).symm

theorem toList_block_of_ofList {instructions : List Instruction} {program : Program}
    (built : ofList instructions = .ok program) : program.block.toList = instructions := by
  rw [toList_block, toList_of_ofList built]

/-- The lists of instructions that make a program are the lists of blocks. -/
theorem exists_ofList_eq_ok_iff {instructions : List Instruction} :
    (∃ program, ofList instructions = .ok program) ↔
      ∃ block : Block, block.toList = instructions := by
  constructor
  · rintro ⟨program, built⟩
    exact ⟨program.block, toList_block_of_ofList built⟩
  · rintro ⟨block, rfl⟩
    obtain ⟨table, filled⟩ :=
      exists_jumpTable_eq_ok_iff.mpr ⟨block, Block.ofList?_eq_some_iff.mpr rfl⟩
    let program : Program := ⟨block.toList.toArray, table, filled⟩
    exact ⟨program, ofList_toList program⟩

/-! ## Entries of the table -/

/-- Later instructions change entries before them only at open loop starts. -/
theorem getElem?_of_fillJumps {index : Nat} {openings : List Nat} {jumps table : Array Nat}
    {instructions : List Instruction}
    (filled : fillJumps index openings jumps instructions = .ok table) {place : Nat}
    (before : place < index) (notOpen : place ∉ openings) :
    table[place]? = jumps[place]? := by
  induction instructions generalizing index openings jumps with
  | nil =>
      cases openings with
      | nil =>
          cases filled
          rfl
      | cons opening outer => cases filled
  | cons instruction rest ih =>
      cases instruction with
      | loopStart =>
          have notStart : place ∉ index :: openings := by
            simpa [notOpen] using Nat.ne_of_lt before
          exact ih filled (by omega) notStart
      | loopEnd =>
          cases openings with
          | nil => cases filled
          | cons opening outer =>
              obtain ⟨notOpening, notOuter⟩ : place ≠ opening ∧ place ∉ outer := by
                simpa using notOpen
              rw [ih filled (by omega) notOuter,
                Array.getElem?_setIfInBounds_ne (by omega),
                Array.getElem?_setIfInBounds_ne notOpening.symm]
      | _ => exact ih filled (by omega) notOpen

/-- Filling in the jumps of a block goes on behind it with the same open loop
starts. -/
theorem exists_fillJumps_append (block : Block) (index : Nat) (openings : List Nat)
    (jumps : Array Nat) :
    ∃ filled : Array Nat, filled.size = jumps.size ∧
      ∀ rest, fillJumps index openings jumps (block.toList ++ rest) =
        fillJumps (index + block.size) openings filled rest := by
  induction block generalizing index openings jumps with
  | done => exact ⟨jumps, rfl, fun rest => rfl⟩
  | plain instruction isPlain next ih =>
      obtain ⟨filled, sizeEq, goesOn⟩ := ih (index + 1) openings jumps
      refine ⟨filled, sizeEq, fun rest => ?_⟩
      rw [Block.add_size_plain, ← goesOn rest]
      cases instruction <;> first | rfl | contradiction
  | loop body next bodyIH nextIH =>
      obtain ⟨inside, insideSize, throughBody⟩ := bodyIH (index + 1) (index :: openings) jumps
      obtain ⟨filled, sizeEq, throughNext⟩ := nextIH (index + 1 + body.size + 1) openings
        ((inside.setIfInBounds index (index + 1 + body.size)).setIfInBounds
          (index + 1 + body.size) index)
      refine ⟨filled, by simpa [insideSize] using sizeEq, fun rest => ?_⟩
      have listEq : (Block.loop body next).toList ++ rest =
          .loopStart :: (body.toList ++ .loopEnd :: (next.toList ++ rest)) := by
        simp [Block.toList]
      rw [listEq, Block.add_size_loop, ← throughNext rest, fillJumps, throughBody, fillJumps]

/-- In front of any suffix all open loop starts stand before it. -/
theorem exists_fillJumps_of_append {index : Nat} (openings : List Nat) {jumps table : Array Nat}
    {before rest : List Instruction}
    (filled : fillJumps index openings jumps (before ++ rest) = .ok table)
    (openBefore : ∀ opening ∈ openings, opening < index) :
    ∃ (pending : List Nat) (entries : Array Nat), entries.size = jumps.size ∧
      (∀ opening ∈ pending, opening < index + before.length) ∧
      fillJumps (index + before.length) pending entries rest = .ok table := by
  induction before generalizing index openings jumps with
  | nil => exact ⟨openings, jumps, rfl, openBefore, filled⟩
  | cons instruction before ih =>
      have lengthEq : index + (instruction :: before).length = index + 1 + before.length := by
        simp only [List.length_cons]
        omega
      rw [lengthEq]
      have stillBefore : ∀ opening ∈ openings, opening < index + 1 :=
        fun opening member => Nat.lt_succ_of_lt (openBefore opening member)
      cases instruction with
      | loopStart =>
          exact ih (index :: openings) filled (by simpa using stillBefore)
      | loopEnd =>
          cases openings with
          | nil => cases filled
          | cons opening outer =>
              obtain ⟨pending, entries, sizeEq, restBefore, restFilled⟩ :=
                ih outer filled
                  (fun opening member => stillBefore opening (List.mem_cons_of_mem _ member))
              exact ⟨pending, entries, by simpa using sizeEq, restBefore, restFilled⟩
      | _ => exact ih openings filled stillBefore

theorem getElem?_jumps_of_loop {program : Program} {before after : List Instruction} {body : Block}
    (split : program.toList = before ++ .loopStart :: (body.toList ++ .loopEnd :: after)) :
    program.jumps[before.length]? = some (before.length + 1 + body.size) ∧
      program.jumps[before.length + 1 + body.size]? = some before.length := by
  have filled := program.jumpTable_eq
  rw [← toList, jumpTable, split] at filled
  obtain ⟨pending, entries, sizeEq, pendingBefore, filledRest⟩ :=
    exists_fillJumps_of_append [] filled (by simp)
  rw [Nat.zero_add] at filledRest pendingBefore
  obtain ⟨inside, insideSize, throughBody⟩ :=
    exists_fillJumps_append body (before.length + 1) (before.length :: pending) entries
  rw [fillJumps, throughBody, fillJumps] at filledRest
  have notPending : ∀ place, before.length ≤ place → place ∉ pending :=
    fun place behind member => Nat.not_lt.mpr behind (pendingBefore place member)
  have endInside : before.length + 1 + body.size < inside.size := by
    simp only [insideSize, sizeEq, Array.size_replicate, List.length_append, List.length_cons,
      Block.size]
    omega
  constructor
  · rw [getElem?_of_fillJumps filledRest (by omega) (notPending _ (by omega)),
      Array.getElem?_setIfInBounds_ne (by omega),
      Array.getElem?_setIfInBounds_self_of_lt (by omega)]
  · rw [getElem?_of_fillJumps filledRest (by omega) (notPending _ (by omega)),
      Array.getElem?_setIfInBounds_self_of_lt (by simpa using endInside)]

end Program

end Brainfuck
