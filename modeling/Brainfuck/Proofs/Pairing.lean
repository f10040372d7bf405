import Brainfuck.Proofs.JumpTable
import Mathlib.Order.Bounds.Defs

/-!
# Pairs of brackets

The partners of the brackets of a program are determined by the brackets alone:
there is one way only to pair every loop start with a later loop end so that no
bracket is left out and no two pairs cross.  The jump table is that pairing.

The first part finds the loop of every bracket in the block of a program.  The
second part is about pairings of any origin.
-/

namespace Brainfuck

open Instruction

/-! ## The loop of a bracket -/

def BracketAt (instructions : List Instruction) (index : Nat) : Prop :=
  ∃ instruction, instructions[index]? = some instruction ∧ instruction.isBracket = true

/-- A loop takes up the indices from `first` to `last`. -/
def LoopAt (instructions : List Instruction) (first last : Nat) : Prop :=
  ∃ before body after,
    instructions = before ++ .loopStart :: (Block.toList body ++ .loopEnd :: after) ∧
      before.length = first ∧ first + 1 + body.size = last

theorem bracketAt_of_loopStart {instructions : List Instruction} {index : Nat}
    (found : instructions[index]? = some .loopStart) : BracketAt instructions index :=
  ⟨.loopStart, found, rfl⟩

theorem bracketAt_of_loopEnd {instructions : List Instruction} {index : Nat}
    (found : instructions[index]? = some .loopEnd) : BracketAt instructions index :=
  ⟨.loopEnd, found, rfl⟩

namespace LoopAt

variable {instructions : List Instruction} {first last : Nat}

theorem lt (loop : LoopAt instructions first last) : first < last := by
  obtain ⟨before, body, after, -, -, rfl⟩ := loop
  omega

theorem getElem?_first (loop : LoopAt instructions first last) :
    instructions[first]? = some .loopStart := by
  obtain ⟨before, body, after, rfl, rfl, -⟩ := loop
  simp

theorem getElem?_last (loop : LoopAt instructions first last) :
    instructions[last]? = some .loopEnd := by
  obtain ⟨before, body, after, rfl, rfl, rfl⟩ := loop
  rw [List.getElem?_append_right (by omega)]
  have place : before.length + 1 + body.size - before.length = body.toList.length + 1 := by
    rw [Block.size]
    omega
  simp [place]

/-- A loop stays a loop between further instructions. -/
theorem insert (loop : LoopAt instructions first last) (before after : List Instruction) :
    LoopAt (before ++ (instructions ++ after)) (before.length + first) (before.length + last) := by
  obtain ⟨front, body, behind, rfl, rfl, rfl⟩ := loop
  exact ⟨before ++ front, body, behind ++ after, by simp, by simp, by omega⟩

end LoopAt

namespace Block

/-- Every bracket of a block stands at an end of a loop. -/
theorem exists_loopAt_of_bracketAt (block : Block) {index : Nat}
    (bracket : BracketAt block.toList index) :
    ∃ first last, LoopAt block.toList first last ∧ (index = first ∨ index = last) := by
  induction block generalizing index with
  | done =>
      obtain ⟨instruction, found, -⟩ := bracket
      simp [toList] at found
  | plain instruction isPlain rest ih =>
      obtain ⟨other, found, isBracket⟩ := bracket
      cases index with
      | zero =>
          obtain rfl : instruction = other := by simpa [toList] using found
          simp [isPlain] at isBracket
      | succ index =>
          obtain ⟨first, last, loop, ends⟩ := ih ⟨other, by simpa [toList] using found, isBracket⟩
          have shifted := loop.insert [instruction] []
          simp only [List.append_nil, List.length_singleton] at shifted
          exact ⟨1 + first, 1 + last, shifted, by omega⟩
  | loop body rest bodyIH restIH =>
      obtain ⟨other, found, isBracket⟩ := bracket
      have whole : LoopAt (loop body rest).toList 0 (1 + body.size) :=
        ⟨[], body, rest.toList, rfl, rfl, by omega⟩
      rcases Nat.lt_trichotomy index (1 + body.size) with inside | rfl | behind
      · cases index with
        | zero => exact ⟨0, 1 + body.size, whole, Or.inl rfl⟩
        | succ index =>
            have foundInside : body.toList[index]? = some other := by
              rw [← found, toList, List.getElem?_cons_succ,
                List.getElem?_append_left (by rw [size] at inside; omega)]
            obtain ⟨first, last, loop, ends⟩ := bodyIH ⟨other, foundInside, isBracket⟩
            exact ⟨1 + first, 1 + last, loop.insert [.loopStart] (.loopEnd :: rest.toList),
              by omega⟩
      · exact ⟨0, 1 + body.size, whole, Or.inr rfl⟩
      · obtain ⟨further, rfl⟩ := Nat.exists_eq_add_of_lt behind
        let front := .loopStart :: (body.toList ++ [.loopEnd])
        have frontLength : front.length = body.size + 2 := by simp [front, size]
        have listEq : (loop body rest).toList = front ++ (rest.toList ++ []) := by
          simp [toList, front]
        have foundBehind : rest.toList[further]? = some other := by
          rw [← found, listEq, List.getElem?_append_right (by omega)]
          simp [frontLength, show 1 + body.size + further + 1 - (body.size + 2) = further by omega]
        obtain ⟨first, last, loop, ends⟩ := restIH ⟨other, foundBehind, isBracket⟩
        refine ⟨front.length + first, front.length + last, listEq ▸ loop.insert front [], ?_⟩
        omega

theorem balanced (block : Block) : Brackets.Balanced 0 (block.toList.map side) := by
  have nothing := check_indexed_eq_none_iff_ofList?.mpr ⟨block, ofList?_eq_some_iff.mpr rfl⟩
  simpa using Brackets.balanced_of_check [] nothing

end Block

namespace Instruction

theorem count_opening_map_side (instructions : List Instruction) :
    (instructions.map side).count .opening = instructions.count .loopStart :=
  Brackets.count_map_side (fun other => by cases other <;> decide) instructions

theorem count_closing_map_side (instructions : List Instruction) :
    (instructions.map side).count .closing = instructions.count .loopEnd :=
  Brackets.count_map_side (fun other => by cases other <;> decide) instructions

end Instruction

/-- The indices behind a loop start up to which more loops are closed than opened. -/
def excessIndices (instructions : List Instruction) (first : Nat) : Set Nat :=
  {index | first < index ∧ index < instructions.length ∧
    (instructions.extract (first + 1) (index + 1)).count .loopStart <
      (instructions.extract (first + 1) (index + 1)).count .loopEnd}

namespace LoopAt

variable {instructions : List Instruction} {first last : Nat}

/-- The brackets inside a loop belong to loops inside it. -/
theorem exists_loopAt_inside (loop : LoopAt instructions first last) {index : Nat}
    (behind : first < index) (before : index < last) (bracket : BracketAt instructions index) :
    ∃ innerFirst innerLast, LoopAt instructions innerFirst innerLast ∧
      (index = innerFirst ∨ index = innerLast) ∧ first < innerFirst ∧ innerLast < last := by
  obtain ⟨front, body, after, listEq, rfl, rfl⟩ := loop
  obtain ⟨place, rfl⟩ := Nat.exists_eq_add_of_lt behind
  obtain ⟨instruction, found, isBracket⟩ := bracket
  have placeInside : place < body.toList.length := by
    rw [Block.size] at before
    omega
  have split : instructions = (front ++ [.loopStart]) ++ (body.toList ++ .loopEnd :: after) := by
    simp [listEq]
  have foundInside : body.toList[place]? = some instruction := by
    rw [← found, split, List.getElem?_append_right (by simp),
      List.getElem?_append_left (by simp; omega)]
    simp [show front.length + place + 1 - (front.length + 1) = place by omega]
  obtain ⟨innerFirst, innerLast, inner, ends⟩ :=
    body.exists_loopAt_of_bracketAt ⟨instruction, foundInside, isBracket⟩
  have innerInside : innerLast < body.size := by
    have lastFound := inner.getElem?_last
    exact (List.getElem?_eq_some_iff.mp lastFound).1
  refine ⟨front.length + 1 + innerFirst, front.length + 1 + innerLast, ?_, ?_, ?_, ?_⟩
  · have inserted := inner.insert (front ++ [.loopStart]) (.loopEnd :: after)
    rwa [← split, List.length_append, List.length_singleton] at inserted
  · omega
  · omega
  · omega

/-- Behind the start of a loop stand its body and its end. -/
theorem exists_extract_eq (loop : LoopAt instructions first last) :
    ∃ (body : Block) (after : List Instruction), first + 1 + body.toList.length = last ∧
      ∀ stop, instructions.extract (first + 1) stop =
        (body.toList ++ .loopEnd :: after).take (stop - (first + 1)) := by
  obtain ⟨before, body, after, rfl, rfl, rfl⟩ := loop
  refine ⟨body, after, rfl, fun stop => ?_⟩
  rw [List.extract_eq_take_drop, List.append_cons before, List.drop_left' (by simp)]

theorem exists_extract_body (loop : LoopAt instructions first last) :
    ∃ body : Block, instructions.extract (first + 1) last = body.toList := by
  obtain ⟨body, after, rfl, extractEq⟩ := loop.exists_extract_eq
  refine ⟨body, ?_⟩
  rw [extractEq, Nat.add_sub_cancel_left, List.take_left]

/-- The end of a loop is the first place behind its start where more loops are
closed than opened. -/
theorem isLeast_excessIndices (loop : LoopAt instructions first last) :
    IsLeast (excessIndices instructions first) last := by
  have inside := (List.getElem?_eq_some_iff.mp loop.getElem?_last).1
  have order := loop.lt
  obtain ⟨body, after, rfl, extractEq⟩ := loop.exists_extract_eq
  obtain ⟨noExcess, count⟩ := body.balanced
  rw [count_opening_map_side, count_closing_map_side] at count
  constructor
  · refine ⟨order, inside, ?_⟩
    have upToEnd : instructions.extract (first + 1) (first + 1 + body.toList.length + 1) =
        body.toList ++ [.loopEnd] := by
      rw [extractEq, Nat.add_assoc (first + 1), Nat.add_sub_cancel_left,
        List.take_length_add_append, List.take_succ_cons, List.take_zero]
    rw [upToEnd]
    simp [count]
  · rintro index ⟨later, -, excess⟩
    by_contra earlier
    -- up to an index inside the body there is only a prefix of a block
    have upToIndex : instructions.extract (first + 1) (index + 1) =
        body.toList.take (index - first) := by
      rw [extractEq, Nat.add_sub_add_right, List.take_append_of_le_length (by omega)]
    rw [upToIndex] at excess
    have bounded := noExcess ((body.toList.take (index - first)).map side)
      ((List.take_prefix _ _).map side)
    rw [count_opening_map_side, count_closing_map_side] at bounded
    omega

end LoopAt

/-! ## Partners -/

namespace Program

theorem partner?_eq_some_iff {program : Program} {index partner : Nat} :
    program.partner? index = some partner ↔
      BracketAt program.toList index ∧ program.jumps[index]? = some partner := by
  simp only [partner?, BracketAt, toList, Array.getElem?_toList]
  cases program.instructions[index]? with
  | none => simp
  | some instruction => cases instruction <;> simp [isBracket]

theorem partner?_eq_some_iff_loopAt {program : Program} {index partner : Nat} :
    program.partner? index = some partner ↔
      LoopAt program.toList index partner ∨ LoopAt program.toList partner index := by
  have ofLoop : ∀ {first last : Nat}, LoopAt program.toList first last →
      program.partner? first = some last ∧ program.partner? last = some first := by
    intro first last loop
    have startBracket := bracketAt_of_loopStart loop.getElem?_first
    have endBracket := bracketAt_of_loopEnd loop.getElem?_last
    obtain ⟨before, body, after, split, rfl, rfl⟩ := loop
    obtain ⟨startEntry, endEntry⟩ := getElem?_jumps_of_loop split
    exact ⟨partner?_eq_some_iff.mpr ⟨startBracket, startEntry⟩,
      partner?_eq_some_iff.mpr ⟨endBracket, endEntry⟩⟩
  constructor
  · intro found
    have bracket := (partner?_eq_some_iff.mp found).1
    rw [← toList_block] at bracket
    obtain ⟨first, last, loop, ends⟩ := program.block.exists_loopAt_of_bracketAt bracket
    rw [toList_block] at loop
    obtain ⟨ofFirst, ofLast⟩ := ofLoop loop
    rcases ends with rfl | rfl
    · obtain rfl : last = partner := Option.some.inj (ofFirst.symm.trans found)
      exact Or.inl loop
    · obtain rfl : first = partner := Option.some.inj (ofLast.symm.trans found)
      exact Or.inr loop
  · rintro (loop | loop)
    · exact (ofLoop loop).1
    · exact (ofLoop loop).2

end Program

/-! ## Pairings -/

/-- Every bracket has a partner, loop starts with later loop ends, and no two
pairs cross. -/
structure NestedPairing (instructions : List Instruction) (partner? : Nat → Option Nat) : Prop where
  isSome_iff (index : Nat) : (partner? index).isSome ↔ BracketAt instructions index
  symmetric {first last : Nat} (paired : partner? first = some last) :
    partner? last = some first
  ne_self (index : Nat) : partner? index ≠ some index
  ordered {first last : Nat} (paired : partner? first = some last) (order : first < last) :
    instructions[first]? = some .loopStart ∧ instructions[last]? = some .loopEnd
  not_crossing {first last otherFirst otherLast : Nat} (paired : partner? first = some last)
    (otherPaired : partner? otherFirst = some otherLast) (behind : first < otherFirst)
    (inside : otherFirst < last) : ¬ last < otherLast

namespace NestedPairing

variable {instructions : List Instruction} {partner? other? : Nat → Option Nat}
  {first last index partner : Nat}

theorem exists_partner (nested : NestedPairing instructions partner?)
    (bracket : BracketAt instructions index) : ∃ partner, partner? index = some partner :=
  Option.isSome_iff_exists.mp ((nested.isSome_iff index).mpr bracket)

theorem bracketAt (nested : NestedPairing instructions partner?)
    (paired : partner? index = some partner) : BracketAt instructions index :=
  (nested.isSome_iff index).mp (Option.isSome_iff_exists.mpr ⟨partner, paired⟩)

theorem lt_of_loopStart (nested : NestedPairing instructions partner?)
    (found : instructions[index]? = some .loopStart) (paired : partner? index = some partner) :
    index < partner := by
  rcases Nat.lt_trichotomy index partner with order | rfl | reversed
  · exact order
  · exact absurd paired (nested.ne_self index)
  · have atEnd := (nested.ordered (nested.symmetric paired) reversed).2
    rw [found] at atEnd
    cases atEnd

theorem lt_of_loopEnd (nested : NestedPairing instructions partner?)
    (found : instructions[index]? = some .loopEnd) (paired : partner? index = some partner) :
    partner < index := by
  rcases Nat.lt_trichotomy index partner with order | rfl | reversed
  · have atStart := (nested.ordered paired order).1
    rw [found] at atStart
    cases atStart
  · exact absurd paired (nested.ne_self index)
  · exact reversed

theorem partner_inside (nested : NestedPairing instructions partner?)
    (paired : partner? first = some last) (behind : first < index) (before : index < last)
    (inner : partner? index = some partner) : first < partner ∧ partner < last := by
  have back := nested.symmetric inner
  constructor
  · rcases Nat.lt_trichotomy first partner with order | rfl | reversed
    · exact order
    · obtain rfl : last = index := Option.some.inj (paired.symm.trans back)
      omega
    · exact absurd before (nested.not_crossing back paired reversed behind)
  · rcases Nat.lt_trichotomy partner last with order | rfl | reversed
    · exact order
    · obtain rfl : first = index := Option.some.inj ((nested.symmetric paired).symm.trans back)
      omega
    · exact absurd reversed (nested.not_crossing paired inner behind before)

/-- Two pairs lie side by side or one of them inside the other. -/
theorem disjoint_or_nested (nested : NestedPairing instructions partner?)
    {otherFirst otherLast : Nat} (paired : partner? first = some last)
    (otherPaired : partner? otherFirst = some otherLast) (order : first < last)
    (otherOrder : otherFirst < otherLast) (differ : first ≠ otherFirst) :
    last < otherFirst ∨ otherLast < first ∨ (first < otherFirst ∧ otherLast < last) ∨
      (otherFirst < first ∧ last < otherLast) := by
  have ofInside : ∀ {outerFirst outerLast innerFirst innerLast : Nat},
      partner? outerFirst = some outerLast → partner? innerFirst = some innerLast →
      innerFirst < innerLast → outerFirst < innerFirst →
      outerLast < innerFirst ∨ innerLast < outerLast := by
    intro outerFirst outerLast innerFirst innerLast outer inner innerOrder behind
    rcases Nat.lt_trichotomy innerFirst outerLast with before | rfl | after
    · exact Or.inr (nested.partner_inside outer behind before inner).2
    · obtain rfl : outerFirst = innerLast :=
        Option.some.inj ((nested.symmetric outer).symm.trans inner)
      omega
    · exact Or.inl after
  rcases Nat.lt_or_gt_of_ne differ with behind | ahead
  · have := ofInside paired otherPaired otherOrder behind
    omega
  · have := ofInside otherPaired paired order ahead
    omega

/-- Two pairings have the same pairs.  The induction is on the number of
instructions between the two ends of a pair. -/
theorem paired_of_paired (nested : NestedPairing instructions partner?)
    (otherNested : NestedPairing instructions other?) (order : first < last)
    (paired : partner? first = some last) : other? first = some last := by
  induction width : last - first using Nat.strongRecOn generalizing first last with
  | ind width ih =>
  have innerSame : ∀ {innerFirst innerLast : Nat}, first < innerFirst → innerLast < last →
      innerFirst < innerLast → partner? innerFirst = some innerLast →
      other? innerFirst = some innerLast := by
    intro innerFirst innerLast behind before innerOrder inner
    exact ih (innerLast - innerFirst) (by omega) innerOrder inner rfl
  obtain ⟨startFound, endFound⟩ := nested.ordered paired order
  obtain ⟨otherLast, otherPaired⟩ :=
    otherNested.exists_partner (bracketAt_of_loopStart startFound)
  have otherOrder := otherNested.lt_of_loopStart startFound otherPaired
  rcases Nat.lt_trichotomy otherLast last with shorter | rfl | longer
  · -- the end of the shorter pair belongs to a loop inside
    have otherEnd := (otherNested.ordered otherPaired otherOrder).2
    obtain ⟨start, inner⟩ := nested.exists_partner (bracketAt_of_loopEnd otherEnd)
    have startBefore := nested.lt_of_loopEnd otherEnd inner
    have startBehind := (nested.partner_inside paired otherOrder shorter inner).1
    have same := innerSame startBehind shorter startBefore (nested.symmetric inner)
    obtain rfl : first = start :=
      Option.some.inj ((otherNested.symmetric otherPaired).symm.trans (otherNested.symmetric same))
    omega
  · exact otherPaired
  · -- the end of this pair belongs to a loop inside the longer one
    obtain ⟨start, inner⟩ := otherNested.exists_partner (bracketAt_of_loopEnd endFound)
    have startBefore := otherNested.lt_of_loopEnd endFound inner
    have startBehind := (otherNested.partner_inside otherPaired order longer inner).1
    have innerBack := otherNested.symmetric inner
    have startFoundInside := (otherNested.ordered innerBack startBefore).1
    obtain ⟨finish, truly⟩ := nested.exists_partner (bracketAt_of_loopStart startFoundInside)
    have finishBehind := nested.lt_of_loopStart startFoundInside truly
    have finishInside := (nested.partner_inside paired startBehind startBefore truly).2
    have same := innerSame startBehind finishInside finishBehind truly
    obtain rfl : last = finish := Option.some.inj (innerBack.symm.trans same)
    omega

theorem unique (nested : NestedPairing instructions partner?)
    (otherNested : NestedPairing instructions other?) : other? = partner? := by
  funext index
  cases paired : partner? index with
  | none =>
      have noBracket : ¬ BracketAt instructions index := by
        rw [← nested.isSome_iff, paired]
        simp
      rw [← otherNested.isSome_iff] at noBracket
      simpa using noBracket
  | some partner =>
      rcases Nat.lt_trichotomy index partner with order | rfl | reversed
      · exact nested.paired_of_paired otherNested order paired
      · exact absurd paired (nested.ne_self index)
      · exact otherNested.symmetric
          (nested.paired_of_paired otherNested reversed (nested.symmetric paired))

end NestedPairing

namespace Program

theorem nestedPairing (program : Program) :
    NestedPairing program.toList program.partner? where
  isSome_iff index := by
    constructor
    · intro isSome
      obtain ⟨partner, found⟩ := Option.isSome_iff_exists.mp isSome
      exact (partner?_eq_some_iff.mp found).1
    · intro bracket
      obtain ⟨instruction, found, isBracket⟩ := bracket
      have inside : index < program.jumps.size := by
        simpa [size, toList] using (List.getElem?_eq_some_iff.mp found).1
      have entry := Array.getElem?_eq_getElem inside
      exact Option.isSome_iff_exists.mpr
        ⟨_, partner?_eq_some_iff.mpr ⟨⟨instruction, found, isBracket⟩, entry⟩⟩
  symmetric paired := by
    rw [partner?_eq_some_iff_loopAt] at paired ⊢
    exact paired.symm
  ne_self index paired := by
    rcases partner?_eq_some_iff_loopAt.mp paired with loop | loop <;> exact absurd loop.lt (by simp)
  ordered paired order := by
    rcases partner?_eq_some_iff_loopAt.mp paired with loop | loop
    · exact ⟨loop.getElem?_first, loop.getElem?_last⟩
    · exact absurd loop.lt (by omega)
  not_crossing paired otherPaired behind inside crossing := by
    rcases partner?_eq_some_iff_loopAt.mp paired with loop | loop
    · have bracket := (partner?_eq_some_iff.mp otherPaired).1
      obtain ⟨innerFirst, innerLast, inner, ends, -, innerBefore⟩ :=
        loop.exists_loopAt_inside behind inside bracket
      have innerPaired := partner?_eq_some_iff_loopAt.mpr (Or.inl inner)
      have innerOrder := inner.lt
      rcases ends with rfl | rfl
      · obtain rfl := Option.some.inj (innerPaired.symm.trans otherPaired)
        omega
      · have back := partner?_eq_some_iff_loopAt.mpr (Or.inr inner)
        obtain rfl := Option.some.inj (back.symm.trans otherPaired)
        omega
    · exact absurd loop.lt (by omega)

/-- The jump table pairs the brackets of a program in the only way without
crossings.  A loop start is paired with the first place behind it where more
loops are closed than opened, and what stands between the two is a program. -/
theorem partner?_unique_pairing {instructions : List Instruction} {program : Program}
    (built : ofList instructions = .ok program) :
    NestedPairing instructions program.partner? ∧
      (∀ first, instructions[first]? = some .loopStart →
        ∃ last, program.partner? first = some last ∧ first < last ∧
          instructions[last]? = some .loopEnd ∧
          IsLeast (excessIndices instructions first) last ∧
          ∃ inner, ofList (instructions.extract (first + 1) last) = .ok inner) ∧
      (∀ first last otherFirst otherLast, program.partner? first = some last →
        program.partner? otherFirst = some otherLast → first < last → otherFirst < otherLast →
        first ≠ otherFirst →
          last < otherFirst ∨ otherLast < first ∨ (first < otherFirst ∧ otherLast < last) ∨
            (otherFirst < first ∧ last < otherLast)) ∧
      ∀ other?, NestedPairing instructions other? → other? = program.partner? := by
  obtain rfl := toList_of_ofList built
  have nested := program.nestedPairing
  refine ⟨nested, ?_, ?_, fun other? otherNested => nested.unique otherNested⟩
  · intro first found
    obtain ⟨last, paired⟩ := nested.exists_partner (bracketAt_of_loopStart found)
    have order := nested.lt_of_loopStart found paired
    have loop : LoopAt program.toList first last := by
      rcases partner?_eq_some_iff_loopAt.mp paired with loop | loop
      · exact loop
      · exact absurd loop.lt (by omega)
    obtain ⟨body, bodyEq⟩ := loop.exists_extract_body
    exact ⟨last, paired, order, loop.getElem?_last, loop.isLeast_excessIndices,
      exists_ofList_eq_ok_iff.mpr ⟨body, bodyEq.symm⟩⟩
  · intro first last otherFirst otherLast paired otherPaired order otherOrder differ
    exact nested.disjoint_or_nested paired otherPaired order otherOrder differ

theorem partner?_unique_pairing_inner :
    ∃ program,
      ofList [.increment, .loopStart, .moveRight, .loopStart, .decrement, .loopEnd, .moveLeft,
        .decrement, .loopEnd] = .ok program ∧
      program.partner? 1 = some 8 ∧ program.partner? 3 = some 5 ∧
      ∀ other?, NestedPairing [.increment, .loopStart, .moveRight, .loopStart, .decrement, .loopEnd,
        .moveLeft, .decrement, .loopEnd] other? → other? = program.partner? := by
  let program : Program :=
    ⟨#[.increment, .loopStart, .moveRight, .loopStart, .decrement, .loopEnd, .moveLeft,
      .decrement, .loopEnd], #[0, 8, 0, 5, 0, 3, 0, 0, 1], rfl⟩
  have built : ofList [.increment, .loopStart, .moveRight, .loopStart, .decrement, .loopEnd,
      .moveLeft, .decrement, .loopEnd] = .ok program := rfl
  obtain ⟨-, -, -, unique⟩ := partner?_unique_pairing built
  exact ⟨program, built, rfl, rfl, unique⟩

end Program

end Brainfuck
