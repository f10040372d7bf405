import Brainfuck.Proofs.Block
import Brainfuck.Source
import Mathlib.Order.Bounds.Defs

/-!
# Brackets of source texts

A text is a source exactly if no prefix closes more loops than it opens and the
whole closes all of them.  The offset in a refusal is found by counting: it is
the first `]` with too few `[` up to it, or else the last `[` behind which no
prefix closes more loops than it opens.
-/

namespace Brainfuck

def SourceError.ofFault : Fault Nat → SourceError
  | .unmatched offset => .unmatchedLoopEnd offset
  | .unclosed offset => .unclosedLoopStart offset

namespace Source

def side (char : Char) : Side :=
  match Instruction.ofSymbol? char with
  | some instruction => instruction.side
  | none => .neither

/-- The sides of characters, labelled by their byte offsets from `offset` on. -/
def labelled (offset : Nat) : List Char → List (Nat × Side)
  | [] => []
  | char :: rest => (offset, side char) :: labelled (offset + char.utf8Size) rest

theorem map_scan (offset : Nat) (openings : List Nat) (found : List Instruction)
    (text : List Char) :
    (scan offset openings found text).map (fun _ => ()) =
      Brackets.verdict SourceError.ofFault (Brackets.check openings (labelled offset text)) := by
  induction text generalizing offset openings found with
  | nil => cases openings <;> rfl
  | cons char rest ih =>
      simp only [scan, labelled, side]
      cases Instruction.ofSymbol? char with
      | none => exact ih _ openings found
      | some instruction =>
          cases instruction with
          | loopStart => exact ih _ (offset :: openings) _
          | loopEnd =>
              cases openings with
              | nil => rfl
              | cons opening outer => exact ih _ outer _
          | _ => exact ih _ openings _

/-- The instructions of a text are written as its instruction characters. -/
theorem map_symbol_filterMap (text : List Char) :
    (text.filterMap Instruction.ofSymbol?).map Instruction.symbol =
      text.filter (fun char => "<>+-,.[]".toList.contains char) := by
  induction text with
  | nil => rfl
  | cons char rest ih =>
      cases symbol : Instruction.ofSymbol? char with
      | none =>
          have notContained : ¬ "<>+-,.[]".toList.contains char := by
            intro contained
            obtain rfl | rfl | rfl | rfl | rfl | rfl | rfl | rfl := by simpa using contained
            all_goals cases symbol
          rw [List.filterMap_cons_none symbol, List.filter_cons_of_neg notContained, ih]
      | some instruction =>
          have char_eq := Instruction.symbol_of_ofSymbol? symbol
          have contained : "<>+-,.[]".toList.contains char = true := by
            rw [← char_eq]
            cases instruction <;> rfl
          rw [List.filterMap_cons_some symbol, List.filter_cons_of_pos contained, List.map_cons,
            ih, char_eq]

/-- A scan that succeeds finds the instructions of the text, in order. -/
theorem eq_filterMap_of_scan {offset : Nat} {openings : List Nat}
    {found instructions : List Instruction} {text : List Char}
    (scanned : scan offset openings found text = .ok instructions) :
    instructions = found.reverse ++ text.filterMap Instruction.ofSymbol? := by
  induction text generalizing offset openings found with
  | nil =>
      cases openings with
      | nil =>
          cases scanned
          simp
      | cons opening outer => cases scanned
  | cons char rest ih =>
      simp only [scan] at scanned
      cases symbol : Instruction.ofSymbol? char with
      | none =>
          rw [symbol] at scanned
          rw [ih scanned, List.filterMap_cons_none symbol]
      | some instruction =>
          rw [symbol] at scanned
          rw [List.filterMap_cons_some symbol]
          cases instruction with
          | loopEnd =>
              cases openings with
              | nil => cases scanned
              | cons opening outer => simp [ih scanned]
          | _ => simp [ih scanned]

/-! ## Counting characters -/

/-- No prefix of a text closes more loops than it opens. -/
def NoExcess (text : List Char) : Prop :=
  ∀ front, front <+: text → front.count ']' ≤ front.count '['

theorem side_eq_opening_iff {char : Char} : side char = .opening ↔ char = '[' := by
  constructor
  · intro opening
    unfold side at opening
    cases symbol : Instruction.ofSymbol? char with
    | none => simp [symbol] at opening
    | some instruction =>
        have char_eq := Instruction.symbol_of_ofSymbol? symbol
        cases instruction <;> simp [symbol, Instruction.side] at opening
        exact char_eq.symm
  · rintro rfl
    rfl

theorem side_eq_closing_iff {char : Char} : side char = .closing ↔ char = ']' := by
  constructor
  · intro closing
    unfold side at closing
    cases symbol : Instruction.ofSymbol? char with
    | none => simp [symbol] at closing
    | some instruction =>
        have char_eq := Instruction.symbol_of_ofSymbol? symbol
        cases instruction <;> simp [symbol, Instruction.side] at closing
        exact char_eq.symm
  · rintro rfl
    rfl

theorem noExcess_map_side_iff {text : List Char} :
    Brackets.NoExcess 0 (text.map side) ↔ NoExcess text :=
  Brackets.noExcess_map_side_iff (fun _ => side_eq_opening_iff) (fun _ => side_eq_closing_iff)

theorem balanced_map_side_iff {text : List Char} :
    Brackets.Balanced 0 (text.map side) ↔ NoExcess text ∧ text.count ']' = text.count '[' :=
  Brackets.balanced_map_side_iff (fun _ => side_eq_opening_iff) (fun _ => side_eq_closing_iff)

/-! ## Offsets -/

def byteSize (text : List Char) : Nat :=
  (String.ofList text).utf8ByteSize

@[simp]
theorem byteSize_nil : byteSize [] = 0 :=
  rfl

@[simp]
theorem byteSize_cons (char : Char) (text : List Char) :
    byteSize (char :: text) = char.utf8Size + byteSize text := by
  simp [byteSize, String.utf8ByteSize_append]

theorem byteSize_le_of_prefix {front text : List Char} (isPrefix : front <+: text) :
    byteSize front ≤ byteSize text := by
  obtain ⟨rest, rfl⟩ := isPrefix
  simp [byteSize, String.ofList_append, String.utf8ByteSize_append]

@[simp]
theorem map_snd_labelled (offset : Nat) (text : List Char) :
    (labelled offset text).map Prod.snd = text.map side := by
  induction text generalizing offset with
  | nil => rfl
  | cons char rest ih => simp [labelled, ih]

/-- A labelled item comes from a character at its offset. -/
theorem exists_append_of_labelled {offset label : Nat} {text : List Char} {itemSide : Side}
    {before after : List (Nat × Side)}
    (split : labelled offset text = before ++ (label, itemSide) :: after) :
    ∃ front char behind, text = front ++ char :: behind ∧ side char = itemSide ∧
      label = offset + byteSize front ∧
      before.map Prod.snd = front.map side ∧ after.map Prod.snd = behind.map side := by
  induction text generalizing offset before with
  | nil => simp [labelled] at split
  | cons char rest ih =>
      cases before with
      | nil =>
          obtain ⟨⟨rfl, rfl⟩, rfl⟩ : (offset = label ∧ side char = itemSide) ∧
              labelled (offset + char.utf8Size) rest = after := by
            simpa [labelled] using split
          exact ⟨[], char, rest, rfl, rfl, by simp, rfl, by simp⟩
      | cons item before =>
          obtain ⟨rfl, restSplit⟩ : (offset, side char) = item ∧
              labelled (offset + char.utf8Size) rest = before ++ (label, itemSide) :: after := by
            simpa [labelled] using split
          obtain ⟨front, found, behind, rfl, sideEq, labelEq, beforeEq, afterEq⟩ := ih restSplit
          refine ⟨char :: front, found, behind, rfl, sideEq, ?_, by simp [beforeEq], afterEq⟩
          rw [labelEq, byteSize_cons, Nat.add_assoc]

/-- The offsets of the loop ends up to which a text closes more loops than it
opens. -/
def excessOffsets (text : List Char) : Set Nat :=
  {offset | ∃ front behind, text = front ++ ']' :: behind ∧ byteSize front = offset ∧
    (front ++ [']']).count '[' < (front ++ [']']).count ']'}

/-- The offsets of the loop starts behind which no prefix of a text closes more
loops than it opens. -/
def openOffsets (text : List Char) : Set Nat :=
  {offset | ∃ front behind, text = front ++ '[' :: behind ∧ byteSize front = offset ∧
    NoExcess behind}

/-- Behind a balanced front, a loop end is the first one in excess. -/
theorem isLeast_excessOffsets {front behind : List Char} (noExcess : NoExcess front)
    (balanced : front.count ']' = front.count '[') :
    IsLeast (excessOffsets (front ++ ']' :: behind)) (byteSize front) := by
  constructor
  · refine ⟨front, behind, rfl, rfl, ?_⟩
    simp [balanced]
  · rintro offset ⟨otherFront, otherBehind, split, rfl, excess⟩
    have frontPrefix : front <+: front ++ ']' :: behind := List.prefix_append _ _
    have otherPrefix : otherFront <+: front ++ ']' :: behind := ⟨']' :: otherBehind, split.symm⟩
    rcases List.prefix_or_prefix_of_prefix frontPrefix otherPrefix with shorter | longer
    · exact byteSize_le_of_prefix shorter
    · obtain ⟨between, rfl⟩ := longer
      cases between with
      | nil => simp
      | cons char between =>
          -- the other loop end stands inside the front, which has no excess
          obtain ⟨rfl, -⟩ : char = ']' ∧ between ++ ']' :: behind = otherBehind := by
            simpa using split
          have bounded := noExcess (otherFront ++ [']']) (by simp)
          omega

/-- In front of balanced characters, a loop start is the last one left open. -/
theorem isGreatest_openOffsets {front behind : List Char} (noExcess : NoExcess behind)
    (balanced : behind.count ']' = behind.count '[') :
    IsGreatest (openOffsets (front ++ '[' :: behind)) (byteSize front) := by
  constructor
  · exact ⟨front, behind, rfl, rfl, noExcess⟩
  · rintro offset ⟨otherFront, otherBehind, split, rfl, otherNoExcess⟩
    have frontPrefix : front <+: front ++ '[' :: behind := List.prefix_append _ _
    have otherPrefix : otherFront <+: front ++ '[' :: behind := ⟨'[' :: otherBehind, split.symm⟩
    rcases List.prefix_or_prefix_of_prefix otherPrefix frontPrefix with shorter | longer
    · exact byteSize_le_of_prefix shorter
    · obtain ⟨between, rfl⟩ := longer
      cases between with
      | nil => simp
      | cons char between =>
          -- the other loop start is closed among the balanced characters
          obtain ⟨rfl, rfl⟩ : '[' = char ∧ behind = between ++ '[' :: otherBehind := by
            simpa using split
          have betweenBounded := noExcess between (by simp)
          have behindBounded := otherNoExcess otherBehind List.prefix_rfl
          simp at balanced
          omega

/-! ## The result of parsing -/

theorem map_parse (source : String) :
    (parse source).map (fun _ => ()) =
      Brackets.verdict SourceError.ofFault (Brackets.check [] (labelled 0 source.toList)) :=
  map_scan 0 [] [] source.toList

/-- An unmatched loop end is the first one in excess. -/
theorem isLeast_of_check_unmatched {text : List Char} {offset : Nat}
    (found : Brackets.check [] (labelled 0 text) = some (.unmatched offset)) :
    ¬ NoExcess text ∧ IsLeast (excessOffsets text) offset := by
  obtain ⟨before, after, split, balanced⟩ := Brackets.exists_append_of_check_unmatched [] found
  obtain ⟨front, char, behind, rfl, sideEq, labelEq, beforeEq, -⟩ :=
    exists_append_of_labelled split
  obtain rfl := side_eq_closing_iff.mp sideEq
  rw [beforeEq] at balanced
  obtain ⟨noExcess, count⟩ := balanced_map_side_iff.mp balanced
  constructor
  · intro noExcessWhole
    have bounded := noExcessWhole (front ++ [']']) (by simp)
    simp at bounded
    omega
  · rw [labelEq, Nat.zero_add]
    exact isLeast_excessOffsets noExcess count

/-- An unclosed loop start is the last one that nothing behind it closes. -/
theorem isGreatest_of_check_unclosed {text : List Char} {offset : Nat}
    (found : Brackets.check [] (labelled 0 text) = some (.unclosed offset)) :
    NoExcess text ∧ text.count '[' ≠ text.count ']' ∧ IsGreatest (openOffsets text) offset := by
  obtain ⟨noExcess, ⟨before, after, split, balanced⟩ | ⟨inner, outer, split, -⟩⟩ :=
    Brackets.exists_append_of_check_unclosed [] found
  · obtain ⟨front, char, behind, rfl, sideEq, labelEq, -, afterEq⟩ :=
      exists_append_of_labelled split
    obtain rfl := side_eq_opening_iff.mp sideEq
    rw [map_snd_labelled] at noExcess
    have noExcessText := noExcess_map_side_iff.mp noExcess
    rw [afterEq] at balanced
    obtain ⟨noExcessBehind, count⟩ := balanced_map_side_iff.mp balanced
    refine ⟨noExcessText, ?_, ?_⟩
    · have frontBounded := noExcessText front (List.prefix_append _ _)
      simp
      omega
    · rw [labelEq, Nat.zero_add]
      exact isGreatest_openOffsets noExcessBehind count
  · simp at split

/-- A text is a source exactly if its loops are balanced, and then it consists of
its instruction characters; otherwise the refusal has the offset of the first
loop end in excess or, without one, of the last loop start left open. -/
theorem parse_by_counting (source : String) :
    ((∃ instructions, parse source = .ok instructions) ↔
      NoExcess source.toList ∧ source.toList.count '[' = source.toList.count ']') ∧
    (∀ instructions, parse source = .ok instructions →
      instructions = source.toList.filterMap Instruction.ofSymbol? ∧
      instructions.map Instruction.symbol =
        source.toList.filter (fun char => "<>+-,.[]".toList.contains char)) ∧
    (¬ NoExcess source.toList →
      ∃ offset, parse source = .error (.unmatchedLoopEnd offset) ∧
        IsLeast (excessOffsets source.toList) offset) ∧
    (NoExcess source.toList → source.toList.count '[' ≠ source.toList.count ']' →
      ∃ offset, parse source = .error (.unclosedLoopStart offset) ∧
        IsGreatest (openOffsets source.toList) offset) := by
  have instructionsEq : ∀ instructions, parse source = .ok instructions →
      instructions = source.toList.filterMap Instruction.ofSymbol? ∧
      instructions.map Instruction.symbol =
        source.toList.filter (fun char => "<>+-,.[]".toList.contains char) := by
    intro instructions parsed
    have found : instructions = source.toList.filterMap Instruction.ofSymbol? := by
      simpa using eq_filterMap_of_scan parsed
    exact ⟨found, found ▸ map_symbol_filterMap source.toList⟩
  cases checked : Brackets.check [] (labelled 0 source.toList) with
  | none =>
      have accepted : ∃ instructions, parse source = .ok instructions :=
        Brackets.exists_eq_ok_of_map_eq_verdict (checked ▸ map_parse source)
      have balanced := Brackets.balanced_of_check [] checked
      rw [map_snd_labelled] at balanced
      obtain ⟨noExcess, count⟩ := balanced_map_side_iff.mp balanced
      exact ⟨iff_of_true accepted ⟨noExcess, count.symm⟩, instructionsEq,
        fun excess => absurd noExcess excess, fun _ differ => absurd count.symm differ⟩
  | some fault =>
      have refused : parse source = .error (SourceError.ofFault fault) :=
        Brackets.eq_error_of_map_eq_verdict (checked ▸ map_parse source)
      have notAccepted : ¬ ∃ instructions, parse source = .ok instructions := by simp [refused]
      cases fault with
      | unmatched offset =>
          obtain ⟨excess, isLeast⟩ := isLeast_of_check_unmatched checked
          exact ⟨iff_of_false notAccepted fun balanced => excess balanced.1, instructionsEq,
            fun _ => ⟨offset, refused, isLeast⟩, fun noExcess => absurd noExcess excess⟩
      | unclosed offset =>
          obtain ⟨noExcess, differ, isGreatest⟩ := isGreatest_of_check_unclosed checked
          exact ⟨iff_of_false notAccepted fun balanced => differ balanced.2, instructionsEq,
            fun excess => absurd noExcess excess, fun _ _ => ⟨offset, refused, isGreatest⟩⟩

theorem parse_by_counting_unmatched :
    ∃ offset, parse "é[]][" = .error (.unmatchedLoopEnd offset) ∧
      IsLeast (excessOffsets "é[]][".toList) offset := by
  obtain ⟨-, -, unmatched, -⟩ := parse_by_counting "é[]]["
  apply unmatched
  intro noExcess
  have bounded := noExcess "é[]]".toList (by decide)
  exact absurd bounded (by decide)

end Source

end Brainfuck
