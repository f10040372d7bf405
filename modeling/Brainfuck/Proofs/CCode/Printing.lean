import Brainfuck.Proofs.CCode.Decoding
import Mathlib.Data.List.Induction

/-!
# Printing blocks

Code is generated from the first instruction to the last, with a depth that goes up and
down along with the open loops.  It is the text that a printer writes that follows the
nesting of the block and is told the depth of each loop on the way down.  The same lines
can be told one by one: each instruction has its own, indented by the number of loops
around it.  The braces of the text match.
-/

namespace Brainfuck

namespace CCode

/-! ## Texts of blocks -/

def tabs (depth : Nat) : String :=
  String.ofList (List.replicate depth '\t')

def prologue (dialect : Dialect) (length : TapeLength) : String :=
  String.join (dialect.includes.map fun header => "#include " ++ header ++ "\n")
    ++ "\ntypedef unsigned char byte;\n\n" ++ dialect.mainHead ++ " \x7b\n\tbyte tape["
    ++ toString length.count ++ "] = \x7b0\x7d;\n\t" ++ dialect.qualifier
    ++ "size_t ptr = 0;\n"

def epilogue : String :=
  "\treturn 0;\n\x7d\n"

/-- The text of a block at a depth. -/
def printed (dialect : Dialect) (last : Nat) : (depth : Nat) → Block → String
  | _, .done => ""
  | depth, .plain instruction _ rest =>
      tabs depth ++ statement dialect last instruction ++ "\n"
        ++ printed dialect last depth rest
  | depth, .loop body rest =>
      tabs depth ++ "while (tape[ptr]) \x7b" ++ "\n" ++ printed dialect last (depth + 1) body
        ++ tabs depth ++ "\x7d" ++ "\n" ++ printed dialect last depth rest

theorem linesText_append (first second : List Line) :
    linesText (first ++ second) = linesText first ++ linesText second := by
  simp [linesText, String.join_append]

theorem linesText_cons (depth : Nat) (content : String) (rest : List Line) :
    linesText (⟨depth, content⟩ :: rest) = tabs depth ++ content ++ "\n" ++ linesText rest := by
  simp [linesText, Line.text, tabs, String.join_cons]

theorem linesText_map_header (headers : List String) :
    linesText (headers.map fun header => ⟨0, "#include " ++ header⟩) =
      String.join (headers.map fun header => "#include " ++ header ++ "\n") := by
  simp [linesText, Line.text, Function.comp_def]

theorem linesText_preamble (dialect : Dialect) (length : TapeLength) :
    linesText (preamble dialect length) = prologue dialect length := by
  rw [preamble, linesText_append, linesText_map_header, prologue]
  apply String.toList_injective
  simp [linesText, Line.text, String.join_cons]

theorem linesText_ending : linesText ending = epilogue := by
  apply String.toList_injective
  simp [linesText, ending, epilogue, Line.text, String.join_cons]

theorem statement_loopStart (dialect : Dialect) (last : Nat) :
    statement dialect last .loopStart = "while (tape[ptr]) \x7b" :=
  rfl

theorem statement_loopEnd (dialect : Dialect) (last : Nat) :
    statement dialect last .loopEnd = "\x7d" :=
  rfl

theorem linesText_blockLines (dialect : Dialect) (last depth : Nat) (block : Block) :
    linesText (blockLines dialect last depth block) = printed dialect last depth block := by
  induction block generalizing depth with
  | done => simp [blockLines, linesText, printed]
  | plain instruction isPlain rest ih => rw [blockLines, linesText_cons, ih, printed]
  | loop body rest bodyIH restIH =>
      rw [blockLines, linesText_cons, linesText_append, linesText_cons, bodyIH, restIH, printed,
        statement_loopStart, statement_loopEnd]
      simp only [String.append_assoc]

theorem generate_eq_ok_iff {dialect : Dialect} {length : TapeLength}
    {instructions : List Instruction} {text : String} :
    generate dialect length instructions = .ok text ↔
      ∃ lines, body dialect length instructions = .ok lines ∧
        text = prologue dialect length ++ linesText lines ++ epilogue := by
  have textEq (lines : List Line) :
      linesText (preamble dialect length ++ lines ++ ending) =
        prologue dialect length ++ linesText lines ++ epilogue := by
    rw [linesText_append, linesText_append, linesText_preamble, linesText_ending]
  rw [generate]
  cases body dialect length instructions with
  | error error => simp
  | ok lines =>
      constructor
      · intro generated
        cases generated
        exact ⟨lines, rfl, textEq lines⟩
      · rintro ⟨_, ⟨⟩, rfl⟩
        exact congrArg Except.ok (textEq lines)

/-! ## Lines of instructions -/

/-- The number of loops around the instruction at an index: they begin before it, and do
not end at it or before it. -/
def loopsAround (instructions : List Instruction) (index : Nat) : Nat :=
  (instructions.take index).count .loopStart - (instructions.take (index + 1)).count .loopEnd

theorem loopsAround_length (front : List Instruction) (instruction : Instruction)
    (rest : List Instruction) :
    loopsAround (front ++ instruction :: rest) front.length =
      front.count .loopStart - (front ++ [instruction]).count .loopEnd := by
  rw [loopsAround, List.take_left, List.append_cons, List.take_left' (by simp)]

def lineAt (dialect : Dialect) (last : Nat) (instructions : List Instruction) (index : Nat)
    (instruction : Instruction) : Line where
  depth := loopsAround instructions index + 1
  content := statement dialect last instruction

/-- A draft of the first instructions: its depth is that of its open loops, and its lines
are those of the instructions. -/
structure LaidOut (dialect : Dialect) (last : Nat) (instructions front : List Instruction)
    (draft : Draft) : Prop where
  depth_eq : draft.depth = draft.openings.length + 1
  openings_eq : draft.openings.length + front.count .loopEnd = front.count .loopStart
  lines_eq : draft.lines.reverse = front.mapIdx (lineAt dialect last instructions)

section Drafts

variable {dialect : Dialect} {last : Nat}

/-- Each instruction goes on a line at the depth of the loops around it. -/
theorem LaidOut.addLine {front rest : List Instruction} {instruction : Instruction}
    {draft : Draft} (laidOut : LaidOut dialect last (front ++ instruction :: rest) front draft)
    {lineDepth nextDepth : Nat} {openings : List Nat}
    (lineDepthEq : lineDepth = draft.openings.length - [instruction].count .loopEnd + 1)
    (nextDepthEq : nextDepth = openings.length + 1)
    (openingsEq : openings.length + [instruction].count .loopEnd =
      draft.openings.length + [instruction].count .loopStart) :
    LaidOut dialect last (front ++ instruction :: rest) (front ++ [instruction])
      (draft.addLine lineDepth nextDepth openings (statement dialect last instruction)) where
  depth_eq := nextDepthEq
  openings_eq := by
    have before := laidOut.openings_eq
    simp only [Draft.addLine, List.count_append]
    omega
  lines_eq := by
    have before := laidOut.openings_eq
    have depthEq : lineDepth =
        loopsAround (front ++ instruction :: rest) front.length + 1 := by
      rw [loopsAround_length, List.count_append]
      omega
    rw [List.mapIdx_concat, ← laidOut.lines_eq, Draft.addLine, List.reverse_cons, depthEq]
    rfl

theorem LaidOut.add {front rest : List Instruction} {instruction : Instruction}
    {draft next : Draft}
    (laidOut : LaidOut dialect last (front ++ instruction :: rest) front draft)
    (added : draft.add dialect last instruction = .ok next) :
    LaidOut dialect last (front ++ instruction :: rest) (front ++ [instruction]) next := by
  have depthEq := laidOut.depth_eq
  by_cases isPlain : instruction.isBracket = false
  · rw [add_plain dialect last draft isPlain] at added
    cases added
    have noEnd : [instruction].count .loopEnd = 0 := by
      cases instruction <;> first | rfl | contradiction
    have noStart : [instruction].count .loopStart = 0 := by
      cases instruction <;> first | rfl | contradiction
    exact laidOut.addLine (by omega) depthEq (by omega)
  cases instruction with
  | loopStart =>
      cases added
      exact laidOut.addLine (by simpa using depthEq) (by simp [depthEq]) (by simp)
  | loopEnd =>
      cases openingsEq : draft.openings with
      | nil => simp [Draft.add, openingsEq] at added
      | cons opening outer =>
          simp only [Draft.add, openingsEq] at added
          cases added
          refine laidOut.addLine ?_ ?_ ?_ <;> simp [depthEq, openingsEq]
  | _ => exact absurd rfl isPlain

theorem laidOut_of_foldlM {instructions front : List Instruction} {draft : Draft}
    (isPrefix : front <+: instructions)
    (added : front.foldlM (Draft.add dialect last) {} = .ok draft) :
    LaidOut dialect last instructions front draft := by
  induction front using List.reverseRecOn generalizing draft with
  | nil =>
      cases added
      exact ⟨rfl, rfl, rfl⟩
  | append_singleton front instruction ih =>
      rw [List.foldlM_append] at added
      cases before : front.foldlM (Draft.add dialect last) {} with
      | error error =>
          rw [before] at added
          cases added
      | ok earlier =>
          rw [before] at added
          change (earlier.add dialect last instruction >>= pure) = .ok draft at added
          rw [bind_pure] at added
          obtain ⟨rest, rfl⟩ := isPrefix
          have split : front ++ [instruction] ++ rest = front ++ instruction :: rest := by simp
          have laidOut := ih ⟨instruction :: rest, by simp⟩ before
          rw [split] at laidOut ⊢
          exact laidOut.add added

end Drafts

theorem eq_mapIdx_of_body {dialect : Dialect} {length : TapeLength}
    {instructions : List Instruction} {lines : List Line}
    (written : body dialect length instructions = .ok lines) :
    lines = instructions.mapIdx (lineAt dialect length.last instructions) := by
  rw [body] at written
  cases added : instructions.foldlM (Draft.add dialect length.last) {} with
  | error error =>
      rw [added] at written
      cases written
  | ok draft =>
      rw [added] at written
      have laidOut := laidOut_of_foldlM (List.prefix_refl instructions) added
      rw [← laidOut.lines_eq]
      obtain ⟨index, depth, openings, drafted⟩ := draft
      cases openings with
      | nil =>
          cases written
          rfl
      | cons opening outer => cases written

/-! ## Braces -/

def braceSide (char : Char) : Side :=
  if char = '\x7b' then .opening else if char = '\x7d' then .closing else .neither

/-- The braces of a text close those that they open and `depth` more. -/
def Matched (depth : Nat) (text : String) : Prop :=
  Brackets.Balanced depth (text.toList.map braceSide)

/-- Every brace of a text has a match, and no prefix closes more braces than it opens. -/
structure BracesMatch (text : String) : Prop where
  noExcess : ∀ front, front <+: text.toList → front.count '\x7d' ≤ front.count '\x7b'
  count_eq : text.toList.count '\x7d' = text.toList.count '\x7b'

theorem bracesMatch_of_matched {text : String} (isMatched : Matched 0 text) : BracesMatch text := by
  have opens (char : Char) : braceSide char = .opening ↔ char = '\x7b' := by
    unfold braceSide
    split_ifs <;> simp_all
  have closes (char : Char) : braceSide char = .closing ↔ char = '\x7d' := by
    unfold braceSide
    split_ifs <;> simp_all
  obtain ⟨noExcess, count⟩ := (Brackets.balanced_map_side_iff opens closes).mp isMatched
  exact ⟨noExcess, count⟩

section Matched

variable {depth : Nat} {text rest : String}

theorem Matched.append (isMatched : Matched 0 text) (restMatched : Matched depth rest) :
    Matched depth (text ++ rest) := by
  rw [Matched, String.toList_append, List.map_append]
  exact Brackets.Balanced.append isMatched restMatched

theorem matched_opening : Matched depth ("\x7b" ++ rest) ↔ Matched (depth + 1) rest := by
  rw [Matched, String.toList_append]
  exact Brackets.balanced_opening

theorem matched_closing : Matched (depth + 1) ("\x7d" ++ rest) ↔ Matched depth rest := by
  rw [Matched, String.toList_append]
  exact Brackets.balanced_closing

/-- A fixed text is checked character by character. -/
theorem matched_of_check
    (nothing : Brackets.check [] (text.toList.map fun char => ((), braceSide char)) = none) :
    Matched 0 text := by
  have balanced := Brackets.balanced_of_check [] nothing
  rwa [List.map_map] at balanced

theorem matched_of_neither (noBrace : ∀ char ∈ text.toList, braceSide char = .neither) :
    Matched 0 text := by
  unfold Matched
  generalize text.toList = chars at noBrace
  induction chars with
  | nil => exact Brackets.balanced_nil
  | cons char chars ih =>
      obtain ⟨noBraceHere, noBraceBehind⟩ := List.forall_mem_cons.mp noBrace
      rw [List.map_cons, noBraceHere]
      exact Brackets.balanced_neither.mpr (ih noBraceBehind)

end Matched

theorem matched_tabs (depth : Nat) : Matched 0 (tabs depth) := by
  apply matched_of_neither
  intro char member
  have isTab : char = '\t' := List.eq_of_mem_replicate (by simpa [tabs] using member)
  rw [isTab]
  rfl

theorem matched_number (number : Nat) : Matched 0 (toString number) := by
  apply matched_of_neither
  intro char member
  have inDigits : char ∈ Nat.toDigits 10 number := by simpa using member
  have isDigit := Nat.isDigit_of_mem_toDigits (by decide) (by decide) inDigits
  unfold braceSide
  split_ifs with isOpening isClosing
  · simp [isOpening] at isDigit
  · simp [isClosing] at isDigit
  · rfl

theorem matched_statement (dialect : Dialect) (last : Nat) {instruction : Instruction}
    (isPlain : instruction.isBracket = false) : Matched 0 (statement dialect last instruction) := by
  have fixed : ∀ instruction ∈ [Instruction.increment, .decrement, .input, .output],
      Brackets.check [] ((statement dialect 0 instruction).toList.map
        fun char => ((), braceSide char)) = none := by
    cases dialect <;> decide +kernel
  cases instruction with
  | moveRight =>
      exact ((matched_of_check (by decide +kernel)).append (matched_number last)).append
        (matched_of_check (by decide +kernel))
  | moveLeft =>
      exact ((matched_of_check (by decide +kernel)).append (matched_number last)).append
        (matched_of_check (by decide +kernel))
  | increment => exact matched_of_check (fixed .increment (by decide))
  | decrement => exact matched_of_check (fixed .decrement (by decide))
  | input => exact matched_of_check (fixed .input (by decide))
  | output => exact matched_of_check (fixed .output (by decide))
  | loopStart => cases isPlain
  | loopEnd => cases isPlain

theorem matched_newline : Matched 0 "\n" :=
  matched_of_check (by decide +kernel)

theorem matched_printed (dialect : Dialect) (last depth : Nat) (block : Block) :
    Matched 0 (printed dialect last depth block) := by
  induction block generalizing depth with
  | done => exact Brackets.balanced_nil
  | plain instruction isPlain rest ih =>
      rw [printed]
      exact (((matched_tabs depth).append (matched_statement dialect last isPlain)).append
        matched_newline).append (ih depth)
  | loop body rest bodyIH restIH =>
      have head : Matched 0 "while (tape[ptr]) " := matched_of_check (by decide +kernel)
      -- the braces of the loop stand around the text of its body
      have closed := (matched_tabs depth).append
        (matched_closing.mpr (matched_newline.append (restIH depth)))
      have opened := matched_opening.mpr (matched_newline.append ((bodyIH (depth + 1)).append closed))
      have whole := (matched_tabs depth).append (head.append opened)
      have headEq : "while (tape[ptr]) \x7b" = "while (tape[ptr]) " ++ "\x7b" := by decide +kernel
      rw [printed, headEq]
      simpa only [String.append_assoc] using whole

/-- The brace that opens the main function is closed at the end. -/
theorem matched_code (dialect : Dialect) (length : TapeLength) {text : String}
    (isMatched : Matched 0 text) : Matched 0 (prologue dialect length ++ text ++ epilogue) := by
  have head : Matched 0
      (String.join (dialect.includes.map fun header => "#include " ++ header ++ "\n")
        ++ "\ntypedef unsigned char byte;\n\n" ++ dialect.mainHead ++ " ") := by
    cases dialect <;> exact matched_of_check (by decide +kernel)
  have array : Matched 0 ("\n\tbyte tape[" ++ toString length.count ++ "] = \x7b0\x7d;\n\t") :=
    ((matched_of_check (by decide +kernel)).append (matched_number length.count)).append
      (matched_of_check (by decide +kernel))
  have index : Matched 0 (dialect.qualifier ++ "size_t ptr = 0;\n") := by
    cases dialect <;> exact matched_of_check (by decide +kernel)
  have returned : Matched 0 "\treturn 0;\n" := matched_of_check (by decide +kernel)
  have closed := returned.append (matched_closing.mpr matched_newline)
  have opened := matched_opening.mpr (array.append (index.append (isMatched.append closed)))
  have textEq : prologue dialect length ++ text ++ epilogue =
      String.join (dialect.includes.map fun header => "#include " ++ header ++ "\n")
        ++ "\ntypedef unsigned char byte;\n\n" ++ dialect.mainHead ++ " " ++
      ("\x7b" ++ ("\n\tbyte tape[" ++ toString length.count ++ "] = \x7b0\x7d;\n\t" ++
        (dialect.qualifier ++ "size_t ptr = 0;\n" ++
          (text ++ ("\treturn 0;\n" ++ ("\x7d" ++ "\n")))))) := by
    apply String.toList_injective
    simp [prologue, epilogue]
  rw [textEq]
  exact head.append opened

/-! ## Generated code -/

theorem linesText_eq_join (lines : List Line) :
    linesText lines =
      String.join ((lines.map fun line => tabs line.depth ++ line.content).map (· ++ "\n")) := by
  rw [List.map_map]
  rfl

/-- Wherever a loop may end, the depth is above that of the main function. -/
theorem depth_add_one_of_add_loopEnd {dialect : Dialect} {last : Nat} {draft next : Draft}
    (depthEq : draft.depth = draft.openings.length + 1)
    (added : draft.add dialect last .loopEnd = .ok next) : next.depth + 1 = draft.depth := by
  cases openingsEq : draft.openings with
  | nil => simp [Draft.add, openingsEq] at added
  | cons opening outer =>
      simp only [Draft.add, openingsEq] at added
      cases added
      simp [Draft.addLine, depthEq]

theorem generate_ne_format (dialect : Dialect) (length : TapeLength)
    (instructions : List Instruction) : generate dialect length instructions ≠ .error .format := by
  have checked := map_generate dialect length instructions
  intro failed
  rw [failed] at checked
  cases found : Brackets.check [] (Instruction.indexed 0 instructions) with
  | none =>
      rw [found] at checked
      cases checked
  | some fault =>
      rw [found] at checked
      cases fault <;> cases checked

theorem exists_block_of_generate {dialect : Dialect} {length : TapeLength}
    {instructions : List Instruction} {text : String}
    (generated : generate dialect length instructions = .ok text) :
    ∃ block : Block, Block.ofList? instructions = some block ∧
      text = prologue dialect length ++ printed dialect length.last 1 block ++ epilogue := by
  obtain ⟨program, built⟩ := exists_ofList_of_generate generated
  have listEq := Program.toList_block_of_ofList built
  refine ⟨program.block, Block.ofList?_eq_some_iff.mpr listEq, ?_⟩
  rw [← listEq, generate_toList] at generated
  cases generated
  rw [linesText_append, linesText_append, linesText_preamble, linesText_blockLines,
    linesText_ending]

/-- Generated code is the text that is printed along the nested block of its instructions.
Each instruction has one line of its own, indented by one tab and one more for each loop
around it, and the braces match.  While the code is written, the depth is that of the
open loops, so that a loop end, which takes it back, never finds it at zero; and the code
can always be formatted. -/
theorem generate_eq_printed (dialect : Dialect) (length : TapeLength)
    (instructions : List Instruction) :
    generate dialect length instructions ≠ .error .format ∧
    (∀ front draft, front <+: instructions →
      front.foldlM (Draft.add dialect length.last) {} = .ok draft →
        draft.depth = draft.openings.length + 1 ∧
        ∀ next, draft.add dialect length.last .loopEnd = .ok next →
          next.depth + 1 = draft.depth) ∧
    ∀ text, generate dialect length instructions = .ok text →
      (∃ block, Block.ofList? instructions = some block ∧
        text = prologue dialect length ++ printed dialect length.last 1 block ++ epilogue) ∧
      (∃ lines : List String,
        text = prologue dialect length ++ String.join (lines.map (· ++ "\n")) ++ epilogue ∧
        lines.length = instructions.length ∧
        ∀ index instruction, instructions[index]? = some instruction →
          lines[index]? = some (tabs (loopsAround instructions index + 1) ++
            statement dialect length.last instruction) ∧
          FitsLine (statement dialect length.last instruction)) ∧
      BracesMatch text := by
  refine ⟨generate_ne_format dialect length instructions, ?_, ?_⟩
  · intro front draft isPrefix added
    have depthEq := (laidOut_of_foldlM isPrefix added).depth_eq
    exact ⟨depthEq, fun next addedEnd => depth_add_one_of_add_loopEnd depthEq addedEnd⟩
  · intro text generated
    obtain ⟨block, found, printedEq⟩ := exists_block_of_generate generated
    obtain ⟨lines, written, textEq⟩ := generate_eq_ok_iff.mp generated
    have linesEq := eq_mapIdx_of_body written
    refine ⟨⟨block, found, printedEq⟩, ?_, ?_⟩
    · refine ⟨lines.map fun line => tabs line.depth ++ line.content, ?_, ?_, ?_⟩
      · rw [textEq, linesText_eq_join]
      · rw [linesEq, List.length_map, List.length_mapIdx]
      · intro index instruction here
        rw [linesEq, List.getElem?_map, List.getElem?_mapIdx, here]
        exact ⟨rfl, fitsLine_statement dialect length.last instruction⟩
    · rw [printedEq]
      exact bracesMatch_of_matched
        (matched_code dialect length (matched_printed dialect length.last 1 block))

theorem generate_eq_printed_nested :
    ∃ text block,
      generate .c ⟨1, by decide⟩ [.loopStart, .loopStart, .decrement, .loopEnd, .loopEnd] =
        .ok text ∧
      Block.ofList? [.loopStart, .loopStart, .decrement, .loopEnd, .loopEnd] = some block ∧
      text = prologue .c ⟨1, by decide⟩ ++ printed .c 0 1 block ++ epilogue ∧
      loopsAround [.loopStart, .loopStart, .decrement, .loopEnd, .loopEnd] 2 = 2 ∧
      (∃ draft, [.loopStart, .loopStart].foldlM (Draft.add .c 0) {} = .ok draft ∧
        draft.depth = 3) ∧
      BracesMatch text := by
  obtain ⟨-, depths, texts⟩ :=
    generate_eq_printed .c ⟨1, by decide⟩ [.loopStart, .loopStart, .decrement, .loopEnd, .loopEnd]
  obtain ⟨⟨block, found, textEq⟩, -, bracesMatch⟩ := texts _ rfl
  obtain ⟨depthEq, -⟩ := depths [.loopStart, .loopStart] _ (by decide) rfl
  exact ⟨_, block, rfl, found, textEq, rfl, ⟨_, rfl, depthEq⟩, bracesMatch⟩

end CCode

end Brainfuck
