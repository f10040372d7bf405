import Brainfuck.Proofs.CCode.Lines
import Mathlib.Data.List.Nodup

/-!
# Decoding generated code

Generated code can be read back.  Its headers tell the dialect, the declaration of the
array tells the length of the tape, and each line of the body is the statement of one
instruction.  The indentation of a line does not matter.
-/

namespace Brainfuck

namespace CCode

/-! ## Contents of lines -/

/-- The lines of a text, without their newlines. -/
def textLines (text : String) : List String :=
  (text.toList.splitOn '\n').map String.ofList

def Line.indented (line : Line) : String :=
  String.ofList (List.replicate line.depth '\t') ++ line.content

/-- The lines of a text, without their newlines and the tabs in front of them. -/
def contents (text : String) : List String :=
  (text.toList.splitOn '\n').map fun line => String.ofList (line.dropWhile (· == '\t'))

/-- What can stand behind the indentation of a single line. -/
def FitsLine (content : String) : Prop :=
  '\n' ∉ content.toList ∧ content.toList.head? ≠ some '\t'

instance (content : String) : Decidable (FitsLine content) :=
  inferInstanceAs (Decidable (_ ∧ _))

theorem dropWhile_tabs {content : String} (fits : FitsLine content) (depth : Nat) :
    (List.replicate depth '\t' ++ content.toList).dropWhile (· == '\t') = content.toList := by
  rw [List.dropWhile_append_of_pos (by simp)]
  obtain ⟨-, noTab⟩ := fits
  cases chars : content.toList with
  | nil => rfl
  | cons first rest =>
      rw [chars] at noTab
      apply List.dropWhile_cons_of_neg
      simpa using noTab

theorem textLines_linesText {lines : List Line} (fit : ∀ line ∈ lines, FitsLine line.content) :
    textLines (linesText lines) = lines.map Line.indented ++ [""] := by
  induction lines with
  | nil => rfl
  | cons line rest ih =>
      obtain ⟨fits, restFit⟩ := List.forall_mem_cons.mp fit
      have textEq : (linesText (line :: rest)).toList =
          line.indented.toList ++ '\n' :: (linesText rest).toList := by
        simp [linesText, Line.text, Line.indented, String.join_cons]
      have noNewline : '\n' ∉ line.indented.toList := by
        simp [Line.indented, fits.1]
      rw [textLines, textEq, List.splitOn_append_cons_self_of_not_mem noNewline, List.map_cons,
        String.ofList_toList, List.map_cons, List.cons_append]
      exact congrArg _ (ih restFit)

theorem contents_linesText {lines : List Line} (fit : ∀ line ∈ lines, FitsLine line.content) :
    contents (linesText lines) = lines.map Line.content ++ [""] := by
  have linesEq : contents (linesText lines) =
      (textLines (linesText lines)).map fun line =>
        String.ofList (line.toList.dropWhile (· == '\t')) := by
    simp [contents, textLines, Function.comp_def]
  rw [linesEq, textLines_linesText fit, List.map_append, List.map_map]
  congr 1
  apply List.map_congr_left
  intro line member
  simp only [Function.comp_apply, Line.indented, String.toList_append, String.toList_ofList,
    dropWhile_tabs (fit line member), String.ofList_toList]

theorem fitsLine_number {front back : String} (frontFits : FitsLine front)
    (notEmpty : front ≠ "") (backFits : '\n' ∉ back.toList) (number : Nat) :
    FitsLine (front ++ toString number ++ back) := by
  obtain ⟨noNewline, noTab⟩ := frontFits
  have notEmptyList : front.toList ≠ [] := by simpa using notEmpty
  have noDigit : '\n' ∉ Nat.toDigits 10 number := by
    intro member
    have isDigit := Nat.isDigit_of_mem_toDigits (by decide) (by decide) member
    revert isDigit
    decide
  constructor
  · simp [noNewline, noDigit, backFits]
  · rwa [String.append_assoc, String.toList_append, List.head?_append_of_ne_nil _ notEmptyList]

/-! ## Declarations -/

def headLines (dialect : Dialect) : List Line :=
  dialect.includes.map (fun header => ⟨0, "#include " ++ header⟩) ++
    [⟨0, ""⟩, ⟨0, "typedef unsigned char byte;"⟩, ⟨0, ""⟩, ⟨0, dialect.mainHead ++ " \x7b"⟩]

def declaration (length : TapeLength) : String :=
  "byte tape[" ++ toString length.count ++ "] = \x7b0\x7d;"

theorem preamble_eq (dialect : Dialect) (length : TapeLength) :
    preamble dialect length =
      headLines dialect ++ [⟨1, declaration length⟩, ⟨1, dialect.qualifier ++ "size_t ptr = 0;"⟩] := by
  simp [preamble, headLines, declaration]

theorem fitsLine_preamble (dialect : Dialect) (length : TapeLength) :
    ∀ line ∈ preamble dialect length, FitsLine line.content := by
  have head : ∀ line ∈ headLines dialect, FitsLine line.content := by
    cases dialect <;> decide +kernel
  have array : FitsLine (declaration length) :=
    fitsLine_number (by decide +kernel) (by decide) (by decide +kernel) length.count
  have index : FitsLine (dialect.qualifier ++ "size_t ptr = 0;") := by
    cases dialect <;> decide +kernel
  intro line member
  rw [preamble_eq] at member
  rcases List.mem_append.mp member with early | late
  · exact head line early
  · obtain rfl | rfl : line = ⟨1, declaration length⟩ ∨
        line = ⟨1, dialect.qualifier ++ "size_t ptr = 0;"⟩ := by simpa using late
    · exact array
    · exact index

/-! ## Statements -/

theorem fitsLine_statement (dialect : Dialect) (last : Nat) (instruction : Instruction) :
    FitsLine (statement dialect last instruction) := by
  have fixed : ∀ instruction ∈ Instruction.all, FitsLine (statement dialect 0 instruction) := by
    cases dialect <;> decide +kernel
  cases instruction with
  | moveRight => exact fitsLine_number (by decide +kernel) (by decide) (by decide +kernel) last
  | moveLeft => exact fitsLine_number (by decide +kernel) (by decide) (by decide +kernel) last
  | increment => exact fixed .increment (Instruction.mem_all _)
  | decrement => exact fixed .decrement (Instruction.mem_all _)
  | input => exact fixed .input (Instruction.mem_all _)
  | output => exact fixed .output (Instruction.mem_all _)
  | loopStart => exact fixed .loopStart (Instruction.mem_all _)
  | loopEnd => exact fixed .loopEnd (Instruction.mem_all _)

/-- The end of a content, last character first. -/
def lastChars (content : String) : List Char :=
  content.toList.reverse.take 5

theorem lastChars_append {back : String} (long : 5 ≤ back.toList.length) (front : String) :
    lastChars (front ++ back) = lastChars back := by
  rw [lastChars, String.toList_append, List.reverse_append,
    List.take_append_of_le_length (by simpa using long)]
  rfl

/-- A statement is known by its end, in which there is no number. -/
theorem lastChars_statement (dialect : Dialect) (last : Nat) (instruction : Instruction) :
    lastChars (statement dialect last instruction) =
      lastChars (statement dialect 0 instruction) := by
  cases instruction with
  | moveRight =>
      have ends (number : Nat) : lastChars (statement dialect number .moveRight) =
          lastChars ") ? 0 : ptr + 1;" := lastChars_append (by decide +kernel) _
      rw [ends, ends]
  | moveLeft =>
      have ends (number : Nat) : lastChars (statement dialect number .moveLeft) =
          lastChars " : ptr - 1;" := lastChars_append (by decide +kernel) _
      rw [ends, ends]
  | _ => rfl

theorem nodup_lastChars (dialect : Dialect) :
    (lastChars "return 0;" ::
      Instruction.all.map fun instruction => lastChars (statement dialect 0 instruction)).Nodup := by
  cases dialect <;> decide +kernel

theorem statement_injective (dialect : Dialect) (last : Nat) :
    Function.Injective (statement dialect last) := by
  intro first second same
  have distinct := (List.nodup_cons.mp (nodup_lastChars dialect)).2
  apply List.inj_on_of_nodup_map distinct (Instruction.mem_all first) (Instruction.mem_all second)
  rw [← lastChars_statement dialect last first, same, lastChars_statement]

theorem statement_ne_return (dialect : Dialect) (last : Nat) (instruction : Instruction) :
    statement dialect last instruction ≠ "return 0;" := by
  intro same
  apply (List.nodup_cons.mp (nodup_lastChars dialect)).1
  rw [← same, lastChars_statement]
  exact List.mem_map_of_mem (Instruction.mem_all instruction)

/-! ## Reading back -/

structure Origin where
  dialect : Dialect
  length : TapeLength
  instructions : List Instruction
  deriving DecidableEq

def dialectOf? (lines : List String) : Option Dialect :=
  Dialect.all.find? fun dialect =>
    (dialect.includes.map fun header => "#include " ++ header).isPrefixOf lines

def declaredLength? (content : String) : Option TapeLength := do
  let behind ← content.toList.dropPrefix? "byte tape[".toList
  if behind.dropWhile Char.isDigit = "] = \x7b0\x7d;".toList then
    TapeLength.ofNat? (Nat.ofDigitChars 10 (behind.takeWhile Char.isDigit) 0)
  else none

def instructionOf? (dialect : Dialect) (last : Nat) (content : String) : Option Instruction :=
  Instruction.all.find? fun instruction => statement dialect last instruction = content

/-- The instructions of the lines up to the end of the main function. -/
def bodyOf? (dialect : Dialect) (last : Nat) : List String → Option (List Instruction)
  | [] => none
  | content :: behind =>
      if content = "return 0;" then
        if behind = ["\x7d", ""] then some [] else none
      else do
        let instruction ← instructionOf? dialect last content
        let rest ← bodyOf? dialect last behind
        return instruction :: rest

def originOf? (lines : List String) : Option Origin := do
  let dialect ← dialectOf? lines
  let length ← lines.findSome? declaredLength?
  let instructions ← bodyOf? dialect length.last (lines.drop (preamble dialect length).length)
  return ⟨dialect, length, instructions⟩

def decode? (text : String) : Option Origin :=
  originOf? (contents text)

theorem dialectOf?_preamble (dialect : Dialect) (length : TapeLength) (behind : List String) :
    dialectOf? ((preamble dialect length).map Line.content ++ behind) = some dialect := by
  cases dialect <;> rfl

theorem declaredLength?_declaration (length : TapeLength) :
    declaredLength? (declaration length) = some length := by
  have digits : ∀ char ∈ Nat.toDigits 10 length.count, char.isDigit = true :=
    fun char member => Nat.isDigit_of_mem_toDigits (by decide) (by decide) member
  have charsEq : (declaration length).toList =
      "byte tape[".toList ++ (Nat.toDigits 10 length.count ++ "] = \x7b0\x7d;".toList) := by
    simp [declaration]
  have behindDigits : "] = \x7b0\x7d;".toList.dropWhile Char.isDigit = "] = \x7b0\x7d;".toList := by
    decide +kernel
  have noDigits : "] = \x7b0\x7d;".toList.takeWhile Char.isDigit = [] := by decide +kernel
  rw [declaredLength?, charsEq, List.dropPrefix?_append_of_beq _ (by simp)]
  simp only [Option.bind_eq_bind, Option.bind_some, List.dropWhile_append_of_pos digits,
    List.takeWhile_append_of_pos digits, behindDigits, noDigits, if_true, List.append_nil,
    Nat.ofDigitChars_ten_toDigits]
  exact dif_pos length.count_pos

theorem findSome?_preamble (dialect : Dialect) (length : TapeLength) (behind : List String) :
    ((preamble dialect length).map Line.content ++ behind).findSome? declaredLength? =
      some length := by
  have noLength : ∀ content ∈ (headLines dialect).map Line.content,
      declaredLength? content = none := by
    cases dialect <;> decide +kernel
  rw [preamble_eq, List.map_append, List.append_assoc, List.findSome?_append,
    List.findSome?_eq_none_iff.mpr noLength, Option.none_or, List.map_cons, List.cons_append,
    List.findSome?_cons, declaredLength?_declaration]

theorem instructionOf?_statement (dialect : Dialect) (last : Nat) (instruction : Instruction) :
    instructionOf? dialect last (statement dialect last instruction) = some instruction := by
  cases found : instructionOf? dialect last (statement dialect last instruction) with
  | none =>
      have absent := List.find?_eq_none.mp found instruction (Instruction.mem_all instruction)
      simp at absent
  | some other =>
      have same := List.find?_some found
      rw [statement_injective dialect last (of_decide_eq_true same)]

/-- The closing brace of a loop is not that of the main function, which comes after the
line that returns. -/
theorem bodyOf?_statements (dialect : Dialect) (last : Nat) (instructions : List Instruction) :
    bodyOf? dialect last
        (instructions.map (statement dialect last) ++ ["return 0;", "\x7d", ""]) =
      some instructions := by
  induction instructions with
  | nil => rfl
  | cons instruction rest ih =>
      rw [List.map_cons, List.cons_append, bodyOf?,
        if_neg (statement_ne_return dialect last instruction), instructionOf?_statement, ih]
      rfl

theorem originOf?_lines (dialect : Dialect) (length : TapeLength)
    (instructions : List Instruction) :
    originOf? ((preamble dialect length).map Line.content ++
        (instructions.map (statement dialect length.last) ++ ["return 0;", "\x7d", ""])) =
      some ⟨dialect, length, instructions⟩ := by
  have dropped (behind : List String) :
      ((preamble dialect length).map Line.content ++ behind).drop (preamble dialect length).length =
        behind :=
    List.drop_left' (List.length_map _)
  rw [originOf?, dialectOf?_preamble, Option.bind_eq_bind, Option.bind_some, findSome?_preamble,
    Option.bind_eq_bind, Option.bind_some, dropped, bodyOf?_statements]
  rfl

/-! ## Generated code -/

/-- What a text is read as does not depend on the depths of its lines. -/
theorem decode?_linesText {lines : List Line} (fit : ∀ line ∈ lines, FitsLine line.content) :
    decode? (linesText lines) = originOf? (lines.map Line.content ++ [""]) := by
  rw [decode?, contents_linesText fit]

theorem map_content_blockLines (dialect : Dialect) (last depth : Nat) (block : Block) :
    (blockLines dialect last depth block).map Line.content =
      block.toList.map (statement dialect last) := by
  induction block generalizing depth with
  | done => rfl
  | plain instruction isPlain rest ih => simp [blockLines, Block.toList, ih]
  | loop body rest bodyIH restIH => simp [blockLines, Block.toList, bodyIH, restIH]

theorem fitsLine_code (dialect : Dialect) (length : TapeLength) (block : Block) :
    ∀ line ∈ preamble dialect length ++ blockLines dialect length.last 1 block ++ ending,
      FitsLine line.content := by
  have bodyFits : ∀ line ∈ blockLines dialect length.last 1 block, FitsLine line.content := by
    intro line member
    have contentMember := List.mem_map_of_mem (f := Line.content) member
    rw [map_content_blockLines] at contentMember
    obtain ⟨instruction, -, contentEq⟩ := List.mem_map.mp contentMember
    rw [← contentEq]
    exact fitsLine_statement dialect length.last instruction
  have endingFits : ∀ line ∈ ending, FitsLine line.content := by decide +kernel
  intro line member
  rcases List.mem_append.mp member with early | late
  · rcases List.mem_append.mp early with first | middle
    · exact fitsLine_preamble dialect length line first
    · exact bodyFits line middle
  · exact endingFits line late

theorem decode?_of_block (dialect : Dialect) (length : TapeLength) (block : Block) :
    decode? (linesText (preamble dialect length ++ blockLines dialect length.last 1 block ++
        ending)) =
      some ⟨dialect, length, block.toList⟩ := by
  rw [decode?_linesText (fitsLine_code dialect length block), List.map_append, List.map_append,
    map_content_blockLines, List.append_assoc, List.append_assoc]
  exact originOf?_lines dialect length block.toList

theorem decode?_of_generate {dialect : Dialect} {length : TapeLength}
    {instructions : List Instruction} {text : String}
    (generated : generate dialect length instructions = .ok text) :
    decode? text = some ⟨dialect, length, instructions⟩ := by
  obtain ⟨program, built⟩ := exists_ofList_of_generate generated
  have listEq := Program.toList_block_of_ofList built
  rw [← listEq, generate_toList] at generated
  cases generated
  rw [decode?_of_block, listEq]

/-- Generated code can be decoded, so it is generated in one way only. -/
theorem generate_decodable {dialect : Dialect} {length : TapeLength}
    {instructions : List Instruction} {text : String}
    (generated : generate dialect length instructions = .ok text) :
    decode? text = some ⟨dialect, length, instructions⟩ ∧
      ∀ otherDialect otherLength otherInstructions,
        generate otherDialect otherLength otherInstructions = .ok text →
          otherLength = length ∧ otherDialect = dialect ∧ otherInstructions = instructions := by
  have decoded := decode?_of_generate generated
  refine ⟨decoded, ?_⟩
  intro otherDialect otherLength otherInstructions otherGenerated
  have same := decode?_of_generate otherGenerated
  rw [decoded] at same
  cases same
  exact ⟨rfl, rfl, rfl⟩

/-- On a single cell both moves mention the index zero only. -/
theorem generate_decodable_single_cell :
    ∃ text,
      generate .cpp ⟨1, by decide⟩ [.moveRight, .loopStart, .moveLeft, .input, .loopEnd] =
        .ok text ∧
      decode? text =
        some ⟨.cpp, ⟨1, by decide⟩, [.moveRight, .loopStart, .moveLeft, .input, .loopEnd]⟩ ∧
      ∀ dialect length instructions, generate dialect length instructions = .ok text →
        length = ⟨1, by decide⟩ ∧ dialect = .cpp ∧
          instructions = [.moveRight, .loopStart, .moveLeft, .input, .loopEnd] :=
  ⟨_, rfl, generate_decodable rfl⟩

end CCode

end Brainfuck
