import Brainfuck.Proofs.CCode.Decoding
import Mathlib.Data.List.Forall2

/-!
# Respelling code

The dialects differ in spelling only.  The C code of a list of instructions is its C++ code
with the lines of its own replaced, which are the includes and the head of the main function,
and with every `std::` deleted from the others.  Each line keeps its indentation.
-/

namespace Brainfuck

/-- The lines in which a dialect differs from the other by more than qualifiers. -/
def Dialect.ownLines (dialect : Dialect) : List String :=
  dialect.includes.map ("#include " ++ ·) ++ [dialect.mainHead ++ " \x7b"]

namespace CCode

/-! ## Deleting qualifiers -/

/-- The characters of a text without the places where they say `std::`, which are looked for
from left to right. -/
def deleteStd : List Char → List Char
  | 's' :: 't' :: 'd' :: ':' :: ':' :: rest => deleteStd rest
  | char :: rest => char :: deleteStd rest
  | [] => []

def withoutStd (text : String) : String :=
  String.ofList (deleteStd text.toList)

theorem deleteStd_cons_of_ne {char : Char} (other : char ≠ 's') (rest : List Char) :
    deleteStd (char :: rest) = char :: deleteStd rest := by
  rw [deleteStd]
  rintro _ rfl
  contradiction

theorem deleteStd_append_of_not_mem {front : List Char} (absent : 's' ∉ front)
    (behind : List Char) : deleteStd (front ++ behind) = front ++ deleteStd behind := by
  induction front with
  | nil => rfl
  | cons char front ih =>
      rw [List.mem_cons, not_or] at absent
      rw [List.cons_append, deleteStd_cons_of_ne (Ne.symm absent.1), ih absent.2,
        List.cons_append]

theorem withoutStd_append_of_not_mem {front : String} (absent : 's' ∉ front.toList)
    (behind : String) : withoutStd (front ++ behind) = front ++ withoutStd behind := by
  rw [withoutStd, String.toList_append, deleteStd_append_of_not_mem absent, String.ofList_append,
    String.ofList_toList, withoutStd]

theorem withoutStd_of_not_mem {text : String} (absent : 's' ∉ text.toList) :
    withoutStd text = text := by
  have appended := withoutStd_append_of_not_mem absent ""
  rwa [String.append_empty, show withoutStd "" = "" from rfl, String.append_empty] at appended

/-- A number inside a line says nothing that could be deleted. -/
theorem withoutStd_number {front back : String} (frontAbsent : 's' ∉ front.toList)
    (backAbsent : 's' ∉ back.toList) (number : Nat) :
    withoutStd (front ++ toString number ++ back) = front ++ toString number ++ back := by
  apply withoutStd_of_not_mem
  have noDigit : 's' ∉ Nat.toDigits 10 number := by
    intro member
    have isDigit := Nat.isDigit_of_mem_toDigits (by decide) (by decide) member
    revert isDigit
    decide
  simp [frontAbsent, backAbsent, noDigit]

theorem withoutStd_statement (last : Nat) (instruction : Instruction) :
    withoutStd (statement .cpp last instruction) = statement .c last instruction := by
  have fixed : ∀ instruction ∈ Instruction.all,
      withoutStd (statement .cpp 0 instruction) = statement .c 0 instruction := by decide +kernel
  cases instruction with
  | moveRight => exact withoutStd_number (by decide +kernel) (by decide +kernel) last
  | moveLeft => exact withoutStd_number (by decide +kernel) (by decide +kernel) last
  | increment => exact fixed .increment (Instruction.mem_all _)
  | decrement => exact fixed .decrement (Instruction.mem_all _)
  | input => exact fixed .input (Instruction.mem_all _)
  | output => exact fixed .output (Instruction.mem_all _)
  | loopStart => exact fixed .loopStart (Instruction.mem_all _)
  | loopEnd => exact fixed .loopEnd (Instruction.mem_all _)

example : withoutStd "(void)std::fputc(tape[ptr], stdout);" =
    "(void)fputc(tape[ptr], stdout);" := by decide +kernel

/-! ## Respelled lines -/

def respelledLine (line : String) : String :=
  ((Dialect.cpp.ownLines.zip Dialect.c.ownLines).lookup line).getD (withoutStd line)

def respelled (text : String) : String :=
  "\n".intercalate ((textLines text).map respelledLine)

theorem intercalate_textLines (text : String) : "\n".intercalate (textLines text) = text := by
  apply String.toList_injective
  rw [String.toList_intercalate, textLines, List.map_map]
  have charsEq : String.toList ∘ String.ofList = id := funext fun _ => String.toList_ofList
  rw [charsEq, List.map_id]
  exact List.intercalate_splitOn '\n'

/-- A C line and the C++ line from which it is respelled. -/
structure Respells (line other : Line) : Prop where
  depth_eq : line.depth = other.depth
  indented_eq : line.indented = respelledLine other.indented

/-- An indented line is none of those that a dialect has for its own. -/
theorem indented_not_mem_ownLines (dialect : Dialect) {line : Line} (deep : 0 < line.depth) :
    line.indented ∉ dialect.ownLines := by
  obtain ⟨depth, content⟩ := line
  obtain ⟨depth, rfl⟩ := Nat.exists_eq_succ_of_ne_zero (Nat.pos_iff_ne_zero.mp deep)
  have firstChar : (Line.indented ⟨depth + 1, content⟩).toList.head? = some '\t' := by
    simp [Line.indented, List.replicate_succ]
  have ownFirst : ∀ own ∈ dialect.ownLines, own.toList.head? ≠ some '\t' := by
    cases dialect <;> decide +kernel
  intro member
  exact ownFirst _ member firstChar

theorem respelledLine_of_not_mem {line : String} (notOwn : line ∉ Dialect.cpp.ownLines) :
    respelledLine line = withoutStd line := by
  have notFound : (Dialect.cpp.ownLines.zip Dialect.c.ownLines).lookup line = none := by
    rw [List.lookup_eq_none_iff]
    intro pair member
    have own := (List.of_mem_zip member).1
    have other : line ≠ pair.1 := fun same => notOwn (same ▸ own)
    simpa using other
  rw [respelledLine, notFound, Option.getD_none]

theorem respells_of_content {content otherContent : String} {depth : Nat} (deep : 0 < depth)
    (contentEq : withoutStd otherContent = content) :
    Respells ⟨depth, content⟩ ⟨depth, otherContent⟩ where
  depth_eq := rfl
  indented_eq := by
    have tabsOnly : 's' ∉ (String.ofList (List.replicate depth '\t')).toList := by simp
    rw [respelledLine_of_not_mem (indented_not_mem_ownLines .cpp deep), Line.indented,
      Line.indented, withoutStd_append_of_not_mem tabsOnly, contentEq]

/-- Fixed lines are checked pair by pair. -/
theorem forall₂_respells_of_zip {lines others : List Line} (lengthEq : lines.length = others.length)
    (checked : ∀ pair ∈ lines.zip others,
      pair.1.depth = pair.2.depth ∧ pair.1.indented = respelledLine pair.2.indented) :
    List.Forall₂ Respells lines others := by
  rw [List.forall₂_iff_zip]
  refine ⟨lengthEq, fun member => ?_⟩
  obtain ⟨depthEq, indentedEq⟩ := checked _ member
  exact ⟨depthEq, indentedEq⟩

theorem forall₂_respells_preamble (length : TapeLength) :
    List.Forall₂ Respells (preamble .c length) (preamble .cpp length) := by
  have head : List.Forall₂ Respells (headLines .c) (headLines .cpp) :=
    forall₂_respells_of_zip (by decide) (by decide +kernel)
  have array : withoutStd (declaration length) = declaration length :=
    withoutStd_number (by decide +kernel) (by decide +kernel) length.count
  have index : withoutStd (Dialect.cpp.qualifier ++ "size_t ptr = 0;") =
      Dialect.c.qualifier ++ "size_t ptr = 0;" := by decide +kernel
  rw [preamble_eq, preamble_eq]
  apply List.rel_append head
  exact .cons (respells_of_content Nat.one_pos array)
    (.cons (respells_of_content Nat.one_pos index) .nil)

theorem forall₂_respells_blockLines (last : Nat) {depth : Nat} (deep : 0 < depth)
    (block : Block) :
    List.Forall₂ Respells (blockLines .c last depth block) (blockLines .cpp last depth block) := by
  induction block generalizing depth with
  | done => exact .nil
  | plain instruction isPlain rest ih =>
      exact .cons (respells_of_content deep (withoutStd_statement last instruction)) (ih deep)
  | loop body rest bodyIH restIH =>
      have opened := respells_of_content deep (withoutStd_statement last .loopStart)
      have closed := respells_of_content deep (withoutStd_statement last .loopEnd)
      have behind := List.Forall₂.cons closed (restIH deep)
      exact .cons opened (List.rel_append (bodyIH (Nat.succ_pos depth)) behind)

/-! ## Respelled code -/

def codeLines (dialect : Dialect) (length : TapeLength) (block : Block) : List Line :=
  preamble dialect length ++ blockLines dialect length.last 1 block ++ ending

theorem forall₂_respells_codeLines (length : TapeLength) (block : Block) :
    List.Forall₂ Respells (codeLines .c length block) (codeLines .cpp length block) := by
  have last : List.Forall₂ Respells ending ending :=
    forall₂_respells_of_zip rfl (by decide +kernel)
  exact List.rel_append
    (List.rel_append (forall₂_respells_preamble length)
      (forall₂_respells_blockLines length.last Nat.one_pos block)) last

theorem textLines_codeLines (dialect : Dialect) (length : TapeLength) (block : Block) :
    textLines (linesText (codeLines dialect length block)) =
      (codeLines dialect length block).map Line.indented ++ [""] :=
  textLines_linesText (fitsLine_code dialect length block)

theorem linesText_codeLines_eq_respelled (length : TapeLength) (block : Block) :
    linesText (codeLines .c length block) =
      respelled (linesText (codeLines .cpp length block)) := by
  have indentedEq : (codeLines .c length block).map Line.indented =
      ((codeLines .cpp length block).map Line.indented).map respelledLine := by
    rw [← List.forall₂_eq_eq_eq, List.forall₂_map_right_iff, List.forall₂_map_right_iff,
      List.forall₂_map_left_iff]
    exact (forall₂_respells_codeLines length block).imp fun _ _ spelled => spelled.indented_eq
  have emptyEq : [""].map respelledLine = [""] := by decide +kernel
  rw [respelled, textLines_codeLines, List.map_append, ← indentedEq, emptyEq,
    ← textLines_codeLines, intercalate_textLines]

/-- The number of tabs in front of a line. -/
def indentation (line : String) : Nat :=
  (line.toList.takeWhile (· == '\t')).length

theorem indentation_indented {line : Line} (fits : FitsLine line.content) :
    indentation line.indented = line.depth := by
  obtain ⟨depth, content⟩ := line
  have noTab : content.toList.takeWhile (· == '\t') = [] := by
    obtain ⟨-, notFirst⟩ := fits
    cases chars : content.toList with
    | nil => rfl
    | cons first rest =>
        rw [chars] at notFirst
        exact List.takeWhile_cons_of_neg (by simpa using notFirst)
  rw [indentation, Line.indented, String.toList_append, String.toList_ofList,
    List.takeWhile_append_of_pos (by simp), noTab, List.append_nil, List.length_replicate]

theorem map_indentation_codeLines (dialect : Dialect) (length : TapeLength) (block : Block) :
    (textLines (linesText (codeLines dialect length block))).map indentation =
      (codeLines dialect length block).map Line.depth ++ [0] := by
  have indentedEq : ((codeLines dialect length block).map Line.indented).map indentation =
      (codeLines dialect length block).map Line.depth := by
    rw [List.map_map]
    apply List.map_congr_left
    intro line member
    exact indentation_indented (fitsLine_code dialect length block line member)
  rw [textLines_codeLines, List.map_append, indentedEq]
  rfl

theorem forall₂_indentation_codeLines (length : TapeLength) (block : Block) :
    List.Forall₂ (fun line other => indentation line = indentation other)
      (textLines (linesText (codeLines .c length block)))
      (textLines (linesText (codeLines .cpp length block))) := by
  have depthEq : (codeLines .c length block).map Line.depth =
      (codeLines .cpp length block).map Line.depth := by
    rw [← List.forall₂_eq_eq_eq, List.forall₂_map_right_iff, List.forall₂_map_left_iff]
    exact (forall₂_respells_codeLines length block).imp fun _ _ spelled => spelled.depth_eq
  rw [← List.forall₂_map_right_iff, ← List.forall₂_map_left_iff, List.forall₂_eq_eq_eq,
    map_indentation_codeLines, map_indentation_codeLines, depthEq]

theorem le_depth_of_mem_blockLines {dialect : Dialect} {last depth : Nat} {block : Block}
    {line : Line} (member : line ∈ blockLines dialect last depth block) : depth ≤ line.depth := by
  induction block generalizing depth with
  | done => cases member
  | plain instruction isPlain rest ih =>
      rcases List.mem_cons.mp member with rfl | behind
      · exact Nat.le_refl depth
      · exact ih behind
  | loop body rest bodyIH restIH =>
      rcases List.mem_cons.mp member with rfl | behind
      · exact Nat.le_refl depth
      rcases List.mem_append.mp behind with inside | after
      · exact Nat.le_of_succ_le (bodyIH inside)
      rcases List.mem_cons.mp after with rfl | rest
      · exact Nat.le_refl depth
      · exact restIH rest

/-- The lines that a dialect has for its own are written once, in order. -/
theorem filter_ownLines_codeLines (dialect : Dialect) (length : TapeLength) (block : Block) :
    (textLines (linesText (codeLines dialect length block))).filter (· ∈ dialect.ownLines) =
      dialect.ownLines := by
  have head : ((headLines dialect).map Line.indented).filter (· ∈ dialect.ownLines) =
      dialect.ownLines := by
    cases dialect <;> decide +kernel
  have last : (ending.map Line.indented ++ [""]).filter (· ∈ dialect.ownLines) = [] := by
    cases dialect <;> decide +kernel
  have nothing (lines : List Line) (deep : ∀ line ∈ lines, 0 < line.depth) :
      (lines.map Line.indented).filter (· ∈ dialect.ownLines) = [] := by
    rw [List.filter_eq_nil_iff]
    intro indented member
    obtain ⟨line, lineMember, rfl⟩ := List.mem_map.mp member
    simpa using indented_not_mem_ownLines dialect (deep line lineMember)
  have declarations := nothing
    [⟨1, declaration length⟩, ⟨1, dialect.qualifier ++ "size_t ptr = 0;"⟩] (by simp)
  have body := nothing (blockLines dialect length.last 1 block) fun _ member =>
    le_depth_of_mem_blockLines member
  have split : (codeLines dialect length block).map Line.indented ++ [""] =
      (headLines dialect).map Line.indented ++
        ([⟨1, declaration length⟩, ⟨1, dialect.qualifier ++ "size_t ptr = 0;"⟩].map
            Line.indented ++
          ((blockLines dialect length.last 1 block).map Line.indented ++
            (ending.map Line.indented ++ [""]))) := by
    simp [codeLines, preamble_eq]
  rw [textLines_codeLines, split, List.filter_append, List.filter_append, List.filter_append,
    head, declarations, body, last, List.append_nil, List.append_nil, List.append_nil]

/-- Whether there is code for instructions, and why there is none, does not depend on the
dialect. -/
theorem exists_toList_or_error (length : TapeLength) (instructions : List Instruction) :
    (∃ block : Block, block.toList = instructions) ∨
      ∃ error, ∀ dialect, generate dialect length instructions = .error error := by
  cases checked : Brackets.check [] (Instruction.indexed 0 instructions) with
  | none =>
      obtain ⟨block, found⟩ := Block.check_indexed_eq_none_iff_ofList?.mp checked
      exact .inl ⟨block, Block.ofList?_eq_some_iff.mp found⟩
  | some fault =>
      refine .inr ⟨CodeError.ofFault fault, fun dialect => ?_⟩
      have refused := map_generate dialect length instructions
      rw [checked] at refused
      exact Brackets.eq_error_of_map_eq_verdict refused

/-- Either the instructions are refused alike in both dialects, or the C text is the C++ text
respelled: the lines that C++ has for its own, each of which is there once, become those of
C, and every `std::` is deleted from the other lines.  The texts have as many lines, which
are indented alike. -/
theorem generate_c_eq_respelled (length : TapeLength) (instructions : List Instruction) :
    (∃ error, generate .c length instructions = .error error ∧
      generate .cpp length instructions = .error error) ∨
    ∃ text other, generate .c length instructions = .ok text ∧
      generate .cpp length instructions = .ok other ∧
      text = respelled other ∧
      (textLines other).filter (· ∈ Dialect.cpp.ownLines) = Dialect.cpp.ownLines ∧
      (textLines text).length = (textLines other).length ∧
      List.Forall₂ (fun line otherLine => indentation line = indentation otherLine)
        (textLines text) (textLines other) := by
  obtain ⟨block, rfl⟩ | ⟨error, refused⟩ := exists_toList_or_error length instructions
  · have indentedAlike := forall₂_indentation_codeLines length block
    refine .inr ⟨linesText (codeLines .c length block), linesText (codeLines .cpp length block),
      generate_toList .c length block, generate_toList .cpp length block, ?_, ?_, ?_, ?_⟩
    · exact linesText_codeLines_eq_respelled length block
    · exact filter_ownLines_codeLines .cpp length block
    · exact indentedAlike.length_eq
    · exact indentedAlike
  · exact .inl ⟨error, refused .c, refused .cpp⟩

end CCode

end Brainfuck
