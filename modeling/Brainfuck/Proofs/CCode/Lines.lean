import Brainfuck.Proofs.Acceptance
import Brainfuck.Proofs.CCode.Syntax

/-!
# Lines of generated code

The code that is generated for a block has the lines of its instructions in
order.  Their tokens do not depend on the indentation, so a block has the same
tokens at every depth.
-/

namespace Brainfuck

namespace CCode

/-! ## Lines of blocks -/

def blockLines (dialect : Dialect) (last : Nat) : (depth : Nat) → Block → List Line
  | _, .done => []
  | depth, .plain instruction _ rest =>
      ⟨depth, statement dialect last instruction⟩ :: blockLines dialect last depth rest
  | depth, .loop body rest =>
      ⟨depth, statement dialect last .loopStart⟩ ::
        (blockLines dialect last (depth + 1) body ++
          ⟨depth, statement dialect last .loopEnd⟩ :: blockLines dialect last depth rest)

theorem add_plain (dialect : Dialect) (last : Nat) (draft : Draft) {instruction : Instruction}
    (isPlain : instruction.isBracket = false) :
    draft.add dialect last instruction =
      .ok (draft.addLine draft.depth draft.depth draft.openings
        (statement dialect last instruction)) := by
  cases instruction <;> first | rfl | contradiction

/-- Adding a block adds its lines and leaves the open loops alone. -/
theorem foldlM_add_append (dialect : Dialect) (last : Nat) (block : Block) (draft : Draft)
    (more : List Instruction) :
    (block.toList ++ more).foldlM (Draft.add dialect last) draft =
      more.foldlM (Draft.add dialect last) ⟨draft.index + block.size, draft.depth, draft.openings,
        (blockLines dialect last draft.depth block).reverse ++ draft.lines⟩ := by
  induction block generalizing draft more with
  | done => rfl
  | plain instruction isPlain rest ih =>
      rw [Block.toList, List.cons_append, List.foldlM_cons, add_plain dialect last draft isPlain]
      refine (ih _ more).trans ?_
      rw [Block.add_size_plain]
      simp [Draft.addLine, blockLines]
  | loop body rest bodyIH restIH =>
      have listEq : (Block.loop body rest).toList ++ more =
          .loopStart :: (body.toList ++ .loopEnd :: (rest.toList ++ more)) := by
        simp [Block.toList]
      rw [listEq, List.foldlM_cons]
      refine (bodyIH (draft.addLine _ _ _ _) _).trans ?_
      rw [List.foldlM_cons]
      refine (restIH (Draft.addLine _ _ _ _ _) more).trans ?_
      rw [Block.add_size_loop]
      simp [Draft.addLine, blockLines]

theorem generate_toList (dialect : Dialect) (length : TapeLength) (block : Block) :
    generate dialect length block.toList =
      .ok (linesText (preamble dialect length ++ blockLines dialect length.last 1 block ++
        ending)) := by
  have built := foldlM_add_append dialect length.last block {} []
  rw [List.append_nil, List.append_nil] at built
  have bodyEq : body dialect length block.toList =
      .ok (blockLines dialect length.last 1 block) := by
    rw [body, built]
    exact congrArg Except.ok (List.reverse_reverse _)
  rw [generate, bodyEq]
  rfl

theorem exists_ofList_of_generate {dialect : Dialect} {length : TapeLength}
    {instructions : List Instruction} {text : String}
    (generated : generate dialect length instructions = .ok text) :
    ∃ program, Program.ofList instructions = .ok program := by
  have checked := map_generate dialect length instructions
  rw [generated] at checked
  have built := Program.map_ofList instructions
  cases found : Brackets.check [] (Instruction.indexed 0 instructions) with
  | none =>
      rw [found] at built
      exact Brackets.exists_eq_ok_of_map_eq_verdict built
  | some fault =>
      rw [found] at checked
      cases checked

/-! ## Tokens of lines -/

def qualifierTokens : Dialect → List Token
  | .c => []
  | .cpp => [.std, .scope]

def statementTokens (dialect : Dialect) (last : Nat) : Instruction → List Token
  | .increment => [.tape, .openBracket, .ptr, .closeBracket, .plusPlus, .semicolon]
  | .decrement => [.tape, .openBracket, .ptr, .closeBracket, .minusMinus, .semicolon]
  | .moveRight =>
      [.ptr, .assign, .openParen, .ptr, .equals, .numeral last, .closeParen, .question,
        .numeral 0, .colon, .ptr, .plus, .numeral 1, .semicolon]
  | .moveLeft =>
      [.ptr, .assign, .openParen, .ptr, .equals, .numeral 0, .closeParen, .question,
        .numeral last, .colon, .ptr, .minus, .numeral 1, .semicolon]
  | .output =>
      [.openParen, .void, .closeParen] ++ qualifierTokens dialect ++
        [.fputc, .openParen, .tape, .openBracket, .ptr, .closeBracket, .comma, .stdout,
          .closeParen, .semicolon]
  | .input =>
      [.openBrace, .int, .tmp, .semicolon, .tape, .openBracket, .ptr, .closeBracket, .assign,
          .openParen, .openParen, .tmp, .assign] ++ qualifierTokens dialect ++
        [.fgetc, .openParen, .stdin, .closeParen, .closeParen, .differs, .eof, .closeParen,
          .question, .openParen, .byte, .closeParen, .tmp, .colon, .tape, .openBracket, .ptr,
          .closeBracket, .semicolon, .closeBrace]
  | .loopStart =>
      [.whileWord, .openParen, .tape, .openBracket, .ptr, .closeBracket, .closeParen, .openBrace]
  | .loopEnd => [.closeBrace]

def LexesAs (content : String) (tokens : List Token) : Prop :=
  scan .lineStart (content.toList ++ ['\n']) = (tokens, .lineStart)

instance (content : String) (tokens : List Token) : Decidable (LexesAs content tokens) :=
  inferInstanceAs (Decidable (_ = _))

/-- A line with a number inside has the tokens around the number and a numeral. -/
theorem lexesAs_number {front back : String} {next : Char} {behind : List Char}
    {middle : Pending} {tokens ended moreTokens : List Token}
    (backEq : back.toList = next :: behind)
    (first : scan .lineStart front.toList = (tokens, middle))
    (begins : ∀ digit < 10, middle.step digit.digitChar = (ended, .begin digit.digitChar))
    (notDigit : next.isDigit = false) (notLetter : isLetter next = false) (notDot : next ≠ '.')
    (second : scan (.begin next) (behind ++ ['\n']) = (moreTokens, .lineStart)) (number : Nat) :
    LexesAs (front ++ toString number ++ back)
      (tokens ++ ended ++ .numeral number :: moreTokens) := by
  have contentEq (digits : String) : (front ++ digits ++ back).toList ++ ['\n'] =
      front.toList ++ digits.toList ++ next :: (behind ++ ['\n']) := by
    simp [backEq]
  have scanned := scan_number first begins notDigit notLetter notDot second number
  exact (congrArg (scan .lineStart) (contentEq _)).trans scanned

theorem lexesAs_moveRight (dialect : Dialect) (last : Nat) :
    LexesAs (statement dialect last .moveRight) (statementTokens dialect last .moveRight) := by
  have front : scan .lineStart "ptr = (ptr == ".toList =
      ([.ptr, .assign, .openParen, .ptr, .equals], .blank) := by decide +kernel
  have back : scan (.begin ')') (" ? 0 : ptr + 1;".toList ++ ['\n']) =
      ([.closeParen, .question, .numeral 0, .colon, .ptr, .plus, .numeral 1, .semicolon],
        .lineStart) := by decide +kernel
  have backEq : ") ? 0 : ptr + 1;".toList = ')' :: " ? 0 : ptr + 1;".toList := by simp
  exact lexesAs_number backEq front (fun _ _ => rfl) rfl (by decide +kernel) (by decide) back last

theorem lexesAs_moveLeft (dialect : Dialect) (last : Nat) :
    LexesAs (statement dialect last .moveLeft) (statementTokens dialect last .moveLeft) := by
  have front : scan .lineStart "ptr = (ptr == 0) ? ".toList =
      ([.ptr, .assign, .openParen, .ptr, .equals, .numeral 0, .closeParen, .question], .blank) := by
    decide +kernel
  have back : scan (.begin ' ') (": ptr - 1;".toList ++ ['\n']) =
      ([.colon, .ptr, .minus, .numeral 1, .semicolon], .lineStart) := by decide +kernel
  have backEq : " : ptr - 1;".toList = ' ' :: ": ptr - 1;".toList := by simp
  exact lexesAs_number backEq front (fun _ _ => rfl) rfl (by decide +kernel) (by decide) back last

/-- The other statements are fixed texts. -/
theorem lexesAs_fixed (dialect : Dialect) (instruction : Instruction)
    (fixed : instruction ∈ [.increment, .decrement, .input, .output, .loopStart, .loopEnd]) :
    LexesAs (statement dialect 0 instruction) (statementTokens dialect 0 instruction) := by
  revert instruction
  cases dialect with
  | c => decide +kernel
  | cpp => decide +kernel

theorem lexesAs_statement (dialect : Dialect) (last : Nat) (instruction : Instruction) :
    LexesAs (statement dialect last instruction) (statementTokens dialect last instruction) := by
  cases instruction with
  | moveRight => exact lexesAs_moveRight dialect last
  | moveLeft => exact lexesAs_moveLeft dialect last
  | increment => exact lexesAs_fixed dialect .increment (by decide)
  | decrement => exact lexesAs_fixed dialect .decrement (by decide)
  | input => exact lexesAs_fixed dialect .input (by decide)
  | output => exact lexesAs_fixed dialect .output (by decide)
  | loopStart => exact lexesAs_fixed dialect .loopStart (by decide)
  | loopEnd => exact lexesAs_fixed dialect .loopEnd (by decide)

def tapeTokens (cells : Nat) : List Token :=
  [.byte, .tape, .openBracket, .numeral cells, .closeBracket, .assign, .openBrace, .numeral 0,
    .closeBrace, .semicolon]

theorem lexesAs_tape (cells : Nat) :
    LexesAs ("byte tape[" ++ toString cells ++ "] = \x7b0\x7d;") (tapeTokens cells) := by
  have front : scan .lineStart "byte tape[".toList = ([.byte, .tape], .mark '[') := by
    decide +kernel
  have begins : ∀ digit < 10,
      (Pending.mark '[').step digit.digitChar = ([.openBracket], .begin digit.digitChar) := by
    decide +kernel
  have back : scan (.begin ']') (" = \x7b0\x7d;".toList ++ ['\n']) =
      ([.closeBracket, .assign, .openBrace, .numeral 0, .closeBrace, .semicolon], .lineStart) := by
    decide +kernel
  have backEq : "] = \x7b0\x7d;".toList = ']' :: " = \x7b0\x7d;".toList := by simp
  exact lexesAs_number backEq front begins rfl (by decide +kernel) (by decide) back cells

/-! ## Tokens of texts -/

theorem scan_linesText_append {lines moreLines : List Line} {tokens moreTokens : List Token}
    (first : scan .lineStart (linesText lines).toList = (tokens, .lineStart))
    (second : scan .lineStart (linesText moreLines).toList = (moreTokens, .lineStart)) :
    scan .lineStart (linesText (lines ++ moreLines)).toList =
      (tokens ++ moreTokens, .lineStart) := by
  have textEq : (linesText (lines ++ moreLines)).toList =
      (linesText lines).toList ++ (linesText moreLines).toList := by
    simp [linesText, String.join_append]
  rw [textEq]
  exact scan_append first second

/-- The tabs in front of a line do not matter. -/
theorem scan_linesText_cons {content : String} {tokens moreTokens : List Token} {lines : List Line}
    (depth : Nat) (first : LexesAs content tokens)
    (second : scan .lineStart (linesText lines).toList = (moreTokens, .lineStart)) :
    scan .lineStart (linesText (⟨depth, content⟩ :: lines)).toList =
      (tokens ++ moreTokens, .lineStart) := by
  have textEq : (linesText (⟨depth, content⟩ :: lines)).toList =
      List.replicate depth '\t' ++ (content.toList ++ ['\n']) ++ (linesText lines).toList := by
    simp [linesText, Line.text, String.join_cons]
  rw [textEq]
  exact scan_append (scan_append (scan_tabs depth) first) second

def blockTokens (dialect : Dialect) (last : Nat) : Block → List Token
  | .done => []
  | .plain instruction _ rest =>
      statementTokens dialect last instruction ++ blockTokens dialect last rest
  | .loop body rest =>
      statementTokens dialect last .loopStart ++ (blockTokens dialect last body ++
        (statementTokens dialect last .loopEnd ++ blockTokens dialect last rest))

theorem scan_blockLines (dialect : Dialect) (last : Nat) (block : Block) (depth : Nat) :
    scan .lineStart (linesText (blockLines dialect last depth block)).toList =
      (blockTokens dialect last block, .lineStart) := by
  induction block generalizing depth with
  | done => rfl
  | plain instruction isPlain rest ih =>
      exact scan_linesText_cons depth (lexesAs_statement dialect last instruction) (ih depth)
  | loop body rest bodyIH restIH =>
      have rest :=
        scan_linesText_cons depth (lexesAs_statement dialect last .loopEnd) (restIH depth)
      exact scan_linesText_cons depth (lexesAs_statement dialect last .loopStart)
        (scan_linesText_append (bodyIH (depth + 1)) rest)

/-- The tokens up to the brace that opens the main function. -/
def headTokens : Dialect → List Token
  | .c =>
      [.header .stdio, .header .stddef, .typedef, .unsigned, .char, .byte, .semicolon, .int, .main,
        .openParen, .void, .closeParen, .openBrace]
  | .cpp =>
      [.header .cstdio, .header .cstddef, .typedef, .unsigned, .char, .byte, .semicolon, .int,
        .main, .openParen, .closeParen, .openBrace]

def indexTokens (dialect : Dialect) : List Token :=
  qualifierTokens dialect ++ [.sizeType, .ptr, .assign, .numeral 0, .semicolon]

def preambleTokens (dialect : Dialect) (cells : Nat) : List Token :=
  headTokens dialect ++ (tapeTokens cells ++ indexTokens dialect)

theorem scan_preamble (dialect : Dialect) (length : TapeLength) :
    scan .lineStart (linesText (preamble dialect length)).toList =
      (preambleTokens dialect length.count, .lineStart) := by
  have head : scan .lineStart (linesText
      (dialect.includes.map (fun header => ⟨0, "#include " ++ header⟩) ++
        [⟨0, ""⟩, ⟨0, "typedef unsigned char byte;"⟩, ⟨0, ""⟩,
          ⟨0, dialect.mainHead ++ " \x7b"⟩])).toList = (headTokens dialect, .lineStart) := by
    cases dialect <;> decide +kernel
  have index : scan .lineStart (linesText [⟨1, dialect.qualifier ++ "size_t ptr = 0;"⟩]).toList =
      (indexTokens dialect, .lineStart) := by
    cases dialect <;> decide +kernel
  have declarations := scan_linesText_cons 1 (lexesAs_tape length.count) index
  have scanned := scan_linesText_append head declarations
  rw [List.append_assoc] at scanned
  exact scanned

theorem lex_generate (dialect : Dialect) (length : TapeLength) (block : Block) :
    lex (linesText (preamble dialect length ++ blockLines dialect length.last 1 block ++ ending)) =
      preambleTokens dialect length.count ++ (blockTokens dialect length.last block ++
        [.returnWord, .numeral 0, .semicolon, .closeBrace]) := by
  have last : scan .lineStart (linesText ending).toList =
      ([.returnWord, .numeral 0, .semicolon, .closeBrace], .lineStart) := by decide +kernel
  have scanned := scan_linesText_append
    (scan_linesText_append (scan_preamble dialect length)
      (scan_blockLines dialect length.last block 1)) last
  rw [lex, scanned]
  simp [Pending.tokens]

end CCode

end Brainfuck
