import Brainfuck.Proofs.CCode.Lines

/-!
# Reading generated code

Generated code reads as the statements of its instructions, nested like the
block that it was generated for.
-/

namespace Brainfuck

namespace CCode

def cell : Expression :=
  .element .ptr

/-- The next byte of the input or, at its end, the current cell. -/
def nextByte : Expression :=
  .conditional (.differs (.assign .tmp .fgetc) .eof) (.toByte .tmp) cell

/-- The statement of a plain instruction, in front of others. -/
def instructionStatements (last : Nat) (instruction : Instruction) (rest : Statements) :
    Statements :=
  match instruction with
  | .increment => .expression (.postIncrement cell) rest
  | .decrement => .expression (.postDecrement cell) rest
  | .moveRight =>
      .expression (.assign .ptr
        (.conditional (.equals .ptr (.numeral last)) (.numeral 0) (.add .ptr (.numeral 1)))) rest
  | .moveLeft =>
      .expression (.assign .ptr
        (.conditional (.equals .ptr (.numeral 0)) (.numeral last)
          (.subtract .ptr (.numeral 1)))) rest
  | .output => .expression (.toVoid (.fputc cell)) rest
  | .input => .declaring (.expression (.assign cell nextByte) .done) rest
  | .loopStart => rest
  | .loopEnd => rest

def blockStatements (last : Nat) : Block → Statements → Statements
  | .done, after => after
  | .plain instruction _ rest, after =>
      instructionStatements last instruction (blockStatements last rest after)
  | .loop body rest, after =>
      .loop cell (blockStatements last body .done) (blockStatements last rest after)

/-- The text that is generated for a block. -/
def TranslationUnit.ofBlock (length : TapeLength) (block : Block) : TranslationUnit where
  cells := length.count
  body := blockStatements length.last block (.returning (.numeral 0) .done)

theorem readExpression_of_readPhrase {dialect : Dialect} {tokens : List Token}
    {result : Expression × List Token}
    (read : ∀ depth, readPhrase dialect (depth + 24) .assignment tokens = some result)
    (enough : 2 ≤ tokens.length) : readExpression dialect tokens = some result := by
  have depthEq : 8 * (tokens.length + 1) = 8 * (tokens.length + 1) - 24 + 24 := by omega
  rw [readExpression, depthEq]
  exact read _

section

variable {dialect : Dialect} {last fuel : Nat} {after rest : List Token} {tail : Statements}

theorem readStatements_expression {tokens : List Token} {value : Expression}
    (begins : tokens.head? ∈ [some .tape, some .ptr, some .openParen])
    (enough : 2 ≤ tokens.length)
    (reads : ∀ depth, readPhrase dialect (depth + 24) .assignment tokens =
      some (value, .semicolon :: after))
    (behind : readStatements dialect fuel after = some (tail, rest)) :
    readStatements dialect (fuel + 1) tokens = some (.expression value tail, rest) := by
  have readValue := readExpression_of_readPhrase reads enough
  cases tokens with
  | nil => simp at begins
  | cons token tokens =>
      obtain rfl | rfl | rfl : token = .tape ∨ token = .ptr ∨ token = .openParen := by
        simpa using begins
      all_goals simp [readStatements, readValue, expect, behind]

theorem readStatements_input
    (behind : readStatements dialect (fuel + 2) after = some (tail, rest)) :
    readStatements dialect (fuel + 3) (statementTokens dialect last .input ++ after) =
      some (instructionStatements last .input tail, rest) := by
  have body : readStatements dialect (fuel + 2)
      ((statementTokens dialect last .input ++ after).drop 4) =
        some (.expression (.assign cell nextByte) .done, .closeBrace :: after) := by
    cases dialect with
    | c =>
        exact readStatements_expression (.head _) (by simp [statementTokens]) (fun _ => rfl) rfl
    | cpp =>
        exact readStatements_expression (.head _) (by simp [statementTokens]) (fun _ => rfl) rfl
  have tokensEq : statementTokens dialect last .input ++ after =
      .openBrace :: .int :: .tmp :: .semicolon ::
        (statementTokens dialect last .input ++ after).drop 4 := rfl
  rw [tokensEq, readStatements, body]
  simp [expect, behind, instructionStatements]

theorem readStatements_plain {instruction : Instruction}
    (isPlain : instruction.isBracket = false)
    (behind : readStatements dialect (fuel + 2) after = some (tail, rest)) :
    readStatements dialect (fuel + 3) (statementTokens dialect last instruction ++ after) =
      some (instructionStatements last instruction tail, rest) := by
  have begins : instruction ≠ .input → (statementTokens dialect last instruction ++ after).head? ∈
      [some .tape, some .ptr, some .openParen] := by
    cases instruction <;> simp_all [statementTokens, Instruction.isBracket]
  have enough : 2 ≤ (statementTokens dialect last instruction ++ after).length := by
    cases instruction <;> simp_all [statementTokens, Instruction.isBracket]
  cases instruction with
  | input => exact readStatements_input behind
  | output =>
      cases dialect with
      | c => exact readStatements_expression (begins (by decide)) enough (fun _ => rfl) behind
      | cpp => exact readStatements_expression (begins (by decide)) enough (fun _ => rfl) behind
  | loopStart => cases isPlain
  | loopEnd => cases isPlain
  | _ => exact readStatements_expression (begins (by decide)) enough (fun _ => rfl) behind

/-- The tokens of a block read as its statements, if there is fuel for what
stands behind them. -/
theorem readStatements_block (block : Block) {needed : Nat}
    (behind : ∀ fuel ≥ needed, readStatements dialect fuel after = some (tail, rest))
    (enough : needed + 3 * block.size ≤ fuel) :
    readStatements dialect fuel (blockTokens dialect last block ++ after) =
      some (blockStatements last block tail, rest) := by
  induction block generalizing fuel needed after tail rest with
  | done => exact behind fuel (by simpa using enough)
  | plain instruction isPlain next ih =>
      rw [Block.size_plain] at enough
      obtain ⟨fuel, rfl⟩ : ∃ left, fuel = left + 3 := ⟨fuel - 3, by omega⟩
      rw [blockTokens, List.append_assoc]
      exact readStatements_plain isPlain (ih behind (by omega))
  | loop body next bodyIH nextIH =>
      rw [Block.size_loop] at enough
      obtain ⟨fuel, rfl⟩ : ∃ left, fuel = left + 1 := ⟨fuel - 1, by omega⟩
      have closes : ∀ fuel ≥ 1, readStatements dialect fuel
          (.closeBrace :: (blockTokens dialect last next ++ after)) =
            some (.done, .closeBrace :: (blockTokens dialect last next ++ after)) := by
        intro fuel positive
        obtain ⟨left, rfl⟩ : ∃ left, fuel = left + 1 := ⟨fuel - 1, by omega⟩
        rfl
      -- the body is read up to its closing brace, the rest of the block behind it
      have readBody := bodyIH closes (show 1 + 3 * body.size ≤ fuel by omega)
      have readNext := nextIH behind (show needed + 3 * next.size ≤ fuel by omega)
      have readTest : readExpression dialect (.tape :: .openBracket :: .ptr :: .closeBracket ::
          .closeParen :: .openBrace :: (blockTokens dialect last body ++
            .closeBrace :: (blockTokens dialect last next ++ after))) =
          some (cell, .closeParen :: .openBrace :: (blockTokens dialect last body ++
            .closeBrace :: (blockTokens dialect last next ++ after))) :=
        readExpression_of_readPhrase (fun _ => rfl) (by simp)
      simp [blockTokens, statementTokens, readStatements, readTest, expect, readBody, readNext,
        blockStatements]

end

theorem le_length_blockTokens (dialect : Dialect) (last : Nat) (block : Block) :
    3 * block.size ≤ (blockTokens dialect last block).length := by
  induction block with
  | done => simp
  | plain instruction isPlain rest ih =>
      have atLeast : 3 ≤ (statementTokens dialect last instruction).length := by
        cases instruction <;> simp_all [statementTokens, Instruction.isBracket]
      simp only [Block.size_plain, blockTokens, List.length_append]
      omega
  | loop body rest bodyIH restIH =>
      simp only [Block.size_loop, blockTokens, List.length_append, statementTokens,
        List.length_cons, List.length_nil]
      omega

theorem ofTokens?_preambleTokens (dialect : Dialect) (length : TapeLength) (block : Block) :
    TranslationUnit.ofTokens? dialect (preambleTokens dialect length.count ++
        (blockTokens dialect length.last block ++
          [.returnWord, .numeral 0, .semicolon, .closeBrace])) =
      some (.ofBlock length block) := by
  have returns : ∀ fuel ≥ 2, readStatements dialect fuel
      [.returnWord, .numeral 0, .semicolon, .closeBrace] =
        some (.returning (.numeral 0) .done, [.closeBrace]) := by
    intro fuel enough
    obtain ⟨left, rfl⟩ : ∃ left, fuel = left + 2 := ⟨fuel - 2, by omega⟩
    rfl
  have tokensLe := le_length_blockTokens dialect length.last block
  generalize tokensEq : blockTokens dialect length.last block ++
    [.returnWord, .numeral 0, .semicolon, .closeBrace] = tokens
  have readBody : readStatements dialect (tokens.length + 1) tokens =
      some (blockStatements length.last block (.returning (.numeral 0) .done), [.closeBrace]) := by
    rw [← tokensEq]
    refine readStatements_block block returns ?_
    simp only [List.length_append, List.length_cons]
    omega
  cases dialect with
  | c =>
      simp [TranslationUnit.ofTokens?, preambleTokens, headTokens, tapeTokens, indexTokens,
        qualifierTokens, directives, expect, unqualified, readBody, TranslationUnit.ofBlock]
  | cpp =>
      simp [TranslationUnit.ofTokens?, preambleTokens, headTokens, tapeTokens, indexTokens,
        qualifierTokens, directives, expect, unqualified, readBody, TranslationUnit.ofBlock]

theorem ofText?_generate {dialect : Dialect} {length : TapeLength} {block : Block} {text : String}
    (generated : generate dialect length block.toList = .ok text) :
    TranslationUnit.ofText? dialect text = some (.ofBlock length block) := by
  rw [generate_toList] at generated
  cases generated
  rw [TranslationUnit.ofText?, lex_generate]
  exact ofTokens?_preambleTokens dialect length block

end CCode

end Brainfuck
