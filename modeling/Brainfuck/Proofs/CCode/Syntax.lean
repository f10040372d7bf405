import Brainfuck.Proofs.CCode.Tokens

/-!
# Syntax of generated code

Expressions and statements of the part of C that generated code is written in,
and a recursive descent over tokens that reads them.  There is one array `tape`,
one index `ptr` into it, and one integer `tmp` for each block that declares it.
Names from the headers are qualified in C++ and only there.
-/

namespace Brainfuck

namespace CCode

inductive Expression where
  | numeral (value : Nat)
  | ptr
  | tmp
  | eof
  | element (place : Expression)
  | postIncrement (target : Expression)
  | postDecrement (target : Expression)
  | add (left right : Expression)
  | subtract (left right : Expression)
  | equals (left right : Expression)
  | differs (left right : Expression)
  | conditional (test yes no : Expression)
  | assign (target value : Expression)
  | toByte (value : Expression)
  | toVoid (value : Expression)
  /-- A call of `fgetc` on the standard input. -/
  | fgetc
  /-- A call of `fputc` on the standard output. -/
  | fputc (value : Expression)
  deriving DecidableEq

inductive Statements where
  | done
  | expression (value : Expression) (rest : Statements)
  /-- A block that begins with the declaration of its own `tmp`. -/
  | declaring (body rest : Statements)
  | loop (test : Expression) (body rest : Statements)
  | returning (value : Expression) (rest : Statements)
  deriving DecidableEq

/-- A whole text: how many zeroed bytes the array has and what the main function
does with it. -/
structure TranslationUnit where
  cells : Nat
  body : Statements
  deriving DecidableEq

/-- The tokens behind a phrase that has to come first. -/
def expect : (phrase tokens : List Token) → Option (List Token)
  | [], tokens => some tokens
  | _ :: _, [] => none
  | first :: phrase, token :: tokens => if token = first then expect phrase tokens else none

/-- The tokens behind the qualifier of a name from the headers. -/
def unqualified : Dialect → List Token → Option (List Token)
  | .c, tokens => some tokens
  | .cpp, tokens => expect [.std, .scope] tokens

/-! ## Expressions -/

/-- The phrases of an expression, from the loosest to the tightest.  Those that
begin behind an operand are read from left to right. -/
inductive Phrase where
  | assignment
  | conditional
  | equality
  | equalityBehind (left : Expression)
  | sum
  | sumBehind (left : Expression)
  | unary
  | postfixBehind (operand : Expression)
  | primary

/-- Read a phrase of an expression whose phrases are nested less than `depth`
deep. -/
def readPhrase (dialect : Dialect) :
    (depth : Nat) → Phrase → List Token → Option (Expression × List Token)
  | 0, _, _ => none
  | depth + 1, .assignment, tokens => do
      let (target, rest) ← readPhrase dialect depth .conditional tokens
      match rest with
      | .assign :: rest =>
          let (value, rest) ← readPhrase dialect depth .assignment rest
          return (.assign target value, rest)
      | _ => return (target, rest)
  | depth + 1, .conditional, tokens => do
      let (test, rest) ← readPhrase dialect depth .equality tokens
      match rest with
      | .question :: rest =>
          let (yes, rest) ← readPhrase dialect depth .assignment rest
          let rest ← expect [.colon] rest
          let (no, rest) ← readPhrase dialect depth .conditional rest
          return (.conditional test yes no, rest)
      | _ => return (test, rest)
  | depth + 1, .equality, tokens => do
      let (left, rest) ← readPhrase dialect depth .sum tokens
      readPhrase dialect depth (.equalityBehind left) rest
  | depth + 1, .equalityBehind left, tokens =>
      match tokens with
      | .equals :: rest => do
          let (right, rest) ← readPhrase dialect depth .sum rest
          readPhrase dialect depth (.equalityBehind (.equals left right)) rest
      | .differs :: rest => do
          let (right, rest) ← readPhrase dialect depth .sum rest
          readPhrase dialect depth (.equalityBehind (.differs left right)) rest
      | _ => some (left, tokens)
  | depth + 1, .sum, tokens => do
      let (left, rest) ← readPhrase dialect depth .unary tokens
      readPhrase dialect depth (.sumBehind left) rest
  | depth + 1, .sumBehind left, tokens =>
      match tokens with
      | .plus :: rest => do
          let (right, rest) ← readPhrase dialect depth .unary rest
          readPhrase dialect depth (.sumBehind (.add left right)) rest
      | .minus :: rest => do
          let (right, rest) ← readPhrase dialect depth .unary rest
          readPhrase dialect depth (.sumBehind (.subtract left right)) rest
      | _ => some (left, tokens)
  | depth + 1, .unary, tokens =>
      match tokens with
      | .openParen :: .byte :: .closeParen :: rest => do
          let (value, rest) ← readPhrase dialect depth .unary rest
          return (.toByte value, rest)
      | .openParen :: .void :: .closeParen :: rest => do
          let (value, rest) ← readPhrase dialect depth .unary rest
          return (.toVoid value, rest)
      | _ => do
          let (operand, rest) ← readPhrase dialect depth .primary tokens
          readPhrase dialect depth (.postfixBehind operand) rest
  | depth + 1, .postfixBehind operand, tokens =>
      match tokens with
      | .plusPlus :: rest =>
          readPhrase dialect depth (.postfixBehind (.postIncrement operand)) rest
      | .minusMinus :: rest =>
          readPhrase dialect depth (.postfixBehind (.postDecrement operand)) rest
      | _ => some (operand, tokens)
  | depth + 1, .primary, tokens =>
      match tokens with
      | .numeral value :: rest => some (.numeral value, rest)
      | .ptr :: rest => some (.ptr, rest)
      | .tmp :: rest => some (.tmp, rest)
      | .eof :: rest => some (.eof, rest)
      | .openParen :: rest => do
          let (inner, rest) ← readPhrase dialect depth .assignment rest
          return (inner, ← expect [.closeParen] rest)
      | .tape :: .openBracket :: rest => do
          let (place, rest) ← readPhrase dialect depth .assignment rest
          return (.element place, ← expect [.closeBracket] rest)
      | _ => do
          match ← unqualified dialect tokens with
          | .fgetc :: rest => return (.fgetc, ← expect [.openParen, .stdin, .closeParen] rest)
          | .fputc :: .openParen :: rest =>
              let (value, rest) ← readPhrase dialect depth .assignment rest
              return (.fputc value, ← expect [.comma, .stdout, .closeParen] rest)
          | _ => none

/-- Read an expression.  Every token leads less than eight phrases deeper. -/
def readExpression (dialect : Dialect) (tokens : List Token) : Option (Expression × List Token) :=
  readPhrase dialect (8 * (tokens.length + 1)) .assignment tokens

/-! ## Statements -/

/-- Read statements up to the brace that closes their block, in at most `fuel`
nested or successive statements. -/
def readStatements (dialect : Dialect) :
    (fuel : Nat) → List Token → Option (Statements × List Token)
  | 0, _ => none
  | fuel + 1, tokens =>
      match tokens with
      | .closeBrace :: _ => some (.done, tokens)
      | .whileWord :: .openParen :: rest => do
          let (test, rest) ← readExpression dialect rest
          let rest ← expect [.closeParen, .openBrace] rest
          let (body, rest) ← readStatements dialect fuel rest
          let rest ← expect [.closeBrace] rest
          let (next, rest) ← readStatements dialect fuel rest
          return (.loop test body next, rest)
      | .openBrace :: .int :: .tmp :: .semicolon :: rest => do
          let (body, rest) ← readStatements dialect fuel rest
          let rest ← expect [.closeBrace] rest
          let (next, rest) ← readStatements dialect fuel rest
          return (.declaring body next, rest)
      | .returnWord :: rest => do
          let (value, rest) ← readExpression dialect rest
          let rest ← expect [.semicolon] rest
          let (next, rest) ← readStatements dialect fuel rest
          return (.returning value next, rest)
      | _ => do
          let (value, rest) ← readExpression dialect tokens
          let rest ← expect [.semicolon] rest
          let (next, rest) ← readStatements dialect fuel rest
          return (.expression value next, rest)

/-! ## Texts -/

def directives : Dialect → List Token
  | .c => [.header .stdio, .header .stddef]
  | .cpp => [.header .cstdio, .header .cstddef]

def TranslationUnit.ofTokens? (dialect : Dialect) (tokens : List Token) :
    Option TranslationUnit := do
  let tokens ← expect (directives dialect) tokens
  let tokens ← expect [.typedef, .unsigned, .char, .byte, .semicolon] tokens
  let tokens ← expect [.int, .main, .openParen] tokens
  let tokens ← expect [.closeParen, .openBrace]
    (match tokens with
      | .void :: rest => rest
      | _ => tokens)
  let tokens ← expect [.byte, .tape, .openBracket] tokens
  match tokens with
  | .numeral cells :: tokens =>
      let tokens ← expect
        [.closeBracket, .assign, .openBrace, .numeral 0, .closeBrace, .semicolon] tokens
      let tokens ← unqualified dialect tokens
      let tokens ← expect [.sizeType, .ptr, .assign, .numeral 0, .semicolon] tokens
      let (body, rest) ← readStatements dialect (tokens.length + 1) tokens
      if rest = [.closeBrace] then some ⟨cells, body⟩ else none
  | _ => none

def TranslationUnit.ofText? (dialect : Dialect) (text : String) : Option TranslationUnit :=
  ofTokens? dialect (lex text)

end CCode

end Brainfuck
