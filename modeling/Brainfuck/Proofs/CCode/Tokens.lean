import Brainfuck.CCode.Generation
import Mathlib.Data.List.Basic

/-!
# Tokens of generated code

Generated code is read as a C text: blanks and line breaks separate tokens, a
token is as long as possible, and a line that begins with `#` is a directive.
The tokens are those of the part of C that the code is written in.  Other words
and marks, as well as numerals in other bases, are unknown tokens, which occur
in no phrase.
-/

namespace Brainfuck

namespace CCode

/-- A header of the standard library, in the spelling of either dialect. -/
inductive Header where
  | stdio
  | stddef
  | cstdio
  | cstddef
  deriving DecidableEq

inductive Token where
  | header (header : Header)
  | typedef
  | unsigned
  | char
  | byte
  | int
  | void
  | main
  | whileWord
  | returnWord
  | sizeType
  | tape
  | ptr
  | tmp
  | eof
  | std
  | stdin
  | stdout
  | fgetc
  | fputc
  | numeral (value : Nat)
  | plusPlus
  | minusMinus
  | equals
  | differs
  | scope
  | plus
  | minus
  | assign
  | question
  | colon
  | comma
  | semicolon
  | openParen
  | closeParen
  | openBracket
  | closeBracket
  | openBrace
  | closeBrace
  | unknown
  deriving DecidableEq

namespace Token

def directives : List (List Char × Token) :=
  [("#include <stdio.h>".toList, header .stdio),
   ("#include <stddef.h>".toList, header .stddef),
   ("#include <cstdio>".toList, header .cstdio),
   ("#include <cstddef>".toList, header .cstddef)]

def words : List (List Char × Token) :=
  [("typedef".toList, typedef),
   ("unsigned".toList, unsigned),
   ("char".toList, char),
   ("byte".toList, byte),
   ("int".toList, int),
   ("void".toList, void),
   ("main".toList, main),
   ("while".toList, whileWord),
   ("return".toList, returnWord),
   ("size_t".toList, sizeType),
   ("tape".toList, tape),
   ("ptr".toList, ptr),
   ("tmp".toList, tmp),
   ("EOF".toList, eof),
   ("std".toList, std),
   ("stdin".toList, stdin),
   ("stdout".toList, stdout),
   ("fgetc".toList, fgetc),
   ("fputc".toList, fputc)]

def ofDirective (chars : List Char) : Token :=
  (directives.lookup chars).getD unknown

def ofWord (chars : List Char) : Token :=
  (words.lookup chars).getD unknown

def ofMark : Char → Token
  | '+' => plus
  | '-' => minus
  | '=' => assign
  | '?' => question
  | ':' => colon
  | ',' => comma
  | ';' => semicolon
  | '(' => openParen
  | ')' => closeParen
  | '[' => openBracket
  | ']' => closeBracket
  | '\x7b' => openBrace
  | '\x7d' => closeBrace
  | _ => unknown

def ofMarks? : Char → Char → Option Token
  | '+', '+' => some plusPlus
  | '-', '-' => some minusMinus
  | '=', '=' => some equals
  | '!', '=' => some differs
  | ':', ':' => some scope
  | _, _ => none

end Token

/-! ## Lexical analysis -/

/-- The token that has begun, with its characters last first. -/
inductive Pending where
  | lineStart
  | blank
  | directive (chars : List Char)
  | word (chars : List Char)
  | numeral (value : Nat)
  /-- A run of letters and digits that is neither a word nor a numeral. -/
  | malformed
  | mark (char : Char)
  deriving DecidableEq

def isLetter (char : Char) : Bool :=
  char.isAlpha || char = '_'

def isBlank (char : Char) : Bool :=
  char = ' ' || char = '\t'

namespace Pending

def tokens : Pending → List Token
  | lineStart => []
  | blank => []
  | directive chars => [Token.ofDirective chars.reverse]
  | word chars => [Token.ofWord chars.reverse]
  | numeral value => [.numeral value]
  | malformed => [.unknown]
  | mark char => [Token.ofMark char]

def begin (char : Char) : Pending :=
  if char = '\n' then lineStart
  else if isBlank char then blank
  else if isLetter char then word [char]
  else if char.isDigit then numeral (char.toNat - '0'.toNat)
  else mark char

/-- The tokens that end in front of a character or with it, and what is pending
behind it. -/
def step (pending : Pending) (next : Char) : List Token × Pending :=
  match pending with
  | lineStart =>
      if next = '#' then ([], directive ['#'])
      else if isBlank next then ([], lineStart)
      else ([], begin next)
  | blank => ([], begin next)
  | directive chars =>
      if next = '\n' then ((directive chars).tokens, lineStart)
      else ([], directive (next :: chars))
  | word chars =>
      if isLetter next || next.isDigit then ([], word (next :: chars))
      else ((word chars).tokens, begin next)
  | numeral value =>
      -- a zero in front of other digits stands for another base
      if next.isDigit && value != 0 then ([], numeral (10 * value + (next.toNat - '0'.toNat)))
      else if isLetter next || next.isDigit || next = '.' then ([], malformed)
      else ((numeral value).tokens, begin next)
  | malformed =>
      if isLetter next || next.isDigit || next = '.' then ([], malformed)
      else (malformed.tokens, begin next)
  | mark char =>
      match Token.ofMarks? char next with
      | some token => ([token], blank)
      | none => ((mark char).tokens, begin next)

end Pending

/-- The tokens that end among characters behind a pending token, and what is
pending behind them. -/
def scan (pending : Pending) : List Char → List Token × Pending
  | [] => ([], pending)
  | char :: rest =>
      let (ended, next) := pending.step char
      let (tokens, final) := scan next rest
      (ended ++ tokens, final)

def lex (text : String) : List Token :=
  let (tokens, pending) := scan .lineStart text.toList
  tokens ++ pending.tokens

theorem scan_append {pending middle final : Pending} {front behind : List Char}
    {tokens moreTokens : List Token} (first : scan pending front = (tokens, middle))
    (second : scan middle behind = (moreTokens, final)) :
    scan pending (front ++ behind) = (tokens ++ moreTokens, final) := by
  induction front generalizing pending tokens with
  | nil =>
      cases first
      exact second
  | cons char front ih =>
      cases scanned : scan (pending.step char).2 front with
      | mk later last =>
          simp only [scan, scanned, Prod.mk.injEq] at first
          obtain ⟨rfl, rfl⟩ := first
          rw [List.cons_append, scan]
          simp only [ih scanned, List.append_assoc]

/-! ## Tabs and digits -/

theorem scan_tabs (count : Nat) :
    scan .lineStart (List.replicate count '\t') = ([], .lineStart) := by
  induction count with
  | zero => rfl
  | succ count ih =>
      rw [List.replicate_succ, scan]
      exact ih

theorem begin_digitChar {digit : Nat} (small : digit < 10) :
    Pending.begin digit.digitChar = .numeral digit := by
  revert digit
  decide

theorem step_numeral_digitChar {value digit : Nat} (positive : value ≠ 0) (small : digit < 10) :
    (Pending.numeral value).step digit.digitChar = ([], .numeral (10 * value + digit)) := by
  have isDigit : digit.digitChar.isDigit = true := by simp [small]
  have digitEq : digit.digitChar.toNat - 48 = digit := Nat.toNat_digitChar_sub_48_of_lt_ten small
  simp [Pending.step, isDigit, positive, digitEq]

theorem step_numeral {next : Char} (notDigit : next.isDigit = false)
    (notLetter : isLetter next = false) (notDot : next ≠ '.') (value : Nat) :
    (Pending.numeral value).step next = ([.numeral value], .begin next) := by
  simp [Pending.step, notDigit, notLetter, notDot, Pending.tokens]

/-- The digits of a number become a numeral where a digit begins one. -/
theorem scan_digits {pending : Pending} {ended : List Token}
    (begins : ∀ digit < 10, pending.step digit.digitChar = (ended, .begin digit.digitChar))
    (number : Nat) : scan pending (toString number).toList = (ended, .numeral number) := by
  have digitsEq : (toString number).toList = Nat.toDigits 10 number := by simp
  rw [digitsEq]
  clear digitsEq
  -- the last digit extends the numeral of the digits before it
  induction number using Nat.strongRecOn with
  | ind number ih =>
      by_cases small : number < 10
      · rw [Nat.toDigits_of_lt_base small, scan, begins number small, begin_digitChar small]
        simp [scan]
      · have split : Nat.toDigits 10 number =
            Nat.toDigits 10 (number / 10) ++ [(number % 10).digitChar] :=
          Nat.toDigits_of_base_le (by decide) (by omega)
        have lastSmall : number % 10 < 10 := Nat.mod_lt _ (by decide)
        have last : scan (.numeral (number / 10)) [(number % 10).digitChar] =
            ([], .numeral number) := by
          rw [scan, step_numeral_digitChar (by omega) lastSmall, Nat.div_add_mod]
          rfl
        rw [split, scan_append (ih (number / 10) (by omega)) last, List.append_nil]

theorem scan_number {pending middle final : Pending} {before behind : List Char} {next : Char}
    {tokens ended moreTokens : List Token} (first : scan pending before = (tokens, middle))
    (begins : ∀ digit < 10, middle.step digit.digitChar = (ended, .begin digit.digitChar))
    (notDigit : next.isDigit = false) (notLetter : isLetter next = false) (notDot : next ≠ '.')
    (second : scan (.begin next) behind = (moreTokens, final)) (number : Nat) :
    scan pending (before ++ (toString number).toList ++ next :: behind) =
      (tokens ++ ended ++ .numeral number :: moreTokens, final) := by
  have last : scan (.numeral number) (next :: behind) = (.numeral number :: moreTokens, final) := by
    rw [scan, step_numeral notDigit notLetter notDot]
    simp [second]
  exact scan_append (scan_append first (scan_digits begins number)) last

end CCode

end Brainfuck
