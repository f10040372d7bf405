import Brainfuck.Tape

/-!
# Numerals on the command line

A tape length is written in decimal digits, perhaps behind a plus sign.  It has
to fit into a 64-bit word and must not be zero.
-/

namespace Brainfuck

namespace CommandLine

/-- Why a text is not a tape length. -/
inductive NumeralError where
  | empty
  | invalidDigit
  | tooLarge
  | zero
  deriving DecidableEq

namespace NumeralError

def message : NumeralError → String
  | empty => "cannot parse integer from empty string"
  | invalidDigit => "invalid digit found in string"
  | tooLarge => "number too large to fit in target type"
  | zero => "number would be zero for non-zero type"

end NumeralError

/-- Read decimal digits behind those of `value`.  The first digit that is
invalid or leads out of the range decides. -/
def readDigits (value : Nat) : List Char → Except NumeralError Nat
  | [] => .ok value
  | char :: rest =>
      if char.isDigit then
        let value := 10 * value + (char.toNat - '0'.toNat)
        if value < UInt64.size then readDigits value rest else .error .tooLarge
      else .error .invalidDigit

/-- Read a number: digits, perhaps behind a plus sign. -/
def readNumber (text : String) : Except NumeralError Nat :=
  match text.toList with
  | [] => .error .empty
  | ['+'] => .error .invalidDigit
  | '+' :: digits => readDigits 0 digits
  | digits => readDigits 0 digits

def readTapeLength (text : String) : Except NumeralError TapeLength := do
  match TapeLength.ofNat? (← readNumber text) with
  | some length => return length
  | none => throw .zero

end CommandLine

end Brainfuck
