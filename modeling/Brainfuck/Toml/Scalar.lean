import Brainfuck.Toml.DateTime
import Brainfuck.Toml.Value

/-!
# TOML scalars

Values that are written without quotes or brackets: Booleans, integers, floats,
dates and times.
-/

namespace Brainfuck

namespace Toml

namespace Scalar

/-- The value of a digit of a base up to sixteen. -/
def digitOf? (base : Nat) (char : Char) : Option Nat :=
  let value :=
    if char.isDigit then some (char.toNat - '0'.toNat)
    else if 'a' ≤ char && char ≤ 'f' then some (char.toNat - 'a'.toNat + 10)
    else if 'A' ≤ char && char ≤ 'F' then some (char.toNat - 'A'.toNat + 10)
    else none
  value.filter (· < base)

/-- The digits of a base in a text.  A single underscore may stand between two
digits, and there is at least one digit. -/
def digits? (base : Nat) : List Char → Option (List Nat)
  | [] => none
  | [last] => (digitOf? base last).map ([·])
  | first :: '_' :: rest => do return (← digitOf? base first) :: (← digits? base rest)
  | first :: second :: rest => do
      return (← digitOf? base first) :: (← digits? base (second :: rest))

def ofDigits (base : Nat) (digits : List Nat) : Nat :=
  digits.foldl (fun value digit => base * value + digit) 0

/-- The digits of a whole number in base ten, which has no leading zeros. -/
def wholeDigits? (chars : List Char) : Option (List Nat) :=
  match digits? 10 chars with
  | some (0 :: _ :: _) => none
  | other => other

/-- Split off the sign: whether the number is negative, and the rest. -/
def splitSign : List Char → Bool × List Char
  | '-' :: rest => (true, rest)
  | '+' :: rest => (false, rest)
  | rest => (false, rest)

/-- The integer that a text stands for, of any size. -/
def unboundedInteger? : List Char → Option Int
  | '0' :: 'x' :: rest => (digits? 16 rest).map fun digits => Int.ofNat (ofDigits 16 digits)
  | '0' :: 'o' :: rest => (digits? 8 rest).map fun digits => Int.ofNat (ofDigits 8 digits)
  | '0' :: 'b' :: rest => (digits? 2 rest).map fun digits => Int.ofNat (ofDigits 2 digits)
  | chars => do
      let (isNegative, rest) := splitSign chars
      let size := Int.ofNat (ofDigits 10 (← wholeDigits? rest))
      return if isNegative then -size else size

/-- The integer that a text stands for.  Only the range of 128-bit words, signed
or unsigned, is admitted. -/
def integer? (chars : List Char) : Option Int :=
  (unboundedInteger? chars).filter fun value => -Int.pow 2 127 ≤ value && value < Int.pow 2 128

/-- The double-precision number nearest to `digits * 10 ^ exponent`; nothing if
it is too large. -/
def nearestFloat? (digits : Nat) (exponent : Int) : Option Float :=
  let magnitude := (toString digits).length + exponent
  if digits = 0 || magnitude < -400 then some 0
  else if 400 < magnitude then none
  else
    let value :=
      if 0 ≤ exponent then Float.ofScientific digits false exponent.toNat
      else Float.ofScientific digits true (-exponent).toNat
    if value.isInf then none else some value

/-- The exponent of a float: a sign and digits, of which the first may be zero. -/
def exponent? (chars : List Char) : Option Int := do
  let (isNegative, rest) := splitSign chars
  let size := Int.ofNat (ofDigits 10 (← digits? 10 rest))
  return if isNegative then -size else size

def float? (chars : List Char) : Option Float := do
  let (isNegative, unsigned) := splitSign chars
  let size ←
    if unsigned = ['i', 'n', 'f'] then some (1.0 / 0.0)
    else if unsigned = ['n', 'a', 'n'] then some (0.0 / 0.0)
    else do
      let isExponentMark := fun char => char = 'e' || char = 'E'
      let mantissa := unsigned.takeWhile fun char => !isExponentMark char
      let exponent ←
        match unsigned.dropWhile fun char => !isExponentMark char with
        | [] => some 0
        | _ :: rest => exponent? rest
      let whole ← wholeDigits? (mantissa.takeWhile (· ≠ '.'))
      let fraction ←
        match mantissa.dropWhile (· ≠ '.') with
        | [] => some []
        | _ :: rest => digits? 10 rest
      guard (mantissa.length ≠ unsigned.length || mantissa.contains '.')
      nearestFloat? (ofDigits 10 (whole ++ fraction)) (exponent - fraction.length)
  return if isNegative then -size else size

def ofChars? (chars : List Char) : Option Value :=
  if chars = ['t', 'r', 'u', 'e'] then some (.boolean true)
  else if chars = ['f', 'a', 'l', 's', 'e'] then some (.boolean false)
  else if DateTime.isValid chars then some (.dateTime (String.ofList chars))
  else
    match integer? chars with
    | some value => some (.integer value)
    | none => (float? chars).map .float

def isPart (char : Char) : Bool :=
  char.isAlphanum || char = '_' || char = '+' || char = '-' || char = '.' || char = ':'

/-- Read an unquoted scalar.  After a date, a blank and a digit begin its time. -/
def read (chars : List Char) : Option (Value × List Char) := do
  let word := chars.takeWhile isPart
  let rest := chars.dropWhile isPart
  let (text, rest) :=
    match rest with
    | ' ' :: next :: _ =>
        if next.isDigit && DateTime.readDate word = some [] then
          let time := (rest.drop 1).takeWhile isPart
          (word ++ ' ' :: time, rest.drop (1 + time.length))
        else (word, rest)
    | _ => (word, rest)
  return (← ofChars? text, rest)

end Scalar

end Toml

end Brainfuck
