/-!
# TOML dates and times

A date, a time of day, or a date with a time and perhaps an offset from
universal time.  The seconds of a time may be left out, and a leap second is a
valid one.
-/

namespace Brainfuck

namespace Toml

namespace DateTime

def digit? (char : Char) : Option Nat :=
  if char.isDigit then some (char.toNat - '0'.toNat) else none

/-- Read a number of exactly `width` digits. -/
def readFixed : (width : Nat) → (value : Nat) → List Char → Option (Nat × List Char)
  | 0, value, rest => some (value, rest)
  | width + 1, value, char :: rest => do
      readFixed width (10 * value + (← digit? char)) rest
  | _ + 1, _, [] => none

def readChar (expected : Char) : List Char → Option (List Char)
  | char :: rest => if char = expected then some rest else none
  | [] => none

def isLeapYear (year : Nat) : Bool :=
  year % 4 = 0 && (year % 100 ≠ 0 || year % 400 = 0)

def daysInMonth (year month : Nat) : Nat :=
  if month = 2 then if isLeapYear year then 29 else 28
  else if month = 4 || month = 6 || month = 9 || month = 11 then 30
  else 31

/-- Read a date, such as `1979-05-27`. -/
def readDate (chars : List Char) : Option (List Char) := do
  let (year, rest) ← readFixed 4 0 chars
  let (month, rest) ← readFixed 2 0 (← readChar '-' rest)
  let (day, rest) ← readFixed 2 0 (← readChar '-' rest)
  guard (1 ≤ month && month ≤ 12 && 1 ≤ day && day ≤ daysInMonth year month)
  return rest

def readFraction : List Char → Option (List Char)
  | '.' :: char :: rest => do
      guard char.isDigit
      return rest.dropWhile Char.isDigit
  | '.' :: [] => none
  | rest => some rest

/-- Read a time of day, such as `07:32:00.5`. -/
def readTime (chars : List Char) : Option (List Char) := do
  let (hour, rest) ← readFixed 2 0 chars
  let (minute, rest) ← readFixed 2 0 (← readChar ':' rest)
  guard (hour ≤ 23 && minute ≤ 59)
  match rest with
  | ':' :: rest => do
      let (second, rest) ← readFixed 2 0 rest
      guard (second ≤ 60)
      readFraction rest
  | rest => return rest

def readOffset : List Char → Option (List Char)
  | [] => some []
  | char :: rest =>
      if char = 'Z' || char = 'z' then some rest
      else if char = '+' || char = '-' then do
        let (hour, rest) ← readFixed 2 0 rest
        let (minute, rest) ← readFixed 2 0 (← readChar ':' rest)
        guard (hour ≤ 23 && minute ≤ 59)
        return rest
      else none

/-- Whether a text is a date, a time, or both. -/
def isValid (chars : List Char) : Bool :=
  match readDate chars with
  | some [] => true
  | some (separator :: rest) =>
      (separator = 'T' || separator = 't' || separator = ' ') &&
        ((readTime rest).bind readOffset).any List.isEmpty
  | none => (readTime chars).any List.isEmpty

end DateTime

end Toml

end Brainfuck
