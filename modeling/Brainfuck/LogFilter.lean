import Brainfuck.Text.Alphanumeric
import Brainfuck.Text.Blank

/-!
# Log filters

A log filter is a row of directives with commas between them.  A directive is a
target or a span in brackets, with fields in braces, and a level behind an equals
sign; one that is malformed is ignored.

To read a directive is to cut it into its parts.  The cuts are placed by their
distance in bytes from the first character that is not blank, but they are made
at that distance from the beginning of the directive.  Blanks in front of it can
so move a cut into the middle of a character, and then the filter has no reading.
-/

namespace Brainfuck

namespace LogFilter

/-- The part of a directive that is being read, with the place of its first
character where it is cut off as a whole. -/
inductive Part where
  | target
  | span (start : Nat)
  | field (start : Nat)
  /-- Behind the fields, where the span has to end. -/
  | fieldsEnd
  /-- Behind the span, where only a level can follow. -/
  | spanEnd
  | level (start : Nat)
  deriving DecidableEq

/-- The places of the cuts in the rest of a directive, from a part and a place
on.  A malformed directive is cut only up to its fault. -/
def cutsFrom (part : Part) (place : Nat) : List Char → List Nat
  | [] =>
      match part with
      | .level start => [start]
      | _ => []
  | char :: rest =>
      let next := place + char.utf8Size
      match part with
      | .target =>
          if char = '=' then place :: cutsFrom (.level next) next rest
          else if char = '[' then place :: cutsFrom (.span next) next rest
          else cutsFrom .target next rest
      | .span start =>
          if char = ']' then start :: place :: cutsFrom .spanEnd next rest
          else if char = '\x7b' then start :: place :: cutsFrom (.field next) next rest
          else cutsFrom (.span start) next rest
      | .field start =>
          if char ≠ '\x7d' then cutsFrom (.field start) next rest
          else if start = place then [place]
          else start :: place :: cutsFrom .fieldsEnd next rest
      | .fieldsEnd => if char = ']' then cutsFrom .spanEnd next rest else []
      | .spanEnd => if char = '=' then cutsFrom (.level next) next rest else []
      | .level start => cutsFrom (.level start) next rest

def beginsTarget (char : Char) : Bool :=
  char = '-' || char = ':' || char = '_' || Text.isAlphanumeric char

/-- The places of the cuts in a directive without blanks in front of it. -/
def cuts : List Char → List Nat
  | [] => []
  | first :: rest =>
      if first = '[' then cutsFrom (.span 1) 1 rest
      else if beginsTarget first then cutsFrom .target 0 (first :: rest)
      else []

/-- Whether a distance in bytes from the beginning of a text leads to the border
of a character. -/
def isBorder : (chars : List Char) → (distance : Nat) → Bool
  | _, 0 => true
  | [], _ + 1 => false
  | char :: rest, distance + 1 =>
      char.utf8Size ≤ distance + 1 && isBorder rest (distance + 1 - char.utf8Size)

/-- Whether no character of a directive is cut. -/
def isReadableDirective (directive : String) : Bool :=
  let chars := directive.toList
  (cuts (chars.dropWhile Text.isBlank)).all (isBorder chars)

def isReadable (filter : String) : Bool :=
  (filter.splitOn ",").all isReadableDirective

end LogFilter

end Brainfuck
