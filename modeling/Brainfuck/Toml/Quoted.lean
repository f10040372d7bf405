import Brainfuck.Toml.Scalar

/-!
# TOML strings

A basic string stands between double quotes and has escapes; a literal string
stands between single quotes and has none.  Either may be written over several
lines between triple quotes.
-/

namespace Brainfuck

namespace Toml

namespace Quoted

/-- Whether a character may stand for itself within a line: no control
character other than the tab. -/
def isPlain (char : Char) : Bool :=
  char = '\t' || (' ' ≤ char && char ≠ '\x7f')

/-- Whether a character is blank within a line. -/
def isBlank (char : Char) : Bool :=
  char = ' ' || char = '\t'

/-- Read a newline, with or without a carriage return. -/
def readNewline : List Char → Option (List Char)
  | '\n' :: rest => some rest
  | '\r' :: '\n' :: rest => some rest
  | _ => none

/-- Read a code point of a given number of hexadecimal digits. -/
def readCodePoint : (width : Nat) → (value : Nat) → List Char → Option (Char × List Char)
  | 0, value, rest =>
      if valid : value.isValidChar then some (Char.ofNatAux value valid, rest) else none
  | width + 1, value, char :: rest => do
      readCodePoint width (16 * value + (← Scalar.digitOf? 16 char)) rest
  | _ + 1, _, [] => none

/-- Read the part of an escape behind its backslash. -/
def readEscape : List Char → Option (Char × List Char)
  | 'b' :: rest => some ('\x08', rest)
  | 't' :: rest => some ('\t', rest)
  | 'n' :: rest => some ('\n', rest)
  | 'f' :: rest => some ('\x0c', rest)
  | 'r' :: rest => some ('\r', rest)
  | 'e' :: rest => some ('\x1b', rest)
  | '\x22' :: rest => some ('\x22', rest)
  | '\\' :: rest => some ('\\', rest)
  | 'x' :: rest => readCodePoint 2 0 rest
  | 'u' :: rest => readCodePoint 4 0 rest
  | 'U' :: rest => readCodePoint 8 0 rest
  | _ => none

/-- Read the rest of a basic string.  `found` holds its characters so far, last
first. -/
def readBasic (found : List Char) : (fuel : Nat) → List Char → Option (String × List Char)
  | 0, _ => none
  | _, [] => none
  | fuel + 1, char :: rest =>
      if char = '\x22' then some (String.ofList found.reverse, rest)
      else if char = '\\' then
        match readEscape rest with
        | some (escaped, rest) => readBasic (escaped :: found) fuel rest
        | none => none
      else if isPlain char then readBasic (char :: found) fuel rest
      else none

def readLiteral (chars : List Char) : Option (String × List Char) :=
  let content := chars.takeWhile fun char => char ≠ '\x27' && isPlain char
  match chars.drop content.length with
  | '\x27' :: rest => some (String.ofList content, rest)
  | _ => none

/-- Read the end of a string over several lines: three quotes, before which one
or two more belong to the string. -/
def readClosing (quote : Char) (chars : List Char) : Option (List Char × List Char) :=
  let quotes := chars.takeWhile (· = quote)
  if quotes.length < 3 then none
  else
    let content := min (quotes.length - 3) 2
    some (quotes.take content, chars.drop (content + 3))

def skipSpace : List Char → List Char
  | '\r' :: '\n' :: rest => skipSpace rest
  | char :: rest => if isBlank char || char = '\n' then skipSpace rest else char :: rest
  | [] => []

/-- Read the rest of a string over several lines.  Only a basic one has
escapes, and in it a backslash at the end of a line joins the lines. -/
def readLines (quote : Char) (hasEscapes : Bool) (found : List Char) :
    (fuel : Nat) → List Char → Option (String × List Char)
  | 0, _ => none
  | _, [] => none
  | fuel + 1, char :: rest =>
      if char = quote then
        match readClosing quote (char :: rest) with
        | some (content, rest) =>
            some (String.ofList (found.reverse ++ content), rest)
        | none => readLines quote hasEscapes (char :: found) fuel rest
      else if hasEscapes && char = '\\' then
        match readNewline (rest.dropWhile isBlank) with
        | some next => readLines quote hasEscapes found fuel (skipSpace next)
        | none =>
            match readEscape rest with
            | some (escaped, rest) => readLines quote hasEscapes (escaped :: found) fuel rest
            | none => none
      else if char = '\n' || isPlain char then
        readLines quote hasEscapes (char :: found) fuel rest
      else
        match readNewline (char :: rest) with
        | some rest => readLines quote hasEscapes ('\n' :: '\r' :: found) fuel rest
        | none => none

/-- Skip the newline directly behind the opening quotes of a string over several
lines. -/
def skipNewline (chars : List Char) : List Char :=
  (readNewline chars).getD chars

def readOneLine : List Char → Option (String × List Char)
  | '\x22' :: rest => readBasic [] (rest.length + 1) rest
  | '\x27' :: rest => readLiteral rest
  | _ => none

def read : List Char → Option (String × List Char)
  | '\x22' :: '\x22' :: '\x22' :: rest =>
      readLines '\x22' true [] (rest.length + 1) (skipNewline rest)
  | '\x27' :: '\x27' :: '\x27' :: rest =>
      readLines '\x27' false [] (rest.length + 1) (skipNewline rest)
  | chars => readOneLine chars

end Quoted

end Toml

end Brainfuck
