import Brainfuck.Toml.Document
import Brainfuck.Toml.Quoted

/-!
# Reading TOML

A document is read line by line: a line is empty, opens a table, or gives a key
a value, and may end with a comment.  Every reader returns what is left of the
text, or nothing if the text is not valid.
-/

namespace Brainfuck

namespace Toml

/-- How deeply arrays and inline tables may be nested. -/
def nestingLimit : Nat := 80

def skipBlanks (chars : List Char) : List Char :=
  chars.dropWhile Quoted.isBlank

def skipComment : List Char → List Char
  | '#' :: rest => rest.dropWhile Quoted.isPlain
  | chars => chars

/-- Skip blanks, comments and newlines, beginning inside a comment or not. -/
def skipGapsFrom (inComment : Bool) : List Char → List Char
  | [] => []
  | '\n' :: rest => skipGapsFrom false rest
  | '\r' :: '\n' :: rest => skipGapsFrom false rest
  | char :: rest =>
      let isSkipped := if inComment then Quoted.isPlain char else Quoted.isBlank char
      if isSkipped then skipGapsFrom inComment rest
      else if char = '#' then skipGapsFrom true rest
      else char :: rest

def skipGaps (chars : List Char) : List Char :=
  skipGapsFrom false chars

/-- Skip to the end of a line, behind its newline. -/
def readLineEnd (chars : List Char) : Option (List Char) :=
  match skipComment (skipBlanks chars) with
  | [] => some []
  | rest => Quoted.readNewline rest

namespace Key

/-- Whether a character can be part of a key without quotes. -/
def isBare (char : Char) : Bool :=
  char.isAlphanum || char = '_' || char = '-'

/-- Read a key without dots. -/
def readSegment (chars : List Char) : Option (String × List Char) :=
  match chars.takeWhile isBare with
  | [] => Quoted.readOneLine chars
  | bare => some (String.ofList bare, chars.drop bare.length)

/-- How many segments a dotted key may have. -/
def segmentLimit : Nat := 80

/-- Read at most `limit` segments of a dotted key, with blanks around them.
The last one is given apart. -/
def readSegments : (limit : Nat) → List Char → Option (List String × String × List Char)
  | 0, _ => none
  | limit + 1, chars => do
      let (segment, rest) ← readSegment (skipBlanks chars)
      match skipBlanks rest with
      | '.' :: rest => do
          let (path, last, rest) ← readSegments limit rest
          return (segment :: path, last, rest)
      | rest => return ([], segment, rest)

def read (chars : List Char) : Option (List String × String × List Char) :=
  readSegments segmentLimit chars

end Key

mutual

/-- Read a value; `depth` limits the nesting. -/
def readValue : (fuel depth : Nat) → List Char → Option (Value × List Char)
  | 0, _, _ => none
  | fuel + 1, depth, chars =>
      match chars with
      | '[' :: rest =>
          match depth with
          | 0 => none
          | depth + 1 => readItems fuel depth [] rest
      | '\x7b' :: rest =>
          match depth with
          | 0 => none
          | depth + 1 => readFields fuel depth [] rest
      | '\x22' :: _ => (Quoted.read chars).map fun (value, rest) => (.text value, rest)
      | '\x27' :: _ => (Quoted.read chars).map fun (value, rest) => (.text value, rest)
      | _ => Scalar.read chars

/-- Read the rest of an array, at an item or at its end.  `found` holds the
items so far, last first. -/
def readItems : (fuel depth : Nat) → (found : List Value) → List Char →
    Option (Value × List Char)
  | 0, _, _, _ => none
  | fuel + 1, depth, found, chars =>
      match skipGaps chars with
      | ']' :: rest => some (.array found.reverse, rest)
      | chars =>
          match readValue fuel depth chars with
          | none => none
          | some (item, rest) =>
              match skipGaps rest with
              | ',' :: rest => readItems fuel depth (item :: found) rest
              | ']' :: rest => some (.array (item :: found).reverse, rest)
              | _ => none

/-- Read the rest of an inline table, at a key or at its end.  Its keys, equals
signs and values may stand on lines of their own. -/
def readFields : (fuel depth : Nat) → (entries : Entries) → List Char →
    Option (Value × List Char)
  | 0, _, _, _ => none
  | fuel + 1, depth, entries, chars =>
      match skipGaps chars with
      | '\x7d' :: rest => some (.table (entriesToValues entries), rest)
      | chars =>
          match Key.read chars with
          | none => none
          | some (path, key, rest) =>
              match skipGaps rest with
              | '=' :: rest =>
                  match readValue fuel depth (skipGaps rest) with
                  | none => none
                  | some (value, rest) =>
                      match Entries.assign key value true path entries with
                      | none => none
                      | some entries =>
                          match skipGaps rest with
                          | ',' :: rest => readFields fuel depth entries rest
                          | '\x7d' :: rest => some (.table (entriesToValues entries), rest)
                          | _ => none
              | _ => none

end

/-- Read the header of a table or, with two brackets, of an array of tables. -/
def readHeader (document : Document) (chars : List Char) : Option (Document × List Char) :=
  match chars with
  | '[' :: '[' :: rest =>
      match Key.read rest with
      | some (path, key, ']' :: ']' :: rest) =>
          (document.addHeader true path key).map (·, rest)
      | _ => none
  | '[' :: rest =>
      match Key.read rest with
      | some (path, key, ']' :: rest) => (document.addHeader false path key).map (·, rest)
      | _ => none
  | _ => none

def readAssignment (document : Document) (chars : List Char) :
    Option (Document × List Char) :=
  match Key.read chars with
  | some (path, key, '=' :: rest) => do
      let (value, rest) ← readValue (2 * rest.length + 2) nestingLimit (skipBlanks rest)
      return (← document.addValue path key value, rest)
  | _ => none

def readDocument (document : Document) : (fuel : Nat) → List Char → Option Document
  | 0, _ => none
  | fuel + 1, chars =>
      match skipGaps chars with
      | [] => some document
      | '[' :: rest => do
          let (document, rest) ← readHeader document ('[' :: rest)
          readDocument document fuel (← readLineEnd rest)
      | chars => do
          let (document, rest) ← readAssignment document chars
          readDocument document fuel (← readLineEnd rest)

/-- The table that a text stands for.  A byte order mark may stand in front. -/
def parse (text : String) : Option (List (String × Value)) := do
  let chars := text.toList
  let content := if chars.head? = some '\ufeff' then chars.tail else chars
  let document ← readDocument {} (content.length + 1) content
  return entriesToValues document.root

end Toml

end Brainfuck
