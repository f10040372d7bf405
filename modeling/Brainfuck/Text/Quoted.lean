import Brainfuck.Text.Visible

/-!
# Quoted texts

A text that is quoted in a message stands between double quotes.  Quotes,
backslashes and the usual line controls are escaped by a backslash, and a
character without a visible form is written as its code point.

In JSON only control characters are escaped besides quotes and backslashes.
-/

namespace Brainfuck

namespace Text

/-- The written form of a character between quotes. -/
def quoteChar (char : Char) : List Char :=
  if char = '\x22' || char = '\\' then ['\\', char]
  else if char = '\n' then ['\\', 'n']
  else if char = '\r' then ['\\', 'r']
  else if char = '\t' then ['\\', 't']
  else if char = '\x00' then ['\\', '0']
  else if isVisible char then [char]
  else ['\\', 'u', '\x7b'] ++ Nat.toDigits 16 char.toNat ++ ['\x7d']

def quoted (text : String) : String :=
  String.ofList (['\x22'] ++ text.toList.flatMap quoteChar ++ ['\x22'])

def quoteCharJson (char : Char) : List Char :=
  if char = '\x22' || char = '\\' then ['\\', char]
  else if char = '\n' then ['\\', 'n']
  else if char = '\r' then ['\\', 'r']
  else if char = '\t' then ['\\', 't']
  else if char = '\x08' then ['\\', 'b']
  else if char = '\x0c' then ['\\', 'f']
  else if char.toNat < 0x10 then ['\\', 'u', '0', '0', '0'] ++ Nat.toDigits 16 char.toNat
  else if char.toNat < 0x20 then ['\\', 'u', '0', '0'] ++ Nat.toDigits 16 char.toNat
  else [char]

def quotedJson (text : String) : String :=
  String.ofList (['\x22'] ++ text.toList.flatMap quoteCharJson ++ ['\x22'])

end Text

end Brainfuck
