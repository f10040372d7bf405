/-!
# Text on a terminal

A terminal takes some characters of a text as control sequences: an escape
character and what belongs to it.  Only the other characters are shown, and of
the control characters among them only tabs, line ends and form feeds.
-/

namespace Brainfuck

namespace Text

namespace Terminal

/-- What a terminal expects between two characters. -/
inductive Mode where
  /-- Text that is shown. -/
  | plain
  /-- The rest of a sequence behind its escape character. -/
  | escape
  /-- The end of a sequence that is longer than two characters. -/
  | intermediate
  /-- The parameters of a control sequence. -/
  | control
  /-- An operating system command, up to a bell. -/
  | command
  /-- A string for the terminal itself. -/
  | string
  deriving DecidableEq

/-- Whether a control character moves the place of writing. -/
def isSpacing (char : Char) : Bool :=
  char = '\t' || char = '\n' || char = '\x0c' || char = '\r'

def isShown (char : Char) : Bool :=
  isSpacing char || (' ' ≤ char && char ≠ '\x7f')

/-- The mode behind a character in a sequence that is neither a command nor a
string. -/
def advance (mode : Mode) (char : Char) : Mode :=
  match mode with
  | .escape =>
      if ' ' ≤ char && char ≤ '/' then .intermediate
      else if char = '[' then .control
      else if char = ']' then .command
      else if char = 'P' || char = 'X' || char = '^' || char = '_' then .string
      else if '0' ≤ char && char ≤ '~' then .plain
      else .escape
  | .intermediate => if '0' ≤ char && char ≤ '~' then .plain else .intermediate
  | .control => if '@' ≤ char && char ≤ '~' then .plain else .control
  | mode => mode

/-- Whether the encoding of a character holds the byte that ends a string. -/
def endsString (char : Char) : Bool :=
  (String.utf8EncodeChar char).contains 0x9c

/-- The mode behind a character, and whether the character is shown.  An escape
character begins a new sequence everywhere, and a cancelling character returns
to plain text. -/
def step (mode : Mode) (char : Char) : Mode × Bool :=
  if char = '\x1b' then (.escape, false)
  else if char = '\x18' || char = '\x1a' then (.plain, false)
  else
    match mode with
    | .plain => (.plain, isShown char)
    | .command => (if char = '\x07' then .plain else .command, false)
    | .string => (if endsString char then .plain else .string, false)
    | mode => if isSpacing char then (.plain, true) else (advance mode char, false)

/-- The characters that are shown from a mode on. -/
def shownFrom (mode : Mode) : List Char → List Char
  | [] => []
  | char :: rest =>
      let (next, isShown) := step mode char
      if isShown then char :: shownFrom next rest else shownFrom next rest

/-- Leave out the style sequences: an escape character, a bracket, digits and
semicolons, and the letter `m`.  The characters in `held`, last first, are so far
those of a style sequence. -/
def unstyledFrom (held : List Char) : List Char → List Char
  | [] => held.reverse
  | char :: rest =>
      if char = '\x1b' then held.reverse ++ unstyledFrom [char] rest
      else
        match held with
        | [] => char :: unstyledFrom [] rest
        | [_] =>
            if char = '[' then unstyledFrom (char :: held) rest
            else held.reverse ++ char :: unstyledFrom [] rest
        | _ =>
            if char = 'm' then unstyledFrom [] rest
            else if char.isDigit || char = ';' then unstyledFrom (char :: held) rest
            else held.reverse ++ char :: unstyledFrom [] rest

end Terminal

/-- What a terminal shows of a text. -/
def shown (text : String) : String :=
  String.ofList (Terminal.shownFrom .plain text.toList)

def unstyled (text : String) : String :=
  String.ofList (Terminal.unstyledFrom [] text.toList)

end Text

end Brainfuck
