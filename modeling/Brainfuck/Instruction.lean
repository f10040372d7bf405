/-!
# Instructions

The eight instructions of the language.  Each one has a symbol, which stands
for it in source text, and a name, which stands for it in listings and in
generic data.
-/

namespace Brainfuck

inductive Instruction where
  /-- Move the pointer one cell to the left, from the first cell to the last. -/
  | moveLeft
  /-- Move the pointer one cell to the right, from the last cell to the first. -/
  | moveRight
  /-- Add one to the current cell, modulo 256. -/
  | increment
  /-- Subtract one from the current cell, modulo 256. -/
  | decrement
  /-- Read a byte into the current cell. -/
  | input
  /-- Write the current cell. -/
  | output
  /-- Skip to the end of the loop when the current cell is zero. -/
  | loopStart
  /-- Go back to the start of the loop when the current cell is non-zero. -/
  | loopEnd
  deriving DecidableEq

namespace Instruction

/-- All instructions, in the order in which their names are enumerated. -/
def all : List Instruction :=
  [moveLeft, moveRight, increment, decrement, input, output, loopStart, loopEnd]

theorem mem_all (instruction : Instruction) : instruction ∈ all := by
  cases instruction <;> decide

/-- The character that stands for the instruction in source text. -/
def symbol : Instruction → Char
  | moveLeft => '<'
  | moveRight => '>'
  | increment => '+'
  | decrement => '-'
  | input => ','
  | output => '.'
  | loopStart => '['
  | loopEnd => ']'

/-- The instruction for which a character stands; every other character is a
comment. -/
def ofSymbol? : Char → Option Instruction
  | '<' => some moveLeft
  | '>' => some moveRight
  | '+' => some increment
  | '-' => some decrement
  | ',' => some input
  | '.' => some output
  | '[' => some loopStart
  | ']' => some loopEnd
  | _ => none

@[simp]
theorem ofSymbol?_symbol (instruction : Instruction) :
    ofSymbol? instruction.symbol = some instruction := by
  cases instruction <;> rfl

theorem symbol_of_ofSymbol? {char : Char} {instruction : Instruction}
    (found : ofSymbol? char = some instruction) :
    instruction.symbol = char := by
  unfold ofSymbol? at found
  split at found <;> cases found <;> rfl

/-- The name of the instruction in listings and in generic data. -/
def name : Instruction → String
  | moveLeft => "MovePtrLeft"
  | moveRight => "MovePtrRight"
  | increment => "IncrementCell"
  | decrement => "DecrementCell"
  | input => "GetInput"
  | output => "PutOutput"
  | loopStart => "StartLoop"
  | loopEnd => "EndLoop"

def ofName? (name : String) : Option Instruction :=
  all.find? fun instruction => instruction.name = name

@[simp]
theorem ofName?_name (instruction : Instruction) :
    ofName? instruction.name = some instruction := by
  cases instruction <;> decide

/-- Whether the instruction delimits a loop. -/
def isBracket : Instruction → Bool
  | loopStart => true
  | loopEnd => true
  | _ => false

/-- The source text of a list of instructions, without comments. -/
def text (instructions : List Instruction) : String :=
  String.ofList (instructions.map symbol)

end Instruction

end Brainfuck
