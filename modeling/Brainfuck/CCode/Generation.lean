import Brainfuck.CCode.Dialect
import Brainfuck.Instruction
import Brainfuck.Tape

/-!
# Generated C code

A program becomes a C program that acts on an array `tape` and an index `ptr`.
Every instruction is one line; loops are `while` blocks, and the lines inside
are indented by one more tab.  The lines are written from first to last, with
the current depth and the indices of the open loop starts at hand.
-/

namespace Brainfuck

namespace CCode

/-- Why there is no code for a list of instructions.  Indices count
instructions. -/
inductive CodeError where
  /-- A loop end that no loop start before it can match. -/
  | unmatchedLoopEnd (index : Nat)
  /-- A loop start that no loop end after it can match. -/
  | unclosedLoopStart (index : Nat)
  /-- The text of the code could not be formatted. -/
  | format
  deriving DecidableEq

namespace CodeError

def message : CodeError → String
  | unmatchedLoopEnd index =>
      "loop end at instruction #" ++ toString index ++ " has no matching start"
  | unclosedLoopStart index =>
      "loop start at instruction #" ++ toString index ++ " is never closed"
  | format => "failed to format generated source"

/-- The message of the underlying failure, if there is one. -/
def sourceMessage? : CodeError → Option String
  | format => some "an error occurred when formatting an argument"
  | _ => none

end CodeError

/-- A line of code: its indentation in tabs and what stands behind it. -/
structure Line where
  depth : Nat
  content : String
  deriving DecidableEq

/-- The text of a line, with the newline that ends it. -/
def Line.text (line : Line) : String :=
  String.ofList (List.replicate line.depth '\t') ++ line.content ++ "\n"

def linesText (lines : List Line) : String :=
  String.join (lines.map Line.text)

/-- The statement of an instruction on a tape whose last index is `last`.  A
loop start opens a block that its loop end closes. -/
def statement (dialect : Dialect) (last : Nat) : Instruction → String
  | .increment => "tape[ptr]++;"
  | .decrement => "tape[ptr]--;"
  | .moveRight => "ptr = (ptr == " ++ toString last ++ ") ? 0 : ptr + 1;"
  | .moveLeft => "ptr = (ptr == 0) ? " ++ toString last ++ " : ptr - 1;"
  | .output => "(void)" ++ dialect.qualifier ++ "fputc(tape[ptr], stdout);"
  | .input =>
      "\x7b int tmp; tape[ptr] = ((tmp = " ++ dialect.qualifier
        ++ "fgetc(stdin)) != EOF) ? (byte)tmp : tape[ptr]; \x7d"
  | .loopStart => "while (tape[ptr]) \x7b"
  | .loopEnd => "\x7d"

def preamble (dialect : Dialect) (length : TapeLength) : List Line :=
  dialect.includes.map (fun header => ⟨0, "#include " ++ header⟩) ++
    [⟨0, ""⟩,
     ⟨0, "typedef unsigned char byte;"⟩,
     ⟨0, ""⟩,
     ⟨0, dialect.mainHead ++ " \x7b"⟩,
     ⟨1, "byte tape[" ++ toString length.count ++ "] = \x7b0\x7d;"⟩,
     ⟨1, dialect.qualifier ++ "size_t ptr = 0;"⟩]

def ending : List Line :=
  [⟨1, "return 0;"⟩, ⟨0, "\x7d"⟩]

/-- The code between two instructions: the index of the next one, the depth of
its line, the indices of the open loop starts, innermost first, and the lines
so far, last first. -/
structure Draft where
  index : Nat := 0
  depth : Nat := 1
  openings : List Nat := []
  lines : List Line := []

namespace Draft

/-- Add a line for the next instruction and go on at a given depth. -/
def addLine (draft : Draft) (lineDepth nextDepth : Nat) (openings : List Nat)
    (content : String) : Draft where
  index := draft.index + 1
  depth := nextDepth
  openings := openings
  lines := ⟨lineDepth, content⟩ :: draft.lines

def add (dialect : Dialect) (last : Nat) (draft : Draft) (instruction : Instruction) :
    Except CodeError Draft :=
  let content := statement dialect last instruction
  let depth := draft.depth
  match instruction with
  | .loopStart =>
      .ok (draft.addLine depth (depth + 1) (draft.index :: draft.openings) content)
  | .loopEnd =>
      match draft.openings with
      | [] => .error (.unmatchedLoopEnd draft.index)
      | _ :: outer => .ok (draft.addLine (depth - 1) (depth - 1) outer content)
  | _ => .ok (draft.addLine depth depth draft.openings content)

def finish (draft : Draft) : Except CodeError (List Line) :=
  match draft.openings with
  | [] => .ok draft.lines.reverse
  | opening :: _ => .error (.unclosedLoopStart opening)

end Draft

def body (dialect : Dialect) (length : TapeLength) (instructions : List Instruction) :
    Except CodeError (List Line) := do
  (← instructions.foldlM (Draft.add dialect length.last) {}).finish

def generate (dialect : Dialect) (length : TapeLength) (instructions : List Instruction) :
    Except CodeError String := do
  let lines ← body dialect length instructions
  return linesText (preamble dialect length ++ lines ++ ending)

end CCode

end Brainfuck
