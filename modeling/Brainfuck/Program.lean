import Brainfuck.Source

/-!
# Programs

A program is a list of instructions whose loops are balanced, together with
its jump table: at the index of a bracket stands the index of its partner.
The table is filled in a single pass that keeps the indices of the open loop
starts.
-/

namespace Brainfuck

/-- Why a program cannot be built.  Indices count instructions. -/
inductive ProgramError where
  /-- The source text was refused. -/
  | source (cause : SourceError)
  /-- A loop end that no loop start before it can match. -/
  | unmatchedLoopEnd (index : Nat)
  /-- A loop start that no loop end after it can match. -/
  | unclosedLoopStart (index : Nat)
  deriving DecidableEq

namespace ProgramError

def message : ProgramError → String
  | source _ => "failed to parse program source"
  | unmatchedLoopEnd index =>
      "loop end at instruction #" ++ toString index ++ " has no matching start"
  | unclosedLoopStart index =>
      "loop start at instruction #" ++ toString index ++ " has no matching end"

end ProgramError

namespace Program

/-- Fill in the jumps of the instructions that start at `index`.  `openings`
holds the indices of the open loop starts, innermost first. -/
def fillJumps (index : Nat) (openings : List Nat) (jumps : Array Nat) :
    List Instruction → Except ProgramError (Array Nat)
  | [] =>
      match openings with
      | [] => .ok jumps
      | opening :: _ => .error (.unclosedLoopStart opening)
  | .loopStart :: rest => fillJumps (index + 1) (index :: openings) jumps rest
  | .loopEnd :: rest =>
      match openings with
      | [] => .error (.unmatchedLoopEnd index)
      | opening :: outer =>
          fillJumps (index + 1) outer
            ((jumps.setIfInBounds opening index).setIfInBounds index opening) rest
  | _ :: rest => fillJumps (index + 1) openings jumps rest

/-- The jump table of a list of instructions.  Instructions that are not
brackets have the entry zero, which is never consulted. -/
def jumpTable (instructions : List Instruction) : Except ProgramError (Array Nat) :=
  fillJumps 0 [] (Array.replicate instructions.length 0) instructions

theorem size_fillJumps {index : Nat} {openings : List Nat} {jumps table : Array Nat}
    {instructions : List Instruction}
    (filled : fillJumps index openings jumps instructions = .ok table) :
    table.size = jumps.size := by
  fun_induction fillJumps index openings jumps instructions <;> simp_all

theorem size_jumpTable {instructions : List Instruction} {table : Array Nat}
    (filled : jumpTable instructions = .ok table) :
    table.size = instructions.length := by
  simpa using size_fillJumps filled

end Program

/-- Instructions with balanced loops and their jump table. -/
structure Program where
  instructions : Array Instruction
  jumps : Array Nat
  jumpTable_eq : Program.jumpTable instructions.toList = .ok jumps
  deriving DecidableEq

namespace Program

def ofList (instructions : List Instruction) : Except ProgramError Program :=
  match filled : jumpTable instructions with
  | .ok jumps => .ok ⟨instructions.toArray, jumps, filled⟩
  | .error error => .error error

def parse (source : String) : Except ProgramError Program :=
  match Source.parse source with
  | .ok instructions => ofList instructions
  | .error cause => .error (.source cause)

def size (program : Program) : Nat :=
  program.instructions.size

def toList (program : Program) : List Instruction :=
  program.instructions.toList

/-- The source text of the program, without comments. -/
def text (program : Program) : String :=
  Instruction.text program.toList

@[simp]
theorem size_jumps (program : Program) : program.jumps.size = program.size :=
  size_jumpTable program.jumpTable_eq

/-- The index of the partner of the bracket at `index`, if there is a bracket. -/
def partner? (program : Program) (index : Nat) : Option Nat :=
  match program.instructions[index]? with
  | some instruction =>
      if instruction.isBracket then program.jumps[index]? else none
  | none => none

end Program

end Brainfuck
