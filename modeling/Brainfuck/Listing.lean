import Brainfuck.Instruction

/-!
# Listings

A listing writes a list of instructions as RON text: the names of the
instructions between brackets, each indented on a line of its own and followed
by a comma.
-/

namespace Brainfuck

namespace Listing

def line (instruction : Instruction) : String :=
  "    " ++ instruction.name ++ ",\n"

def render : List Instruction → String
  | [] => "[]"
  | instructions => "[\n" ++ String.join (instructions.map line) ++ "]"

end Listing

end Brainfuck
