import Brainfuck.CCode.Dialect
import Brainfuck.Datum.Basic
import Brainfuck.Instruction
import Brainfuck.Statistics
import Brainfuck.Tape

/-!
# Generic data of the domain

How instructions, dialects, tape lengths and statistics are written as generic
data and read back.
-/

namespace Brainfuck

namespace Instruction

def ofDatum : Datum → Except Mismatch Instruction :=
  Datum.readVariant name all

def toDatum (instruction : Instruction) : Datum :=
  .text instruction.name

end Instruction

namespace Dialect

def ofDatum : Datum → Except Mismatch Dialect :=
  Datum.readVariant key all

def toDatum (dialect : Dialect) : Datum :=
  .text dialect.key

end Dialect

namespace TapeLength

/-- Read a tape length: a positive number below `2 ^ 64`. -/
def ofDatum : Datum → Except Mismatch TapeLength
  | .integer value =>
      match ofNat? value.toNat with
      | some length =>
          if value < UInt64.size then .ok length
          else .error (.wrongValue (.integer value) "a nonzero usize")
      | none => .error (.wrongValue (.integer value) "a nonzero usize")
  | other => .error (.wrongType other "a nonzero usize")

def toDatum (length : TapeLength) : Datum :=
  .integer length.count

end TapeLength

namespace Statistics

/-- The keys of the counters, in the order of their declaration. -/
def keys : List String :=
  ["instructions", "bytes_read", "bytes_written", "end_of_input_reads"]

def ofCounters (counters : List (String × Nat)) : Except Mismatch Statistics := do
  let counter (key : String) : Except Mismatch Nat :=
    match counters.lookup key with
    | some value => .ok value
    | none => .error (.missingField key)
  return {
    instructions := ← counter "instructions"
    bytesRead := ← counter "bytes_read"
    bytesWritten := ← counter "bytes_written"
    endOfInputReads := ← counter "end_of_input_reads" }

def readCounters (entries : List (String × Datum)) :
    Except Mismatch (List (String × Nat)) :=
  entries.mapM fun (key, value) => do return (key, ← value.readNatural "u64")

/-- Read statistics from a mapping, whose other keys are ignored, or from a
sequence in the order of the keys. -/
def ofDatum : Datum → Except Mismatch Statistics
  | .mapping entries => do
      ofCounters (← readCounters (entries.filter fun entry => keys.contains entry.1))
  | .sequence items => do
      let counters ← readCounters (keys.zip items)
      if items.length < keys.length then
        throw (.tooShort items.length "struct ExecutionStats with 4 elements")
      if keys.length < items.length then
        throw (.tooLong items.length)
      ofCounters counters
  | other => .error (.wrongType other "struct ExecutionStats")

def toDatum (statistics : Statistics) : Datum :=
  .mapping
    [("instructions", .integer statistics.instructions),
     ("bytes_read", .integer statistics.bytesRead),
     ("bytes_written", .integer statistics.bytesWritten),
     ("end_of_input_reads", .integer statistics.endOfInputReads)]

end Statistics

end Brainfuck
