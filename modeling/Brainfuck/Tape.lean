/-!
# Tapes

A tape is a row of at least one byte cell.
-/

namespace Brainfuck

/-- A number of cells: at least one. -/
structure TapeLength where
  count : Nat
  count_pos : 0 < count := by decide
  deriving DecidableEq

namespace TapeLength

/-- The length of a tape when nothing else is asked for. -/
def standard : TapeLength where
  count := 30000

/-- The tape length of a given number of cells, which must not be zero. -/
def ofNat? (count : Nat) : Option TapeLength :=
  if positive : 0 < count then some ⟨count, positive⟩ else none

def last (length : TapeLength) : Nat :=
  length.count - 1

/-- Whether memory can hold a tape of a given length: it has to have less than
`2 ^ 36` cells. -/
def fitsMemory (length : TapeLength) : Bool :=
  length.count < Nat.pow 2 36

end TapeLength

structure Tape where
  cells : Array UInt8
  size_pos : 0 < cells.size
  deriving DecidableEq

namespace Tape

/-- The tape of a given length whose cells are all zero. -/
def zeroed (length : TapeLength) : Tape where
  cells := Array.replicate length.count 0
  size_pos := by simpa using length.count_pos

abbrev length (tape : Tape) : Nat :=
  tape.cells.size

theorem length_pos (tape : Tape) : 0 < tape.length :=
  tape.size_pos

def last (tape : Tape) : Nat :=
  tape.length - 1

theorem last_lt_length (tape : Tape) : tape.last < tape.length := by
  have := tape.length_pos
  simp only [last]
  omega

def get (tape : Tape) (index : Nat) (inside : index < tape.length) : UInt8 :=
  tape.cells[index]

def set (tape : Tape) (index : Nat) (inside : index < tape.length) (value : UInt8) : Tape :=
  ⟨tape.cells.set index value inside, by simpa using tape.size_pos⟩

@[simp]
theorem length_zeroed (length : TapeLength) : (zeroed length).length = length.count := by
  simp [zeroed, Tape.length]

@[simp]
theorem length_set (tape : Tape) (index : Nat) (inside : index < tape.length)
    (value : UInt8) : (tape.set index inside value).length = tape.length := by
  simp [set, Tape.length]

/-- The non-zero cells among the first `count`, in front of those in `behind`. -/
def nonzeroCellsBefore (tape : Tape) :
    (count : Nat) → (behind : List (Nat × UInt8)) → List (Nat × UInt8)
  | 0, behind => behind
  | index + 1, behind =>
      let value := tape.cells.getD index 0
      tape.nonzeroCellsBefore index (if value = 0 then behind else (index, value) :: behind)

/-- The non-zero cells with their indices, in ascending order. -/
def nonzeroCells (tape : Tape) : List (Nat × UInt8) :=
  tape.nonzeroCellsBefore tape.length []

end Tape

end Brainfuck
