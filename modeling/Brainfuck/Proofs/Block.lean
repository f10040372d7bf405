import Brainfuck.Instruction
import Brainfuck.Proofs.Brackets

/-!
# Blocks

A block is the nested form of a list of instructions with balanced loops.
Reading a list from its end yields the block at its front together with the
blocks behind the loop ends that are not opened in it, so that every suffix of
a balanced list has a reading.  A list has a block exactly when the check of
its brackets finds nothing wrong, and then only one.
-/

namespace Brainfuck

namespace Instruction

def side : Instruction → Side
  | loopStart => .opening
  | loopEnd => .closing
  | _ => .neither

theorem side_eq_neither {instruction : Instruction} (isPlain : instruction.isBracket = false) :
    instruction.side = .neither := by
  cases instruction <;> first | rfl | contradiction

/-- The sides of instructions, labelled by their indices from `index` on. -/
def indexed (index : Nat) : List Instruction → List (Nat × Side)
  | [] => []
  | instruction :: rest => (index, instruction.side) :: indexed (index + 1) rest

@[simp]
theorem map_snd_indexed (index : Nat) (instructions : List Instruction) :
    (indexed index instructions).map Prod.snd = instructions.map side := by
  induction instructions generalizing index with
  | nil => rfl
  | cons instruction rest ih => simp [indexed, ih]

end Instruction

/-- A sequence of plain instructions and of loops around further blocks. -/
inductive Block where
  | done
  | plain (instruction : Instruction) (isPlain : instruction.isBracket = false) (rest : Block)
  | loop (body rest : Block)
  deriving DecidableEq

namespace Block

open Instruction

def toList : Block → List Instruction
  | done => []
  | plain instruction _ rest => instruction :: rest.toList
  | loop body rest => .loopStart :: (body.toList ++ .loopEnd :: rest.toList)

def size (block : Block) : Nat :=
  block.toList.length

@[simp]
theorem size_done : done.size = 0 :=
  rfl

@[simp]
theorem size_plain (instruction : Instruction) (isPlain : instruction.isBracket = false)
    (rest : Block) : (plain instruction isPlain rest).size = rest.size + 1 :=
  rfl

@[simp]
theorem size_loop (body rest : Block) : (loop body rest).size = body.size + rest.size + 2 := by
  simp only [size, toList, List.length_cons, List.length_append]
  omega

theorem add_size_plain (index : Nat) (instruction : Instruction)
    (isPlain : instruction.isBracket = false) (rest : Block) :
    index + (plain instruction isPlain rest).size = index + 1 + rest.size := by
  rw [size_plain]
  omega

theorem add_size_loop (index : Nat) (body rest : Block) :
    index + (loop body rest).size = index + 1 + body.size + 1 + rest.size := by
  rw [size_loop]
  omega

def append : Block → Block → Block
  | done, next => next
  | plain instruction isPlain rest, next => plain instruction isPlain (rest.append next)
  | loop body rest, next => loop body (rest.append next)

@[simp]
theorem append_done (block : Block) : block.append done = block := by
  induction block with
  | done => rfl
  | plain instruction isPlain rest ih => simp [append, ih]
  | loop body rest _ ih => simp [append, ih]

@[simp]
theorem toList_append (block next : Block) :
    (block.append next).toList = block.toList ++ next.toList := by
  induction block with
  | done => rfl
  | plain instruction isPlain rest ih => simp [append, toList, ih]
  | loop body rest _ ih => simp [append, toList, ih]

/-- The instructions of a block and of those behind further loop ends. -/
def flatten (block : Block) (outer : List Block) : List Instruction :=
  block.toList ++ outer.flatMap fun next => .loopEnd :: next.toList

/-! ## Reading -/

def attach (instruction : Instruction) (block : Block) (outer : List Block) :
    Option (Block × List Block) :=
  if isPlain : instruction.isBracket = false then some (plain instruction isPlain block, outer)
  else if instruction = .loopEnd then some (done, block :: outer)
  else
    match outer with
    | [] => none
    | next :: outer => some (loop block next, outer)

/-- The block at the front of a list of instructions and, for every loop end
that is not opened there, the block behind it. -/
def read : List Instruction → Option (Block × List Block)
  | [] => some (done, [])
  | instruction :: rest =>
      match read rest with
      | none => none
      | some (block, outer) => attach instruction block outer

def ofList? (instructions : List Instruction) : Option Block :=
  match read instructions with
  | some (block, []) => some block
  | _ => none

theorem read_append {instructions : List Instruction} {next : Block} {outer : List Block}
    (readRest : read instructions = some (next, outer)) (block : Block) :
    read (block.toList ++ instructions) = some (block.append next, outer) := by
  induction block generalizing instructions next outer with
  | done => exact readRest
  | plain instruction isPlain rest ih =>
      simp [toList, read, ih readRest, attach, isPlain, append]
  | loop body rest bodyIH restIH =>
      have readEnd :
          read (.loopEnd :: (rest.toList ++ instructions)) =
            some (done, rest.append next :: outer) := by
        simp [read, restIH readRest, attach, isBracket]
      simp [toList, read, bodyIH readEnd, attach, isBracket, append]

theorem read_flatten (block : Block) (outer : List Block) :
    read (block.flatten outer) = some (block, outer) := by
  induction outer generalizing block with
  | nil => simpa [flatten] using read_append (show read [] = some (done, []) from rfl) block
  | cons next outer ih =>
      have readEnd : read (.loopEnd :: next.flatten outer) = some (done, next :: outer) := by
        simp [read, ih, attach, isBracket]
      simpa [flatten] using read_append readEnd block

theorem flatten_of_attach {instruction : Instruction} {block read : Block}
    {outer behind : List Block} (attached : attach instruction block outer = some (read, behind)) :
    read.flatten behind = instruction :: block.flatten outer := by
  unfold attach at attached
  split at attached
  · cases attached
    simp [flatten, toList]
  · split at attached
    · cases attached
      simp_all [flatten, toList]
    · split at attached
      · cases attached
      · cases attached
        cases instruction <;> simp_all [flatten, toList, isBracket]

theorem flatten_of_read {instructions : List Instruction} {block : Block} {outer : List Block}
    (found : read instructions = some (block, outer)) :
    block.flatten outer = instructions := by
  induction instructions generalizing block outer with
  | nil =>
      cases found
      rfl
  | cons instruction rest ih =>
      simp only [read] at found
      split at found
      · cases found
      · next restBlock restOuter readRest =>
          rw [flatten_of_attach found, ih readRest]

theorem ofList?_eq_some_iff {instructions : List Instruction} {block : Block} :
    ofList? instructions = some block ↔ block.toList = instructions := by
  constructor
  · intro found
    unfold ofList? at found
    split at found
    · next read =>
        cases found
        simpa [flatten] using flatten_of_read read
    · cases found
  · rintro rfl
    have found := read_flatten block []
    simp only [flatten, List.flatMap_nil, List.append_nil] at found
    simp [ofList?, found]

/-- A list of instructions is the list of one block at most. -/
theorem toList_injective : Function.Injective toList := by
  intro first second equal
  have found := ofList?_eq_some_iff.mpr equal
  rw [ofList?_eq_some_iff.mpr rfl] at found
  exact (Option.some.inj found).symm

/-! ## Loop ends without loop starts -/

/-- The number of loop ends that are not opened, if the loop starts are all closed. -/
def excess? (instructions : List Instruction) : Option Nat :=
  (read instructions).map fun found => found.2.length

theorem excess?_eq_zero_iff {instructions : List Instruction} :
    excess? instructions = some 0 ↔ ∃ block, ofList? instructions = some block := by
  rw [excess?, ofList?]
  rcases read instructions with _ | ⟨block, outer⟩
  · simp
  · cases outer <;> simp

theorem exists_read_of_append (front : List Instruction) {rest : List Instruction}
    {reading : Block × List Block} (found : read (front ++ rest) = some reading) :
    ∃ behind, read rest = some behind := by
  induction front generalizing reading with
  | nil => exact ⟨reading, found⟩
  | cons instruction front ih =>
      rw [List.cons_append, read] at found
      cases readFront : read (front ++ rest) with
      | none =>
          rw [readFront] at found
          cases found
      | some next => exact ih readFront

theorem excess?_append_block (block : Block) (rest : List Instruction) :
    excess? (block.toList ++ rest) = excess? rest := by
  cases readRest : read rest with
  | some reading => simp [excess?, readRest, read_append readRest]
  | none =>
      cases readWhole : read (block.toList ++ rest) with
      | none => simp [excess?, readRest, readWhole]
      | some reading =>
          obtain ⟨behind, found⟩ := exists_read_of_append block.toList readWhole
          rw [readRest] at found
          cases found

/-- What stands in front of two lists does not tell them apart. -/
theorem excess?_append {rest other : List Instruction} (same : excess? rest = excess? other)
    (front : List Instruction) : excess? (front ++ rest) = excess? (front ++ other) := by
  induction front with
  | nil => exact same
  | cons instruction front ih =>
      simp only [excess?, List.cons_append, read] at ih ⊢
      cases readRest : read (front ++ rest) with
      | none =>
          rw [readRest] at ih
          rw [Option.map_eq_none_iff.mp ih.symm]
      | some reading =>
          rw [readRest] at ih
          obtain ⟨otherReading, readOther, lengthEq⟩ := Option.map_eq_some_iff.mp ih.symm
          obtain ⟨block, outer⟩ := reading
          obtain ⟨otherBlock, otherOuter⟩ := otherReading
          rw [readOther]
          cases instruction with
          | loopStart =>
              cases outer with
              | nil =>
                  obtain rfl : otherOuter = [] := List.length_eq_zero_iff.mp lengthEq
                  rfl
              | cons next outer =>
                  cases otherOuter with
                  | nil => simp at lengthEq
                  | cons otherNext otherOuter =>
                      simpa [attach, isBracket] using lengthEq.symm
          | _ => simpa [attach, isBracket] using lengthEq.symm

/-! ## Checking -/

/-- A check finds nothing wrong exactly if the instructions have a reading with
one further block for every open bracket. -/
theorem check_indexed_eq_none_iff (index : Nat) (openings : List Nat)
    (instructions : List Instruction) :
    Brackets.check openings (indexed index instructions) = none ↔
      excess? instructions = some openings.length := by
  induction instructions generalizing index openings with
  | nil => cases openings <;> simp [indexed, Brackets.check, excess?, read]
  | cons instruction rest ih =>
      simp only [indexed, excess?, read] at ih ⊢
      by_cases isPlain : instruction.isBracket = false
      · rw [side_eq_neither isPlain, Brackets.check, ih]
        cases read rest <;> simp [attach, isPlain]
      · cases instruction with
        | loopStart =>
            rw [side, Brackets.check, ih]
            rcases read rest with _ | ⟨block, outer⟩
            · simp
            · cases outer <;> simp [attach, isBracket]
        | loopEnd =>
            cases openings with
            | nil => cases read rest <;> simp [side, Brackets.check, attach, isBracket]
            | cons opening openings =>
                rw [side, Brackets.check, ih]
                cases read rest <;> simp [attach, isBracket]
        | _ => simp [isBracket] at isPlain

/-- The lists of instructions without a fault in their brackets are the lists of
blocks. -/
theorem check_indexed_eq_none_iff_ofList? {instructions : List Instruction} :
    Brackets.check [] (indexed 0 instructions) = none ↔
      ∃ block, ofList? instructions = some block := by
  rw [check_indexed_eq_none_iff]
  exact excess?_eq_zero_iff

end Block

end Brainfuck
