import Brainfuck.Proofs.BlockRun
import Brainfuck.Proofs.CCode.Meaning
import Brainfuck.Proofs.CCode.Reading

/-!
# Generated code and runs

A store of generated code corresponds to the state of a run.  Every plain
instruction preserves this, and hence so does every block: its statements
finish exactly if the block ends, and no expression on the way is undefined.
Where the block does not end, neither do the loops of the code, in their plain
meaning.
-/

namespace Brainfuck

namespace CCode

open Execution

/-- A store that corresponds to the state of a run on a tape of a given length,
whose streams never fail. -/
structure Agrees (length : TapeLength) (store : Store) (state : State) : Prop where
  tape : store.tape = state.machine.tape.cells
  size : store.tape.size = length.count
  ptr : store.ptr = state.machine.pointer
  input : state.streams.input = store.input.map .byte
  output : state.streams.output = store.output
  writes : state.streams.writes = []
  flushes : state.streams.flushes = []

theorem agrees_fresh (length : TapeLength) (bytes : List UInt8) :
    Agrees length { tape := Array.replicate length.count 0, ptr := 0, input := bytes }
      ⟨Machine.fresh length, Streams.ofBytes bytes⟩ where
  tape := rfl
  size := Array.size_replicate
  ptr := rfl
  input := rfl
  output := rfl
  writes := rfl
  flushes := rfl

/-! ## Bytes and indices as values -/

theorem toByte_int_toNat (byte : UInt8) : (Value.int byte.toNat).toByte = some byte := by
  have small := byte.toNat_lt
  have wrapped : ((byte.toNat : Int) % 2 ^ 8).toNat = byte.toNat := by omega
  simp only [Value.toByte, wrapped, UInt8.ofNat_toNat]

theorem toByte_int_add_one (byte : UInt8) :
    (Value.int (byte.toNat + 1)).toByte = some (byte + 1) := by
  have wrapped : (((byte.toNat : Int) + 1) % 2 ^ 8).toNat = (byte.toNat + 1) % 2 ^ 8 := by omega
  have byteEq : UInt8.ofNat ((byte.toNat + 1) % 2 ^ 8) = byte + 1 := by
    apply UInt8.toNat_inj.mp
    simp [UInt8.toNat_add]
  rw [Value.toByte, wrapped, byteEq]

theorem toByte_int_sub_one (byte : UInt8) :
    (Value.int (byte.toNat - 1)).toByte = some (byte - 1) := by
  have small := byte.toNat_lt
  have wrapped : (((byte.toNat : Int) - 1) % 2 ^ 8).toNat = (2 ^ 8 - 1 + byte.toNat) % 2 ^ 8 := by
    omega
  have byteEq : UInt8.ofNat ((2 ^ 8 - 1 + byte.toNat) % 2 ^ 8) = byte - 1 := by
    apply UInt8.toNat_inj.mp
    simp [UInt8.toNat_sub]
  rw [Value.toByte, wrapped, byteEq]

theorem toInt_of_small {value : Int} (atLeast : -2 ≤ value) (atMost : value ≤ 256) :
    (Value.int value).toInt = some value := by
  rw [Value.toInt, if_pos (by omega)]

theorem add_one (byte : UInt8) :
    (Value.int byte.toNat).add (.int 1) = some (.int (byte.toNat + 1)) := by
  have small := byte.toNat_lt
  rw [Value.add, toInt_of_small (by omega) (by omega), Option.map_some]

theorem subtract_one (byte : UInt8) :
    (Value.int byte.toNat).subtract (.int 1) = some (.int (byte.toNat - 1)) := by
  have small := byte.toNat_lt
  rw [Value.subtract, toInt_of_small (by omega) (by omega), Option.map_some]

theorem isTrue_int_toNat (byte : UInt8) : (Value.int byte.toNat).isTrue = some (byte != 0) := by
  have zeroIff : byte.toNat = 0 ↔ byte = 0 := by
    rw [← UInt8.toNat_inj, UInt8.toNat_zero]
  rw [Value.isTrue]
  congr 1
  rw [Bool.eq_iff_iff]
  simp [zeroIff]

theorem toSize_int {number : Nat} (small : number < 2 ^ 63) :
    (Value.int number).toSize = some number := by
  have unchanged : ((number : Int) % 2 ^ 64).toNat = number := by omega
  rw [Value.toSize, unchanged]

theorem equals_size_int (index : Nat) {number : Nat} (small : number < 2 ^ 63) :
    (Value.size index).equals (.int number) = some (index == number) := by
  rw [Value.equals, toSize_int small]
  · rfl
  · simp

theorem add_size_one {index : Nat} (small : index + 1 < 2 ^ 64) :
    (Value.size index).add (.int 1) = some (.size (index + 1)) := by
  show some (Value.size ((index + 1) % 2 ^ 64)) = _
  rw [Nat.mod_eq_of_lt small]

theorem subtract_size_one {index : Nat} (positive : index ≠ 0) (small : index < 2 ^ 64) :
    (Value.size index).subtract (.int 1) = some (.size (index - 1)) := by
  have unchanged : (index + 2 ^ 64 - 1) % 2 ^ 64 = index - 1 := by omega
  show some (Value.size ((index + 2 ^ 64 - 1) % 2 ^ 64)) = _
  rw [unchanged]

/-! ## Cells -/

section

variable {length : TapeLength} {store : Store} {state : State}

theorem Agrees.ptr_lt (agrees : Agrees length store state) : store.ptr < store.tape.size := by
  rw [agrees.ptr, agrees.tape]
  exact state.machine.pointer_lt

theorem Agrees.current (agrees : Agrees length store state) :
    store.tape[store.ptr]? = some state.machine.current := by
  have inside := state.machine.pointer_lt
  rw [agrees.ptr, agrees.tape, Machine.current, Tape.get]
  exact Array.getElem?_eq_getElem inside

theorem Agrees.last (agrees : Agrees length store state) :
    state.machine.tape.last = length.last := by
  have sizeEq := agrees.size
  rw [agrees.tape] at sizeEq
  rw [Tape.last, Tape.length, sizeEq, TapeLength.last]

/-- The variable of a block does not matter outside. -/
theorem Agrees.withTmp (agrees : Agrees length store state) (tmp : Local) :
    Agrees length { store with tmp } state :=
  ⟨agrees.tape, agrees.size, agrees.ptr, agrees.input, agrees.output, agrees.writes,
    agrees.flushes⟩

theorem Agrees.moved {machine moved : Machine} {streams : Streams}
    (agrees : Agrees length store ⟨machine, streams⟩) (tapeEq : moved.tape = machine.tape) :
    Agrees length { store with ptr := moved.pointer } ⟨moved, streams⟩ where
  tape := by
    rw [agrees.tape, tapeEq]
  size := agrees.size
  ptr := rfl
  input := agrees.input
  output := agrees.output
  writes := agrees.writes
  flushes := agrees.flushes

/-- The store after a byte has been stored in the current cell. -/
def Store.setCell (store : Store) (byte : UInt8) : Store :=
  { store with tape := store.tape.setIfInBounds store.ptr byte }

theorem Agrees.setCell (agrees : Agrees length store state) (byte : UInt8) :
    Agrees length (store.setCell byte) ⟨state.machine.setCurrent byte, state.streams⟩ where
  tape := by
    have inside := state.machine.pointer_lt
    rw [Machine.tape_setCurrent, Tape.set, Store.setCell, agrees.tape, agrees.ptr]
    simp [Array.setIfInBounds, inside]
  size := by simpa [Store.setCell] using agrees.size
  ptr := agrees.ptr
  input := agrees.input
  output := agrees.output
  writes := agrees.writes
  flushes := agrees.flushes

theorem evaluate_cell (agrees : Agrees length store state) :
    evaluate cell store = some (.int state.machine.current.toNat, store) := by
  simp [cell, evaluate, Store.read, Value.toIndex, agrees.current]

theorem locate_cell (store : Store) : locate cell store = some (.element store.ptr, store) := by
  simp [cell, locate, evaluate, Store.read, Value.toIndex]

theorem read_cell (agrees : Agrees length store state) :
    store.read (.element store.ptr) = some (.int state.machine.current.toNat) := by
  simp [Store.read, agrees.current]

theorem write_cell (agrees : Agrees length store state) {value : Value} {byte : UInt8}
    (converted : value.toByte = some byte) :
    store.write value (.element store.ptr) = some (store.setCell byte) := by
  have inside := agrees.ptr_lt
  simp [Store.write, converted, inside, Store.setCell, Array.setIfInBounds]

/-! ## Plain instructions -/

theorem evaluate_increment (agrees : Agrees length store state) :
    evaluate (.postIncrement cell) store = some (.int state.machine.current.toNat,
      store.setCell (state.machine.current + 1)) :=
  evaluate_postIncrement (locate_cell store) (read_cell agrees) (add_one _)
    (write_cell agrees (toByte_int_add_one _))

theorem evaluate_decrement (agrees : Agrees length store state) :
    evaluate (.postDecrement cell) store = some (.int state.machine.current.toNat,
      store.setCell (state.machine.current - 1)) :=
  evaluate_postDecrement (locate_cell store) (read_cell agrees) (subtract_one _)
    (write_cell agrees (toByte_int_sub_one _))

theorem evaluate_numeral (store : Store) {number : Nat} (small : number < 2 ^ 63) :
    evaluate (.numeral number) store = some (.int number, store) := by
  rw [evaluate, if_pos small]

/-- The index moves to a target, whichever branch of the wrap it takes. -/
theorem evaluate_move {bound target : Nat} {wrapped moved : Expression} (small : bound < 2 ^ 63)
    (atBound : store.ptr = bound → ∃ value, evaluate wrapped store = some (value, store) ∧
      value.unify (wrapped.isSize || moved.isSize) = some (.size target))
    (elsewhere : store.ptr ≠ bound → ∃ value, evaluate moved store = some (value, store) ∧
      value.unify (wrapped.isSize || moved.isSize) = some (.size target)) :
    evaluate (.assign .ptr (.conditional (.equals .ptr (.numeral bound)) wrapped moved)) store =
      some (.size target, { store with ptr := target }) := by
  have ptr : evaluate .ptr store = some (.size store.ptr, store) := rfl
  have tested := evaluate_equals ptr (evaluate_numeral store small)
    (equals_size_int store.ptr small)
  have chosen : evaluate (.conditional (.equals .ptr (.numeral bound)) wrapped moved) store =
      some (.size target, store) := by
    by_cases isBound : store.ptr = bound
    · obtain ⟨value, evaluated, unified⟩ := atBound isBound
      rw [beq_iff_eq.mpr isBound] at tested
      exact evaluate_conditional_true tested evaluated unified
    · obtain ⟨value, evaluated, unified⟩ := elsewhere isBound
      rw [beq_eq_false_iff_ne.mpr isBound] at tested
      exact evaluate_conditional_false tested evaluated unified
  exact evaluate_assign chosen rfl rfl rfl

theorem evaluate_moveRight (agrees : Agrees length store state)
    (allocatable : length.count < 2 ^ 63) :
    evaluate (.assign .ptr (.conditional (.equals .ptr (.numeral length.last)) (.numeral 0)
        (.add .ptr (.numeral 1)))) store =
      some (.size state.machine.moveRight.pointer,
        { store with ptr := state.machine.moveRight.pointer }) := by
  have inside := agrees.ptr_lt
  rw [agrees.size] at inside
  have pointerEq : state.machine.moveRight.pointer =
      if store.ptr = length.last then 0 else store.ptr + 1 := by
    rw [← agrees.last, agrees.ptr]
    rfl
  rw [pointerEq]
  apply evaluate_move
  · exact Nat.lt_of_le_of_lt (Nat.sub_le _ _) allocatable
  · intro atLast
    rw [if_pos atLast]
    exact ⟨.int 0, rfl, rfl⟩
  · intro inFront
    rw [if_neg inFront]
    have sum : evaluate (.add .ptr (.numeral 1)) store = some (.size (store.ptr + 1), store) :=
      evaluate_add rfl (evaluate_numeral store (by decide)) (add_size_one (by omega))
    exact ⟨.size (store.ptr + 1), sum, rfl⟩

theorem evaluate_moveLeft (agrees : Agrees length store state)
    (allocatable : length.count < 2 ^ 63) :
    evaluate (.assign .ptr (.conditional (.equals .ptr (.numeral 0)) (.numeral length.last)
        (.subtract .ptr (.numeral 1)))) store =
      some (.size state.machine.moveLeft.pointer,
        { store with ptr := state.machine.moveLeft.pointer }) := by
  have inside := agrees.ptr_lt
  rw [agrees.size] at inside
  have lastSmall : length.last < 2 ^ 63 := Nat.lt_of_le_of_lt (Nat.sub_le _ _) allocatable
  have pointerEq : state.machine.moveLeft.pointer =
      if store.ptr = 0 then length.last else store.ptr - 1 := by
    rw [← agrees.last, agrees.ptr]
    rfl
  rw [pointerEq]
  apply evaluate_move
  · decide
  · intro atFirst
    rw [if_pos atFirst]
    exact ⟨.int length.last, evaluate_numeral store lastSmall,
      congrArg (Option.map Value.size) (toSize_int lastSmall)⟩
  · intro behind
    rw [if_neg behind]
    have difference : evaluate (.subtract .ptr (.numeral 1)) store =
        some (.size (store.ptr - 1), store) :=
      evaluate_subtract rfl (evaluate_numeral store (by decide))
        (subtract_size_one behind (by omega))
    exact ⟨.size (store.ptr - 1), difference, rfl⟩

theorem evaluate_output (agrees : Agrees length store state) :
    evaluate (.toVoid (.fputc cell)) store =
      some (.nothing, { store with output := store.output.push state.machine.current }) := by
  have small := state.machine.current.toNat_lt
  have written := evaluate_fputc (evaluate_cell agrees) (toInt_of_small (by omega) (by omega))
    (toByte_int_toNat state.machine.current)
  exact evaluate_toVoid written

theorem evaluate_fgetc {result : Int} {after : Store} (got : store.getChar = (.int result, after))
    (declared : after.tmp = .unset) (atLeast : -2 ≤ result) (atMost : result ≤ 256) :
    evaluate (.assign .tmp .fgetc) store =
      some (.int result, { after with tmp := .holds result }) := by
  have called : evaluate .fgetc store = some (.int result, after) := congrArg some got
  have written : after.write (.int result) .tmp = some { after with tmp := .holds result } := by
    simp [Store.write, declared, toInt_of_small atLeast atMost]
  exact evaluate_assign called rfl written rfl

/-- At the end of the input, the next byte is that of the cell. -/
theorem evaluate_nextByte_nil (agrees : Agrees length store state) (unset : store.tmp = .unset)
    (noInput : store.input = []) :
    evaluate nextByte store =
      some (.int state.machine.current.toNat, { store with tmp := .holds (-1) }) := by
  have got : store.getChar = (.int (-1), store) := by simp [Store.getChar, noInput]
  have tested := evaluate_differs (evaluate_fgetc got unset (by decide) (by decide))
    (by rfl : evaluate .eof _ = some (.int (-1), _))
    (by rfl : Value.equals (.int (-1)) (.int (-1)) = some true)
  exact evaluate_conditional_false tested (evaluate_cell (agrees.withTmp (.holds (-1)))) rfl

theorem evaluate_nextByte_cons (unset : store.tmp = .unset) {byte : UInt8} {rest : List UInt8}
    (someInput : store.input = byte :: rest) :
    evaluate nextByte store =
      some (.int byte.toNat, { store with input := rest, tmp := .holds byte.toNat }) := by
  have small := byte.toNat_lt
  have got : store.getChar = (.int byte.toNat, { store with input := rest }) := by
    simp [Store.getChar, someInput]
  have isNoEnd : Value.equals (.int byte.toNat) (.int (-1)) = some false := by
    have differs : (byte.toNat : Int) ≠ -1 := by omega
    simp [Value.equals, differs]
  have tested := evaluate_differs (evaluate_fgetc got unset (by omega) (by omega))
    (by rfl : evaluate .eof _ = some (.int (-1), _)) isNoEnd
  exact evaluate_conditional_true tested (evaluate_toByte rfl (toByte_int_toNat byte)) rfl

/-- Whatever `nextByte` finds is stored in the cell, and the block leaves `tmp`
behind. -/
theorem execute_input {next : Store} {byte : UInt8}
    (found : evaluate nextByte { store with tmp := .unset } = some (.int byte.toNat, next))
    (agrees : Agrees length next state) (limit last : Nat) (rest : Statements) :
    execute limit (instructionStatements last .input rest) store =
      execute limit rest { next.setCell byte with tmp := store.tmp } := by
  have assigned := evaluate_assign found (locate_cell next)
    (write_cell agrees (toByte_int_toNat byte)) (read_cell (agrees.setCell byte))
  simp [instructionStatements, execute, assigned, Effect.andThen]

theorem agrees_output {machine : Machine} {streams : Streams}
    (agrees : Agrees length store ⟨machine, streams⟩) :
    ∃ next, perform .output ⟨machine, streams⟩ = .ok .byteWritten next ∧
      Agrees length { store with output := store.output.push machine.current } next := by
  obtain ⟨input, writes, flushes, output, events⟩ := streams
  obtain rfl : writes = [] := agrees.writes
  refine ⟨_, rfl, agrees.tape, agrees.size, agrees.ptr, agrees.input, ?_, rfl, agrees.flushes⟩
  exact congrArg (fun output => output.push machine.current) agrees.output

theorem setCurrent_current (machine : Machine) : machine.setCurrent machine.current = machine := by
  apply Machine.ext
  · simp [Tape.set, Machine.current, Tape.get]
  · rfl

theorem agrees_input {machine : Machine} {streams : Streams}
    (agrees : Agrees length store ⟨machine, streams⟩) :
    ∃ transfer next after, perform .input ⟨machine, streams⟩ = .ok transfer next ∧
      Agrees length after next ∧
      ∀ limit rest, execute limit (instructionStatements length.last .input rest) store =
        execute limit rest after := by
  obtain ⟨input, writes, flushes, output, events⟩ := streams
  obtain rfl : writes = [] := agrees.writes
  obtain rfl : flushes = [] := agrees.flushes
  obtain rfl : input = store.input.map .byte := agrees.input
  cases inputEq : store.input with
  | nil =>
      have found := evaluate_nextByte_nil (agrees.withTmp .unset) rfl inputEq
      have kept := (agrees.setCell machine.current).withTmp store.tmp
      rw [setCurrent_current] at kept
      refine ⟨.endOfInput, ⟨machine, ⟨[], [], [], output, _⟩⟩, _, rfl, ?_,
        fun limit rest => execute_input found (agrees.withTmp _) limit length.last rest⟩
      have noInput : [] = (store.setCell machine.current).input.map InputItem.byte := by
        simp [Store.setCell, inputEq]
      exact ⟨kept.tape, kept.size, kept.ptr, noInput, agrees.output, rfl, rfl⟩
  | cons byte rest =>
      have found : evaluate nextByte { store with tmp := .unset } =
          some (.int byte.toNat, { store with input := rest, tmp := .holds byte.toNat }) :=
        evaluate_nextByte_cons rfl inputEq
      have consumed : Agrees length { store with input := rest, tmp := .holds byte.toNat }
          ⟨machine, ⟨rest.map .byte, [], [], output, events⟩⟩ :=
        ⟨agrees.tape, agrees.size, agrees.ptr, rfl, agrees.output, rfl, rfl⟩
      have stored := (consumed.setCell byte).withTmp store.tmp
      refine ⟨.byteRead, ⟨machine.setCurrent byte, ⟨rest.map .byte, [], [], output, _⟩⟩, _, rfl, ?_,
        fun limit after => execute_input found consumed limit length.last after⟩
      exact ⟨stored.tape, stored.size, stored.ptr, stored.input, stored.output, rfl, rfl⟩

/-- A plain instruction succeeds and does what its statement does. -/
theorem agrees_plain (allocatable : length.count < 2 ^ 63)
    (agrees : Agrees length store state) {instruction : Instruction}
    (isPlain : instruction.isBracket = false) :
    ∃ transfer next after, perform instruction state = .ok transfer next ∧
      Agrees length after next ∧
      ∀ limit rest, execute limit (instructionStatements length.last instruction rest) store =
        execute limit rest after := by
  obtain ⟨machine, streams⟩ := state
  cases instruction with
  | increment =>
      refine ⟨_, _, _, rfl, agrees.setCell (machine.current + 1), fun limit rest => ?_⟩
      simp [instructionStatements, execute, evaluate_increment agrees]
  | decrement =>
      refine ⟨_, _, _, rfl, agrees.setCell (machine.current - 1), fun limit rest => ?_⟩
      simp [instructionStatements, execute, evaluate_decrement agrees]
  | moveRight =>
      refine ⟨_, _, _, rfl, agrees.moved (Machine.tape_moveRight machine), fun limit rest => ?_⟩
      simp [instructionStatements, execute, evaluate_moveRight agrees allocatable]
  | moveLeft =>
      refine ⟨_, _, _, rfl, agrees.moved (Machine.tape_moveLeft machine), fun limit rest => ?_⟩
      simp [instructionStatements, execute, evaluate_moveLeft agrees allocatable]
  | output =>
      obtain ⟨next, performed, agreesNext⟩ := agrees_output agrees
      refine ⟨_, next, _, performed, agreesNext, fun limit rest => ?_⟩
      simp [instructionStatements, execute, evaluate_output agrees]
  | input => exact agrees_input agrees
  | loopStart => cases isPlain
  | loopEnd => cases isPlain

/-! ## Blocks -/

theorem execute_instructionStatements (limit last : Nat) {instruction : Instruction}
    (isPlain : instruction.isBracket = false) (rest : Statements) (store : Store) :
    execute limit (instructionStatements last instruction rest) store =
      Effect.andThen (execute limit (instructionStatements last instruction .done) store)
        (execute limit rest) := by
  have ofExpression (value : Expression) : execute limit (.expression value rest) store =
      Effect.andThen (execute limit (.expression value .done) store) (execute limit rest) := by
    rw [execute, execute]
    cases evaluate value store <;> rfl
  have ofDeclaring (body : Statements) : execute limit (.declaring body rest) store =
      Effect.andThen (execute limit (.declaring body .done) store) (execute limit rest) := by
    rw [execute, execute, andThen_assoc]
    rfl
  cases instruction with
  | input => exact ofDeclaring _
  | loopStart => cases isPlain
  | loopEnd => cases isPlain
  | _ => exact ofExpression _

theorem execute_blockStatements (limit last : Nat) (block : Block) (after : Statements)
    (store : Store) :
    execute limit (blockStatements last block after) store =
      Effect.andThen (execute limit (blockStatements last block .done) store)
        (execute limit after) := by
  induction block generalizing store with
  | done => rfl
  | plain instruction isPlain rest ih =>
      rw [blockStatements, blockStatements, execute_instructionStatements limit last isPlain,
        execute_instructionStatements limit last isPlain (blockStatements last rest .done),
        andThen_assoc]
      exact congrArg _ (funext ih)
  | loop body rest _ restIH =>
      rw [blockStatements, blockStatements, execute, execute, andThen_assoc]
      exact congrArg _ (funext restIH)

theorem repeatWhile_cell (agrees : Agrees length store state) (body : Store → Option Effect)
    (passes : Nat) :
    repeatWhile cell body (passes + 1) store =
      if state.machine.isNonzero then Effect.andThen (body store) (repeatWhile cell body passes)
      else some (.finished store) := by
  have truth : (Value.int state.machine.current.toNat).isTrue = some state.machine.isNonzero :=
    isTrue_int_toNat state.machine.current
  rw [repeatWhile, evaluate_cell agrees]
  simp only [truth]
  cases state.machine.isNonzero <;> rfl

/-- A block that ends succeeds, and its statements finish correspondingly. -/
theorem exists_execute_of_ends (allocatable : length.count < 2 ^ 63) {block : Block}
    {statistics : Statistics} {outcome : Outcome} (ends : Ends block statistics state outcome)
    (agrees : Agrees length store state) :
    ∃ counted final after limit, outcome = .ok counted final ∧ Agrees length after final ∧
      execute limit (blockStatements length.last block .done) store = some (.finished after) := by
  induction ends generalizing store with
  | done => exact ⟨_, _, store, 0, rfl, agrees, rfl⟩
  | @plain instruction isPlain rest statistics state next transfer outcome performed _ ih =>
      obtain ⟨_, _, behind, performedAgain, agreesBehind, executed⟩ :=
        agrees_plain allocatable agrees isPlain
      rw [performed] at performedAgain
      cases performedAgain
      obtain ⟨counted, final, after, limit, rfl, agreesAfter, finished⟩ := ih agreesBehind
      refine ⟨counted, final, after, limit, rfl, agreesAfter, ?_⟩
      rw [blockStatements, executed]
      exact finished
  | @plainFails instruction isPlain rest statistics state next kind failed =>
      obtain ⟨_, _, _, performed, _⟩ := agrees_plain allocatable agrees isPlain
      rw [failed] at performed
      cases performed
  | @loopDone body rest statistics state outcome isZero _ ih =>
      obtain ⟨counted, final, after, limit, rfl, agreesAfter, finished⟩ := ih agrees
      refine ⟨counted, final, after, limit + 1, rfl, agreesAfter, ?_⟩
      rw [blockStatements, execute, repeatWhile_cell agrees, isZero]
      exact execute_mono (Nat.le_succ limit) finished
  | @loopPass body rest statistics counted state next outcome isNonzero _ _ bodyIH againIH =>
      obtain ⟨_, _, middle, bodyLimit, bodyEq, agreesMiddle, bodyFinished⟩ := bodyIH agrees
      cases bodyEq
      obtain ⟨counted, final, after, againLimit, rfl, agreesAfter, finished⟩ := againIH agreesMiddle
      refine ⟨counted, final, after, max bodyLimit againLimit + 1, rfl, agreesAfter, ?_⟩
      rw [blockStatements, execute, repeatWhile_cell agrees, isNonzero, if_pos rfl,
        execute_mono (by omega) bodyFinished]
      -- the other passes are those of the loop, which has been begun again
      exact andThen_eq_some finished
        (fun _ => repeatWhile_mono (fun _ _ => execute_mono (by omega)) (by omega))
        (fun _ => execute_mono (by omega))
  | @loopFails body rest statistics state next kind isNonzero _ bodyIH =>
      obtain ⟨_, _, _, _, bodyEq, _⟩ := bodyIH agrees
      cases bodyEq

/-- Passes that come to an end take a loop to a state where it is done. -/
theorem repeatWhile_cases {body : Block} {limit : Nat}
    (bodyCases : ∀ {store : Store} {state : State} (statistics : Statistics),
      Agrees length store state →
      execute limit (blockStatements length.last body .done) store = none ∨
        ∃ after counted final,
          execute limit (blockStatements length.last body .done) store = some (.finished after) ∧
          Agrees length after final ∧ Ends body statistics state (.ok counted final))
    (passes : Nat) (agrees : Agrees length store state) (statistics : Statistics) :
    repeatWhile cell (execute limit (blockStatements length.last body .done)) passes store = none ∨
      ∃ after counted final,
        repeatWhile cell (execute limit (blockStatements length.last body .done)) passes store =
          some (.finished after) ∧
        Agrees length after final ∧ final.machine.isNonzero = false ∧
        ∀ rest outcome, Ends (.loop body rest) counted final outcome →
          Ends (.loop body rest) statistics state outcome := by
  induction passes generalizing store state statistics with
  | zero => exact Or.inl rfl
  | succ passes ih =>
      rw [repeatWhile_cell agrees]
      cases tested : state.machine.isNonzero with
      | false =>
          exact Or.inr ⟨store, statistics, state, rfl, agrees, tested, fun _ _ ends => ends⟩
      | true =>
          rw [if_pos rfl]
          obtain stuck | ⟨middle, counted, next, finished, agreesMiddle, bodyEnds⟩ :=
            bodyCases (statistics.record .nothing) agrees
          · rw [stuck]
            exact Or.inl rfl
          · rw [finished]
            obtain stuck | ⟨after, count, final, done, agreesAfter, isZero, extend⟩ :=
              ih agreesMiddle counted
            · exact Or.inl stuck
            · exact Or.inr ⟨after, count, final, done, agreesAfter, isZero,
                fun rest outcome ends => .loopPass tested bodyEnds (extend rest outcome ends)⟩

/-- The statements of a block either exceed the limit or finish, and then the
block ends correspondingly.  None of their expressions is undefined. -/
theorem execute_cases (allocatable : length.count < 2 ^ 63) (limit : Nat) (block : Block)
    (agrees : Agrees length store state) (statistics : Statistics) :
    execute limit (blockStatements length.last block .done) store = none ∨
      ∃ after counted final,
        execute limit (blockStatements length.last block .done) store = some (.finished after) ∧
        Agrees length after final ∧ Ends block statistics state (.ok counted final) := by
  induction block generalizing store state statistics with
  | done => exact Or.inr ⟨store, statistics, state, rfl, agrees, .done⟩
  | plain instruction isPlain rest ih =>
      obtain ⟨transfer, next, behind, performed, agreesBehind, executed⟩ :=
        agrees_plain allocatable agrees isPlain
      rw [blockStatements, executed]
      obtain stuck | ⟨after, counted, final, finished, agreesAfter, ends⟩ :=
        ih agreesBehind (statistics.record transfer)
      · exact Or.inl stuck
      · exact Or.inr ⟨after, counted, final, finished, agreesAfter, .plain performed ends⟩
  | loop body rest bodyIH restIH =>
      rw [blockStatements, execute]
      obtain stuck | ⟨middle, counted, next, done, agreesMiddle, isZero, extend⟩ :=
        repeatWhile_cases (fun statistics agrees => bodyIH agrees statistics) limit agrees
          statistics
      · rw [stuck]
        exact Or.inl rfl
      · rw [done]
        obtain stuck | ⟨after, count, final, finished, agreesAfter, ends⟩ :=
          restIH agreesMiddle (counted.record .nothing)
        · exact Or.inl stuck
        · exact Or.inr ⟨after, count, final, finished, agreesAfter,
            extend rest _ (.loopDone isZero ends)⟩

end

/-! ## Texts -/

/-- Closing a run whose streams never fail changes nothing that a store knows. -/
theorem exists_close_of_agrees {length : TapeLength} {store : Store} {state : State}
    (agrees : Agrees length store state) (statistics : Statistics) :
    ∃ closed, close (.ok statistics state) = .ok statistics closed ∧
      Agrees length store closed := by
  obtain ⟨machine, ⟨input, writes, flushes, output, events⟩⟩ := state
  obtain rfl : flushes = [] := agrees.flushes
  exact ⟨_, rfl, agrees.tape, agrees.size, agrees.ptr, agrees.input, agrees.output, agrees.writes,
    rfl⟩

/-- The main function returns when its block has finished. -/
theorem execute_ofBlock (length : TapeLength) (block : Block) (limit : Nat) (bytes : List UInt8) :
    (TranslationUnit.ofBlock length block).execute limit bytes =
      Effect.andThen (CCode.execute limit (blockStatements length.last block .done)
        { tape := Array.replicate length.count 0, ptr := 0, input := bytes })
        (fun store => some (.returned store)) :=
  execute_blockStatements limit length.last block _ _

/-- The main function exceeds the limit or returns, never undefined on its way,
and then the block ends correspondingly. -/
theorem execute_ofBlock_cases {length : TapeLength} (allocatable : length.count < 2 ^ 63)
    (block : Block) (limit : Nat) (bytes : List UInt8) :
    (TranslationUnit.ofBlock length block).execute limit bytes = none ∨
      ∃ after counted final,
        (TranslationUnit.ofBlock length block).execute limit bytes = some (.returned after) ∧
        Agrees length after final ∧
        Ends block {} ⟨Machine.fresh length, Streams.ofBytes bytes⟩ (.ok counted final) := by
  rw [execute_ofBlock]
  obtain stuck | ⟨after, counted, final, finished, agrees, ends⟩ :=
    execute_cases allocatable limit block (agrees_fresh length bytes) {}
  · rw [stuck]
    exact Or.inl rfl
  · rw [finished]
    exact Or.inr ⟨after, counted, final, rfl, agrees, ends⟩

theorem exists_execute_ofBlock_of_ends {length : TapeLength} (allocatable : length.count < 2 ^ 63)
    {block : Block} {bytes : List UInt8} {outcome : Outcome}
    (ends : Ends block {} ⟨Machine.fresh length, Streams.ofBytes bytes⟩ outcome) :
    ∃ counted final after limit, outcome = .ok counted final ∧ Agrees length after final ∧
      (TranslationUnit.ofBlock length block).execute limit bytes = some (.returned after) := by
  obtain ⟨counted, final, after, limit, outcomeEq, agrees, finished⟩ :=
    exists_execute_of_ends allocatable ends (agrees_fresh length bytes)
  refine ⟨counted, final, after, limit, outcomeEq, agrees, ?_⟩
  rw [execute_ofBlock, finished]
  rfl

/-- Generated code reads as a text that does what the program does, for every
input, in the plain meaning of its statements: it evaluates no expression that is
undefined, it ends exactly if the run ends, and then both have the same output,
remaining input, tape and index.  This is no promise about implementations that
assume of loops without input and output that they end.  No array that can be
allocated has `2 ^ 63` bytes or more. -/
theorem generated_code_runs {dialect : Dialect} {length : TapeLength}
    {instructions : List Instruction} {text : String}
    (generated : generate dialect length instructions = .ok text)
    (allocatable : length.count < 2 ^ 63) (bytes : List UInt8) :
    ∃ unit program, TranslationUnit.ofText? dialect text = some unit ∧
      Program.ofList instructions = .ok program ∧
      (∀ limit, unit.execute limit bytes ≠ some .undefined) ∧
      ((∃ limit effect, unit.execute limit bytes = some effect) ↔
        ∃ limit outcome, run limit program ⟨Machine.fresh length, Streams.ofBytes bytes⟩ =
          some outcome) ∧
      ∀ limit effect runLimit outcome, unit.execute limit bytes = some effect →
        run runLimit program ⟨Machine.fresh length, Streams.ofBytes bytes⟩ = some outcome →
        ∃ store statistics state, effect = .returned store ∧ outcome = .ok statistics state ∧
          store.output = state.streams.output ∧
          store.input.map .byte = state.streams.input ∧
          store.tape = state.machine.tape.cells ∧
          store.ptr = state.machine.pointer := by
  obtain ⟨program, built⟩ := exists_ofList_of_generate generated
  have listEq : instructions = program.block.toList := by
    rw [Program.toList_block, Program.toList_of_ofList built]
  rw [listEq] at generated
  have read := ofText?_generate generated
  refine ⟨_, program, read, built, ?_, ⟨?_, ?_⟩, ?_⟩
  · intro limit undefined
    obtain stuck | ⟨after, counted, final, returned, -⟩ :=
      execute_ofBlock_cases allocatable program.block limit bytes
    · rw [stuck] at undefined
      cases undefined
    · rw [returned] at undefined
      cases undefined
  · rintro ⟨limit, effect, ended⟩
    obtain stuck | ⟨after, counted, final, -, -, ends⟩ :=
      execute_ofBlock_cases allocatable program.block limit bytes
    · rw [stuck] at ended
      cases ended
    · obtain ⟨runLimit, reached⟩ := exists_runFrom_eq_some_iff.mpr ends
      exact ⟨runLimit, close (.ok counted final), by rw [run, reached]; rfl⟩
  · rintro ⟨runLimit, outcome, ended⟩
    obtain ⟨reached, runEq, -⟩ := Option.map_eq_some_iff.mp ended
    have ends := exists_runFrom_eq_some_iff.mp ⟨runLimit, runEq⟩
    obtain ⟨counted, final, after, limit, -, -, returned⟩ :=
      exists_execute_ofBlock_of_ends allocatable ends
    exact ⟨limit, .returned after, returned⟩
  · intro limit effect runLimit outcome ended runEnded
    obtain ⟨reached, runEq, closedEq⟩ := Option.map_eq_some_iff.mp runEnded
    have ends := exists_runFrom_eq_some_iff.mp ⟨runLimit, runEq⟩
    obtain ⟨counted, final, after, otherLimit, rfl, agrees, returned⟩ :=
      exists_execute_ofBlock_of_ends allocatable ends
    obtain ⟨closed, closeEq, agreesClosed⟩ := exists_close_of_agrees agrees counted
    -- both limits are below a common one, under which there is only one effect
    have sameEffect := (execute_mono (Nat.le_max_left limit otherLimit) ended).symm.trans
      (execute_mono (Nat.le_max_right limit otherLimit) returned)
    cases sameEffect
    exact ⟨after, counted, closed, rfl, closedEq.symm.trans closeEq, agreesClosed.output.symm,
      agreesClosed.input.symm, agreesClosed.tape, agreesClosed.ptr⟩

theorem generated_code_runs_copying :
    ∃ text unit store,
      generate .c { count := 3 } [.input, .loopStart, .output, .input, .loopEnd] = .ok text ∧
      TranslationUnit.ofText? .c text = some unit ∧
      (∃ limit, unit.execute limit [104, 105, 0, 33] = some (.returned store)) ∧
      store.output = #[104, 105] ∧ store.input = [33] := by
  obtain ⟨unit, program, read, built, -, terminates, same⟩ :=
    generated_code_runs (rfl : generate .c { count := 3 }
      [.input, .loopStart, .output, .input, .loopEnd] = .ok _) (by decide) [104, 105, 0, 33]
  cases built
  obtain ⟨limit, effect, ended⟩ := terminates.mpr ⟨20, _, rfl⟩
  obtain ⟨store, statistics, state, rfl, outcomeEq, outputEq, inputEq, -⟩ :=
    same limit effect 20 _ ended rfl
  cases outcomeEq
  refine ⟨_, unit, store, rfl, read, ⟨limit, ended⟩, outputEq, ?_⟩
  have injective : Function.Injective InputItem.byte := fun _ _ same => InputItem.byte.inj same
  exact List.map_injective_iff.mpr injective inputEq

end CCode

end Brainfuck
