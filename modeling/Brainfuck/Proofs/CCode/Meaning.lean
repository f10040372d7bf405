import Brainfuck.Proofs.CCode.Syntax
import Mathlib.Algebra.Group.Int.Defs
import Mathlib.Algebra.Group.Nat.Defs

/-!
# The meaning of generated code

What statements do, one after the other, where `size_t` has 64 bits and `EOF`
is -1.  The standard input is a list of bytes, and neither stream ever fails.
An expression that the standards of C and C++ leave undefined has no meaning:
above all, an access outside the array, but also the use of a variable before it
is set.  The same holds for what they leave to the implementation.

Loops have their plain meaning: they go on for as long as their condition is
true, and for ever if it stays true.  This is where the standards say less.  An
implementation of C may assume that a loop ends that neither reads nor writes,
and in C++ such a loop that does not end is undefined.
-/

namespace Brainfuck

namespace CCode

/-! ## Values -/

inductive Value where
  /-- A value of a signed type. -/
  | int (value : Int)
  /-- A value of the type `size_t`. -/
  | size (value : Nat)
  /-- The value of an expression of type `void`. -/
  | nothing
  deriving DecidableEq

namespace Value

def ofBool (condition : Bool) : Value :=
  int (if condition then 1 else 0)

def toSize : Value → Option Nat
  | int value => some (value % 2 ^ 64).toNat
  | size value => some value
  | nothing => none

def toByte : Value → Option UInt8
  | int value => some (UInt8.ofNat (value % 2 ^ 8).toNat)
  | size value => some (UInt8.ofNat value)
  | nothing => none

def toIndex : Value → Option Nat
  | int value => if 0 ≤ value then some value.toNat else none
  | size value => some value
  | nothing => none

/-- Conversion of a branch to the common type of both. -/
def unify (value : Value) (isSize : Bool) : Option Value :=
  if isSize then value.toSize.map size else some value

def isTrue : Value → Option Bool
  | int value => some (value != 0)
  | size value => some (value != 0)
  | nothing => none

/-- The value as an `int`, which has 32 bits. -/
def toInt : Value → Option Int
  | int value => if -2 ^ 31 ≤ value ∧ value < 2 ^ 31 then some value else none
  | _ => none

def add : Value → Value → Option Value
  | int left, int right => (int (left + right)).toInt.map int
  | left, right => do return size (((← left.toSize) + (← right.toSize)) % 2 ^ 64)

def subtract : Value → Value → Option Value
  | int left, int right => (int (left - right)).toInt.map int
  | left, right => do return size (((← left.toSize) + 2 ^ 64 - (← right.toSize)) % 2 ^ 64)

def equals : Value → Value → Option Bool
  | int left, int right => some (left == right)
  | left, right => do return (← left.toSize) == (← right.toSize)

end Value

/-! ## Stores -/

inductive Local where
  | undeclared
  | unset
  | holds (value : Int)
  deriving DecidableEq

structure Store where
  tape : Array UInt8
  ptr : Nat
  tmp : Local := .undeclared
  input : List UInt8
  output : Array UInt8 := #[]
  deriving DecidableEq

/-- What can stand on the left of an assignment. -/
inductive Place where
  | ptr
  | tmp
  | element (index : Nat)

namespace Store

def read (store : Store) : Place → Option Value
  | .ptr => some (.size store.ptr)
  | .tmp =>
      match store.tmp with
      | .holds value => some (.int value)
      | _ => none
  | .element index => do return .int (← store.tape[index]?).toNat

/-- Convert a value to the type of a place and store it there. -/
def write (store : Store) (value : Value) : Place → Option Store
  | .ptr => do return { store with ptr := ← value.toSize }
  | .tmp =>
      match store.tmp with
      | .undeclared => none
      | _ => do return { store with tmp := .holds (← value.toInt) }
  | .element index => do
      let byte ← value.toByte
      if inside : index < store.tape.size then
        return { store with tape := store.tape.set index byte inside }
      else none

def getChar (store : Store) : Value × Store :=
  match store.input with
  | [] => (.int (-1), store)
  | byte :: rest => (.int byte.toNat, { store with input := rest })

def putChar (store : Store) (byte : UInt8) : Value × Store :=
  (.int byte.toNat, { store with output := store.output.push byte })

end Store

/-! ## Expressions -/

def Expression.isSize : Expression → Bool
  | .ptr => true
  | .postIncrement target => target.isSize
  | .postDecrement target => target.isSize
  | .add left right => left.isSize || right.isSize
  | .subtract left right => left.isSize || right.isSize
  | .conditional _ yes no => yes.isSize || no.isSize
  | .assign target _ => target.isSize
  | _ => false

mutual

def evaluate : Expression → Store → Option (Value × Store)
  | .numeral value, store => if value < 2 ^ 63 then some (.int value, store) else none
  | .ptr, store => do return (← store.read .ptr, store)
  | .tmp, store => do return (← store.read .tmp, store)
  | .eof, store => some (.int (-1), store)
  | .element place, store => do
      let (index, store) ← evaluate place store
      return (← store.read (.element (← index.toIndex)), store)
  | .postIncrement target, store => do
      let (place, store) ← locate target store
      let old ← store.read place
      return (old, ← store.write (← old.add (.int 1)) place)
  | .postDecrement target, store => do
      let (place, store) ← locate target store
      let old ← store.read place
      return (old, ← store.write (← old.subtract (.int 1)) place)
  | .add left right, store => do
      let (first, store) ← evaluate left store
      let (second, store) ← evaluate right store
      return (← first.add second, store)
  | .subtract left right, store => do
      let (first, store) ← evaluate left store
      let (second, store) ← evaluate right store
      return (← first.subtract second, store)
  | .equals left right, store => do
      let (first, store) ← evaluate left store
      let (second, store) ← evaluate right store
      return (.ofBool (← first.equals second), store)
  | .differs left right, store => do
      let (first, store) ← evaluate left store
      let (second, store) ← evaluate right store
      return (.ofBool !(← first.equals second), store)
  | .conditional test yes no, store => do
      let (condition, store) ← evaluate test store
      let (result, store) ←
        if ← condition.isTrue then evaluate yes store else evaluate no store
      return (← result.unify (yes.isSize || no.isSize), store)
  | .assign target value, store => do
      let (result, store) ← evaluate value store
      let (place, store) ← locate target store
      let store ← store.write result place
      return (← store.read place, store)
  | .toByte value, store => do
      let (result, store) ← evaluate value store
      return (.int (← result.toByte).toNat, store)
  | .toVoid value, store => do
      let (_, store) ← evaluate value store
      return (.nothing, store)
  | .fgetc, store => some store.getChar
  | .fputc value, store => do
      let (result, store) ← evaluate value store
      return store.putChar (← (Value.int (← result.toInt)).toByte)

def locate : Expression → Store → Option (Place × Store)
  | .ptr, store => some (.ptr, store)
  | .tmp, store => some (.tmp, store)
  | .element place, store => do
      let (index, store) ← evaluate place store
      return (.element (← index.toIndex), store)
  | _, _ => none

end

section Rules

variable {target left right test yes no inner : Expression} {store middle after final : Store}
  {place : Place} {old value first second result : Value}

attribute [local simp] evaluate locate

theorem evaluate_postIncrement (located : locate target store = some (place, after))
    (read : after.read place = some old) (added : old.add (.int 1) = some value)
    (written : after.write value place = some final) :
    evaluate (.postIncrement target) store = some (old, final) := by
  simp [located, read, added, written]

theorem evaluate_postDecrement (located : locate target store = some (place, after))
    (read : after.read place = some old) (subtracted : old.subtract (.int 1) = some value)
    (written : after.write value place = some final) :
    evaluate (.postDecrement target) store = some (old, final) := by
  simp [located, read, subtracted, written]

theorem evaluate_add (evaluatedLeft : evaluate left store = some (first, middle))
    (evaluatedRight : evaluate right middle = some (second, after))
    (added : first.add second = some result) :
    evaluate (.add left right) store = some (result, after) := by
  simp [evaluatedLeft, evaluatedRight, added]

theorem evaluate_subtract (evaluatedLeft : evaluate left store = some (first, middle))
    (evaluatedRight : evaluate right middle = some (second, after))
    (subtracted : first.subtract second = some result) :
    evaluate (.subtract left right) store = some (result, after) := by
  simp [evaluatedLeft, evaluatedRight, subtracted]

theorem evaluate_equals (evaluatedLeft : evaluate left store = some (first, middle))
    (evaluatedRight : evaluate right middle = some (second, after)) {holds : Bool}
    (compared : first.equals second = some holds) :
    evaluate (.equals left right) store = some (.ofBool holds, after) := by
  simp [evaluatedLeft, evaluatedRight, compared]

theorem evaluate_differs (evaluatedLeft : evaluate left store = some (first, middle))
    (evaluatedRight : evaluate right middle = some (second, after)) {holds : Bool}
    (compared : first.equals second = some holds) :
    evaluate (.differs left right) store = some (.ofBool !holds, after) := by
  simp [evaluatedLeft, evaluatedRight, compared]

theorem evaluate_conditional_true (tested : evaluate test store = some (.ofBool true, middle))
    (evaluated : evaluate yes middle = some (value, after))
    (unified : value.unify (yes.isSize || no.isSize) = some result) :
    evaluate (.conditional test yes no) store = some (result, after) := by
  simp [tested, Value.ofBool, Value.isTrue, evaluated, unified]

theorem evaluate_conditional_false (tested : evaluate test store = some (.ofBool false, middle))
    (evaluated : evaluate no middle = some (value, after))
    (unified : value.unify (yes.isSize || no.isSize) = some result) :
    evaluate (.conditional test yes no) store = some (result, after) := by
  simp [tested, Value.ofBool, Value.isTrue, evaluated, unified]

theorem evaluate_assign (evaluated : evaluate inner store = some (value, middle))
    (located : locate target middle = some (place, after))
    (written : after.write value place = some final) (read : final.read place = some result) :
    evaluate (.assign target inner) store = some (result, final) := by
  simp [evaluated, located, written, read]

theorem evaluate_toByte (evaluated : evaluate inner store = some (value, after)) {byte : UInt8}
    (converted : value.toByte = some byte) :
    evaluate (.toByte inner) store = some (.int byte.toNat, after) := by
  simp [evaluated, converted]

theorem evaluate_toVoid (evaluated : evaluate inner store = some (value, after)) :
    evaluate (.toVoid inner) store = some (.nothing, after) := by
  simp [evaluated]

theorem evaluate_fputc (evaluated : evaluate inner store = some (value, after)) {number : Int}
    (isInt : value.toInt = some number) {byte : UInt8}
    (converted : (Value.int number).toByte = some byte) :
    evaluate (.fputc inner) store = some (after.putChar byte) := by
  simp [evaluated, isInt, converted]

end Rules

/-! ## Statements -/

inductive Effect where
  | undefined
  | finished (store : Store)
  | returned (store : Store)
  deriving DecidableEq

/-- Go on with further statements if those before them have finished. -/
def Effect.andThen (effect : Option Effect) (next : Store → Option Effect) : Option Effect :=
  match effect with
  | some (.finished store) => next store
  | _ => effect

/-- Repeat a body while a test is true, with at most `limit` tests.  A loop that never
ends has no effect under any limit, but it is not undefined. -/
def repeatWhile (test : Expression) (body : Store → Option Effect) :
    (limit : Nat) → Store → Option Effect
  | 0, _ => none
  | limit + 1, store =>
      match evaluate test store with
      | none => some .undefined
      | some (value, store) =>
          match value.isTrue with
          | none => some .undefined
          | some false => some (.finished store)
          | some true => Effect.andThen (body store) (repeatWhile test body limit)

/-- Execute statements.  There is no effect if a loop is tested more than
`limit` times in a row. -/
def execute (limit : Nat) : Statements → Store → Option Effect
  | .done, store => some (.finished store)
  | .expression value rest, store =>
      match evaluate value store with
      | none => some .undefined
      | some (_, store) => execute limit rest store
  | .declaring body rest, store =>
      Effect.andThen (execute limit body { store with tmp := .unset }) fun inner =>
        execute limit rest { inner with tmp := store.tmp }
  | .loop test body rest, store =>
      Effect.andThen (repeatWhile test (execute limit body) limit store) (execute limit rest)
  | .returning value _, store =>
      match evaluate value store with
      | none => some .undefined
      | some (_, store) => some (.returned store)

def TranslationUnit.execute (limit : Nat) (unit : TranslationUnit) (bytes : List UInt8) :
    Option Effect :=
  CCode.execute limit unit.body { tape := Array.replicate unit.cells 0, ptr := 0, input := bytes }

theorem andThen_assoc (effect : Option Effect) (next last : Store → Option Effect) :
    Effect.andThen (Effect.andThen effect next) last =
      Effect.andThen effect (fun store => Effect.andThen (next store) last) := by
  cases effect with
  | none => rfl
  | some found => cases found <;> rfl

/-! ## Larger limits -/

theorem andThen_eq_some {effect larger : Option Effect} {next largerNext : Store → Option Effect}
    {result : Effect} (ended : Effect.andThen effect next = some result)
    (first : ∀ found, effect = some found → larger = some found)
    (second : ∀ store, next store = some result → largerNext store = some result) :
    Effect.andThen larger largerNext = some result := by
  cases effect with
  | none => cases ended
  | some found =>
      rw [first found rfl]
      cases found with
      | finished store => exact second store ended
      | _ => exact ended

theorem repeatWhile_mono {test : Expression} {body largerBody : Store → Option Effect}
    (bodies : ∀ store effect, body store = some effect → largerBody store = some effect)
    {limit larger : Nat} (le : limit ≤ larger) {store : Store} {effect : Effect}
    (ended : repeatWhile test body limit store = some effect) :
    repeatWhile test largerBody larger store = some effect := by
  induction limit generalizing larger store with
  | zero => cases ended
  | succ limit ih =>
      obtain ⟨larger, rfl⟩ : ∃ smaller, larger = smaller + 1 := ⟨larger - 1, by omega⟩
      rw [repeatWhile] at ended ⊢
      cases tested : evaluate test store with
      | none => simpa [tested] using ended
      | some found =>
          obtain ⟨value, store⟩ := found
          simp only [tested] at ended ⊢
          cases truth : value.isTrue with
          | none => simpa [truth] using ended
          | some isTrue =>
              simp only [truth] at ended ⊢
              cases isTrue with
              | false => exact ended
              | true =>
                  exact andThen_eq_some ended (bodies store)
                    fun _ again => ih (by omega) again

theorem execute_mono {limit larger : Nat} (le : limit ≤ larger) {statements : Statements}
    {store : Store} {effect : Effect} (ended : execute limit statements store = some effect) :
    execute larger statements store = some effect := by
  induction statements generalizing store effect with
  | done => exact ended
  | expression value rest ih =>
      rw [execute] at ended ⊢
      cases evaluated : evaluate value store with
      | none => simpa [evaluated] using ended
      | some found =>
          simp only [evaluated] at ended ⊢
          exact ih ended
  | declaring body rest bodyIH restIH =>
      exact andThen_eq_some ended (fun _ => bodyIH) (fun _ => restIH)
  | loop test body rest bodyIH restIH =>
      exact andThen_eq_some ended (fun _ => repeatWhile_mono (fun _ _ => bodyIH) le)
        (fun _ => restIH)
  | returning value rest _ => exact ended

end CCode

end Brainfuck
