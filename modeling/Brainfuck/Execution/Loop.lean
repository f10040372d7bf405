import Brainfuck.Execution.Basic

/-!
# Structured loops

A loop that a host writes around its own operations: it tests the current cell
before each pass, and a failing pass ends it at once.
-/

namespace Brainfuck

namespace Execution

/-- Repeat `body` for as long as `isNonzero` holds, testing before each pass,
and count the passes on from `passes`.  After `limit` passes the loop fails
with `exhausted`. -/
def loopFrom {ε σ : Type} (isNonzero : σ → Bool) (body : EStateM ε σ Unit) (exhausted : ε)
    (passes : Nat) : (limit : Nat) → EStateM ε σ Nat
  | 0, state => if isNonzero state then .error exhausted state else .ok passes state
  | limit + 1, state =>
      if isNonzero state then
        match body state with
        | .ok () state => loopFrom isNonzero body exhausted (passes + 1) limit state
        | .error error state => .error error state
      else .ok passes state

end Execution

end Brainfuck
