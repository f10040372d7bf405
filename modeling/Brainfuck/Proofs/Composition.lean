import Brainfuck.Execution.Loop
import Brainfuck.Proofs.BlockRun

/-!
# Hosts that write out a block

A host without an interpreter can compose the primitive operations itself: one
operation after another, and a structured loop for every pair of brackets.
Compositions written along the block of a program reach the same endings as
runs of the program, before the flush that closes a run.
-/

namespace Brainfuck

namespace Execution

/-- How a run or a composition ends, without counters: with success or with a
kind of failure, and the machine with its streams. -/
abbrev Ending := EStateM.Result FailureKind State Unit

def ending : Outcome → Ending
  | .ok _ state => .ok () state
  | .error kind state => .error kind state

/-- A run of a program, before it is closed, reaches an ending. -/
def Reaches (program : Program) (start : State) (reached : Ending) : Prop :=
  ∃ limit outcome, runFrom program limit { state := start } = some outcome ∧
    ending outcome = reached

theorem reaches_iff_ends {program : Program} {start : State} {reached : Ending} :
    Reaches program start reached ↔
      ∃ outcome, Ends program.block {} start outcome ∧ ending outcome = reached := by
  constructor
  · rintro ⟨limit, outcome, ended, rfl⟩
    exact ⟨outcome, exists_runFrom_eq_some_iff.mp ⟨limit, ended⟩, rfl⟩
  · rintro ⟨outcome, ends, rfl⟩
    obtain ⟨limit, ended⟩ := exists_runFrom_eq_some_iff.mpr ends
    exact ⟨limit, outcome, ended, rfl⟩

/-! ## Compositions -/

inductive Stop where
  | stream (kind : FailureKind)
  /-- A loop had no pass left. -/
  | outOfPasses
  deriving DecidableEq

def liftResult {α : Type} : EStateM.Result FailureKind State α → EStateM.Result Stop State α
  | .ok value state => .ok value state
  | .error kind state => .error (.stream kind) state

def hosted {α : Type} (action : EStateM FailureKind State α) : EStateM Stop State α :=
  fun state => liftResult (action state)

/-- The operation of a plain instruction.  Before it reads a byte, a `,` flushes
the output. -/
def primitive : Instruction → EStateM FailureKind State Unit
  | .moveLeft => modify (State.onMachine Machine.moveLeft)
  | .moveRight => modify (State.onMachine Machine.moveRight)
  | .increment => modify (State.onMachine Machine.increment)
  | .decrement => modify (State.onMachine Machine.decrement)
  | .output => writeCell
  | .input => do
      flush
      let _ ← readCell
  | .loopStart => return ()
  | .loopEnd => return ()

/-- The composition that follows a block.  Each of its loops may take `limit`
passes. -/
def compose (limit : Nat) : Block → EStateM Stop State Unit
  | .done => return ()
  | .plain instruction _ rest => do
      hosted (primitive instruction)
      compose limit rest
  | .loop body rest => do
      let _ ← loopFrom (fun state => state.machine.isNonzero) (compose limit body)
        .outOfPasses 0 limit
      compose limit rest

/-- A composition reaches an ending if its loops may take enough passes. -/
def Composes (block : Block) (start : State) (reached : Ending) : Prop :=
  ∃ limit, compose limit block start = liftResult reached

theorem hosted_primitive (instruction : Instruction) (state : State) :
    hosted (primitive instruction) state =
      match perform instruction state with
      | .ok _ next => .ok () next
      | .error kind next => .error (.stream kind) next := by
  cases instruction with
  | output =>
      simp only [hosted, primitive, perform, bind, EStateM.bind]
      cases writeCell state <;> rfl
  | input =>
      simp only [hosted, primitive, perform, bind, EStateM.bind]
      cases flush state with
      | ok _ flushed =>
          simp only
          cases readCell flushed with
          | ok found next => cases found <;> rfl
          | error kind next => rfl
      | error kind next => rfl
  | _ => rfl

theorem liftResult_injective {α : Type} : Function.Injective (@liftResult α) := by
  intro first second equal
  cases first <;> cases second <;> simp_all [liftResult]

/-! ## Loops -/

section Loops

variable {isNonzero : State → Bool} {body : EStateM Stop State Unit} {stop : Stop}
  {rest : EStateM Stop State Unit} {state next : State}

theorem loopFrom_bind_of_zero (isZero : isNonzero state = false) (passes limit : Nat) :
    (do let _ ← loopFrom isNonzero body stop passes limit; rest) state = rest state := by
  cases limit <;> simp [bind, EStateM.bind, loopFrom, isZero]

theorem loopFrom_bind_of_pass (nonzero : isNonzero state = true)
    (passed : body state = .ok () next) (passes limit : Nat) :
    (do let _ ← loopFrom isNonzero body stop passes (limit + 1); rest) state =
      (do let _ ← loopFrom isNonzero body stop (passes + 1) limit; rest) next := by
  simp [bind, EStateM.bind, loopFrom, nonzero, passed]

theorem loopFrom_bind_of_fail (nonzero : isNonzero state = true) {error : Stop}
    (failed : body state = .error error next) (passes limit : Nat) :
    (do let _ ← loopFrom isNonzero body stop passes (limit + 1); rest) state =
      .error error next := by
  simp [bind, EStateM.bind, loopFrom, nonzero, failed]

end Loops

/-- The composition of a block whose first loop has a number of passes of its
own and has taken some before. -/
def composeFrom (limit passes left : Nat) : Block → EStateM Stop State Unit
  | .loop body rest => do
      let _ ← loopFrom (fun state => state.machine.isNonzero) (compose limit body)
        .outOfPasses passes left
      compose limit rest
  | block => compose limit block

theorem composeFrom_self (limit : Nat) (block : Block) :
    composeFrom limit 0 limit block = compose limit block := by
  cases block <;> rfl

/-- A composition with enough passes ends as its block does. -/
theorem exists_composeFrom_of_ends {block : Block} {statistics : Statistics} {state : State}
    {outcome : Outcome} (ends : Ends block statistics state outcome) :
    ∃ bound, ∀ limit, bound ≤ limit → ∀ passes left, bound ≤ left →
      composeFrom limit passes left block state = liftResult (ending outcome) := by
  induction ends with
  | done => exact ⟨0, fun limit _ passes left _ => rfl⟩
  | @plain instruction isPlain rest _ state next transfer outcome performed _ ih =>
      obtain ⟨bound, composed⟩ := ih
      refine ⟨bound, fun limit enough passes left _ => ?_⟩
      have first := hosted_primitive instruction state
      rw [performed] at first
      simp only [composeFrom, compose, bind, EStateM.bind, first]
      rw [← composeFrom_self]
      exact composed limit enough 0 limit enough
  | @plainFails instruction isPlain rest _ state next kind failed =>
      refine ⟨0, fun limit _ passes left _ => ?_⟩
      have first := hosted_primitive instruction state
      rw [failed] at first
      simp only [composeFrom, compose, bind, EStateM.bind, first]
      rfl
  | @loopDone body rest _ state outcome isZero _ ih =>
      obtain ⟨bound, composed⟩ := ih
      refine ⟨bound, fun limit enough passes left _ => ?_⟩
      rw [composeFrom, loopFrom_bind_of_zero isZero, ← composeFrom_self]
      exact composed limit enough 0 limit enough
  | @loopPass body rest _ _ state next outcome isNonzero _ _ bodyIH againIH =>
      obtain ⟨bodyBound, bodyComposed⟩ := bodyIH
      obtain ⟨bound, composed⟩ := againIH
      refine ⟨bodyBound + bound + 1, fun limit enough passes left leftEnough => ?_⟩
      obtain ⟨left, rfl⟩ : ∃ fewer, left = fewer + 1 := ⟨left - 1, by omega⟩
      have passed := bodyComposed limit (by omega) 0 limit (by omega)
      rw [composeFrom_self] at passed
      rw [composeFrom, loopFrom_bind_of_pass isNonzero passed]
      exact composed limit (by omega) (passes + 1) left (by omega)
  | @loopFails body rest _ state next kind isNonzero _ bodyIH =>
      obtain ⟨bodyBound, bodyComposed⟩ := bodyIH
      refine ⟨bodyBound + 1, fun limit enough passes left leftEnough => ?_⟩
      obtain ⟨left, rfl⟩ : ∃ fewer, left = fewer + 1 := ⟨left - 1, by omega⟩
      have failed := bodyComposed limit (by omega) 0 limit (by omega)
      rw [composeFrom_self] at failed
      rw [composeFrom, loopFrom_bind_of_fail isNonzero failed]
      rfl

/-- Wherever the composition of a block is not out of passes, the block ends in
the same way. -/
def EndsAsComposed (limit : Nat) (block : Block) : Prop :=
  ∀ (state : State) (reached : Ending), compose limit block state = liftResult reached →
    ∀ statistics, ∃ outcome, Ends block statistics state outcome ∧ ending outcome = reached

/-- On a zero cell a loop has no further pass, and its rest goes on. -/
theorem exists_ends_of_composeFrom_of_zero {limit : Nat} {body rest : Block}
    (restEnds : EndsAsComposed limit rest) (passes left : Nat) {state : State} {reached : Ending}
    (isZero : state.machine.isNonzero = false)
    (composed : composeFrom limit passes left (.loop body rest) state = liftResult reached)
    (statistics : Statistics) :
    ∃ outcome, Ends (.loop body rest) statistics state outcome ∧ ending outcome = reached := by
  rw [composeFrom, loopFrom_bind_of_zero isZero] at composed
  obtain ⟨outcome, ends, ended⟩ := restEnds state reached composed (statistics.record .nothing)
  exact ⟨outcome, .loopDone isZero ends, ended⟩

/-- The induction is on the passes that are left. -/
theorem exists_ends_of_composeFrom {limit : Nat} {body rest : Block}
    (bodyEnds : EndsAsComposed limit body) (restEnds : EndsAsComposed limit rest)
    (passes left : Nat) {state : State} {reached : Ending}
    (composed : composeFrom limit passes left (.loop body rest) state = liftResult reached)
    (statistics : Statistics) :
    ∃ outcome, Ends (.loop body rest) statistics state outcome ∧ ending outcome = reached := by
  induction left generalizing passes state statistics with
  | zero =>
      cases tested : state.machine.isNonzero with
      | false =>
          exact exists_ends_of_composeFrom_of_zero restEnds passes _ tested composed statistics
      | true =>
          -- a pass is due and none is left, which no ending of a run shows
          simp only [composeFrom, bind, EStateM.bind, loopFrom, tested, if_true] at composed
          cases reached <;> simp [liftResult] at composed
  | succ left ih =>
      cases tested : state.machine.isNonzero with
      | false =>
          exact exists_ends_of_composeFrom_of_zero restEnds passes _ tested composed statistics
      | true =>
          cases passed : compose limit body state with
          | ok _ next =>
              rw [composeFrom, loopFrom_bind_of_pass tested passed] at composed
              obtain ⟨bodyOutcome, ends, ended⟩ :=
                bodyEnds state (.ok () next) passed (statistics.record .nothing)
              cases bodyOutcome with
              | ok counted after =>
                  cases ended
                  obtain ⟨outcome, again, againEnded⟩ := ih (passes + 1) composed counted
                  exact ⟨outcome, .loopPass tested ends again, againEnded⟩
              | error kind after => cases ended
          | error stop next =>
              rw [composeFrom, loopFrom_bind_of_fail tested passed] at composed
              obtain ⟨bodyOutcome, ends, ended⟩ :=
                bodyEnds state reached (passed.trans composed) (statistics.record .nothing)
              cases bodyOutcome with
              | ok counted after =>
                  rw [← ended] at composed
                  cases composed
              | error kind after => exact ⟨.error kind after, .loopFails tested ends, ended⟩

theorem endsAsComposed (limit : Nat) (block : Block) : EndsAsComposed limit block := by
  induction block with
  | done =>
      intro state reached composed statistics
      have reachedEq : (.ok () state : Ending) = reached := liftResult_injective composed
      exact ⟨.ok statistics state, .done, reachedEq⟩
  | plain instruction isPlain rest ih =>
      intro state reached composed statistics
      have first := hosted_primitive instruction state
      simp only [compose, bind, EStateM.bind, first] at composed
      cases performed : perform instruction state with
      | ok transfer next =>
          rw [performed] at composed
          obtain ⟨outcome, restEnds, ended⟩ :=
            ih next reached composed (statistics.record transfer)
          exact ⟨outcome, .plain performed restEnds, ended⟩
      | error kind next =>
          rw [performed] at composed
          have reachedEq : (.error kind next : Ending) = reached := liftResult_injective composed
          exact ⟨.error kind next, .plainFails performed, reachedEq⟩
  | loop body rest bodyIH restIH =>
      intro state reached composed statistics
      rw [← composeFrom_self] at composed
      exact exists_ends_of_composeFrom bodyIH restIH 0 limit composed statistics

theorem composes_iff_ends {block : Block} {start : State} {reached : Ending}
    (statistics : Statistics) :
    Composes block start reached ↔
      ∃ outcome, Ends block statistics start outcome ∧ ending outcome = reached := by
  constructor
  · rintro ⟨limit, composed⟩
    exact endsAsComposed limit block start reached composed statistics
  · rintro ⟨outcome, ends, rfl⟩
    obtain ⟨bound, composed⟩ := exists_composeFrom_of_ends ends
    refine ⟨bound, ?_⟩
    rw [← composeFrom_self]
    exact composed bound (Nat.le_refl bound) 0 bound (Nat.le_refl bound)

/-! ## Divergence -/

theorem forall_runFrom_eq_none_iff {program : Program} {start : State} :
    (∀ limit, runFrom program limit { state := start } = none) ↔
      ∀ reached, ¬ Reaches program start reached := by
  constructor
  · rintro never reached ⟨limit, outcome, ended, -⟩
    rw [never limit] at ended
    cases ended
  · intro never limit
    cases ended : runFrom program limit { state := start } with
    | none => rfl
    | some outcome => exact (never (ending outcome) ⟨limit, outcome, ended, rfl⟩).elim

/-- A composition that reaches no ending is out of passes under every limit. -/
theorem forall_compose_outOfPasses_iff {block : Block} {start : State} :
    (∀ limit, ∃ final, compose limit block start = .error .outOfPasses final) ↔
      ∀ reached, ¬ Composes block start reached := by
  constructor
  · rintro never reached ⟨limit, composed⟩
    obtain ⟨final, stopped⟩ := never limit
    rw [stopped] at composed
    cases reached <;> cases composed
  · intro never limit
    cases composed : compose limit block start with
    | ok _ final => exact (never (.ok () final) ⟨limit, composed⟩).elim
    | error stop final =>
        cases stop with
        | stream kind => exact (never (.error kind final) ⟨limit, composed⟩).elim
        | outOfPasses => exact ⟨final, rfl⟩

/-- Running the instructions of a program by their jump table and composing the
primitive operations along its block come to the same endings, and neither
comes to one where the other does not. -/
theorem reaches_iff_composes {instructions : List Instruction} {program : Program}
    (built : Program.ofList instructions = .ok program) :
    ∃ block, Block.ofList? instructions = some block ∧ block.toList = instructions ∧
      ∀ start, (∀ reached, Reaches program start reached ↔ Composes block start reached) ∧
        ((∀ limit, runFrom program limit { state := start } = none) ↔
          ∀ limit, ∃ final, compose limit block start = .error .outOfPasses final) := by
  have listEq : program.block.toList = instructions := by
    rw [Program.toList_block, Program.toList_of_ofList built]
  have same : ∀ start reached,
      Reaches program start reached ↔ Composes program.block start reached := by
    intro start reached
    rw [reaches_iff_ends, composes_iff_ends]
  refine ⟨program.block, Block.ofList?_eq_some_iff.mpr listEq, listEq, fun start => ?_⟩
  refine ⟨same start, ?_⟩
  rw [forall_runFrom_eq_none_iff, forall_compose_outOfPasses_iff]
  exact forall_congr' fun reached => not_congr (same start reached)

theorem reaches_iff_composes_copying :
    ∃ program, Program.ofList [.input, .loopStart, .output, .input, .loopEnd] = .ok program ∧
      program.jumps = #[0, 4, 0, 0, 1] ∧
      ∃ block,
        Block.ofList? [.input, .loopStart, .output, .input, .loopEnd] = some block ∧
        block.toList = [.input, .loopStart, .output, .input, .loopEnd] ∧
        ∀ start, (∀ reached, Reaches program start reached ↔ Composes block start reached) ∧
          ((∀ limit, runFrom program limit { state := start } = none) ↔
            ∀ limit, ∃ final, compose limit block start = .error .outOfPasses final) := by
  let program : Program :=
    ⟨#[.input, .loopStart, .output, .input, .loopEnd], #[0, 4, 0, 0, 1], rfl⟩
  have built : Program.ofList [.input, .loopStart, .output, .input, .loopEnd] = .ok program := rfl
  exact ⟨program, built, rfl, reaches_iff_composes built⟩

end Execution

end Brainfuck
