import Brainfuck.Execution.Run
import Brainfuck.Proofs.JumpTable

/-!
# Runs of blocks

What a block does can be said without indices and jumps.  This file relates
that reading of a block to the run of a program in which the block stands: the
run comes to the end of the block exactly with the outcomes of the block.  The
key is that a loop end does what its loop start does, since both test the same
cell and go on at the same places.
-/

namespace Brainfuck

open Instruction

/-! ## Blocks inside programs -/

/-- A block stands in a program from an index on. -/
def Program.Holds (program : Program) (index : Nat) (block : Block) : Prop :=
  ∃ before after, program.toList = before ++ (block.toList ++ after) ∧ before.length = index

namespace Program.Holds

variable {program : Program} {index : Nat}

theorem block (program : Program) : program.Holds 0 program.block :=
  ⟨[], [], by simp, rfl⟩

theorem getElem?_plain {instruction : Instruction} {isPlain : instruction.isBracket = false}
    {rest : Block} (holds : program.Holds index (.plain instruction isPlain rest)) :
    program.toList[index]? = some instruction := by
  obtain ⟨before, after, split, rfl⟩ := holds
  simp [split, Block.toList]

theorem rest_plain {instruction : Instruction} {isPlain : instruction.isBracket = false}
    {rest : Block} (holds : program.Holds index (.plain instruction isPlain rest)) :
    program.Holds (index + 1) rest := by
  obtain ⟨before, after, split, rfl⟩ := holds
  exact ⟨before ++ [instruction], after, by simp [split, Block.toList], by simp⟩

section Loop

variable {body rest : Block} (holds : program.Holds index (.loop body rest))

include holds

theorem getElem?_loopStart : program.toList[index]? = some .loopStart := by
  obtain ⟨before, after, split, rfl⟩ := holds
  simp [split, Block.toList]

theorem getElem?_loopEnd : program.toList[index + 1 + body.size]? = some .loopEnd := by
  obtain ⟨before, after, split, rfl⟩ := holds
  have listEq : program.toList =
      (before ++ .loopStart :: body.toList) ++ .loopEnd :: (rest.toList ++ after) := by
    simp [split, Block.toList]
  have lengthEq : before.length + 1 + body.size = (before ++ .loopStart :: body.toList).length := by
    simp only [Block.size, List.length_append, List.length_cons]
    omega
  rw [listEq, lengthEq]
  simp

theorem body_loop : program.Holds (index + 1) body := by
  obtain ⟨before, after, split, rfl⟩ := holds
  exact ⟨before ++ [.loopStart], .loopEnd :: (rest.toList ++ after),
    by simp [split, Block.toList], by simp⟩

theorem rest_loop : program.Holds (index + 1 + body.size + 1) rest := by
  obtain ⟨before, after, split, rfl⟩ := holds
  refine ⟨before ++ .loopStart :: (body.toList ++ [.loopEnd]), after,
    by simp [split, Block.toList], ?_⟩
  simp only [Block.size, List.length_append, List.length_cons, List.length_nil]
  omega

theorem getElem?_jumps :
    program.jumps[index]? = some (index + 1 + body.size) ∧
      program.jumps[index + 1 + body.size]? = some index := by
  obtain ⟨before, after, split, rfl⟩ := holds
  have loopSplit : program.toList =
      before ++ .loopStart :: (body.toList ++ .loopEnd :: (rest.toList ++ after)) := by
    simp [split, Block.toList]
  exact getElem?_jumps_of_loop loopSplit

end Loop

end Program.Holds

namespace Execution

/-! ## Steps -/

section Steps

variable {program : Program} {index : Nat} {instruction : Instruction}

theorem step_jump (found : program.toList[index]? = some instruction) {state : State}
    (jumps : instruction.jumps state.machine.isNonzero = true) {target : Nat}
    (entry : program.jumps[index]? = some target) (statistics : Statistics) :
    step program ⟨index, statistics, state⟩ =
      .running ⟨target + 1, statistics.record .nothing, state⟩ := by
  have foundAt : program.instructions[index]? = some instruction := by
    simpa [Program.toList] using found
  obtain ⟨inside, rfl⟩ := Array.getElem?_eq_some_iff.mp foundAt
  obtain ⟨_, rfl⟩ := Array.getElem?_eq_some_iff.mp entry
  rw [step, dif_pos (show index < program.size from inside)]
  exact if_pos jumps

theorem step_perform (found : program.toList[index]? = some instruction) {state : State}
    (jumps : instruction.jumps state.machine.isNonzero = false) (statistics : Statistics) :
    step program ⟨index, statistics, state⟩ =
      match perform instruction state with
      | .ok transfer next => .running ⟨index + 1, statistics.record transfer, next⟩
      | .error kind next => .failed kind next := by
  have foundAt : program.instructions[index]? = some instruction := by
    simpa [Program.toList] using found
  obtain ⟨inside, rfl⟩ := Array.getElem?_eq_some_iff.mp foundAt
  rw [step, dif_pos (show index < program.size from inside)]
  exact if_neg (ne_true_of_eq_false jumps)

theorem step_end (program : Program) (statistics : Statistics) (state : State) :
    step program ⟨program.size, statistics, state⟩ = .finished statistics state := by
  simp [step]

theorem jumps_of_plain (isPlain : instruction.isBracket = false) (isNonzero : Bool) :
    instruction.jumps isNonzero = false := by
  cases instruction <;> first | rfl | contradiction

theorem step_loopStart {body rest : Block} (holds : program.Holds index (.loop body rest))
    (statistics : Statistics) (state : State) :
    step program ⟨index, statistics, state⟩ =
      .running ⟨if state.machine.isNonzero then index + 1 else index + 1 + body.size + 1,
        statistics.record .nothing, state⟩ := by
  cases tested : state.machine.isNonzero with
  | false =>
      exact step_jump holds.getElem?_loopStart (by simp [Instruction.jumps, tested])
        holds.getElem?_jumps.1 statistics
  | true =>
      exact step_perform holds.getElem?_loopStart (by simp [Instruction.jumps, tested]) statistics

/-- A loop end does the same as its loop start. -/
theorem step_loopEnd {body rest : Block} (holds : program.Holds index (.loop body rest))
    (statistics : Statistics) (state : State) :
    step program ⟨index + 1 + body.size, statistics, state⟩ =
      step program ⟨index, statistics, state⟩ := by
  rw [step_loopStart holds]
  cases tested : state.machine.isNonzero with
  | false =>
      exact step_perform holds.getElem?_loopEnd (by simp [Instruction.jumps, tested]) statistics
  | true =>
      exact step_jump holds.getElem?_loopEnd (by simp [Instruction.jumps, tested])
        holds.getElem?_jumps.2 statistics

theorem runFrom_loopEnd {body rest : Block} (holds : program.Holds index (.loop body rest))
    (limit : Nat) (statistics : Statistics) (state : State) :
    runFrom program limit ⟨index + 1 + body.size, statistics, state⟩ =
      runFrom program limit ⟨index, statistics, state⟩ := by
  cases limit with
  | zero => rfl
  | succ limit => simp only [runFrom, step_loopEnd holds]

end Steps

/-! ## Outcomes of blocks -/

/-- A block, begun with some counters in some state, ends with an outcome.
Each test of a loop counts as an instruction. -/
inductive Ends : Block → Statistics → State → Outcome → Prop
  | done {statistics : Statistics} {state : State} :
      Ends .done statistics state (.ok statistics state)
  | plain {instruction : Instruction} {isPlain : instruction.isBracket = false} {rest : Block}
      {statistics : Statistics} {state next : State} {transfer : Transfer} {outcome : Outcome}
      (performed : perform instruction state = .ok transfer next)
      (restEnds : Ends rest (statistics.record transfer) next outcome) :
      Ends (.plain instruction isPlain rest) statistics state outcome
  | plainFails {instruction : Instruction} {isPlain : instruction.isBracket = false}
      {rest : Block} {statistics : Statistics} {state next : State} {kind : FailureKind}
      (failed : perform instruction state = .error kind next) :
      Ends (.plain instruction isPlain rest) statistics state (.error kind next)
  | loopDone {body rest : Block} {statistics : Statistics} {state : State} {outcome : Outcome}
      (isZero : state.machine.isNonzero = false)
      (restEnds : Ends rest (statistics.record .nothing) state outcome) :
      Ends (.loop body rest) statistics state outcome
  | loopPass {body rest : Block} {statistics counted : Statistics} {state next : State}
      {outcome : Outcome} (isNonzero : state.machine.isNonzero = true)
      (bodyEnds : Ends body (statistics.record .nothing) state (.ok counted next))
      (again : Ends (.loop body rest) counted next outcome) :
      Ends (.loop body rest) statistics state outcome
  | loopFails {body rest : Block} {statistics : Statistics} {state next : State}
      {kind : FailureKind} (isNonzero : state.machine.isNonzero = true)
      (bodyFails : Ends body (statistics.record .nothing) state (.error kind next)) :
      Ends (.loop body rest) statistics state (.error kind next)

/-- Go on with a run at an index after an outcome. -/
def resume (program : Program) (limit index : Nat) : Outcome → Option Outcome
  | .ok statistics state => runFrom program limit ⟨index, statistics, state⟩
  | .error kind state => some (.error kind state)

/-- The outcome of a block takes a run to the end of the block. -/
theorem exists_runFrom_of_ends {program : Program} {block : Block} {statistics : Statistics}
    {state : State} {outcome : Outcome} (ends : Ends block statistics state outcome)
    {index : Nat} (holds : program.Holds index block) :
    ∃ steps, ∀ limit, runFrom program (limit + steps) ⟨index, statistics, state⟩ =
      resume program limit (index + block.size) outcome := by
  induction ends generalizing index with
  | done => exact ⟨0, fun limit => rfl⟩
  | @plain instruction isPlain rest statistics state next transfer outcome performed _ ih =>
      obtain ⟨steps, restRun⟩ := ih holds.rest_plain
      refine ⟨steps + 1, fun limit => ?_⟩
      have first := step_perform holds.getElem?_plain
        (jumps_of_plain isPlain state.machine.isNonzero) statistics
      rw [← Nat.add_assoc, runFrom, first, performed, Block.add_size_plain]
      exact restRun limit
  | @plainFails instruction isPlain rest statistics state next kind failed =>
      refine ⟨1, fun limit => ?_⟩
      have first := step_perform holds.getElem?_plain
        (jumps_of_plain isPlain state.machine.isNonzero) statistics
      rw [runFrom, first, failed]
      rfl
  | @loopDone body rest statistics state outcome isZero _ ih =>
      obtain ⟨steps, restRun⟩ := ih holds.rest_loop
      refine ⟨steps + 1, fun limit => ?_⟩
      rw [← Nat.add_assoc, runFrom, step_loopStart holds, isZero, Block.add_size_loop]
      exact restRun limit
  | @loopPass body rest statistics counted state next outcome isNonzero _ _ bodyIH againIH =>
      obtain ⟨bodySteps, bodyRun⟩ := bodyIH holds.body_loop
      obtain ⟨steps, againRun⟩ := againIH holds
      refine ⟨steps + bodySteps + 1, fun limit => ?_⟩
      rw [← Nat.add_assoc, ← Nat.add_assoc, runFrom, step_loopStart holds, isNonzero]
      calc runFrom program (limit + steps + bodySteps)
            ⟨index + 1, statistics.record .nothing, state⟩
          = runFrom program (limit + steps) ⟨index + 1 + body.size, counted, next⟩ :=
            bodyRun (limit + steps)
        _ = runFrom program (limit + steps) ⟨index, counted, next⟩ := runFrom_loopEnd holds _ _ _
        _ = resume program limit (index + (Block.loop body rest).size) outcome := againRun limit
  | @loopFails body rest statistics state next kind isNonzero _ bodyIH =>
      obtain ⟨bodySteps, bodyRun⟩ := bodyIH holds.body_loop
      refine ⟨bodySteps + 1, fun limit => ?_⟩
      rw [← Nat.add_assoc, runFrom, step_loopStart holds, isNonzero]
      exact bodyRun limit

/-- A run that ends has come to the end of the block, or failed inside, with
an outcome of the block. -/
theorem exists_ends_of_runFrom {program : Program} (limit : Nat) {block : Block} {index : Nat}
    (holds : program.Holds index block) {statistics : Statistics} {state : State}
    {final : Outcome} (ended : runFrom program limit ⟨index, statistics, state⟩ = some final) :
    ∃ outcome, Ends block statistics state outcome ∧
      ∃ rest ≤ limit, resume program rest (index + block.size) outcome = some final := by
  induction limit using Nat.strongRecOn generalizing block index statistics state with
  | ind limit ih =>
  cases block with
  | done => exact ⟨.ok statistics state, .done, limit, Nat.le_refl limit, ended⟩
  | plain instruction isPlain next =>
      cases limit with
      | zero => cases ended
      | succ limit =>
          have first := step_perform holds.getElem?_plain
            (jumps_of_plain isPlain state.machine.isNonzero) statistics
          rw [runFrom, first] at ended
          cases performed : perform instruction state with
          | ok transfer after =>
              rw [performed] at ended
              obtain ⟨outcome, restEnds, rest, restLe, resumed⟩ :=
                ih limit (by omega) holds.rest_plain ended
              refine ⟨outcome, .plain performed restEnds, rest, by omega, ?_⟩
              rwa [Block.add_size_plain]
          | error kind after =>
              rw [performed] at ended
              exact ⟨.error kind after, .plainFails performed, limit, by omega, ended⟩
  | loop body next =>
      cases limit with
      | zero => cases ended
      | succ limit =>
          rw [runFrom, step_loopStart holds] at ended
          cases tested : state.machine.isNonzero with
          | false =>
              rw [tested] at ended
              obtain ⟨outcome, restEnds, rest, restLe, resumed⟩ :=
                ih limit (by omega) holds.rest_loop ended
              refine ⟨outcome, .loopDone tested restEnds, rest, by omega, ?_⟩
              rwa [Block.add_size_loop]
          | true =>
              rw [tested] at ended
              obtain ⟨bodyOutcome, bodyEnds, rest, restLe, resumed⟩ :=
                ih limit (by omega) holds.body_loop ended
              cases bodyOutcome with
              | ok counted after =>
                  -- the run is at the loop end, which is as good as the loop start
                  rw [resume, runFrom_loopEnd holds] at resumed
                  obtain ⟨outcome, again, left, leftLe, resumedAgain⟩ :=
                    ih rest (by omega) holds resumed
                  exact ⟨outcome, .loopPass tested bodyEnds again, left, by omega, resumedAgain⟩
              | error kind after =>
                  exact ⟨.error kind after, .loopFails tested bodyEnds, rest, by omega, resumed⟩

/-- Through a block a run has the outcomes of the block, and goes on behind it. -/
theorem exists_runFrom_iff_resume {program : Program} {block : Block} {index : Nat}
    (holds : program.Holds index block) {statistics : Statistics} {state : State}
    {final : Outcome} :
    (∃ limit, runFrom program limit ⟨index, statistics, state⟩ = some final) ↔
      ∃ outcome, Ends block statistics state outcome ∧
        ∃ limit, resume program limit (index + block.size) outcome = some final := by
  constructor
  · rintro ⟨limit, ended⟩
    obtain ⟨outcome, ends, rest, -, resumed⟩ := exists_ends_of_runFrom limit holds ended
    exact ⟨outcome, ends, rest, resumed⟩
  · rintro ⟨outcome, ends, rest, resumed⟩
    obtain ⟨steps, through⟩ := exists_runFrom_of_ends ends holds
    exact ⟨rest + steps, by rw [through, resumed]⟩

theorem exists_resume_size_iff {program : Program} {outcome final : Outcome} :
    (∃ limit, resume program limit program.size outcome = some final) ↔ outcome = final := by
  cases outcome with
  | ok statistics state =>
      constructor
      · rintro ⟨limit, ended⟩
        cases limit with
        | zero => cases ended
        | succ limit =>
            rw [resume, runFrom, step_end] at ended
            exact Option.some.inj ended
      · rintro rfl
        exact ⟨1, by simp only [resume, runFrom, step_end]⟩
  | error kind state => simp [resume]

theorem exists_runFrom_iff_ends {program : Program} {block : Block} {index : Nat}
    (holds : program.Holds index block) (atEnd : index + block.size = program.size)
    {statistics : Statistics} {state : State} {outcome : Outcome} :
    (∃ limit, runFrom program limit ⟨index, statistics, state⟩ = some outcome) ↔
      Ends block statistics state outcome := by
  simp only [exists_runFrom_iff_resume holds, atEnd, exists_resume_size_iff,
    exists_eq_right]

/-- The outcomes of a run before it is closed are the outcomes of the block of
its program. -/
theorem exists_runFrom_eq_some_iff {program : Program} {statistics : Statistics} {state : State}
    {outcome : Outcome} :
    (∃ limit, runFrom program limit ⟨0, statistics, state⟩ = some outcome) ↔
      Ends program.block statistics state outcome :=
  exists_runFrom_iff_ends (Program.Holds.block program)
    (by simp [Block.size, Program.toList, Program.size])

end Execution

end Brainfuck
