import Brainfuck.Proofs.Path
import Mathlib.Algebra.GroupWithZero.Nat

/-!
# Costs of executions

A run counts every instruction that it dispatches.  The number can be told from the
structure of the execution alone: a plain instruction costs one each time it is performed,
and a loop costs one to enter or skip, and for each of its passes what the body costs and
one more.
-/

namespace Brainfuck

namespace Execution

/-! ## Structural costs -/

/-- The passes of a loop, with their costs in order.  `body` says what an execution of the
body costs and where it leads to. -/
inductive Passes (body : State → Nat → State → Prop) : State → List Nat → State → Prop
  | none {state : State} (isZero : state.machine.isNonzero = false) : Passes body state [] state
  | pass {state next final : State} {cost : Nat} {costs : List Nat}
      (isNonzero : state.machine.isNonzero = true) (once : body state cost next)
      (further : Passes body next costs final) : Passes body state (cost :: costs) final

/-- What a loop costs whose passes have given costs. -/
def loopCost (costs : List Nat) : Nat :=
  1 + (costs.map (· + 1)).sum

/-- An execution of a block that succeeds: it begins in one state, has a cost, and ends in
another state. -/
def Costs : Block → State → Nat → State → Prop
  | .done, start, cost, final => cost = 0 ∧ final = start
  | .plain instruction _ rest, start, cost, final =>
      ∃ transfer next restCost, perform instruction start = .ok transfer next ∧
        Costs rest next restCost final ∧ cost = 1 + restCost
  | .loop body rest, start, cost, final =>
      ∃ costs next restCost, Passes (Costs body) start costs next ∧
        Costs rest next restCost final ∧ cost = loopCost costs + restCost

theorem loopCost_nil : loopCost [] = 1 :=
  rfl

theorem loopCost_cons (cost : Nat) (costs : List Nat) :
    loopCost (cost :: costs) = cost + 1 + loopCost costs := by
  simp only [loopCost, List.map_cons, List.sum_cons]
  omega

/-- A loop that is skipped costs one, whatever its body. -/
theorem passes_of_zero {body : State → Nat → State → Prop} {start final : State}
    {costs : List Nat} (isZero : start.machine.isNonzero = false) :
    Passes body start costs final ↔ costs = [] ∧ final = start := by
  constructor
  · intro passes
    cases passes with
    | none => exact ⟨rfl, rfl⟩
    | pass isNonzero => simp [isZero] at isNonzero
  · rintro ⟨rfl, rfl⟩
    exact .none isZero

theorem costs_loop_of_zero {body rest : Block} {start final : State} {cost : Nat}
    (isZero : start.machine.isNonzero = false) :
    Costs (.loop body rest) start cost final ↔
      ∃ restCost, Costs rest start restCost final ∧ cost = 1 + restCost := by
  simp [Costs, passes_of_zero isZero, loopCost_nil]

theorem Costs.pass {body rest : Block} {start next final : State} {cost further : Nat}
    (isNonzero : start.machine.isNonzero = true) (once : Costs body start cost next)
    (again : Costs (.loop body rest) next further final) :
    Costs (.loop body rest) start (cost + 1 + further) final := by
  obtain ⟨costs, behind, restCost, passes, restCosts, rfl⟩ := again
  refine ⟨cost :: costs, behind, restCost, .pass isNonzero once passes, restCosts, ?_⟩
  rw [loopCost_cons]
  omega

/-! ## Costs and counters -/

theorem instructions_record (statistics : Statistics) (transfer : Transfer) :
    (statistics.record transfer).instructions = statistics.instructions + 1 := by
  cases transfer <;> rfl

theorem exists_costs_of_ends {block : Block} {statistics counted : Statistics}
    {start final : State} (ends : Ends block statistics start (.ok counted final)) :
    ∃ cost, Costs block start cost final ∧
      counted.instructions = statistics.instructions + cost := by
  generalize outcomeEq : (.ok counted final : Outcome) = outcome at ends
  induction ends generalizing counted final with
  | done =>
      cases outcomeEq
      exact ⟨0, ⟨rfl, rfl⟩, rfl⟩
  | @plain instruction isPlain rest statistics state next transfer outcome performed _ ih =>
      obtain ⟨cost, costs, countedEq⟩ := ih outcomeEq
      refine ⟨1 + cost, ⟨transfer, next, cost, performed, costs, rfl⟩, ?_⟩
      rw [countedEq, instructions_record, Nat.add_assoc]
  | plainFails failed => cases outcomeEq
  | @loopDone body rest statistics state outcome isZero _ ih =>
      obtain ⟨cost, costs, countedEq⟩ := ih outcomeEq
      refine ⟨1 + cost, (costs_loop_of_zero isZero).mpr ⟨cost, costs, rfl⟩, ?_⟩
      rw [countedEq, instructions_record, Nat.add_assoc]
  | @loopPass body rest statistics counted state next outcome isNonzero _ _ bodyIH againIH =>
      obtain ⟨bodyCost, bodyCosts, bodyEq⟩ := bodyIH rfl
      obtain ⟨cost, costs, countedEq⟩ := againIH outcomeEq
      refine ⟨bodyCost + 1 + cost, Costs.pass isNonzero bodyCosts costs, ?_⟩
      rw [countedEq, bodyEq, instructions_record]
      omega
  | loopFails isNonzero _ _ => cases outcomeEq

def CountsCosts (block : Block) : Prop :=
  ∀ (start : State) (cost : Nat) (final : State), Costs block start cost final →
    ∀ statistics, ∃ counted, Ends block statistics start (.ok counted final) ∧
      counted.instructions = statistics.instructions + cost

/-- The induction is on the passes. -/
theorem CountsCosts.loop {body rest : Block} (bodyCounts : CountsCosts body)
    (restCounts : CountsCosts rest) : CountsCosts (.loop body rest) := by
  rintro start cost final ⟨costs, next, restCost, passes, restCosts, rfl⟩ statistics
  induction passes generalizing statistics with
  | none isZero =>
      obtain ⟨counted, ends, countedEq⟩ := restCounts _ _ _ restCosts (statistics.record .nothing)
      refine ⟨counted, .loopDone isZero ends, ?_⟩
      rw [countedEq, instructions_record, loopCost_nil, Nat.add_assoc]
  | pass isNonzero once _ ih =>
      obtain ⟨passed, bodyEnds, passedEq⟩ := bodyCounts _ _ _ once (statistics.record .nothing)
      obtain ⟨counted, again, countedEq⟩ := ih restCosts passed
      refine ⟨counted, .loopPass isNonzero bodyEnds again, ?_⟩
      rw [countedEq, passedEq, instructions_record, loopCost_cons]
      omega

theorem countsCosts (block : Block) : CountsCosts block := by
  induction block with
  | done =>
      rintro start cost final ⟨rfl, rfl⟩ statistics
      exact ⟨statistics, .done, rfl⟩
  | plain instruction isPlain rest ih =>
      rintro start cost final ⟨transfer, next, restCost, performed, restCosts, rfl⟩ statistics
      obtain ⟨counted, ends, countedEq⟩ := ih _ _ _ restCosts (statistics.record transfer)
      refine ⟨counted, .plain performed ends, ?_⟩
      rw [countedEq, instructions_record, Nat.add_assoc]
  | loop body rest bodyIH restIH => exact bodyIH.loop restIH

/-! ## Runs -/

/-- What a run that succeeds has counted, before it is closed, is the cost of the execution
of its block. -/
theorem exists_runFrom_iff_costs {program : Program} {start final : State} {cost : Nat} :
    (∃ limit counted, runFrom program limit { state := start } = some (.ok counted final) ∧
        counted.instructions = cost) ↔
      Costs program.block start cost final := by
  constructor
  · rintro ⟨limit, counted, ended, rfl⟩
    obtain ⟨cost, costs, countedEq⟩ :=
      exists_costs_of_ends (exists_runFrom_eq_some_iff.mp ⟨limit, ended⟩)
    rw [Nat.zero_add] at countedEq
    rwa [countedEq]
  · intro costs
    obtain ⟨counted, ends, countedEq⟩ := countsCosts program.block _ _ _ costs {}
    obtain ⟨limit, ended⟩ := exists_runFrom_eq_some_iff.mpr ends
    exact ⟨limit, counted, ended, by rw [countedEq, Nat.zero_add]⟩

/-- There is one execution of a block only. -/
theorem eq_of_costs {program : Program} {start final otherFinal : State} {cost otherCost : Nat}
    (costs : Costs program.block start cost final)
    (otherCosts : Costs program.block start otherCost otherFinal) :
    otherCost = cost ∧ otherFinal = final := by
  obtain ⟨limit, counted, ended, rfl⟩ := exists_runFrom_iff_costs.mpr costs
  obtain ⟨otherLimit, otherCounted, otherEnded, rfl⟩ := exists_runFrom_iff_costs.mpr otherCosts
  cases eq_of_runFrom ended otherEnded
  exact ⟨rfl, rfl⟩

/-- A run that succeeds has counted as many instructions as its execution costs, and a loop
that is skipped costs one. -/
theorem run_instructions_eq_cost {instructions : List Instruction} {program : Program}
    (built : Program.ofList instructions = .ok program) :
    ∃ block, Block.ofList? instructions = some block ∧
      (∀ start final cost,
        (∃ limit counted, run limit program start = some (.ok counted final) ∧
          counted.instructions = cost) ↔
        ∃ opened, Costs block start cost opened ∧ flush opened = .ok () final) ∧
      (∀ start cost final otherCost otherFinal, Costs block start cost final →
        Costs block start otherCost otherFinal → otherCost = cost ∧ otherFinal = final) ∧
      ∀ (body rest : Block) (start : State) cost final, start.machine.isNonzero = false →
        (Costs (.loop body rest) start cost final ↔
          ∃ restCost, Costs rest start restCost final ∧ cost = 1 + restCost) := by
  refine ⟨program.block, ?_, ?_, ?_, ?_⟩
  · exact Block.ofList?_eq_some_iff.mpr (Program.toList_block_of_ofList built)
  · intro start final cost
    constructor
    · rintro ⟨limit, counted, ended, rfl⟩
      obtain ⟨outcome, runEnded, closed⟩ := run_eq_some_iff.mp ended
      obtain ⟨opened, rfl, flushed⟩ := close_eq_ok_iff.mp closed
      exact ⟨opened, exists_runFrom_iff_costs.mp ⟨limit, counted, runEnded, rfl⟩, flushed⟩
    · rintro ⟨opened, costs, flushed⟩
      obtain ⟨limit, counted, ended, countedEq⟩ := exists_runFrom_iff_costs.mpr costs
      have closed : close (.ok counted opened) = .ok counted final :=
        close_eq_ok_iff.mpr ⟨opened, rfl, flushed⟩
      exact ⟨limit, counted, run_eq_some_iff.mpr ⟨_, ended, closed⟩, countedEq⟩
  · intro start cost final otherCost otherFinal costs otherCosts
    exact eq_of_costs costs otherCosts
  · intro body rest start cost final isZero
    exact costs_loop_of_zero isZero

/-- Two passes of a loop around another loop, which takes one pass in each of them: after two
increments they cost eight each, and the loop costs one more. -/
theorem run_instructions_eq_cost_nested :
    ∃ program block, Program.ofList [.increment, .increment, .loopStart, .moveRight, .increment,
        .loopStart, .decrement, .loopEnd, .moveLeft, .decrement, .loopEnd] = .ok program ∧
      Block.ofList? [.increment, .increment, .loopStart, .moveRight, .increment,
        .loopStart, .decrement, .loopEnd, .moveLeft, .decrement, .loopEnd] = some block ∧
      ∃ final, run 20 program ⟨Machine.fresh ⟨2, by decide⟩, {}⟩ =
          some (.ok { instructions := 19 } final) ∧
        ∃ opened, Costs block ⟨Machine.fresh ⟨2, by decide⟩, {}⟩ (2 + (1 + (8 + 8))) opened ∧
          flush opened = .ok () final := by
  let program : Program :=
    ⟨#[.increment, .increment, .loopStart, .moveRight, .increment, .loopStart, .decrement,
      .loopEnd, .moveLeft, .decrement, .loopEnd], #[0, 0, 10, 0, 0, 7, 0, 5, 0, 0, 2], rfl⟩
  have built : Program.ofList [.increment, .increment, .loopStart, .moveRight, .increment,
      .loopStart, .decrement, .loopEnd, .moveLeft, .decrement, .loopEnd] = .ok program := rfl
  obtain ⟨block, found, counts, -⟩ := run_instructions_eq_cost built
  have ended : ∃ final, run 20 program ⟨Machine.fresh ⟨2, by decide⟩, {}⟩ =
      some (.ok { instructions := 19 } final) := ⟨_, rfl⟩
  obtain ⟨final, ended⟩ := ended
  exact ⟨program, block, built, found, final, ended, (counts _ final 19).mp ⟨20, _, ended, rfl⟩⟩

end Execution

end Brainfuck
