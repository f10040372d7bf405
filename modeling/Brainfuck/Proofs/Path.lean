import Brainfuck.Proofs.BlockRun
import Brainfuck.Proofs.Pairing

/-!
# Paths of runs

A run passes from moment to moment until there is no instruction left or one
fails.  This file says once what a single step can be, and relates the runs of
a program to the paths that they take.
-/

namespace Brainfuck

open Instruction

theorem Instruction.isBracket_of_jumps {instruction : Instruction} {isNonzero : Bool}
    (jumps : instruction.jumps isNonzero = true) : instruction.isBracket = true := by
  cases instruction <;> first | rfl | cases jumps

namespace Program

variable {program : Program} {index partner : Nat}

theorem getElem?_instructions {instruction : Instruction}
    (found : program.toList[index]? = some instruction) :
    program.instructions[index]? = some instruction := by
  simpa [toList] using found

theorem lt_size_of_getElem? {instruction : Instruction}
    (found : program.toList[index]? = some instruction) : index < program.size := by
  simpa [size, toList] using (List.getElem?_eq_some_iff.mp found).1

theorem lt_size_of_bracketAt (bracket : BracketAt program.toList index) : index < program.size := by
  obtain ⟨instruction, found, -⟩ := bracket
  exact lt_size_of_getElem? found

theorem bracketAt_partner (paired : program.partner? index = some partner) :
    BracketAt program.toList partner :=
  program.nestedPairing.bracketAt (program.nestedPairing.symmetric paired)

theorem exists_getElem?_toList (inside : index < program.size) :
    ∃ instruction, program.toList[index]? = some instruction := by
  have insideList : index < program.toList.length := by simpa [toList, size] using inside
  exact ⟨program.toList[index], List.getElem?_eq_getElem insideList⟩

end Program

namespace Execution

/-! ## Steps -/

/-- What the step at a moment can be. -/
inductive StepView (program : Program) : Moment → Step → Prop
  | ends {index : Nat} {statistics : Statistics} {state : State}
      (atEnd : program.size ≤ index) :
      StepView program ⟨index, statistics, state⟩ (.finished statistics state)
  | jumps {index partner : Nat} {statistics : Statistics} {state : State}
      {instruction : Instruction} (found : program.toList[index]? = some instruction)
      (jumps : instruction.jumps state.machine.isNonzero = true)
      (paired : program.partner? index = some partner) :
      StepView program ⟨index, statistics, state⟩
        (.running ⟨partner + 1, statistics.record .nothing, state⟩)
  | performs {index : Nat} {statistics : Statistics} {state next : State}
      {instruction : Instruction} {transfer : Transfer}
      (found : program.toList[index]? = some instruction)
      (stays : instruction.jumps state.machine.isNonzero = false)
      (performed : perform instruction state = .ok transfer next) :
      StepView program ⟨index, statistics, state⟩
        (.running ⟨index + 1, statistics.record transfer, next⟩)
  | fails {index : Nat} {statistics : Statistics} {state next : State}
      {instruction : Instruction} {kind : FailureKind}
      (found : program.toList[index]? = some instruction)
      (stays : instruction.jumps state.machine.isNonzero = false)
      (failed : perform instruction state = .error kind next) :
      StepView program ⟨index, statistics, state⟩ (.failed kind next)

theorem stepView (program : Program) (moment : Moment) :
    StepView program moment (step program moment) := by
  obtain ⟨index, statistics, state⟩ := moment
  by_cases inside : index < program.size
  · obtain ⟨instruction, found⟩ := program.exists_getElem?_toList inside
    cases jumps : instruction.jumps state.machine.isNonzero with
    | true =>
        obtain ⟨partner, paired⟩ := program.nestedPairing.exists_partner
          ⟨instruction, found, isBracket_of_jumps jumps⟩
        rw [step_jump found jumps (Program.partner?_eq_some_iff.mp paired).2]
        exact .jumps found jumps paired
    | false =>
        rw [step_perform found jumps]
        cases performed : perform instruction state with
        | ok transfer next => exact .performs found jumps performed
        | error kind next => exact .fails found jumps performed
  · rw [step, dif_neg inside]
    exact .ends (Nat.not_lt.mp inside)

/-- A step stays inside the program or comes to its end. -/
theorem index_le_size_of_running {program : Program} {moment next : Moment}
    (running : step program moment = .running next) : next.index ≤ program.size := by
  have view := stepView program moment
  rw [running] at view
  cases view with
  | jumps found jumps paired =>
      exact Program.lt_size_of_bracketAt (Program.bracketAt_partner paired)
  | performs found stays performed =>
      exact Program.lt_size_of_getElem? found

def due? (program : Program) (moment : Moment) : Option Instruction :=
  program.toList[moment.index]?

/-- A step performs its instruction; a jump concerns the index only. -/
theorem exists_performed_of_running {program : Program} {moment next : Moment}
    (running : step program moment = .running next) :
    ∃ instruction transfer, due? program moment = some instruction ∧
      perform instruction moment.state = .ok transfer next.state ∧
      next.statistics = moment.statistics.record transfer := by
  have view := stepView program moment
  rw [running] at view
  cases view with
  | @jumps index partner statistics state instruction found jumps paired =>
      refine ⟨instruction, .nothing, found, ?_, rfl⟩
      cases instruction <;> first | rfl | cases jumps
  | @performs index statistics state next instruction transfer found stays performed =>
      exact ⟨instruction, transfer, found, performed, rfl⟩

/-- What a run leads to, if this step ends it. -/
def Step.outcome? : Step → Option Outcome
  | .finished statistics state => some (.ok statistics state)
  | .running _ => none
  | .failed kind state => some (.error kind state)

/-! ## Paths -/

/-- A run passes through moments, in order, before it comes to another one. -/
inductive Path (program : Program) : Moment → List Moment → Moment → Prop
  | here (moment : Moment) : Path program moment [] moment
  | step {moment next final : Moment} {passed : List Moment}
      (running : step program moment = .running next)
      (further : Path program next passed final) : Path program moment (moment :: passed) final

namespace Path

variable {program : Program} {start final : Moment} {passed : List Moment}

/-- What every step preserves holds at the end of a path. -/
theorem invariant {property : Moment → Prop} (path : Path program start passed final)
    (preserved : ∀ moment next, property moment → Execution.step program moment = .running next →
      property next)
    (holds : property start) : property final := by
  induction path with
  | here moment => exact holds
  | step running further ih => exact ih (preserved _ _ holds running)

theorem index_le_size (path : Path program start passed final)
    (inside : start.index ≤ program.size) : final.index ≤ program.size :=
  path.invariant (fun _ _ _ running => index_le_size_of_running running) inside

theorem append {middle : Moment} {behind : List Moment} (path : Path program start passed middle)
    (further : Path program middle behind final) :
    Path program start (passed ++ behind) final := by
  induction path with
  | here moment => exact further
  | step running _ ih => exact .step running (ih further)

/-- From a moment there is only one way to go: every path is a part of the path
to the end. -/
theorem exists_further (path : Path program start passed final)
    (ended : ∀ next, Execution.step program final ≠ .running next) {otherPassed : List Moment}
    {otherFinal : Moment} (other : Path program start otherPassed otherFinal) :
    ∃ rest, passed = otherPassed ++ rest ∧ Path program otherFinal rest final := by
  induction other generalizing passed with
  | here moment => exact ⟨passed, rfl, path⟩
  | step running further ih =>
      cases path with
      | here => exact absurd running (ended _)
      | step pathRunning pathFurther =>
          obtain rfl := Step.running.inj (pathRunning.symm.trans running)
          obtain ⟨rest, rfl, pathRest⟩ := ih pathFurther
          exact ⟨rest, rfl, pathRest⟩

end Path

/-- A moment of a run that stays inside its program: the jump table is looked up
only at a bracket, the jump goes to a bracket, and only behind the last
instruction there is nothing left to do. -/
structure Inside (program : Program) (moment : Moment) : Prop where
  index_le : moment.index ≤ program.size
  jump : ∀ instruction, program.toList[moment.index]? = some instruction →
    instruction.jumps moment.state.machine.isNonzero = true →
      BracketAt program.toList moment.index ∧ moment.index < program.jumps.size ∧
        ∃ target, program.jumps[moment.index]? = some target ∧
          BracketAt program.toList target ∧ target < program.size ∧
          step program moment =
            .running ⟨target + 1, moment.statistics.record .nothing, moment.state⟩
  finish : ∀ statistics final, step program moment = .finished statistics final →
    moment.index = program.size

theorem inside_of_index_le {program : Program} {moment : Moment}
    (inside : moment.index ≤ program.size) : Inside program moment where
  index_le := inside
  jump := by
    obtain ⟨index, statistics, state⟩ := moment
    intro instruction found jumps
    have bracket : BracketAt program.toList index := ⟨instruction, found, isBracket_of_jumps jumps⟩
    have below := Program.lt_size_of_bracketAt bracket
    obtain ⟨target, paired⟩ := program.nestedPairing.exists_partner bracket
    have entry := (Program.partner?_eq_some_iff.mp paired).2
    have lands := Program.bracketAt_partner paired
    exact ⟨bracket, by simpa using below, target, entry, lands, Program.lt_size_of_bracketAt lands,
      step_jump found jumps entry statistics⟩
  finish := by
    intro statistics final finished
    have view := stepView program moment
    rw [finished] at view
    cases view with
    | ends atEnd => exact Nat.le_antisymm inside atEnd

theorem Path.inside {program : Program} {start final : Moment} {passed : List Moment}
    (path : Path program start passed final) (inside : start.index ≤ program.size) :
    Inside program final :=
  inside_of_index_le (path.index_le_size inside)

/-- A run ends where its path comes to a step that ends it. -/
theorem runFrom_eq_some_iff {program : Program} {limit : Nat} {start : Moment}
    {outcome : Outcome} :
    runFrom program limit start = some outcome ↔
      ∃ passed final, Path program start passed final ∧ passed.length < limit ∧
        (step program final).outcome? = some outcome := by
  induction limit generalizing start with
  | zero => simp [runFrom]
  | succ limit ih =>
      rw [runFrom]
      constructor
      · intro ended
        cases stepEq : step program start with
        | finished statistics state =>
            rw [stepEq] at ended
            exact ⟨[], start, .here start, by simp, by rw [stepEq]; exact ended⟩
        | failed kind state =>
            rw [stepEq] at ended
            exact ⟨[], start, .here start, by simp, by rw [stepEq]; exact ended⟩
        | running next =>
            rw [stepEq] at ended
            obtain ⟨passed, final, path, short, endedThere⟩ := ih.mp ended
            exact ⟨start :: passed, final, .step stepEq path, by simpa using short, endedThere⟩
      · rintro ⟨passed, final, path, short, ended⟩
        cases path with
        | here =>
            cases stepEq : step program start <;> simp_all [Step.outcome?]
        | step running further =>
            rw [running]
            exact ih.mpr ⟨_, final, further, by simpa using short, ended⟩

theorem ne_running_of_outcome? {program : Program} {moment : Moment} {outcome : Outcome}
    (ended : (step program moment).outcome? = some outcome) (next : Moment) :
    step program moment ≠ .running next := by
  intro running
  rw [running] at ended
  cases ended

/-- A run has the same outcome under every limit under which it ends. -/
theorem eq_of_runFrom {program : Program} {limit otherLimit : Nat} {start : Moment}
    {outcome otherOutcome : Outcome} (ended : runFrom program limit start = some outcome)
    (otherEnded : runFrom program otherLimit start = some otherOutcome) :
    outcome = otherOutcome := by
  obtain ⟨passed, final, path, -, endsHere⟩ := runFrom_eq_some_iff.mp ended
  obtain ⟨otherPassed, otherFinal, otherPath, -, endsThere⟩ := runFrom_eq_some_iff.mp otherEnded
  obtain ⟨rest, -, further⟩ := path.exists_further (ne_running_of_outcome? endsHere) otherPath
  cases further with
  | here => exact Option.some.inj (endsHere.symm.trans endsThere)
  | step running _ => exact absurd running (ne_running_of_outcome? endsThere _)

theorem exists_runFrom_iff_path {program : Program} {start : Moment} {outcome : Outcome} :
    (∃ limit, runFrom program limit start = some outcome) ↔
      ∃ passed final, Path program start passed final ∧
        (step program final).outcome? = some outcome := by
  simp only [runFrom_eq_some_iff]
  constructor
  · rintro ⟨limit, passed, final, path, -, ended⟩
    exact ⟨passed, final, path, ended⟩
  · rintro ⟨passed, final, path, ended⟩
    exact ⟨passed.length + 1, passed, final, path, Nat.lt_succ_self _, ended⟩

/-- A run that succeeds has come to the end of the program. -/
theorem exists_path_of_runFrom {program : Program} {limit : Nat} {start : Moment}
    {counted : Statistics} {final : State}
    (ended : runFrom program limit start = some (.ok counted final)) :
    ∃ passed index, Path program start passed ⟨index, counted, final⟩ ∧ program.size ≤ index := by
  obtain ⟨passed, moment, path, endsHere⟩ := exists_runFrom_iff_path.mp ⟨limit, ended⟩
  have view := stepView program moment
  generalize step program moment = next at view endsHere
  cases view with
  | @ends index statistics state atEnd =>
      cases endsHere
      exact ⟨passed, index, path, atEnd⟩
  | jumps found jumps paired => cases endsHere
  | performs found stays performed => cases endsHere
  | fails found stays failed => cases endsHere

/-! ## Closed runs -/

theorem run_eq_some_iff {program : Program} {limit : Nat} {start : State} {result : Outcome} :
    run limit program start = some result ↔
      ∃ outcome, runFrom program limit { state := start } = some outcome ∧
        close outcome = result := by
  rw [run, Option.map_eq_some_iff]

theorem close_eq_ok_iff {outcome : Outcome} {counted : Statistics} {final : State} :
    close outcome = .ok counted final ↔
      ∃ opened, outcome = .ok counted opened ∧ flush opened = .ok () final := by
  cases outcome with
  | error kind state => simp [close]
  | ok statistics opened =>
      rw [close]
      cases flushed : flush opened with
      | error kind state => simp [flushed]
      | ok _ state => simp [flushed]

theorem eq_of_run {program : Program} {limit otherLimit : Nat} {start : State}
    {result otherResult : Outcome} (ended : run limit program start = some result)
    (otherEnded : run otherLimit program start = some otherResult) : result = otherResult := by
  obtain ⟨outcome, runEnded, rfl⟩ := run_eq_some_iff.mp ended
  obtain ⟨otherOutcome, otherRunEnded, rfl⟩ := run_eq_some_iff.mp otherEnded
  rw [eq_of_runFrom runEnded otherRunEnded]

end Execution

end Brainfuck
