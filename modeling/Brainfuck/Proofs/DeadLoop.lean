import Brainfuck.Proofs.Concatenation
import Brainfuck.Proofs.Embedding

/-!
# Loops behind loops

A run leaves or skips a loop with a zero in the current cell, and begins its body with
another value.  A loop directly behind a loop is therefore skipped whenever a run comes to
it.  Without that loop the program does the same, and counts one instruction less for every
time that it came there.
-/

namespace Brainfuck

open Instruction

namespace Execution

/-! ## Boundaries of loops -/

/-- Behind a loop the current cell is zero, and at the beginning of its body it is not. -/
structure RespectsLoops (program : Program) (moment : Moment) : Prop where
  behind {last : Nat} (found : program.toList[last]? = some .loopEnd)
    (arrived : moment.index = last + 1) : moment.state.machine.current = 0
  within {first : Nat} (found : program.toList[first]? = some .loopStart)
    (arrived : moment.index = first + 1) : moment.state.machine.current ≠ 0

/-- A bracket that jumps stands at the other end of the loop that it jumps to. -/
theorem respectsLoops_of_jump {program : Program} {index partner : Nat} {state : State}
    {instruction : Instruction} (found : program.toList[index]? = some instruction)
    (jumps : instruction.jumps state.machine.isNonzero = true)
    (paired : program.partner? index = some partner) (statistics : Statistics) :
    RespectsLoops program ⟨partner + 1, statistics, state⟩ where
  behind {last} foundEnd arrived := by
    obtain rfl : partner = last := Nat.succ.inj arrived
    have back := program.nestedPairing.symmetric paired
    have order := program.nestedPairing.lt_of_loopEnd foundEnd back
    have foundStart := (program.nestedPairing.ordered paired order).1
    obtain rfl := Option.some.inj (found.symm.trans foundStart)
    exact Machine.isNonzero_eq_false_iff.mp (by simpa [Instruction.jumps] using jumps)
  within {first} foundStart arrived := by
    obtain rfl : partner = first := Nat.succ.inj arrived
    have back := program.nestedPairing.symmetric paired
    have order := program.nestedPairing.lt_of_loopStart foundStart back
    have foundEnd := (program.nestedPairing.ordered back order).2
    obtain rfl := Option.some.inj (found.symm.trans foundEnd)
    exact Machine.isNonzero_eq_true_iff.mp jumps

/-- A bracket that is passed over leaves the cell alone that it has tested. -/
theorem respectsLoops_of_perform {program : Program} {index : Nat} {state next : State}
    {instruction : Instruction} {transfer : Transfer}
    (found : program.toList[index]? = some instruction)
    (stays : instruction.jumps state.machine.isNonzero = false)
    (performed : perform instruction state = .ok transfer next) (statistics : Statistics) :
    RespectsLoops program ⟨index + 1, statistics, next⟩ where
  behind {last} foundEnd arrived := by
    obtain rfl : index = last := Nat.succ.inj arrived
    obtain rfl := Option.some.inj (found.symm.trans foundEnd)
    cases performed
    exact Machine.isNonzero_eq_false_iff.mp stays
  within {first} foundStart arrived := by
    obtain rfl : index = first := Nat.succ.inj arrived
    obtain rfl := Option.some.inj (found.symm.trans foundStart)
    cases performed
    exact Machine.isNonzero_eq_true_iff.mp (by simpa [Instruction.jumps] using stays)

theorem respectsLoops_of_running {program : Program} {moment next : Moment}
    (running : step program moment = .running next) : RespectsLoops program next := by
  have view := stepView program moment
  rw [running] at view
  cases view with
  | jumps found jumps paired => exact respectsLoops_of_jump found jumps paired _
  | performs found stays performed => exact respectsLoops_of_perform found stays performed _

/-! ## Without the loop -/

/-- Where the instructions of a program stand when it has `width` more of them from `first`
on. -/
def placeAround (first width index : Nat) : Nat :=
  if index < first then index else index + width

theorem placeAround_of_lt {first width index : Nat} (inFront : index < first) :
    placeAround first width index = index :=
  if_pos inFront

theorem placeAround_of_le {first width index : Nat} (behind : first ≤ index) :
    placeAround first width index = index + width :=
  if_neg (Nat.not_lt.mpr behind)

theorem strictMono_placeAround (first width : Nat) : StrictMono (placeAround first width) := by
  intro index later order
  unfold placeAround
  split <;> split <;> omega

/-- A place is followed by the next place, unless the further instructions follow. -/
theorem placeAround_succ (first width index : Nat) :
    placeAround first width index + 1 = placeAround first width (index + 1) ∨
      (placeAround first width index + 1 = first ∧ index + 1 = first) := by
  unfold placeAround
  split <;> split <;> omega

/-- Every index has a place, but for those of the further instructions. -/
theorem exists_placeAround_eq {first width index : Nat}
    (outside : index < first ∨ first + width ≤ index) :
    ∃ behind, placeAround first width behind = index := by
  rcases outside with inFront | behind
  · exact ⟨index, placeAround_of_lt inFront⟩
  · refine ⟨index - width, ?_⟩
    rw [placeAround_of_le (by omega)]
    omega

theorem placeAround_outside (first width index : Nat) :
    placeAround first width index < first ∨ first + width ≤ placeAround first width index := by
  unfold placeAround
  split <;> omega

/-- A program has a loop directly behind another loop, and a shorter program has it not. -/
structure DeadLoop (whole shortened : Program) (front : List Instruction) (body : Block)
    (after : List Instruction) : Prop where
  whole_eq : whole.toList = front ++ ((Block.loop body .done).toList ++ after)
  shortened_eq : shortened.toList = front ++ after
  getLast?_front : front.getLast? = some .loopEnd

namespace DeadLoop

variable {whole shortened : Program} {front after : List Instruction} {body : Block}

theorem getElem?_place (dead : DeadLoop whole shortened front body after) (index : Nat) :
    whole.toList[placeAround front.length (body.size + 2) index]? =
      shortened.toList[index]? := by
  have loopLength : (Block.loop body .done).toList.length = body.size + 2 := by
    rw [← Block.size, Block.size_loop, Block.size_done, Nat.add_zero]
  rw [dead.whole_eq, dead.shortened_eq]
  rcases Nat.lt_or_ge index front.length with inFront | behind
  · rw [placeAround_of_lt inFront, List.getElem?_append_left inFront,
      List.getElem?_append_left inFront]
  · rw [placeAround_of_le behind, List.getElem?_append_right (by omega),
      List.getElem?_append_right (by omega), List.getElem?_append_right (by omega)]
    congr 1
    omega

theorem paired (dead : DeadLoop whole shortened front body after) :
    whole.partner? front.length = some (front.length + 1 + body.size) := by
  refine Program.partner?_eq_some_iff_loopAt.mpr (Or.inl ?_)
  exact ⟨front, body, after, by simp [dead.whole_eq, Block.toList], rfl, rfl⟩

/-- The brackets of the loop are paired among themselves. -/
theorem outside_of_partner? (dead : DeadLoop whole shortened front body after)
    {index partner : Nat} (paired : whole.partner? index = some partner)
    (outside : index < front.length ∨ front.length + (body.size + 2) ≤ index) :
    partner < front.length ∨ front.length + (body.size + 2) ≤ partner := by
  -- a partner in the loop would have its own partner, which is `index`, there too
  have back := whole.nestedPairing.symmetric paired
  by_contra inside
  rcases Nat.lt_trichotomy partner front.length with inFront | rfl | behind
  · omega
  · have := Option.some.inj (dead.paired.symm.trans back)
    omega
  · rcases Nat.lt_or_ge partner (front.length + 1 + body.size) with before | atEnd
    · have := whole.nestedPairing.partner_inside dead.paired behind before back
      omega
    · obtain rfl : partner = front.length + 1 + body.size := by omega
      have loopBack := whole.nestedPairing.symmetric dead.paired
      have := Option.some.inj (loopBack.symm.trans back)
      omega

theorem embeds (dead : DeadLoop whole shortened front body after) :
    shortened.Embeds whole (placeAround front.length (body.size + 2)) where
  strictMono := strictMono_placeAround ..
  getElem?_place := dead.getElem?_place
  closed paired :=
    exists_placeAround_eq (dead.outside_of_partner? paired (placeAround_outside ..))

theorem current_eq_zero (dead : DeadLoop whole shortened front body after) {moment : Moment}
    (respects : RespectsLoops whole moment) (arrived : moment.index = front.length) :
    moment.state.machine.current = 0 := by
  obtain ⟨start, startEq⟩ := List.getLast?_eq_some_iff.mp dead.getLast?_front
  have found : whole.toList[start.length]? = some .loopEnd := by
    simp [dead.whole_eq, startEq]
  exact respects.behind found (by simp [arrived, startEq])

theorem step_skip (dead : DeadLoop whole shortened front body after) {statistics : Statistics}
    {state : State} (isZero : state.machine.current = 0) :
    step whole ⟨front.length, statistics, state⟩ =
      .running ⟨front.length + (body.size + 2), statistics.record .nothing, state⟩ := by
  have found : whole.toList[front.length]? = some .loopStart := by
    simp [dead.whole_eq, Block.toList]
  have jumps : Instruction.loopStart.jumps state.machine.isNonzero = true := by
    rw [Machine.isNonzero_eq_false_iff.mpr isZero]
    rfl
  rw [step_jump found jumps (Program.partner?_eq_some_iff.mp dead.paired).2]
  congr 2
  omega

end DeadLoop

/-! ## Side by side -/

/-- Counters with a number of further instructions. -/
theorem record_nothing_add (count : Nat) (statistics : Statistics) :
    (({ instructions := count } : Statistics) + statistics).record .nothing =
      { instructions := count + 1 } + statistics := by
  refine congrArg (fun instructions => (⟨instructions, _, _, _⟩ : Statistics)) ?_
  exact Nat.add_right_comm count statistics.instructions 1

/-- A moment of a run that has skipped the loop `skips` times, and the moment of the run
without the loop: they are about to do the same, or the loop is still to be skipped. -/
inductive Aligned (first width skips : Nat) : Moment → Moment → Prop
  | placed (index : Nat) (statistics : Statistics) (state : State) :
      Aligned first width skips
        ⟨placeAround first width index, { instructions := skips } + statistics, state⟩
        ⟨index, statistics, state⟩
  | before (statistics : Statistics) {state : State} (isZero : state.machine.current = 0) :
      Aligned first width skips ⟨first, { instructions := skips } + statistics, state⟩
        ⟨first, statistics, state⟩

/-- Steps that lead to aligned moments, or end the runs with the same outcome but for the
instructions that have skipped the loop. -/
inductive AlignedSteps (first width skips : Nat) : Step → Step → Prop
  | finished (statistics : Statistics) (state : State) :
      AlignedSteps first width skips
        (.finished ({ instructions := skips } + statistics) state) (.finished statistics state)
  | running {moment other : Moment} (aligned : Aligned first width skips moment other) :
      AlignedSteps first width skips (.running moment) (.running other)
  | failed (kind : FailureKind) (state : State) :
      AlignedSteps first width skips (.failed kind state) (.failed kind state)

theorem AlignedSteps.outcome?_eq {first width skips : Nat} {taken otherTaken : Step}
    (aligned : AlignedSteps first width skips taken otherTaken) :
    taken.outcome? = otherTaken.outcome?.map (recount { instructions := skips }) := by
  cases aligned <;> rfl

namespace DeadLoop

variable {whole shortened : Program} {front after : List Instruction} {body : Block}
  (dead : DeadLoop whole shortened front body after)

include dead

theorem step_before (skips : Nat) (statistics : Statistics) {state : State}
    (isZero : state.machine.current = 0) :
    step whole ⟨front.length, { instructions := skips } + statistics, state⟩ =
      .running ⟨placeAround front.length (body.size + 2) front.length,
        { instructions := skips + 1 } + statistics, state⟩ := by
  rw [dead.step_skip isZero, record_nothing_add, placeAround_of_le (Nat.le_refl _)]

/-- A run goes on behind an instruction as the shorter run does, or it comes to the loop. -/
theorem aligned_succ {skips index : Nat} {statistics : Statistics} {state : State}
    (respects : RespectsLoops whole ⟨placeAround front.length (body.size + 2) index + 1,
      { instructions := skips } + statistics, state⟩) :
    Aligned front.length (body.size + 2) skips
      ⟨placeAround front.length (body.size + 2) index + 1,
        { instructions := skips } + statistics, state⟩
      ⟨index + 1, statistics, state⟩ := by
  rcases placeAround_succ front.length (body.size + 2) index with next | ⟨arrived, otherArrived⟩
  · rw [next]
    exact .placed (index + 1) statistics state
  · have isZero := dead.current_eq_zero respects arrived
    rw [arrived, otherArrived]
    exact .before statistics isZero

theorem alignedSteps (skips : Nat) (moment : Moment) :
    AlignedSteps front.length (body.size + 2) skips
      (step whole ⟨placeAround front.length (body.size + 2) moment.index,
        { instructions := skips } + moment.statistics, moment.state⟩)
      (step shortened moment) := by
  have view := stepView shortened moment
  generalize takenEq : step shortened moment = taken at view ⊢
  clear takenEq
  cases view with
  | @ends index statistics state atEnd =>
      simp only [step, dif_neg (Nat.not_lt.mpr (dead.embeds.size_le_place atEnd))]
      exact .finished statistics state
  | @jumps index partner statistics state instruction found jumps paired =>
      have foundToo := (dead.getElem?_place index).trans found
      have pairedToo := dead.embeds.partner?_iff.mp paired
      rw [step_jump foundToo jumps (Program.partner?_eq_some_iff.mp pairedToo).2,
        Statistics.record_add]
      exact .running (dead.aligned_succ (respectsLoops_of_jump foundToo jumps pairedToo _))
  | @performs index statistics state next instruction transfer found stays performed =>
      have foundToo := (dead.getElem?_place index).trans found
      rw [step_perform foundToo stays, performed]
      simp only [Statistics.record_add]
      exact .running (dead.aligned_succ (respectsLoops_of_perform foundToo stays performed _))
  | @fails index statistics state next instruction kind found stays failed =>
      have foundToo := (dead.getElem?_place index).trans found
      rw [step_perform foundToo stays, failed]
      exact .failed kind next

/-- The shorter program takes the path of the whole one without the steps that skip the
loop. -/
theorem exists_path_shortened {moment final : Moment} {passed : List Moment}
    (path : Path whole moment passed final) {skips : Nat} {other : Moment}
    (aligned : Aligned front.length (body.size + 2) skips moment other) :
    ∃ otherPassed otherFinal, Path shortened other otherPassed otherFinal ∧
      Aligned front.length (body.size + 2)
        (skips + passed.countP (fun earlier => earlier.index = front.length)) final otherFinal := by
  induction path generalizing skips other with
  | here moment => exact ⟨[], other, .here other, aligned⟩
  | @step moment next final passed running further ih =>
      cases aligned with
      | before statistics isZero =>
          -- the shorter run stays where it is while the other one skips the loop
          rw [dead.step_before skips statistics isZero] at running
          cases running
          obtain ⟨otherPassed, otherFinal, otherPath, aligned⟩ :=
            ih (.placed front.length statistics _)
          refine ⟨otherPassed, otherFinal, otherPath, ?_⟩
          rwa [List.countP_cons_of_pos (by simp), ← Nat.add_assoc, Nat.add_right_comm skips]
      | placed index statistics state =>
          have steps := dead.alignedSteps skips ⟨index, statistics, state⟩
          simp only [running] at steps
          generalize otherRunning : step shortened ⟨index, statistics, state⟩ = taken at steps
          cases steps with
          | @running _ otherNext aligned =>
              obtain ⟨otherPassed, otherFinal, otherPath, aligned⟩ := ih aligned
              refine ⟨_, otherFinal, .step otherRunning otherPath, ?_⟩
              have outside := placeAround_outside front.length (body.size + 2) index
              rw [List.countP_cons_of_neg (by simp only [decide_eq_true_eq]; omega)]
              exact aligned

theorem exists_path_placed {skips : Nat} {moment other : Moment}
    (aligned : Aligned front.length (body.size + 2) skips moment other) :
    ∃ passed skips, Path whole moment passed ⟨placeAround front.length (body.size + 2) other.index,
      { instructions := skips } + other.statistics, other.state⟩ := by
  cases aligned with
  | placed index statistics state => exact ⟨[], skips, .here _⟩
  | before statistics isZero =>
      exact ⟨_, skips + 1, .step (dead.step_before skips statistics isZero) (.here _)⟩

/-- The whole program takes the path of the shorter one with steps that skip the loop. -/
theorem exists_path_whole {other otherFinal : Moment} {otherPassed : List Moment}
    (path : Path shortened other otherPassed otherFinal) {skips : Nat} {moment : Moment}
    (aligned : Aligned front.length (body.size + 2) skips moment other) :
    ∃ passed skips, Path whole moment passed
      ⟨placeAround front.length (body.size + 2) otherFinal.index,
        { instructions := skips } + otherFinal.statistics, otherFinal.state⟩ := by
  induction path generalizing skips moment with
  | here other => exact dead.exists_path_placed aligned
  | @step other otherNext otherFinal otherPassed otherRunning further ih =>
      obtain ⟨passed, skips, path⟩ := dead.exists_path_placed aligned
      have steps := dead.alignedSteps skips other
      rw [otherRunning] at steps
      generalize running : step whole _ = taken at steps
      cases steps with
      | running aligned =>
          obtain ⟨behind, skips, pathBehind⟩ := ih aligned
          exact ⟨_, skips, path.append (.step running pathBehind)⟩

theorem aligned_start (start : State) :
    Aligned front.length (body.size + 2) 0 { state := start } { state := start } := by
  have inFront : 0 < front.length := by
    rw [List.length_pos_iff]
    rintro rfl
    cases dead.getLast?_front
  have atStart : Aligned front.length (body.size + 2) 0
      ⟨placeAround front.length (body.size + 2) 0, {}, start⟩ ⟨0, {}, start⟩ :=
    .placed 0 {} start
  rwa [placeAround_of_lt inFront] at atStart

end DeadLoop

/-! ## Runs -/

/-- A run comes to an index a number of times before it ends. -/
def Arrives (program : Program) (start : State) (index times : Nat) : Prop :=
  ∃ passed final, Path program { state := start } passed final ∧
    (∀ next, step program final ≠ .running next) ∧
    (passed ++ [final]).countP (fun moment => moment.index = index) = times

namespace DeadLoop

variable {whole shortened : Program} {front after : List Instruction} {body : Block}
  (dead : DeadLoop whole shortened front body after) {start : State}

include dead

theorem exists_shortened_of_runFrom {outcome : Outcome}
    (ended : ∃ limit, runFrom whole limit { state := start } = some outcome) :
    ∃ times other, Arrives whole start front.length times ∧
      (∃ limit, runFrom shortened limit { state := start } = some other) ∧
      outcome = recount { instructions := times } other := by
  obtain ⟨passed, final, path, endsHere⟩ := exists_runFrom_iff_path.mp ended
  have stops := ne_running_of_outcome? endsHere
  obtain ⟨otherPassed, otherFinal, otherPath, aligned⟩ :=
    dead.exists_path_shortened path (dead.aligned_start start)
  cases aligned with
  | before statistics isZero => exact absurd (dead.step_before _ statistics isZero) (stops _)
  | placed index statistics state =>
      rw [(dead.alignedSteps (0 + passed.countP fun earlier => earlier.index = front.length)
        ⟨index, statistics, state⟩).outcome?_eq] at endsHere
      obtain ⟨other, otherEndsHere, rfl⟩ := Option.map_eq_some_iff.mp endsHere
      refine ⟨_, other, ⟨passed, _, path, stops, ?_⟩,
        exists_runFrom_iff_path.mpr ⟨otherPassed, _, otherPath, otherEndsHere⟩, rfl⟩
      have outside := placeAround_outside front.length (body.size + 2) index
      rw [List.countP_append, List.countP_singleton,
        if_neg (by simp only [decide_eq_true_eq]; omega), Nat.zero_add, Nat.add_zero]

theorem exists_whole_of_runFrom {other : Outcome}
    (ended : ∃ limit, runFrom shortened limit { state := start } = some other) :
    ∃ limit outcome, runFrom whole limit { state := start } = some outcome := by
  obtain ⟨otherPassed, otherFinal, otherPath, endsHere⟩ := exists_runFrom_iff_path.mp ended
  obtain ⟨passed, skips, path⟩ := dead.exists_path_whole otherPath (dead.aligned_start start)
  have steps := dead.alignedSteps skips otherFinal
  have endsToo := steps.outcome?_eq
  rw [endsHere] at endsToo
  obtain ⟨limit, ended⟩ := exists_runFrom_iff_path.mpr ⟨passed, _, path, endsToo⟩
  exact ⟨limit, _, ended⟩

theorem exists_run_iff :
    (∃ limit result, run limit whole start = some result) ↔
      ∃ limit other, run limit shortened start = some other := by
  constructor
  · rintro ⟨limit, result, ended⟩
    obtain ⟨outcome, runEnded, -⟩ := run_eq_some_iff.mp ended
    obtain ⟨-, other, -, ⟨otherLimit, otherEnded⟩, -⟩ :=
      dead.exists_shortened_of_runFrom ⟨limit, runEnded⟩
    exact ⟨otherLimit, _, run_eq_some_iff.mpr ⟨other, otherEnded, rfl⟩⟩
  · rintro ⟨limit, result, ended⟩
    obtain ⟨other, otherEnded, -⟩ := run_eq_some_iff.mp ended
    obtain ⟨wholeLimit, outcome, runEnded⟩ := dead.exists_whole_of_runFrom ⟨limit, otherEnded⟩
    exact ⟨wholeLimit, _, run_eq_some_iff.mpr ⟨outcome, runEnded, rfl⟩⟩

theorem result_eq {limit otherLimit : Nat} {result other : Outcome}
    (ended : run limit whole start = some result)
    (otherEnded : run otherLimit shortened start = some other) :
    ∃ times, Arrives whole start front.length times ∧
      result = recount { instructions := times } other := by
  obtain ⟨outcome, runEnded, rfl⟩ := run_eq_some_iff.mp ended
  obtain ⟨otherOutcome, otherRunEnded, rfl⟩ := run_eq_some_iff.mp otherEnded
  obtain ⟨times, found, arrives, ⟨foundLimit, foundEnded⟩, rfl⟩ :=
    dead.exists_shortened_of_runFrom ⟨limit, runEnded⟩
  obtain rfl := eq_of_runFrom foundEnded otherRunEnded
  exact ⟨times, arrives, close_recount _ _⟩

end DeadLoop

/-- Every run respects loops: behind a loop the current cell is zero, and at the beginning of
its body it is not, however the run has come there.  A loop directly behind another one is
dead, then.  Without it a program is still accepted, and its runs end as before, but for one
instruction every time that they have come to the loop. -/
theorem run_without_dead_loop :
    (∀ (program : Program) start passed moment next,
      Path program { state := start } passed moment → step program moment = .running next →
        RespectsLoops program next) ∧
    ∀ (before after : List Instruction) (first second whole : Program),
      Program.ofList (before ++ (.loopStart :: first.toList ++ [.loopEnd]) ++
        (.loopStart :: second.toList ++ [.loopEnd]) ++ after) = .ok whole →
      ∃ shortened, Program.ofList
          (before ++ (.loopStart :: first.toList ++ [.loopEnd]) ++ after) = .ok shortened ∧
        ∀ start,
          ((∃ limit result, run limit whole start = some result) ↔
            ∃ limit other, run limit shortened start = some other) ∧
          ∀ limit otherLimit result other, run limit whole start = some result →
            run otherLimit shortened start = some other →
              ∃ times, Arrives whole start (before.length + first.size + 2) times ∧
                result = recount { instructions := times } other := by
  refine ⟨fun program start passed moment next path => respectsLoops_of_running, ?_⟩
  intro before after first second whole built
  have split := Program.toList_of_ofList built
  have wholeEq : whole.toList = (before ++ (.loopStart :: first.toList ++ [.loopEnd])) ++
      ((Block.loop second.block .done).toList ++ after) := by
    rw [split]
    simp [Block.toList]
  obtain ⟨shortened, shortenedBuilt⟩ := Program.exists_ofList_without wholeEq
  have dead : DeadLoop whole shortened (before ++ (.loopStart :: first.toList ++ [.loopEnd]))
      second.block after :=
    ⟨wholeEq, Program.toList_of_ofList shortenedBuilt, by
      rw [← List.append_assoc, List.getLast?_concat]⟩
  have place : (before ++ (Instruction.loopStart :: first.toList ++ [loopEnd])).length =
      before.length + first.size + 2 := by
    simp [Program.toList, Program.size]
    omega
  refine ⟨shortened, shortenedBuilt, fun start => ⟨dead.exists_run_iff, ?_⟩⟩
  intro limit otherLimit result other ended otherEnded
  rw [← place]
  exact dead.result_eq ended otherEnded

/-- A dead loop inside another loop, which takes two passes. -/
theorem run_without_dead_loop_inside :
    ∃ whole shortened,
      Program.ofList [.increment, .increment, .loopStart, .moveRight, .increment, .loopStart,
        .decrement, .loopEnd, .loopStart, .output, .loopEnd, .moveLeft, .decrement, .loopEnd] =
          .ok whole ∧
      Program.ofList [.increment, .increment, .loopStart, .moveRight, .increment, .loopStart,
        .decrement, .loopEnd, .moveLeft, .decrement, .loopEnd] = .ok shortened ∧
      ∃ final, run 22 whole ⟨Machine.fresh ⟨2, by decide⟩, {}⟩ =
          some (.ok { instructions := 21 } final) ∧
        run 20 shortened ⟨Machine.fresh ⟨2, by decide⟩, {}⟩ =
          some (.ok { instructions := 19 } final) ∧
        Arrives whole ⟨Machine.fresh ⟨2, by decide⟩, {}⟩ 8 2 := by
  let start : State := ⟨Machine.fresh ⟨2, by decide⟩, {}⟩
  let first : Program := ⟨#[.decrement], #[0], rfl⟩
  let second : Program := ⟨#[.output], #[0], rfl⟩
  let whole : Program :=
    ⟨#[.increment, .increment, .loopStart, .moveRight, .increment, .loopStart, .decrement,
      .loopEnd, .loopStart, .output, .loopEnd, .moveLeft, .decrement, .loopEnd],
      #[0, 0, 13, 0, 0, 7, 0, 5, 10, 0, 8, 0, 0, 2], rfl⟩
  have wholeBuilt : Program.ofList [.increment, .increment, .loopStart, .moveRight, .increment,
      .loopStart, .decrement, .loopEnd, .loopStart, .output, .loopEnd, .moveLeft, .decrement,
      .loopEnd] = .ok whole := rfl
  obtain ⟨-, without⟩ := run_without_dead_loop
  obtain ⟨shortened, built, same⟩ := without
    [.increment, .increment, .loopStart, .moveRight, .increment]
    [.moveLeft, .decrement, .loopEnd] first second whole wholeBuilt
  have shortenedEq : shortened =
      ⟨#[.increment, .increment, .loopStart, .moveRight, .increment, .loopStart, .decrement,
        .loopEnd, .moveLeft, .decrement, .loopEnd], #[0, 0, 10, 0, 0, 7, 0, 5, 0, 0, 2], rfl⟩ :=
    Except.ok.inj (built.symm.trans rfl)
  obtain ⟨-, resultEq⟩ := same start
  have ended : ∃ final, run 22 whole start = some (.ok { instructions := 21 } final) ∧
      run 20 shortened start = some (.ok { instructions := 19 } final) := by
    rw [shortenedEq]
    exact ⟨_, rfl, rfl⟩
  obtain ⟨final, wholeEnded, shortenedEnded⟩ := ended
  obtain ⟨times, arrives, countEq⟩ := resultEq _ _ _ _ wholeEnded shortenedEnded
  obtain rfl : 2 = times := by
    have instructionsEq : 21 = times + 19 := by
      injection countEq with statisticsEq
      exact congrArg Statistics.instructions statisticsEq
    omega
  exact ⟨whole, shortened, wholeBuilt, built, final, wholeEnded, shortenedEnded, arrives⟩

end Execution

end Brainfuck
