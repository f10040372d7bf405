import Brainfuck.Proofs.Balance
import Brainfuck.Proofs.Lockstep

/-!
# Runs of concatenations

Two programs, one behind the other, are a program.  Its jump table is made of the two
tables, so a run does not jump across the seam: it goes through the first program and
then, from wherever that has led, through the second one.

The one thing that tells this from running the two programs in turn is the flush that
closes the first run.  It makes no difference to what the second run does as long as
flushes succeed.
-/

namespace Brainfuck

open Instruction

/-! ## Brackets of a concatenation -/

theorem bracketAt_insert_iff {instructions : List Instruction} {index : Nat}
    (inside : index < instructions.length) (before after : List Instruction) :
    BracketAt (before ++ (instructions ++ after)) (before.length + index) ↔
      BracketAt instructions index := by
  rw [BracketAt, BracketAt, List.getElem?_append_right (by omega), Nat.add_sub_cancel_left,
    List.getElem?_append_left inside]

namespace Program

variable {program next whole : Program}

/-- The partners of the brackets of a program move along with it. -/
theorem partner?_insert {before after : List Instruction}
    (split : whole.toList = before ++ (program.toList ++ after)) {index : Nat}
    (inside : index < program.size) :
    whole.partner? (before.length + index) =
      (program.partner? index).map (before.length + ·) := by
  cases paired : program.partner? index with
  | some partner =>
      rw [Option.map_some, partner?_eq_some_iff_loopAt, split]
      rcases partner?_eq_some_iff_loopAt.mp paired with loop | loop
      · exact Or.inl (loop.insert before after)
      · exact Or.inr (loop.insert before after)
  | none =>
      have noBracket : ¬ BracketAt program.toList index := by
        rw [← program.nestedPairing.isSome_iff, paired]
        exact Bool.false_ne_true
      have insideList : index < program.toList.length := by simpa [toList, size] using inside
      rw [Option.map_none, ← Option.not_isSome_iff_eq_none, whole.nestedPairing.isSome_iff,
        split, bracketAt_insert_iff insideList]
      exact noBracket

theorem partner?_eq_none_of_size_le {index : Nat} (outside : program.size ≤ index) :
    program.partner? index = none := by
  rw [partner?, Array.getElem?_eq_none outside]

theorem exists_ofList_append {first second : List Instruction}
    (built : ofList first = .ok program) (nextBuilt : ofList second = .ok next) :
    ∃ whole, ofList (first ++ second) = .ok whole ∧
      whole.toList = program.toList ++ next.toList := by
  have firstEq := toList_block_of_ofList built
  have secondEq := toList_block_of_ofList nextBuilt
  have listEq : (program.block.append next.block).toList = first ++ second := by
    rw [Block.toList_append, firstEq, secondEq]
  obtain ⟨whole, wholeBuilt⟩ := exists_ofList_eq_ok_iff.mpr ⟨_, listEq⟩
  refine ⟨whole, wholeBuilt, ?_⟩
  rw [toList_of_ofList wholeBuilt, toList_of_ofList built, toList_of_ofList nextBuilt]

section Joined

variable (joined : whole.toList = program.toList ++ next.toList)

include joined

theorem size_of_append : whole.size = program.size + next.size := by
  simpa [toList, size] using congrArg List.length joined

theorem partner?_of_append_left {index : Nat} (inside : index < program.size) :
    whole.partner? index = program.partner? index := by
  have split : whole.toList = [] ++ (program.toList ++ next.toList) := joined
  simpa using partner?_insert split inside

theorem partner?_of_append_right (index : Nat) :
    whole.partner? (program.size + index) =
      (next.partner? index).map (program.size + ·) := by
  rcases Nat.lt_or_ge index next.size with inside | outside
  · have split : whole.toList = program.toList ++ (next.toList ++ []) := by
      rw [joined, List.append_nil]
    exact partner?_insert split inside
  · rw [partner?_eq_none_of_size_le outside, Option.map_none]
    exact partner?_eq_none_of_size_le (by rw [size_of_append joined]; omega)

end Joined

end Program

/-! ## Counters -/

namespace Statistics

instance : Add Statistics where
  add first second :=
    { instructions := first.instructions + second.instructions
      bytesRead := first.bytesRead + second.bytesRead
      bytesWritten := first.bytesWritten + second.bytesWritten
      endOfInputReads := first.endOfInputReads + second.endOfInputReads }

theorem add_empty (statistics : Statistics) : statistics + {} = statistics :=
  rfl

theorem record_add (statistics further : Statistics) (transfer : Transfer) :
    (statistics + further).record transfer = statistics + further.record transfer := by
  cases transfer <;> rfl

end Statistics

namespace Execution

/-- An outcome whose counters begin with those of an earlier run. -/
def recount (counted : Statistics) : Outcome → Outcome
  | .ok statistics state => .ok (counted + statistics) state
  | .error kind state => .error kind state

theorem close_recount (counted : Statistics) (outcome : Outcome) :
    close (recount counted outcome) = recount counted (close outcome) := by
  cases outcome with
  | error kind state => rfl
  | ok statistics state =>
      simp only [recount, close]
      cases flush state <;> rfl

/-- A run does not look at its counters. -/
theorem runFrom_add (program : Program) (limit : Nat) (counted : Statistics) (moment : Moment) :
    runFrom program limit { moment with statistics := counted + moment.statistics } =
      (runFrom program limit moment).map (recount counted) := by
  induction limit generalizing moment with
  | zero => rfl
  | succ limit ih =>
      rw [runFrom, runFrom]
      have view := stepView program moment
      generalize step program moment = taken at view ⊢
      cases view with
      | @ends index statistics state atEnd =>
          simp only [step, dif_neg (Nat.not_lt.mpr atEnd)]
          rfl
      | @jumps index partner statistics state instruction found jumps paired =>
          rw [step_jump found jumps (Program.partner?_eq_some_iff.mp paired).2,
            Statistics.record_add]
          exact ih ⟨partner + 1, statistics.record .nothing, state⟩
      | @performs index statistics state next instruction transfer found stays performed =>
          rw [step_perform found stays, performed]
          simp only [Statistics.record_add]
          exact ih ⟨index + 1, statistics.record transfer, next⟩
      | fails found stays failed =>
          rw [step_perform found stays, failed]
          rfl

/-! ## Through the seam -/

/-- A program goes on where another one has come to its end. -/
def Follows (next : Program) : Outcome → Outcome → Prop
  | .ok counted middle, final =>
      ∃ limit outcome, runFrom next limit { state := middle } = some outcome ∧
        recount counted outcome = final
  | .error kind state, final => .error kind state = final

theorem exists_runFrom_append_iff {program next whole : Program}
    (joined : whole.toList = program.toList ++ next.toList) {start : State} {final : Outcome} :
    (∃ limit, runFrom whole limit { state := start } = some final) ↔
      ∃ reached, (∃ limit, runFrom program limit { state := start } = some reached) ∧
        Follows next reached final := by
  have firstHolds : whole.Holds 0 program.block := ⟨[], next.toList, by simp [joined], rfl⟩
  have nextHolds : whole.Holds (0 + program.block.size) next.block :=
    ⟨program.toList, [], by simp [joined], by simp [Block.size]⟩
  have atEnd : 0 + program.block.size + next.block.size = whole.size := by
    rw [Program.size_of_append joined]
    simp [Block.size, Program.size, Program.toList]
  rw [exists_runFrom_iff_resume firstHolds]
  apply exists_congr
  intro reached
  rw [exists_runFrom_eq_some_iff]
  apply and_congr_right
  intro _
  cases reached with
  | error kind state => simp [resume, Follows]
  | ok counted middle =>
      rw [Follows]
      simp only [resume]
      rw [exists_runFrom_iff_ends nextHolds atEnd, ← exists_runFrom_eq_some_iff]
      -- a run of the second program on its own counts from zero
      have shifted := fun limit => runFrom_add next limit counted { state := middle }
      simp only [Statistics.add_empty] at shifted
      simp only [shifted, Option.map_eq_some_iff]

/-! ## The flush at the seam -/

/-- Streams of a run that went on at a seam, and of one that was closed there and begun
anew.  Both began with the streams `start`; `middle` are the streams of the second one
just behind the flush that closed it. -/
structure Seam (start middle joined parted : Streams) : Prop where
  input_eq : parted.input = joined.input
  writes_eq : parted.writes = joined.writes
  output_eq : parted.output = joined.output
  flushes_eq : parted.flushes = joined.flushes.tail
  calls : ∃ early late : List Event,
    middle.events.toList = start.events.toList ++ (early ++ [.flush .succeed]) ∧
    joined.events.toList = start.events.toList ++ (early ++ late) ∧
    parted.events.toList = start.events.toList ++ (early ++ .flush .succeed :: late) ∧
    joined.flushes = start.flushes.drop ((early ++ late).countP Event.isFlush)

namespace Seam

variable {start middle joined parted : Streams}

/-- The streams of the run that was closed determine those of the one that went on. -/
theorem unique {other : Streams} (seam : Seam start middle joined parted)
    (otherSeam : Seam start middle other parted) : joined = other := by
  obtain ⟨early, late, middleEq, joinedEq, partedEq, flushesEq⟩ := seam.calls
  obtain ⟨otherEarly, otherLate, otherMiddleEq, otherJoinedEq, otherPartedEq, otherFlushesEq⟩ :=
    otherSeam.calls
  obtain rfl : early = otherEarly :=
    List.append_cancel_right (List.append_cancel_left (middleEq.symm.trans otherMiddleEq))
  obtain rfl : late = otherLate := by
    have tails := List.append_cancel_left (partedEq.symm.trans otherPartedEq)
    exact (List.cons.inj (List.append_cancel_left tails)).2
  have sameEvents : joined.events = other.events :=
    Array.ext' (joinedEq.trans otherJoinedEq.symm)
  have sameInput := seam.input_eq.symm.trans otherSeam.input_eq
  have sameWrites := seam.writes_eq.symm.trans otherSeam.writes_eq
  have sameOutput := seam.output_eq.symm.trans otherSeam.output_eq
  have sameFlushes := flushesEq.trans otherFlushesEq.symm
  obtain ⟨input, writes, flushes, output, events⟩ := joined
  obtain ⟨otherInput, otherWrites, otherFlushes, otherOutput, otherEvents⟩ := other
  simp_all

/-- The same calls on both sides keep the streams in step, as long as they leave the
scripts and the outputs the same. -/
theorem extend (seam : Seam start middle joined parted) {calls : List Event}
    {nextJoined nextParted : Streams}
    (joinedEvents : nextJoined.events.toList = joined.events.toList ++ calls)
    (partedEvents : nextParted.events.toList = parted.events.toList ++ calls)
    (joinedFlushes : nextJoined.flushes = joined.flushes.drop (calls.countP Event.isFlush))
    (partedFlushes : nextParted.flushes = parted.flushes.drop (calls.countP Event.isFlush))
    (inputEq : nextParted.input = nextJoined.input)
    (writesEq : nextParted.writes = nextJoined.writes)
    (outputEq : nextParted.output = nextJoined.output) :
    Seam start middle nextJoined nextParted := by
  obtain ⟨early, late, middleEq, joinedEq, partedEq, flushesEq⟩ := seam.calls
  refine ⟨inputEq, writesEq, outputEq, ?_, early, late ++ calls, middleEq, ?_, ?_, ?_⟩
  · rw [partedFlushes, joinedFlushes, seam.flushes_eq, List.drop_tail, List.tail_drop]
  · simp [joinedEvents, joinedEq]
  · simp [partedEvents, partedEq]
  · rw [joinedFlushes, flushesEq, List.drop_drop, ← List.countP_append, List.append_assoc]

theorem exchange (seam : Seam start middle joined parted) {calls : List Event}
    (noFlush : calls.countP Event.isFlush = 0) {input partedInput : List InputItem}
    {writes partedWrites : List WriteItem} {output partedOutput : Array UInt8}
    (inputEq : partedInput = input) (writesEq : partedWrites = writes)
    (outputEq : partedOutput = output) :
    Seam start middle
      { joined.recordAll calls with input := input, writes := writes, output := output }
      { parted.recordAll calls with
        input := partedInput
        writes := partedWrites
        output := partedOutput } := by
  refine seam.extend (Streams.toList_events_recordAll joined calls)
    (Streams.toList_events_recordAll parted calls) ?_ ?_ inputEq writesEq outputEq
  · rw [noFlush]
    rfl
  · rw [noFlush]
    rfl

theorem flushed (seam : Seam start middle joined parted) :
    Seam start middle joined.flushed parted.flushed :=
  seam.extend (Streams.toList_events_recordAll joined _)
    (Streams.toList_events_recordAll parted _) List.drop_one.symm List.drop_one.symm
    seam.input_eq seam.writes_eq seam.output_eq

end Seam

theorem succeeding_of_drop {streams later : Streams} {count : Nat}
    (succeeding : ∀ item ∈ streams.flushes, item = .succeed)
    (flushesEq : later.flushes = streams.flushes.drop count) :
    ∀ item ∈ later.flushes, item = .succeed := by
  intro item member
  rw [flushesEq] at member
  exact succeeding item (List.mem_of_mem_drop member)

theorem flush_eq_of_succeeding {streams : Streams}
    (succeeding : ∀ item ∈ streams.flushes, item = .succeed) :
    Streams.flush streams = .ok () streams.flushed := by
  refine Streams.flush_eq_ok_iff.mpr ⟨?_, rfl⟩
  intro kind first
  cases succeeding _ (List.mem_of_mem_head? first)

/-- As long as flushes succeed, a seam goes unnoticed. -/
theorem simulation_seam {start middle : Streams}
    (succeeding : ∀ item ∈ start.flushes, item = .succeed) :
    StreamSimulation (Seam start middle) where
  write := by
    intro joined parted seam value
    obtain ⟨retries, rest, script, accepted | ⟨item, further, kind, rfl, failed⟩⟩ :=
      joined.writes_cases
    · rw [Streams.write_of_accept script accepted,
        Streams.write_of_accept (seam.writes_eq.trans script) accepted, seam.output_eq]
      have noFlush := Streams.countP_isFlush_writeCalls value retries .accept
      exact .ok (seam.exchange noFlush seam.input_eq rfl rfl)
    · rw [Streams.write_of_failure script failed,
        Streams.write_of_failure (seam.writes_eq.trans script) failed]
      have noFlush := Streams.countP_isFlush_writeCalls value retries item
      exact .error (seam.exchange noFlush seam.input_eq rfl seam.output_eq)
  read := by
    intro joined parted seam
    obtain ⟨retries, rest, script, ⟨decisive, quiet⟩ | ⟨item, further, kind, rfl, failed⟩⟩ :=
      joined.input_cases
    · rw [Streams.read_of_quiet script decisive quiet,
        Streams.read_of_quiet (seam.input_eq.trans script) decisive quiet]
      have noFlush := Streams.countP_isFlush_readCalls retries (rest.headD .endOfInput)
      exact .ok (seam.exchange noFlush rfl seam.writes_eq seam.output_eq)
    · rw [Streams.read_of_failure script failed,
        Streams.read_of_failure (seam.input_eq.trans script) failed]
      have noFlush := Streams.countP_isFlush_readCalls retries item
      exact .error (seam.exchange noFlush rfl seam.writes_eq seam.output_eq)
  flush := by
    intro joined parted seam
    obtain ⟨early, late, -, -, -, flushesEq⟩ := seam.calls
    have joinedSucceeding := succeeding_of_drop succeeding flushesEq
    have partedSucceeding := succeeding_of_drop joinedSucceeding
      (seam.flushes_eq.trans List.drop_one.symm)
    rw [flush_eq_of_succeeding joinedSucceeding, flush_eq_of_succeeding partedSucceeding]
    exact .ok seam.flushed

/-! ## Runs in turn -/

/-- How two runs in turn end, each of them closed on its own, but for the flush at the
seam: the first one fails, or the second one begins where the first one has led to. -/
inductive InTurn (program next : Program) (start : State) : Outcome → Prop
  | fails {limit : Nat} {kind : FailureKind} {final : State}
      (failed : run limit program start = some (.error kind final)) :
      InTurn program next start (.error kind final)
  | goesOn {limit nextLimit : Nat} {counted : Statistics} {middle : State}
      {joined parted : Outcome}
      (succeeded : run limit program start = some (.ok counted middle))
      (followed : run nextLimit next middle = some parted)
      (atSeam : Corresponds (Attached (Seam start.streams middle.streams)) joined parted) :
      InTurn program next start (recount counted joined)

theorem eq_of_attached_seam {start middle : Streams} {joined other parted : State}
    (attached : Attached (Seam start middle) joined parted)
    (otherAttached : Attached (Seam start middle) other parted) : joined = other := by
  obtain ⟨machine, streams⟩ := joined
  obtain ⟨otherMachine, otherStreams⟩ := other
  obtain rfl : machine = otherMachine :=
    attached.machine_eq.symm.trans otherAttached.machine_eq
  exact congrArg (State.mk machine) (attached.streams.unique otherAttached.streams)

theorem eq_of_corresponds_seam {start middle : Streams} {outcome other parted : Outcome}
    (atSeam : Corresponds (Attached (Seam start middle)) outcome parted)
    (otherAtSeam : Corresponds (Attached (Seam start middle)) other parted) :
    outcome = other := by
  cases atSeam with
  | ok states =>
      cases otherAtSeam with
      | ok otherStates => rw [eq_of_attached_seam states otherStates]
  | error states =>
      cases otherAtSeam with
      | error otherStates => rw [eq_of_attached_seam states otherStates]

section Seams

variable {program : Program} {start opened : State} {counted : Statistics} {limit : Nat}
  (ended : runFrom program limit { state := start } = some (.ok counted opened))

include ended

theorem seam_of_runFrom :
    Seam start.streams opened.streams.flushed opened.streams opened.streams.flushed := by
  obtain ⟨passed, index, path, -⟩ := exists_path_of_runFrom ended
  have closedEq := Streams.toList_events_recordAll opened.streams [.flush .succeed]
  rw [path.events_eq, List.append_assoc] at closedEq
  refine ⟨rfl, rfl, rfl, rfl, passed.flatMap (made program), [], closedEq, ?_, closedEq, ?_⟩
  · rw [List.append_nil]
    exact path.events_eq
  · rw [List.append_nil]
    exact path.turnover.flushes_eq

variable (succeeding : ∀ item ∈ start.streams.flushes, item = .succeed)

include succeeding

theorem close_of_succeeding :
    close (.ok counted opened) = .ok counted ⟨opened.machine, opened.streams.flushed⟩ := by
  obtain ⟨passed, index, path, -⟩ := exists_path_of_runFrom ended
  have stillSucceeding := succeeding_of_drop succeeding path.turnover.flushes_eq
  obtain ⟨machine, streams⟩ := opened
  rw [close, flush, flush_eq_of_succeeding stillSucceeding]

theorem run_of_succeeding :
    run limit program start = some (.ok counted ⟨opened.machine, opened.streams.flushed⟩) := by
  rw [run, ended, Option.map_some, close_of_succeeding ended succeeding]

/-- Behind the seam a program does the same whether the run before it was closed or not. -/
theorem rel_run_at_seam (next : Program) (nextLimit : Nat) :
    Option.Rel (Corresponds (Attached (Seam start.streams opened.streams.flushed)))
      (run nextLimit next opened)
      (run nextLimit next ⟨opened.machine, opened.streams.flushed⟩) :=
  (simulation_seam succeeding).run (seam_of_runFrom ended) next opened.machine nextLimit

end Seams

theorem inTurn_of_run {program next whole : Program}
    (joined : whole.toList = program.toList ++ next.toList) {start : State}
    (succeeding : ∀ item ∈ start.streams.flushes, item = .succeed) {limit : Nat}
    {result : Outcome} (ended : run limit whole start = some result) :
    InTurn program next start result := by
  obtain ⟨outcome, runEnded, rfl⟩ := run_eq_some_iff.mp ended
  obtain ⟨reached, ⟨firstLimit, firstEnded⟩, follows⟩ :=
    (exists_runFrom_append_iff joined).mp ⟨limit, runEnded⟩
  cases reached with
  | error kind state =>
      obtain rfl := follows
      exact .fails (run_eq_some_iff.mpr ⟨_, firstEnded, rfl⟩)
  | ok counted opened =>
      obtain ⟨nextLimit, nextOutcome, nextEnded, rfl⟩ := follows
      have nextClosed : run nextLimit next opened = some (close nextOutcome) :=
        run_eq_some_iff.mpr ⟨nextOutcome, nextEnded, rfl⟩
      have related := rel_run_at_seam firstEnded succeeding next nextLimit
      rw [nextClosed] at related
      generalize followed :
        run nextLimit next ⟨opened.machine, opened.streams.flushed⟩ = parted at related
      cases related with
      | some atSeam =>
          rw [close_recount]
          exact .goesOn (run_of_succeeding firstEnded succeeding) followed atSeam

theorem exists_run_of_inTurn {program next whole : Program}
    (joined : whole.toList = program.toList ++ next.toList) {start : State}
    (succeeding : ∀ item ∈ start.streams.flushes, item = .succeed) {result : Outcome}
    (inTurn : InTurn program next start result) :
    ∃ limit, run limit whole start = some result := by
  cases inTurn with
  | @fails firstLimit kind final failed =>
      obtain ⟨outcome, ended, closed⟩ := run_eq_some_iff.mp failed
      cases outcome with
      | ok counted opened =>
          -- flushes succeed, so the closing flush is not what has failed
          rw [close_of_succeeding ended succeeding] at closed
          cases closed
      | error cause state =>
          cases closed
          obtain ⟨limit, wholeEnded⟩ :=
            (exists_runFrom_append_iff joined).mpr ⟨_, ⟨firstLimit, ended⟩, rfl⟩
          exact ⟨limit, run_eq_some_iff.mpr ⟨_, wholeEnded, rfl⟩⟩
  | @goesOn firstLimit nextLimit counted middle outcome parted succeeded followed atSeam =>
      obtain ⟨reached, ended, closed⟩ := run_eq_some_iff.mp succeeded
      cases reached with
      | error kind state => cases closed
      | ok counted opened =>
          rw [close_of_succeeding ended succeeding] at closed
          cases closed
          have related := rel_run_at_seam ended succeeding next nextLimit
          rw [followed] at related
          generalize nextClosed : run nextLimit next opened = other at related
          cases related with
          | some otherAtSeam =>
              -- one outcome only corresponds to that of the second run
              obtain rfl := eq_of_corresponds_seam atSeam otherAtSeam
              obtain ⟨opening, nextEnded, rfl⟩ := run_eq_some_iff.mp nextClosed
              obtain ⟨limit, wholeEnded⟩ := (exists_runFrom_append_iff joined).mpr
                ⟨_, ⟨firstLimit, ended⟩, nextLimit, opening, nextEnded, rfl⟩
              exact ⟨limit, run_eq_some_iff.mpr ⟨_, wholeEnded, close_recount counted opening⟩⟩

/-- Running a concatenation is running its parts in turn.  The jump tables of the parts
are joined, the second one moved behind the first; and if flushes succeed, the
concatenation ends where the second program does when it begins where the first one has
led to, or fails where the first one fails. -/
theorem run_append {first second : List Instruction} {program next : Program}
    (built : Program.ofList first = .ok program) (nextBuilt : Program.ofList second = .ok next) :
    ∃ whole, Program.ofList (first ++ second) = .ok whole ∧
      (∀ index < program.size, whole.partner? index = program.partner? index) ∧
      (∀ index, whole.partner? (program.size + index) =
        (next.partner? index).map (program.size + ·)) ∧
      ∀ start, (∀ item ∈ start.streams.flushes, item = .succeed) → ∀ result,
        (∃ limit, run limit whole start = some result) ↔ InTurn program next start result := by
  obtain ⟨whole, wholeBuilt, joined⟩ := Program.exists_ofList_append built nextBuilt
  refine ⟨whole, wholeBuilt, ?_, ?_, ?_⟩
  · intro index inside
    exact Program.partner?_of_append_left joined inside
  · exact Program.partner?_of_append_right joined
  · intro start succeeding result
    constructor
    · rintro ⟨limit, ended⟩
      exact inTurn_of_run joined succeeding ended
    · intro inTurn
      exact exists_run_of_inTurn joined succeeding inTurn

theorem run_append_copying :
    ∃ program next whole,
      Program.ofList [.increment, .loopStart, .decrement, .loopEnd] = .ok program ∧
      Program.ofList [.input, .loopStart, .output, .input, .loopEnd] = .ok next ∧
      Program.ofList ([.increment, .loopStart, .decrement, .loopEnd] ++
        [.input, .loopStart, .output, .input, .loopEnd]) = .ok whole ∧
      whole.partner? 1 = some 3 ∧ whole.partner? 5 = some 8 ∧
      ∃ final,
        run 10 whole ⟨Machine.fresh ⟨1, by decide⟩,
          { Streams.ofBytes [7, 0] with flushes := [.succeed, .succeed] }⟩ =
            some (.ok ⟨9, 2, 1, 0⟩ final) ∧
        InTurn program next ⟨Machine.fresh ⟨1, by decide⟩,
          { Streams.ofBytes [7, 0] with flushes := [.succeed, .succeed] }⟩
            (.ok ⟨9, 2, 1, 0⟩ final) := by
  let program : Program :=
    ⟨#[.increment, .loopStart, .decrement, .loopEnd], #[0, 3, 0, 1], rfl⟩
  let next : Program :=
    ⟨#[.input, .loopStart, .output, .input, .loopEnd], #[0, 4, 0, 0, 1], rfl⟩
  let start : State := ⟨Machine.fresh ⟨1, by decide⟩,
    { Streams.ofBytes [7, 0] with flushes := [.succeed, .succeed] }⟩
  have built : Program.ofList [.increment, .loopStart, .decrement, .loopEnd] = .ok program := rfl
  have nextBuilt :
      Program.ofList [.input, .loopStart, .output, .input, .loopEnd] = .ok next := rfl
  have succeeding : ∀ item ∈ start.streams.flushes, item = .succeed := by decide
  obtain ⟨whole, wholeBuilt, onFirst, onNext, reached⟩ := run_append built nextBuilt
  have wholeEq : whole = ⟨#[.increment, .loopStart, .decrement, .loopEnd, .input, .loopStart,
      .output, .input, .loopEnd], #[0, 3, 0, 1, 0, 8, 0, 0, 5], rfl⟩ :=
    Except.ok.inj (wholeBuilt.symm.trans rfl)
  have ended : ∃ final, run 10 whole start = some (.ok ⟨9, 2, 1, 0⟩ final) := by
    rw [wholeEq]
    exact ⟨_, rfl⟩
  obtain ⟨final, ended⟩ := ended
  exact ⟨program, next, whole, built, nextBuilt, wholeBuilt, onFirst 1 (by decide), onNext 1,
    final, ended, (reached start succeeding _).mp ⟨10, ended⟩⟩

end Execution

end Brainfuck
