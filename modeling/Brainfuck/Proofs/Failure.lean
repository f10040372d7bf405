import Brainfuck.Proofs.Path
import Brainfuck.Proofs.Perform

/-!
# Failing runs

A run fails at the first call of a stream that fails, with the failure of that
call.  The machine is then as the completed instructions left it, and their
bytes are all that has been written.
-/

namespace Brainfuck

namespace Execution

/-- The action due at a moment fails on a call of a stream: the kind of the
failure, and the state in which it leaves the run.  The machine is untouched. -/
inductive Fails (program : Program) : Moment → FailureKind → State → Prop
  /-- The byte of a `.` is refused, after interruptions that are retried. -/
  | write {index : Nat} {statistics : Statistics} {machine : Machine} {streams : Streams}
      {retries : Nat} {item : WriteItem} {rest : List WriteItem} {kind : FailureKind}
      (found : program.toList[index]? = some .output)
      (script : streams.writes = List.replicate retries (.failure .interrupted) ++ item :: rest)
      (failed : item.failure? = some kind) :
      Fails program ⟨index, statistics, machine, streams⟩ kind
        ⟨machine, { streams.recordAll (Streams.writeCalls machine.current retries item) with
          writes := rest }⟩
  /-- The flush of a `,` fails.  No input has been used. -/
  | flush {index : Nat} {statistics : Statistics} {machine : Machine} {streams : Streams}
      {rest : List FlushItem} {kind : FailureKind}
      (found : program.toList[index]? = some .input)
      (script : streams.flushes = .failure kind :: rest) :
      Fails program ⟨index, statistics, machine, streams⟩ kind
        ⟨machine, { streams.recordAll [.flush (.failure kind)] with flushes := rest }⟩
  /-- The flush of a `,` succeeds and its read fails, after interruptions. -/
  | read {index : Nat} {statistics : Statistics} {machine : Machine} {streams : Streams}
      {retries : Nat} {item : InputItem} {rest : List InputItem} {kind : FailureKind}
      (found : program.toList[index]? = some .input)
      (succeeds : ∀ cause, streams.flushes.head? ≠ some (.failure cause))
      (script : streams.input = List.replicate retries (.failure .interrupted) ++ item :: rest)
      (failed : item.failure? = some kind) :
      Fails program ⟨index, statistics, machine, streams⟩ kind
        ⟨machine, { streams.flushed.recordAll (Streams.readCalls retries item) with
          input := rest }⟩
  /-- There is no instruction left, and the flush that closes the run fails. -/
  | close {statistics : Statistics} {machine : Machine} {streams : Streams}
      {rest : List FlushItem} {kind : FailureKind}
      (script : streams.flushes = .failure kind :: rest) :
      Fails program ⟨program.size, statistics, machine, streams⟩ kind
        ⟨machine, { streams.recordAll [.flush (.failure kind)] with flushes := rest }⟩

namespace Fails

variable {program : Program} {moment : Moment} {kind : FailureKind} {final : State}

theorem machine_eq (fails : Fails program moment kind final) :
    final.machine = moment.state.machine := by
  cases fails <;> rfl

theorem output_eq (fails : Fails program moment kind final) :
    final.streams.output = moment.state.streams.output := by
  cases fails <;> rfl

/-- Of the calls of a failing action only the last one fails. -/
theorem exists_last_call (fails : Fails program moment kind final) :
    ∃ (before : Streams) (call : Event), moment.state.streams.QuietTo before ∧
      final.streams.events.toList = before.events.toList ++ [call] ∧ call.failure? = some kind := by
  cases fails with
  | @write index statistics machine streams retries item rest kind found script failed =>
      let interrupted := List.replicate retries
        (Event.write machine.current (.failure .interrupted))
      refine ⟨streams.recordAll interrupted, .write machine.current item,
        Streams.quietTo_replicate rfl streams retries, ?_, failed⟩
      simp [Streams.recordAll, Streams.writeCalls, interrupted]
  | @flush index statistics machine streams rest kind found script =>
      exact ⟨streams, .flush (.failure kind), Streams.QuietTo.refl streams,
        by simp [Streams.recordAll], rfl⟩
  | @read index statistics machine streams retries item rest kind found succeeds script failed =>
      let interrupted := List.replicate retries (Event.read (.failure .interrupted))
      have flushQuiet : streams.QuietTo streams.flushed :=
        (Streams.quietTo_of_flush (Streams.flush_eq_ok_iff.mpr ⟨succeeds, rfl⟩)).1
      refine ⟨streams.flushed.recordAll interrupted, .read item,
        flushQuiet.trans (Streams.quietTo_replicate rfl streams.flushed retries), ?_, failed⟩
      simp [Streams.recordAll, Streams.readCalls, interrupted]
  | @close statistics machine streams rest kind script =>
      exact ⟨streams, .flush (.failure kind), Streams.QuietTo.refl streams,
        by simp [Streams.recordAll], rfl⟩

end Fails

/-- An instruction fails exactly if a call of a stream does. -/
theorem perform_eq_error_iff_fails {program : Program} {index : Nat} {statistics : Statistics}
    {state final : State} {instruction : Instruction} {kind : FailureKind}
    (found : program.toList[index]? = some instruction) :
    perform instruction state = .error kind final ↔
      Fails program ⟨index, statistics, state⟩ kind final := by
  obtain ⟨machine, streams⟩ := state
  constructor
  · intro failed
    by_cases isOutput : instruction = .output
    · obtain rfl := isOutput
      rw [perform_output] at failed
      cases written : Streams.write machine.current streams with
      | ok _ after =>
          rw [written] at failed
          cases failed
      | error cause after =>
          rw [written] at failed
          cases failed
          obtain ⟨retries, item, rest, script, refused, rfl⟩ :=
            Streams.write_eq_error_iff.mp written
          exact .write found script refused
    by_cases isInput : instruction = .input
    · obtain rfl := isInput
      rw [perform_input] at failed
      cases flushed : Streams.flush streams with
      | error cause after =>
          rw [flushed] at failed
          cases failed
          obtain ⟨rest, script, rfl⟩ := Streams.flush_eq_error_iff.mp flushed
          exact .flush found script
      | ok _ ready =>
          obtain ⟨succeeds, rfl⟩ := Streams.flush_eq_ok_iff.mp flushed
          simp only [flushed] at failed
          split at failed
          · cases failed
          · cases failed
          · next cause after refused =>
              cases failed
              obtain ⟨retries, item, rest, script, itemFailed, rfl⟩ :=
                Streams.read_eq_error_iff.mp refused
              exact .read found succeeds script itemFailed
    · obtain ⟨change, -, changed⟩ := exists_perform_eq_onMachine isOutput isInput
      rw [changed] at failed
      cases failed
  · intro fails
    cases fails with
    | write isOutput script failed =>
        obtain rfl := Option.some.inj (found.symm.trans isOutput)
        rw [perform_output, Streams.write_of_failure script failed]
    | flush isInput script =>
        obtain rfl := Option.some.inj (found.symm.trans isInput)
        rw [perform_input, Streams.flush_eq_error_iff.mpr ⟨_, script, rfl⟩]
    | read isInput succeeds script failed =>
        obtain rfl := Option.some.inj (found.symm.trans isInput)
        have refused : Streams.read streams.flushed = .error kind _ :=
          Streams.read_of_failure script failed
        simp only [perform_input, Streams.flush_eq_ok_iff.mpr ⟨succeeds, rfl⟩, refused]
    | close script => exact absurd (Program.lt_size_of_getElem? found) (Nat.lt_irrefl _)

theorem flush_eq_error_iff_fails {program : Program} {statistics : Statistics}
    {state final : State} {kind : FailureKind} :
    flush state = .error kind final ↔
      Fails program ⟨program.size, statistics, state⟩ kind final := by
  obtain ⟨machine, streams⟩ := state
  constructor
  · intro failed
    rw [flush] at failed
    cases flushed : Streams.flush streams with
    | ok _ after =>
        rw [flushed] at failed
        cases failed
    | error cause after =>
        rw [flushed] at failed
        cases failed
        obtain ⟨rest, script, rfl⟩ := Streams.flush_eq_error_iff.mp flushed
        exact .close script
  · intro fails
    have outside : ∀ {instruction}, program.toList[program.size]? ≠ some instruction :=
      fun found => absurd (Program.lt_size_of_getElem? found) (Nat.lt_irrefl _)
    cases fails with
    | write found | flush found | read found => exact absurd found outside
    | close script => rw [flush, Streams.flush_eq_error_iff.mpr ⟨_, script, rfl⟩]

theorem fails_iff {program : Program} {moment : Moment} (inside : moment.index ≤ program.size)
    {kind : FailureKind} {final : State} :
    Fails program moment kind final ↔
      ∃ outcome, (step program moment).outcome? = some outcome ∧
        close outcome = .error kind final := by
  have view := stepView program moment
  generalize step program moment = next at view ⊢
  cases view with
  | @ends index statistics state atEnd =>
      obtain rfl : index = program.size := Nat.le_antisymm inside atEnd
      rw [← flush_eq_error_iff_fails]
      simp only [Step.outcome?, Option.some.injEq, exists_eq_left', close]
      cases flush state <;> simp
  | @jumps index partner statistics state instruction found jumps paired =>
      rw [← perform_eq_error_iff_fails found]
      cases instruction <;> simp_all [Step.outcome?, perform, Instruction.jumps, pure, EStateM.pure]
  | @performs index statistics state next instruction transfer found stays performed =>
      rw [← perform_eq_error_iff_fails found, performed]
      simp [Step.outcome?]
  | @fails index statistics state next instruction cause found stays failed =>
      rw [← perform_eq_error_iff_fails found, failed]
      simp [Step.outcome?, close]

/-- The flush that closes a run leaves the rest of its state alone. -/
theorem eq_of_close {statistics counted : Statistics} {state final : State}
    (closed : close (.ok statistics state) = .ok counted final) :
    counted = statistics ∧ final = ⟨state.machine, state.streams.flushed⟩ := by
  obtain ⟨machine, streams⟩ := state
  rw [close, flush] at closed
  cases flushed : Streams.flush streams with
  | error kind after =>
      rw [flushed] at closed
      cases closed
  | ok _ after =>
      rw [flushed] at closed
      cases closed
      exact ⟨rfl, congrArg (State.mk machine) (Streams.flush_eq_ok_iff.mp flushed).2⟩

theorem quietTo_of_close {statistics counted : Statistics} {state final : State}
    (closed : close (.ok statistics state) = .ok counted final) :
    state.streams.QuietTo final.streams := by
  obtain ⟨-, rfl⟩ := eq_of_close closed
  exact Streams.quietTo_replicate rfl state.streams 1

theorem machine_eq_of_close {statistics counted : Statistics} {state final : State}
    (closed : close (.ok statistics state) = .ok counted final) :
    final.machine = state.machine := by
  obtain ⟨-, rfl⟩ := eq_of_close closed
  rfl

/-! ## Effects of paths -/

/-- The byte that is written at a moment, if the action does not fail. -/
def written? (program : Program) (moment : Moment) : Option UInt8 :=
  program.toList[moment.index]?.bind fun instruction =>
    instruction.written? moment.state.machine

theorem completed_of_running {program : Program} {moment next : Moment}
    (running : step program moment = .running next) :
    ∃ instruction, program.toList[moment.index]? = some instruction ∧
      Completed instruction moment.state next.state := by
  obtain ⟨instruction, transfer, found, performed, -⟩ := exists_performed_of_running running
  exact ⟨instruction, found, completed_of_perform performed⟩

namespace Path

variable {program : Program} {start final : Moment} {passed : List Moment}

theorem length_eq (path : Path program start passed final) :
    final.state.machine.tape.length = start.state.machine.tape.length := by
  induction path with
  | here moment => rfl
  | step running further ih =>
      obtain ⟨instruction, found, completed⟩ := completed_of_running running
      exact ih.trans completed.length_eq

theorem quietTo (path : Path program start passed final) :
    start.state.streams.QuietTo final.state.streams := by
  induction path with
  | here moment => exact Streams.QuietTo.refl _
  | step running further ih =>
      obtain ⟨instruction, found, completed⟩ := completed_of_running running
      exact completed.quiet.trans ih

/-- The output is what the moments on the way have written. -/
theorem output_eq (path : Path program start passed final) :
    final.state.streams.output.toList =
      start.state.streams.output.toList ++ passed.filterMap (written? program) := by
  induction path with
  | here moment => simp
  | @step moment next final passed running further ih =>
      obtain ⟨instruction, found, completed⟩ := completed_of_running running
      have writtenEq : written? program moment = instruction.written? moment.state.machine := by
        rw [written?, found, Option.bind_some]
      rw [ih, completed.output_eq, ← writtenEq, List.append_assoc]
      cases written : written? program moment <;> simp [written]

end Path

theorem exists_run_eq_error_iff {program : Program} {start : State} {kind : FailureKind}
    {final : State} :
    (∃ limit, run limit program start = some (.error kind final)) ↔
      ∃ passed moment, Path program { state := start } passed moment ∧
        Fails program moment kind final := by
  simp only [run_eq_some_iff]
  constructor
  · rintro ⟨limit, outcome, ended, closed⟩
    obtain ⟨passed, moment, path, endsHere⟩ := exists_runFrom_iff_path.mp ⟨limit, ended⟩
    have inside := path.index_le_size (Nat.zero_le _)
    exact ⟨passed, moment, path, (fails_iff inside).mpr ⟨outcome, endsHere, closed⟩⟩
  · rintro ⟨passed, moment, path, fails⟩
    have inside := path.index_le_size (Nat.zero_le _)
    obtain ⟨outcome, endsHere, closed⟩ := (fails_iff inside).mp fails
    obtain ⟨limit, ended⟩ := exists_runFrom_iff_path.mpr ⟨passed, moment, path, endsHere⟩
    exact ⟨limit, outcome, ended, closed⟩

theorem length_eq_of_run {program : Program} {limit : Nat} {start : State} {result : Outcome}
    (ended : run limit program start = some result) :
    (stateAfter result).machine.tape.length = start.machine.tape.length := by
  cases result with
  | error kind final =>
      obtain ⟨passed, moment, path, fails⟩ := exists_run_eq_error_iff.mp ⟨limit, ended⟩
      rw [stateAfter, fails.machine_eq]
      exact path.length_eq
  | ok statistics final =>
      obtain ⟨outcome, runEnded, closed⟩ := run_eq_some_iff.mp ended
      cases outcome with
      | ok counted opened =>
          obtain ⟨passed, index, path, -⟩ := exists_path_of_runFrom runEnded
          rw [stateAfter, machine_eq_of_close closed]
          exact path.length_eq
      | error kind opened => cases closed

/-- A run that fails has stopped at the first call of a stream that failed: the
machine is as the completed instructions left it, their bytes have been written,
and the call is one of the action due next.  Conversely, where the due action
fails, the run ends with the failure and no other instruction is begun.  Every
other call on the way has succeeded or was one to be made again. -/
theorem run_stops_at_first_failure (program : Program) (start : State) :
    (∀ limit kind final, run limit program start = some (.error kind final) →
      ∃ passed moment, Path program { state := start } passed moment ∧
        Fails program moment kind final ∧
        final.machine = moment.state.machine ∧
        final.streams.output.toList =
          start.streams.output.toList ++ passed.filterMap (written? program) ∧
        ∃ before call, start.streams.QuietTo before ∧
          final.streams.events.toList = before.events.toList ++ [call] ∧
          call.failure? = some kind) ∧
    (∀ passed moment kind final, Path program { state := start } passed moment →
      Fails program moment kind final →
        (∃ limit, run limit program start = some (.error kind final)) ∧
        (∀ limit result, run limit program start = some result → result = .error kind final) ∧
        ∀ otherPassed other, Path program { state := start } otherPassed other →
          otherPassed <+: passed) ∧
    (∀ passed moment, Path program { state := start } passed moment →
      start.streams.QuietTo moment.state.streams) ∧
    ∀ limit statistics final, run limit program start = some (.ok statistics final) →
      start.streams.QuietTo final.streams := by
  refine ⟨?_, ?_, fun passed moment path => path.quietTo, ?_⟩
  · intro limit kind final failed
    obtain ⟨passed, moment, path, fails⟩ := exists_run_eq_error_iff.mp ⟨limit, failed⟩
    obtain ⟨before, call, quiet, eventsEq, callFailed⟩ := fails.exists_last_call
    refine ⟨passed, moment, path, fails, fails.machine_eq, ?_, before, call,
      path.quietTo.trans quiet, eventsEq, callFailed⟩
    rw [fails.output_eq, path.output_eq]
  · intro passed moment kind final path fails
    obtain ⟨limit, failed⟩ := exists_run_eq_error_iff.mpr ⟨passed, moment, path, fails⟩
    refine ⟨⟨limit, failed⟩, ?_, ?_⟩
    · intro otherLimit result ended
      exact eq_of_run ended failed
    · intro otherPassed other otherPath
      have inside := path.index_le_size (Nat.zero_le _)
      obtain ⟨outcome, endsHere, -⟩ := (fails_iff inside).mp fails
      obtain ⟨rest, rfl, -⟩ := path.exists_further (ne_running_of_outcome? endsHere) otherPath
      exact List.prefix_append otherPassed rest
  · intro limit statistics final succeeded
    obtain ⟨outcome, ended, closed⟩ := run_eq_some_iff.mp succeeded
    cases outcome with
    | ok counted opened =>
        obtain ⟨passed, index, path, -⟩ := exists_path_of_runFrom ended
        exact path.quietTo.trans (quietTo_of_close closed)
    | error kind opened => cases closed

theorem run_stops_at_first_failure_refused :
    ∃ program, Program.ofList [.increment, .output, .output, .increment] = .ok program ∧
      ∃ final passed moment,
        run 4 program
            ⟨Machine.fresh ⟨1, by decide⟩,
              { writes := [.failure .interrupted, .accept, .refuse] }⟩ =
          some (.error .writeZero final) ∧
        Path program
          { state := ⟨Machine.fresh ⟨1, by decide⟩,
              { writes := [.failure .interrupted, .accept, .refuse] }⟩ } passed moment ∧
        Fails program moment .writeZero final ∧ final.machine = moment.state.machine ∧
        final.streams.output.toList = passed.filterMap (written? program) := by
  let program : Program := ⟨#[.increment, .output, .output, .increment], #[0, 0, 0, 0], rfl⟩
  let start : State :=
    ⟨Machine.fresh ⟨1, by decide⟩, { writes := [.failure .interrupted, .accept, .refuse] }⟩
  have built : Program.ofList [.increment, .output, .output, .increment] = .ok program := rfl
  obtain ⟨stops, -⟩ := run_stops_at_first_failure program start
  have failed : ∃ final, run 4 program start = some (.error .writeZero final) := ⟨_, rfl⟩
  obtain ⟨final, failed⟩ := failed
  obtain ⟨passed, moment, path, fails, machineEq, outputEq, -⟩ := stops 4 .writeZero final failed
  exact ⟨program, built, final, passed, moment, failed, path, fails, machineEq, outputEq⟩

end Execution

end Brainfuck
