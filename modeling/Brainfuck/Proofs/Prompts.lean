import Brainfuck.Proofs.Failure

/-!
# Prompts

A program that asks for input may have written a question before.  A run flushes
its output whenever it is about to read, so what it has written is visible by then.
This file says which calls of the streams belong to which instruction of a run, and
derives the law from it: between a call that writes and a later one that reads there
is a successful flush, and behind a failed flush there is nothing.
-/

namespace Brainfuck

def Event.isFlush : Event → Bool
  | .flush _ => true
  | _ => false

/-- A call in a joined list of calls is in one of the two parts. -/
theorem append_eq_append_cons {α : Type} {first rest early late : List α} {item : α}
    (split : first ++ rest = early ++ item :: late) :
    (∃ middle, first = early ++ item :: middle ∧ late = middle ++ rest) ∨
      ∃ middle, early = first ++ middle ∧ rest = middle ++ item :: late := by
  rcases List.append_eq_append_iff.mp split with ⟨middle, earlyEq, restEq⟩ | ⟨behind, firstEq, lateEq⟩
  · exact Or.inr ⟨middle, earlyEq, restEq⟩
  · rcases List.cons_eq_append_iff.mp lateEq with ⟨rfl, restEq⟩ | ⟨middle, rfl, restEq⟩
    · exact Or.inr ⟨[], by simpa using firstEq.symm, restEq⟩
    · exact Or.inl ⟨middle, firstEq, restEq⟩

/-! ## Calls of streams -/

theorem countP_isFlush_map_read (items : List InputItem) :
    (items.map Event.read).countP Event.isFlush = 0 := by
  simp [List.countP_map, Function.comp_def, Event.isFlush]

theorem countP_isFlush_map_write (value : UInt8) (items : List WriteItem) :
    (items.map (Event.write value)).countP Event.isFlush = 0 := by
  simp [List.countP_map, Function.comp_def, Event.isFlush]

namespace Streams

open Execution (stateAfter)

theorem writeCalls_eq_map (value : UInt8) (retries : Nat) (item : WriteItem) :
    writeCalls value retries item =
      (List.replicate retries (WriteItem.failure .interrupted) ++ [item]).map (.write value) := by
  simp [writeCalls]

theorem readCalls_eq_map (retries : Nat) (item : InputItem) :
    readCalls retries item =
      (List.replicate retries (InputItem.failure .interrupted) ++ [item]).map .read := by
  simp [readCalls]

theorem countP_isFlush_writeCalls (value : UInt8) (retries : Nat) (item : WriteItem) :
    (writeCalls value retries item).countP Event.isFlush = 0 := by
  rw [writeCalls_eq_map, countP_isFlush_map_write]

theorem countP_isFlush_readCalls (retries : Nat) (item : InputItem) :
    (readCalls retries item).countP Event.isFlush = 0 := by
  rw [readCalls_eq_map, countP_isFlush_map_read]

theorem exists_events_write (value : UInt8) (streams : Streams) :
    ∃ items : List WriteItem, (stateAfter (write value streams)).events.toList =
      streams.events.toList ++ items.map (.write value) := by
  obtain ⟨retries, rest, script, accepted | ⟨item, further, kind, rfl, failed⟩⟩ :=
    streams.writes_cases
  · rw [write_of_accept script accepted, writeCalls_eq_map]
    exact ⟨_, toList_events_recordAll streams _⟩
  · rw [write_of_failure script failed, writeCalls_eq_map]
    exact ⟨_, toList_events_recordAll streams _⟩

theorem exists_events_read (streams : Streams) :
    ∃ items : List InputItem, items ≠ [] ∧ (stateAfter (read streams)).events.toList =
      streams.events.toList ++ items.map .read := by
  obtain ⟨retries, rest, script, ⟨decisive, quiet⟩ | ⟨item, further, kind, rfl, failed⟩⟩ :=
    streams.input_cases
  · rw [read_of_quiet script decisive quiet, readCalls_eq_map]
    exact ⟨_, List.append_ne_nil_of_right_ne_nil _ (List.cons_ne_nil _ _),
      toList_events_recordAll streams _⟩
  · rw [read_of_failure script failed, readCalls_eq_map]
    exact ⟨_, List.append_ne_nil_of_right_ne_nil _ (List.cons_ne_nil _ _),
      toList_events_recordAll streams _⟩

end Streams

namespace Execution

/-! ## Calls of single actions -/

/-- The calls of an action, which is an instruction or, behind the last one, the
flush that closes a run. -/
inductive Exchange : Option Instruction → List Event → Prop
  | silent {instruction : Instruction} (isSilent : instruction ≠ .output)
      (isDeaf : instruction ≠ .input) : Exchange (some instruction) []
  | writes (value : UInt8) (items : List WriteItem) :
      Exchange (some .output) (items.map (.write value))
  /-- The flush of a `,` fails, and nothing is read. -/
  | refused (kind : FailureKind) : Exchange (some .input) [.flush (.failure kind)]
  /-- The flush of a `,` succeeds, and the calls behind it read. -/
  | reads (items : List InputItem) (called : items ≠ []) :
      Exchange (some .input) (.flush .succeed :: items.map .read)
  | closes (item : FlushItem) : Exchange none [.flush item]

theorem exists_exchange_perform (instruction : Instruction) (state : State) :
    ∃ calls, Exchange (some instruction) calls ∧
      (stateAfter (perform instruction state)).streams.events.toList =
        state.streams.events.toList ++ calls := by
  obtain ⟨machine, streams⟩ := state
  by_cases isOutput : instruction = .output
  · obtain rfl := isOutput
    obtain ⟨items, eventsEq⟩ := Streams.exists_events_write machine.current streams
    refine ⟨_, .writes machine.current items, ?_⟩
    rw [perform_output, ← eventsEq]
    cases Streams.write machine.current streams <;> rfl
  by_cases isInput : instruction = .input
  · obtain rfl := isInput
    rw [perform_input]
    cases flushed : Streams.flush streams with
    | error kind after =>
        obtain ⟨rest, -, rfl⟩ := Streams.flush_eq_error_iff.mp flushed
        exact ⟨_, .refused kind, Streams.toList_events_recordAll streams _⟩
    | ok _ ready =>
        obtain ⟨-, rfl⟩ := Streams.flush_eq_ok_iff.mp flushed
        obtain ⟨items, called, eventsEq⟩ := Streams.exists_events_read streams.flushed
        have flushedEq : streams.flushed.events.toList =
            streams.events.toList ++ [.flush .succeed] :=
          Streams.toList_events_recordAll streams _
        refine ⟨_, .reads items called, ?_⟩
        rw [List.append_cons, ← flushedEq, ← eventsEq]
        simp only
        cases Streams.read streams.flushed with
        | error kind after => rfl
        | ok found after => cases found <;> rfl
  · obtain ⟨change, -, changed⟩ := exists_perform_eq_onMachine isOutput isInput
    rw [changed]
    exact ⟨[], .silent isOutput isInput, (List.append_nil _).symm⟩

theorem exists_flush_close (statistics : Statistics) (state : State) :
    ∃ item : FlushItem, (stateAfter (close (.ok statistics state))).streams.events.toList =
        state.streams.events.toList ++ [.flush item] ∧
      ∀ counted final, close (.ok statistics state) = .ok counted final → item = .succeed := by
  obtain ⟨machine, streams⟩ := state
  rw [close, flush]
  cases flushed : Streams.flush streams with
  | error kind after =>
      obtain ⟨rest, -, rfl⟩ := Streams.flush_eq_error_iff.mp flushed
      exact ⟨.failure kind, Streams.toList_events_recordAll streams _, by simp⟩
  | ok _ after =>
      obtain ⟨-, rfl⟩ := Streams.flush_eq_ok_iff.mp flushed
      exact ⟨.succeed, Streams.toList_events_recordAll streams _, by simp⟩

/-- The state in which the action due at a moment leaves a run. -/
def Step.after : Step → State
  | .finished statistics state => stateAfter (close (.ok statistics state))
  | .running next => next.state
  | .failed _ state => state

/-- The calls that the action due at a moment makes. -/
def made (program : Program) (moment : Moment) : List Event :=
  (step program moment).after.streams.events.toList.drop
    moment.state.streams.events.toList.length

theorem due?_eq_none {program : Program} {moment : Moment}
    (atEnd : program.size ≤ moment.index) : due? program moment = none :=
  List.getElem?_eq_none (by simpa [Program.toList, Program.size] using atEnd)

theorem exists_exchange (program : Program) (moment : Moment) :
    ∃ calls, Exchange (due? program moment) calls ∧
      (step program moment).after.streams.events.toList =
        moment.state.streams.events.toList ++ calls := by
  have view := stepView program moment
  generalize step program moment = taken at view ⊢
  cases view with
  | @ends index statistics state atEnd =>
      obtain ⟨item, eventsEq, -⟩ := exists_flush_close statistics state
      rw [due?_eq_none atEnd]
      exact ⟨[.flush item], .closes item, eventsEq⟩
  | @jumps index partner statistics state instruction found jumps paired =>
      rw [due?, found]
      refine ⟨[], .silent ?_ ?_, (List.append_nil _).symm⟩ <;> rintro rfl <;> cases jumps
  | @performs index statistics state next instruction transfer found stays performed =>
      obtain ⟨calls, exchange, eventsEq⟩ := exists_exchange_perform instruction state
      rw [performed] at eventsEq
      rw [due?, found]
      exact ⟨calls, exchange, eventsEq⟩
  | @fails index statistics state next instruction kind found stays failed =>
      obtain ⟨calls, exchange, eventsEq⟩ := exists_exchange_perform instruction state
      rw [failed] at eventsEq
      rw [due?, found]
      exact ⟨calls, exchange, eventsEq⟩

theorem events_after (program : Program) (moment : Moment) :
    (step program moment).after.streams.events.toList =
      moment.state.streams.events.toList ++ made program moment := by
  obtain ⟨calls, -, eventsEq⟩ := exists_exchange program moment
  rw [made, eventsEq, List.drop_left]

theorem made_eq_of_running {program : Program} {moment next : Moment}
    (running : step program moment = .running next) {calls : List Event}
    (eventsEq : next.state.streams.events.toList =
      moment.state.streams.events.toList ++ calls) : made program moment = calls := by
  have madeEq := events_after program moment
  rw [running, Step.after, eventsEq] at madeEq
  exact (List.append_cancel_left madeEq).symm

theorem exchange_made (program : Program) (moment : Moment) :
    Exchange (due? program moment) (made program moment) := by
  obtain ⟨calls, exchange, eventsEq⟩ := exists_exchange program moment
  rwa [made, eventsEq, List.drop_left]

/-! ## The law -/

/-- Whatever has been written is visible before a byte is awaited, and nothing is
called once that cannot be guaranteed any more. -/
structure ShowsPrompts (calls : List Event) : Prop where
  flush_between : ∀ early value item between found late,
    calls = early ++ .write value item :: (between ++ .read found :: late) →
      .flush .succeed ∈ between
  nothing_behind : ∀ early kind late,
    calls = early ++ .flush (.failure kind) :: late → late = []

/-- A successful flush comes before every call that reads. -/
def FlushesFirst (calls : List Event) : Prop :=
  ∀ early found late, calls = early ++ .read found :: late → .flush .succeed ∈ early

theorem FlushesFirst.append {first rest : List Event} (flushesFirst : FlushesFirst first)
    (flushesRest : FlushesFirst rest) : FlushesFirst (first ++ rest) := by
  intro early found late split
  rcases append_eq_append_cons split with ⟨middle, firstEq, -⟩ | ⟨middle, rfl, restEq⟩
  · exact flushesFirst early found middle firstEq
  · exact List.mem_append_right first (flushesRest middle found late restEq)

/-- Further calls may follow if nothing has failed so far and they flush before they
read. -/
theorem ShowsPrompts.append {first rest : List Event} (shows : ShowsPrompts first)
    (quiet : ∀ kind, .flush (.failure kind) ∉ first) (flushesRest : FlushesFirst rest)
    (showsRest : ShowsPrompts rest) : ShowsPrompts (first ++ rest) where
  flush_between := by
    intro early value item between found late split
    rcases append_eq_append_cons split with ⟨middle, firstEq, behind⟩ | ⟨middle, rfl, restEq⟩
    · -- the write is in the first part; the read may be in either
      rcases append_eq_append_cons behind.symm with ⟨further, middleEq, -⟩ | ⟨further, rfl, restEq⟩
      · exact shows.flush_between early value item between found further (by rw [firstEq, middleEq])
      · exact List.mem_append_right middle (flushesRest further found late restEq)
    · exact showsRest.flush_between middle value item between found late restEq
  nothing_behind := by
    intro early kind late split
    rcases append_eq_append_cons split with ⟨middle, rfl, -⟩ | ⟨middle, rfl, restEq⟩
    · exact absurd (by simp) (quiet kind)
    · exact showsRest.nothing_behind middle kind late restEq

namespace Exchange

variable {due : Option Instruction} {calls : List Event}

theorem flushesFirst (exchange : Exchange due calls) : FlushesFirst calls := by
  intro early found late split
  cases exchange with
  | silent => simp at split
  | writes value items =>
      have member : Event.read found ∈ items.map (.write value) := by simp [split]
      simp at member
  | refused kind =>
      have member : Event.read found ∈ [Event.flush (.failure kind)] := by simp [split]
      simp at member
  | closes item =>
      have member : Event.read found ∈ [Event.flush item] := by simp [split]
      simp at member
  | reads items called =>
      rcases List.cons_eq_append_iff.mp split with ⟨-, readEq⟩ | ⟨further, rfl, -⟩
      · cases readEq
      · exact List.mem_cons_self

/-- No action both writes and reads, and a failed flush is all that an action
calls. -/
theorem showsPrompts (exchange : Exchange due calls) : ShowsPrompts calls where
  flush_between := by
    intro early value item between found late split
    have writes : .write value item ∈ calls := by simp [split]
    have reads : .read found ∈ calls := by simp [split]
    cases exchange <;> simp at writes reads
  nothing_behind := by
    intro early kind late split
    have failed : .flush (.failure kind) ∈ calls := by simp [split]
    cases exchange with
    | silent | writes | reads => simp at failed
    | refused cause | closes item =>
        rcases List.cons_eq_append_iff.mp split with ⟨-, sameEq⟩ | ⟨further, -, restEq⟩
        · exact (List.cons.inj sameEq).2
        · simp at restEq

theorem countP_isFlush {instruction : Instruction} (exchange : Exchange (some instruction) calls) :
    calls.countP Event.isFlush = if instruction = .input then 1 else 0 := by
  cases exchange with
  | silent isSilent isDeaf => simp [isDeaf]
  | writes value items =>
      rw [countP_isFlush_map_write]
      rfl
  | refused kind => rfl
  | reads items called =>
      rw [List.countP_cons, countP_isFlush_map_read]
      rfl

end Exchange

/-! ## Runs -/

def isReading (program : Program) (moment : Moment) : Bool :=
  due? program moment = some .input

theorem exists_due?_of_running {program : Program} {moment next : Moment}
    (running : step program moment = .running next) :
    ∃ instruction, due? program moment = some instruction := by
  obtain ⟨instruction, found, -⟩ := completed_of_running running
  exact ⟨instruction, found⟩

/-- A step that goes on has made no failing call. -/
theorem not_mem_made_of_running {program : Program} {moment next : Moment}
    (running : step program moment = .running next) (kind : FailureKind) :
    .flush (.failure kind) ∉ made program moment := by
  intro failed
  obtain ⟨instruction, -, completed⟩ := completed_of_running running
  obtain ⟨calls, eventsEq, quiet⟩ := completed.quiet
  rw [made_eq_of_running running eventsEq] at failed
  cases quiet _ failed

namespace Path

variable {program : Program} {start final : Moment} {passed : List Moment}

theorem events_eq (path : Path program start passed final) :
    final.state.streams.events.toList =
      start.state.streams.events.toList ++ passed.flatMap (made program) := by
  induction path with
  | here moment => simp
  | @step moment next final passed running further ih =>
      have eventsEq := events_after program moment
      rw [running, Step.after] at eventsEq
      rw [ih, eventsEq, List.flatMap_cons, List.append_assoc]

theorem flushesFirst (path : Path program start passed final) :
    FlushesFirst ((passed ++ [final]).flatMap (made program)) := by
  induction path with
  | here moment => simpa using (exchange_made program moment).flushesFirst
  | @step moment next final passed running further ih =>
      rw [List.cons_append, List.flatMap_cons]
      exact (exchange_made program moment).flushesFirst.append ih

/-- The induction is on the moments that are still to come. -/
theorem showsPrompts (path : Path program start passed final) :
    ShowsPrompts ((passed ++ [final]).flatMap (made program)) := by
  induction path with
  | here moment => simpa using (exchange_made program moment).showsPrompts
  | @step moment next final passed running further ih =>
      rw [List.cons_append, List.flatMap_cons]
      exact (exchange_made program moment).showsPrompts.append (not_mem_made_of_running running)
        further.flushesFirst ih

theorem countP_isFlush (path : Path program start passed final) :
    (passed.flatMap (made program)).countP Event.isFlush = passed.countP (isReading program) := by
  induction path with
  | here moment => rfl
  | @step moment next final passed running further ih =>
      obtain ⟨instruction, found⟩ := exists_due?_of_running running
      have exchange := exchange_made program moment
      rw [found] at exchange
      rw [List.flatMap_cons, List.countP_append, ih, exchange.countP_isFlush, List.countP_cons,
        Nat.add_comm]
      simp [isReading, found]

end Path

theorem after_of_outcome? {taken : Step} {outcome : Outcome}
    (ended : taken.outcome? = some outcome) : taken.after = stateAfter (close outcome) := by
  cases taken <;> cases ended <;> rfl

/-- A run that succeeds has no instruction left and closes with a successful
flush. -/
theorem made_of_close {program : Program} {moment : Moment} {outcome : Outcome}
    (ended : (step program moment).outcome? = some outcome) {statistics : Statistics}
    {state : State} (closed : close outcome = .ok statistics state) :
    due? program moment = none ∧ made program moment = [.flush .succeed] := by
  have view := stepView program moment
  cases stepEq : step program moment with
  | running next =>
      rw [stepEq] at ended
      cases ended
  | failed kind final =>
      rw [stepEq] at ended
      cases ended
      cases closed
  | finished counted final =>
      rw [stepEq] at ended view
      cases ended
      cases view with
      | ends atEnd =>
          obtain ⟨item, eventsEq, succeeds⟩ := exists_flush_close counted final
          obtain rfl := succeeds statistics state closed
          refine ⟨due?_eq_none atEnd, ?_⟩
          rw [made, stepEq, Step.after, eventsEq, List.drop_left]

/-- Prompts are visible before input is awaited.  At every moment of a run, whether
the run ends or not, the action due makes the calls of its instruction and no
others, and all calls up to then obey the law of prompts.  The calls of a run that
ends are those of its actions; one that succeeds closes with a successful flush, and
has flushed once for every `,` and once more. -/
theorem run_shows_prompts (program : Program) (start : State) :
    (∀ passed moment, Path program { state := start } passed moment →
      Exchange (due? program moment) (made program moment) ∧
        moment.state.streams.events.toList =
          start.streams.events.toList ++ passed.flatMap (made program) ∧
        ShowsPrompts ((passed ++ [moment]).flatMap (made program))) ∧
    ∀ limit result, run limit program start = some result →
      ∃ passed final calls, Path program { state := start } passed final ∧
        (step program final).outcome?.map close = some result ∧
        calls = (passed ++ [final]).flatMap (made program) ∧
        (stateAfter result).streams.events.toList = start.streams.events.toList ++ calls ∧
        ShowsPrompts calls ∧
        ∀ statistics state, result = .ok statistics state →
          due? program final = none ∧ calls.getLast? = some (.flush .succeed) ∧
            calls.countP Event.isFlush = passed.countP (isReading program) + 1 := by
  refine ⟨fun passed moment path =>
    ⟨exchange_made program moment, path.events_eq, path.showsPrompts⟩, ?_⟩
  intro limit result ended
  obtain ⟨outcome, runEnded, closed⟩ := run_eq_some_iff.mp ended
  obtain ⟨passed, final, path, endsHere⟩ := exists_runFrom_iff_path.mp ⟨limit, runEnded⟩
  refine ⟨passed, final, _, path, by rw [endsHere, Option.map_some, closed], rfl, ?_,
    path.showsPrompts, ?_⟩
  · rw [← closed, ← after_of_outcome? endsHere, events_after, path.events_eq, List.flatMap_append,
      List.flatMap_singleton, List.append_assoc]
  · rintro statistics state rfl
    obtain ⟨atEnd, madeEq⟩ := made_of_close endsHere closed
    rw [List.flatMap_append, List.flatMap_singleton, madeEq, List.countP_append,
      path.countP_isFlush]
    exact ⟨atEnd, List.getLast?_concat .., rfl⟩

theorem run_shows_prompts_retried :
    ∃ program, Program.ofList [.output, .input] = .ok program ∧
      ∃ statistics final calls,
        run 3 program
            ⟨Machine.fresh ⟨1, by decide⟩,
              { writes := [.failure .interrupted, .accept]
                input := [.failure .interrupted, .byte 7] }⟩ =
          some (.ok statistics final) ∧
        calls =
          [.write 0 (.failure .interrupted), .write 0 .accept, .flush .succeed,
            .read (.failure .interrupted), .read (.byte 7), .flush .succeed] ∧
        final.streams.events.toList = calls ∧ ShowsPrompts calls ∧
        calls.getLast? = some (.flush .succeed) := by
  let program : Program := ⟨#[.output, .input], #[0, 0], rfl⟩
  let start : State :=
    ⟨Machine.fresh ⟨1, by decide⟩,
      { writes := [.failure .interrupted, .accept]
        input := [.failure .interrupted, .byte 7] }⟩
  have built : Program.ofList [.output, .input] = .ok program := rfl
  have succeeded : ∃ statistics final, run 3 program start = some (.ok statistics final) ∧
      final.streams.events.toList =
        [.write 0 (.failure .interrupted), .write 0 .accept, .flush .succeed,
          .read (.failure .interrupted), .read (.byte 7), .flush .succeed] := ⟨_, _, rfl, rfl⟩
  obtain ⟨statistics, final, ended, recorded⟩ := succeeded
  obtain ⟨passed, last, calls, -, -, -, eventsEq, shows, onSuccess⟩ :=
    (run_shows_prompts program start).2 3 _ ended
  obtain ⟨-, closes, -⟩ := onSuccess statistics final rfl
  have callsEq : final.streams.events.toList = calls := eventsEq.trans (List.nil_append calls)
  exact ⟨program, built, statistics, final, calls, ended, callsEq.symm.trans recorded, callsEq,
    shows, closes⟩

end Execution

end Brainfuck
