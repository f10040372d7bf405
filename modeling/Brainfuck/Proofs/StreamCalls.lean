import Brainfuck.Streams
import Mathlib.Data.List.Basic

/-!
# Calls of streams

What reading, writing and flushing do, said by the scripts alone.  An
interrupted call is made again, so what counts is the first item behind the
interruptions at the front of a script.
-/

namespace Brainfuck

/-! ## Failing calls -/

/-- The failure in which a call for a byte ends.  An interrupted call is made
again, and an unexpected end of input is an end of input like any other. -/
def InputItem.failure? : InputItem → Option FailureKind
  | .byte _ => none
  | .endOfInput => none
  | .failure .unexpectedEof => none
  | .failure .interrupted => none
  | .failure kind => some kind

/-- The failure in which a call that writes a byte ends.  An interrupted call is
made again. -/
def WriteItem.failure? : WriteItem → Option FailureKind
  | .accept => none
  | .refuse => some .writeZero
  | .failure .interrupted => none
  | .failure kind => some kind

def FlushItem.failure? : FlushItem → Option FailureKind
  | .succeed => none
  | .failure kind => some kind

def Event.failure? : Event → Option FailureKind
  | .read item => item.failure?
  | .write _ item => item.failure?
  | .flush item => item.failure?

def InputItem.byte? : InputItem → Option UInt8
  | .byte value => some value
  | _ => none

/-- Repetitions at the front of a list end where another item stands. -/
theorem exists_eq_replicate_append {α : Type} [DecidableEq α] (item : α) (items : List α) :
    ∃ count rest, items = List.replicate count item ++ rest ∧ rest.head? ≠ some item := by
  induction items with
  | nil => exact ⟨0, [], rfl, by simp⟩
  | cons first items ih =>
      by_cases same : first = item
      · obtain ⟨count, rest, rfl, differs⟩ := ih
        exact ⟨count + 1, rest, by simp [same, List.replicate_succ], differs⟩
      · exact ⟨0, first :: items, rfl, by simpa using same⟩

namespace Streams

def recordAll (streams : Streams) (calls : List Event) : Streams :=
  { streams with events := streams.events ++ calls.toArray }

theorem toList_events_recordAll (streams : Streams) (calls : List Event) :
    (streams.recordAll calls).events.toList = streams.events.toList ++ calls := by
  simp [recordAll]

/-- Further calls have been made, and none of them has failed. -/
def QuietTo (before after : Streams) : Prop :=
  ∃ calls : List Event, after.events.toList = before.events.toList ++ calls ∧
    ∀ call ∈ calls, call.failure? = none

theorem QuietTo.refl (streams : Streams) : QuietTo streams streams :=
  ⟨[], by simp, by simp⟩

theorem QuietTo.trans {first second third : Streams} (before : QuietTo first second)
    (after : QuietTo second third) : QuietTo first third := by
  obtain ⟨calls, eventsEq, quiet⟩ := before
  obtain ⟨furtherCalls, furtherEq, furtherQuiet⟩ := after
  refine ⟨calls ++ furtherCalls, by rw [furtherEq, eventsEq, List.append_assoc], ?_⟩
  intro call member
  rcases List.mem_append.mp member with early | late
  · exact quiet call early
  · exact furtherQuiet call late

theorem push_append_toArray {α : Type} (front : Array α) (items : List α) (last : α) :
    (front ++ items.toArray).push last = front ++ (items ++ [last]).toArray := by
  apply Array.ext'
  simp

theorem append_toArray_cons {α : Type} (front : Array α) (item : α) (items : List α) :
    front.push item ++ items.toArray = front ++ (item :: items).toArray := by
  apply Array.ext'
  simp

theorem quietTo_recordAll {streams : Streams} {calls : List Event}
    (quiet : ∀ call ∈ calls, call.failure? = none) : QuietTo streams (streams.recordAll calls) :=
  ⟨calls, toList_events_recordAll streams calls, quiet⟩

theorem quietTo_replicate {event : Event} (quiet : event.failure? = none) (streams : Streams)
    (count : Nat) : QuietTo streams (streams.recordAll (List.replicate count event)) :=
  quietTo_recordAll fun call member => by rw [List.eq_of_mem_replicate member, quiet]

/-- A call that is made again and again until it ends quietly. -/
theorem quietTo_retried {interrupted last : Event} (retried : interrupted.failure? = none)
    (quiet : last.failure? = none) (streams : Streams) (retries : Nat) :
    QuietTo streams (streams.recordAll (List.replicate retries interrupted ++ [last])) := by
  apply quietTo_recordAll
  intro call member
  rcases List.mem_append.mp member with early | late
  · rw [List.eq_of_mem_replicate early, retried]
  · rw [List.mem_singleton.mp late, quiet]

/-! ## Writing -/

/-- The calls for a byte: interruptions and then an item. -/
def writeCalls (value : UInt8) (retries : Nat) (item : WriteItem) : List Event :=
  List.replicate retries (.write value (.failure .interrupted)) ++ [.write value item]

theorem writeThrough_replicate_append (value : UInt8) (events : Array Event) (retries : Nat)
    (script : List WriteItem) :
    writeThrough value events (List.replicate retries (.failure .interrupted) ++ script) =
      writeThrough value
        (events ++ (List.replicate retries (.write value (.failure .interrupted))).toArray)
        script := by
  induction retries generalizing events with
  | zero => simp
  | succ retries ih =>
      rw [List.replicate_succ, List.cons_append, writeThrough, ih, append_toArray_cons,
        List.replicate_succ]

theorem writeThrough_cons_of_failure {item : WriteItem} {kind : FailureKind}
    (failed : item.failure? = some kind) (value : UInt8) (events : Array Event)
    (rest : List WriteItem) :
    writeThrough value events (item :: rest) =
      (.error kind, rest, events.push (.write value item)) := by
  unfold WriteItem.failure? at failed
  split at failed <;> cases failed <;> simp_all [writeThrough]

section Write

variable {value : UInt8} {streams after : Streams} {retries : Nat}

theorem write_of_failure {item : WriteItem} {rest : List WriteItem} {kind : FailureKind}
    (script : streams.writes = List.replicate retries (.failure .interrupted) ++ item :: rest)
    (failed : item.failure? = some kind) :
    write value streams =
      .error kind { streams.recordAll (writeCalls value retries item) with writes := rest } := by
  obtain ⟨input, writes, flushes, output, events⟩ := streams
  obtain rfl := script
  rw [write, writeThrough_replicate_append, writeThrough_cons_of_failure failed,
    push_append_toArray]
  rfl

theorem write_of_accept {rest : List WriteItem}
    (script : streams.writes = List.replicate retries (.failure .interrupted) ++ rest)
    (accepted : rest = [] ∨ rest.head? = some .accept) :
    write value streams =
      .ok () { streams.recordAll (writeCalls value retries .accept) with
        writes := rest.tail
        output := streams.output.push value } := by
  obtain ⟨input, writes, flushes, output, events⟩ := streams
  obtain rfl := script
  rw [write, writeThrough_replicate_append]
  cases rest with
  | nil =>
      rw [writeThrough, push_append_toArray]
      rfl
  | cons item rest =>
      obtain rfl : item = .accept := by simpa using accepted
      rw [writeThrough, push_append_toArray]
      rfl

/-- The first item behind the interruptions decides whether a byte is written. -/
theorem writes_cases (streams : Streams) :
    ∃ retries rest, streams.writes = List.replicate retries (.failure .interrupted) ++ rest ∧
      ((rest = [] ∨ rest.head? = some .accept) ∨
        ∃ item further kind, rest = item :: further ∧ item.failure? = some kind) := by
  obtain ⟨retries, rest, script, decisive⟩ :=
    exists_eq_replicate_append (.failure .interrupted) streams.writes
  refine ⟨retries, rest, script, ?_⟩
  cases rest with
  | nil => exact Or.inl (Or.inl rfl)
  | cons item rest =>
      cases item with
      | accept => exact Or.inl (Or.inr rfl)
      | refuse => exact Or.inr ⟨.refuse, rest, .writeZero, rfl, rfl⟩
      | failure kind =>
          refine Or.inr ⟨.failure kind, rest, kind, rfl, ?_⟩
          cases kind <;> simp_all [WriteItem.failure?]

theorem write_eq_error_iff {kind : FailureKind} :
    write value streams = .error kind after ↔
      ∃ retries item rest,
        streams.writes = List.replicate retries (.failure .interrupted) ++ item :: rest ∧
        item.failure? = some kind ∧
        after = { streams.recordAll (writeCalls value retries item) with writes := rest } := by
  constructor
  · intro refused
    obtain ⟨retries, rest, script, accepted | ⟨item, further, cause, rfl, failed⟩⟩ :=
      streams.writes_cases
    · rw [write_of_accept script accepted] at refused
      cases refused
    · rw [write_of_failure script failed] at refused
      cases refused
      exact ⟨retries, item, further, script, failed, rfl⟩
  · rintro ⟨retries, item, rest, script, failed, rfl⟩
    exact write_of_failure script failed

theorem write_eq_ok_iff :
    write value streams = .ok () after ↔
      ∃ retries rest, streams.writes = List.replicate retries (.failure .interrupted) ++ rest ∧
        (rest = [] ∨ rest.head? = some .accept) ∧
        after = { streams.recordAll (writeCalls value retries .accept) with
          writes := rest.tail
          output := streams.output.push value } := by
  constructor
  · intro written
    obtain ⟨retries, rest, script, accepted | ⟨item, further, cause, rfl, failed⟩⟩ :=
      streams.writes_cases
    · rw [write_of_accept script accepted] at written
      cases written
      exact ⟨retries, rest, script, accepted, rfl⟩
    · rw [write_of_failure script failed] at written
      cases written
  · rintro ⟨retries, rest, script, accepted, rfl⟩
    exact write_of_accept script accepted

/-- A byte that is written is the last one of the output. -/
theorem quietTo_of_write (written : write value streams = .ok () after) :
    QuietTo streams after ∧ after.output = streams.output.push value := by
  obtain ⟨retries, rest, -, -, rfl⟩ := write_eq_ok_iff.mp written
  exact ⟨quietTo_retried rfl rfl streams retries, rfl⟩

end Write

/-! ## Reading -/

def readCalls (retries : Nat) (item : InputItem) : List Event :=
  List.replicate retries (.read (.failure .interrupted)) ++ [.read item]

theorem readFrom_replicate_append (events : Array Event) (retries : Nat)
    (script : List InputItem) :
    readFrom events (List.replicate retries (.failure .interrupted) ++ script) =
      readFrom (events ++ (List.replicate retries (.read (.failure .interrupted))).toArray)
        script := by
  induction retries generalizing events with
  | zero => simp
  | succ retries ih =>
      rw [List.replicate_succ, List.cons_append, readFrom, ih, append_toArray_cons,
        List.replicate_succ]

theorem readFrom_cons_of_failure {item : InputItem} {kind : FailureKind}
    (failed : item.failure? = some kind) (events : Array Event) (rest : List InputItem) :
    readFrom events (item :: rest) = (.error kind, rest, events.push (.read item)) := by
  unfold InputItem.failure? at failed
  split at failed
  all_goals cases failed
  simp_all [readFrom]

theorem readFrom_cons_of_quiet {item : InputItem} (quiet : item.failure? = none)
    (decisive : item ≠ .failure .interrupted) (events : Array Event) (rest : List InputItem) :
    readFrom events (item :: rest) = (.ok item.byte?, rest, events.push (.read item)) := by
  unfold InputItem.failure? at quiet
  split at quiet <;> simp_all [readFrom, InputItem.byte?]

section Read

variable {streams after : Streams} {retries : Nat}

theorem read_of_failure {item : InputItem} {rest : List InputItem} {kind : FailureKind}
    (script : streams.input = List.replicate retries (.failure .interrupted) ++ item :: rest)
    (failed : item.failure? = some kind) :
    read streams =
      .error kind { streams.recordAll (readCalls retries item) with input := rest } := by
  obtain ⟨input, writes, flushes, output, events⟩ := streams
  obtain rfl := script
  rw [read, readFrom_replicate_append, readFrom_cons_of_failure failed, push_append_toArray]
  rfl

/-- Behind the end of its script, input is at its end. -/
theorem read_of_quiet {rest : List InputItem}
    (script : streams.input = List.replicate retries (.failure .interrupted) ++ rest)
    (decisive : rest.head? ≠ some (.failure .interrupted))
    (quiet : (rest.headD .endOfInput).failure? = none) :
    read streams =
      .ok (rest.headD .endOfInput).byte?
        { streams.recordAll (readCalls retries (rest.headD .endOfInput)) with
          input := rest.tail } := by
  obtain ⟨input, writes, flushes, output, events⟩ := streams
  obtain rfl := script
  rw [read, readFrom_replicate_append]
  cases rest with
  | nil =>
      rw [readFrom, push_append_toArray]
      rfl
  | cons item rest =>
      have itemQuiet : item.failure? = none := quiet
      have itemDecisive : item ≠ .failure .interrupted := by simpa using decisive
      rw [readFrom_cons_of_quiet itemQuiet itemDecisive, push_append_toArray]
      rfl

theorem input_cases (streams : Streams) :
    ∃ retries rest, streams.input = List.replicate retries (.failure .interrupted) ++ rest ∧
      ((rest.head? ≠ some (.failure .interrupted) ∧
          (rest.headD .endOfInput).failure? = none) ∨
        ∃ item further kind, rest = item :: further ∧ item.failure? = some kind) := by
  obtain ⟨retries, rest, script, decisive⟩ :=
    exists_eq_replicate_append (.failure .interrupted) streams.input
  refine ⟨retries, rest, script, ?_⟩
  cases rest with
  | nil => exact Or.inl ⟨decisive, rfl⟩
  | cons item rest =>
      cases failed : item.failure? with
      | none => exact Or.inl ⟨decisive, failed⟩
      | some kind => exact Or.inr ⟨item, rest, kind, rfl, failed⟩

theorem read_eq_error_iff {kind : FailureKind} :
    read streams = .error kind after ↔
      ∃ retries item rest,
        streams.input = List.replicate retries (.failure .interrupted) ++ item :: rest ∧
        item.failure? = some kind ∧
        after = { streams.recordAll (readCalls retries item) with input := rest } := by
  constructor
  · intro refused
    obtain ⟨retries, rest, script, ⟨decisive, quiet⟩ | ⟨item, further, cause, rfl, failed⟩⟩ :=
      streams.input_cases
    · rw [read_of_quiet script decisive quiet] at refused
      cases refused
    · rw [read_of_failure script failed] at refused
      cases refused
      exact ⟨retries, item, further, script, failed, rfl⟩
  · rintro ⟨retries, item, rest, script, failed, rfl⟩
    exact read_of_failure script failed

theorem read_eq_ok_iff {value : Option UInt8} :
    read streams = .ok value after ↔
      ∃ retries rest, streams.input = List.replicate retries (.failure .interrupted) ++ rest ∧
        rest.head? ≠ some (.failure .interrupted) ∧
        (rest.headD .endOfInput).failure? = none ∧
        value = (rest.headD .endOfInput).byte? ∧
        after = { streams.recordAll (readCalls retries (rest.headD .endOfInput)) with
          input := rest.tail } := by
  constructor
  · intro found
    obtain ⟨retries, rest, script, ⟨decisive, quiet⟩ | ⟨item, further, cause, rfl, failed⟩⟩ :=
      streams.input_cases
    · rw [read_of_quiet script decisive quiet] at found
      cases found
      exact ⟨retries, rest, script, decisive, quiet, rfl, rfl⟩
    · rw [read_of_failure script failed] at found
      cases found
  · rintro ⟨retries, rest, script, decisive, quiet, rfl, rfl⟩
    exact read_of_quiet script decisive quiet

theorem quietTo_of_read {value : Option UInt8} (found : read streams = .ok value after) :
    QuietTo streams after ∧ after.output = streams.output := by
  obtain ⟨retries, rest, -, -, quiet, -, rfl⟩ := read_eq_ok_iff.mp found
  have callQuiet : (Event.read (rest.headD .endOfInput)).failure? = none := quiet
  exact ⟨quietTo_retried rfl callQuiet streams retries, rfl⟩

end Read

/-! ## Flushing -/

def flushed (streams : Streams) : Streams :=
  { streams.recordAll [.flush .succeed] with flushes := streams.flushes.tail }

section Flush

variable {streams after : Streams}

theorem flush_eq_error_iff {kind : FailureKind} :
    flush streams = .error kind after ↔
      ∃ rest, streams.flushes = .failure kind :: rest ∧
        after = { streams.recordAll [.flush (.failure kind)] with flushes := rest } := by
  obtain ⟨input, writes, flushes, output, events⟩ := streams
  cases flushes with
  | nil => simp [flush]
  | cons item rest =>
      cases item with
      | succeed => simp [flush]
      | failure cause =>
          simp only [flush, recordAll, EStateM.Result.error.injEq, List.cons.injEq,
            FlushItem.failure.injEq, Array.append_singleton]
          constructor
          · rintro ⟨rfl, rfl⟩
            exact ⟨rest, ⟨rfl, rfl⟩, rfl⟩
          · rintro ⟨_, ⟨rfl, rfl⟩, rfl⟩
            exact ⟨rfl, rfl⟩

theorem flush_eq_ok_iff :
    flush streams = .ok () after ↔
      (∀ kind, streams.flushes.head? ≠ some (.failure kind)) ∧ after = streams.flushed := by
  obtain ⟨input, writes, flushes, output, events⟩ := streams
  cases flushes with
  | nil => simp [flush, flushed, recordAll, eq_comm]
  | cons item rest => cases item <;> simp [flush, flushed, recordAll, eq_comm]

/-- Streams whose flushes have the same script flush alike. -/
theorem flush_alike {first second : Streams} (same : second.flushes = first.flushes) :
    (flush first = .ok () first.flushed ∧ flush second = .ok () second.flushed) ∨
      ∃ kind rest,
        flush first =
          .error kind { first.recordAll [.flush (.failure kind)] with flushes := rest } ∧
        flush second =
          .error kind { second.recordAll [.flush (.failure kind)] with flushes := rest } := by
  cases flushed : flush first with
  | ok _ after =>
      obtain ⟨succeeds, rfl⟩ := flush_eq_ok_iff.mp flushed
      rw [← same] at succeeds
      exact Or.inl ⟨rfl, flush_eq_ok_iff.mpr ⟨succeeds, rfl⟩⟩
  | error kind after =>
      obtain ⟨rest, script, rfl⟩ := flush_eq_error_iff.mp flushed
      exact Or.inr ⟨kind, rest, rfl, flush_eq_error_iff.mpr ⟨rest, same.trans script, rfl⟩⟩

theorem quietTo_of_flush (succeeds : flush streams = .ok () after) :
    QuietTo streams after ∧ after.output = streams.output := by
  obtain ⟨-, rfl⟩ := flush_eq_ok_iff.mp succeeds
  exact ⟨quietTo_replicate rfl streams 1, rfl⟩

end Flush

end Streams

end Brainfuck
