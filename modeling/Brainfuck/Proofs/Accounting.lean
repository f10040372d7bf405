import Brainfuck.Proofs.Path
import Brainfuck.Proofs.Perform

/-!
# Accounts of runs

The counters of a run keep account of the calls of its streams: every transfer
that is counted is the outcome of one call, and no other call has that outcome.
What a run counts, apart from its instructions, can therefore be read off the
calls that it has made.
-/

namespace Brainfuck

/-- What the outcome of a call transfers.  Failed calls, calls that are made
again and flushes transfer nothing. -/
def Event.transfer? : Event → Option Transfer
  | .read (.byte _) => some .byteRead
  | .read .endOfInput => some .endOfInput
  | .read (.failure .unexpectedEof) => some .endOfInput
  | .write _ .accept => some .byteWritten
  | _ => none

def Statistics.counter (statistics : Statistics) : Transfer → Nat
  | .nothing => 0
  | .byteRead => statistics.bytesRead
  | .byteWritten => statistics.bytesWritten
  | .endOfInput => statistics.endOfInputReads

theorem Statistics.counter_record (statistics : Statistics) (done counted : Transfer) :
    (statistics.record done).counter counted =
      statistics.counter counted + (({} : Statistics).record done).counter counted := by
  cases done <;> cases counted <;> rfl

/-- The number of calls with an outcome that transfers something. -/
def tally (counted : Transfer) (calls : List Event) : Nat :=
  calls.countP fun call => call.transfer? = some counted

@[simp]
theorem tally_append (counted : Transfer) (calls further : List Event) :
    tally counted (calls ++ further) = tally counted calls + tally counted further :=
  List.countP_append

theorem tally_replicate {call : Event} (idle : call.transfer? = none) (counted : Transfer)
    (count : Nat) : tally counted (List.replicate count call) = 0 := by
  simp [tally, List.countP_replicate, idle]

/-! ## Transfers of calls -/

namespace Streams

/-- The calls made between two moments transfer together what one instruction
is counted for. -/
def Transfers (done : Transfer) (before after : Streams) : Prop :=
  ∀ counted, tally counted after.events.toList =
    tally counted before.events.toList + (({} : Statistics).record done).counter counted

theorem transfers_of_calls {before after : Streams} {calls : List Event} {done : Transfer}
    (eventsEq : after.events.toList = before.events.toList ++ calls)
    (tallied : ∀ counted, tally counted calls = (({} : Statistics).record done).counter counted) :
    Transfers done before after := by
  intro counted
  rw [eventsEq, tally_append, tallied]

theorem Transfers.refl (streams : Streams) : Transfers .nothing streams streams :=
  transfers_of_calls (List.append_nil _).symm fun counted => by cases counted <;> rfl

theorem Transfers.idle_trans {before middle after : Streams} {done : Transfer}
    (early : Transfers .nothing before middle) (late : Transfers done middle after) :
    Transfers done before after := by
  intro counted
  rw [late, early]
  cases counted <;> rfl

variable {streams after : Streams}

theorem transfers_of_write {value : UInt8} (written : write value streams = .ok () after) :
    Transfers .byteWritten streams after := by
  obtain ⟨retries, rest, -, -, rfl⟩ := write_eq_ok_iff.mp written
  refine transfers_of_calls (toList_events_recordAll streams _) fun counted => ?_
  rw [writeCalls, tally_append, tally_replicate rfl]
  cases counted <;> rfl

theorem transfers_of_flush (succeeds : flush streams = .ok () after) :
    Transfers .nothing streams after := by
  obtain ⟨-, rfl⟩ := flush_eq_ok_iff.mp succeeds
  refine transfers_of_calls (toList_events_recordAll streams _) fun counted => ?_
  cases counted <;> rfl

/-- A read that ends quietly has found a byte or the end of the input. -/
theorem transfers_of_read {value : Option UInt8} (found : read streams = .ok value after) :
    Transfers (if value.isSome then .byteRead else .endOfInput) streams after := by
  obtain ⟨retries, rest, -, decisive, quiet, rfl, rfl⟩ := read_eq_ok_iff.mp found
  refine transfers_of_calls (toList_events_recordAll streams _) fun counted => ?_
  rw [readCalls, tally_append, tally_replicate rfl]
  cases rest with
  | nil => cases counted <;> rfl
  | cons item rest =>
      cases item with
      | byte value => cases counted <;> rfl
      | endOfInput => cases counted <;> rfl
      | failure kind =>
          -- an unexpected end of the input is the only failure in which a read ends quietly
          obtain rfl : kind = .unexpectedEof := by cases kind <;> simp_all [InputItem.failure?]
          cases counted <;> rfl

end Streams

namespace Execution

theorem transfers_of_perform {instruction : Instruction} {before after : State}
    {transfer : Transfer} (performed : perform instruction before = .ok transfer after) :
    before.streams.Transfers transfer after.streams := by
  cases performed_of_perform performed with
  | silent isSilent lengthEq => exact Streams.Transfers.refl _
  | wrote written => exact Streams.transfers_of_write written
  | read flushed found =>
      exact (Streams.transfers_of_flush flushed).idle_trans (Streams.transfers_of_read found)
  | kept flushed found =>
      exact (Streams.transfers_of_flush flushed).idle_trans (Streams.transfers_of_read found)

/-! ## Accounts -/

/-- Between two moments the counters have grown by the calls that were made. -/
def Accounted (statistics counted : Statistics) (before after : Streams) : Prop :=
  ∀ transfer, counted.counter transfer + tally transfer before.events.toList =
    statistics.counter transfer + tally transfer after.events.toList

theorem Accounted.refl (statistics : Statistics) (streams : Streams) :
    Accounted statistics statistics streams streams :=
  fun _ => rfl

theorem Accounted.trans {first second third : Statistics} {before middle after : Streams}
    (early : Accounted first second before middle) (late : Accounted second third middle after) :
    Accounted first third before after := by
  intro transfer
  have := early transfer
  have := late transfer
  omega

theorem accounted_of_transfers {done : Transfer} {before after : Streams}
    (transferred : before.Transfers done after) (statistics : Statistics) :
    Accounted statistics (statistics.record done) before after := by
  intro counted
  rw [Statistics.counter_record, transferred]
  omega

theorem accounted_of_running {program : Program} {moment next : Moment}
    (running : step program moment = .running next) :
    Accounted moment.statistics next.statistics moment.state.streams next.state.streams := by
  have view := stepView program moment
  rw [running] at view
  cases view with
  | @jumps index partner statistics state instruction found jumps paired =>
      exact accounted_of_transfers (Streams.Transfers.refl _) _
  | @performs index statistics state next instruction transfer found stays performed =>
      exact accounted_of_transfers (transfers_of_perform performed) _

theorem Path.accounted {program : Program} {start final : Moment} {passed : List Moment}
    (path : Path program start passed final) :
    Accounted start.statistics final.statistics start.state.streams final.state.streams := by
  induction path with
  | here moment => exact Accounted.refl _ _
  | step running further ih => exact (accounted_of_running running).trans ih

/-- What a run counts, apart from its instructions, is what its calls transfer. -/
theorem accounted_of_runFrom {program : Program} {limit : Nat} {start : Moment}
    {counted : Statistics} {final : State}
    (ended : runFrom program limit start = some (.ok counted final)) :
    Accounted start.statistics counted start.state.streams final.streams := by
  obtain ⟨passed, index, path, -⟩ := exists_path_of_runFrom ended
  exact path.accounted

end Execution

end Brainfuck
