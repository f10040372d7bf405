import Brainfuck.Proofs.Accounting
import Brainfuck.Proofs.Prompts

/-!
# Balances of runs

The counters of a run that succeeds say how much has gone through its streams: how
many bytes have been written, how many have been taken from the input, and how often
the input was found at its end.  Each `,` of the run takes one of the two and each `.`
writes one byte, so no counter exceeds the number of instructions.
-/

namespace Brainfuck

/-! ## Input used up -/

/-- The item with which a call for a byte ended. -/
def Event.readItem? : Event → Option InputItem
  | .read item => some item
  | _ => none

def InputItem.isByte : InputItem → Bool
  | .byte _ => true
  | _ => false

def InputItem.isEnd : InputItem → Bool
  | .endOfInput => true
  | .failure .unexpectedEof => true
  | _ => false

/-- The calls for bytes use up the items of a script in front of a rest.  Only when
nothing is left may there be more calls, which find the end of the input. -/
def Serves (script items rest : List InputItem) : Prop :=
  ∃ consumed pastEnd, script = consumed ++ rest ∧
    items = consumed ++ List.replicate pastEnd .endOfInput ∧ (pastEnd = 0 ∨ rest = [])

theorem Serves.refl (script : List InputItem) : Serves script [] script :=
  ⟨[], 0, rfl, rfl, Or.inl rfl⟩

theorem Serves.trans {script items rest furtherItems furtherRest : List InputItem}
    (first : Serves script items rest) (further : Serves rest furtherItems furtherRest) :
    Serves script (items ++ furtherItems) furtherRest := by
  obtain ⟨consumed, pastEnd, rfl, rfl, atEnd⟩ := first
  obtain ⟨furtherConsumed, furtherPastEnd, rfl, rfl, furtherAtEnd⟩ := further
  rcases atEnd with rfl | usedUp
  · exact ⟨consumed ++ furtherConsumed, furtherPastEnd, by simp, by simp, furtherAtEnd⟩
  · -- behind the end of the script there is nothing more to consume
    obtain ⟨rfl, rfl⟩ := List.append_eq_nil_iff.mp usedUp
    exact ⟨consumed, pastEnd + furtherPastEnd, by simp, by simp, Or.inr rfl⟩

/-- A counter that only calls for bytes change counts their items. -/
theorem tally_eq_countP {counted : Transfer} (notWritten : counted ≠ .byteWritten)
    {isCounted : InputItem → Bool}
    (counts : ∀ item, (Event.read item).transfer? = some counted ↔ isCounted item = true)
    (calls : List Event) :
    tally counted calls = (calls.filterMap Event.readItem?).countP isCounted := by
  rw [tally, List.countP_filterMap]
  congr 1
  funext call
  cases call with
  | read item => simp [counts, Event.readItem?]
  | write value item =>
      have notCounted : (Event.write value item).transfer? ≠ some counted := by
        cases item with
        | accept => exact fun same => notWritten (Option.some.inj same).symm
        | refuse => exact (Option.some_ne_none counted).symm
        | failure kind => exact (Option.some_ne_none counted).symm
      exact decide_eq_false notCounted
  | flush item =>
      have notCounted : (Event.flush item).transfer? ≠ some counted :=
        (Option.some_ne_none counted).symm
      exact decide_eq_false notCounted

theorem transfer?_read_eq_byteRead_iff (item : InputItem) :
    (Event.read item).transfer? = some .byteRead ↔ item.isByte = true := by
  cases item with
  | byte value => exact iff_of_true rfl rfl
  | endOfInput => decide
  | failure kind => cases kind <;> decide

theorem transfer?_read_eq_endOfInput_iff (item : InputItem) :
    (Event.read item).transfer? = some .endOfInput ↔ item.isEnd = true := by
  cases item with
  | byte value =>
      refine iff_of_false ?_ Bool.false_ne_true
      intro same
      cases same
  | endOfInput => decide
  | failure kind => cases kind <;> decide

theorem filterMap_readItem?_map_read (items : List InputItem) :
    (items.map Event.read).filterMap Event.readItem? = items := by
  simp [List.filterMap_map, Function.comp_def, Event.readItem?]

theorem filterMap_readItem?_map_write (value : UInt8) (items : List WriteItem) :
    (items.map (Event.write value)).filterMap Event.readItem? = [] := by
  simp [List.filterMap_map, Function.comp_def, Event.readItem?]

theorem exists_serves_of_read {streams after : Streams} {value : Option UInt8}
    (found : Streams.read streams = .ok value after) :
    ∃ items, after.events.toList = streams.events.toList ++ items.map .read ∧
      Serves streams.input items after.input ∧
      items.filterMap InputItem.byte? = value.toList ∧ after.flushes = streams.flushes := by
  obtain ⟨retries, rest, script, -, -, rfl, rfl⟩ := Streams.read_eq_ok_iff.mp found
  rw [Streams.readCalls_eq_map, script]
  refine ⟨_, Streams.toList_events_recordAll streams _, ?_, ?_, rfl⟩
  · cases rest with
    | nil => exact ⟨_, 1, rfl, rfl, Or.inr rfl⟩
    | cons item rest => exact ⟨_, 0, List.append_cons .., (List.append_nil _).symm, Or.inl rfl⟩
  · have noByte :
        (List.replicate retries (InputItem.failure .interrupted)).filterMap InputItem.byte? = [] :=
      List.filterMap_replicate_of_none rfl
    rw [List.filterMap_append, noByte, List.nil_append]
    cases byteEq : (rest.headD .endOfInput).byte? with
    | none => rw [List.filterMap_cons_none byteEq, List.filterMap_nil, Option.toList_none]
    | some value => rw [List.filterMap_cons_some byteEq, List.filterMap_nil, Option.toList_some]

namespace Execution

/-- The byte that a `,` due at a moment stores in the current cell. -/
def received? (program : Program) (moment : Moment) : Option UInt8 :=
  match due? program moment with
  | some .input =>
      match perform .input moment.state with
      | .ok .byteRead next => some next.machine.current
      | _ => none
  | _ => none

/-! ## Steps -/

/-- The calls of an instruction that is completed and what it takes from the scripts of
the input and of the flushes. -/
structure Takes (instruction : Instruction) (before after : State) (calls : List Event)
    (transfer : Transfer) : Prop where
  events_eq : after.streams.events.toList = before.streams.events.toList ++ calls
  serves : Serves before.streams.input (calls.filterMap Event.readItem?) after.streams.input
  byte?_eq : (calls.filterMap Event.readItem?).filterMap InputItem.byte? =
    if transfer = .byteRead then [after.machine.current] else []
  flushes_eq : after.streams.flushes = before.streams.flushes.drop (calls.countP Event.isFlush)
  isInput_iff : transfer = .byteRead ∨ transfer = .endOfInput ↔ instruction = .input
  isOutput_iff : transfer = .byteWritten ↔ instruction = .output

theorem perform_input_ne_nothing (before after : State) :
    perform .input before ≠ .ok .nothing after := by
  obtain ⟨machine, streams⟩ := before
  rw [perform_input]
  cases Streams.flush streams with
  | error kind flushed => simp
  | ok _ flushed =>
      simp only
      cases Streams.read flushed with
      | error kind next => simp
      | ok found next => cases found <;> simp

/-- Before it reads, a `,` flushes, which takes nothing from the input. -/
theorem exists_serves_of_input {streams ready after : Streams} {value : Option UInt8}
    (flushed : Streams.flush streams = .ok () ready)
    (found : Streams.read ready = .ok value after) :
    ∃ calls, after.events.toList = streams.events.toList ++ calls ∧
      Serves streams.input (calls.filterMap Event.readItem?) after.input ∧
      (calls.filterMap Event.readItem?).filterMap InputItem.byte? = value.toList ∧
      after.flushes = streams.flushes.drop (calls.countP Event.isFlush) := by
  obtain ⟨-, rfl⟩ := Streams.flush_eq_ok_iff.mp flushed
  obtain ⟨items, eventsEq, serves, bytesEq, flushesEq⟩ := exists_serves_of_read found
  have itemsEq : (Event.flush .succeed :: items.map .read).filterMap Event.readItem? = items :=
    filterMap_readItem?_map_read items
  refine ⟨.flush .succeed :: items.map .read, ?_, by rwa [itemsEq], by rwa [itemsEq], ?_⟩
  · rw [eventsEq, List.append_cons]
    exact congrArg (· ++ items.map .read) (Streams.toList_events_recordAll streams _)
  · rw [flushesEq, List.countP_cons, countP_isFlush_map_read]
    exact List.drop_one.symm

theorem exists_takes_of_perform {instruction : Instruction} {before after : State}
    {transfer : Transfer} (performed : perform instruction before = .ok transfer after) :
    ∃ calls, Takes instruction before after calls transfer := by
  cases performed_of_perform performed with
  | silent isSilent lengthEq =>
      have isDeaf : instruction ≠ .input := by
        rintro rfl
        exact perform_input_ne_nothing _ _ performed
      exact ⟨[], (List.append_nil _).symm, Serves.refl _, rfl, rfl, by simp [isDeaf],
        by simp [isSilent]⟩
  | @wrote machine streams after written =>
      obtain ⟨retries, rest, -, -, rfl⟩ := Streams.write_eq_ok_iff.mp written
      rw [Streams.writeCalls_eq_map]
      refine ⟨_, Streams.toList_events_recordAll streams _, ?_, ?_, ?_, by simp, by simp⟩
      · rw [filterMap_readItem?_map_write]
        exact Serves.refl streams.input
      · rw [filterMap_readItem?_map_write]
        rfl
      · rw [countP_isFlush_map_write]
        rfl
  | read flushed found =>
      obtain ⟨calls, eventsEq, serves, bytesEq, flushesEq⟩ := exists_serves_of_input flushed found
      exact ⟨calls, eventsEq, serves, by simpa using bytesEq, flushesEq, by simp, by simp⟩
  | kept flushed found =>
      obtain ⟨calls, eventsEq, serves, bytesEq, flushesEq⟩ := exists_serves_of_input flushed found
      exact ⟨calls, eventsEq, serves, bytesEq, flushesEq, by simp, by simp⟩

/-! ## Paths -/

/-- What the moments that a run passes through take from the input, and how the
counters grow on the way. -/
structure Turnover (program : Program) (passed : List Moment) (start final : Moment) : Prop where
  serves : Serves start.state.streams.input
    ((passed.flatMap (made program)).filterMap Event.readItem?) final.state.streams.input
  byte?_eq : ((passed.flatMap (made program)).filterMap Event.readItem?).filterMap
    InputItem.byte? = passed.filterMap (received? program)
  flushes_eq : final.state.streams.flushes =
    start.state.streams.flushes.drop ((passed.flatMap (made program)).countP Event.isFlush)
  instructions_eq :
    final.statistics.instructions = start.statistics.instructions + passed.length
  bytesWritten_eq : final.statistics.bytesWritten =
    start.statistics.bytesWritten + (passed.filterMap (written? program)).length
  reads_eq : final.statistics.bytesRead + final.statistics.endOfInputReads =
    start.statistics.bytesRead + start.statistics.endOfInputReads +
      passed.countP (isReading program)

section Turnover

variable {program : Program} {passed further : List Moment} {start middle final moment next : Moment}

theorem Turnover.refl (program : Program) (moment : Moment) : Turnover program [] moment moment :=
  ⟨Serves.refl _, rfl, rfl, rfl, rfl, rfl⟩

theorem Turnover.trans (first : Turnover program passed start middle)
    (rest : Turnover program further middle final) :
    Turnover program (passed ++ further) start final where
  serves := by
    rw [List.flatMap_append, List.filterMap_append]
    exact first.serves.trans rest.serves
  byte?_eq := by
    rw [List.flatMap_append, List.filterMap_append, List.filterMap_append, List.filterMap_append,
      first.byte?_eq, rest.byte?_eq]
  flushes_eq := by
    rw [rest.flushes_eq, first.flushes_eq, List.drop_drop, List.flatMap_append,
      List.countP_append]
  instructions_eq := by
    rw [rest.instructions_eq, first.instructions_eq, List.length_append, Nat.add_assoc]
  bytesWritten_eq := by
    rw [rest.bytesWritten_eq, first.bytesWritten_eq, List.filterMap_append, List.length_append,
      Nat.add_assoc]
  reads_eq := by
    rw [rest.reads_eq, first.reads_eq, List.countP_append, Nat.add_assoc]

theorem toList_received? {instruction : Instruction} {transfer : Transfer} {after : State}
    {calls : List Event} (found : due? program moment = some instruction)
    (performed : perform instruction moment.state = .ok transfer after)
    (takes : Takes instruction moment.state after calls transfer) :
    (received? program moment).toList =
      (calls.filterMap Event.readItem?).filterMap InputItem.byte? := by
  rw [takes.byte?_eq, received?, found]
  by_cases isInput : instruction = .input
  · obtain rfl := isInput
    simp only [performed]
    cases transfer <;> rfl
  · have notRead : transfer ≠ .byteRead :=
      fun isRead => isInput (takes.isInput_iff.mp (Or.inl isRead))
    rw [if_neg notRead]
    cases instruction <;> first | rfl | contradiction

theorem length_written? (instruction : Instruction) (machine : Machine) :
    (instruction.written? machine).toList.length = if instruction = .output then 1 else 0 := by
  cases instruction <;> rfl

namespace Takes

variable {instruction : Instruction} {before after : State} {calls : List Event}
  {transfer : Transfer}

theorem bytesWritten_record (takes : Takes instruction before after calls transfer)
    (statistics : Statistics) :
    (statistics.record transfer).bytesWritten =
      statistics.bytesWritten + if instruction = .output then 1 else 0 := by
  simp only [← takes.isOutput_iff]
  cases transfer <;> rfl

theorem reads_record (takes : Takes instruction before after calls transfer)
    (statistics : Statistics) :
    (statistics.record transfer).bytesRead + (statistics.record transfer).endOfInputReads =
      statistics.bytesRead + statistics.endOfInputReads +
        if instruction = .input then 1 else 0 := by
  simp only [← takes.isInput_iff]
  cases transfer <;> simp [Statistics.record] <;> omega

end Takes

theorem turnover_of_running (running : step program moment = .running next) :
    Turnover program [moment] moment next := by
  obtain ⟨instruction, transfer, found, performed, statisticsEq⟩ :=
    exists_performed_of_running running
  obtain ⟨calls, takes⟩ := exists_takes_of_perform performed
  have madeEq := made_eq_of_running running takes.events_eq
  have writtenEq : written? program moment = instruction.written? moment.state.machine := by
    rw [written?, ← due?, found, Option.bind_some]
  refine ⟨?_, ?_, ?_, ?_, ?_, ?_⟩
  · rw [List.flatMap_singleton, madeEq]
    exact takes.serves
  · rw [List.flatMap_singleton, madeEq, ← toList_received? found performed takes]
    cases received : received? program moment <;> simp [received]
  · rw [List.flatMap_singleton, madeEq]
    exact takes.flushes_eq
  · rw [statisticsEq]
    cases transfer <;> rfl
  · rw [statisticsEq, takes.bytesWritten_record,
      ← length_written? instruction moment.state.machine, ← writtenEq]
    cases written : written? program moment <;> simp [written]
  · rw [statisticsEq, takes.reads_record]
    simp [isReading, found, List.countP_cons]

theorem Path.turnover (path : Path program start passed final) :
    Turnover program passed start final := by
  induction path with
  | here moment => exact Turnover.refl program moment
  | step running further ih => exact (turnover_of_running running).trans ih

end Turnover

theorem countP_add_length_le (program : Program) (passed : List Moment) :
    passed.countP (isReading program) + (passed.filterMap (written? program)).length ≤
      passed.length := by
  induction passed with
  | nil => exact Nat.le_refl 0
  | cons moment passed ih =>
      rw [List.countP_cons, List.length_cons]
      cases written : written? program moment with
      | none =>
          rw [List.filterMap_cons_none written]
          split <;> omega
      | some value =>
          -- no instruction both reads and writes
          have notReading : ¬ isReading program moment = true := by
            intro reading
            rw [written?, ← due?, of_decide_eq_true reading] at written
            cases written
          rw [List.filterMap_cons_some written, if_neg notReading, List.length_cons]
          omega

section Counters

variable {program : Program} {passed : List Moment} {start : State} {final : Moment}
  {consumed : List InputItem} {pastEnd : Nat}

theorem Path.counter_eq (path : Path program { state := start } passed final)
    (transfer : Transfer) :
    final.statistics.counter transfer = tally transfer (passed.flatMap (made program)) := by
  have accounted := path.accounted transfer
  have zero : ({} : Statistics).counter transfer = 0 := by cases transfer <;> rfl
  rw [path.events_eq, tally_append, zero] at accounted
  omega

theorem Path.bytesRead_eq (path : Path program { state := start } passed final)
    (itemsEq : (passed.flatMap (made program)).filterMap Event.readItem? =
      consumed ++ List.replicate pastEnd .endOfInput) :
    final.statistics.bytesRead = consumed.countP InputItem.isByte := by
  have counted := path.counter_eq .byteRead
  rw [tally_eq_countP (by decide) transfer?_read_eq_byteRead_iff, itemsEq, List.countP_append,
    List.countP_replicate] at counted
  exact counted

theorem Path.endOfInputReads_eq (path : Path program { state := start } passed final)
    (itemsEq : (passed.flatMap (made program)).filterMap Event.readItem? =
      consumed ++ List.replicate pastEnd .endOfInput) :
    final.statistics.endOfInputReads = consumed.countP InputItem.isEnd + pastEnd := by
  have counted := path.counter_eq .endOfInput
  rw [tally_eq_countP (by decide) transfer?_read_eq_endOfInput_iff, itemsEq, List.countP_append,
    List.countP_replicate] at counted
  exact counted

theorem Path.received_eq (path : Path program { state := start } passed final)
    (itemsEq : (passed.flatMap (made program)).filterMap Event.readItem? =
      consumed ++ List.replicate pastEnd .endOfInput) :
    passed.filterMap (received? program) = consumed.filterMap InputItem.byte? := by
  have nothing : (List.replicate pastEnd InputItem.endOfInput).filterMap InputItem.byte? = [] :=
    List.filterMap_replicate_of_none rfl
  rw [← path.turnover.byte?_eq, itemsEq, List.filterMap_append, nothing, List.append_nil]

end Counters

/-! ## Runs -/

theorem countP_isByte_map (bytes : List UInt8) :
    (bytes.map InputItem.byte).countP InputItem.isByte = bytes.length := by
  rw [List.countP_map, List.countP_eq_length]
  exact fun _ _ => rfl

theorem countP_isEnd_map (bytes : List UInt8) :
    (bytes.map InputItem.byte).countP InputItem.isEnd = 0 := by
  rw [List.countP_map, List.countP_eq_zero]
  exact fun _ _ => Bool.false_ne_true

theorem filterMap_byte?_map (bytes : List UInt8) :
    (bytes.map InputItem.byte).filterMap InputItem.byte? = bytes := by
  rw [List.filterMap_map]
  exact List.filterMap_some

/-- What the counters of a run say about its streams.  The run passes through moments,
consumes items of the input, and calls for `pastEnd` further bytes behind the end of
the input. -/
structure Balance (program : Program) (start final : State) (statistics : Statistics)
    (passed : List Moment) (consumed : List InputItem) (pastEnd : Nat) : Prop where
  output_eq : final.streams.output.toList =
    start.streams.output.toList ++ passed.filterMap (written? program)
  bytesWritten_eq : statistics.bytesWritten = (passed.filterMap (written? program)).length
  input_eq : start.streams.input = consumed ++ final.streams.input
  usedUp : pastEnd = 0 ∨ final.streams.input = []
  calls_eq : ∃ calls, final.streams.events.toList = start.streams.events.toList ++ calls ∧
    calls.filterMap Event.readItem? = consumed ++ List.replicate pastEnd .endOfInput
  bytesRead_eq : statistics.bytesRead = consumed.countP InputItem.isByte
  /-- Bytes are stored in the order in which they are given. -/
  received_eq : passed.filterMap (received? program) = consumed.filterMap InputItem.byte?
  endOfInputReads_eq : statistics.endOfInputReads = consumed.countP InputItem.isEnd + pastEnd
  reads_eq : statistics.bytesRead + statistics.endOfInputReads =
    passed.countP (isReading program)
  instructions_eq : statistics.instructions = passed.length
  total_le : statistics.bytesRead + statistics.endOfInputReads + statistics.bytesWritten ≤
    statistics.instructions

/-- An input of plain bytes is used up byte by byte. -/
theorem Balance.plain {program : Program} {start final : State} {statistics : Statistics}
    {passed : List Moment} {consumed : List InputItem} {pastEnd : Nat}
    (balance : Balance program start final statistics passed consumed pastEnd)
    {bytes : List UInt8} (plain : start.streams.input = bytes.map .byte) :
    statistics.bytesRead = min bytes.length (passed.countP (isReading program)) ∧
      passed.filterMap (received? program) = bytes.take statistics.bytesRead ∧
      final.streams.input = (bytes.drop statistics.bytesRead).map .byte := by
  obtain ⟨front, behind, rfl, rfl, restEq⟩ :=
    List.map_eq_append_iff.mp (plain.symm.trans balance.input_eq)
  have bytesRead := balance.bytesRead_eq
  have endOfInputReads := balance.endOfInputReads_eq
  have received := balance.received_eq
  have reads := balance.reads_eq
  rw [countP_isByte_map] at bytesRead
  rw [countP_isEnd_map] at endOfInputReads
  rw [filterMap_byte?_map] at received
  rw [received, bytesRead, List.take_left, List.drop_left, List.length_append]
  refine ⟨?_, rfl, restEq.symm⟩
  -- either nothing was left, or the end of the input was never met
  rcases balance.usedUp with rfl | nothingLeft
  · omega
  · have behindEq : behind = [] := List.map_eq_nil_iff.mp (restEq.trans nothingLeft)
    rw [behindEq, List.length_nil]
    omega

theorem Path.exists_balance {program : Program} {passed : List Moment} {start state : State}
    {index : Nat} {statistics : Statistics}
    (path : Path program { state := start } passed ⟨index, statistics, state⟩) :
    ∃ consumed pastEnd, Balance program start ⟨state.machine, state.streams.flushed⟩ statistics
      passed consumed pastEnd := by
  have turnover := path.turnover
  obtain ⟨consumed, pastEnd, inputEq, itemsEq, usedUp⟩ := turnover.serves
  have bytesWritten := turnover.bytesWritten_eq
  have reads := turnover.reads_eq
  have instructions := turnover.instructions_eq
  have bounded := countP_add_length_le program passed
  simp only [Nat.zero_add] at bytesWritten reads instructions
  refine ⟨consumed, pastEnd, path.output_eq, bytesWritten, inputEq, usedUp, ?_,
    path.bytesRead_eq itemsEq, path.received_eq itemsEq, path.endOfInputReads_eq itemsEq, reads,
    instructions, by omega⟩
  refine ⟨passed.flatMap (made program) ++ [.flush .succeed], ?_, ?_⟩
  · rw [← List.append_assoc, ← path.events_eq]
    exact Streams.toList_events_recordAll state.streams _
  · rw [List.filterMap_append, itemsEq]
    exact List.append_nil _

/-- A run that succeeds keeps account of its streams.  The bytes that it has written
are those of its `.` instructions.  From the input it has consumed some items, and has
found it at its end whenever it called for more; the counters say how many bytes were
among these items and how often the input was at its end, and every `,` has met one of
the two. -/
theorem run_balances {program : Program} {limit : Nat} {start final : State}
    {statistics : Statistics} (succeeded : run limit program start = some (.ok statistics final)) :
    ∃ passed last consumed pastEnd,
      Path program { state := start } passed last ∧ due? program last = none ∧
      Balance program start final statistics passed consumed pastEnd ∧
      ∀ bytes : List UInt8, start.streams.input = bytes.map .byte →
        statistics.bytesRead = min bytes.length (passed.countP (isReading program)) ∧
        passed.filterMap (received? program) = bytes.take statistics.bytesRead ∧
        final.streams.input = (bytes.drop statistics.bytesRead).map .byte := by
  obtain ⟨outcome, ended, closed⟩ := run_eq_some_iff.mp succeeded
  cases outcome with
  | error kind opened => cases closed
  | ok counted opened =>
      obtain ⟨rfl, rfl⟩ := eq_of_close closed
      obtain ⟨passed, index, path, atEnd⟩ := exists_path_of_runFrom ended
      obtain ⟨consumed, pastEnd, balance⟩ := path.exists_balance
      exact ⟨passed, _, consumed, pastEnd, path, due?_eq_none atEnd, balance,
        fun bytes plain => balance.plain plain⟩

theorem run_balances_past_end :
    ∃ program, Program.ofList [.input, .output, .input, .input] = .ok program ∧
      ∃ statistics final passed consumed pastEnd,
        run 5 program
            ⟨Machine.fresh ⟨1, by decide⟩,
              { Streams.ofBytes [7, 9] with writes := [.failure .interrupted] }⟩ =
          some (.ok statistics final) ∧
        statistics = ⟨4, 2, 1, 1⟩ ∧
        Balance program
          ⟨Machine.fresh ⟨1, by decide⟩,
            { Streams.ofBytes [7, 9] with writes := [.failure .interrupted] }⟩
          final statistics passed consumed pastEnd ∧
        passed.filterMap (received? program) = [7, 9] ∧ final.streams.input = [] := by
  let program : Program := ⟨#[.input, .output, .input, .input], #[0, 0, 0, 0], rfl⟩
  let start : State := ⟨Machine.fresh ⟨1, by decide⟩,
    { Streams.ofBytes [7, 9] with writes := [.failure .interrupted] }⟩
  have built : Program.ofList [.input, .output, .input, .input] = .ok program := rfl
  have succeeded : ∃ final, run 5 program start = some (.ok ⟨4, 2, 1, 1⟩ final) := ⟨_, rfl⟩
  obtain ⟨final, succeeded⟩ := succeeded
  obtain ⟨passed, last, consumed, pastEnd, -, -, balance, onPlain⟩ := run_balances succeeded
  obtain ⟨-, received, unread⟩ := onPlain [7, 9] rfl
  exact ⟨program, built, _, final, passed, consumed, pastEnd, succeeded, rfl, balance, received,
    unread⟩

end Execution

end Brainfuck
