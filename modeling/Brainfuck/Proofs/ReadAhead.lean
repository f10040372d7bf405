import Brainfuck.Proofs.Balance

/-!
# Reading ahead

A run takes an item from its input only when it calls for a byte, and it learns nothing
about the items behind it.  In front of any other rest, the items that a run has taken make
it do the same and leave that rest alone.

This needs that every call for a byte has got an item.  A call behind the end of the input
does learn something: that nothing is left.
-/

namespace Brainfuck

namespace Serves

variable {script items rest : List InputItem}

/-- Calls that are no more than the items of a script have all got one. -/
theorem eq_append (serves : Serves script items rest) (enough : items.length ≤ script.length) :
    script = items ++ rest := by
  obtain ⟨consumed, pastEnd, rfl, rfl, rfl | rfl⟩ := serves
  · simp
  · simp only [List.length_append, List.length_replicate, List.length_nil] at enough
    obtain rfl : pastEnd = 0 := by omega
    simp

/-- If the calls of two actions in turn have all got an item, so have those of each. -/
theorem split {furtherItems last : List InputItem} (serves : Serves script items rest)
    (further : Serves rest furtherItems last) (served : script = items ++ (furtherItems ++ last)) :
    script = items ++ rest ∧ rest = furtherItems ++ last := by
  obtain ⟨consumed, pastEnd, rfl, rfl, -⟩ := serves
  obtain ⟨furtherConsumed, furtherPastEnd, rfl, rfl, -⟩ := further
  have lengthEq := congrArg List.length served
  simp only [List.length_append, List.length_replicate] at lengthEq
  obtain ⟨rfl, rfl⟩ : pastEnd = 0 ∧ furtherPastEnd = 0 := by omega
  simp

end Serves

theorem InputItem.byte?_eq_none_of_failure? {item : InputItem} {kind : FailureKind}
    (failed : item.failure? = some kind) : item.byte? = none := by
  cases item <;> first | rfl | cases failed

namespace Streams

def withInput (streams : Streams) (input : List InputItem) : Streams :=
  { streams with input := input }

/-- The items with which the calls for bytes have ended that were made since an earlier
moment. -/
def readSince (earlier streams : Streams) : List InputItem :=
  (streams.events.toList.drop earlier.events.toList.length).filterMap Event.readItem?

theorem readSince_eq {earlier streams : Streams} {calls : List Event}
    (eventsEq : streams.events.toList = earlier.events.toList ++ calls) :
    readSince earlier streams = calls.filterMap Event.readItem? := by
  rw [readSince, eventsEq, List.drop_left]

end Streams

namespace Execution

/-! ## Actions -/

def State.withInput (state : State) (input : List InputItem) : State :=
  ⟨state.machine, state.streams.withInput input⟩

def leaving {α : Type} (input : List InputItem) :
    EStateM.Result FailureKind State α → EStateM.Result FailureKind State α
  | .ok value state => .ok value (state.withInput input)
  | .error kind state => .error kind (state.withInput input)

/-- An action has a result, for which it makes calls and takes items from the input. -/
structure Draws {α : Type} (action : EStateM FailureKind State α) (state : State)
    (calls : List Event) (result : EStateM.Result FailureKind State α) : Prop where
  result_eq : action state = result
  events_eq : (stateAfter result).streams.events.toList = state.streams.events.toList ++ calls
  serves : Serves state.streams.input (calls.filterMap Event.readItem?)
    (stateAfter result).streams.input
  /-- If all calls for a byte have got an item, these items are all that matters of the
  input. -/
  elsewhere : state.streams.input =
      calls.filterMap Event.readItem? ++ (stateAfter result).streams.input →
    ∀ rest, action (state.withInput (calls.filterMap Event.readItem? ++ rest)) =
      leaving rest result

/-- An action does not look at items of the input that it does not take. -/
def LooksNoFurther {α : Type} (action : EStateM FailureKind State α) : Prop :=
  ∀ state, ∃ calls result, Draws action state calls result

theorem looksNoFurther_onMachine {α : Type} (value : α) (change : Machine → Machine) :
    LooksNoFurther fun state : State => .ok value (state.onMachine change) :=
  fun state => ⟨[], .ok value (state.onMachine change), rfl, (List.append_nil _).symm,
    Serves.refl _, fun _ _ => rfl⟩

theorem looksNoFurther_pure {α : Type} (value : α) :
    LooksNoFurther (pure value : EStateM FailureKind State α) :=
  looksNoFurther_onMachine value id

theorem LooksNoFurther.bind {α β : Type} {action : EStateM FailureKind State α}
    {further : α → EStateM FailureKind State β} (first : LooksNoFurther action)
    (second : ∀ value, LooksNoFurther (further value)) : LooksNoFurther (action >>= further) := by
  intro state
  obtain ⟨calls, result, draws⟩ := first state
  cases result with
  | error kind after =>
      refine ⟨calls, .error kind after, ?_, draws.events_eq, draws.serves, ?_⟩
      · simp only [Bind.bind, EStateM.bind, draws.result_eq]
      · intro served rest
        simp only [Bind.bind, EStateM.bind, draws.elsewhere served rest, leaving]
  | ok value next =>
      obtain ⟨furtherCalls, furtherResult, furtherDraws⟩ := second value next
      refine ⟨calls ++ furtherCalls, furtherResult, ?_, ?_, ?_, ?_⟩
      · simp only [Bind.bind, EStateM.bind, draws.result_eq, furtherDraws.result_eq]
      · rw [furtherDraws.events_eq, ← List.append_assoc]
        exact congrArg (· ++ furtherCalls) draws.events_eq
      · rw [List.filterMap_append]
        exact draws.serves.trans furtherDraws.serves
      · rw [List.filterMap_append]
        intro served rest
        rw [List.append_assoc] at served ⊢
        obtain ⟨servedFirst, servedSecond⟩ := draws.serves.split furtherDraws.serves served
        -- to the first action the items of the second one are a part of the rest
        have early := draws.elsewhere servedFirst (furtherCalls.filterMap Event.readItem? ++ rest)
        simp only [Bind.bind, EStateM.bind, early, leaving]
        exact furtherDraws.elsewhere servedSecond rest

/-! ## Instructions -/

/-- An action that does not read does the same whatever the input is. -/
theorem looksNoFurther_of_leaving {α : Type} {action : EStateM FailureKind State α}
    (calls : ∀ state, ∃ calls : List Event, calls.filterMap Event.readItem? = [] ∧
      (stateAfter (action state)).streams.events.toList =
        state.streams.events.toList ++ calls)
    (indifferent : ∀ state input, action (state.withInput input) = leaving input (action state)) :
    LooksNoFurther action := by
  intro state
  obtain ⟨calls, noRead, eventsEq⟩ := calls state
  have sameInput : (stateAfter (action state)).streams.input = state.streams.input := by
    have same := indifferent state state.streams.input
    change action state = _ at same
    rw [same]
    cases action state <;> rfl
  refine ⟨calls, action state, rfl, eventsEq, ?_, fun _ rest => ?_⟩
  · rw [noRead, sameInput]
    exact Serves.refl state.streams.input
  · rw [noRead]
    exact indifferent state rest

theorem looksNoFurther_flush : LooksNoFurther flush := by
  apply looksNoFurther_of_leaving
  · rintro ⟨machine, input, writes, flushes, output, events⟩
    cases flushes with
    | nil => exact ⟨[.flush .succeed], rfl, Array.toList_push⟩
    | cons item rest => cases item <;> exact ⟨[.flush _], rfl, Array.toList_push⟩
  · rintro ⟨machine, own, writes, flushes, output, events⟩ input
    cases flushes with
    | nil => rfl
    | cons item rest => cases item <;> rfl

theorem looksNoFurther_writeCell : LooksNoFurther writeCell := by
  apply looksNoFurther_of_leaving
  · rintro ⟨machine, streams⟩
    obtain ⟨items, eventsEq⟩ := Streams.exists_events_write machine.current streams
    refine ⟨_, filterMap_readItem?_map_write machine.current items, ?_⟩
    rw [← eventsEq, writeCell]
    cases Streams.write machine.current streams <;> rfl
  · rintro ⟨machine, own, writes, flushes, output, events⟩ input
    simp only [writeCell, State.withInput, Streams.withInput, Streams.write]
    rcases Streams.writeThrough machine.current events writes with ⟨_ | _, rest, recorded⟩ <;> rfl

theorem filterMap_readItem?_readCalls (retries : Nat) (item : InputItem) :
    (Streams.readCalls retries item).filterMap Event.readItem? =
      List.replicate retries (.failure .interrupted) ++ [item] := by
  rw [Streams.readCalls_eq_map, filterMap_readItem?_map_read]

/-- The result of reading a cell, once the answer of the input is known. -/
def concluded (machine : Machine) (after : Streams) :
    Except FailureKind (Option UInt8) → EStateM.Result FailureKind State Bool
  | .ok (some value) => .ok true ⟨machine.setCurrent value, after⟩
  | .ok none => .ok false ⟨machine, after⟩
  | .error kind => .error kind ⟨machine, after⟩

theorem streams_concluded (machine : Machine) (after : Streams)
    (answer : Except FailureKind (Option UInt8)) :
    (stateAfter (concluded machine after answer)).streams = after := by
  rcases answer with kind | (_ | value) <;> rfl

theorem leaving_concluded (rest : List InputItem) (machine : Machine) (after : Streams)
    (answer : Except FailureKind (Option UInt8)) :
    leaving rest (concluded machine after answer) =
      concluded machine (after.withInput rest) answer := by
  rcases answer with kind | (_ | value) <;> rfl

/-- The first item that is not an interruption gives the answer, whatever stands behind
it. -/
theorem exists_readCell_eq_concluded (machine : Machine) (streams : Streams) (retries : Nat)
    {item : InputItem} (decisive : item ≠ .failure .interrupted) :
    ∃ answer, ∀ rest,
      readCell ⟨machine, streams.withInput
          (List.replicate retries (.failure .interrupted) ++ item :: rest)⟩ =
        concluded machine ((streams.recordAll (Streams.readCalls retries item)).withInput rest)
          answer := by
  cases failed : item.failure? with
  | some kind =>
      refine ⟨.error kind, fun rest => ?_⟩
      have found := Streams.read_of_failure (show (streams.withInput
        (List.replicate retries (.failure .interrupted) ++ item :: rest)).input = _ from rfl) failed
      rw [readCell, found]
      rfl
  | none =>
      refine ⟨.ok item.byte?, fun rest => ?_⟩
      have found := Streams.read_of_quiet (show (streams.withInput
        (List.replicate retries (.failure .interrupted) ++ item :: rest)).input = _ from rfl)
        (by simpa using decisive) failed
      rw [readCell, found, List.headD_cons]
      cases item.byte? <;> rfl

theorem looksNoFurther_readCell : LooksNoFurther readCell := by
  rintro ⟨machine, streams⟩
  obtain ⟨retries, rest, script, decisive⟩ :=
    exists_eq_replicate_append (.failure .interrupted) streams.input
  cases rest with
  | nil =>
      let after := (streams.recordAll (Streams.readCalls retries .endOfInput)).withInput []
      have found : Streams.read streams = .ok none after :=
        Streams.read_of_quiet script decisive rfl
      refine ⟨Streams.readCalls retries .endOfInput, .ok false ⟨machine, after⟩,
        by rw [readCell, found], Streams.toList_events_recordAll streams _, ?_, fun served => ?_⟩
      · rw [filterMap_readItem?_readCalls]
        exact ⟨_, 1, script, rfl, Or.inr rfl⟩
      · -- the last call has got no item
        have lengthEq := congrArg List.length served
        rw [filterMap_readItem?_readCalls, script] at lengthEq
        simp at lengthEq
  | cons item further =>
      obtain ⟨answer, ends⟩ := exists_readCell_eq_concluded machine streams retries
        (by simpa using decisive)
      have itself := ends further
      rw [← script] at itself
      refine ⟨Streams.readCalls retries item, _, itself, ?_, ?_, fun _ rest => ?_⟩
      · rw [streams_concluded]
        exact Streams.toList_events_recordAll streams _
      · rw [streams_concluded, filterMap_readItem?_readCalls]
        exact ⟨_, 0, by rw [script, List.append_cons]; rfl, (List.append_nil _).symm, Or.inl rfl⟩
      · rw [filterMap_readItem?_readCalls, ← List.append_cons, leaving_concluded]
        exact ends rest

theorem looksNoFurther_perform (instruction : Instruction) :
    LooksNoFurther (perform instruction) := by
  cases instruction with
  | moveLeft => exact looksNoFurther_onMachine Transfer.nothing Machine.moveLeft
  | moveRight => exact looksNoFurther_onMachine Transfer.nothing Machine.moveRight
  | increment => exact looksNoFurther_onMachine Transfer.nothing Machine.increment
  | decrement => exact looksNoFurther_onMachine Transfer.nothing Machine.decrement
  | output => exact looksNoFurther_writeCell.bind fun _ => looksNoFurther_pure Transfer.byteWritten
  | input =>
      refine looksNoFurther_flush.bind fun _ => looksNoFurther_readCell.bind fun found => ?_
      cases found with
      | true => exact looksNoFurther_pure Transfer.byteRead
      | false => exact looksNoFurther_pure Transfer.endOfInput
  | loopStart => exact looksNoFurther_pure Transfer.nothing
  | loopEnd => exact looksNoFurther_pure Transfer.nothing

/-! ## Steps -/

def Moment.withInput (moment : Moment) (input : List InputItem) : Moment :=
  { moment with state := moment.state.withInput input }

section Steps

variable {program : Program} {moment next : Moment} {outcome : Outcome}

theorem step_withInput_of_running (running : step program moment = .running next)
    (served : moment.state.streams.input =
      (made program moment).filterMap Event.readItem? ++ next.state.streams.input)
    (rest : List InputItem) :
    step program
        (moment.withInput ((made program moment).filterMap Event.readItem? ++ rest)) =
      .running (next.withInput rest) := by
  have view := stepView program moment
  have madeEq := fun calls => @made_eq_of_running program moment next running calls
  rw [running] at view
  cases view with
  | @jumps index partner statistics state instruction found jumps paired =>
      have jumpsToo : instruction.jumps (state.withInput rest).machine.isNonzero = true := jumps
      rw [madeEq [] (List.append_nil _).symm]
      exact step_jump found jumpsToo (Program.partner?_eq_some_iff.mp paired).2 statistics
  | @performs index statistics state next instruction transfer found stays performed =>
      obtain ⟨calls, result, draws⟩ := looksNoFurther_perform instruction state
      obtain rfl := draws.result_eq.symm.trans performed
      rw [madeEq calls draws.events_eq] at served ⊢
      have staysToo : instruction.jumps (state.withInput
        (calls.filterMap Event.readItem? ++ rest)).machine.isNonzero = false := stays
      have taken := step_perform found staysToo statistics
      rw [draws.elsewhere served rest] at taken
      exact taken

theorem made_eq_of_outcome? (ended : (step program moment).outcome? = some outcome)
    {calls : List Event}
    (eventsEq : (stateAfter (close outcome)).streams.events.toList =
      moment.state.streams.events.toList ++ calls) : made program moment = calls := by
  have madeEq := events_after program moment
  rw [after_of_outcome? ended, eventsEq] at madeEq
  exact (List.append_cancel_left madeEq).symm

theorem stateAfter_close (statistics : Statistics) (state : State) :
    stateAfter (close (.ok statistics state)) = stateAfter (flush state) := by
  rw [close]
  cases flush state <;> rfl

theorem close_leaving {statistics : Statistics} {state : State} {input rest : List InputItem}
    (same : flush (state.withInput input) = leaving rest (flush state)) :
    close (.ok statistics (state.withInput input)) =
      leaving rest (close (.ok statistics state)) := by
  rw [close, close, same]
  cases flush state <;> rfl

/-- An action that fails has received no byte. -/
theorem Fails.exists_calls {kind : FailureKind} {final : State}
    (fails : Fails program moment kind final) :
    ∃ calls, final.streams.events.toList = moment.state.streams.events.toList ++ calls ∧
      (calls.filterMap Event.readItem?).filterMap InputItem.byte? = [] := by
  cases fails with
  | @write index statistics machine streams retries item rest kind found script failed =>
      refine ⟨_, Streams.toList_events_recordAll streams _, ?_⟩
      rw [Streams.writeCalls_eq_map, filterMap_readItem?_map_write]
      rfl
  | @flush index statistics machine streams rest kind found script =>
      exact ⟨[.flush (.failure kind)], Streams.toList_events_recordAll streams _, rfl⟩
  | @read index statistics machine streams retries item rest kind found succeeds script failed =>
      refine ⟨.flush .succeed :: Streams.readCalls retries item, ?_, ?_⟩
      · rw [List.append_cons]
        exact (Streams.toList_events_recordAll streams.flushed _).trans
          (congrArg (· ++ _) (Streams.toList_events_recordAll streams _))
      · have interrupted : (List.replicate retries
            (InputItem.failure .interrupted)).filterMap InputItem.byte? = [] :=
          List.filterMap_replicate_of_none rfl
        have itemsEq : (Event.flush .succeed :: Streams.readCalls retries item).filterMap
            Event.readItem? = List.replicate retries (.failure .interrupted) ++ [item] :=
          filterMap_readItem?_readCalls retries item
        rw [itemsEq, List.filterMap_append, interrupted, List.nil_append,
          List.filterMap_cons_none (InputItem.byte?_eq_none_of_failure? failed), List.filterMap_nil]
  | @close statistics machine streams rest kind script =>
      exact ⟨[.flush (.failure kind)], Streams.toList_events_recordAll streams _, rfl⟩

/-- The action that ends a run takes items, too. -/
theorem draws_of_outcome? (ended : (step program moment).outcome? = some outcome) :
    Serves moment.state.streams.input ((made program moment).filterMap Event.readItem?)
        (stateAfter (close outcome)).streams.input ∧
      ((made program moment).filterMap Event.readItem?).filterMap InputItem.byte? = [] ∧
      (moment.state.streams.input = (made program moment).filterMap Event.readItem? ++
          (stateAfter (close outcome)).streams.input →
        ∀ rest, ∃ otherOutcome,
          (step program (moment.withInput
              ((made program moment).filterMap Event.readItem? ++ rest))).outcome? =
            some otherOutcome ∧
          close otherOutcome = leaving rest (close outcome)) := by
  have view := stepView program moment
  have madeEq := fun calls => @made_eq_of_outcome? program moment outcome ended calls
  generalize step program moment = taken at view ended
  cases view with
  | @ends index statistics state atEnd =>
      cases ended
      obtain ⟨item, eventsEq, -⟩ := exists_flush_close statistics state
      obtain ⟨calls, result, draws⟩ := looksNoFurther_flush state
      obtain rfl := draws.result_eq
      have sameCalls := draws.events_eq
      rw [← stateAfter_close statistics] at sameCalls
      obtain rfl := List.append_cancel_left (sameCalls.symm.trans eventsEq)
      rw [madeEq _ sameCalls, stateAfter_close]
      refine ⟨draws.serves, rfl, fun served rest => ?_⟩
      have finished (other : State) :
          step program ⟨index, statistics, other⟩ = .finished statistics other := by
        rw [step, dif_neg (Nat.not_lt.mpr atEnd)]
      exact ⟨_, congrArg Step.outcome? (finished _), close_leaving (draws.elsewhere served rest)⟩
  | jumps found jumps paired => cases ended
  | performs found stays performed => cases ended
  | @fails index statistics state after instruction kind found stays failed =>
      cases ended
      obtain ⟨calls, result, draws⟩ := looksNoFurther_perform instruction state
      obtain rfl := draws.result_eq.symm.trans failed
      rw [madeEq calls draws.events_eq]
      refine ⟨draws.serves, ?_, fun served rest => ?_⟩
      · have fails : Fails program ⟨index, statistics, state⟩ kind after :=
          (perform_eq_error_iff_fails found).mp failed
        obtain ⟨failedCalls, eventsEq, noByte⟩ := fails.exists_calls
        obtain rfl := List.append_cancel_left (draws.events_eq.symm.trans eventsEq)
        exact noByte
      have staysToo : instruction.jumps (state.withInput
        (calls.filterMap Event.readItem? ++ rest)).machine.isNonzero = false := stays
      have taken := step_perform found staysToo statistics
      rw [draws.elsewhere served rest] at taken
      exact ⟨.error kind (after.withInput rest), congrArg Step.outcome? taken, rfl⟩

end Steps

/-! ## Runs -/

/-- The induction is on the moments that the run passes through; to each of them the items
of the later ones are a part of what stands behind its own. -/
theorem Path.withInput {program : Program} {start final : Moment} {passed : List Moment}
    (path : Path program start passed final)
    (served : start.state.streams.input =
      (passed.flatMap (made program)).filterMap Event.readItem? ++ final.state.streams.input)
    (rest : List InputItem) :
    ∃ otherPassed,
      Path program
        (start.withInput ((passed.flatMap (made program)).filterMap Event.readItem? ++ rest))
        otherPassed (final.withInput rest) ∧ otherPassed.length = passed.length := by
  induction path with
  | here moment => exact ⟨[], .here (moment.withInput rest), rfl⟩
  | @step moment next final passed running further ih =>
      simp only [List.flatMap_cons, List.filterMap_append, List.append_assoc] at served ⊢
      have first := (turnover_of_running running).serves
      rw [List.flatMap_singleton] at first
      obtain ⟨servedFirst, servedFurther⟩ := first.split further.turnover.serves served
      obtain ⟨otherPassed, otherPath, lengthEq⟩ := ih servedFurther
      exact ⟨_ :: otherPassed, .step (step_withInput_of_running running servedFirst _) otherPath,
        congrArg Nat.succ lengthEq⟩

theorem length_filterMap_byte? (items : List InputItem) :
    (items.filterMap InputItem.byte?).length = items.countP InputItem.isByte := by
  rw [List.length_filterMap_eq_countP]
  congr 1
  funext item
  cases item <;> rfl

theorem length_received?_le (program : Program) (passed : List Moment) :
    (passed.filterMap (received? program)).length ≤ passed.countP (isReading program) := by
  rw [List.length_filterMap_eq_countP]
  apply List.countP_mono_left
  intro moment _ isSome
  rw [received?] at isSome
  rw [isReading]
  split at isSome
  · next due => simp [due]
  · cases isSome

/-- If all calls for a byte that a run has made got an item of its input, the run has
taken these items from the front.  In front of any other rest they make it do the same: it
makes the same calls and ends with the same result, in the same state, and it leaves
that rest.  Of the items taken no more are bytes than the run has executed `,`. -/
theorem run_reads_no_further {program : Program} {limit : Nat} {start : State} {result : Outcome}
    (ended : run limit program start = some result)
    (served : (start.streams.readSince (stateAfter result).streams).length ≤
      start.streams.input.length) :
    ∃ consumed passed final,
      consumed = start.streams.readSince (stateAfter result).streams ∧
      start.streams.input = consumed ++ (stateAfter result).streams.input ∧
      (∀ rest, run limit program (start.withInput (consumed ++ rest)) =
        some (leaving rest result)) ∧
      Path program { state := start } passed final ∧
      (step program final).outcome?.map close = some result ∧
      consumed.countP InputItem.isByte ≤ passed.countP (isReading program) := by
  obtain ⟨outcome, runEnded, rfl⟩ := run_eq_some_iff.mp ended
  obtain ⟨passed, final, path, short, endsHere⟩ := runFrom_eq_some_iff.mp runEnded
  obtain ⟨lastServes, lastNoByte, lastElsewhere⟩ := draws_of_outcome? endsHere
  have turnover := path.turnover
  have eventsEq : (stateAfter (close outcome)).streams.events.toList =
      start.streams.events.toList ++
        (passed.flatMap (made program) ++ made program final) := by
    rw [← after_of_outcome? endsHere, events_after, path.events_eq, List.append_assoc]
  have readEq := Streams.readSince_eq eventsEq
  rw [List.filterMap_append] at readEq
  rw [readEq] at served
  have split := (turnover.serves.trans lastServes).eq_append served
  obtain ⟨servedOnTheWay, servedLast⟩ :=
    turnover.serves.split lastServes (split.trans (List.append_assoc ..))
  refine ⟨_, passed, final, readEq.symm, split, fun rest => ?_, path,
    by rw [endsHere, Option.map_some], ?_⟩
  · obtain ⟨otherPassed, otherPath, lengthEq⟩ := path.withInput servedOnTheWay
      ((made program final).filterMap Event.readItem? ++ rest)
    obtain ⟨otherOutcome, otherEnds, closeEq⟩ := lastElsewhere servedLast rest
    rw [← List.append_assoc] at otherPath
    exact run_eq_some_iff.mpr ⟨otherOutcome,
      runFrom_eq_some_iff.mpr ⟨otherPassed, _, otherPath, lengthEq ▸ short, otherEnds⟩, closeEq⟩
  · rw [← length_filterMap_byte?, List.filterMap_append, turnover.byte?_eq, lastNoByte,
      List.append_nil]
    exact length_received?_le program passed

theorem run_reads_no_further_failing :
    ∃ program, Program.ofList [.input, .input, .input] = .ok program ∧
      ∃ final consumed,
        run 3 program
            ⟨Machine.fresh ⟨1, by decide⟩,
              { input := [.failure .interrupted, .byte 7, .failure .other, .byte 9] }⟩ =
          some (.error .other final) ∧
        consumed = [.failure .interrupted, .byte 7, .failure .other] ∧
        final.streams.input = [.byte 9] ∧
        (∀ rest, run 3 program ⟨Machine.fresh ⟨1, by decide⟩, { input := consumed ++ rest }⟩ =
          some (.error .other (final.withInput rest))) ∧
        consumed.countP InputItem.isByte = 1 := by
  let program : Program := ⟨#[.input, .input, .input], #[0, 0, 0], rfl⟩
  let start : State :=
    ⟨Machine.fresh ⟨1, by decide⟩,
      { input := [.failure .interrupted, .byte 7, .failure .other, .byte 9] }⟩
  have built : Program.ofList [.input, .input, .input] = .ok program := rfl
  have failed : ∃ final, run 3 program start = some (.error .other final) ∧
      final.streams.input = [.byte 9] ∧
      start.streams.readSince final.streams =
        [.failure .interrupted, .byte 7, .failure .other] := ⟨_, rfl, rfl, rfl⟩
  obtain ⟨final, ended, leftOver, readEq⟩ := failed
  have enough : (start.streams.readSince (stateAfter
      (EStateM.Result.error FailureKind.other final : Outcome)).streams).length ≤
      start.streams.input.length := by
    rw [stateAfter, readEq]
    decide
  obtain ⟨consumed, passed, last, consumedEq, -, elsewhere, -⟩ :=
    run_reads_no_further ended enough
  rw [stateAfter, readEq] at consumedEq
  refine ⟨program, built, final, consumed, ended, consumedEq, leftOver, elsewhere, ?_⟩
  rw [consumedEq]
  rfl

end Execution

end Brainfuck
