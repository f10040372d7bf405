import Brainfuck.Proofs.Balance
import Brainfuck.Proofs.Substitution

/-!
# Programs that have nothing to read

At the end of the input a `,` keeps the current cell.  In a run whose input is at its end
and stays there, and whose flushes succeed, every `,` may as well be left out of the
program: all that changes is how many instructions there are to count.
-/

namespace Brainfuck

namespace Streams

/-- There is nothing left to read, not even a failure, and no flush fails. -/
structure Spent (streams : Streams) : Prop where
  input : ∀ item ∈ streams.input, item.byte? = none ∧ item.failure? = none
  flushes : ∀ item ∈ streams.flushes, item = .succeed

/-- Streams with nothing left to read that write the same. -/
structure WritesAlike (first second : Streams) : Prop where
  spent : first.Spent
  otherSpent : second.Spent
  writes_eq : second.writes = first.writes
  output_eq : second.output = first.output

namespace WritesAlike

variable {first second third : Streams}

theorem refl (spent : first.Spent) : WritesAlike first first :=
  ⟨spent, spent, rfl, rfl⟩

theorem symm (alike : WritesAlike first second) : WritesAlike second first :=
  ⟨alike.otherSpent, alike.spent, alike.writes_eq.symm, alike.output_eq.symm⟩

theorem trans (alike : WritesAlike first second) (further : WritesAlike second third) :
    WritesAlike first third :=
  ⟨alike.spent, further.otherSpent, further.writes_eq.trans alike.writes_eq,
    further.output_eq.trans alike.output_eq⟩

end WritesAlike

namespace Spent

variable {streams : Streams}

theorem exists_read (spent : streams.Spent) :
    ∃ after, Streams.read streams = .ok none after ∧ WritesAlike streams after := by
  obtain ⟨retries, rest, script, ⟨decisive, quiet⟩ | ⟨item, further, kind, rfl, failed⟩⟩ :=
    streams.input_cases
  · have fromInput : ∀ item ∈ rest, item ∈ streams.input := by
      intro item member
      rw [script]
      exact List.mem_append_right _ member
    have noByte : (rest.headD .endOfInput).byte? = none := by
      cases rest with
      | nil => rfl
      | cons item further => exact (spent.input item (fromInput item List.mem_cons_self)).1
    have found := Streams.read_of_quiet script decisive quiet
    rw [noByte] at found
    refine ⟨_, found, spent, ⟨?_, ?_⟩, rfl, rfl⟩
    · exact fun item member => spent.input item (fromInput item (List.mem_of_mem_tail member))
    · exact spent.flushes
  · have itemQuiet := (spent.input item (by simp [script])).2
    rw [failed] at itemQuiet
    cases itemQuiet

theorem exists_flush (spent : streams.Spent) :
    ∃ after, Streams.flush streams = .ok () after ∧ WritesAlike streams after := by
  have succeeds : ∀ kind, streams.flushes.head? ≠ some (.failure kind) := by
    intro kind failed
    cases spent.flushes _ (List.mem_of_mem_head? failed)
  refine ⟨_, Streams.flush_eq_ok_iff.mpr ⟨succeeds, rfl⟩, spent, ⟨spent.input, ?_⟩, rfl, rfl⟩
  exact fun item member => spent.flushes item (List.mem_of_mem_tail member)

end Spent

end Streams

namespace Execution

open Streams (WritesAlike)

theorem simulation_writesAlike : StreamSimulation WritesAlike where
  write := by
    intro first second alike value
    obtain ⟨retries, rest, script, outcome⟩ := first.writes_cases
    have otherScript := alike.writes_eq.trans script
    rcases outcome with accepted | ⟨item, further, kind, rfl, failed⟩
    · rw [Streams.write_of_accept script accepted, Streams.write_of_accept otherScript accepted,
        alike.output_eq]
      exact .ok ⟨⟨alike.spent.input, alike.spent.flushes⟩,
        ⟨alike.otherSpent.input, alike.otherSpent.flushes⟩, rfl, rfl⟩
    · rw [Streams.write_of_failure script failed, Streams.write_of_failure otherScript failed]
      exact .error ⟨⟨alike.spent.input, alike.spent.flushes⟩,
        ⟨alike.otherSpent.input, alike.otherSpent.flushes⟩, rfl, alike.output_eq⟩
  read := by
    intro first second alike
    obtain ⟨after, found, same⟩ := alike.spent.exists_read
    obtain ⟨otherAfter, otherFound, otherSame⟩ := alike.otherSpent.exists_read
    rw [found, otherFound]
    exact .ok ((same.symm.trans alike).trans otherSame)
  flush := by
    intro first second alike
    obtain ⟨after, flushed, same⟩ := alike.spent.exists_flush
    obtain ⟨otherAfter, otherFlushed, otherSame⟩ := alike.otherSpent.exists_flush
    rw [flushed, otherFlushed]
    exact .ok ((same.symm.trans alike).trans otherSame)

/-! ## Leaving out `,` -/

def eraseInput : Instruction → Option Instruction :=
  Option.guard (· ≠ .input)

theorem eraseInput_eq_some_iff {instruction other : Instruction} :
    eraseInput instruction = some other ↔ instruction = other ∧ instruction ≠ .input := by
  simp [eraseInput, Option.guard_eq_some_iff]

theorem keepsBrackets_eraseInput : KeepsBrackets eraseInput where
  loopStart := rfl
  loopEnd := rfl
  plain := by
    intro instruction other isPlain erased
    obtain ⟨rfl, -⟩ := eraseInput_eq_some_iff.mp erased
    exact isPlain

/-- The counters of a run that finds its input at its end in every `,`, and of one that does
not call for bytes. -/
structure CountsEnds (statistics counted : Statistics) : Prop where
  instructions_eq : statistics.instructions = counted.instructions + statistics.endOfInputReads
  bytesRead_eq : statistics.bytesRead = 0
  bytesWritten_eq : statistics.bytesWritten = counted.bytesWritten

namespace CountsEnds

variable {statistics counted : Statistics}

theorem record (counters : CountsEnds statistics counted) {transfer : Transfer}
    (notRead : transfer ≠ .byteRead) (notEnd : transfer ≠ .endOfInput) :
    CountsEnds (statistics.record transfer) (counted.record transfer) := by
  obtain ⟨instructionsEq, bytesReadEq, bytesWrittenEq⟩ := counters
  cases transfer with
  | nothing => exact ⟨by simp only [Statistics.record]; omega, bytesReadEq, bytesWrittenEq⟩
  | byteWritten =>
      exact ⟨by simp only [Statistics.record]; omega, bytesReadEq, congrArg Nat.succ bytesWrittenEq⟩
  | byteRead => exact absurd rfl notRead
  | endOfInput => exact absurd rfl notEnd

theorem record_endOfInput (counters : CountsEnds statistics counted) :
    CountsEnds (statistics.record .endOfInput) counted := by
  obtain ⟨instructionsEq, bytesReadEq, bytesWrittenEq⟩ := counters
  exact ⟨by simp only [Statistics.record]; omega, bytesReadEq, bytesWrittenEq⟩

end CountsEnds

/-- With nothing to read a `,` does nothing but flush. -/
theorem perform_input_of_spent (machine : Machine) {streams : Streams} (spent : streams.Spent) :
    ∃ after, perform .input ⟨machine, streams⟩ = .ok .endOfInput ⟨machine, after⟩ ∧
      WritesAlike streams after := by
  obtain ⟨ready, flushed, same⟩ := spent.exists_flush
  obtain ⟨after, found, stillSame⟩ := same.otherSpent.exists_read
  refine ⟨after, ?_, same.trans stillSame⟩
  simp only [perform_input, flushed, found]

theorem preserves_eraseInput : Preserves eraseInput CountsEnds (Attached WritesAlike) where
  isNonzero_eq := fun first second states => by rw [states.machine_eq]
  empty := ⟨rfl, rfl, rfl⟩
  test := fun statistics counted counters => counters.record (by simp) (by simp)
  becomes := by
    rintro instruction other isPlain erased statistics counted ⟨_, first⟩ ⟨machine, second⟩ counters
      ⟨rfl, alike⟩
    obtain ⟨rfl, notInput⟩ := eraseInput_eq_some_iff.mp erased
    refine (simulation_writesAlike.perform alike instruction machine).performCounted ?_
    intro transfer next performed
    obtain ⟨calls, takes⟩ := exists_takes_of_perform performed
    exact counters.record (fun isRead => notInput (takes.isInput_iff.mp (Or.inl isRead)))
      (fun isEnd => notInput (takes.isInput_iff.mp (Or.inr isEnd)))
  leaves := by
    rintro instruction erased statistics counted ⟨_, first⟩ ⟨machine, second⟩ counters ⟨rfl, alike⟩
    obtain rfl : instruction = .input := by simpa [eraseInput, Option.guard] using erased
    obtain ⟨after, performed, same⟩ := perform_input_of_spent machine alike.spent
    refine ⟨statistics.record .endOfInput, ⟨machine, after⟩, ?_, counters.record_endOfInput, rfl,
      same.symm.trans alike⟩
    rw [performCounted, performed]
  flush := fun first second states => simulation_writesAlike.lockstep.flush states

/-! ## Failures -/

theorem Path.spent {program : Program} {start final : Moment} {passed : List Moment}
    (path : Path program start passed final) (spent : start.state.streams.Spent) :
    final.state.streams.Spent := by
  have turnover := path.turnover
  obtain ⟨consumed, pastEnd, script, -, -⟩ := turnover.serves
  constructor
  · intro item member
    exact spent.input item (by simp [script, member])
  · intro item member
    rw [turnover.flushes_eq] at member
    exact spent.flushes item (List.mem_of_mem_drop member)

/-- Only a write can fail. -/
theorem Fails.due_of_spent {program : Program} {moment : Moment} {kind : FailureKind}
    {final : State} (fails : Fails program moment kind final)
    (spent : moment.state.streams.Spent) : due? program moment = some .output := by
  cases fails with
  | write found script failed => exact found
  | flush found script => cases spent.flushes (.failure kind) (by simp [script])
  | @read index statistics machine streams retries item rest kind found succeeds script failed =>
      have quiet := (spent.input item (by simp [script])).2
      rw [failed] at quiet
      cases quiet
  | close script => cases spent.flushes (.failure kind) (by simp [script])

/-! ## Runs -/

/-- Where there is nothing to read, every `,` can be erased.  What remains is a program, and
either both of them end or neither does: with the same machine and the same output, with the
same success or failure, and with the same counters but for the ends of the input that the
erased `,` have found.  If they fail, it is because a byte is not written. -/
theorem run_erase_input (program : Program) (machine : Machine) {streams : Streams}
    (spent : streams.Spent) :
    ∃ erased, Program.ofList (program.toList.filter (· ≠ .input)) = .ok erased ∧
      EndAlike CountsEnds (Attached WritesAlike) program erased ⟨machine, streams⟩
        ⟨machine, streams⟩ ∧
      ∀ limit kind final, run limit program ⟨machine, streams⟩ = some (.error kind final) →
        ∃ passed moment, Path program { state := ⟨machine, streams⟩ } passed moment ∧
          due? program moment = some .output ∧ Fails program moment kind final := by
  obtain ⟨erased, built⟩ := keepsBrackets_eraseInput.exists_ofList program
  have endAlike := preserves_eraseInput.endAlike keepsBrackets_eraseInput built
    (show Attached WritesAlike ⟨machine, streams⟩ ⟨machine, streams⟩ from
      ⟨rfl, WritesAlike.refl spent⟩)
  rw [eraseInput, List.filterMap_eq_filter] at built
  refine ⟨erased, built, endAlike, fun limit kind final failed => ?_⟩
  obtain ⟨passed, moment, path, fails⟩ := exists_run_eq_error_iff.mp ⟨limit, failed⟩
  exact ⟨passed, moment, path, fails.due_of_spent (path.spent spent), fails⟩

theorem run_erase_input_in_loop :
    ∃ (program erased : Program) (streams : Streams),
      Program.ofList [.increment, .loopStart, .input, .output, .decrement, .loopEnd] =
        .ok program ∧
      Program.ofList [.increment, .loopStart, .output, .decrement, .loopEnd] = .ok erased ∧
      streams.Spent ∧ streams.input = [.endOfInput] ∧ streams.writes = [.failure .interrupted] ∧
      (∃ final, run 7 program ⟨Machine.fresh ⟨1, by decide⟩, streams⟩ =
        some (.ok ⟨6, 0, 1, 1⟩ final)) ∧
      EndAlike CountsEnds (Attached WritesAlike) program erased
        ⟨Machine.fresh ⟨1, by decide⟩, streams⟩ ⟨Machine.fresh ⟨1, by decide⟩, streams⟩ := by
  let program : Program :=
    ⟨#[.increment, .loopStart, .input, .output, .decrement, .loopEnd], #[0, 5, 0, 0, 0, 1], rfl⟩
  let erased : Program :=
    ⟨#[.increment, .loopStart, .output, .decrement, .loopEnd], #[0, 4, 0, 0, 1], rfl⟩
  let streams : Streams := { input := [.endOfInput], writes := [.failure .interrupted] }
  have erasedBuilt :
      Program.ofList [.increment, .loopStart, .output, .decrement, .loopEnd] = .ok erased := rfl
  have spent : streams.Spent := ⟨by decide, by decide⟩
  obtain ⟨other, built, endAlike, -⟩ :=
    run_erase_input program (Machine.fresh ⟨1, by decide⟩) spent
  obtain rfl : erased = other := Except.ok.inj (erasedBuilt.symm.trans built)
  exact ⟨program, erased, streams, rfl, rfl, spent, rfl, rfl, ⟨_, rfl⟩, endAlike⟩

end Execution

end Brainfuck
