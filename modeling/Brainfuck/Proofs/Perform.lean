import Brainfuck.Execution.Basic
import Brainfuck.Proofs.StreamCalls

/-!
# Effects of single instructions

What an instruction does to the machine and to the streams, in every case.  An
instruction that fails leaves the machine and the output as they were; one that
is completed makes no failing call.
-/

namespace Brainfuck

def Instruction.written? (instruction : Instruction) (machine : Machine) : Option UInt8 :=
  match instruction with
  | .output => some machine.current
  | _ => none

namespace Execution

/-- The state in which an action ends, whether it fails or not. -/
def stateAfter {ε σ α : Type} : EStateM.Result ε σ α → σ
  | .ok _ state => state
  | .error _ state => state

theorem length_writeCell (state : State) :
    (stateAfter (writeCell state)).machine.tape.length = state.machine.tape.length := by
  obtain ⟨machine, streams⟩ := state
  simp only [writeCell]
  cases Streams.write machine.current streams <;> rfl

theorem length_readCell (state : State) :
    (stateAfter (readCell state)).machine.tape.length = state.machine.tape.length := by
  obtain ⟨machine, streams⟩ := state
  simp only [readCell]
  cases Streams.read streams with
  | error kind after => rfl
  | ok found after =>
      cases found with
      | none => rfl
      | some value => exact Tape.length_set ..

theorem perform_output (machine : Machine) (streams : Streams) :
    perform .output ⟨machine, streams⟩ =
      match Streams.write machine.current streams with
      | .ok () after => .ok .byteWritten ⟨machine, after⟩
      | .error kind after => .error kind ⟨machine, after⟩ := by
  simp only [perform, bind, EStateM.bind, writeCell]
  cases Streams.write machine.current streams <;> rfl

theorem perform_input (machine : Machine) (streams : Streams) :
    perform .input ⟨machine, streams⟩ =
      match Streams.flush streams with
      | .error kind after => .error kind ⟨machine, after⟩
      | .ok () flushed =>
          match Streams.read flushed with
          | .ok (some value) after => .ok .byteRead ⟨machine.setCurrent value, after⟩
          | .ok none after => .ok .endOfInput ⟨machine, after⟩
          | .error kind after => .error kind ⟨machine, after⟩ := by
  simp only [perform, bind, EStateM.bind, flush, readCell]
  cases Streams.flush streams with
  | error kind after => rfl
  | ok _ flushed =>
      simp only
      cases Streams.read flushed with
      | error kind after => rfl
      | ok found after => cases found <;> rfl

/-- Instructions other than `.` and `,` leave the streams alone. -/
theorem exists_perform_eq_onMachine {instruction : Instruction} (isSilent : instruction ≠ .output)
    (isDeaf : instruction ≠ .input) :
    ∃ change : Machine → Machine,
      (∀ machine, (change machine).tape.length = machine.tape.length) ∧
      ∀ machine streams,
        perform instruction ⟨machine, streams⟩ = .ok .nothing ⟨change machine, streams⟩ := by
  cases instruction with
  | moveLeft => exact ⟨Machine.moveLeft, fun _ => rfl, fun _ _ => rfl⟩
  | moveRight => exact ⟨Machine.moveRight, fun _ => rfl, fun _ _ => rfl⟩
  | increment => exact ⟨Machine.increment, fun _ => Tape.length_set .., fun _ _ => rfl⟩
  | decrement => exact ⟨Machine.decrement, fun _ => Tape.length_set .., fun _ _ => rfl⟩
  | output => exact absurd rfl isSilent
  | input => exact absurd rfl isDeaf
  | loopStart => exact ⟨id, fun _ => rfl, fun _ _ => rfl⟩
  | loopEnd => exact ⟨id, fun _ => rfl, fun _ _ => rfl⟩

/-- The ways in which an instruction is completed. -/
inductive Performed : Instruction → State → Transfer → State → Prop
  | silent {instruction : Instruction} {machine changed : Machine} {streams : Streams}
      (isSilent : instruction ≠ .output)
      (lengthEq : changed.tape.length = machine.tape.length) :
      Performed instruction ⟨machine, streams⟩ .nothing ⟨changed, streams⟩
  | wrote {machine : Machine} {streams after : Streams}
      (written : Streams.write machine.current streams = .ok () after) :
      Performed .output ⟨machine, streams⟩ .byteWritten ⟨machine, after⟩
  | read {machine : Machine} {streams ready after : Streams} {value : UInt8}
      (flushed : Streams.flush streams = .ok () ready)
      (found : Streams.read ready = .ok (some value) after) :
      Performed .input ⟨machine, streams⟩ .byteRead ⟨machine.setCurrent value, after⟩
  | kept {machine : Machine} {streams ready after : Streams}
      (flushed : Streams.flush streams = .ok () ready)
      (found : Streams.read ready = .ok none after) :
      Performed .input ⟨machine, streams⟩ .endOfInput ⟨machine, after⟩

theorem performed_of_perform {instruction : Instruction} {before after : State}
    {transfer : Transfer} (performed : perform instruction before = .ok transfer after) :
    Performed instruction before transfer after := by
  obtain ⟨machine, streams⟩ := before
  by_cases isOutput : instruction = .output
  · obtain rfl := isOutput
    rw [perform_output] at performed
    cases written : Streams.write machine.current streams with
    | error kind next =>
        rw [written] at performed
        cases performed
    | ok _ next =>
        rw [written] at performed
        cases performed
        exact .wrote written
  by_cases isInput : instruction = .input
  · obtain rfl := isInput
    rw [perform_input] at performed
    cases flushed : Streams.flush streams with
    | error kind next =>
        rw [flushed] at performed
        cases performed
    | ok _ ready =>
        simp only [flushed] at performed
        split at performed
        · next value next found =>
            cases performed
            exact .read flushed found
        · next next found =>
            cases performed
            exact .kept flushed found
        · cases performed
  · obtain ⟨change, lengthEq, changed⟩ := exists_perform_eq_onMachine isOutput isInput
    rw [changed] at performed
    cases performed
    exact .silent isOutput (lengthEq machine)

structure Completed (instruction : Instruction) (before after : State) : Prop where
  length_eq : after.machine.tape.length = before.machine.tape.length
  output_eq : after.streams.output.toList =
    before.streams.output.toList ++ (instruction.written? before.machine).toList
  quiet : before.streams.QuietTo after.streams

theorem completed_of_perform {instruction : Instruction} {before after : State}
    {transfer : Transfer} (performed : perform instruction before = .ok transfer after) :
    Completed instruction before after := by
  cases performed_of_perform performed with
  | silent isSilent lengthEq =>
      refine ⟨lengthEq, ?_, Streams.QuietTo.refl _⟩
      cases instruction <;> simp_all [Instruction.written?]
  | wrote written =>
      obtain ⟨quiet, outputEq⟩ := Streams.quietTo_of_write written
      exact ⟨rfl, by simp [outputEq, Instruction.written?], quiet⟩
  | read flushed found =>
      obtain ⟨flushQuiet, flushOutput⟩ := Streams.quietTo_of_flush flushed
      obtain ⟨readQuiet, readOutput⟩ := Streams.quietTo_of_read found
      refine ⟨Tape.length_set .., ?_, flushQuiet.trans readQuiet⟩
      simp [readOutput.trans flushOutput, Instruction.written?]
  | kept flushed found =>
      obtain ⟨flushQuiet, flushOutput⟩ := Streams.quietTo_of_flush flushed
      obtain ⟨readQuiet, readOutput⟩ := Streams.quietTo_of_read found
      refine ⟨rfl, ?_, flushQuiet.trans readQuiet⟩
      simp [readOutput.trans flushOutput, Instruction.written?]

end Execution

end Brainfuck
