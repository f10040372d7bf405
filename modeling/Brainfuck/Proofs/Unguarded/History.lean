import Brainfuck.Proofs.Failure
import Brainfuck.Proofs.Unguarded.Execution

/-!
# Histories of machines

A history is what a host does with a machine: single operations, loops whose
passes differ and may break off, runs of programs that may fail, and copies
that are put aside and taken up again.  No history makes an unguarded machine
panic.
-/

namespace Brainfuck

namespace Unguarded

open Execution (stateAfter)

/-! ## Operations -/

inductive Operation where
  | moveLeft
  | moveRight
  | increment
  | decrement
  /-- Read the current cell. -/
  | look
  | output (streams : Streams)
  | input (streams : Streams)
  /-- Before each pass the current cell is tested.  Behind the last pass the
  loop is left without a test, as after a pass that has failed. -/
  | loop (passes : List (List Operation))
  /-- A run that needs more steps than its limit is given up. -/
  | run (program : Program) (limit : Nat) (streams : Streams)
  | clone
  /-- Exchange the machine with one of its copies. -/
  | exchange (copy : Nat)

/-- The machine in use and the copies put aside. -/
structure Bench where
  machine : Machine
  copies : List Machine := []
  deriving DecidableEq

namespace Bench

def fresh (length : TapeLength) : Bench where
  machine := Machine.fresh length

def onMachine (change : Machine → Except Panic Machine) (bench : Bench) : Except Panic Bench := do
  return { bench with machine := ← change bench.machine }

def clone (bench : Bench) : Bench :=
  { bench with copies := bench.machine :: bench.copies }

def exchange (copy : Nat) (bench : Bench) : Bench :=
  match bench.copies[copy]? with
  | some machine => ⟨machine, bench.copies.set copy bench.machine⟩
  | none => bench

end Bench

def look (machine : Machine) : Except Panic Machine := do
  let _ ← machine.current
  return machine

/-- What an action leaves of the machine, whether it fails or not. -/
def machineAfter {α : Type} (action : State → Except Panic (Result α)) (streams : Streams)
    (machine : Machine) : Except Panic Machine := do
  return (stateAfter (← action ⟨machine, streams⟩)).machine

def machineAfterRun (program : Program) (limit : Nat) (streams : Streams) (machine : Machine) :
    Except Panic Machine := do
  match ← run limit program ⟨machine, streams⟩ with
  | some result => return (stateAfter result).machine
  | none => return machine

mutual

def Operation.act : Operation → Bench → Except Panic Bench
  | .moveLeft, bench => bench.onMachine Machine.moveLeft
  | .moveRight, bench => bench.onMachine Machine.moveRight
  | .increment, bench => bench.onMachine Machine.increment
  | .decrement, bench => bench.onMachine Machine.decrement
  | .look, bench => bench.onMachine look
  | .output streams, bench => bench.onMachine (machineAfter writeCell streams)
  | .input streams, bench => bench.onMachine (machineAfter readCell streams)
  | .loop passes, bench => actPasses passes bench
  | .run program limit streams, bench => bench.onMachine (machineAfterRun program limit streams)
  | .clone, bench => return bench.clone
  | .exchange copy, bench => return bench.exchange copy

def actAll : List Operation → Bench → Except Panic Bench
  | [], bench => return bench
  | operation :: rest, bench => do actAll rest (← operation.act bench)

def actPasses : List (List Operation) → Bench → Except Panic Bench
  | [], bench => return bench
  | pass :: rest, bench => do
      if ← bench.machine.isNonzero then
        actPasses rest (← actAll pass bench)
      else return bench

end

/-! ## Sound machines -/

/-- The tape has as many cells as it says, and the pointer is inside. -/
structure Machine.Sound (length : TapeLength) (machine : Machine) : Prop where
  size_eq : machine.cells.size = length.count
  length_eq : machine.length = length.count
  pointer_lt : machine.pointer < length.count

/-- Sound machines are those that come from machines. -/
theorem Machine.sound_iff {length : TapeLength} {machine : Machine} :
    machine.Sound length ↔
      ∃ guarded : Brainfuck.Machine, guarded.tape.length = length.count ∧
        erase guarded = machine := by
  constructor
  · intro sound
    have positive : 0 < machine.cells.size := sound.size_eq ▸ length.count_pos
    have inside : machine.pointer < machine.cells.size := sound.size_eq ▸ sound.pointer_lt
    refine ⟨⟨⟨machine.cells, positive⟩, machine.pointer, inside⟩, sound.size_eq, ?_⟩
    apply Machine.ext
    · rfl
    · exact sound.size_eq.trans sound.length_eq.symm
    · rfl
  · rintro ⟨guarded, fits, rfl⟩
    exact ⟨fits, fits, fits ▸ guarded.pointer_lt⟩

def Bench.Sound (length : TapeLength) (bench : Bench) : Prop :=
  ∀ machine ∈ bench.machine :: bench.copies, machine.Sound length

/-- An action does not panic on sound machines, and they stay sound. -/
def Keeps (length : TapeLength) (action : Bench → Except Panic Bench) : Prop :=
  ∀ bench, bench.Sound length → ∃ after, action bench = .ok after ∧ after.Sound length

section Keeps

variable {length : TapeLength}

theorem look_erase (machine : Brainfuck.Machine) : look (erase machine) = .ok (erase machine) := by
  simp [look]

theorem keeps_onMachine {change : Machine → Except Panic Machine}
    {guarded : Brainfuck.Machine → Brainfuck.Machine}
    (erased : ∀ machine, machine.tape.length = length.count →
      change (erase machine) = .ok (erase (guarded machine)))
    (lengthEq : ∀ machine, (guarded machine).tape.length = machine.tape.length) :
    Keeps length (Bench.onMachine change) := by
  intro bench sound
  obtain ⟨machine, fits, machineEq⟩ := Machine.sound_iff.mp (sound bench.machine (by simp))
  refine ⟨{ bench with machine := erase (guarded machine) }, ?_, ?_⟩
  · simp [Bench.onMachine, ← machineEq, erased machine fits]
  · intro member isMember
    rcases List.mem_cons.mp isMember with rfl | isCopy
    · exact Machine.sound_iff.mpr ⟨_, (lengthEq machine).trans fits, rfl⟩
    · exact sound member (List.mem_cons_of_mem _ isCopy)

theorem keeps_clone : Keeps length fun bench => .ok bench.clone := by
  intro bench sound
  refine ⟨bench.clone, rfl, ?_⟩
  intro machine isMember
  rcases List.mem_cons.mp isMember with rfl | isCopy
  · exact sound _ (List.mem_cons_self ..)
  · exact sound machine isCopy

theorem keeps_exchange (copy : Nat) : Keeps length fun bench => .ok (bench.exchange copy) := by
  intro bench sound
  refine ⟨bench.exchange copy, rfl, ?_⟩
  intro machine isMember
  unfold Bench.exchange at isMember
  split at isMember
  · next found =>
      rcases List.mem_cons.mp isMember with rfl | isCopy
      · exact sound machine (List.mem_cons_of_mem _ (List.mem_of_getElem? found))
      · rcases List.mem_or_eq_of_mem_set isCopy with wasCopy | rfl
        · exact sound machine (List.mem_cons_of_mem _ wasCopy)
        · exact sound _ (List.mem_cons_self ..)
  · exact sound machine isMember

theorem machine_stateAfter_eraseResult {α : Type}
    (result : EStateM.Result FailureKind Execution.State α) :
    (stateAfter (eraseResult result)).machine = erase (stateAfter result).machine := by
  cases result <;> rfl

theorem keeps_machineAfter {α : Type} {action : State → Except Panic (Result α)}
    {guarded : EStateM FailureKind Execution.State α}
    (erased : ∀ state, action (eraseState state) = .ok (eraseResult (guarded state)))
    (lengthEq : ∀ state,
      (stateAfter (guarded state)).machine.tape.length = state.machine.tape.length)
    (streams : Streams) : Keeps length (Bench.onMachine (machineAfter action streams)) := by
  apply keeps_onMachine (fun machine _ => ?_) fun machine => lengthEq ⟨machine, streams⟩
  have result := erased ⟨machine, streams⟩
  simp only [eraseState] at result
  simp [machineAfter, result, machine_stateAfter_eraseResult]

def guardedAfterRun (program : Program) (limit : Nat) (streams : Streams)
    (machine : Brainfuck.Machine) : Brainfuck.Machine :=
  match Execution.run limit program ⟨machine, streams⟩ with
  | some result => (stateAfter result).machine
  | none => machine

theorem machineAfterRun_erase (program : Program) (limit : Nat) (streams : Streams)
    {machine : Brainfuck.Machine} (fits : machine.tape.length < USize.size) :
    machineAfterRun program limit streams (erase machine) =
      .ok (erase (guardedAfterRun program limit streams machine)) := by
  have result := run_erase program limit ⟨machine, streams⟩ fits
  simp only [eraseState] at result
  simp only [machineAfterRun, result, guardedAfterRun]
  cases Execution.run limit program ⟨machine, streams⟩ <;> simp [machine_stateAfter_eraseResult]

theorem length_guardedAfterRun (program : Program) (limit : Nat) (streams : Streams)
    (machine : Brainfuck.Machine) :
    (guardedAfterRun program limit streams machine).tape.length = machine.tape.length := by
  unfold guardedAfterRun
  split
  · next result ended => exact Execution.length_eq_of_run ended
  · rfl

mutual

/-- The induction is on the nesting of loops. -/
theorem keeps_act (fits : length.count < USize.size) :
    (operation : Operation) → Keeps length operation.act
  | .moveLeft => keeps_onMachine (fun machine _ => moveLeft_erase machine) fun _ => rfl
  | .moveRight =>
      keeps_onMachine (fun machine same => moveRight_erase machine (same ▸ fits)) fun _ => rfl
  | .increment =>
      keeps_onMachine (fun machine _ => increment_erase machine) fun _ => Tape.length_set ..
  | .decrement =>
      keeps_onMachine (fun machine _ => decrement_erase machine) fun _ => Tape.length_set ..
  | .look => keeps_onMachine (fun machine _ => look_erase machine) fun _ => rfl
  | .output streams => keeps_machineAfter writeCell_erase Execution.length_writeCell streams
  | .input streams => keeps_machineAfter readCell_erase Execution.length_readCell streams
  | .loop passes => keeps_actPasses fits passes
  | .run program limit streams =>
      keeps_onMachine
        (fun _ same => machineAfterRun_erase program limit streams (same ▸ fits))
        (length_guardedAfterRun program limit streams)
  | .clone => keeps_clone
  | .exchange copy => keeps_exchange copy

theorem keeps_actAll (fits : length.count < USize.size) :
    (operations : List Operation) → Keeps length (actAll operations)
  | [] => fun bench sound => ⟨bench, rfl, sound⟩
  | operation :: rest => by
      intro bench sound
      obtain ⟨middle, acted, middleSound⟩ := keeps_act fits operation bench sound
      obtain ⟨after, restActed, afterSound⟩ := keeps_actAll fits rest middle middleSound
      exact ⟨after, by rw [actAll, acted]; exact restActed, afterSound⟩

theorem keeps_actPasses (fits : length.count < USize.size) :
    (passes : List (List Operation)) → Keeps length (actPasses passes)
  | [] => fun bench sound => ⟨bench, rfl, sound⟩
  | pass :: rest => by
      intro bench sound
      obtain ⟨machine, -, machineEq⟩ := Machine.sound_iff.mp (sound bench.machine (by simp))
      have tested := isNonzero_erase machine
      rw [machineEq] at tested
      cases isNonzero : machine.isNonzero with
      | false => exact ⟨bench, by simp [actPasses, tested, isNonzero], sound⟩
      | true =>
          obtain ⟨middle, acted, middleSound⟩ := keeps_actAll fits pass bench sound
          obtain ⟨after, restActed, afterSound⟩ := keeps_actPasses fits rest middle middleSound
          exact ⟨after, by simp [actPasses, tested, isNonzero, acted, restActed], afterSound⟩

end

end Keeps

/-! ## Safety -/

theorem sound_fresh (length : TapeLength) : (Bench.fresh length).Sound length := by
  intro machine isMember
  obtain rfl : machine = Machine.fresh length := by simpa [Bench.fresh] using isMember
  rw [← erase_fresh]
  exact Machine.sound_iff.mpr ⟨_, Tape.length_zeroed length, rfl⟩

/-- Whatever machine word the length of its tape is, no history of a machine
makes it panic: its pointer stays inside the tape, which keeps its length.
Checked when it happens, every access succeeds and changes the machine as it
does without a check.  Inside a run, the jump table is looked up at brackets
and leads to brackets, and a run that succeeds ends exactly behind its last
instruction. -/
theorem never_panics {length : TapeLength} (fits : length.count < USize.size) :
    (∀ history, ∃ bench, actAll history (Bench.fresh length) = .ok bench ∧ bench.Sound length) ∧
    ∀ start : Execution.State, start.machine.tape.length = length.count →
      readCell (eraseState start) = .ok (eraseResult (Execution.readCell start)) ∧
      (∀ instruction, perform instruction (eraseState start) =
        .ok (eraseResult (Execution.perform instruction start))) ∧
      (∀ program limit, run limit program (eraseState start) =
        .ok ((Execution.run limit program start).map eraseResult)) ∧
      ∀ program passed moment, Execution.Path program { state := start } passed moment →
        (erase moment.state.machine).Sound length ∧ Execution.Inside program moment := by
  refine ⟨fun history => keeps_actAll fits history _ (sound_fresh length), ?_⟩
  intro start same
  have startFits : start.machine.tape.length < USize.size := same ▸ fits
  refine ⟨readCell_erase start, ?_, ?_, ?_⟩
  · exact fun instruction => perform_erase instruction start startFits
  · exact fun program limit => run_erase program limit start startFits
  · intro program passed moment path
    have stillSame := path.length_eq.trans same
    exact ⟨Machine.sound_iff.mpr ⟨_, stillSame, rfl⟩, path.inside (Nat.zero_le _)⟩

/-- On a single cell, with a loop whose second pass fails, a run that fails and a
copy taken up again. -/
theorem never_panics_single_cell :
    1 < USize.size ∧ ∃ program, Program.ofList [.output, .moveLeft] = .ok program ∧
      ∃ bench,
        actAll
          [.moveLeft, .clone, .decrement,
            .loop [[.moveRight], [.input { input := [.failure .brokenPipe] }]],
            .run program 3 { writes := [.refuse] }, .exchange 0]
          (Bench.fresh ⟨1, by decide⟩) = .ok bench ∧ bench.Sound ⟨1, by decide⟩ := by
  have fits : 1 < USize.size := Nat.lt_of_lt_of_le (by decide) USize.le_size
  let program : Program := ⟨#[.output, .moveLeft], #[0, 0], rfl⟩
  have built : Program.ofList [.output, .moveLeft] = .ok program := rfl
  exact ⟨fits, program, built, (never_panics fits).1 _⟩

end Unguarded

end Brainfuck
