import Brainfuck.Proofs.StraightLine
import Mathlib.Order.Nat
import Mathlib.RingTheory.Int.Basic
import Mathlib.Tactic.LinearCombination

/-!
# Counting loops

A loop around straight-line code that leaves the pointer where it was changes every cell by
the same amount in each of its passes.  It ends as soon as the passes have made the current
cell zero, so it ends if the change of that cell meets the value of the cell modulo 256, and
never if it does not.
-/

namespace Brainfuck

open Instruction

/-! ## Residues -/

/-- An odd change meets every value. -/
theorem exists_dvd_of_odd {change : Int} (odd : Odd change) (value : Int) :
    ∃ passes : Nat, (256 : Int) ∣ value + passes * change := by
  have coprime : IsCoprime change (2 ^ 8) := (Int.isCoprime_two_right.mpr odd).pow_right
  obtain ⟨inverse, other, inverseEq⟩ := coprime
  let passes := -(value * inverse)
  refine ⟨(passes % 256).toNat, value * other - passes / 256 * change, ?_⟩
  rw [Int.toNat_of_nonneg (Int.emod_nonneg passes (by decide)), Int.emod_def]
  linear_combination -value * inverseEq

theorem ofInt_eq_zero_iff (amount : Int) : UInt8.ofInt amount = 0 ↔ (256 : Int) ∣ amount := by
  rw [← Int.modEq_zero_iff_dvd, ← ofInt_eq_ofInt_iff]
  rfl

theorem ofInt_toNat (value : UInt8) : UInt8.ofInt value.toNat = value := by
  have := value.toNat_lt
  rw [UInt8.ofInt, UInt8.ofNat_eq_iff_mod_eq_toNat]
  omega

theorem add_ofInt_eq_zero_iff (value : UInt8) (amount : Int) :
    value + UInt8.ofInt amount = 0 ↔ (256 : Int) ∣ value.toNat + amount := by
  rw [← ofInt_eq_zero_iff, UInt8.ofInt_add, ofInt_toNat]

/-- The numbers of passes that make a cell zero when each of them changes it by an amount. -/
def passesToZero (value : UInt8) (change : Int) : Set Nat :=
  { passes : Nat | (256 : Int) ∣ value.toNat + passes * change }

instance (value : UInt8) (change : Int) : DecidablePred (· ∈ passesToZero value change) :=
  fun passes => inferInstanceAs (Decidable ((256 : Int) ∣ value.toNat + passes * change))

theorem nonempty_passesToZero_of_odd {change : Int} (odd : Odd change) (value : UInt8) :
    (passesToZero value change).Nonempty :=
  exists_dvd_of_odd odd value.toNat

/-- Passes count modulo 256, so there is no need for more of them. -/
theorem le_of_isLeast_passesToZero {value : UInt8} {change : Int} {passes : Nat}
    (least : IsLeast (passesToZero value change) passes) : passes ≤ 255 := by
  have same : ((passes % 256 : Nat) : Int) ≡ passes [ZMOD 256] := Int.mod_modEq passes 256
  have atMod : passes % 256 ∈ passesToZero value change :=
    ((same.mul_right change).add_left value.toNat).dvd_iff.mpr least.1
  have := least.2 atMod
  have := Nat.mod_lt passes (show 0 < 256 by decide)
  omega

/-! ## Passes -/

namespace Machine

variable (instructions : List Instruction) {machine : Machine}

/-- What a number of passes through straight-line code do to a machine. -/
def afterPasses (machine : Machine) (passes : Nat) : Machine :=
  (fun reached => reached.after instructions)^[passes] machine

theorem afterPasses_succ (machine : Machine) (passes : Nat) :
    machine.afterPasses instructions (passes + 1) =
      (machine.afterPasses instructions passes).after instructions :=
  Function.iterate_succ_apply' ..

@[simp]
theorem length_afterPasses (machine : Machine) (passes : Nat) :
    (machine.afterPasses instructions passes).tape.length = machine.tape.length := by
  induction passes with
  | zero => rfl
  | succ passes ih => rw [afterPasses_succ, length_after, ih]

variable (closed : (machine.tape.length : Int) ∣ displacement instructions)

include closed

theorem pointer_after_of_dvd : (machine.after instructions).pointer = machine.pointer := by
  have inside := machine.pointer_lt
  have moved := machine.pointer_after instructions
  rw [Int.add_emod, Int.emod_eq_zero_of_dvd closed, add_zero, Int.emod_emod_of_dvd _ (dvd_refl _),
    Int.emod_eq_of_lt (by omega) (by omega)] at moved
  exact Int.ofNat_inj.mp moved

theorem pointer_afterPasses (passes : Nat) :
    (machine.afterPasses instructions passes).pointer = machine.pointer := by
  induction passes with
  | zero => rfl
  | succ passes ih =>
      rw [← length_afterPasses instructions machine passes] at closed
      rw [afterPasses_succ, pointer_after_of_dvd instructions closed, ih]

theorem cell?_afterPasses {index : Nat} (inside : index < machine.tape.length) (passes : Nat) :
    (machine.afterPasses instructions passes).cell? index =
      grown (passes * netChange machine.tape.length (index - machine.pointer) instructions)
        (machine.cell? index) := by
  induction passes with
  | zero => simp [afterPasses]
  | succ passes ih =>
      have lengthEq := length_afterPasses instructions machine passes
      rw [afterPasses_succ, cell?_after instructions (by rwa [lengthEq]), ih, lengthEq,
        pointer_afterPasses instructions closed, grown_grown]
      congr 1
      push_cast
      ring

theorem current_afterPasses (passes : Nat) :
    (machine.afterPasses instructions passes).current =
      machine.current +
        UInt8.ofInt (passes * netChange machine.tape.length 0 instructions) := by
  have atPointer := cell?_afterPasses instructions closed machine.pointer_lt passes
  rw [sub_self, cell?_pointer] at atPointer
  rw [← pointer_afterPasses instructions closed passes, cell?_pointer] at atPointer
  exact Option.some.inj atPointer

theorem isNonzero_afterPasses_eq_false_iff (passes : Nat) :
    (machine.afterPasses instructions passes).isNonzero = false ↔
      passes ∈ passesToZero machine.current (netChange machine.tape.length 0 instructions) := by
  rw [isNonzero_eq_false_iff, current_afterPasses instructions closed, add_ofInt_eq_zero_iff]
  rfl

end Machine

namespace Execution

/-! ## Loops around blocks that always succeed -/

/-- A block changes the machine and nothing else, and counts a number of instructions. -/
def Acts (block : Block) (change : Machine → Machine) (cost : Nat) : Prop :=
  ∀ statistics machine streams outcome,
    Ends block statistics ⟨machine, streams⟩ outcome ↔
      outcome = .ok { statistics with instructions := statistics.instructions + cost }
        ⟨change machine, streams⟩

theorem acts_of_elementary (block : Block)
    (elementary : ∀ instruction ∈ block.toList, instruction.isElementary = true) :
    Acts block (fun machine => machine.after block.toList) block.size := by
  induction block with
  | done =>
      intro statistics machine streams outcome
      constructor
      · rintro ⟨⟩
        rfl
      · rintro rfl
        exact .done
  | plain instruction isPlain rest ih =>
      intro statistics machine streams outcome
      have performed := perform_of_isElementary
        (elementary instruction List.mem_cons_self) machine streams
      have restActs := ih (fun next member => elementary next (List.mem_cons_of_mem _ member))
        (statistics.record .nothing) (instruction.effect machine) streams outcome
      have countEq : statistics.instructions + 1 + rest.size =
          statistics.instructions + (Block.plain instruction isPlain rest).size := by
        rw [Block.size_plain]
        omega
      rw [Statistics.record, countEq] at restActs
      refine Iff.trans ?_ restActs
      constructor
      · intro ends
        cases ends with
        | plain performedToo restEnds =>
            rw [performed] at performedToo
            cases performedToo
            exact restEnds
        | plainFails failed =>
            rw [performed] at failed
            cases failed
      · exact .plain performed
  | loop body rest _ _ => cases elementary .loopStart List.mem_cons_self

def exits (change : Machine → Machine) (machine : Machine) : Set Nat :=
  { passes | (change^[passes] machine).isNonzero = false }

theorem isLeast_exits_succ {change : Machine → Machine} {machine : Machine}
    (isNonzero : machine.isNonzero = true) {passes : Nat} :
    IsLeast (exits change machine) (passes + 1) ↔
      IsLeast (exits change (change machine)) passes := by
  constructor
  · rintro ⟨leaves, least⟩
    exact ⟨leaves, fun other otherLeaves => Nat.le_of_succ_le_succ (least otherLeaves)⟩
  · rintro ⟨leaves, least⟩
    refine ⟨leaves, fun other otherLeaves => ?_⟩
    cases other with
    | zero =>
        have isZero : machine.isNonzero = false := otherLeaves
        rw [isNonzero] at isZero
        cases isZero
    | succ other => exact Nat.succ_le_succ (least otherLeaves)

theorem isLeast_exits_zero {change : Machine → Machine} {machine : Machine}
    (isZero : machine.isNonzero = false) : IsLeast (exits change machine) 0 :=
  ⟨isZero, fun _ _ => Nat.zero_le _⟩

section Loop

variable {body : Block} {change : Machine → Machine} {cost : Nat} (acts : Acts body change cost)

include acts

/-- The induction is on the passes. -/
theorem exists_isLeast_of_ends {statistics : Statistics} {machine : Machine} {streams : Streams}
    {outcome : Outcome} (ends : Ends (.loop body .done) statistics ⟨machine, streams⟩ outcome) :
    ∃ passes, IsLeast (exits change machine) passes ∧
      outcome = .ok
        { statistics with
          instructions := statistics.instructions + (1 + passes * (cost + 1)) }
        ⟨change^[passes] machine, streams⟩ := by
  generalize blockEq : Block.loop body .done = block at ends
  generalize stateEq : (⟨machine, streams⟩ : State) = state at ends
  induction ends generalizing machine with
  | done | plain | plainFails => cases blockEq
  | loopDone isZero restEnds _ =>
      cases blockEq
      cases stateEq
      cases restEnds
      refine ⟨0, isLeast_exits_zero isZero, ?_⟩
      rw [Nat.zero_mul]
      rfl
  | @loopPass body rest statistics counted state next outcome isNonzero bodyEnds _ _ againIH =>
      cases blockEq
      cases stateEq
      cases (acts _ machine streams _).mp bodyEnds
      obtain ⟨passes, least, rfl⟩ := againIH rfl rfl
      refine ⟨passes + 1, (isLeast_exits_succ isNonzero).mpr least, ?_⟩
      simp only [Statistics.record, Function.iterate_succ_apply]
      congr 2
      ring
  | loopFails isNonzero bodyFails _ =>
      cases blockEq
      cases stateEq
      cases (acts _ machine streams _).mp bodyFails

theorem ends_of_isLeast {passes : Nat} {machine : Machine}
    (least : IsLeast (exits change machine) passes) (statistics : Statistics)
    (streams : Streams) :
    Ends (.loop body .done) statistics ⟨machine, streams⟩
      (.ok
        { statistics with
          instructions := statistics.instructions + (1 + passes * (cost + 1)) }
        ⟨change^[passes] machine, streams⟩) := by
  induction passes generalizing machine statistics with
  | zero =>
      rw [Nat.zero_mul]
      exact .loopDone least.1 .done
  | succ passes ih =>
      -- a loop that can be left at once takes no passes
      have isNonzero : machine.isNonzero = true := by
        by_contra isZero
        have := least.2 (isLeast_exits_zero (Bool.eq_false_of_not_eq_true isZero)).1
        omega
      have bodyEnds := (acts (statistics.record .nothing) machine streams _).mpr rfl
      have again := ih ((isLeast_exits_succ isNonzero).mp least)
        { statistics with instructions := statistics.instructions + 1 + cost }
      have countEq : statistics.instructions + 1 + cost + (1 + passes * (cost + 1)) =
          statistics.instructions + (1 + (passes + 1) * (cost + 1)) := by ring
      rw [countEq] at again
      exact .loopPass isNonzero bodyEnds again

end Loop

/-! ## Runs -/

/-- A run of a counting loop takes the least number of passes that make the cell zero. -/
theorem exists_runFrom_iff_isLeast {program : Program} {instructions : List Instruction}
    (elementary : ∀ instruction ∈ instructions, instruction.isElementary = true)
    (built : Program.ofList (.loopStart :: instructions ++ [.loopEnd]) = .ok program)
    {start : State} (closed : (start.machine.tape.length : Int) ∣ displacement instructions)
    {outcome : Outcome} :
    (∃ limit, runFrom program limit { state := start } = some outcome) ↔
      ∃ passes, IsLeast (passesToZero start.machine.current
          (netChange start.machine.tape.length 0 instructions)) passes ∧
        outcome = .ok { instructions := 1 + passes * (instructions.length + 1) }
          ⟨start.machine.afterPasses instructions passes, start.streams⟩ := by
  obtain ⟨body, rfl⟩ := exists_block_of_elementary instructions elementary
  have blockEq : program.block = .loop body .done :=
    Block.toList_injective (Program.toList_block_of_ofList built)
  have acts := acts_of_elementary body elementary
  have exitsEq : exits (fun machine => machine.after body.toList) start.machine =
      passesToZero start.machine.current (netChange start.machine.tape.length 0 body.toList) :=
    Set.ext fun passes => Machine.isNonzero_afterPasses_eq_false_iff body.toList closed passes
  have fromZero (count : Nat) : { ({} : Statistics) with instructions := 0 + count } =
      ({ instructions := count } : Statistics) := by rw [Nat.zero_add]
  rw [exists_runFrom_eq_some_iff, blockEq, ← exitsEq]
  constructor
  · intro ends
    obtain ⟨passes, least, rfl⟩ := exists_isLeast_of_ends acts ends
    rw [fromZero]
    exact ⟨passes, least, rfl⟩
  · rintro ⟨passes, least, rfl⟩
    have ends := ends_of_isLeast acts least {} start.streams
    rw [fromZero] at ends
    exact ends

/-- Closing a run that has not called its streams is one flush. -/
theorem run_of_flush {program : Program} {limit : Nat} {start : State} {counted : Statistics}
    {machine : Machine} {streams flushed : Streams}
    (ended : runFrom program limit { state := start } = some (.ok counted ⟨machine, streams⟩))
    (succeeds : Streams.flush streams = .ok () flushed) :
    run limit program start = some (.ok counted ⟨machine, flushed⟩) := by
  have closes : flush ⟨machine, streams⟩ = .ok () ⟨machine, flushed⟩ := by
    rw [flush, succeeds]
  exact run_eq_some_iff.mpr ⟨_, ended, close_eq_ok_iff.mpr ⟨_, rfl, closes⟩⟩

theorem cell?_at_offset {instructions : List Instruction} {machine : Machine}
    (closed : (machine.tape.length : Int) ∣ displacement instructions) (passes offset : Nat) :
    (machine.afterPasses instructions passes).cell?
        ((machine.pointer + offset) % machine.tape.length) =
      grown (passes * netChange machine.tape.length offset instructions)
        (machine.cell? ((machine.pointer + offset) % machine.tape.length)) := by
  have inside := Nat.mod_lt (machine.pointer + offset) machine.tape.length_pos
  have same : (((machine.pointer + offset) % machine.tape.length : Nat) : Int) - machine.pointer ≡
      offset [ZMOD machine.tape.length] := by
    have around := (Int.mod_modEq (machine.pointer + offset) machine.tape.length).sub_right
      (machine.pointer : Int)
    rw [add_sub_cancel_left] at around
    exact_mod_cast around
  rw [Machine.cell?_afterPasses instructions closed inside, netChange_congr same]

/-- A loop of moves and changes by one that leaves the pointer where it was ends if and only
if some number of passes makes its cell zero, as it always does if a pass changes the cell by
an odd amount.  It takes the least such number of passes, and every cell grows by what a pass
adds to it, once for each of them. -/
theorem run_counting_loop {instructions : List Instruction}
    (elementary : ∀ instruction ∈ instructions, instruction.isElementary = true) :
    ∃ program, Program.ofList (.loopStart :: instructions ++ [.loopEnd]) = .ok program ∧
      ∀ (length : Nat) (start : State), (length : Int) ∣ displacement instructions →
        start.machine.tape.length = length →
          ((∃ limit outcome, run limit program start = some outcome) ↔
            (passesToZero start.machine.current (netChange length 0 instructions)).Nonempty) ∧
          (Odd (netChange length 0 instructions) →
            (passesToZero start.machine.current (netChange length 0 instructions)).Nonempty) ∧
          (∀ passes,
            IsLeast (passesToZero start.machine.current (netChange length 0 instructions))
                passes →
              passes ≤ 255 ∧
              ∀ flushed, Streams.flush start.streams = .ok () flushed →
                ∃ limit final, run limit program start =
                    some (.ok { instructions := 1 + passes * (instructions.length + 1) }
                      ⟨final, flushed⟩) ∧
                  final.pointer = start.machine.pointer ∧ final.tape.length = length ∧
                  ∀ offset : Nat, final.cell? ((start.machine.pointer + offset) % length) =
                    grown (passes * netChange length offset instructions)
                      (start.machine.cell? ((start.machine.pointer + offset) % length))) ∧
          (¬ (passesToZero start.machine.current (netChange length 0 instructions)).Nonempty →
            ∀ limit, run limit program start = none) := by
  obtain ⟨body, bodyEq⟩ := exists_block_of_elementary instructions elementary
  have listEq : (Block.loop body .done).toList = .loopStart :: instructions ++ [.loopEnd] := by
    simp [Block.toList, bodyEq]
  obtain ⟨program, built⟩ := Program.exists_ofList_eq_ok_iff.mpr ⟨_, listEq⟩
  refine ⟨program, built, ?_⟩
  rintro length start closed rfl
  have ended := fun outcome : Outcome => @exists_runFrom_iff_isLeast program instructions
    elementary built start closed outcome
  have nonempty_of_run {limit : Nat} {outcome : Outcome}
      (runEnded : run limit program start = some outcome) :
      (passesToZero start.machine.current
        (netChange start.machine.tape.length 0 instructions)).Nonempty := by
    obtain ⟨opened, fromEnded, -⟩ := run_eq_some_iff.mp runEnded
    obtain ⟨passes, least, -⟩ := (ended opened).mp ⟨limit, fromEnded⟩
    exact ⟨passes, least.1⟩
  refine ⟨⟨?_, ?_⟩, fun odd => nonempty_passesToZero_of_odd odd _, ?_, ?_⟩
  · rintro ⟨limit, outcome, runEnded⟩
    exact nonempty_of_run runEnded
  · intro nonempty
    obtain ⟨limit, fromEnded⟩ := (ended _).mpr ⟨_, nonempty.isLeast_natFind, rfl⟩
    exact ⟨limit, _, run_eq_some_iff.mpr ⟨_, fromEnded, rfl⟩⟩
  · intro passes least
    refine ⟨le_of_isLeast_passesToZero least, fun flushed succeeds => ?_⟩
    obtain ⟨limit, fromEnded⟩ := (ended _).mpr ⟨passes, least, rfl⟩
    exact ⟨limit, start.machine.afterPasses instructions passes, run_of_flush fromEnded succeeds,
      Machine.pointer_afterPasses instructions closed passes,
      Machine.length_afterPasses instructions start.machine passes, cell?_at_offset closed passes⟩
  · intro never limit
    cases runEnded : run limit program start with
    | none => rfl
    | some outcome => exact absurd (nonempty_of_run runEnded) never

/-- On a tape of two cells two moves to the right are none: each of three passes takes one
from the first cell and adds one to the second. -/
theorem run_counting_loop_around :
    ∃ (machine : Machine) (program : Program) (limit : Nat) (final : State),
      machine.tape.cells = #[3, 254] ∧ machine.pointer = 0 ∧
      displacement [.decrement, .moveRight, .increment, .moveRight] = 2 ∧
      netChange 2 0 [.decrement, .moveRight, .increment, .moveRight] = -1 ∧
      netChange 2 1 [.decrement, .moveRight, .increment, .moveRight] = 1 ∧
      Program.ofList [.loopStart, .decrement, .moveRight, .increment, .moveRight, .loopEnd] =
        .ok program ∧
      run limit program ⟨machine, {}⟩ = some (.ok { instructions := 16 } final) ∧
      final.machine.pointer = 0 ∧ final.machine.cell? 0 = some 0 ∧
      final.machine.cell? 1 = some 1 := by
  let instructions : List Instruction := [.decrement, .moveRight, .increment, .moveRight]
  let machine : Machine := ⟨⟨#[3, 254], by decide⟩, 0, by decide⟩
  have change : netChange 2 0 instructions = -1 := by decide
  have otherChange : netChange 2 1 instructions = 1 := by decide
  have least : IsLeast (passesToZero machine.current (netChange 2 0 instructions)) 3 := by
    rw [change]
    refine ⟨by decide, fun passes member => ?_⟩
    have met : (256 : Int) ∣ 3 + passes * (-1) := member
    omega
  obtain ⟨program, built, runs⟩ := @run_counting_loop instructions (by decide)
  obtain ⟨-, -, ends, -⟩ := runs 2 ⟨machine, {}⟩ (by decide) rfl
  obtain ⟨-, reached⟩ := ends 3 least
  obtain ⟨limit, final, ended, pointerEq, -, cells⟩ := reached _ rfl
  have first := cells 0
  have second := cells 1
  rw [Nat.cast_zero, change] at first
  rw [Nat.cast_one, otherChange] at second
  exact ⟨machine, program, limit, _, rfl, rfl, rfl, change, otherChange, built, ended, pointerEq,
    first.trans (by decide), second.trans (by decide)⟩

end Execution

end Brainfuck
