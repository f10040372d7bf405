import Brainfuck.Proofs.Lockstep

/-!
# Substituting instructions

A program is changed instruction by instruction: some instructions become others, some are
left out, and the brackets stay as they are.  The new program has the same loops, but not at
the same indices, and a run of it need not take the same number of steps.

Two such programs end alike if each instruction does to a state what the one that it becomes
does to a related state, and does nothing that matters where it is left out.  The runs are
compared by way of the blocks of the programs, in which there are no indices.
-/

namespace Brainfuck

/-! ## Blocks -/

/-- A substitution leaves the brackets alone and makes no new ones. -/
structure KeepsBrackets (substitute : Instruction → Option Instruction) : Prop where
  loopStart : substitute .loopStart = some .loopStart
  loopEnd : substitute .loopEnd = some .loopEnd
  plain : ∀ {instruction other : Instruction}, instruction.isBracket = false →
    substitute instruction = some other → other.isBracket = false

/-- The second block is the first one after a substitution. -/
inductive Block.Substituted (substitute : Instruction → Option Instruction) : Block → Block → Prop
  | done : Substituted substitute .done .done
  | becomes {instruction other : Instruction} {isPlain : instruction.isBracket = false}
      {otherIsPlain : other.isBracket = false} {rest otherRest : Block}
      (found : substitute instruction = some other)
      (rests : Substituted substitute rest otherRest) :
      Substituted substitute (.plain instruction isPlain rest) (.plain other otherIsPlain otherRest)
  | leaves {instruction : Instruction} {isPlain : instruction.isBracket = false}
      {rest otherRest : Block} (found : substitute instruction = none)
      (rests : Substituted substitute rest otherRest) :
      Substituted substitute (.plain instruction isPlain rest) otherRest
  | loop {body otherBody rest otherRest : Block} (bodies : Substituted substitute body otherBody)
      (rests : Substituted substitute rest otherRest) :
      Substituted substitute (.loop body rest) (.loop otherBody otherRest)

theorem Block.exists_substituted {substitute : Instruction → Option Instruction}
    (keeps : KeepsBrackets substitute) (block : Block) :
    ∃ other, Substituted substitute block other ∧
      other.toList = block.toList.filterMap substitute := by
  induction block with
  | done => exact ⟨.done, .done, rfl⟩
  | plain instruction isPlain rest ih =>
      obtain ⟨otherRest, rests, listEq⟩ := ih
      cases found : substitute instruction with
      | none =>
          refine ⟨otherRest, .leaves found rests, ?_⟩
          rw [Block.toList, List.filterMap_cons_none found, listEq]
      | some other =>
          refine ⟨.plain other (keeps.plain isPlain found) otherRest, .becomes found rests, ?_⟩
          rw [Block.toList, Block.toList, List.filterMap_cons_some found, listEq]
  | loop body rest bodyIH restIH =>
      obtain ⟨otherBody, bodies, bodyEq⟩ := bodyIH
      obtain ⟨otherRest, rests, restEq⟩ := restIH
      refine ⟨.loop otherBody otherRest, .loop bodies rests, ?_⟩
      rw [Block.toList, Block.toList, List.filterMap_cons_some keeps.loopStart,
        List.filterMap_append, List.filterMap_cons_some keeps.loopEnd, bodyEq, restEq]

/-- What becomes of the instructions of a program is a program. -/
theorem KeepsBrackets.exists_ofList {substitute : Instruction → Option Instruction}
    (keeps : KeepsBrackets substitute) (program : Program) :
    ∃ other, Program.ofList (program.toList.filterMap substitute) = .ok other := by
  obtain ⟨block, -, listEq⟩ := Block.exists_substituted keeps program.block
  rw [Program.toList_block] at listEq
  exact Program.exists_ofList_eq_ok_iff.mpr ⟨block, listEq⟩

namespace Execution

/-! ## Single instructions -/

/-- What an instruction that does not jump makes of the counters and of a state. -/
def performCounted (instruction : Instruction) (statistics : Statistics) (state : State) :
    Outcome :=
  match perform instruction state with
  | .ok transfer next => .ok (statistics.record transfer) next
  | .error kind next => .error kind next

/-- A block ends with an outcome if what stands in front of it has ended with another one. -/
inductive EndsAfter (block : Block) : Outcome → Outcome → Prop
  | ok {statistics : Statistics} {state : State} {outcome : Outcome}
      (ends : Ends block statistics state outcome) : EndsAfter block (.ok statistics state) outcome
  | error {kind : FailureKind} {state : State} :
      EndsAfter block (.error kind state) (.error kind state)

theorem ends_plain_iff {instruction : Instruction} {isPlain : instruction.isBracket = false}
    {rest : Block} {statistics : Statistics} {state : State} {outcome : Outcome} :
    Ends (.plain instruction isPlain rest) statistics state outcome ↔
      EndsAfter rest (performCounted instruction statistics state) outcome := by
  constructor
  · intro ends
    cases ends with
    | plain performed restEnds =>
        rw [performCounted, performed]
        exact .ok restEnds
    | plainFails failed =>
        rw [performCounted, failed]
        exact .error
  · intro ends
    rw [performCounted] at ends
    cases performed : perform instruction state with
    | ok transfer next =>
        rw [performed] at ends
        cases ends with
        | ok restEnds => exact .plain performed restEnds
    | error kind next =>
        rw [performed] at ends
        cases ends with
        | error => exact .plainFails performed

/-! ## Outcomes alike -/

/-- Both outcomes are successes with related counters, or failures of the same kind, and in
either case the states are related. -/
inductive Alike (counts : Statistics → Statistics → Prop) (related : State → State → Prop) :
    Outcome → Outcome → Prop
  | ok {statistics counted : Statistics} {first second : State}
      (counters : counts statistics counted) (states : related first second) :
      Alike counts related (.ok statistics first) (.ok counted second)
  | error {kind : FailureKind} {first second : State} (states : related first second) :
      Alike counts related (.error kind first) (.error kind second)

theorem Corresponds.performCounted {counts : Statistics → Statistics → Prop}
    {related : State → State → Prop} {instruction other : Instruction} {first second : State}
    (corresponds : Corresponds related (perform instruction first) (perform other second))
    {statistics counted : Statistics}
    (records : ∀ transfer next, perform instruction first = .ok transfer next →
      counts (statistics.record transfer) (counted.record transfer)) :
    Alike counts related (performCounted instruction statistics first)
      (performCounted other counted second) := by
  rw [Execution.performCounted, Execution.performCounted]
  generalize perform instruction first = done at corresponds records ⊢
  generalize perform other second = otherDone at corresponds ⊢
  cases corresponds with
  | ok states => exact .ok (records _ _ rfl) states
  | error states => exact .error states

/-- Every outcome of the first block is like one of the second block. -/
def Simulates (counts : Statistics → Statistics → Prop) (related : State → State → Prop)
    (first second : Block) : Prop :=
  ∀ statistics counted start other outcome, counts statistics counted → related start other →
    Ends first statistics start outcome →
      ∃ otherOutcome, Ends second counted other otherOutcome ∧
        Alike counts related outcome otherOutcome

section Simulates

variable {counts : Statistics → Statistics → Prop} {related : State → State → Prop}
  {instruction other : Instruction} {isPlain : instruction.isBracket = false}
  {otherIsPlain : other.isBracket = false} {body otherBody rest otherRest block : Block}
  {outcome otherOutcome : Outcome}

theorem Alike.flip (alike : Alike counts related outcome otherOutcome) :
    Alike (flip counts) (flip related) otherOutcome outcome := by
  cases alike with
  | ok counters states => exact .ok counters states
  | error states => exact .error states

namespace Simulates

theorem done : Simulates counts related .done .done := by
  intro statistics counted start other outcome counters states ends
  cases ends
  exact ⟨.ok counted other, .done, .ok counters states⟩

theorem endsAfter (rests : Simulates counts related rest otherRest) {reached otherReached : Outcome}
    (alike : Alike counts related reached otherReached) (ends : EndsAfter rest reached outcome) :
    ∃ otherOutcome, EndsAfter otherRest otherReached otherOutcome ∧
      Alike counts related outcome otherOutcome := by
  cases alike with
  | ok counters states =>
      cases ends with
      | ok restEnds =>
          obtain ⟨otherOutcome, otherEnds, alike⟩ := rests _ _ _ _ _ counters states restEnds
          exact ⟨otherOutcome, .ok otherEnds, alike⟩
  | error states =>
      cases ends with
      | error => exact ⟨_, .error, .error states⟩

theorem plain
    (alike : ∀ statistics counted first second, counts statistics counted → related first second →
      Alike counts related (performCounted instruction statistics first)
        (performCounted other counted second))
    (rests : Simulates counts related rest otherRest) :
    Simulates counts related (.plain instruction isPlain rest)
      (.plain other otherIsPlain otherRest) := by
  intro statistics counted first second outcome counters states ends
  obtain ⟨otherOutcome, otherEnds, outcomes⟩ :=
    rests.endsAfter (alike statistics counted first second counters states) (ends_plain_iff.mp ends)
  exact ⟨otherOutcome, ends_plain_iff.mpr otherEnds, outcomes⟩

/-- The first block may begin with an instruction that does nothing that matters. -/
theorem skipFirst
    (silent : ∀ statistics counted first second, counts statistics counted → related first second →
      ∃ next after, performCounted instruction statistics first = .ok next after ∧
        counts next counted ∧ related after second)
    (rests : Simulates counts related rest block) :
    Simulates counts related (.plain instruction isPlain rest) block := by
  intro statistics counted first second outcome counters states ends
  obtain ⟨next, after, performed, stillCounted, stillRelated⟩ :=
    silent statistics counted first second counters states
  rw [ends_plain_iff, performed] at ends
  cases ends with
  | ok restEnds => exact rests _ _ _ _ _ stillCounted stillRelated restEnds

theorem skipSecond
    (silent : ∀ statistics counted first second, counts statistics counted → related first second →
      ∃ next after, performCounted instruction counted second = .ok next after ∧
        counts statistics next ∧ related first after)
    (rests : Simulates counts related block rest) :
    Simulates counts related block (.plain instruction isPlain rest) := by
  intro statistics counted first second outcome counters states ends
  obtain ⟨next, after, performed, stillCounted, stillRelated⟩ :=
    silent statistics counted first second counters states
  obtain ⟨otherOutcome, otherEnds, alike⟩ := rests _ _ _ _ _ stillCounted stillRelated ends
  refine ⟨otherOutcome, ?_, alike⟩
  rw [ends_plain_iff, performed]
  exact .ok otherEnds

/-- The induction follows the passes of the first loop. -/
theorem loop
    (sameTest : ∀ first second, related first second →
      second.machine.isNonzero = first.machine.isNonzero)
    (test : ∀ statistics counted, counts statistics counted →
      counts (statistics.record .nothing) (counted.record .nothing))
    (bodies : Simulates counts related body otherBody)
    (rests : Simulates counts related rest otherRest) :
    Simulates counts related (.loop body rest) (.loop otherBody otherRest) := by
  intro statistics counted first second outcome counters states ends
  generalize blockEq : Block.loop body rest = block at ends
  induction ends generalizing counted second with
  | done | plain | plainFails => cases blockEq
  | loopDone isZero restEnds _ =>
      cases blockEq
      obtain ⟨otherOutcome, otherEnds, alike⟩ :=
        rests _ _ _ _ _ (test _ _ counters) states restEnds
      exact ⟨otherOutcome, .loopDone ((sameTest _ _ states).trans isZero) otherEnds, alike⟩
  | loopPass isNonzero bodyEnds _ _ againIH =>
      cases blockEq
      obtain ⟨bodyOutcome, otherBodyEnds, bodyAlike⟩ :=
        bodies _ _ _ _ _ (test _ _ counters) states bodyEnds
      cases bodyAlike with
      | ok bodyCounters bodyStates =>
          obtain ⟨otherOutcome, again, alike⟩ := againIH _ _ bodyCounters bodyStates rfl
          exact ⟨otherOutcome,
            .loopPass ((sameTest _ _ states).trans isNonzero) otherBodyEnds again, alike⟩
  | loopFails isNonzero bodyFails _ =>
      cases blockEq
      obtain ⟨bodyOutcome, otherBodyFails, bodyAlike⟩ :=
        bodies _ _ _ _ _ (test _ _ counters) states bodyFails
      cases bodyAlike with
      | error bodyStates =>
          exact ⟨_, .loopFails ((sameTest _ _ states).trans isNonzero) otherBodyFails,
            .error bodyStates⟩

end Simulates

end Simulates

/-! ## Substitutions that do not show -/

/-- Counters and states that stay related while one of them goes through a program and the
other one through what has become of it. -/
structure Preserves (substitute : Instruction → Option Instruction)
    (counts : Statistics → Statistics → Prop) (related : State → State → Prop) : Prop where
  isNonzero_eq : ∀ first second, related first second →
    second.machine.isNonzero = first.machine.isNonzero
  empty : counts {} {}
  test : ∀ statistics counted, counts statistics counted →
    counts (statistics.record .nothing) (counted.record .nothing)
  becomes : ∀ {instruction other}, instruction.isBracket = false →
    substitute instruction = some other →
      ∀ statistics counted first second, counts statistics counted → related first second →
        Alike counts related (performCounted instruction statistics first)
          (performCounted other counted second)
  leaves : ∀ {instruction}, substitute instruction = none →
    ∀ statistics counted first second, counts statistics counted → related first second →
      ∃ next after, performCounted instruction statistics first = .ok next after ∧
        counts next counted ∧ related after second
  flush : ∀ first second, related first second → Corresponds related (flush first) (flush second)

namespace Preserves

variable {substitute : Instruction → Option Instruction} {counts : Statistics → Statistics → Prop}
  {related : State → State → Prop}

theorem simulates (preserves : Preserves substitute counts related) {block other : Block}
    (substituted : Block.Substituted substitute block other) :
    Simulates counts related block other := by
  induction substituted with
  | done => exact .done
  | @becomes instruction other isPlain otherIsPlain rest otherRest found rests ih =>
      exact .plain (preserves.becomes isPlain found) ih
  | leaves found rests ih => exact .skipFirst (preserves.leaves found) ih
  | loop bodies rests bodyIH restIH =>
      exact .loop preserves.isNonzero_eq preserves.test bodyIH restIH

/-- The other way around the block that has more instructions is the second one. -/
theorem simulates_back (preserves : Preserves substitute counts related) {block other : Block}
    (substituted : Block.Substituted substitute block other) :
    Simulates (flip counts) (flip related) other block := by
  induction substituted with
  | done => exact .done
  | @becomes instruction other isPlain otherIsPlain rest otherRest found rests ih =>
      refine .plain (fun counted statistics second first counters states => ?_) ih
      exact (preserves.becomes isPlain found statistics counted first second counters
        states).flip
  | leaves found rests ih =>
      refine .skipSecond (fun counted statistics second first counters states => ?_) ih
      exact preserves.leaves found statistics counted first second counters states
  | loop bodies rests bodyIH restIH =>
      exact .loop (fun second first states => (preserves.isNonzero_eq first second states).symm)
        (fun counted statistics => preserves.test statistics counted) bodyIH restIH

theorem close (preserves : Preserves substitute counts related) {outcome otherOutcome : Outcome}
    (alike : Alike counts related outcome otherOutcome) :
    Alike counts related (close outcome) (close otherOutcome) := by
  cases alike with
  | error states => exact .error states
  | ok counters states =>
      rw [Execution.close, Execution.close]
      have flushed := preserves.flush _ _ states
      generalize Execution.flush _ = done at flushed ⊢
      generalize Execution.flush _ = otherDone at flushed ⊢
      cases flushed with
      | ok after => exact .ok counters after
      | error after => exact .error after

end Preserves

/-! ## Runs -/

/-- If one of the two runs ends, so does the other one, and their results are alike. -/
structure EndAlike (counts : Statistics → Statistics → Prop) (related : State → State → Prop)
    (program other : Program) (start otherStart : State) : Prop where
  there : ∀ limit result, run limit program start = some result →
    ∃ otherLimit otherResult, run otherLimit other otherStart = some otherResult ∧
      Alike counts related result otherResult
  back : ∀ otherLimit otherResult, run otherLimit other otherStart = some otherResult →
    ∃ limit result, run limit program start = some result ∧
      Alike counts related result otherResult

/-- The outcomes before the closing flush are those of the blocks. -/
theorem exists_run_of_simulates {counts : Statistics → Statistics → Prop}
    {related : State → State → Prop} {program other : Program}
    (simulates : Simulates counts related program.block other.block) {start otherStart : State}
    (empty : counts {} {}) (states : related start otherStart) {limit : Nat} {outcome : Outcome}
    (ended : runFrom program limit { state := start } = some outcome) :
    ∃ otherLimit otherOutcome,
      run otherLimit other otherStart = some (close otherOutcome) ∧
        Alike counts related outcome otherOutcome := by
  have ends := exists_runFrom_eq_some_iff.mp ⟨limit, ended⟩
  obtain ⟨otherOutcome, otherEnds, alike⟩ := simulates _ _ _ _ _ empty states ends
  obtain ⟨otherLimit, otherEnded⟩ := exists_runFrom_eq_some_iff.mpr otherEnds
  exact ⟨otherLimit, otherOutcome, run_eq_some_iff.mpr ⟨otherOutcome, otherEnded, rfl⟩, alike⟩

/-- What becomes of a program ends as the program itself does. -/
theorem Preserves.endAlike {substitute : Instruction → Option Instruction}
    {counts : Statistics → Statistics → Prop} {related : State → State → Prop}
    (preserves : Preserves substitute counts related) (keeps : KeepsBrackets substitute)
    {program other : Program}
    (built : Program.ofList (program.toList.filterMap substitute) = .ok other)
    {start otherStart : State} (states : related start otherStart) :
    EndAlike counts related program other start otherStart := by
  obtain ⟨block, substituted, listEq⟩ := Block.exists_substituted keeps program.block
  rw [Program.toList_block] at listEq
  obtain rfl : other.block = block :=
    Block.toList_injective ((Program.toList_block_of_ofList built).trans listEq.symm)
  constructor
  · intro limit result ended
    obtain ⟨outcome, runEnded, rfl⟩ := run_eq_some_iff.mp ended
    obtain ⟨otherLimit, otherOutcome, otherEnded, alike⟩ :=
      exists_run_of_simulates (preserves.simulates substituted) preserves.empty states runEnded
    exact ⟨otherLimit, _, otherEnded, preserves.close alike⟩
  · intro otherLimit otherResult otherEnded
    obtain ⟨otherOutcome, otherRunEnded, rfl⟩ := run_eq_some_iff.mp otherEnded
    obtain ⟨limit, outcome, ended, alike⟩ :=
      exists_run_of_simulates (preserves.simulates_back substituted) preserves.empty states
        otherRunEnded
    exact ⟨limit, _, ended, preserves.close alike.flip⟩

end Execution

end Brainfuck
