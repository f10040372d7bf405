import Brainfuck.Proofs.Accounting
import Brainfuck.Proofs.Composition
import Mathlib.Data.List.Forall2

/-!
# Replacing parts of programs

A part of a program with balanced loops may be replaced by another one that
reaches the same endings: the whole program then reaches the same endings too.
Around the part there may be loops that begin before it and end behind it, so
the replacement is followed through the reading of the instructions from the
end, in which such loops are still open.
-/

namespace Brainfuck

namespace Execution

/-! ## Compositions of two blocks -/

/-- What follows the ending of a first part. -/
def Continues (next : Block) : Ending → Ending → Prop
  | .ok () state, reached => Composes next state reached
  | .error kind state, reached => reached = .error kind state

theorem compose_append (limit : Nat) (first next : Block) :
    compose limit (first.append next) =
      (do compose limit first; compose limit next) := by
  induction first with
  | done => simp [Block.append, compose]
  | plain instruction isPlain rest ih => simp [Block.append, compose, ih]
  | loop body rest _ ih => simp [Block.append, compose, ih]

/-- Once its loops may take enough passes, a composition does not change. -/
theorem Composes.exists_bound {block : Block} {start : State} {reached : Ending}
    (composes : Composes block start reached) :
    ∃ bound, ∀ limit, bound ≤ limit → compose limit block start = liftResult reached := by
  obtain ⟨outcome, ends, rfl⟩ := (composes_iff_ends {}).mp composes
  obtain ⟨bound, composed⟩ := exists_composeFrom_of_ends ends
  refine ⟨bound, fun limit enough => ?_⟩
  rw [← composeFrom_self]
  exact composed limit enough 0 limit enough

theorem composes_append_iff {first next : Block} {start : State} {reached : Ending} :
    Composes (first.append next) start reached ↔
      ∃ middle, Composes first start middle ∧ Continues next middle reached := by
  constructor
  · rintro ⟨limit, composed⟩
    simp only [compose_append, bind, EStateM.bind] at composed
    cases firstComposed : compose limit first start with
    | ok _ middle =>
        rw [firstComposed] at composed
        exact ⟨.ok () middle, ⟨limit, firstComposed⟩, ⟨limit, composed⟩⟩
    | error stop final =>
        rw [firstComposed] at composed
        cases reached with
        | ok _ state => cases composed
        | error kind state =>
            exact ⟨.error kind state, ⟨limit, firstComposed.trans composed⟩, rfl⟩
  · rintro ⟨middle, composes, continues⟩
    obtain ⟨bound, composed⟩ := composes.exists_bound
    cases middle with
    | ok _ state =>
        obtain ⟨nextBound, nextComposed⟩ := Composes.exists_bound continues
        refine ⟨max bound nextBound, ?_⟩
        simp only [compose_append, bind, EStateM.bind, composed _ (Nat.le_max_left ..)]
        exact nextComposed _ (Nat.le_max_right ..)
    | error kind state =>
        obtain rfl := continues
        refine ⟨bound, ?_⟩
        simp only [compose_append, bind, EStateM.bind, composed _ (Nat.le_refl bound)]
        rfl

/-! ## Compositions of loops -/

section Loop

variable {body rest : Block} {start next : State} {reached : Ending}

theorem composes_loop_of_zero (isZero : start.machine.isNonzero = false)
    (goesOn : Composes rest start reached) : Composes (.loop body rest) start reached := by
  obtain ⟨outcome, ends, rfl⟩ := (composes_iff_ends (({} : Statistics).record .nothing)).mp goesOn
  exact (composes_iff_ends {}).mpr ⟨outcome, .loopDone isZero ends, rfl⟩

theorem composes_loop_of_pass (isNonzero : start.machine.isNonzero = true)
    (passes : Composes body start (.ok () next)) (again : Composes (.loop body rest) next reached) :
    Composes (.loop body rest) start reached := by
  obtain ⟨bodyOutcome, bodyEnds, ended⟩ :=
    (composes_iff_ends (({} : Statistics).record .nothing)).mp passes
  cases bodyOutcome with
  | ok counted after =>
      cases ended
      obtain ⟨outcome, ends, rfl⟩ := (composes_iff_ends counted).mp again
      exact (composes_iff_ends {}).mpr ⟨outcome, .loopPass isNonzero bodyEnds ends, rfl⟩
  | error kind after => cases ended

theorem composes_loop_of_fail (isNonzero : start.machine.isNonzero = true) {kind : FailureKind}
    (fails : Composes body start (.error kind next)) :
    Composes (.loop body rest) start (.error kind next) := by
  obtain ⟨bodyOutcome, bodyEnds, ended⟩ :=
    (composes_iff_ends (({} : Statistics).record .nothing)).mp fails
  cases bodyOutcome with
  | ok counted after => cases ended
  | error cause after =>
      cases ended
      exact (composes_iff_ends {}).mpr ⟨_, .loopFails isNonzero bodyEnds, rfl⟩

end Loop

theorem length_eq_of_ends {block : Block} {statistics counted : Statistics} {start final : State}
    (ends : Ends block statistics start (.ok counted final)) :
    final.machine.tape.length = start.machine.tape.length := by
  generalize outcomeEq : (.ok counted final : Outcome) = outcome at ends
  induction ends generalizing counted final with
  | done =>
      cases outcomeEq
      rfl
  | plain performed _ ih =>
      exact (ih outcomeEq).trans (completed_of_perform performed).length_eq
  | plainFails failed => cases outcomeEq
  | loopDone isZero _ ih => exact ih outcomeEq
  | loopPass isNonzero _ _ bodyIH againIH => exact (againIH outcomeEq).trans (bodyIH rfl)
  | loopFails isNonzero _ _ => cases outcomeEq

theorem length_eq_of_composes {block : Block} {start next : State}
    (composes : Composes block start (.ok () next)) :
    next.machine.tape.length = start.machine.tape.length := by
  obtain ⟨outcome, ends, ended⟩ := (composes_iff_ends {}).mp composes
  cases outcome with
  | ok counted final =>
      cases ended
      exact length_eq_of_ends ends
  | error kind final => cases ended

/-! ## Covering -/

/-- From machines of a length the second block reaches every ending that the
first one reaches. -/
def Covers (length : TapeLength) (first second : Block) : Prop :=
  ∀ start, start.machine.tape.length = length.count →
    ∀ reached, Composes first start reached → Composes second start reached

namespace Covers

variable {length : TapeLength} {first second : Block}

theorem refl (length : TapeLength) (block : Block) : Covers length block block :=
  fun _ _ _ composes => composes

theorem append_right (covers : Covers length first second) (next : Block) :
    Covers length (first.append next) (second.append next) := by
  intro start fits reached composes
  obtain ⟨middle, firstComposes, continues⟩ := composes_append_iff.mp composes
  exact composes_append_iff.mpr ⟨middle, covers start fits middle firstComposes, continues⟩

theorem append_left (block : Block) (covers : Covers length first second) :
    Covers length (block.append first) (block.append second) := by
  intro start fits reached composes
  obtain ⟨middle, blockComposes, continues⟩ := composes_append_iff.mp composes
  refine composes_append_iff.mpr ⟨middle, blockComposes, ?_⟩
  cases middle with
  | ok _ state =>
      exact covers state ((length_eq_of_composes blockComposes).trans fits) reached continues
  | error kind state => exact continues

/-- The induction follows the passes of the loop. -/
theorem loop {body otherBody rest otherRest : Block} (bodyCovers : Covers length body otherBody)
    (restCovers : Covers length rest otherRest) :
    Covers length (.loop body rest) (.loop otherBody otherRest) := by
  intro start fits reached composes
  obtain ⟨outcome, ends, rfl⟩ := (composes_iff_ends {}).mp composes
  generalize ({} : Statistics) = statistics at ends
  generalize blockEq : Block.loop body rest = block at ends
  clear composes
  induction ends with
  | done | plain | plainFails => cases blockEq
  | @loopDone body rest statistics state outcome isZero restEnds _ =>
      cases blockEq
      have goesOn : Composes rest state (ending outcome) :=
        (composes_iff_ends _).mpr ⟨outcome, restEnds, rfl⟩
      exact composes_loop_of_zero isZero (restCovers state fits _ goesOn)
  | @loopPass body rest statistics counted state next outcome isNonzero bodyEnds _ _ againIH =>
      cases blockEq
      have passes : Composes body state (.ok () next) :=
        (composes_iff_ends _).mpr ⟨.ok counted next, bodyEnds, rfl⟩
      have stillFits := (length_eq_of_composes passes).trans fits
      exact composes_loop_of_pass isNonzero (bodyCovers state fits _ passes)
        (againIH stillFits rfl)
  | @loopFails body rest statistics state next kind isNonzero bodyEnds _ =>
      cases blockEq
      have fails : Composes body state (.error kind next) :=
        (composes_iff_ends _).mpr ⟨.error kind next, bodyEnds, rfl⟩
      exact composes_loop_of_fail isNonzero (bodyCovers state fits _ fails)

end Covers

/-! ## Replacing -/

/-- Readings whose blocks are covered one by one. -/
def ReadingCovers (length : TapeLength) (first second : Block × List Block) : Prop :=
  Covers length first.1 second.1 ∧ List.Forall₂ (Covers length) first.2 second.2

theorem exists_attach_of_covers {length : TapeLength} {reading other attached : Block × List Block}
    (covers : ReadingCovers length reading other) {instruction : Instruction}
    (found : Block.attach instruction reading.1 reading.2 = some attached) :
    ∃ otherAttached, Block.attach instruction other.1 other.2 = some otherAttached ∧
      ReadingCovers length attached otherAttached := by
  obtain ⟨block, outer⟩ := reading
  obtain ⟨otherBlock, otherOuter⟩ := other
  obtain ⟨blockCovers, outerCovers⟩ := covers
  unfold Block.attach at found ⊢
  by_cases isPlain : instruction.isBracket = false
  · rw [dif_pos isPlain] at found ⊢
    cases found
    -- a plain instruction is a block of its own in front of the rest
    exact ⟨_, rfl, Covers.append_left (.plain instruction isPlain .done) blockCovers, outerCovers⟩
  rw [dif_neg isPlain] at found ⊢
  by_cases isEnd : instruction = .loopEnd
  · rw [if_pos isEnd] at found ⊢
    cases found
    exact ⟨_, rfl, Covers.refl length .done, .cons blockCovers outerCovers⟩
  · rw [if_neg isEnd] at found ⊢
    cases outerCovers with
    | nil => cases found
    | cons nextCovers outerCovers =>
        cases found
        exact ⟨_, rfl, Covers.loop blockCovers nextCovers, outerCovers⟩

/-- The induction is on the instructions in front of the part. -/
theorem exists_read_of_covers {length : TapeLength} {first second : Block}
    (covers : Covers length first second) (before after : List Instruction)
    {reading : Block × List Block}
    (found : Block.read (before ++ (first.toList ++ after)) = some reading) :
    ∃ other, Block.read (before ++ (second.toList ++ after)) = some other ∧
      ReadingCovers length reading other := by
  induction before generalizing reading with
  | nil =>
      obtain ⟨⟨next, outer⟩, readAfter⟩ := Block.exists_read_of_append first.toList found
      have readFirst := Block.read_append readAfter first
      obtain rfl := Option.some.inj (readFirst.symm.trans found)
      have outerCovers : List.Forall₂ (Covers length) outer outer :=
        List.forall₂_same.mpr fun block _ => Covers.refl length block
      exact ⟨_, Block.read_append readAfter second, covers.append_right next, outerCovers⟩
  | cons instruction before ih =>
      rw [List.cons_append, Block.read] at found ⊢
      cases readBefore : Block.read (before ++ (first.toList ++ after)) with
      | none =>
          rw [readBefore] at found
          cases found
      | some next =>
          rw [readBefore] at found
          obtain ⟨other, readOther, otherCovers⟩ := ih readBefore
          rw [readOther]
          exact exists_attach_of_covers otherCovers found

/-- The whole block is covered as the part is. -/
theorem exists_block_of_covers {length : TapeLength} {first second whole : Block}
    (covers : Covers length first second) {before after : List Instruction}
    (listEq : whole.toList = before ++ (first.toList ++ after)) :
    ∃ replaced : Block, replaced.toList = before ++ (second.toList ++ after) ∧
      Covers length whole replaced := by
  have found : Block.read (before ++ (first.toList ++ after)) = some (whole, []) := by
    rw [← listEq]
    simpa [Block.flatten] using Block.read_flatten whole []
  obtain ⟨⟨replaced, outer⟩, readReplaced, blockCovers, outerCovers⟩ :=
    exists_read_of_covers covers before after found
  cases outerCovers
  have flattened := Block.flatten_of_read readReplaced
  exact ⟨replaced, by simpa [Block.flatten] using flattened, blockCovers⟩

/-! ## Runs -/

/-- An outcome without the number of instructions. -/
def uncounted : Outcome → Outcome
  | .ok statistics state => .ok { statistics with instructions := 0 } state
  | .error kind state => .error kind state

theorem uncounted_close (outcome : Outcome) :
    uncounted (close outcome) = close (uncounted outcome) := by
  cases outcome with
  | ok statistics state =>
      simp only [close, uncounted]
      cases flush state <;> rfl
  | error kind state => rfl

/-- The calls of the streams tell all counters but that of the instructions. -/
theorem uncounted_eq_of_ending_eq {program replaced : Program} {limit otherLimit : Nat}
    {start : State} {outcome otherOutcome : Outcome}
    (ended : runFrom program limit { state := start } = some outcome)
    (otherEnded : runFrom replaced otherLimit { state := start } = some otherOutcome)
    (same : ending outcome = ending otherOutcome) : uncounted outcome = uncounted otherOutcome := by
  cases outcome with
  | error kind final =>
      cases otherOutcome with
      | error cause otherFinal =>
          cases same
          rfl
      | ok counted otherFinal => cases same
  | ok statistics final =>
      cases otherOutcome with
      | error cause otherFinal => cases same
      | ok counted otherFinal =>
          cases same
          have accounted := accounted_of_runFrom ended
          have otherAccounted := accounted_of_runFrom otherEnded
          have countersEq : ∀ transfer, statistics.counter transfer = counted.counter transfer := by
            intro transfer
            have := accounted transfer
            have := otherAccounted transfer
            omega
          have bytesRead := countersEq .byteRead
          have bytesWritten := countersEq .byteWritten
          have endOfInputReads := countersEq .endOfInput
          simp_all [uncounted, Statistics.counter]

/-- A program has the outcomes of every program whose block its own block
covers, but for the number of instructions. -/
theorem exists_run_of_covers {length : TapeLength} {program replaced : Program}
    (covers : Covers length program.block replaced.block) {start : State}
    (fits : start.machine.tape.length = length.count) {outcome : Outcome}
    (reached : ∃ limit, (run limit program start).map uncounted = some outcome) :
    ∃ limit, (run limit replaced start).map uncounted = some outcome := by
  obtain ⟨limit, mapped⟩ := reached
  obtain ⟨result, ended, rfl⟩ := Option.map_eq_some_iff.mp mapped
  obtain ⟨opened, runEnded, rfl⟩ := run_eq_some_iff.mp ended
  have ends := exists_runFrom_eq_some_iff.mp ⟨limit, runEnded⟩
  have composes := covers start fits _ ((composes_iff_ends {}).mpr ⟨opened, ends, rfl⟩)
  obtain ⟨otherOpened, otherEnds, same⟩ := (composes_iff_ends {}).mp composes
  obtain ⟨otherLimit, otherEnded⟩ := exists_runFrom_eq_some_iff.mpr otherEnds
  refine ⟨otherLimit, ?_⟩
  rw [run_eq_some_iff.mpr ⟨otherOpened, otherEnded, rfl⟩, Option.map_some, uncounted_close,
    uncounted_close, uncounted_eq_of_ending_eq otherEnded runEnded same]

theorem covers_of_reaches {length : TapeLength} {program replaced : Program}
    (same : ∀ start, start.machine.tape.length = length.count →
      ∀ reached, Reaches program start reached → Reaches replaced start reached) :
    Covers length program.block replaced.block := by
  intro start fits reached composes
  rw [composes_iff_ends {}, ← reaches_iff_ends] at composes ⊢
  exact same start fits reached composes

/-- A part of a program can be replaced by another one that reaches the same
endings, before the flush that closes a run.  The parts have balanced loops;
what stands before and behind them need not. -/
theorem run_replace {length : TapeLength} {first second before after : List Instruction}
    {part replacement whole : Program} (built : Program.ofList first = .ok part)
    (replacementBuilt : Program.ofList second = .ok replacement)
    (same : ∀ start, start.machine.tape.length = length.count →
      ∀ reached, Reaches part start reached ↔ Reaches replacement start reached)
    (wholeBuilt : Program.ofList (before ++ first ++ after) = .ok whole) :
    ∃ replaced, Program.ofList (before ++ second ++ after) = .ok replaced ∧
      ∀ start, start.machine.tape.length = length.count → ∀ outcome,
        (∃ limit, (run limit whole start).map uncounted = some outcome) ↔
          ∃ limit, (run limit replaced start).map uncounted = some outcome := by
  have firstEq := Program.toList_block_of_ofList built
  have secondEq := Program.toList_block_of_ofList replacementBuilt
  have wholeEq := Program.toList_block_of_ofList wholeBuilt
  rw [List.append_assoc, ← firstEq] at wholeEq
  have covers := covers_of_reaches fun start fits reached => (same start fits reached).mp
  have coversBack := covers_of_reaches fun start fits reached => (same start fits reached).mpr
  obtain ⟨block, blockEq, wholeCovers⟩ := exists_block_of_covers covers wholeEq
  obtain ⟨wholeAgain, againEq, wholeCovered⟩ := exists_block_of_covers coversBack blockEq
  obtain rfl := Block.toList_injective (againEq.trans wholeEq.symm)
  rw [secondEq, ← List.append_assoc] at blockEq
  obtain ⟨replaced, replacedBuilt⟩ := Program.exists_ofList_eq_ok_iff.mpr ⟨block, blockEq⟩
  have replacedEq := Program.toList_block_of_ofList replacedBuilt
  obtain rfl := Block.toList_injective (replacedEq.trans blockEq.symm)
  refine ⟨replaced, replacedBuilt, fun start fits outcome => ?_⟩
  exact ⟨exists_run_of_covers wholeCovers fits, exists_run_of_covers wholeCovered fits⟩

theorem reaches_iff_of_runFrom {program : Program} {limit : Nat} {start : State} {outcome : Outcome}
    (ended : runFrom program limit { state := start } = some outcome) {reached : Ending} :
    Reaches program start reached ↔ ending outcome = reached := by
  constructor
  · rintro ⟨otherLimit, otherOutcome, otherEnded, rfl⟩
    rw [eq_of_runFrom ended otherEnded]
  · intro same
    exact ⟨limit, outcome, ended, same⟩

theorem run_replace_two_moves :
    ∃ part replacement whole,
      Program.ofList [.moveRight, .moveRight] = .ok part ∧ Program.ofList [] = .ok replacement ∧
      (∀ start : State, start.machine.tape.length = 2 →
        ∀ reached, Reaches part start reached ↔ Reaches replacement start reached) ∧
      Program.ofList ([.loopStart, .output] ++ [.moveRight, .moveRight] ++ [.loopEnd]) =
        .ok whole ∧
      ∃ replaced, Program.ofList ([.loopStart, .output] ++ [] ++ [.loopEnd]) = .ok replaced ∧
        ∀ start : State, start.machine.tape.length = 2 → ∀ outcome,
          (∃ limit, (run limit whole start).map uncounted = some outcome) ↔
            ∃ limit, (run limit replaced start).map uncounted = some outcome := by
  let length : TapeLength := ⟨2, by decide⟩
  let part : Program := ⟨#[.moveRight, .moveRight], #[0, 0], rfl⟩
  let replacement : Program := ⟨#[], #[], rfl⟩
  let whole : Program :=
    ⟨#[.loopStart, .output, .moveRight, .moveRight, .loopEnd], #[4, 0, 0, 0, 0], rfl⟩
  have built : Program.ofList [.moveRight, .moveRight] = .ok part := rfl
  have replacementBuilt : Program.ofList [] = .ok replacement := rfl
  have wholeBuilt : Program.ofList
      ([.loopStart, .output] ++ [.moveRight, .moveRight] ++ [.loopEnd]) = .ok whole := rfl
  have same : ∀ start : State, start.machine.tape.length = length.count →
      ∀ reached, Reaches part start reached ↔ Reaches replacement start reached := by
    intro ⟨machine, streams⟩ fits reached
    have around : machine.moveRight.moveRight = machine := by
      have inside := machine.pointer_lt
      apply Machine.ext
      · rfl
      · have fitsTwo : machine.tape.length = 2 := fits
        simp only [Machine.pointer_moveRight, Machine.tape_moveRight, fitsTwo]
        omega
    have partEnds : runFrom part 3 { state := ⟨machine, streams⟩ } =
        some (.ok { instructions := 2 } ⟨machine.moveRight.moveRight, streams⟩) := rfl
    have replacementEnds : runFrom replacement 1 { state := ⟨machine, streams⟩ } =
        some (.ok {} ⟨machine, streams⟩) := rfl
    rw [reaches_iff_of_runFrom partEnds, reaches_iff_of_runFrom replacementEnds, around]
    rfl
  exact ⟨part, replacement, whole, built, replacementBuilt, same, wholeBuilt,
    run_replace built replacementBuilt same wholeBuilt⟩

end Execution

end Brainfuck
