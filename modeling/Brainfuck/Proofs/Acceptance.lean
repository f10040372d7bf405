import Brainfuck.CommandLine.Simulation
import Brainfuck.Proofs.JumpTable
import Brainfuck.Proofs.SourceBrackets

/-!
# Acceptance of sources

Source texts, jump tables and generated code are checked apart from each other,
but accept the same instructions and blame the same bracket of the others.  A
command that has parsed its source is therefore never refused later.
-/

namespace Brainfuck

/-! ## Generated code -/

namespace CCode

def CodeError.ofFault : Fault Nat → CodeError
  | .unmatched index => .unmatchedLoopEnd index
  | .unclosed index => .unclosedLoopStart index

/-- Adding the rest of the instructions to a draft checks their brackets. -/
theorem map_finish_foldlM_add (dialect : Dialect) (last : Nat) (draft : Draft)
    (instructions : List Instruction) :
    (instructions.foldlM (Draft.add dialect last) draft >>= Draft.finish).map (fun _ => ()) =
      Brackets.verdict CodeError.ofFault
        (Brackets.check draft.openings (Instruction.indexed draft.index instructions)) := by
  induction instructions generalizing draft with
  | nil =>
      obtain ⟨index, depth, openings, lines⟩ := draft
      cases openings <;> rfl
  | cons instruction rest ih =>
      rw [List.foldlM_cons]
      cases instruction with
      | loopEnd =>
          obtain ⟨index, depth, openings, lines⟩ := draft
          cases openings with
          | nil => rfl
          | cons opening outer => exact ih (Draft.addLine _ (depth - 1) (depth - 1) outer _)
      | _ => exact ih (Draft.addLine draft _ _ _ _)

theorem map_generate (dialect : Dialect) (length : TapeLength) (instructions : List Instruction) :
    (generate dialect length instructions).map (fun _ => ()) =
      Brackets.verdict CodeError.ofFault
        (Brackets.check [] (Instruction.indexed 0 instructions)) := by
  rw [← map_finish_foldlM_add dialect length.last {} instructions]
  show (body dialect length instructions >>= _).map _ = (body dialect length instructions).map _
  cases body dialect length instructions <;> rfl

end CCode

/-! ## Places of instructions -/

namespace Source

/-- The instruction of a given index, counted from zero, stands at a given byte
offset of a text. -/
def InstructionAt (text : List Char) (index offset : Nat) : Prop :=
  ∃ front char behind, text = front ++ char :: behind ∧ (Instruction.ofSymbol? char).isSome ∧
    (front.filterMap Instruction.ofSymbol?).length = index ∧ byteSize front = offset

/-- The check of the rest of a text and the check of its instructions find the
same bracket at fault, when they go on with the same open brackets. -/
theorem rel_check_labelled (front : List Char) {rest : List Char} {indices offsets : List Nat}
    (places : List.Forall₂ (InstructionAt (front ++ rest)) indices offsets) :
    Option.Rel (Fault.Rel (InstructionAt (front ++ rest)))
      (Brackets.check indices (Instruction.indexed (front.filterMap Instruction.ofSymbol?).length
        (rest.filterMap Instruction.ofSymbol?)))
      (Brackets.check offsets (labelled (byteSize front) rest)) := by
  induction rest generalizing front indices offsets with
  | nil =>
      cases places with
      | nil => exact .none
      | cons place outer => exact .some (.unclosed place)
  | cons char rest ih =>
      have splitEq : front ++ char :: rest = front ++ [char] ++ rest := by simp
      have sizeEq : byteSize (front ++ [char]) = byteSize front + char.utf8Size := by
        simp [byteSize, String.ofList_append]
      cases symbol : Instruction.ofSymbol? char with
      | none =>
          have sideEq : side char = .neither := by simp [side, symbol]
          rw [splitEq] at places ⊢
          simpa [labelled, sideEq, Brackets.check, symbol, sizeEq] using ih (front ++ [char]) places
      | some instruction =>
          have place : InstructionAt (front ++ char :: rest)
              (front.filterMap Instruction.ofSymbol?).length (byteSize front) :=
            ⟨front, char, rest, rfl, by simp [symbol], rfl, rfl⟩
          have sideEq : side char = instruction.side := by simp [side, symbol]
          rw [List.filterMap_cons_some symbol, Instruction.indexed, labelled, sideEq]
          rw [splitEq] at places place ⊢
          cases sideCase : instruction.side with
          | opening =>
              simpa [Brackets.check, symbol, sizeEq] using ih (front ++ [char]) (.cons place places)
          | closing =>
              cases places with
              | nil => exact .some (.unmatched place)
              | cons opening outer =>
                  simpa [Brackets.check, symbol, sizeEq] using ih (front ++ [char]) outer
          | neither =>
              simpa [Brackets.check, symbol, sizeEq] using ih (front ++ [char]) places

/-- Every fault of a text is a fault of its instructions, at the same bracket. -/
theorem rel_check_labelled_zero (text : List Char) :
    Option.Rel (Fault.Rel (InstructionAt text))
      (Brackets.check [] (Instruction.indexed 0 (text.filterMap Instruction.ofSymbol?)))
      (Brackets.check [] (labelled 0 text)) :=
  rel_check_labelled [] .nil

end Source

/-- The three checks of a source: all of them accept it, or all report the same
fault of it. -/
theorem Source.checks_cases (source : String) (dialect : Dialect) (length : TapeLength) :
    (∃ program code,
      parse source = .ok (source.toList.filterMap Instruction.ofSymbol?) ∧
      Program.ofList (source.toList.filterMap Instruction.ofSymbol?) = .ok program ∧
      CCode.generate dialect length (source.toList.filterMap Instruction.ofSymbol?) = .ok code) ∨
    ∃ fault textFault,
      Fault.Rel (InstructionAt source.toList) fault textFault ∧
      parse source = .error (SourceError.ofFault textFault) ∧
      Program.ofList (source.toList.filterMap Instruction.ofSymbol?) =
        .error (ProgramError.ofFault fault) ∧
      CCode.generate dialect length (source.toList.filterMap Instruction.ofSymbol?) =
        .error (CCode.CodeError.ofFault fault) := by
  have related := rel_check_labelled_zero source.toList
  have parsed := map_parse source
  have built := Program.map_ofList (source.toList.filterMap Instruction.ofSymbol?)
  have generated :=
    CCode.map_generate dialect length (source.toList.filterMap Instruction.ofSymbol?)
  generalize Brackets.check [] (labelled 0 source.toList) = textResult at related parsed
  generalize Brackets.check [] _ = result at related built generated
  cases related with
  | none =>
      obtain ⟨instructions, parseEq⟩ := Brackets.exists_eq_ok_of_map_eq_verdict parsed
      obtain ⟨program, ofListEq⟩ := Brackets.exists_eq_ok_of_map_eq_verdict built
      obtain ⟨code, generateEq⟩ := Brackets.exists_eq_ok_of_map_eq_verdict generated
      have instructionsEq : instructions = source.toList.filterMap Instruction.ofSymbol? := by
        simpa using eq_filterMap_of_scan parseEq
      exact Or.inl ⟨program, code, instructionsEq ▸ parseEq, ofListEq, generateEq⟩
  | some faults =>
      exact Or.inr ⟨_, _, faults, Brackets.eq_error_of_map_eq_verdict parsed,
        Brackets.eq_error_of_map_eq_verdict built, Brackets.eq_error_of_map_eq_verdict generated⟩

/-! ## Commands -/

namespace CommandLine

inductive Failure.IsRefusal : Failure → Prop where
  | source (cause : SourceError) : IsRefusal (.source cause)
  | program (error : ProgramError) : IsRefusal (.program error)
  | code (error : CCode.CodeError) : IsRefusal (.code error)

section

variable {m : Type → Type} [Monad m] {α β Input : Type} {allowed : Failure → Prop}

def FailsOnly (allowed : Failure → Prop) (action : ExceptT Failure m α) : Prop :=
  ∃ inner : ExceptT { failure // allowed failure } m α, action = inner.adapt Subtype.val

variable [LawfulMonad m]

theorem failsOnly_pure (value : α) : FailsOnly (m := m) allowed (pure value) := by
  refine ⟨pure value, ?_⟩
  apply ExceptT.ext
  simp [ExceptT.run_adapt, Except.mapError]

theorem failsOnly_throw {failure : Failure} (isAllowed : allowed failure) :
    FailsOnly (m := m) (α := α) allowed (throw failure) := by
  refine ⟨throw ⟨failure, isAllowed⟩, ?_⟩
  apply ExceptT.ext
  simp [ExceptT.run_adapt, Except.mapError]

theorem failsOnly_lift (action : m α) :
    FailsOnly allowed (liftM action : ExceptT Failure m α) := by
  refine ⟨liftM action, ?_⟩
  apply ExceptT.ext
  simp [ExceptT.run_adapt, Except.mapError]

theorem failsOnly_attempt {failure : FailureKind → Failure}
    (allAllowed : ∀ kind, allowed (failure kind)) (action : m (Except FailureKind α)) :
    FailsOnly allowed (attempt failure action) := by
  refine ⟨ExceptT.mk (Except.mapError (fun kind => ⟨failure kind, allAllowed kind⟩) <$> action), ?_⟩
  unfold attempt ExceptT.adapt
  simp only [ExceptT.mk, map_eq_pure_bind, bind_assoc, pure_bind]
  congr 1
  funext result
  cases result <;> rfl

theorem FailsOnly.bind {action : ExceptT Failure m α} {next : α → ExceptT Failure m β}
    (first : FailsOnly allowed action) (second : ∀ value, FailsOnly allowed (next value)) :
    FailsOnly allowed (action >>= next) := by
  obtain ⟨inner, rfl⟩ := first
  choose innerNext nextEq using second
  refine ⟨inner >>= innerNext, ?_⟩
  rw [funext nextEq]
  apply ExceptT.ext
  simp only [ExceptT.run_bind, ExceptT.run_adapt, bind_map_left, map_bind]
  congr 1
  funext result
  cases result with
  | error failure => simp [Except.mapError]
  | ok value => rfl

theorem FailsOnly.mono {wider : Failure → Prop} {action : ExceptT Failure m α}
    (only : FailsOnly allowed action) (weaken : ∀ failure, allowed failure → wider failure) :
    FailsOnly wider action := by
  obtain ⟨inner, rfl⟩ := only
  refine ⟨inner.adapt fun failure => ⟨failure.1, weaken failure.1 failure.2⟩, ?_⟩
  apply ExceptT.ext
  simp only [ExceptT.run_adapt, Functor.map_map]
  congr 1
  funext result
  cases result <;> rfl

theorem failsOnly_logEvent (files : FileSystem m Input) (event : LogEvent)
    (directory : Option String) : FailsOnly allowed (logEvent files event directory) := by
  cases directory with
  | none => exact failsOnly_pure ()
  | some directory =>
      refine (failsOnly_lift _).bind fun plain => (failsOnly_lift _).bind fun _ => ?_
      refine (failsOnly_lift _).bind fun structured => (failsOnly_lift _).bind fun _ => ?_
      exact failsOnly_pure ()

theorem failsOnly_writeText (files : FileSystem m Input) (path text : String)
    (writes : ∀ kind, allowed (.write path kind)) :
    FailsOnly allowed (writeText files path text) :=
  failsOnly_attempt writes _

/-! ### Parsing a source -/

omit [LawfulMonad m] in
theorem parseSource_of_error {source : String} {cause : SourceError}
    (refused : Source.parse source = .error cause) :
    (parseSource source : ExceptT Failure m _) = throw (.source cause) := by
  rw [parseSource, refused]
  rfl

omit [LawfulMonad m] in
theorem parseSource_of_ok {source : String} {instructions : List Instruction}
    (parsed : Source.parse source = .ok instructions) :
    (parseSource source : ExceptT Failure m _) = pure instructions := by
  rw [parseSource, parsed]
  rfl

theorem throw_bind (failure : Failure) (next : α → ExceptT Failure m β) :
    (throw failure >>= next) = throw failure := by
  apply ExceptT.ext
  simp

/-! ### Sources that are accepted -/

section Accepted

variable (files : FileSystem m Input) (settings : Settings) {source : String}

theorem failsOnly_emitCode (outputPath : String) {instructions : List Instruction} {code : String}
    (parsed : Source.parse source = .ok instructions)
    (generated : CCode.generate settings.dialect settings.tapeLength instructions = .ok code) :
    FailsOnly (fun failure => ¬ failure.IsRefusal) (emitCode files settings source outputPath) := by
  rw [emitCode, parseSource_of_ok parsed, pure_bind, generated]
  have written : FailsOnly (fun failure => ¬ failure.IsRefusal)
      (writeText files outputPath code) :=
    failsOnly_writeText files outputPath code (fun _ refusal => nomatch refusal)
  refine (failsOnly_logEvent files _ _).bind fun _ => ?_
  refine (failsOnly_logEvent files _ _).bind fun _ => ?_
  exact written.bind fun _ => failsOnly_logEvent files _ _

theorem dumpSource_of_error {cause : SourceError} (refused : Source.parse source = .error cause)
    (outputPath : String) : dumpSource files source outputPath = throw (.source cause) := by
  rw [dumpSource, parseSource_of_error refused, throw_bind]

theorem dumpSource_of_ok {instructions : List Instruction}
    (parsed : Source.parse source = .ok instructions) (outputPath : String) :
    dumpSource files source outputPath = writeListing files instructions outputPath := by
  rw [dumpSource, parseSource_of_ok parsed, pure_bind]

theorem failsOnly_dumpSource (outputPath : String) {instructions : List Instruction}
    (parsed : Source.parse source = .ok instructions) :
    FailsOnly (fun failure => ¬ failure.IsRefusal) (dumpSource files source outputPath) := by
  rw [dumpSource_of_ok files parsed]
  exact failsOnly_writeText files outputPath _ (fun _ refusal => nomatch refusal)

theorem failsOnly_prepareRun (inputPath : Option String) {program : Program}
    (parsed : Program.parse source = .ok program) :
    FailsOnly (fun failure => ¬ failure.IsRefusal)
      (prepareRun files settings source inputPath) := by
  rw [prepareRun, parsed]
  have fits : ∀ input : Input, FailsOnly (fun failure => ¬ failure.IsRefusal) (do
      logEvent files (.creatingTape settings.tapeLength) settings.logDirectory
      unless settings.tapeLength.fitsMemory do
        throw .tapeLength
      return Job.run program settings.tapeLength input) := by
    intro input
    refine (failsOnly_logEvent files _ _).bind fun _ => ?_
    cases settings.tapeLength.fitsMemory with
    | true => exact failsOnly_pure _
    | false =>
        exact (failsOnly_throw (fun refusal => nomatch refusal)).bind fun _ => failsOnly_pure _
  refine (failsOnly_logEvent files _ _).bind fun _ => ?_
  cases inputPath with
  | none => exact (failsOnly_pure _).bind fits
  | some path => exact (failsOnly_attempt (fun _ refusal => nomatch refusal) _).bind fits

end Accepted

/-- The three checks of a source agree: all accept it, or all blame the same
bracket, the text by its byte offset and the others by its index.  Hence only
the parser ever refuses a source, and all commands refuse the same ones. -/
theorem checks_agree (files : FileSystem m Input) (settings : Settings)
    (source outputPath : String) (inputPath : Option String) :
    ((∃ program code,
        Source.parse source = .ok (source.toList.filterMap Instruction.ofSymbol?) ∧
        Program.ofList (source.toList.filterMap Instruction.ofSymbol?) = .ok program ∧
        CCode.generate settings.dialect settings.tapeLength
          (source.toList.filterMap Instruction.ofSymbol?) = .ok code) ∨
      (∃ index offset, Source.InstructionAt source.toList index offset ∧
        Source.parse source = .error (.unmatchedLoopEnd offset) ∧
        Program.ofList (source.toList.filterMap Instruction.ofSymbol?) =
          .error (.unmatchedLoopEnd index) ∧
        CCode.generate settings.dialect settings.tapeLength
          (source.toList.filterMap Instruction.ofSymbol?) = .error (.unmatchedLoopEnd index)) ∨
      (∃ index offset, Source.InstructionAt source.toList index offset ∧
        Source.parse source = .error (.unclosedLoopStart offset) ∧
        Program.ofList (source.toList.filterMap Instruction.ofSymbol?) =
          .error (.unclosedLoopStart index) ∧
        CCode.generate settings.dialect settings.tapeLength
          (source.toList.filterMap Instruction.ofSymbol?) = .error (.unclosedLoopStart index))) ∧
    (∀ index, Program.parse source ≠ .error (.unmatchedLoopEnd index) ∧
      Program.parse source ≠ .error (.unclosedLoopStart index)) ∧
    FailsOnly (fun failure => ∀ error, failure ≠ .code error)
      (emitCode files settings source outputPath) ∧
    (∀ cause, Source.parse source = .error cause →
      prepareRun files settings source inputPath = throw (.program (.source cause)) ∧
      emitCode files settings source outputPath = throw (.source cause) ∧
      dumpSource files source outputPath = throw (.source cause)) ∧
    (∀ instructions, Source.parse source = .ok instructions →
      FailsOnly (fun failure => ¬ failure.IsRefusal)
        (prepareRun files settings source inputPath) ∧
      FailsOnly (fun failure => ¬ failure.IsRefusal)
        (emitCode files settings source outputPath) ∧
      FailsOnly (fun failure => ¬ failure.IsRefusal)
        (dumpSource files source outputPath)) := by
  have refused : ∀ cause, Source.parse source = .error cause →
      prepareRun files settings source inputPath = throw (.program (.source cause)) ∧
      emitCode files settings source outputPath = throw (.source cause) ∧
      dumpSource files source outputPath = throw (.source cause) := by
    intro cause failed
    have programFailed : Program.parse source = .error (.source cause) := by
      rw [Program.parse, failed]
    refine ⟨?_, ?_, ?_⟩
    · rw [prepareRun, programFailed]
    · rw [emitCode, parseSource_of_error failed, throw_bind]
    · rw [dumpSource, parseSource_of_error failed, throw_bind]
  have notCode : ∀ cause, Source.parse source = .error cause →
      FailsOnly (fun failure => ∀ error, failure ≠ .code error)
        (emitCode files settings source outputPath) := by
    intro cause failed
    rw [(refused cause failed).2.1]
    exact failsOnly_throw (fun error => nofun)
  obtain ⟨program, code, parsed, built, generated⟩ |
      ⟨fault, textFault, faults, failed, notBuilt, notGenerated⟩ :=
    Source.checks_cases source settings.dialect settings.tapeLength
  · have programParsed : Program.parse source = .ok program := by
      rw [Program.parse, parsed]
      exact built
    have emitted := failsOnly_emitCode files settings outputPath parsed generated
    refine ⟨Or.inl ⟨program, code, parsed, built, generated⟩, ?_, ?_, refused, ?_⟩
    · simp [programParsed]
    · refine emitted.mono fun failure notRefusal error isCode => ?_
      exact notRefusal (isCode ▸ .code error)
    · intro instructions _
      exact ⟨failsOnly_prepareRun files settings inputPath programParsed, emitted,
        failsOnly_dumpSource files outputPath parsed⟩
  · have programFailed :
        Program.parse source = .error (.source (SourceError.ofFault textFault)) := by
      rw [Program.parse, failed]
    refine ⟨Or.inr ?_, ?_, notCode _ failed, refused, ?_⟩
    · cases faults with
      | unmatched place => exact Or.inl ⟨_, _, place, failed, notBuilt, notGenerated⟩
      | unclosed place => exact Or.inr ⟨_, _, place, failed, notBuilt, notGenerated⟩
    · simp [programFailed]
    · intro instructions parsed
      rw [failed] at parsed
      cases parsed

end

theorem checks_agree_unmatched :
    Source.parse "é+]" = .error (.unmatchedLoopEnd 3) ∧
      prepareRun (treeFiles []) {} "é+]" none =
        throw (.program (.source (.unmatchedLoopEnd 3))) := by
  have refused : Source.parse "é+]" = .error (.unmatchedLoopEnd 3) := by decide
  obtain ⟨-, -, -, commands, -⟩ := checks_agree (treeFiles []) {} "é+]" "loop.c" none
  exact ⟨refused, (commands _ refused).1⟩

end CommandLine

end Brainfuck
