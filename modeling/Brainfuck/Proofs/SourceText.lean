import Brainfuck.Proofs.Acceptance

/-!
# Source texts of programs

The text of a program has one character for every instruction and nothing else.
A source is the text of its program with comments in between, so two sources
have the same program exactly if they differ in their comments only.
-/

namespace Brainfuck

namespace Source

def isSymbol (char : Char) : Bool :=
  "<>+-,.[]".toList.contains char

/-- A text without its comments. -/
def minified (source : String) : String :=
  String.ofList (source.toList.filter isSymbol)

/-- The instructions that the characters of a text stand for, in order. -/
def instructions (source : String) : List Instruction :=
  source.toList.filterMap Instruction.ofSymbol?

theorem text_instructions (source : String) :
    Instruction.text (instructions source) = minified source := by
  rw [Instruction.text, instructions, map_symbol_filterMap]
  rfl

theorem text_of_parse {source : String} {parsed : List Instruction}
    (accepted : parse source = .ok parsed) : Instruction.text parsed = minified source := by
  obtain ⟨_, _, parsedEq, -⟩ | ⟨_, _, -, refused, -⟩ := checks_cases source .c .standard
  · cases accepted.symm.trans parsedEq
    exact text_instructions source
  · cases accepted.symm.trans refused

@[simp]
theorem instructions_text (written : List Instruction) :
    instructions (Instruction.text written) = written := by
  induction written with
  | nil => rfl
  | cons instruction rest ih =>
      simp only [instructions, Instruction.text, String.toList_ofList] at ih ⊢
      rw [List.map_cons, List.filterMap_cons_some (Instruction.ofSymbol?_symbol instruction), ih]

@[simp]
theorem instructions_minified (source : String) :
    instructions (minified source) = instructions source := by
  rw [← text_instructions, instructions_text]

/-- Sources differ in their comments only if they have the same instructions. -/
theorem minified_eq_minified_iff {source other : String} :
    minified source = minified other ↔ instructions source = instructions other := by
  constructor
  · intro same
    rw [← instructions_minified source, same, instructions_minified]
  · intro same
    rw [← text_instructions source, same, text_instructions]

theorem minified_insert {front comment behind : String}
    (isComment : ∀ char ∈ comment.toList, isSymbol char = false) :
    minified (front ++ comment ++ behind) = minified (front ++ behind) := by
  have nothing : comment.toList.filter isSymbol = [] := by
    rw [List.filter_eq_nil_iff]
    intro char member
    rw [isComment char member]
    exact Bool.false_ne_true
  simp only [minified, String.toList_append, List.filter_append, nothing, List.append_nil]

end Source

namespace Program

open Source (minified isSymbol)

/-- A source is accepted exactly if its instructions make a program. -/
theorem parse_eq_ok_iff {source : String} {program : Program} :
    parse source = .ok program ↔ program.toList = Source.instructions source := by
  obtain ⟨built, code, parsed, ofListEq, -⟩ | ⟨fault, textFault, -, refused, notBuilt, -⟩ :=
    Source.checks_cases source .c .standard
  · have parseEq : parse source = .ok built := by
      rw [parse, parsed]
      exact ofListEq
    rw [parseEq]
    constructor
    · intro same
      cases same
      exact toList_of_ofList ofListEq
    · intro listEq
      rw [← ofListEq, ← ofList_toList program, listEq]
      rfl
  · have parseEq : parse source = .error (.source (SourceError.ofFault textFault)) := by
      rw [parse, refused]
    rw [parseEq]
    constructor
    · intro accepted
      cases accepted
    · intro listEq
      have built := ofList_toList program
      rw [listEq, Source.instructions, notBuilt] at built
      cases built

theorem parse_text (program : Program) : parse program.text = .ok program := by
  rw [parse_eq_ok_iff, text, Source.instructions_text]

theorem text_of_parse {source : String} {program : Program}
    (parsed : parse source = .ok program) : program.text = minified source := by
  rw [text, parse_eq_ok_iff.mp parsed, Source.text_instructions]

theorem text_injective : Function.Injective text := by
  intro program other same
  have parsed := parse_text program
  rw [same, parse_text] at parsed
  exact (Except.ok.inj parsed).symm

/-- What is parsed does not depend on the comments. -/
theorem parse_eq_ok_iff_of_minified_eq {source other : String}
    (same : minified source = minified other) (program : Program) :
    parse source = .ok program ↔ parse other = .ok program := by
  rw [parse_eq_ok_iff, parse_eq_ok_iff, Source.minified_eq_minified_iff.mp same]

/-- The text of a program is parsed to the program again, and a source is the text
of its program with comments in between.  Hence two sources have the same program
exactly if they differ in their comments only, and comments may be inserted and
deleted anywhere. -/
theorem parse_text_roundtrip :
    (∀ instructions program, ofList instructions = .ok program →
      ∃ again, parse program.text = .ok again ∧ again.toList = instructions ∧
        ∀ index, again.partner? index = program.partner? index) ∧
    (∀ source program, parse source = .ok program →
      program.text = minified source ∧ parse (minified source) = .ok program) ∧
    (∀ source other program otherProgram, parse source = .ok program →
      parse other = .ok otherProgram →
        (program = otherProgram ↔ minified source = minified other)) ∧
    ∀ front comment behind, (∀ char ∈ comment.toList, isSymbol char = false) →
      ∀ program, parse (front ++ comment ++ behind) = .ok program ↔
        parse (front ++ behind) = .ok program := by
  refine ⟨?_, ?_, ?_, ?_⟩
  · intro instructions program built
    exact ⟨program, parse_text program, toList_of_ofList built, fun _ => rfl⟩
  · intro source program parsed
    have textEq := text_of_parse parsed
    exact ⟨textEq, textEq ▸ parse_text program⟩
  · intro source other program otherProgram parsed otherParsed
    rw [← text_of_parse parsed, ← text_of_parse otherParsed]
    exact text_injective.eq_iff.symm
  · intro front comment behind isComment program
    exact parse_eq_ok_iff_of_minified_eq (Source.minified_insert isComment) program

theorem parse_text_roundtrip_commented :
    ∃ program, parse "é[ü-]" = .ok program ∧ program.text = "[-]" ∧
      parse "[-]" = .ok program ∧ parse ("[" ++ "-]") = .ok program := by
  let program : Program := ⟨#[.loopStart, .decrement, .loopEnd], #[2, 0, 0], rfl⟩
  have parsed : parse "é[ü-]" = .ok program := by decide
  obtain ⟨-, texts, -, inserted⟩ := parse_text_roundtrip
  obtain ⟨textEq, again⟩ := texts _ program parsed
  have minifiedEq : minified "é[ü-]" = "[-]" := by decide
  rw [minifiedEq] at textEq again
  have comment : ∀ char ∈ "ü".toList, isSymbol char = false := by
    intro char member
    obtain rfl : char = 'ü' := by simpa using member
    decide
  have withComment : parse ("[" ++ "ü" ++ "-]") = .ok program := by decide
  exact ⟨program, parsed, textEq, again, (inserted "[" "ü" "-]" comment program).mp withComment⟩

end Program

end Brainfuck
