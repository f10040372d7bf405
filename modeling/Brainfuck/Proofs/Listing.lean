import Brainfuck.Proofs.SourceText

/-!
# Reading listings

A listing is a list of names as RON writes it, and it is read back as one: blanks do not
matter, and there may be a comma behind the last name.  The names tell the instructions, so
different instructions have different listings.  What a dump leaves in a file can therefore
be turned into the source again, but for the comments.
-/

namespace Brainfuck

namespace Listing

/-! ## Reading names -/

/-- What can come next in the text of a list of names.  The names so far are kept last first,
and so are the characters of a name that has not ended. -/
inductive Reading where
  | before
  | between (names : List String)
  | inName (names : List String) (chars : List Char)
  | behindName (names : List String)
  | closed (names : List String)
  | refused

def beginsName (char : Char) : Bool :=
  char.isAlpha || char == '_'

def continuesName (char : Char) : Bool :=
  beginsName char || char.isDigit

/-- What comes behind a name, up to the next one. -/
def stepBehind (names : List String) (char : Char) : Reading :=
  if char = ',' then .between names
  else if char = ']' then .closed names
  else if char.isWhitespace then .behindName names
  else .refused

def step : Reading → Char → Reading
  | .before, char =>
      if char = '[' then .between []
      else if char.isWhitespace then .before
      else .refused
  | .between names, char =>
      if char = ']' then .closed names
      else if char.isWhitespace then .between names
      else if beginsName char then .inName names [char]
      else .refused
  | .inName names chars, char =>
      if continuesName char then .inName names (char :: chars)
      else stepBehind (String.ofList chars.reverse :: names) char
  | .behindName names, char => stepBehind names char
  | .closed names, char => if char.isWhitespace then .closed names else .refused
  | .refused, _ => .refused

def names? (text : String) : Option (List String) :=
  match text.toList.foldl step .before with
  | .closed names => some names.reverse
  | _ => none

def read? (text : String) : Option (List Instruction) := do
  (← names? text).mapM Instruction.ofName?

/-! ## Reading listings -/

theorem isAlpha_of_mem_name (instruction : Instruction) :
    ∀ char ∈ instruction.name.toList, char.isAlpha = true := by
  rw [← List.all_eq_true]
  cases instruction <;> decide +kernel

theorem foldl_step_inName (names : List String) {chars : List Char}
    (letters : ∀ char ∈ chars, char.isAlpha = true) (begun : List Char) :
    chars.foldl step (.inName names begun) = .inName names (chars.reverse ++ begun) := by
  induction chars generalizing begun with
  | nil => rfl
  | cons char chars ih =>
      obtain ⟨letter, lettersBehind⟩ := List.forall_mem_cons.mp letters
      have continues : continuesName char = true := by simp [continuesName, beginsName, letter]
      rw [List.foldl_cons, step, if_pos continues, ih lettersBehind, List.reverse_cons,
        List.append_assoc]
      rfl

theorem foldl_step_name (names : List String) (instruction : Instruction) :
    instruction.name.toList.foldl step (.between names) =
      .inName names instruction.name.toList.reverse := by
  have letters := isAlpha_of_mem_name instruction
  have first : ∃ char chars, instruction.name.toList = char :: chars ∧
      ∀ names, step (.between names) char = .inName names [char] := by
    cases instruction <;> exact ⟨_, _, rfl, fun _ => rfl⟩
  obtain ⟨char, chars, nameEq, begins⟩ := first
  rw [nameEq] at letters ⊢
  rw [List.foldl_cons, begins, foldl_step_inName names (List.forall_mem_cons.mp letters).2,
    List.reverse_cons]

theorem foldl_step_line (names : List String) (instruction : Instruction) :
    (line instruction).toList.foldl step (.between names) =
      .between (instruction.name :: names) := by
  have indented : "    ".toList.foldl step (.between names) = .between names := rfl
  have ended : ",\n".toList.foldl step (.inName names instruction.name.toList.reverse) =
      .between (String.ofList instruction.name.toList.reverse.reverse :: names) := rfl
  rw [line, String.toList_append, String.toList_append, List.foldl_append, List.foldl_append,
    indented, foldl_step_name, ended, List.reverse_reverse, String.ofList_toList]

theorem foldl_step_lines (names : List String) (instructions : List Instruction) :
    (String.join (instructions.map line)).toList.foldl step (.between names) =
      .between ((instructions.map Instruction.name).reverse ++ names) := by
  induction instructions generalizing names with
  | nil => rfl
  | cons instruction rest ih =>
      rw [List.map_cons, String.join_cons, String.toList_append, List.foldl_append,
        foldl_step_line, ih, List.map_cons, List.reverse_cons, List.append_assoc]
      rfl

theorem names?_render (instructions : List Instruction) :
    names? (render instructions) = some (instructions.map Instruction.name) := by
  cases instructions with
  | nil => rfl
  | cons instruction rest =>
      have opened : "[\n".toList.foldl step .before = .between [] := rfl
      have closed (names : List String) : "]".toList.foldl step (.between names) = .closed names :=
        rfl
      rw [names?, render, String.toList_append, String.toList_append, List.foldl_append,
        List.foldl_append, opened, foldl_step_lines, closed, List.append_nil]
      exact congrArg some (List.reverse_reverse _)
      nofun

theorem read?_render (instructions : List Instruction) :
    read? (render instructions) = some instructions := by
  rw [read?, names?_render]
  change (instructions.map Instruction.name).mapM Instruction.ofName? = some instructions
  induction instructions with
  | nil => rfl
  | cons instruction rest ih =>
      rw [List.map_cons, List.mapM_cons, Instruction.ofName?_name, ih]
      rfl

/-- Blanks and the last comma do not matter. -/
example : read? "[ StartLoop,EndLoop ]" = some [.loopStart, .loopEnd] := by decide +kernel

theorem render_injective : Function.Injective render := by
  intro first second same
  have readBack := read?_render first
  rw [same, read?_render] at readBack
  exact (Option.some.inj readBack).symm

end Listing

/-! ## Files -/

namespace FileTree

variable {tree : FileTree} {path : String} {place : List String}

theorem exists_of_bind_eq_ok {α β : Type} {action : Except FailureKind α}
    {next : α → Except FailureKind β} {result : β} (bound : (action >>= next) = .ok result) :
    ∃ value, action = .ok value ∧ next value = .ok result := by
  cases action with
  | error kind => cases bound
  | ok value => exact ⟨value, rfl, bound⟩

/-- A file is never put where a directory is. -/
theorem node?_ne_directory_of_resolveNew (resolved : tree.resolveNew path = .ok place) :
    tree.node? place ≠ some .directory := by
  obtain ⟨-, -, resolved⟩ := exists_of_bind_eq_ok resolved
  obtain ⟨⟨directory, last⟩, -, resolved⟩ := exists_of_bind_eq_ok resolved
  cases last with
  | none => cases resolved
  | some last =>
      dsimp only at resolved
      split at resolved
      · cases resolved
      · obtain ⟨found, -, resolved⟩ := exists_of_bind_eq_ok resolved
        split at resolved
        · cases resolved
        · next notDirectory =>
            cases resolved
            exact notDirectory

theorem node?_set_self (notDirectory : tree.node? place ≠ some .directory) (node : FileNode) :
    (tree.set place node).node? place = some node := by
  have below : ¬ (place.all (· = "..") || place = ["/"]) = true := by
    intro above
    rw [node?, if_pos above] at notDirectory
    contradiction
  have removed : (tree.nodes.filter fun entry => entry.1 ≠ place).lookup place = none := by
    rw [List.lookup_eq_none_iff]
    intro entry member
    have other : entry.1 ≠ place := by simpa using List.of_mem_filter member
    simpa using other.symm
  rw [node?, if_neg below, set, List.lookup_append, removed]
  simp

theorem fromUTF8?_toUTF8 (text : String) : String.fromUTF8? text.toUTF8 = some text := by
  rw [String.toUTF8_eq_toByteArray, String.fromUTF8?, dif_pos text.isValidUTF8]
  rfl

def text? (tree : FileTree) (place : List String) : Option String :=
  match tree.node? place with
  | some (.file content) => String.fromUTF8? content
  | _ => none

theorem text?_set_self (notDirectory : tree.node? place ≠ some .directory) (text : String) :
    (tree.set place (.file text.toUTF8)).text? place = some text := by
  rw [text?, node?_set_self notDirectory]
  exact fromUTF8?_toUTF8 text

end FileTree

namespace CommandLine

open Listing (names? read? render)

section

variable {tree : FileTree} {path : String} {place : List String}

theorem run_writeText_treeFiles (resolved : tree.resolveNew path = .ok place)
    (standardInput : InputScript) (text : String) :
    (writeText (treeFiles standardInput) path text).run.run tree =
      (.ok (), tree.set place (.file text.toUTF8)) := by
  have written : tree.write path text.toUTF8 = .ok (tree.set place (.file text.toUTF8)) := by
    rw [FileTree.write, resolved]
    rfl
  have changed : (treeFiles standardInput).write path text.toUTF8 tree =
      (.ok (), tree.set place (.file text.toUTF8)) := by
    simp only [treeFiles, changeTree, written]
  rw [writeText, attempt, ExceptT.run_mk, StateT.run_bind]
  change (treeFiles standardInput).write path text.toUTF8 tree >>= _ = _
  rw [changed]
  rfl

theorem text?_of_writeListing (resolved : tree.resolveNew path = .ok place)
    (standardInput : InputScript) (instructions : List Instruction) :
    ∃ after, (writeListing (treeFiles standardInput) instructions path).run.run tree =
        (.ok (), after) ∧
      after.text? place = some (render instructions) := by
  refine ⟨_, run_writeText_treeFiles resolved standardInput (render instructions), ?_⟩
  exact FileTree.text?_set_self (FileTree.node?_ne_directory_of_resolveNew resolved) _

theorem text?_of_dumpSource (resolved : tree.resolveNew path = .ok place)
    (standardInput : InputScript) {source : String} {instructions : List Instruction}
    (parsed : Source.parse source = .ok instructions) :
    ∃ after, (dumpSource (treeFiles standardInput) source path).run.run tree =
        (.ok (), after) ∧
      after.text? place = some (render instructions) := by
  rw [dumpSource_of_ok _ parsed]
  exact text?_of_writeListing resolved standardInput instructions

theorem run_dumpSource_of_error {source : String} {cause : SourceError}
    (refused : Source.parse source = .error cause) (standardInput : InputScript)
    (tree : FileTree) (path : String) :
    (dumpSource (treeFiles standardInput) source path).run.run tree =
      (.error (.source cause), tree) := by
  rw [dumpSource_of_error _ refused]
  rfl

/-- The listing of instructions is read as their names in order, whether their brackets
match or not, so no other instructions have it.  On any files, a dump writes the listing of
the source if that is accepted, and writes nothing otherwise.  Where a file can be put, a dump
ends well exactly if the source is accepted, and the instructions that are read from the file
are written as the source without its comments. -/
theorem dump_readable (resolved : tree.resolveNew path = .ok place)
    (standardInput : InputScript) :
    (∀ instructions,
      (∃ after, (writeListing (treeFiles standardInput) instructions path).run.run tree =
          (.ok (), after) ∧
        after.text? place = some (render instructions)) ∧
      names? (render instructions) = some (instructions.map Instruction.name) ∧
      read? (render instructions) = some instructions) ∧
    Function.Injective render ∧
    (∀ {m : Type → Type} [Monad m] [LawfulMonad m] {Input : Type} (files : FileSystem m Input)
      (source outputPath : String),
      (∀ instructions, Source.parse source = .ok instructions →
        dumpSource files source outputPath = writeText files outputPath (render instructions)) ∧
      ∀ cause, Source.parse source = .error cause →
        dumpSource files source outputPath = throw (.source cause)) ∧
    ∀ source,
      ((∃ after, (dumpSource (treeFiles standardInput) source path).run.run tree =
          (.ok (), after)) ↔
        ∃ instructions, Source.parse source = .ok instructions) ∧
      (∀ after, (dumpSource (treeFiles standardInput) source path).run.run tree =
          (.ok (), after) →
        ∃ text instructions, after.text? place = some text ∧ read? text = some instructions ∧
          Source.parse source = .ok instructions ∧
          Instruction.text instructions = Source.minified source) ∧
      ∀ cause, Source.parse source = .error cause →
        (dumpSource (treeFiles standardInput) source path).run.run tree =
          (.error (.source cause), tree) := by
  refine ⟨?_, Listing.render_injective, ?_, ?_⟩
  · intro instructions
    exact ⟨text?_of_writeListing resolved standardInput instructions,
      Listing.names?_render instructions, Listing.read?_render instructions⟩
  · intro m _ _ Input files source outputPath
    constructor
    · intro instructions parsed
      exact dumpSource_of_ok files parsed outputPath
    · intro cause refused
      exact dumpSource_of_error files refused outputPath
  · intro source
    rcases parsed : Source.parse source with cause | instructions
    · have failed := run_dumpSource_of_error parsed standardInput tree path
      refine ⟨⟨?_, nofun⟩, ?_, ?_⟩
      · rintro ⟨after, ended⟩
        cases failed.symm.trans ended
      · intro after ended
        cases failed.symm.trans ended
      · rintro _ ⟨⟩
        exact failed
    · obtain ⟨dumped, dumpedEq, textEq⟩ := text?_of_dumpSource resolved standardInput parsed
      refine ⟨⟨fun _ => ⟨instructions, rfl⟩, fun _ => ⟨dumped, dumpedEq⟩⟩, ?_, nofun⟩
      intro after ended
      obtain rfl : dumped = after := congrArg Prod.snd (dumpedEq.symm.trans ended)
      exact ⟨render instructions, instructions, textEq, Listing.read?_render instructions, rfl,
        Source.text_of_parse parsed⟩

theorem dump_readable_commented :
    FileTree.resolveNew {} "a" = .ok ["a"] ∧
      ∃ after, (dumpSource (treeFiles []) "é[ü-]" "a").run.run {} = (.ok (), after) ∧
        ∃ text instructions, after.text? ["a"] = some text ∧ read? text = some instructions ∧
          Instruction.text instructions = "[-]" := by
  have names : "a".splitOn "/" = ["a"] := by
    rw [String.splitOn, if_neg (by decide), String.splitOnAux, if_neg (by decide +kernel),
      if_neg (by decide +kernel), String.splitOnAux, if_pos (by decide +kernel)]
    decide +kernel
  have proper : "a".endsWith "/" = false := by decide +kernel
  have resolved : FileTree.resolveNew {} "a" = .ok ["a"] := by
    rw [FileTree.resolveNew, FileTree.splitPath, names, proper]
    rfl
  have parsed : Source.parse "é[ü-]" = .ok [.loopStart, .decrement, .loopEnd] := by decide
  have minifiedEq : Source.minified "é[ü-]" = "[-]" := by decide
  obtain ⟨-, -, -, dumps⟩ := dump_readable resolved []
  obtain ⟨accepted, readable, -⟩ := dumps "é[ü-]"
  obtain ⟨after, ended⟩ := accepted.mpr ⟨_, parsed⟩
  obtain ⟨text, instructions, textEq, readEq, -, written⟩ := readable after ended
  exact ⟨resolved, after, ended, text, instructions, textEq, readEq, written.trans minifiedEq⟩

end

end CommandLine

end Brainfuck
