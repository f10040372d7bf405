import Brainfuck.Proofs.Lockstep

/-!
# Interruptions

A read or write that is interrupted is made again at once, and a script has two ways to
say that the input is at its end and two ways to refuse a byte.  None of this shows in a
run: it ends as it does on the scripts in normal form, which have no interruptions and one
way to say each of these things.

Flushes are different.  An interrupted flush fails, so their script stays as it is.
-/

namespace Brainfuck

/-- The normal form of an item of the input.  An interruption is left out, and an
unexpected end is an end like any other. -/
def InputItem.normal? : InputItem → Option InputItem
  | .failure .interrupted => none
  | .failure .unexpectedEof => some .endOfInput
  | item => some item

/-- The normal form of an item that answers a write.  An interruption is left out, and a
byte that is not taken is a failure. -/
def WriteItem.normal? : WriteItem → Option WriteItem
  | .failure .interrupted => none
  | .refuse => some (.failure .writeZero)
  | item => some item

namespace InputItem

variable {item : InputItem}

/-- An item that ends a call for a byte has a normal form that ends it in the same way. -/
theorem exists_normal?_of_quiet (quiet : item.failure? = none)
    (decisive : item ≠ .failure .interrupted) :
    ∃ normal, item.normal? = some normal ∧ normal.failure? = none ∧
      normal ≠ .failure .interrupted ∧ normal.byte? = item.byte? := by
  cases item with
  | byte value => exact ⟨.byte value, rfl, rfl, by simp, rfl⟩
  | endOfInput => exact ⟨.endOfInput, rfl, rfl, by simp, rfl⟩
  | failure kind =>
      -- the only failure that is left here is an unexpected end
      obtain rfl : kind = .unexpectedEof := by cases kind <;> simp_all [failure?]
      exact ⟨.endOfInput, rfl, rfl, by simp, rfl⟩

theorem normal?_of_failure {kind : FailureKind} (failed : item.failure? = some kind) :
    item.normal? = some item := by
  cases item with
  | byte value => cases failed
  | endOfInput => cases failed
  | failure cause => cases cause <;> first | rfl | cases failed

theorem filterMap_normal?_interrupted (retries : Nat) (rest : List InputItem) :
    (List.replicate retries (InputItem.failure .interrupted) ++ rest).filterMap normal? =
      rest.filterMap normal? := by
  rw [List.filterMap_append, List.filterMap_replicate_of_none rfl, List.nil_append]

end InputItem

namespace WriteItem

theorem exists_normal?_of_failure {item : WriteItem} {kind : FailureKind}
    (failed : item.failure? = some kind) :
    ∃ normal, item.normal? = some normal ∧ normal.failure? = some kind := by
  cases item with
  | accept => cases failed
  | refuse =>
      cases failed
      exact ⟨.failure .writeZero, rfl, rfl⟩
  | failure cause => cases cause <;> first | exact ⟨_, rfl, failed⟩ | cases failed

theorem filterMap_normal?_interrupted (retries : Nat) (rest : List WriteItem) :
    (List.replicate retries (WriteItem.failure .interrupted) ++ rest).filterMap normal? =
      rest.filterMap normal? := by
  rw [List.filterMap_append, List.filterMap_replicate_of_none rfl, List.nil_append]

theorem filterMap_normal?_accepted {rest : List WriteItem}
    (accepted : rest = [] ∨ rest.head? = some .accept) :
    (rest.filterMap normal? = [] ∨ (rest.filterMap normal?).head? = some .accept) ∧
      (rest.filterMap normal?).tail = rest.tail.filterMap normal? := by
  cases rest with
  | nil => exact ⟨Or.inl rfl, rfl⟩
  | cons item rest =>
      obtain rfl : item = .accept := by simpa using accepted
      exact ⟨Or.inr rfl, rfl⟩

end WriteItem

namespace Streams

/-- The streams with the scripts of their input and their writes in normal form. -/
def normal (streams : Streams) : Streams :=
  { streams with
    input := streams.input.filterMap InputItem.normal?
    writes := streams.writes.filterMap WriteItem.normal? }

/-- The unused scripts of the second streams are those of the first ones in normal form,
and the output is the same.  Different calls may have been made. -/
structure Normalized (first second : Streams) : Prop where
  input_eq : second.input = first.input.filterMap InputItem.normal?
  writes_eq : second.writes = first.writes.filterMap WriteItem.normal?
  flushes_eq : second.flushes = first.flushes
  output_eq : second.output = first.output

theorem normalized_normal (streams : Streams) : Normalized streams streams.normal :=
  ⟨rfl, rfl, rfl, rfl⟩

end Streams

namespace Execution

open Streams (Normalized)

section Calls

variable {first second : Streams}

theorem answers_write_normalized (normalized : Normalized first second) (value : UInt8) :
    Answers Normalized (Streams.write value first) (Streams.write value second) := by
  obtain ⟨retries, rest, script, outcome⟩ := first.writes_cases
  have normalScript :
      second.writes =
      List.replicate 0 (.failure .interrupted) ++ rest.filterMap WriteItem.normal? := by
    rw [normalized.writes_eq, script, WriteItem.filterMap_normal?_interrupted]
    rfl
  rcases outcome with accepted | ⟨item, further, kind, rfl, failed⟩
  · obtain ⟨acceptedToo, tailEq⟩ := WriteItem.filterMap_normal?_accepted accepted
    rw [Streams.write_of_accept script accepted, Streams.write_of_accept normalScript acceptedToo,
      normalized.output_eq]
    exact .ok ⟨normalized.input_eq, tailEq, normalized.flushes_eq, rfl⟩
  · obtain ⟨normal, normalEq, failedToo⟩ := WriteItem.exists_normal?_of_failure failed
    rw [List.filterMap_cons_some normalEq] at normalScript
    rw [Streams.write_of_failure script failed, Streams.write_of_failure normalScript failedToo]
    exact .error ⟨normalized.input_eq, rfl, normalized.flushes_eq, normalized.output_eq⟩

theorem answers_read_normalized (normalized : Normalized first second) :
    Answers Normalized (Streams.read first) (Streams.read second) := by
  obtain ⟨retries, rest, script, outcome⟩ := first.input_cases
  have normalScript :
      second.input =
      List.replicate 0 (.failure .interrupted) ++ rest.filterMap InputItem.normal? := by
    rw [normalized.input_eq, script, InputItem.filterMap_normal?_interrupted]
    rfl
  rcases outcome with ⟨decisive, quiet⟩ | ⟨item, further, kind, rfl, failed⟩
  · rw [Streams.read_of_quiet script decisive quiet]
    cases rest with
    | nil =>
        rw [Streams.read_of_quiet normalScript decisive quiet]
        exact .ok ⟨rfl, normalized.writes_eq, normalized.flushes_eq, normalized.output_eq⟩
    | cons item further =>
        have itemQuiet : item.failure? = none := quiet
        have itemDecisive : item ≠ .failure .interrupted := by simpa using decisive
        obtain ⟨normal, normalEq, quietToo, decisiveToo, byteEq⟩ :=
          InputItem.exists_normal?_of_quiet itemQuiet itemDecisive
        rw [List.filterMap_cons_some normalEq] at normalScript
        rw [Streams.read_of_quiet normalScript (by simpa using decisiveToo) quietToo,
          List.headD_cons, List.headD_cons, byteEq]
        exact .ok ⟨rfl, normalized.writes_eq, normalized.flushes_eq, normalized.output_eq⟩
  · rw [List.filterMap_cons_some (InputItem.normal?_of_failure failed)] at normalScript
    rw [Streams.read_of_failure script failed, Streams.read_of_failure normalScript failed]
    exact .error ⟨rfl, normalized.writes_eq, normalized.flushes_eq, normalized.output_eq⟩

theorem answers_flush_normalized (normalized : Normalized first second) :
    Answers Normalized (Streams.flush first) (Streams.flush second) := by
  rcases Streams.flush_alike normalized.flushes_eq with
    ⟨flushed, otherFlushed⟩ | ⟨kind, rest, flushed, otherFlushed⟩
  · rw [flushed, otherFlushed]
    exact .ok ⟨normalized.input_eq, normalized.writes_eq,
      congrArg List.tail normalized.flushes_eq, normalized.output_eq⟩
  · rw [flushed, otherFlushed]
    exact .error ⟨normalized.input_eq, normalized.writes_eq, rfl, normalized.output_eq⟩

end Calls

theorem simulation_normalized : StreamSimulation Normalized where
  write := answers_write_normalized
  read := answers_read_normalized
  flush := answers_flush_normalized

/-- Interruptions do not show, nor how a script says that the input is at its end or that a
byte is refused: on the scripts in normal form a run ends after the same number of steps,
with the same counters or the same kind of failure, the same machine and the same output,
and what it leaves unread is the normal form of what is left unread otherwise. -/
theorem run_of_normal (program : Program) (machine : Machine) (streams : Streams) (limit : Nat) :
    Option.Rel (Corresponds (Attached Normalized)) (run limit program ⟨machine, streams⟩)
      (run limit program ⟨machine, streams.normal⟩) :=
  simulation_normalized.run (Streams.normalized_normal streams) program machine limit

end Execution

end Brainfuck
