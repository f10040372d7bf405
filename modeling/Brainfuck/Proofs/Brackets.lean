import Mathlib.Data.List.Basic
import Mathlib.Tactic.MkIffOfInductiveProp

/-!
# Nested brackets

Source texts, jump tables and generated code are all checked in one pass over
their brackets that keeps the labels of the brackets that are still open.  The
labels differ: they are byte offsets in a text and indices in a program.  This
file describes the pass once, for labels of any kind, and determines its result
by counting brackets in prefixes.
-/

namespace Brainfuck

inductive Side where
  | opening
  | closing
  | neither
  deriving DecidableEq

/-- What is wrong with a nesting: the label of the bracket at fault. -/
inductive Fault (α : Type) where
  /-- A closing bracket that no opening bracket before it can match. -/
  | unmatched (label : α)
  /-- An opening bracket that no closing bracket after it can match. -/
  | unclosed (label : α)
  deriving DecidableEq

/-- The same fault, at brackets whose labels are related. -/
inductive Fault.Rel {α β : Type} (related : α → β → Prop) : Fault α → Fault β → Prop where
  | unmatched {label : α} {other : β} (labels : related label other) :
      Rel related (.unmatched label) (.unmatched other)
  | unclosed {label : α} {other : β} (labels : related label other) :
      Rel related (.unclosed label) (.unclosed other)

namespace Brackets

variable {α : Type}

/-- Check labelled items, given the labels of the open brackets, innermost
first. -/
def check (openings : List α) : List (α × Side) → Option (Fault α)
  | [] => openings.head?.map .unclosed
  | (label, .opening) :: rest => check (label :: openings) rest
  | (label, .closing) :: rest =>
      match openings with
      | [] => some (.unmatched label)
      | _ :: outer => check outer rest
  | (_, .neither) :: rest => check openings rest

def verdict {ε : Type} (toError : Fault α → ε) : Option (Fault α) → Except ε Unit
  | none => .ok ()
  | some fault => .error (toError fault)

theorem exists_eq_ok_of_map_eq_verdict {ε β : Type} {toError : Fault α → ε} {result : Except ε β}
    (checked : result.map (fun _ => ()) = verdict toError none) : ∃ value, result = .ok value := by
  cases result with
  | error cause => cases checked
  | ok value => exact ⟨value, rfl⟩

theorem eq_error_of_map_eq_verdict {ε β : Type} {toError : Fault α → ε} {result : Except ε β}
    {fault : Fault α} (checked : result.map (fun _ => ()) = verdict toError (some fault)) :
    result = .error (toError fault) := by
  cases result with
  | error cause =>
      cases checked
      rfl
  | ok value => cases checked

/-! ## Counting -/

section Counting

/-- No prefix closes more brackets than it opens and `depth` more. -/
def NoExcess (depth : Nat) (sides : List Side) : Prop :=
  ∀ front, front <+: sides → front.count .closing ≤ front.count .opening + depth

theorem noExcess_nil (depth : Nat) : NoExcess depth [] := by
  intro front isPrefix
  simp [List.prefix_nil.mp isPrefix]

theorem noExcess_cons {depth : Nat} {side : Side} {rest : List Side} :
    NoExcess depth (side :: rest) ↔
      ∀ front, front <+: rest →
        (side :: front).count .closing ≤ (side :: front).count .opening + depth := by
  constructor
  · intro noExcess front isPrefix
    exact noExcess (side :: front) (List.cons_prefix_cons.mpr ⟨rfl, isPrefix⟩)
  · intro bounded front isPrefix
    rcases List.prefix_cons_iff.mp isPrefix with rfl | ⟨tail, rfl, tailPrefix⟩
    · simp
    · exact bounded tail tailPrefix

theorem noExcess_opening {depth : Nat} {rest : List Side} :
    NoExcess depth (.opening :: rest) ↔ NoExcess (depth + 1) rest := by
  rw [noExcess_cons]
  refine forall₂_congr fun front _ => ?_
  simp only [List.count_cons_self, List.count_cons_of_ne (by decide : Side.opening ≠ .closing)]
  omega

theorem noExcess_closing {depth : Nat} {rest : List Side} :
    NoExcess (depth + 1) (.closing :: rest) ↔ NoExcess depth rest := by
  rw [noExcess_cons]
  refine forall₂_congr fun front _ => ?_
  simp only [List.count_cons_self, List.count_cons_of_ne (by decide : Side.closing ≠ .opening)]
  omega

theorem noExcess_neither {depth : Nat} {rest : List Side} :
    NoExcess depth (.neither :: rest) ↔ NoExcess depth rest := by
  rw [noExcess_cons]
  refine forall₂_congr fun front _ => ?_
  simp

/-- Every opening bracket is closed, and so are `depth` brackets that were open
before. -/
@[mk_iff balanced_iff]
structure Balanced (depth : Nat) (sides : List Side) : Prop where
  noExcess : NoExcess depth sides
  count_closing : sides.count .closing = sides.count .opening + depth

theorem balanced_nil : Balanced 0 [] :=
  ⟨noExcess_nil 0, rfl⟩

theorem balanced_opening {depth : Nat} {rest : List Side} :
    Balanced depth (.opening :: rest) ↔ Balanced (depth + 1) rest := by
  simp only [balanced_iff, noExcess_opening, List.count_cons_self,
    List.count_cons_of_ne (by decide : Side.opening ≠ .closing)]
  refine and_congr_right fun _ => ?_
  omega

theorem balanced_closing {depth : Nat} {rest : List Side} :
    Balanced (depth + 1) (.closing :: rest) ↔ Balanced depth rest := by
  simp only [balanced_iff, noExcess_closing, List.count_cons_self,
    List.count_cons_of_ne (by decide : Side.closing ≠ .opening)]
  refine and_congr_right fun _ => ?_
  omega

theorem balanced_neither {depth : Nat} {rest : List Side} :
    Balanced depth (.neither :: rest) ↔ Balanced depth rest := by
  simp [balanced_iff, noExcess_neither]

/-- Behind brackets that are all closed nothing changes. -/
theorem Balanced.append {depth : Nat} {first second : List Side} (closed : Balanced 0 first)
    (balanced : Balanced depth second) : Balanced depth (first ++ second) := by
  have closedCount := closed.count_closing
  constructor
  · rintro front ⟨behind, split⟩
    rcases List.append_eq_append_iff.mp split with ⟨rest, rfl, -⟩ | ⟨part, rfl, rfl⟩
    · have bounded := closed.noExcess front ⟨rest, rfl⟩
      omega
    · have bounded := balanced.noExcess part ⟨behind, rfl⟩
      simp only [List.count_append]
      omega
  · have count := balanced.count_closing
    simp only [List.count_append]
    omega

end Counting

/-! ## Symbols with sides -/

section Symbols

variable {β : Type} [DecidableEq β] {side : β → Side}

theorem count_map_side {which : Side} {symbol : β}
    (stands : ∀ other, side other = which ↔ other = symbol) (symbols : List β) :
    (symbols.map side).count which = symbols.count symbol := by
  simp only [List.count_eq_countP, List.countP_map]
  congr 1
  funext other
  simp [stands]

variable {opening closing : β} (opens : ∀ symbol, side symbol = .opening ↔ symbol = opening)
  (closes : ∀ symbol, side symbol = .closing ↔ symbol = closing)

include opens closes

theorem noExcess_map_side_iff {symbols : List β} :
    NoExcess 0 (symbols.map side) ↔
      ∀ front, front <+: symbols → front.count closing ≤ front.count opening := by
  constructor
  · intro noExcess front isPrefix
    have bounded := noExcess (front.map side) (isPrefix.map side)
    rwa [count_map_side opens, count_map_side closes] at bounded
  · intro bounded front isPrefix
    obtain ⟨symbolsFront, symbolsPrefix, rfl⟩ := List.prefix_map_iff.mp isPrefix
    rw [count_map_side opens, count_map_side closes]
    exact bounded symbolsFront symbolsPrefix

theorem balanced_map_side_iff {symbols : List β} :
    Balanced 0 (symbols.map side) ↔
      (∀ front, front <+: symbols → front.count closing ≤ front.count opening) ∧
        symbols.count closing = symbols.count opening := by
  rw [balanced_iff, noExcess_map_side_iff opens closes, count_map_side opens,
    count_map_side closes, Nat.add_zero]

end Symbols

/-! ## The result of a check -/

theorem balanced_of_check (openings : List α) {items : List (α × Side)}
    (nothing : check openings items = none) :
    Balanced openings.length (items.map Prod.snd) := by
  induction items generalizing openings with
  | nil =>
      cases openings with
      | nil => exact balanced_nil
      | cons opening outer => simp [check] at nothing
  | cons item rest ih =>
      obtain ⟨label, side⟩ := item
      cases side with
      | opening => exact balanced_opening.mpr (ih (label :: openings) nothing)
      | closing =>
          cases openings with
          | nil => simp [check] at nothing
          | cons opening outer => exact balanced_closing.mpr (ih outer nothing)
      | neither => exact balanced_neither.mpr (ih openings nothing)

/-- The unmatched bracket stands behind items that close every bracket open
before it. -/
theorem exists_append_of_check_unmatched (openings : List α) {items : List (α × Side)} {label : α}
    (found : check openings items = some (.unmatched label)) :
    ∃ before after, items = before ++ (label, .closing) :: after ∧
      Balanced openings.length (before.map Prod.snd) := by
  induction items generalizing openings with
  | nil => cases openings <;> simp [check] at found
  | cons item rest ih =>
      obtain ⟨itemLabel, side⟩ := item
      cases side with
      | opening =>
          obtain ⟨before, after, rfl, balanced⟩ := ih (itemLabel :: openings) found
          exact ⟨(itemLabel, .opening) :: before, after, rfl, balanced_opening.mpr balanced⟩
      | closing =>
          cases openings with
          | nil =>
              obtain rfl : itemLabel = label := by simpa [check] using found
              exact ⟨[], rest, rfl, balanced_nil⟩
          | cons opening outer =>
              obtain ⟨before, after, rfl, balanced⟩ := ih outer found
              exact ⟨(itemLabel, .closing) :: before, after, rfl, balanced_closing.mpr balanced⟩
      | neither =>
          obtain ⟨before, after, rfl, balanced⟩ := ih openings found
          exact ⟨(itemLabel, .neither) :: before, after, rfl, balanced_neither.mpr balanced⟩

/-- The unclosed bracket stands among the items, and those behind it are
balanced; or it was open before, and the items close the brackets inside it. -/
theorem exists_append_of_check_unclosed (openings : List α) {items : List (α × Side)} {label : α}
    (found : check openings items = some (.unclosed label)) :
    NoExcess openings.length (items.map Prod.snd) ∧
      ((∃ before after, items = before ++ (label, .opening) :: after ∧
          Balanced 0 (after.map Prod.snd)) ∨
        ∃ inner outer, openings = inner ++ label :: outer ∧
          Balanced inner.length (items.map Prod.snd)) := by
  induction items generalizing openings with
  | nil =>
      cases openings with
      | nil => simp [check] at found
      | cons opening outer =>
          obtain rfl : opening = label := by simpa [check] using found
          exact ⟨noExcess_nil _, Or.inr ⟨[], outer, rfl, balanced_nil⟩⟩
  | cons item rest ih =>
      obtain ⟨itemLabel, side⟩ := item
      cases side with
      | opening =>
          obtain ⟨noExcess, inside | ⟨inner, outer, split, balanced⟩⟩ :=
            ih (itemLabel :: openings) found
          · obtain ⟨before, after, rfl, balanced⟩ := inside
            exact ⟨noExcess_opening.mpr noExcess,
              Or.inl ⟨(itemLabel, .opening) :: before, after, rfl, balanced⟩⟩
          · refine ⟨noExcess_opening.mpr noExcess, ?_⟩
            -- the unclosed bracket is either this item or one open before it
            cases inner with
            | nil =>
                obtain ⟨rfl, rfl⟩ : itemLabel = label ∧ openings = outer := by simpa using split
                exact Or.inl ⟨[], rest, rfl, balanced⟩
            | cons innermost inner =>
                obtain ⟨rfl, rfl⟩ : itemLabel = innermost ∧ openings = inner ++ label :: outer := by
                  simpa using split
                exact Or.inr ⟨inner, outer, rfl, balanced_opening.mpr balanced⟩
      | closing =>
          cases openings with
          | nil => simp [check] at found
          | cons opening outermost =>
              obtain ⟨noExcess, inside | ⟨inner, outer, rfl, balanced⟩⟩ :=
                ih outermost found
              · obtain ⟨before, after, rfl, balanced⟩ := inside
                exact ⟨noExcess_closing.mpr noExcess,
                  Or.inl ⟨(itemLabel, .closing) :: before, after, rfl, balanced⟩⟩
              · exact ⟨noExcess_closing.mpr noExcess,
                  Or.inr ⟨opening :: inner, outer, rfl, balanced_closing.mpr balanced⟩⟩
      | neither =>
          obtain ⟨noExcess, inside | ⟨inner, outer, split, balanced⟩⟩ := ih openings found
          · obtain ⟨before, after, rfl, balanced⟩ := inside
            exact ⟨noExcess_neither.mpr noExcess,
              Or.inl ⟨(itemLabel, .neither) :: before, after, rfl, balanced⟩⟩
          · exact ⟨noExcess_neither.mpr noExcess,
              Or.inr ⟨inner, outer, split, balanced_neither.mpr balanced⟩⟩

end Brackets

end Brainfuck
