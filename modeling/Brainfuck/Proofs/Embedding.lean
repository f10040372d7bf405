import Brainfuck.Proofs.Pairing
import Mathlib.Order.Monotone.Basic

/-!
# Programs inside programs

The instructions of one program may be some of those of another one, in the same order.  As
long as partners stay together their jump tables agree, since there is only one way to pair
the brackets of either program.
-/

namespace Brainfuck

open Instruction

/-- A program is still a program without one of its blocks. -/
theorem Program.exists_ofList_without {front after : List Instruction} {block : Block}
    {whole : Program} (split : whole.toList = front ++ (block.toList ++ after)) :
    ∃ shortened, ofList (front ++ after) = .ok shortened := by
  have closed : Block.excess? (front ++ (block.toList ++ after)) = some 0 :=
    Block.excess?_eq_zero_iff.mpr
      ⟨whole.block, Block.ofList?_eq_some_iff.mpr (by rw [toList_block, split])⟩
  rw [Block.excess?_append (block.excess?_append_block after)] at closed
  obtain ⟨shortened, found⟩ := Block.excess?_eq_zero_iff.mp closed
  exact exists_ofList_eq_ok_iff.mpr ⟨shortened, Block.ofList?_eq_some_iff.mp found⟩

/-! ## Places of instructions -/

/-- The instructions of a program have places in another one, in the same order, and with
every bracket its partner has a place. -/
structure Program.Embeds (inner outer : Program) (place : Nat → Nat) : Prop where
  strictMono : StrictMono place
  getElem?_place (index : Nat) : outer.toList[place index]? = inner.toList[index]?
  closed {index partner : Nat} (paired : outer.partner? (place index) = some partner) :
    ∃ behind, place behind = partner

namespace Program.Embeds

variable {inner outer : Program} {place : Nat → Nat}

theorem bracketAt_place_iff (embeds : inner.Embeds outer place) (index : Nat) :
    BracketAt outer.toList (place index) ↔ BracketAt inner.toList index := by
  rw [BracketAt, BracketAt, embeds.getElem?_place]

theorem size_le_place (embeds : inner.Embeds outer place) {index : Nat}
    (atEnd : inner.size ≤ index) : outer.size ≤ place index := by
  have nothing : inner.toList[index]? = none :=
    List.getElem?_eq_none (by simpa [toList, size] using atEnd)
  rw [← embeds.getElem?_place, List.getElem?_eq_none_iff] at nothing
  simpa [toList, size] using nothing

theorem nestedPairing (embeds : inner.Embeds outer place) {other? : Nat → Option Nat}
    (other?_eq : ∀ {index partner}, other? index = some partner ↔
      outer.partner? (place index) = some (place partner)) :
    NestedPairing inner.toList other? where
  isSome_iff index := by
    rw [← embeds.bracketAt_place_iff, ← outer.nestedPairing.isSome_iff]
    simp only [Option.isSome_iff_exists]
    constructor
    · rintro ⟨partner, paired⟩
      exact ⟨place partner, other?_eq.mp paired⟩
    · rintro ⟨partner, paired⟩
      obtain ⟨behind, rfl⟩ := embeds.closed paired
      exact ⟨behind, other?_eq.mpr paired⟩
  symmetric paired := other?_eq.mpr (outer.nestedPairing.symmetric (other?_eq.mp paired))
  ne_self index paired := outer.nestedPairing.ne_self _ (other?_eq.mp paired)
  ordered paired order := by
    rw [← embeds.getElem?_place, ← embeds.getElem?_place]
    exact outer.nestedPairing.ordered (other?_eq.mp paired) (embeds.strictMono order)
  not_crossing paired otherPaired behind inside crossing :=
    outer.nestedPairing.not_crossing (other?_eq.mp paired) (other?_eq.mp otherPaired)
      (embeds.strictMono behind) (embeds.strictMono inside) (embeds.strictMono crossing)

/-- The jump tables agree, since the brackets have one pairing only. -/
theorem partner?_iff (embeds : inner.Embeds outer place) {index partner : Nat} :
    inner.partner? index = some partner ↔
      outer.partner? (place index) = some (place partner) := by
  obtain ⟨back, leftInverse⟩ := embeds.strictMono.injective.hasLeftInverse
  have other?_eq : ∀ {index partner}, (outer.partner? (place index)).map back = some partner ↔
      outer.partner? (place index) = some (place partner) := by
    intro index partner
    rw [Option.map_eq_some_iff]
    constructor
    · rintro ⟨found, paired, rfl⟩
      obtain ⟨behind, rfl⟩ := embeds.closed paired
      rwa [leftInverse behind]
    · intro paired
      exact ⟨place partner, paired, leftInverse partner⟩
  have sameTable := (embeds.nestedPairing other?_eq).unique inner.nestedPairing
  rw [sameTable]
  exact other?_eq

end Program.Embeds

end Brainfuck
