import Mathlib.Data.List.Pairwise
import ScriptTree.Proofs.Token.Partition

/-! Extents: parts of a text together with the bytes that they take. Parts can be laid out one
behind the other, and a scanner tells by its cursor the extents of the tokens that it reads and of
what it skips between them. -/

namespace ScriptTree

/-- A part of a text, the byte at which it starts and the one at which it has ended. -/
structure Extent (α : Type) where
  part : α
  start : Nat
  stop : Nat
deriving DecidableEq, Repr

namespace Extent

variable {α β : Type}

def range (extent : Extent α) : Nat × Nat :=
  (extent.start, extent.stop)

/-- One of two extents ends before the other starts. -/
def Separate (first second : Extent α) : Prop :=
  first.stop ≤ second.start ∨ second.stop ≤ first.start

instance : Std.Symm (@Separate α) :=
  ⟨fun _ _ => Or.symm⟩

/-- The ranges of the parts of one sort. -/
def ranges (sort : α → Bool) (extents : List (Extent α)) : List (Nat × Nat) :=
  (extents.filter fun extent => sort extent.part).map range

theorem mem_ranges {sort : α → Bool} {extents : List (Extent α)} {range : Nat × Nat} :
    range ∈ ranges sort extents ↔
      ∃ extent ∈ extents, sort extent.part = true ∧ extent.range = range := by
  simp [ranges, and_assoc]

/-- The extents of parts that stand one behind the other from a byte on. -/
def layOut (chars : α → List Char) (start : Nat) : List α → List (Extent α)
  | [] => []
  | part :: parts =>
    ⟨part, start, start + byteLength (chars part)⟩ ::
      layOut chars (start + byteLength (chars part)) parts

variable {chars : α → List Char} {start : Nat} {parts : List α}

theorem start_le_of_mem_layOut {extent : Extent α} (listed : extent ∈ layOut chars start parts) :
    start ≤ extent.start := by
  induction parts generalizing start with
  | nil => cases listed
  | cons part parts ih =>
    rcases List.mem_cons.mp listed with rfl | listed
    · exact Nat.le_refl start
    · exact Nat.le_trans (Nat.le_add_right ..) (ih listed)

/-- Parts that are laid out do not overlap. -/
theorem pairwise_layOut (chars : α → List Char) (start : Nat) (parts : List α) :
    (layOut chars start parts).Pairwise fun first second => first.stop ≤ second.start := by
  induction parts generalizing start with
  | nil => exact .nil
  | cons part parts ih =>
    exact List.pairwise_cons.mpr ⟨fun extent listed => start_le_of_mem_layOut listed, ih _⟩

theorem separate_of_mem_layOut {first second : Extent α}
    (listed : first ∈ layOut chars start parts) (listed' : second ∈ layOut chars start parts)
    (other : first ≠ second) : first.Separate second := by
  have ordered : (layOut chars start parts).Pairwise Separate :=
    (pairwise_layOut chars start parts).imp .inl
  exact ordered.forall listed listed' other

theorem layOut_append (chars : α → List Char) (start : Nat) (parts others : List α) :
    layOut chars start (parts ++ others) = layOut chars start parts ++
      layOut chars (start + byteLength (parts.flatMap chars)) others := by
  induction parts generalizing start with
  | nil => rfl
  | cons part parts ih =>
    simp only [List.cons_append, layOut, ih, List.flatMap_cons, byteLength_append, Nat.add_assoc]

theorem ranges_append (sort : α → Bool) (extents others : List (Extent α)) :
    ranges sort (extents ++ others) = ranges sort extents ++ ranges sort others := by
  simp [ranges]

theorem ranges_layOut_eq_nil {sort : α → Bool} (none : ∀ part ∈ parts, sort part = false)
    (start : Nat) : ranges sort (layOut chars start parts) = [] := by
  induction parts generalizing start with
  | nil => rfl
  | cons part parts ih =>
    obtain ⟨first, others⟩ := List.forall_mem_cons.mp none
    have behind := ih others (start + byteLength (chars part))
    rw [ranges] at behind ⊢
    rwa [layOut, List.filter_cons_of_neg (by simp [first])]

/-- When parts are divided further, the ranges of a sort stay the same if each part of this sort
stays whole, and those of other parts come to no pieces of this sort. -/
theorem ranges_layOut_flatMap {pieceChars : β → List Char} {divide : α → List β}
    {sort : α → Bool} {pieceSort : β → Bool}
    (whole : ∀ part ∈ parts, (divide part).flatMap pieceChars = chars part)
    (kept : ∀ part ∈ parts, sort part = true → ∃ piece, divide part = [piece] ∧ pieceSort piece)
    (others : ∀ part ∈ parts, sort part = false →
      ∀ piece ∈ divide part, pieceSort piece = false) (start : Nat) :
    ranges pieceSort (layOut pieceChars start (parts.flatMap divide)) =
      ranges sort (layOut chars start parts) := by
  induction parts generalizing start with
  | nil => rfl
  | cons part parts ih =>
    rw [List.forall_mem_cons] at whole kept others
    rw [List.flatMap_cons, layOut_append, whole.1, ranges_append, ih whole.2 kept.2 others.2]
    cases sorted : sort part with
    | true =>
      obtain ⟨piece, alone, same⟩ := kept.1 sorted
      have size : chars part = pieceChars piece := by simpa [alone] using whole.1.symm
      simp [alone, ranges, layOut, range, sorted, same, size]
    | false =>
      rw [ranges_layOut_eq_nil (others.1 sorted)]
      simp [ranges, layOut, sorted]

end Extent

/-! ### Scanners -/

namespace Scanner

variable {scanner : Scanner} {found : Match}

/-- What a scanner reads and skips from here on, with the bytes that its cursor passes, up to the
end of the text or a lexical error. -/
def extents (scanner : Scanner) : List (Extent Segment) :=
  match matched : firstMatch? scanner.rest with
  | none => []
  | some found =>
    have : found.rest.length < scanner.rest.length := firstMatch?_length_lt matched
    ⟨.ofMatch found, scanner.cursor, (scanner.past found).cursor⟩ :: (scanner.past found).extents
termination_by scanner.rest.length

theorem extents_of_none (stuck : firstMatch? scanner.rest = none) : scanner.extents = [] := by
  rw [extents]
  split <;> simp_all

theorem extents_of_match (matched : firstMatch? scanner.rest = some found) : scanner.extents =
    ⟨.ofMatch found, scanner.cursor, (scanner.past found).cursor⟩ ::
      (scanner.past found).extents := by
  rw [extents]
  split <;> simp_all

/-- The tokens among the segments are those that the scanner reads. -/
theorem filterMap_extents (scanner : Scanner) :
    scanner.extents.filterMap (fun extent => extent.part.token?) = scanner.drain.1 := by
  induction scanner using match_induction with
  | finished scanner unread =>
    rw [drain_nil unread, extents_of_none (by rw [unread]; rfl)]
    rfl
  | stuck scanner c cs unread stuck =>
    rw [drain_stuck unread stuck, extents_of_none (unread ▸ stuck)]
    rfl
  | past scanner found matched ih =>
    rw [extents_of_match matched]
    cases produces : found.kind with
    | none =>
      rw [drain_skip matched produces, ← ih]
      simp [Segment.ofMatch, produces, Segment.token?]
    | some kind =>
      rw [drain_token matched produces, ← ih]
      simp [Segment.ofMatch, produces, Segment.token?]

/-- The cursor passes the segments one behind the other. -/
theorem extents_eq_layOut (scanner : Scanner) : scanner.extents =
    Extent.layOut Segment.chars scanner.cursor (scanner.extents.map Extent.part) := by
  induction scanner using match_induction with
  | finished scanner unread =>
    rw [extents_of_none (by rw [unread]; rfl)]
    rfl
  | stuck scanner c cs unread stuck =>
    rw [extents_of_none (unread ▸ stuck)]
    rfl
  | past scanner found matched ih =>
    rw [extents_of_match matched, List.map_cons, Extent.layOut, Segment.chars_ofMatch, past] at *
    rw [← ih]

/-- Without a lexical error the segments are the whole text. -/
theorem flatMap_extents (scanner : Scanner) (faultless : scanner.drain.2 = none) :
    scanner.extents.flatMap (fun extent => extent.part.chars) = scanner.rest := by
  induction scanner using match_induction with
  | finished scanner unread => rw [extents_of_none (by rw [unread]; rfl), unread]; rfl
  | stuck scanner c cs unread stuck =>
    rw [drain_stuck unread stuck] at faultless
    cases faultless
  | past scanner found matched ih =>
    have behind := (fault_past matched).trans faultless
    rw [extents_of_match matched, List.flatMap_cons, ih behind, Segment.chars_ofMatch]
    exact firstMatch?_append matched

end Scanner

end ScriptTree
