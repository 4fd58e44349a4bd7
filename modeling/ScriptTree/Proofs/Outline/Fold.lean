import Mathlib.Data.Nat.Basic
import ScriptTree.Outline.Fold
import ScriptTree.Proofs.Outline.Depth

/-! What stays visible when rows are folded: some of the rows, in their order, and always the first.
Hidden are the rows that a folded row with children encloses, and one pass that compares with the
depth of a single folded row finds them all. -/

namespace ScriptTree

/-- Visible rows are numbered from the first row on and keep their order. -/
theorem visibleFrom_sublist (folded : List Nat) (index : Nat) (folding : Option Nat)
    (rows : List Row) :
    (visibleFrom folded index folding rows).Sublist (List.range' index rows.length) := by
  induction rows generalizing index folding with
  | nil => exact List.nil_sublist _
  | cons row rows ih =>
    rw [visibleFrom, List.length_cons, List.range'_succ]
    split
    · exact (ih (index + 1) folding).cons index
    · exact (ih (index + 1) _).cons_cons index

variable (rows : List Row) (folded : List Nat)

theorem visibleRows_sublist : (visibleRows rows folded).Sublist (List.range rows.length) := by
  rw [List.range_eq_range']
  exact visibleFrom_sublist folded 0 none rows

theorem visibleRows_length_le : (visibleRows rows folded).length ≤ rows.length := by
  simpa using (visibleRows_sublist rows folded).length_le

variable {rows folded}

theorem lt_length_of_mem_visibleRows {index : Nat} (shown : index ∈ visibleRows rows folded) :
    index < rows.length :=
  List.mem_range.mp ((visibleRows_sublist rows folded).subset shown)

/-- Nothing hides the first row. -/
theorem head?_visibleRows (inhabited : rows ≠ []) : (visibleRows rows folded).head? = some 0 := by
  obtain ⟨row, more, rfl⟩ := List.exists_cons_of_ne_nil inhabited
  rfl

/-! ### One row -/

/-- A row that is folded and has something to hide; the rows are numbered from `start` on. -/
def Folds (folded : List Nat) (start : Nat) (rows : List Row) (j : Nat) : Prop :=
  start + j ∈ folded ∧ ∃ row, rows[j]? = some row ∧ row.hasChildren = true

/-- Nothing hides row `k`: neither a folded row in front of all rows, which is `folding` deep, nor
a folded row among them. -/
structure Shown (folded : List Nat) (start : Nat) (folding : Option Nat) (rows : List Row)
    (k : Nat) : Prop where
  within : k < rows.length
  ahead : ∀ depth ∈ folding, ¬AllDeeper depth rows k
  among : ∀ j, Folds folded start rows j → ¬Encloses rows j k

variable {row : Row} {start depth i j k : Nat} {folding : Option Nat}

theorem isBelow_iff : row.isBelow folding = true ↔ ∃ depth ∈ folding, depth < row.depth := by
  cases folding <;> simp [Row.isBelow]

theorem folds_zero : Folds folded start (row :: rows) 0 ↔
    (folded.contains start && row.hasChildren) = true := by
  simp [Folds]

theorem folds_succ :
    Folds folded start (row :: rows) (j + 1) ↔ Folds folded (start + 1) rows j := by
  simp [Folds, Nat.add_assoc, Nat.add_comm 1]

theorem shown_zero :
    Shown folded start folding (row :: rows) 0 ↔ ¬row.isBelow folding = true := by
  rw [isBelow_iff]
  constructor
  · rintro ⟨_, ahead, _⟩ ⟨depth, folds, deeper⟩
    exact ahead depth folds (allDeeper_zero.mpr deeper)
  · intro above
    exact ⟨Nat.zero_lt_succ _,
      fun depth folds deeper => above ⟨depth, folds, allDeeper_zero.mp deeper⟩,
      fun j _ => not_encloses_zero⟩

/-- Behind a hidden row, the row that hides it goes on hiding. -/
theorem shown_succ_of_below (below : row.isBelow folding = true) :
    Shown folded start folding (row :: rows) (k + 1) ↔
      Shown folded (start + 1) folding rows k := by
  obtain ⟨depth, folds, deeper⟩ := isBelow_iff.mp below
  constructor
  · rintro ⟨within, ahead, among⟩
    refine ⟨Nat.lt_of_succ_lt_succ within, fun other folds' all => ?_, fun j folds' all => ?_⟩
    · obtain rfl := Option.mem_unique folds folds'
      exact ahead depth folds (allDeeper_succ.mpr ⟨deeper, all⟩)
    · exact among (j + 1) (folds_succ.mpr folds') (encloses_succ_succ.mpr all)
  · rintro ⟨within, ahead, among⟩
    refine ⟨Nat.succ_lt_succ within, fun other folds' all => ?_, fun j folds' all => ?_⟩
    · exact ahead other folds' (allDeeper_succ.mp all).2
    · cases j with
      | zero =>
        -- What the hidden row encloses is deeper than what hides it.
        exact ahead depth folds ((encloses_zero_succ.mp all).mono (Nat.le_of_lt deeper))
      | succ j => exact among j (folds_succ.mp folds') (encloses_succ_succ.mp all)

/-- A visible row ends what was hidden in front of it and hides what it encloses if it is folded. -/
theorem shown_succ_of_not_below (above : ¬row.isBelow folding = true) :
    Shown folded start folding (row :: rows) (k + 1) ↔
      Shown folded (start + 1)
        (if folded.contains start && row.hasChildren then some row.depth else none) rows k := by
  rw [isBelow_iff] at above
  constructor
  · rintro ⟨within, _, among⟩
    refine ⟨Nat.lt_of_succ_lt_succ within, fun depth folds all => ?_, fun j folds all => ?_⟩
    · split at folds <;> cases folds
      rename_i hides
      exact among 0 (folds_zero.mpr hides) (encloses_zero_succ.mpr all)
    · exact among (j + 1) (folds_succ.mpr folds) (encloses_succ_succ.mpr all)
  · rintro ⟨within, ahead, among⟩
    refine ⟨Nat.succ_lt_succ within, fun depth folds all => ?_, fun j folds all => ?_⟩
    · exact above ⟨depth, folds, (allDeeper_succ.mp all).1⟩
    · cases j with
      | zero =>
        rw [if_pos (folds_zero.mp folds)] at ahead
        exact ahead row.depth rfl (encloses_zero_succ.mp all)
      | succ j => exact among j (folds_succ.mp folds) (encloses_succ_succ.mp all)

/-! ### All rows -/

theorem mem_visibleFrom :
    i ∈ visibleFrom folded start folding rows ↔
      ∃ k, i = start + k ∧ Shown folded start folding rows k := by
  induction rows generalizing start folding with
  | nil =>
    constructor
    · exact nofun
    · rintro ⟨k, _, within, _⟩
      exact absurd within (Nat.not_lt_zero k)
  | cons row rows ih =>
    rw [visibleFrom, ← Nat.or_exists_add_one]
    split
    · rename_i below
      simp [ih, shown_zero, shown_succ_of_below below, below, Nat.add_assoc, Nat.add_comm 1]
    · rename_i above
      simp [ih, shown_zero, shown_succ_of_not_below above, above, Nat.add_assoc, Nat.add_comm 1]

/-- A row is visible if no folded row with something to hide encloses it. -/
theorem mem_visibleRows : i ∈ visibleRows rows folded ↔
    i < rows.length ∧ ∀ j, Folds folded 0 rows j → ¬Encloses rows j i := by
  rw [visibleRows, mem_visibleFrom]
  constructor
  · rintro ⟨k, rfl, within, _, among⟩
    rw [Nat.zero_add]
    exact ⟨within, among⟩
  · rintro ⟨within, among⟩
    exact ⟨i, (Nat.zero_add i).symm, within, nofun, among⟩

/-- What hides a row stands in front of it: where no other rows in front are folded, a visible row
stays visible. -/
theorem mem_visibleRows_of_folded {folded' : List Nat} (shown : i ∈ visibleRows rows folded)
    (fewer : ∀ j < i, j ∈ folded' → j ∈ folded) : i ∈ visibleRows rows folded' := by
  obtain ⟨within, among⟩ := mem_visibleRows.mp shown
  refine mem_visibleRows.mpr ⟨within, fun j folds encloses => ?_⟩
  obtain ⟨listed, parent⟩ := folds
  rw [Nat.zero_add] at listed
  refine among j ⟨?_, parent⟩ encloses
  rw [Nat.zero_add]
  exact fewer j encloses.1 listed

/-- What encloses a visible row is visible. -/
theorem mem_visibleRows_of_encloses (shown : i ∈ visibleRows rows folded)
    (encloses : Encloses rows j i) : j ∈ visibleRows rows folded := by
  obtain ⟨before, within, _⟩ := id encloses
  obtain ⟨_, among⟩ := mem_visibleRows.mp shown
  refine mem_visibleRows.mpr ⟨Nat.lt_trans before within, fun m folds outer => ?_⟩
  exact among m folds (outer.trans encloses)

/-- A hidden row is enclosed by a folded row that is itself visible. -/
theorem exists_visible_folds (folds : Folds folded 0 rows j) (encloses : Encloses rows j i) :
    ∃ m, m ∈ visibleRows rows folded ∧ Folds folded 0 rows m ∧ Encloses rows m i := by
  induction j using Nat.strong_induction_on with
  | h j ih =>
    by_cases shown : j ∈ visibleRows rows folded
    · exact ⟨j, shown, folds, encloses⟩
    · -- A folded row further out hides this one, and with it all that it encloses.
      have within : j < rows.length := Nat.lt_trans encloses.1 encloses.2.1
      have hidden : ∃ m, Folds folded 0 rows m ∧ Encloses rows m j := by
        by_contra none
        refine shown (mem_visibleRows.mpr ⟨within, fun m folds' outer => ?_⟩)
        exact none ⟨m, folds', outer⟩
      obtain ⟨m, folds', outer⟩ := hidden
      exact ih m outer.1 folds' (outer.trans encloses)

theorem visibleRows_sorted (rows : List Row) (folded : List Nat) :
    (visibleRows rows folded).Pairwise (· < ·) :=
  List.pairwise_lt_range.sublist (visibleRows_sublist rows folded)

/-- Folding hides exactly what lies below a folded row: the visible rows stand in their order, and a
row is one of them unless a folded row in front of it, with children, is less deep than every row
from there on up to this one. -/
theorem visible_iff_not_enclosed (rows : List Row) (folded : List Nat) :
    (visibleRows rows folded).Pairwise (· < ·) ∧
    ∀ i, i ∈ visibleRows rows folded ↔ ∃ within : i < rows.length,
      ¬∃ (j : Nat) (before : j < i), j ∈ folded ∧ rows[j].hasChildren = true ∧
        ∀ k (upTo : k ≤ i), j < k → rows[j].depth < rows[k].depth := by
  refine ⟨visibleRows_sorted rows folded, fun i => mem_visibleRows.trans ⟨?_, ?_⟩⟩
  · rintro ⟨within, among⟩
    refine ⟨within, ?_⟩
    rintro ⟨j, before, listed, parent, deeper⟩
    have folds : Folds folded 0 rows j := by
      refine ⟨(Nat.zero_add j).symm ▸ listed, rows[j], ?_, parent⟩
      exact List.getElem?_eq_getElem _
    exact among j folds ⟨before, within, deeper⟩
  · rintro ⟨within, none⟩
    refine ⟨within, ?_⟩
    rintro j ⟨listed, row, found, parent⟩ ⟨before, _, deeper⟩
    obtain ⟨_, rfl⟩ := List.getElem?_eq_some_iff.mp found
    exact none ⟨j, before, by rwa [Nat.zero_add] at listed, parent, deeper⟩

end ScriptTree
