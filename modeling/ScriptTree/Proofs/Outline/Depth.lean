import ScriptTree.Outline.Row

/-! Depths tell a tree. The rows that a row encloses, which are those below it in the tree, stand
behind it up to the first row that is not deeper. -/

namespace ScriptTree

/-- All rows up to row `i` are deeper than `depth`. -/
def AllDeeper (depth : Nat) (rows : List Row) (i : Nat) : Prop :=
  ∃ within : i < rows.length, ∀ k (upTo : k ≤ i), depth < rows[k].depth

/-- Row `i` stands behind row `j`, and all rows from there on up to it are deeper than row `j`. -/
def Encloses (rows : List Row) (j i : Nat) : Prop :=
  ∃ (before : j < i) (within : i < rows.length),
    ∀ k (upTo : k ≤ i), j < k → rows[j].depth < rows[k].depth

variable {row : Row} {rows : List Row} {depth i j : Nat}

theorem allDeeper_zero : AllDeeper depth (row :: rows) 0 ↔ depth < row.depth := by
  constructor
  · rintro ⟨_, deeper⟩
    exact deeper 0 (Nat.le_refl 0)
  · intro deeper
    refine ⟨Nat.zero_lt_succ _, fun k upTo => ?_⟩
    obtain rfl := Nat.le_zero.mp upTo
    exact deeper

theorem allDeeper_succ :
    AllDeeper depth (row :: rows) (i + 1) ↔ depth < row.depth ∧ AllDeeper depth rows i := by
  constructor
  · rintro ⟨within, deeper⟩
    exact ⟨deeper 0 (Nat.zero_le _), Nat.lt_of_succ_lt_succ within,
      fun k upTo => deeper (k + 1) (Nat.succ_le_succ upTo)⟩
  · rintro ⟨first, within, deeper⟩
    refine ⟨Nat.succ_lt_succ within, fun k upTo => ?_⟩
    cases k with
    | zero => exact first
    | succ k => exact deeper k (Nat.le_of_succ_le_succ upTo)

theorem AllDeeper.mono {depth' : Nat} (deeper : AllDeeper depth rows i) (le : depth' ≤ depth) :
    AllDeeper depth' rows i :=
  ⟨deeper.1, fun k upTo => Nat.lt_of_le_of_lt le (deeper.2 k upTo)⟩

theorem not_encloses_zero : ¬Encloses rows j 0 :=
  fun ⟨before, _⟩ => Nat.not_lt_zero j before

theorem encloses_zero_succ : Encloses (row :: rows) 0 (i + 1) ↔ AllDeeper row.depth rows i := by
  constructor
  · rintro ⟨_, within, deeper⟩
    exact ⟨Nat.lt_of_succ_lt_succ within,
      fun k upTo => deeper (k + 1) (Nat.succ_le_succ upTo) (Nat.zero_lt_succ k)⟩
  · rintro ⟨within, deeper⟩
    refine ⟨Nat.zero_lt_succ i, Nat.succ_lt_succ within, fun k upTo behind => ?_⟩
    cases k with
    | zero => exact absurd behind (Nat.lt_irrefl 0)
    | succ k => exact deeper k (Nat.le_of_succ_le_succ upTo)

theorem encloses_succ_succ : Encloses (row :: rows) (j + 1) (i + 1) ↔ Encloses rows j i := by
  constructor
  · rintro ⟨before, within, deeper⟩
    exact ⟨Nat.lt_of_succ_lt_succ before, Nat.lt_of_succ_lt_succ within, fun k upTo behind =>
      deeper (k + 1) (Nat.succ_le_succ upTo) (Nat.succ_lt_succ behind)⟩
  · rintro ⟨before, within, deeper⟩
    refine ⟨Nat.succ_lt_succ before, Nat.succ_lt_succ within, fun k upTo behind => ?_⟩
    cases k with
    | zero => exact absurd behind (Nat.not_lt_zero _)
    | succ k => exact deeper k (Nat.le_of_succ_le_succ upTo) (Nat.lt_of_succ_lt_succ behind)

/-- What a row encloses is enclosed by all that encloses this row. -/
theorem Encloses.trans {m : Nat} (outer : Encloses rows i j) (inner : Encloses rows j m) :
    Encloses rows i m := by
  obtain ⟨before, _, deeper⟩ := outer
  obtain ⟨before', within, deeper'⟩ := inner
  refine ⟨Nat.lt_trans before before', within, fun k upTo behind => ?_⟩
  rcases Nat.lt_or_ge j k with beyond | upToInner
  · exact Nat.lt_trans (deeper j (Nat.le_refl j) before) (deeper' k upTo beyond)
  · exact deeper k upToInner behind

end ScriptTree
