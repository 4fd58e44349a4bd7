import ScriptTree.Proofs.Browser.Selection

/-! Ways through a session. Keys lead to every row, whatever is folded, selected or in focus. A
visible row is reached from the first one downwards. A hidden row is enclosed by a folded one that
is visible; once this is reached and unfolded, fewer rows are folded. -/

namespace ScriptTree.Browser

/-- The keys that are enough to come to every row. -/
def wayKeys : List Key :=
  [.tab, .home, .down, .right]

/-- Keys of a way lead from one state to another. -/
def LeadsTo (before after : Browser) : Prop :=
  ∃ keys : List Key, (∀ key ∈ keys, key ∈ wayKeys) ∧ before.run (keys.map .key) = after

namespace LeadsTo

variable {first second third : Browser}

theorem refl (browser : Browser) : LeadsTo browser browser :=
  ⟨[], nofun, rfl⟩

theorem trans (before : LeadsTo first second) (behind : LeadsTo second third) :
    LeadsTo first third := by
  obtain ⟨keys, allowed, rfl⟩ := before
  obtain ⟨keys', allowed', rfl⟩ := behind
  refine ⟨keys ++ keys', List.forall_mem_append.mpr ⟨allowed, allowed'⟩, ?_⟩
  rw [List.map_append, run, List.foldl_append]
  rfl

theorem press (browser : Browser) {key : Key} (allowed : key ∈ wayKeys) :
    LeadsTo browser (browser.press key) :=
  ⟨[key], List.forall_mem_singleton.mpr allowed, rfl⟩

theorem valid (leads : LeadsTo first second) (valid : first.Valid) : second.Valid := by
  obtain ⟨keys, _, rfl⟩ := leads
  exact valid.run _

theorem rows (leads : LeadsTo first second) : second.rows = first.rows := by
  obtain ⟨keys, _, rfl⟩ := leads
  exact (Keeps.run first _).rows

end LeadsTo

variable {browser : Browser} {row place : Nat}

/-- The focus can be brought to the tree. -/
theorem leadsTo_tree (browser : Browser) : LeadsTo browser { browser with focus := .tree } := by
  cases focus : browser.focus with
  | source =>
    have pressed : browser.press .tab = { browser with focus := .tree } := by
      simp [press, focus, Pane.other]
    exact pressed ▸ .press browser (by decide)
  | tree =>
    rw [← focus]
    exact .refl browser

/-- From the first row every place is reached downwards. -/
theorem leadsTo_place (inTree : browser.focus = .tree) (inside : place < browser.visible.length) :
    LeadsTo browser { browser with selected := place } := by
  induction place with
  | zero =>
    have pressed : browser.press .home = { browser with selected := 0 } := by
      simp [press, moveHome, inTree]
    exact pressed ▸ .press browser (by decide)
  | succ place ih =>
    have pressed : press { browser with selected := place } .down =
        { browser with selected := place + 1 } := by
      simp [press, moveDown, inTree, inside]
    exact (ih (Nat.lt_of_succ_lt inside)).trans (pressed ▸ .press _ (by decide))

/-- A visible row can be selected. -/
theorem leadsTo_selected (inTree : browser.focus = .tree) (shown : row ∈ browser.visible) :
    ∃ place, LeadsTo browser { browser with selected := place } ∧
      selectedRow { browser with selected := place } = row := by
  obtain ⟨place, inside, here⟩ := List.mem_iff_getElem.mp shown
  refine ⟨place, leadsTo_place inTree inside, ?_⟩
  simp [selectedRow, inside, here]

/-- A visible row that is folded can be unfolded. -/
theorem leadsTo_unfolded (inTree : browser.focus = .tree) (shown : row ∈ browser.visible)
    (folded : row ∈ browser.folded) : ∃ after, LeadsTo browser after ∧
      after.focus = .tree ∧ after.folded = browser.folded.erase row := by
  obtain ⟨place, leads, there⟩ := leadsTo_selected inTree shown
  have unfolds : expand { browser with selected := place } =
      refold { browser with selected := place } (browser.folded.erase row) "Unfolded" := by
    simp only [expand, there, if_pos folded]
  have onward := LeadsTo.press { browser with selected := place } (show .right ∈ wayKeys by decide)
  refine ⟨expand { browser with selected := place }, leads.trans onward, ?_, ?_⟩
  · rw [unfolds]
    exact inTree
  · rw [unfolds]
    rfl

/-- With the focus on the tree, keys lead to every row. -/
theorem Valid.exists_leadsTo {browser : Browser} (valid : browser.Valid)
    (inTree : browser.focus = .tree) (within : row < browser.rows.length) : ∃ after,
      LeadsTo browser after ∧ after.selectedRow = row := by
  by_cases shown : row ∈ browser.visible
  · obtain ⟨place, leads, there⟩ := leadsTo_selected inTree shown
    exact ⟨_, leads, there⟩
  · rw [valid.visible_eq, mem_visibleRows] at shown
    obtain ⟨hider, folds, encloses⟩ : ∃ hider, Folds browser.folded 0 browser.rows hider ∧
        Encloses browser.rows hider row := by
      by_contra none
      exact shown ⟨within, fun hider folds encloses => none ⟨hider, folds, encloses⟩⟩
    obtain ⟨outer, visible, ⟨folded, _⟩, _⟩ := exists_visible_folds folds encloses
    rw [Nat.zero_add] at folded
    rw [← valid.visible_eq] at visible
    obtain ⟨after, leads, inTree', erased⟩ := leadsTo_unfolded inTree visible folded
    have fewer : after.folded.length < browser.folded.length := by
      have inhabited := List.length_pos_of_mem folded
      rw [erased, List.length_erase_of_mem folded]
      omega
    obtain ⟨last, onward, there⟩ :=
      (leads.valid valid).exists_leadsTo inTree' (leads.rows.symm ▸ within)
    exact ⟨last, leads.trans onward, there⟩
termination_by browser.folded.length

/-- In every state of a session, whatever is folded, selected or in focus, keys of a way lead to
every row. -/
theorem every_row_reached (program : Program) (source : String) (events : List Event) :
    let browser := (start program source).run events
    ∀ row < program.rows.length, ∃ keys : List Key, (∀ key ∈ keys, key ∈ wayKeys) ∧
      (browser.run (keys.map .key)).selectedRow = row := by
  intro browser row within
  have valid : browser.Valid := (valid_start program source).run events
  have same : browser.rows = program.rows := (Keeps.run (start program source) events).rows
  have toTree := leadsTo_tree browser
  obtain ⟨after, leads, there⟩ := (toTree.valid valid).exists_leadsTo rfl
    (show row < browser.rows.length from same ▸ within)
  obtain ⟨keys, allowed, rfl⟩ := toTree.trans leads
  exact ⟨keys, allowed, there⟩

/-- With all but the first row hidden by two folds, one within the other, and the focus on the
source, keys still lead to the last row. -/
theorem every_row_reached_nested :
    let program : Program := ⟨[.whileLoop (.identifier "x") (.block [.empty])]⟩
    let source := "while (x) \x7b ; \x7d"
    let events : List Event := [.key .down, .key .enter, .key .left, .key .enter, .key .tab]
    let browser := (start program source).run events
    browser.folded = [0, 1] ∧ browser.visible = [0] ∧ browser.focus = .source ∧
      4 < program.rows.length ∧ ∃ keys : List Key, (∀ key ∈ keys, key ∈ wayKeys) ∧
        (browser.run (keys.map .key)).selectedRow = 4 := by
  intro program source events browser
  have within : 4 < program.rows.length := by decide
  exact ⟨by decide, by decide, by decide, within,
    every_row_reached program source events 4 within⟩

end ScriptTree.Browser
