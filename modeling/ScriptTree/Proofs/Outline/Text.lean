import ScriptTree.Outline.Row
import ScriptTree.Proofs.Token.Match

/-! The text of an outline tells the outline. No line has a line break inside, so the text tells
its lines; a line begins with the blanks that tell the depth; fields and kinds are words, and what
follows them tells which is which; and the children of a node are the deeper rows behind it. -/

namespace ScriptTree

/-! ### Labels -/

/-- One or more letters. -/
def IsWord (text : String) : Prop :=
  text.toList ≠ [] ∧ text.toList.all Char.isAlpha = true

instance (text : String) : Decidable (IsWord text) :=
  inferInstanceAs (Decidable (_ ∧ _))

/-- A text without a line break. -/
def IsInline (text : String) : Prop :=
  '\n' ∉ text.toList

instance (text : String) : Decidable (IsInline text) :=
  inferInstanceAs (Decidable ¬_)

theorem IsWord.inline {text : String} (word : IsWord text) : IsInline text := fun listed =>
  absurd (List.all_eq_true.mp word.2 _ listed) (by decide)

theorem IsInline.append {text text' : String} (isInline : IsInline text)
    (isInline' : IsInline text') : IsInline (text ++ text') := by
  rw [IsInline, String.toList_append, List.mem_append, not_or]
  exact ⟨isInline, isInline'⟩

/-- Words in front of the same text are the same if no letters follow them. -/
theorem IsWord.append_injective {word word' : String} (isWord : IsWord word)
    (isWord' : IsWord word') {rest rest' : List Char}
    (stop : ∀ c ∈ rest.head?, c.isAlpha = false) (stop' : ∀ c ∈ rest'.head?, c.isAlpha = false)
    (same : word.toList ++ rest = word'.toList ++ rest') : word = word' ∧ rest = rest' := by
  obtain ⟨words, behind⟩ := run_append_injective isWord.2 isWord'.2 stop stop' same
  exact ⟨String.toList_inj.mp words, behind⟩

theorem IsWord.head? {word : String} (isWord : IsWord word) (rest : List Char) :
    ∀ c ∈ (word.toList ++ rest).head?, c.isAlpha = true := by
  obtain ⟨first, more, chars⟩ := List.exists_cons_of_ne_nil isWord.1
  rw [chars]
  rintro _ ⟨⟩
  exact List.all_eq_true.mp isWord.2 first (by simp [chars])

namespace Row

/-- A row whose text can be read: its field and its kind are words, and its detail has no line
break. -/
structure Legible (row : Row) : Prop where
  field : ∀ field ∈ row.field, IsWord field
  kind : IsWord row.kind
  detail : ∀ detail ∈ row.detail, IsInline detail

/-- All that the text of a row shows of a node. -/
def shown (row : Row) : Nat × Option String × String × Option String :=
  (row.depth, row.field, row.kind, row.detail)

theorem toList_label (row : Row) :
    row.label.toList =
      row.fieldText.toList ++ (row.kind.toList ++ row.detailText.toList) := by
  simp [label]

theorem toList_fieldText_some {row : Row} {field : String} (held : row.field = some field) :
    row.fieldText.toList = field.toList ++ [':', ' '] := by
  simp [fieldText, held]

theorem toList_fieldText_none {row : Row} (listed : row.field = none) :
    row.fieldText.toList = [] := by
  simp [fieldText, listed]

theorem toList_detailText_some {row : Row} {detail : String} (given : row.detail = some detail) :
    row.detailText.toList = ' ' :: detail.toList := by
  simp [detailText, given]

theorem toList_detailText_none {row : Row} (bare : row.detail = none) :
    row.detailText.toList = [] := by
  simp [detailText, bare]

/-- A detail begins with a blank. -/
theorem head?_detailText (row : Row) : ∀ c ∈ row.detailText.toList.head?, c = ' ' := by
  cases given : row.detail with
  | none => simp [toList_detailText_none given]
  | some detail => simp [toList_detailText_some given]

theorem detail_eq_of_detailText_eq {row row' : Row}
    (same : row.detailText.toList = row'.detailText.toList) : row.detail = row'.detail := by
  obtain ⟨depth, field, kind, detail, more⟩ := row
  obtain ⟨depth', field', kind', detail', more'⟩ := row'
  match detail, detail' with
  | none, none => rfl
  | none, some detail' => simp [detailText] at same
  | some detail, none => simp [detailText] at same
  | some detail, some detail' => simpa [detailText, String.toList_inj] using same

variable {row row' : Row}

/-- What follows a kind does not go on with it. -/
theorem detailText_stop (row : Row) : ∀ c ∈ row.detailText.toList.head?, c.isAlpha = false := by
  intro c first
  rw [head?_detailText row c first]
  rfl

theorem Legible.kind_detail_eq (legible : row.Legible) (legible' : row'.Legible)
    (same : row.kind.toList ++ row.detailText.toList =
      row'.kind.toList ++ row'.detailText.toList) :
    row.kind = row'.kind ∧ row.detail = row'.detail := by
  obtain ⟨kinds, behind⟩ := legible.kind.append_injective legible'.kind (detailText_stop row)
    (detailText_stop row') same
  exact ⟨kinds, detail_eq_of_detailText_eq behind⟩

/-- A field is followed by a colon, and a kind is not. -/
theorem Legible.label_ne (legible : row.Legible) (legible' : row'.Legible) {field : String}
    (listed : row.field = none) (held : row'.field = some field) : row.label ≠ row'.label := by
  intro same
  have chars := congrArg String.toList same
  rw [toList_label, toList_label, toList_fieldText_none listed, toList_fieldText_some held,
    List.nil_append, List.append_assoc] at chars
  obtain ⟨-, behind⟩ := legible.kind.append_injective (legible'.field field held)
    (detailText_stop row) (by rintro _ ⟨⟩; rfl) chars
  exact absurd (head?_detailText row ':' (by rw [behind]; rfl)) (by decide)

/-- The label of a row tells all that it shows. -/
theorem Legible.eq_of_label_eq (legible : row.Legible) (legible' : row'.Legible)
    (same : row.label = row'.label) :
    row.field = row'.field ∧ row.kind = row'.kind ∧ row.detail = row'.detail := by
  have chars := congrArg String.toList same
  rw [toList_label, toList_label] at chars
  cases held : row.field with
  | none =>
    cases held' : row'.field with
    | none =>
      rw [toList_fieldText_none held, toList_fieldText_none held'] at chars
      exact ⟨rfl, legible.kind_detail_eq legible' chars⟩
    | some field' => exact absurd same (legible.label_ne legible' held held')
  | some field =>
    cases held' : row'.field with
    | none => exact absurd same.symm (legible'.label_ne legible held' held)
    | some field' =>
      rw [toList_fieldText_some held, toList_fieldText_some held', List.append_assoc,
        List.append_assoc] at chars
      obtain ⟨rfl, behind⟩ := (legible.field field held).append_injective
        (legible'.field field' held') (by rintro _ ⟨⟩; rfl) (by rintro _ ⟨⟩; rfl) chars
      exact ⟨rfl, legible.kind_detail_eq legible' (List.append_cancel_left behind)⟩

/-! ### Lines -/

/-- A line without the line break that ends it. -/
def text (row : Row) : String :=
  row.indent ++ row.label

theorem toList_indent (row : Row) : row.indent.toList = List.replicate (2 * row.depth) ' ' :=
  String.toList_ofList

theorem all_indent (row : Row) : row.indent.toList.all (· == ' ') = true := by
  rw [toList_indent]
  simp

/-- A label begins with a letter. -/
theorem Legible.head?_label (legible : row.Legible) :
    ∀ c ∈ row.label.toList.head?, (c == ' ') = false := by
  have letter {c : Char} (isAlpha : c.isAlpha = true) : (c == ' ') = false := by
    refine beq_false_of_ne ?_
    rintro rfl
    exact absurd isAlpha (by decide)
  rw [toList_label]
  cases held : row.field with
  | none =>
    rw [toList_fieldText_none held, List.nil_append]
    exact fun c first => letter (legible.kind.head? _ c first)
  | some field =>
    rw [toList_fieldText_some held, List.append_assoc]
    exact fun c first => letter ((legible.field field held).head? _ c first)

/-- A line tells all that its row shows. -/
theorem Legible.shown_eq (legible : row.Legible) (legible' : row'.Legible)
    (same : row.text = row'.text) : row.shown = row'.shown := by
  have chars := congrArg String.toList same
  rw [text, text, String.toList_append, String.toList_append] at chars
  obtain ⟨indents, labels⟩ := run_append_injective row.all_indent row'.all_indent
    legible.head?_label legible'.head?_label chars
  have depths := congrArg List.length indents
  rw [toList_indent, toList_indent, List.length_replicate, List.length_replicate] at depths
  have depth : row.depth = row'.depth := by omega
  obtain ⟨field, kind, detail⟩ := legible.eq_of_label_eq legible' (String.toList_inj.mp labels)
  rw [shown, shown, depth, field, kind, detail]

theorem Legible.inline (legible : row.Legible) : IsInline row.text := by
  have indent : IsInline row.indent := by simp [IsInline, toList_indent]
  have field : IsInline row.fieldText := by
    cases held : row.field with
    | none => simp [IsInline, toList_fieldText_none held]
    | some field =>
      have inside : '\n' ∉ field.toList := (legible.field field held).inline
      simp [IsInline, toList_fieldText_some held, inside]
  have detail : IsInline row.detailText := by
    cases given : row.detail with
    | none => simp [IsInline, toList_detailText_none given]
    | some detail =>
      have inside : '\n' ∉ detail.toList := legible.detail detail given
      simp [IsInline, toList_detailText_some given, inside]
  exact indent.append ((field.append legible.kind.inline).append detail)

end Row

/-- A text that lines make up, each with a line break behind it, tells the lines. -/
theorem eq_of_join_lines_eq {lines lines' : List String} (inside : ∀ line ∈ lines, IsInline line)
    (inside' : ∀ line ∈ lines', IsInline line)
    (same : String.join (lines.map (· ++ "\n")) = String.join (lines'.map (· ++ "\n"))) :
    lines = lines' := by
  replace same := congrArg String.toList same
  rw [String.toList_join, String.toList_join] at same
  induction lines generalizing lines' with
  | nil =>
    cases lines' with
    | nil => rfl
    | cons line lines' => simp at same
  | cons line lines ih =>
    cases lines' with
    | nil => simp at same
    | cons line' lines' =>
      obtain ⟨first, others⟩ := List.forall_mem_cons.mp inside
      obtain ⟨first', others'⟩ := List.forall_mem_cons.mp inside'
      simp only [List.map_cons, List.flatMap_cons, String.toList_append, List.append_assoc] at same
      obtain ⟨chars, behind⟩ := run_append_injective (all_ne_of_not_mem first)
        (all_ne_of_not_mem first') (by rintro _ ⟨⟩; rfl) (by rintro _ ⟨⟩; rfl) same
      rw [String.toList_inj.mp chars, ih others others' (List.append_cancel_left behind)]

theorem map_line (rows : List Row) :
    rows.map Row.line = (rows.map Row.text).map (· ++ "\n") := by
  rw [List.map_map]
  rfl

/-- The text of legible rows tells what they show. -/
theorem map_shown_eq_of_join_eq {rows rows' : List Row} (legible : ∀ row ∈ rows, row.Legible)
    (legible' : ∀ row ∈ rows', row.Legible)
    (same : String.join (rows.map Row.line) = String.join (rows'.map Row.line)) :
    rows.map Row.shown = rows'.map Row.shown := by
  rw [map_line, map_line] at same
  have texts := eq_of_join_lines_eq
    (List.forall_mem_map.mpr fun row listed => (legible row listed).inline)
    (List.forall_mem_map.mpr fun row listed => (legible' row listed).inline) same
  clear same
  -- The texts are the same one by one, and so is what each of them shows.
  induction rows generalizing rows' with
  | nil =>
    rw [List.map_nil, eq_comm, List.map_eq_nil_iff] at texts
    rw [texts]
  | cons row rows ih =>
    cases rows' with
    | nil => cases texts
    | cons row' rows' =>
      obtain ⟨first, others⟩ := List.forall_mem_cons.mp legible
      obtain ⟨first', others'⟩ := List.forall_mem_cons.mp legible'
      obtain ⟨text, texts⟩ := List.cons.inj texts
      rw [List.map_cons, List.map_cons, first.shown_eq first' text, ih others others' texts]

/-! ### Trees -/

namespace Outline

/-- Rows that go on above a depth: the first of them, if there is one, is less deep. -/
def Above (depth : Nat) (rows : List Row) : Prop :=
  ∀ row ∈ rows.head?, row.depth < depth

/-- Behind a node, what is not below it are its siblings or goes on above them. -/
theorem Above.siblings {depth : Nat} {rest : List Row} (above : Above depth rest)
    (siblings : List Outline) : Above (depth + 1) (listRows depth siblings ++ rest) := by
  match siblings with
  | [] => exact fun row first => Nat.lt_succ_of_lt (above row first)
  | .node field kind detail children :: others =>
    rintro _ ⟨⟩
    exact Nat.lt_succ_self depth

/-- Rows that go on above a depth do not begin with a node at this depth. -/
theorem Above.map_shown_ne {depth : Nat} {rest : List Row} (above : Above depth rest)
    (outline : Outline) (others : List Outline) (rest' : List Row) :
    rest.map Row.shown ≠ (listRows depth (outline :: others) ++ rest').map Row.shown := by
  intro same
  obtain ⟨field, kind, detail, children⟩ := outline
  cases rest with
  | nil => cases same
  | cons row more =>
    have depths : row.depth = depth := congrArg Prod.fst (List.cons.inj same).1
    have less := above row rfl
    omega

mutual

/-- The rows of a node tell the node, whatever rows follow that are not below it. -/
theorem eq_of_rows_eq {depth : Nat} {rest rest' : List Row} (first second : Outline)
    (above : Above (depth + 1) rest) (above' : Above (depth + 1) rest')
    (same : (first.rows depth ++ rest).map Row.shown = (second.rows depth ++ rest').map Row.shown) :
    first = second ∧ rest.map Row.shown = rest'.map Row.shown := by
  obtain ⟨field, kind, detail, children⟩ := first
  obtain ⟨field', kind', detail', children'⟩ := second
  -- Behind the row of the node, the rows of its children end where a row is no deeper than it.
  obtain ⟨node, below⟩ := List.cons.inj same
  obtain ⟨rfl, behind⟩ := eq_of_listRows_eq children children' above above' below
  obtain ⟨-, rfl, rfl, rfl⟩ := node
  exact ⟨rfl, behind⟩

/-- The rows of nodes one below the other tell the nodes, whatever rows go on above them. -/
theorem eq_of_listRows_eq {depth : Nat} {rest rest' : List Row} (first second : List Outline)
    (above : Above depth rest) (above' : Above depth rest')
    (same : (listRows depth first ++ rest).map Row.shown =
      (listRows depth second ++ rest').map Row.shown) :
    first = second ∧ rest.map Row.shown = rest'.map Row.shown := by
  match first, second with
  | [], [] => exact ⟨rfl, same⟩
  | [], outline :: others => exact absurd same (above.map_shown_ne outline others rest')
  | outline :: others, [] => exact absurd same.symm (above'.map_shown_ne outline others rest)
  | outline :: others, outline' :: others' =>
    rw [listRows, listRows, List.append_assoc, List.append_assoc] at same
    obtain ⟨node, siblings⟩ :=
      eq_of_rows_eq outline outline' (above.siblings others) (above'.siblings others') same
    obtain ⟨nodes, behind⟩ := eq_of_listRows_eq others others' above above' siblings
    exact ⟨congrArg₂ List.cons node nodes, behind⟩

end

/-- An outline whose rows are legible is told by their text. -/
theorem eq_of_join_rows_eq {first second : Outline} (legible : ∀ row ∈ first.rows 0, row.Legible)
    (legible' : ∀ row ∈ second.rows 0, row.Legible)
    (same : String.join ((first.rows 0).map Row.line) =
      String.join ((second.rows 0).map Row.line)) : first = second := by
  have shown := map_shown_eq_of_join_eq legible legible' same
  have nothing : Above 1 [] := nofun
  exact (eq_of_rows_eq first second nothing nothing (by simpa using shown)).1

end Outline

end ScriptTree
