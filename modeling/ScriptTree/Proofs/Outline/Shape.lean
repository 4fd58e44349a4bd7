import ScriptTree.Browser.Basic
import ScriptTree.Proofs.Syntax.Node
import ScriptTree.Proofs.Outline.Depth

/-! The rows of a program tell its tree, although a row says no more of it than a depth. Each row
stands for a node, and the depths say which nodes have others below them, which node is the parent
of which, and which nodes a row has below it. -/

namespace ScriptTree

/-- The outline of a node that a field holds. -/
def Node.outline (field : Option String) : Node → Outline
  | program whole => whole.outline
  | stmt value => value.outline field
  | declarations list => (ForInit.declarations list).outline
  | declaration value => value.outline
  | expr value => value.outline field
  | target name => .node (some "left") "Identifier" (some name) []

/-- An outline shows a node, whichever field holds it. -/
def Outline.Shows (outline : Outline) (node : Node) : Prop :=
  ∃ field, outline = node.outline field

theorem Outline.shows_map {α : Type} (make : α → Node) {draw : α → Outline}
    (same : ∀ value, (draw value).Shows (make value)) (list : List α) :
    List.Forall₂ Shows (list.map draw) (list.map make) := by
  induction list with
  | nil => exact .nil
  | cons value list ih => exact .cons (same value) ih

theorem Stmt.shows_listOutline (list : List Stmt) :
    List.Forall₂ Outline.Shows (Stmt.listOutline list) (list.map Node.stmt) := by
  induction list with
  | nil => exact .nil
  | cons first others ih => exact .cons ⟨none, rfl⟩ ih

theorem Stmt.shows_optionOutline (stmt : Option Stmt) (field : String) :
    List.Forall₂ Outline.Shows (Stmt.optionOutline field stmt) (stmt.toList.map Node.stmt) := by
  cases stmt with
  | none => exact .nil
  | some stmt => exact .cons ⟨some field, rfl⟩ .nil

theorem Expr.shows_optionOutline (expr : Option Expr) (field : String) :
    List.Forall₂ Outline.Shows (Expr.optionOutline field expr) (expr.toList.map Node.expr) :=
  Outline.shows_map Node.expr (fun _ => ⟨some field, rfl⟩) _

theorem Declaration.shows_outline (list : List Declaration) :
    List.Forall₂ Outline.Shows (list.map Declaration.outline) (list.map Node.declaration) :=
  Outline.shows_map Node.declaration (fun _ => ⟨none, rfl⟩) _

theorem ForInit.shows_outline (init : ForInit) : init.outline.Shows (Node.ofInit init) := by
  cases init with
  | declarations list => exact ⟨none, rfl⟩
  | expression value => exact ⟨some "init", rfl⟩

/-- The outline of a node has its kind, and the outlines of the nodes below it stand below. -/
theorem Node.outline_eq (node : Node) (field : Option String) :
    ∃ field' detail children, node.outline field = .node field' node.kindName detail children ∧
      List.Forall₂ Outline.Shows children node.children := by
  match node with
  | .program ⟨body⟩ => exact ⟨_, _, _, rfl, Stmt.shows_listOutline body⟩
  | .stmt (.expression _) => exact ⟨_, _, _, rfl, .cons ⟨_, rfl⟩ .nil⟩
  | .stmt .empty => exact ⟨_, _, _, rfl, .nil⟩
  | .stmt (.block body) => exact ⟨_, _, _, rfl, Stmt.shows_listOutline body⟩
  | .stmt (.declaration list) => exact ⟨_, _, _, rfl, Declaration.shows_outline list⟩
  | .stmt (.ifElse _ _ alternate) =>
    exact ⟨_, _, _, rfl, .cons ⟨_, rfl⟩ (.cons ⟨_, rfl⟩ (Stmt.shows_optionOutline alternate _))⟩
  | .stmt (.whileLoop _ _) | .stmt (.doWhile _ _) =>
    exact ⟨_, _, _, rfl, .cons ⟨_, rfl⟩ (.cons ⟨_, rfl⟩ .nil)⟩
  | .stmt (.forLoop init test update _) =>
    have clauses := List.rel_append
      (List.rel_append (Outline.shows_map Node.ofInit ForInit.shows_outline init.toList)
        (Expr.shows_optionOutline test "test"))
      (Expr.shows_optionOutline update "update")
    exact ⟨_, _, _, rfl, List.rel_append clauses (.cons ⟨_, rfl⟩ .nil)⟩
  | .declarations list => exact ⟨_, _, _, rfl, Declaration.shows_outline list⟩
  | .declaration ⟨_, initializer⟩ => exact ⟨_, _, _, rfl, Expr.shows_optionOutline initializer _⟩
  | .expr (.assignment _ _ _) => exact ⟨_, _, _, rfl, .cons ⟨none, rfl⟩ (.cons ⟨_, rfl⟩ .nil)⟩
  | .expr (.binary _ _ _) | .expr (.logical _ _ _) =>
    exact ⟨_, _, _, rfl, .cons ⟨_, rfl⟩ (.cons ⟨_, rfl⟩ .nil)⟩
  | .expr (.unary _ _) => exact ⟨_, _, _, rfl, .cons ⟨_, rfl⟩ .nil⟩
  | .expr (.number _) | .expr (.string _) | .expr (.boolean _) | .expr .null
  | .expr (.identifier _) | .target _ => exact ⟨_, _, _, rfl, .nil⟩

/-! ### Rows and places -/

/-- A row tells of the node at a place its kind, its depth and whether other nodes are below it. -/
structure Row.Tells (row : Row) (place : Node.Place) : Prop where
  kind : row.kind = place.node.kindName
  depth : row.depth = place.address.length
  hasChildren : row.hasChildren = true ↔ place.node.children ≠ []

theorem Outline.listRows_tells {outlines : List Outline} {nodes : List Node}
    (shown : List.Forall₂ Shows outlines nodes) (address : List Nat) (k : Nat)
    (each : ∀ other ∈ nodes, ∀ field address, List.Forall₂ Row.Tells
      ((other.outline field).rows address.length) (other.places address)) :
    List.Forall₂ Row.Tells (Outline.listRows (address.length + 1) outlines)
      ((nodes.zipIdx k).flatMap fun (other, m) => other.places (address ++ [m])) := by
  induction shown generalizing k with
  | nil => exact .nil
  | cons first _ ih =>
    obtain ⟨here, others⟩ := List.forall_mem_cons.mp each
    obtain ⟨field, rfl⟩ := first
    have rows := here field (address ++ [k])
    rw [List.length_append, List.length_singleton] at rows
    rw [Outline.listRows, List.zipIdx_cons, List.flatMap_cons]
    exact List.rel_append rows (ih (k + 1) others)

/-- The rows of a node stand for its places, one by one. -/
theorem Node.rows_tell (node : Node) (field : Option String) (address : List Nat) :
    List.Forall₂ Row.Tells ((node.outline field).rows address.length) (node.places address) := by
  induction node using induction_below generalizing field address with
  | step node ih =>
    obtain ⟨field', detail, children, shape, shown⟩ := node.outline_eq field
    rw [shape, Outline.rows, places_eq]
    refine .cons ⟨rfl, rfl, ?_⟩ (Outline.listRows_tells shown address 0 ih)
    have sizes := shown.length_eq
    simp only [Bool.not_eq_true', List.isEmpty_eq_false_iff, ne_eq, ← List.length_eq_zero_iff,
      sizes]

/-! ### Rows and their neighbours -/

/-- A row of which nothing is known below it. -/
def Row.bare (row : Row) : Row :=
  { row with hasChildren := false }

@[simp] theorem Row.depth_bare (row : Row) : row.bare.depth = row.depth := rfl

/-- Gives children to each row in front of a deeper one. -/
def markParents : List Row → List Row
  | row :: next :: rows =>
    { row with hasChildren := row.hasChildren || decide (row.depth < next.depth) } ::
      markParents (next :: rows)
  | rows => rows

theorem markParents_cons (row : Row) (rows : List Row) : markParents (row.bare :: rows) =
    { row with hasChildren := rows.head?.any fun next => row.depth < next.depth } ::
      markParents rows := by
  cases rows with
  | nil => rfl
  | cons next rows => rfl

/-- The first of some rows at a depth, or else what follows them, is no deeper. -/
theorem Outline.head?_listRows_append (outlines : List Outline) (depth : Nat) {rest : List Row}
    (stop : ∀ row ∈ rest.head?, row.depth ≤ depth) :
    ∀ row ∈ ((Outline.listRows depth outlines).map Row.bare ++ rest).head?, row.depth ≤ depth := by
  cases outlines with
  | nil => exact stop
  | cons first others =>
    obtain ⟨field, kind, detail, children⟩ := first
    rintro _ ⟨⟩
    exact Nat.le_refl depth

mutual

/-- Behind the rows of a node stands no deeper row, and so the neighbours tell which nodes have
others below them. -/
theorem Outline.markParents_rows (outline : Outline) (depth : Nat) {rest : List Row}
    (stop : ∀ row ∈ rest.head?, row.depth ≤ depth) :
    markParents ((outline.rows depth).map Row.bare ++ rest) =
      outline.rows depth ++ markParents rest := by
  obtain ⟨field, kind, detail, children⟩ := outline
  have stop' : ∀ row ∈ rest.head?, row.depth ≤ depth + 1 :=
    fun row first => Nat.le_succ_of_le (stop row first)
  rw [Outline.rows, List.map_cons, List.cons_append, markParents_cons,
    Outline.markParents_listRows children (depth + 1) stop']
  cases children with
  | nil =>
    cases rest with
    | nil => rfl
    | cons next rest => simp [Outline.listRows, Nat.not_lt.mpr (stop next rfl)]
  | cons first others =>
    obtain ⟨field', kind', detail', below⟩ := first
    simp [Outline.listRows, Outline.rows]

theorem Outline.markParents_listRows (outlines : List Outline) (depth : Nat) {rest : List Row}
    (stop : ∀ row ∈ rest.head?, row.depth ≤ depth) :
    markParents ((Outline.listRows depth outlines).map Row.bare ++ rest) =
      Outline.listRows depth outlines ++ markParents rest := by
  cases outlines with
  | nil => rfl
  | cons first others =>
    rw [Outline.listRows, List.map_append, List.append_assoc,
      Outline.markParents_rows first depth (Outline.head?_listRows_append others depth stop),
      Outline.markParents_listRows others depth stop, List.append_assoc]

end

/-- Marking the rows of a program by their neighbours gives each the children that it has. -/
theorem Program.markParents_rows (program : Program) :
    markParents (program.rows.map Row.bare) = program.rows := by
  have last : ∀ row ∈ ([] : List Row).head?, row.depth ≤ 0 := nofun
  have marked := Outline.markParents_rows program.outline 0 last
  rwa [List.append_nil, show markParents [] = [] from rfl, List.append_nil] at marked

/-! ### Parents -/

/-- The rows before a row, from the nearest on, with one of them brought out. -/
theorem reverse_range_of_lt {p i : Nat} (before : p < i) : (List.range i).reverse =
    (List.range' (p + 1) (i - (p + 1))).reverse ++ p :: (List.range p).reverse := by
  have parts : List.range i = List.range p ++ p :: List.range' (p + 1) (i - (p + 1)) := by
    rw [List.range_eq_range', List.range_eq_range', ← List.range'_succ]
    have sizes : i = p + (i - (p + 1) + 1) := by omega
    conv => lhs; rw [sizes, ← List.range'_append_1, Nat.zero_add]
  simp [parts]

theorem Browser.parent?_eq_some {rows : List Row} {p i : Nat} (within : i < rows.length)
    (before : p < i) (less : rows[p].depth < rows[i].depth)
    (nearest : ∀ k (between : k < i), p < k → rows[i].depth ≤ rows[k].depth) :
    Browser.parent? rows i = some p := by
  simp only [Browser.parent?, List.getElem?_eq_getElem within, Option.bind_eq_bind,
    Option.bind_some]
  refine List.find?_eq_some_iff_append.mpr ⟨?_, _, _, reverse_range_of_lt before, ?_⟩
  · simpa [Nat.lt_trans before within] using less
  · intro k listed
    rw [List.mem_reverse, List.mem_range'_1] at listed
    have between : k < i := by omega
    simpa [Nat.lt_trans between within] using nearest k between listed.1

/-! ### The tree of a program -/

/-- The address of a place goes on from that of another. -/
def Node.Place.IsBelow (place upper : Node.Place) : Prop :=
  ∃ k path, place.address = upper.address ++ k :: path

/-- The node at a place is a child of the node at another, and its address says which. -/
def Node.Place.IsChildOf (place parent : Node.Place) : Prop :=
  ∃ k, place.address = parent.address ++ [k] ∧ parent.node.children[k]? = some place.node

theorem Node.Place.isBelow_iff {place upper : Node.Place} :
    place.IsBelow upper ↔ upper.address <+: place.address ∧ upper.address ≠ place.address := by
  constructor
  · rintro ⟨k, path, shape⟩
    rw [shape]
    exact ⟨List.prefix_append _ _, (precedes_append_cons _ k path).ne⟩
  · rintro ⟨⟨path, shape⟩, differ⟩
    cases path with
    | nil => exact absurd ((List.append_nil _).symm.trans shape) differ
    | cons k path => exact ⟨k, path, shape.symm⟩

namespace Program

/-- The nodes of a program with their addresses, parents before their children. -/
def places (program : Program) : List Node.Place :=
  (Node.program program).places []

variable (program : Program) {i j : Nat}

theorem walk_addresses : Walk [] (program.places.map Node.Place.address) :=
  (Node.program program).walk_places []

theorem rows_length : program.rows.length = program.places.length :=
  ((Node.program program).rows_tell none []).length_eq

theorem row_tells (within : i < program.rows.length) (within' : i < program.places.length) :
    program.rows[i].Tells program.places[i] :=
  ((Node.program program).rows_tell none []).get within within'

theorem at?_place (within : i < program.places.length) :
    (Node.program program).at? program.places[i].address = some program.places[i].node := by
  obtain ⟨path, shape, reached⟩ :=
    Node.at?_of_mem_places _ [] program.places[i] (List.getElem_mem within)
  rwa [shape, List.nil_append]

theorem depth_eq (within : i < program.rows.length) (within' : i < program.places.length) :
    program.rows[i].depth = program.places[i].address.length :=
  (program.row_tells within within').depth

/-- A node that is below another stands behind it. -/
theorem lt_of_isBelow (within : i < program.places.length) (within' : j < program.places.length)
    (below : program.places[j].IsBelow program.places[i]) : i < j := by
  obtain ⟨k, path, shape⟩ := below
  have before : Precedes program.places[i].address program.places[j].address :=
    shape ▸ precedes_append_cons _ k path
  obtain less | rfl | more := Nat.lt_trichotomy i j
  · exact less
  · exact absurd rfl before.ne
  · have after : Precedes program.places[j].address program.places[i].address := by
      have := program.walk_addresses.precedes (by simpa using within) more
      simp only [List.getElem_map] at this
      exact this
    exact absurd after before.asymm

/-- The rows that a row encloses are those of the nodes below its node. -/
theorem encloses_iff (within : i < program.places.length) (within' : j < program.places.length) :
    Encloses program.rows i j ↔ program.places[j].IsBelow program.places[i] := by
  have aligned := program.rows_length
  have ordered (before : i < j) : program.places[i].address <+: program.places[j].address ↔
      ∀ k (upTo : k ≤ j), i < k →
        program.places[i].address.length < program.places[k].address.length := by
    have := program.walk_addresses.prefix_iff (by simpa using within') before
    simp only [List.getElem_map] at this
    exact this
  constructor
  · rintro ⟨before, _, deeper⟩
    have longer : ∀ k (upTo : k ≤ j), i < k →
        program.places[i].address.length < program.places[k].address.length := by
      intro k upTo behind
      rw [← program.depth_eq (by omega) (by omega), ← program.depth_eq (by omega) (by omega)]
      exact deeper k upTo behind
    refine Node.Place.isBelow_iff.mpr ⟨(ordered before).mpr longer, fun same => ?_⟩
    exact Nat.lt_irrefl _ (same ▸ longer j (Nat.le_refl j) before)
  · intro below
    have before := program.lt_of_isBelow within within' below
    refine ⟨before, by omega, fun k upTo behind => ?_⟩
    rw [program.depth_eq (by omega) (by omega), program.depth_eq (by omega) (by omega)]
    exact (ordered before).mp (Node.Place.isBelow_iff.mp below).1 k upTo behind

/-- Every node but the first is the child of one that stands before it. -/
theorem exists_isChildOf (within : i < program.places.length) (later : 0 < i) :
    ∃ (p : Nat) (before : p < i), program.places[i].IsChildOf program.places[p] := by
  obtain ⟨p, before, k, shape⟩ :=
    program.walk_addresses.exists_parent (by simpa using within) later
  simp only [List.getElem_map] at shape
  have reached := program.at?_place within
  rw [shape, Node.at?_append_singleton, program.at?_place (Nat.lt_trans before within)] at reached
  exact ⟨p, before, k, shape, reached⟩

/-- The nearest row before that of a node that is less deep is that of the node's parent, and it is
one level less deep. -/
theorem nearest_of_isChildOf {p : Nat} (within : i < program.rows.length)
    (inside : i < program.places.length) (before : p < i)
    (child : program.places[i].IsChildOf program.places[p]) :
    program.rows[p].depth + 1 = program.rows[i].depth ∧
      ∀ m (between : m < i), p < m → program.rows[i].depth ≤ program.rows[m].depth := by
  have aligned := program.rows_length
  obtain ⟨k, shape, _⟩ := child
  have level : program.rows[p].depth + 1 = program.rows[i].depth := by
    rw [program.depth_eq (by omega) (by omega), program.depth_eq within inside, shape,
      List.length_append, List.length_singleton]
  have below : program.places[i].IsBelow program.places[p] := ⟨k, [], shape⟩
  obtain ⟨_, _, deeper⟩ := (program.encloses_iff (by omega) inside).mpr below
  refine ⟨level, fun m between behind => ?_⟩
  rw [← level]
  exact deeper m (Nat.le_of_lt between) behind

/-- Every row but the first has a parent, which is found by the depths of the rows between them and
encloses the row. -/
theorem exists_parent (within : i < program.rows.length) (later : 0 < i) :
    ∃ (inside : i < program.places.length) (p : Nat) (before : p < i),
      program.places[i].IsChildOf program.places[p] ∧
        Browser.parent? program.rows i = some p ∧ Encloses program.rows p i := by
  have inside : i < program.places.length := program.rows_length ▸ within
  obtain ⟨p, before, child⟩ := program.exists_isChildOf inside later
  obtain ⟨level, nearest⟩ := program.nearest_of_isChildOf within inside before child
  have found := Browser.parent?_eq_some within before (by omega) nearest
  obtain ⟨k, shape, _⟩ := id child
  have below : program.places[i].IsBelow program.places[p] := ⟨k, [], shape⟩
  exact ⟨inside, p, before, child, found, (program.encloses_iff (by omega) inside).mpr below⟩

/-- The rows of a program, parsed or not, tell its tree. Each stands for a node, in the order of a
walk, and has children if the node has some, which is when the next row is deeper. The nearest row
before it that is less deep is that of the parent, one level up. The nodes below it are those of the
deeper rows that follow it, up to the first that is not. -/
theorem rows_tell_tree (program : Program) :
    markParents (program.rows.map Row.bare) = program.rows ∧
    ∃ aligned : program.rows.length = program.places.length,
      (∀ i (within : i < program.rows.length),
        program.rows[i].kind = program.places[i].node.kindName ∧
        program.rows[i].depth = program.places[i].address.length ∧
        (program.rows[i].hasChildren = true ↔ program.places[i].node.children ≠ [])) ∧
      (∀ i (within : i < program.rows.length), 0 < i → ∃ (p : Nat) (before : p < i),
        program.places[i].IsChildOf program.places[p] ∧
        program.rows[p].depth + 1 = program.rows[i].depth ∧
        (∀ m (between : m < i), p < m → program.rows[i].depth ≤ program.rows[m].depth) ∧
        Browser.parent? program.rows i = some p) ∧
      ∀ i j (within : i < program.rows.length) (within' : j < program.rows.length),
        program.places[j].IsBelow program.places[i] ↔
          i < j ∧ ∀ k (upTo : k ≤ j), i < k → program.rows[i].depth < program.rows[k].depth := by
  have aligned := program.rows_length
  refine ⟨program.markParents_rows, aligned, ?_, ?_, ?_⟩
  · intro i within
    obtain ⟨kind, depth, hasChildren⟩ := program.row_tells within (by omega)
    exact ⟨kind, depth, hasChildren⟩
  · intro i within later
    obtain ⟨p, before, child⟩ := program.exists_isChildOf (by omega) later
    obtain ⟨level, nearest⟩ := program.nearest_of_isChildOf within (by omega) before child
    refine ⟨p, before, child, level, nearest, ?_⟩
    exact Browser.parent?_eq_some within before (by omega) nearest
  · intro i j within within'
    rw [← program.encloses_iff (by omega) (by omega)]
    constructor
    · rintro ⟨before, _, deeper⟩
      exact ⟨before, deeper⟩
    · rintro ⟨before, deeper⟩
      exact ⟨before, within', deeper⟩

end Program

end ScriptTree
