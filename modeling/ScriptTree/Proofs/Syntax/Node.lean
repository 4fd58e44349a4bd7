import Mathlib.Data.List.Chain
import ScriptTree.Syntax.Basic

/-! The nodes of a syntax tree. A node is told by its address, which says at each level the number
of the child to go to, and the places of a program are its nodes with their addresses, each before
the nodes below it. -/

namespace ScriptTree

/-- The nodes of a tree: the declarations at the head of a loop and the target of an assignment are
nodes of their own. -/
inductive Node where
  | program (program : Program)
  | stmt (stmt : Stmt)
  | declarations (list : List Declaration)
  | declaration (declaration : Declaration)
  | expr (expr : Expr)
  | target (name : String)

namespace Node

def kindName : Node → String
  | program _ => "Program"
  | stmt value => value.kindName
  | declarations _ => "VariableDeclarationStatement"
  | declaration _ => "VariableDeclaration"
  | expr value => value.kindName
  | target _ => "Identifier"

def ofInit : ForInit → Node
  | .declarations list => declarations list
  | .expression value => expr value

/-- The nodes directly below a node, in the order of the source. -/
def children : Node → List Node
  | program ⟨body⟩ => body.map stmt
  | stmt (.expression value) => [expr value]
  | stmt .empty => []
  | stmt (.block body) => body.map stmt
  | stmt (.declaration list) => list.map declaration
  | stmt (.ifElse test consequent alternate) =>
    expr test :: stmt consequent :: alternate.toList.map stmt
  | stmt (.whileLoop test consequent) => [expr test, stmt consequent]
  | stmt (.doWhile body test) => [stmt body, expr test]
  | stmt (.forLoop init test update body) =>
    init.toList.map ofInit ++ test.toList.map expr ++ update.toList.map expr ++ [stmt body]
  | declarations list => list.map declaration
  | declaration ⟨_, initializer⟩ => initializer.toList.map expr
  | expr (.assignment _ name right) => [target name, expr right]
  | expr (.binary _ left right) => [expr left, expr right]
  | expr (.logical _ left right) => [expr left, expr right]
  | expr (.unary _ argument) => [expr argument]
  | expr _ => []
  | target _ => []

theorem sizeOf_ofInit (init : ForInit) : sizeOf (ofInit init) = sizeOf init := by
  cases init <;> rfl

theorem sizeOf_lt_of_mem_map {α : Type} [SizeOf α] {make : α → Node} {list : List α} {child : Node}
    (made : ∀ value, sizeOf (make value) = 1 + sizeOf value) (below : child ∈ list.map make) :
    sizeOf child < 1 + sizeOf list := by
  obtain ⟨value, listed, rfl⟩ := List.mem_map.mp below
  have := List.sizeOf_lt_of_mem listed
  rw [made]
  omega

/-- A node is larger than those below it. -/
theorem sizeOf_lt_of_mem_children {node child : Node} (below : child ∈ node.children) :
    sizeOf child < sizeOf node := by
  cases node with
  | program whole =>
    obtain ⟨body⟩ := whole
    have := sizeOf_lt_of_mem_map stmt.sizeOf_spec below
    simp only [program.sizeOf_spec, Program.mk.sizeOf_spec]
    omega
  | declarations list => simpa using sizeOf_lt_of_mem_map declaration.sizeOf_spec below
  | declaration value =>
    obtain ⟨name, initializer⟩ := value
    grind [children]
  | stmt value =>
    cases value with
    | block body =>
      have := sizeOf_lt_of_mem_map stmt.sizeOf_spec below
      simp only [stmt.sizeOf_spec, Stmt.block.sizeOf_spec]
      omega
    | declaration list =>
      have := sizeOf_lt_of_mem_map declaration.sizeOf_spec below
      simp only [stmt.sizeOf_spec, Stmt.declaration.sizeOf_spec]
      omega
    | _ => grind [children, sizeOf_ofInit]
  | expr value => cases value <;> grind [children]
  | target name => cases below

/-- A node with its address. -/
structure Place where
  address : List Nat
  node : Node

/-- A node that stands at an address and all nodes below it, each before those below it. -/
def places (address : List Nat) (node : Node) : List Place :=
  ⟨address, node⟩ ::
    (node.children.attach.zipIdx.flatMap fun (child, k) => child.1.places (address ++ [k]))
termination_by sizeOf node
decreasing_by exact sizeOf_lt_of_mem_children child.2

theorem places_eq (address : List Nat) (node : Node) : node.places address =
    ⟨address, node⟩ ::
      node.children.zipIdx.flatMap fun (child, k) => child.places (address ++ [k]) := by
  rw [places]
  congr 1
  conv => rhs; rw [← List.attach_map_subtype_val node.children]
  rw [List.zipIdx_map, List.flatMap_map]
  rfl

/-- What holds of a node if it holds of those below it holds of every node. -/
theorem induction_below {motive : Node → Prop}
    (step : ∀ node, (∀ child ∈ node.children, motive child) → motive node) (node : Node) :
    motive node :=
  step node fun child below =>
    have := sizeOf_lt_of_mem_children below
    induction_below step child
termination_by sizeOf node

/-- The node at an address below a node. -/
def at? (node : Node) : List Nat → Option Node
  | [] => some node
  | k :: address => node.children[k]?.bind fun child => child.at? address

theorem at?_append_singleton (node : Node) (address : List Nat) (k : Nat) :
    node.at? (address ++ [k]) = (node.at? address).bind fun parent => parent.children[k]? := by
  induction address generalizing node with
  | nil => cases below : node.children[k]? <;> simp [at?, below]
  | cons first address ih =>
    cases below : node.children[first]? with
    | none => simp [at?, below]
    | some child => simp [at?, below, ih]

theorem at?_of_mem_places (node : Node) (address : List Nat) :
    ∀ place ∈ node.places address, ∃ path, place.address = address ++ path ∧
      node.at? path = some place.node := by
  induction node using induction_below generalizing address with
  | step node ih =>
    rw [places_eq]
    intro place listed
    obtain rfl | listed := List.mem_cons.mp listed
    · exact ⟨[], (List.append_nil address).symm, rfl⟩
    · obtain ⟨⟨child, k⟩, found, within⟩ := List.mem_flatMap.mp listed
      rw [List.mem_zipIdx_iff_getElem?] at found
      obtain ⟨path, shape, reached⟩ := ih child (List.mem_of_getElem? found) _ place within
      exact ⟨k :: path, by simp [shape], by simp [at?, found, reached]⟩

end Node

/-! ### Addresses in order -/

/-- The order of addresses: a node stands before those below it, and those below one child before
those below the next. -/
abbrev Precedes : List Nat → List Nat → Prop :=
  List.Lex (· < ·)

theorem Precedes.asymm {x y : List Nat} (before : Precedes x y) : ¬Precedes y x := by
  induction before with
  | nil => exact nofun
  | cons _ ih =>
    rintro (_ | less | other)
    · exact Nat.lt_irrefl _ less
    · exact ih other
  | rel less =>
    rintro (_ | less' | other)
    · exact Nat.lt_asymm less less'
    · exact Nat.lt_irrefl _ less

theorem Precedes.ne {x y : List Nat} (before : Precedes x y) : x ≠ y := by
  rintro rfl
  exact before.asymm before

theorem precedes_append_cons (address : List Nat) (k : Nat) (path : List Nat) :
    Precedes address (address ++ k :: path) := by
  induction address with
  | nil => exact .nil
  | cons first address ih => exact .cons ih

theorem precedes_of_lt (address : List Nat) {k m : Nat} (less : k < m) (path path' : List Nat) :
    Precedes (address ++ k :: path) (address ++ m :: path') := by
  induction address with
  | nil => exact .rel less
  | cons first address ih => exact .cons ih

/-- What stands between a node and one below it is below the node, too. -/
theorem prefix_of_precedes {x y z : List Nat} (below : x <+: z) (first : Precedes x y)
    (second : Precedes y z ∨ y = z) : x <+: y := by
  induction x generalizing y z with
  | nil => exact List.nil_prefix
  | cons k x ih =>
    obtain ⟨path, rfl⟩ := below
    obtain second | rfl := second
    · cases first with
      | rel less =>
        cases second with
        | rel less' => exact absurd (Nat.lt_trans less less') (Nat.lt_irrefl k)
        | cons => exact absurd less (Nat.lt_irrefl k)
      | cons first =>
        cases second with
        | rel less => exact absurd less (Nat.lt_irrefl k)
        | cons second =>
          exact List.cons_prefix_cons.mpr ⟨rfl, ih (List.prefix_append x path) first (.inl second)⟩
    · exact List.prefix_append _ _

/-- The addresses of a tree with its root at an address, in the order of a walk: each is that of a
child of a node on the way to the one before. -/
structure Walk (root : List Nat) (addresses : List (List Nat)) : Prop where
  head : addresses.head? = some root
  inside : ∀ x ∈ addresses, root <+: x
  next : addresses.IsChain fun x y => ∃ parent k, y = parent ++ [k] ∧ parent <+: x
  sorted : addresses.Pairwise Precedes

/-- The addresses of trees that stand side by side, with their roots from child `k` on. -/
structure Walks (root : List Nat) (k : Nat) (addresses : List (List Nat)) : Prop where
  head : ∀ x ∈ addresses.head?, x = root ++ [k]
  inside : ∀ x ∈ addresses, ∃ m path, k ≤ m ∧ x = root ++ m :: path
  next : addresses.IsChain fun x y => ∃ parent k, y = parent ++ [k] ∧ parent <+: x
  sorted : addresses.Pairwise Precedes

variable {root : List Nat} {k : Nat} {addresses first others : List (List Nat)}

theorem Walks.nil : Walks root k [] :=
  ⟨nofun, nofun, .nil, .nil⟩

theorem Walks.cons (walk : Walk (root ++ [k]) first) (walks : Walks root (k + 1) others) :
    Walks root k (first ++ others) where
  head x listed := by
    rw [List.head?_append, walk.head] at listed
    exact (Option.some.inj listed).symm
  inside x listed := by
    obtain listed | listed := List.mem_append.mp listed
    · obtain ⟨path, rfl⟩ := walk.inside x listed
      exact ⟨k, path, Nat.le_refl k, by simp⟩
    · obtain ⟨m, path, later, rfl⟩ := walks.inside x listed
      exact ⟨m, path, Nat.le_of_succ_le later, rfl⟩
  next := by
    refine List.isChain_append.mpr ⟨walk.next, walks.next, fun x last y head => ?_⟩
    obtain rfl := walks.head y head
    have below := walk.inside x (List.mem_of_getLast? last)
    exact ⟨root, k + 1, rfl, (List.prefix_append root [k]).trans below⟩
  sorted := by
    refine List.pairwise_append.mpr ⟨walk.sorted, walks.sorted, fun x left y right => ?_⟩
    obtain ⟨path, rfl⟩ := walk.inside x left
    obtain ⟨m, path', later, rfl⟩ := walks.inside y right
    rw [List.append_assoc]
    exact precedes_of_lt root later path path'

theorem Walk.cons (walks : Walks root 0 addresses) : Walk root (root :: addresses) where
  head := rfl
  inside := by
    refine List.forall_mem_cons.mpr ⟨List.prefix_rfl, fun x listed => ?_⟩
    obtain ⟨m, path, _, rfl⟩ := walks.inside x listed
    exact List.prefix_append root _
  next := by
    refine List.isChain_cons.mpr ⟨fun x head => ?_, walks.next⟩
    exact ⟨root, 0, walks.head x head, List.prefix_rfl⟩
  sorted := by
    refine List.pairwise_cons.mpr ⟨fun x listed => ?_, walks.sorted⟩
    obtain ⟨m, path, _, rfl⟩ := walks.inside x listed
    exact precedes_append_cons root m path

theorem Node.walks_places (nodes : List Node) (k : Nat)
    (each : ∀ node ∈ nodes, ∀ address, Walk address ((node.places address).map Place.address)) :
    Walks root k (((nodes.zipIdx k).flatMap fun (node, m) => node.places (root ++ [m])).map
      Place.address) := by
  induction nodes generalizing k with
  | nil => exact .nil
  | cons node nodes ih =>
    obtain ⟨first, others⟩ := List.forall_mem_cons.mp each
    simp only [List.zipIdx_cons, List.flatMap_cons, List.map_append]
    exact .cons (first _) (ih (k + 1) others)

/-- The places of a node are a walk. -/
theorem Node.walk_places (node : Node) (address : List Nat) :
    Walk address ((node.places address).map Place.address) := by
  induction node using induction_below generalizing address with
  | step node ih =>
    rw [places_eq, List.map_cons]
    exact .cons (walks_places node.children 0 ih)

namespace Walk

variable {i j : Nat}

/-- An address stands before all those behind it. -/
theorem precedes (walk : Walk root addresses) (within : j < addresses.length) (before : i < j) :
    Precedes addresses[i] addresses[j] :=
  List.pairwise_iff_getElem.mp walk.sorted i j _ within before

theorem getElem_zero (walk : Walk root addresses) (some : 0 < addresses.length) :
    addresses[0] = root := by
  simpa [List.head?_eq_getElem?, some] using walk.head

/-- All nodes on the way to a node are met before it. -/
theorem exists_on_way (walk : Walk root addresses) (within : i < addresses.length)
    {address : List Nat} (below : root <+: address) (above : address <+: addresses[i]) :
    ∃ (p : Nat) (upTo : p ≤ i), addresses[p] = address := by
  induction i with
  | zero =>
    have first := walk.getElem_zero within
    exact ⟨0, Nat.le_refl 0, first ▸ below.eq_of_length_le (first ▸ above).length_le⟩
  | succ i ih =>
    obtain ⟨parent, k, shape, onward⟩ := List.isChain_iff_getElem.mp walk.next i within
    -- Only the last number of the next address is new; what is before it was on the way already.
    rw [shape, List.prefix_concat_iff] at above
    obtain rfl | above := above
    · exact ⟨i + 1, Nat.le_refl _, shape⟩
    · obtain ⟨p, upTo, found⟩ := ih (Nat.lt_of_succ_lt within) (above.trans onward)
      exact ⟨p, Nat.le_succ_of_le upTo, found⟩

/-- Every node but the root is the child of one that is met before it. -/
theorem exists_parent (walk : Walk root addresses) (within : i < addresses.length)
    (later : 0 < i) : ∃ (p : Nat) (before : p < i) (k : Nat),
      addresses[i] = addresses[p] ++ [k] := by
  obtain ⟨i, rfl⟩ := Nat.exists_eq_add_one_of_ne_zero (Nat.ne_of_gt later)
  obtain ⟨parent, k, shape, onward⟩ := List.isChain_iff_getElem.mp walk.next i within
  have first := walk.getElem_zero (Nat.lt_trans later within)
  have apart : root ≠ addresses[i + 1] := first ▸ (walk.precedes within later).ne
  have below : root <+: parent := by
    have inside := walk.inside _ (List.getElem_mem within)
    rw [shape, List.prefix_concat_iff] at inside
    exact inside.resolve_left (shape ▸ apart)
  obtain ⟨p, upTo, found⟩ := walk.exists_on_way (Nat.lt_of_succ_lt within) below onward
  exact ⟨p, Nat.lt_succ_of_le upTo, k, found ▸ shape⟩

/-- The nodes below a node are met one after the other behind it, up to the first node that is not
at a greater depth. -/
theorem prefix_iff (walk : Walk root addresses) (within : j < addresses.length) (before : i < j) :
    addresses[i] <+: addresses[j] ↔
      ∀ k (upTo : k ≤ j), i < k → addresses[i].length < addresses[k].length := by
  constructor
  · intro below k upTo behind
    have first := walk.precedes (Nat.lt_of_le_of_lt upTo within) behind
    have second : Precedes addresses[k] addresses[j] ∨ addresses[k] = addresses[j] := by
      obtain rfl | less := Nat.eq_or_lt_of_le upTo
      · exact .inr rfl
      · exact .inl (walk.precedes within less)
    have between := prefix_of_precedes below first second
    exact Nat.lt_of_le_of_ne between.length_le fun same => first.ne (between.eq_of_length same)
  · intro deeper
    induction j with
    | zero => exact absurd before (Nat.not_lt_zero i)
    | succ j ih =>
      obtain ⟨parent, k, shape, onward⟩ := List.isChain_iff_getElem.mp walk.next j within
      have here : addresses[i] <+: addresses[j] := by
        obtain rfl | less := Nat.eq_or_lt_of_le (Nat.le_of_lt_succ before)
        · exact List.prefix_rfl
        · exact ih _ less fun k upTo => deeper k (Nat.le_succ_of_le upTo)
      -- The parent of the next node cannot be above node `i`, as the next node is deeper than that.
      have longer := deeper (j + 1) (Nat.le_refl _) before
      rw [shape, List.length_append, List.length_singleton] at longer
      rw [shape]
      have onParent := List.prefix_of_prefix_length_le here onward (Nat.le_of_lt_succ longer)
      exact onParent.trans (List.prefix_append parent [k])

end Walk

end ScriptTree
