import ScriptTree.Proofs.Grammar.Derivation
import ScriptTree.Proofs.Grammar.Plain

/-! What an outcome says about the tokens. A value stands for tokens that the grammar derives. An
error names the first token that cannot be: the tokens before it can be completed, whatever token of
the expected kind comes next. In both cases the outcome depends on the tokens read and the next one
alone. This module states it and shows that it passes through the ways in which readings are put
together. -/

namespace ScriptTree

open TokenKind (token)

variable {α β : Type}

/-- Whether proper tokens can complete a list to one of a language. -/
def Completable (D : List Token → α → Prop) (ts : List Token) : Prop :=
  ∃ more value, (∀ t ∈ more, t.Proper) ∧ D (ts ++ more) value

theorem Completable.of_derives {D : List Token → α → Prop} {ts : List Token} {value : α}
    (derived : D ts value) : Completable D ts :=
  ⟨[], value, by simp, by rwa [List.append_nil]⟩

/-- One token of each kind is proper, so it is enough to name the kinds that are missing. -/
theorem Completable.of_kinds {D : List Token → α → Prop} {ts : List Token} {value : α}
    (kinds : List TokenKind) (derived : D (ts ++ kinds.map token) value) : Completable D ts := by
  refine ⟨kinds.map token, value, fun t listed => ?_, derived⟩
  obtain ⟨kind, -, rfl⟩ := List.mem_map.mp listed
  exact kind.token_proper

theorem Completable.trans {D : List Token → α → Prop} {E : List Token → β → Prop}
    {ts : List Token} (completable : Completable D ts)
    (goes_on : ∀ us value, D us value → Completable E us) : Completable E ts := by
  obtain ⟨more, value, proper, derived⟩ := completable
  obtain ⟨more', value', proper', derived'⟩ := goes_on _ value derived
  exact ⟨more ++ more', value', List.forall_mem_append.mpr ⟨proper, proper'⟩,
    by rwa [← List.append_assoc]⟩

/-- What is left of the lists of a language behind a prefix. -/
def After (c : List Token) (D : List Token → α → Prop) : List Token → α → Prop :=
  fun d => D (c ++ d)

theorem Completable.append {D : List Token → α → Prop} {c d : List Token}
    (completable : Completable (After c D) d) : Completable D (c ++ d) := by
  obtain ⟨more, value, proper, derived⟩ := completable
  exact ⟨more, value, proper, by rwa [List.append_assoc]⟩

/-- Whether the outcome of reading a list is explained by a language. -/
inductive Explains (D : List Token → α → Prop) (read : List Token → Outcome (List Token) α)
    (s : List Token) : Prop where
  | ok (c r : List Token) (value : α) (parts : s = c ++ r) (derived : D c value)
      (steady : ∀ r', r'.head? = r.head? → read (c ++ r') = .ok (value, r'))
  | unexpected (c r : List Token) (found : Token) (expected : TokenKind)
      (parts : s = c ++ found :: r)
      (viable : ∀ t : Token, t.Proper → t.kind = expected → Completable D (c ++ [t]))
      (steady : ∀ r', read (c ++ found :: r') =
        .error ⟨.unexpectedToken found expected, found :: r'⟩)
  | ended (expected : TokenKind)
      (viable : ∀ t : Token, t.Proper → t.kind = expected → Completable D (s ++ [t]))
      (refused : read s = .error ⟨.unexpectedEnd expected, []⟩)
  | invalid (c r : List Token) (operator : Token) (target : String)
      (parts : s = c ++ operator :: r) (assigns : operator.kind.isAssignment = true)
      (viable : Completable D c)
      (steady : ∀ r', read (c ++ operator :: r') = .error ⟨.invalidTarget target, r'⟩)

namespace Explains

variable {D : List Token → α → Prop} {E : List Token → β → Prop}
  {read read' : List Token → Outcome (List Token) α} {s : List Token}

theorem head?_append {c r r' : List Token} (same : r'.head? = r.head?) :
    (c ++ r').head? = (c ++ r).head? := by
  cases c with
  | nil => exact same
  | cons => rfl

theorem head?_append_cons (c : List Token) (t : Token) (r r' : List Token) :
    (c ++ t :: r').head? = (c ++ t :: r).head? :=
  head?_append rfl

/-- A reading that decides by the next token alone is one of those between which it decides. -/
theorem congr (explained : Explains D read s)
    (same : ∀ s', s'.head? = s.head? → read' s' = read s') : Explains D read' s := by
  cases explained with
  | ok c r value parts derived steady =>
    subst parts
    refine .ok c r value rfl derived fun r' head => ?_
    rw [same _ (head?_append head), steady r' head]
  | unexpected c r found expected parts viable steady =>
    subst parts
    exact .unexpected c r found expected rfl viable fun r' => by
      rw [same _ (head?_append_cons c _ r r'), steady]
  | ended expected viable refused =>
    exact .ended expected viable (by rw [same s rfl, refused])
  | invalid c r operator target parts assigns viable steady =>
    subst parts
    exact .invalid c r operator target rfl assigns viable fun r' => by
      rw [same _ (head?_append_cons c _ r r'), steady]

theorem imp {D' : List Token → α → Prop} (explained : Explains D read s)
    (wider : ∀ c value, D c value → D' c value) : Explains D' read s := by
  have goes_on (c : List Token) (value : α) (derived : D c value) : Completable D' c :=
    .of_derives (wider c value derived)
  cases explained with
  | ok c r value parts derived steady =>
    exact .ok c r value parts (wider c value derived) steady
  | unexpected c r found expected parts viable steady =>
    exact .unexpected c r found expected parts
      (fun t proper kind => (viable t proper kind).trans goes_on) steady
  | ended expected viable refused =>
    exact .ended expected (fun t proper kind => (viable t proper kind).trans goes_on) refused
  | invalid c r operator target parts assigns viable steady =>
    exact .invalid c r operator target parts assigns (viable.trans goes_on) steady

theorem done {value : α} (derived : D [] value) (s : List Token) :
    Explains D (fun s => .ok (value, s)) s :=
  .ok [] s value rfl derived fun _ _ => rfl

/-- Where the first of two readings ends in a value, the second is explained by what is left of the
language; where it ends in an error, the language must be able to go on behind it. -/
theorem andThen {next : α → List Token → Outcome (List Token) β} (first : Explains D read s)
    (goes_on : ∀ c value, D c value → Completable E c)
    (second : ∀ c value r, s = c ++ r → D c value → read s = .ok (value, r) →
      Explains (After c E) (next value) r) :
    Explains E (fun s => (read s).andThen next) s := by
  cases first with
  | ok c r value parts derived steady =>
    subst parts
    have here (r' : List Token) (head : r'.head? = r.head?) :
        (read (c ++ r')).andThen next = next value r' := by
      rw [steady r' head, Outcome.andThen_ok]
    cases second c value r rfl derived (steady r rfl) with
    | ok d r₂ result parts derived₂ steady₂ =>
      subst parts
      refine .ok (c ++ d) r₂ result (List.append_assoc ..).symm derived₂ fun r' head => ?_
      rw [List.append_assoc, here _ (head?_append head), steady₂ r' head]
    | unexpected d r₂ found expected parts viable steady₂ =>
      subst parts
      refine .unexpected (c ++ d) r₂ found expected (List.append_assoc ..).symm ?_ fun r' => ?_
      · intro t proper kind
        rw [List.append_assoc]
        exact (viable t proper kind).append
      · rw [List.append_assoc, here _ (head?_append_cons d _ r₂ r'), steady₂ r']
    | ended expected viable refused =>
      refine .ended expected ?_ (by rw [here r rfl, refused])
      intro t proper kind
      rw [List.append_assoc]
      exact (viable t proper kind).append
    | invalid d r₂ operator target parts assigns viable steady₂ =>
      subst parts
      refine .invalid (c ++ d) r₂ operator target (List.append_assoc ..).symm assigns
        viable.append fun r' => ?_
      rw [List.append_assoc, here _ (head?_append_cons d _ r₂ r'), steady₂ r']
  | unexpected c r found expected parts viable steady =>
    exact .unexpected c r found expected parts
      (fun t proper kind => (viable t proper kind).trans goes_on)
      fun r' => by rw [steady r', Outcome.andThen_error]
  | ended expected viable refused =>
    exact .ended expected (fun t proper kind => (viable t proper kind).trans goes_on)
      (by rw [refused, Outcome.andThen_error])
  | invalid c r operator target parts assigns viable steady =>
    exact .invalid c r operator target parts assigns (viable.trans goes_on)
      fun r' => by rw [steady r', Outcome.andThen_error]

theorem map {f : α → β} (first : Explains D read s)
    (into : ∀ c value, D c value → E c (f value)) :
    Explains E (fun s => (read s).map f) s := by
  refine first.andThen (fun c value derived => .of_derives (into c value derived)) ?_
  intro c value r _ derived _
  refine done ?_ r
  show E (c ++ []) (f value)
  rw [List.append_nil]
  exact into c value derived

end Explains

/-! ### Single tokens -/

/-- A list of tokens each of which has a text of its kind. -/
def AllSpelled (s : List Token) : Prop :=
  ∀ t ∈ s, t.Spelled

theorem AllSpelled.rest {s c r : List Token} (spelled : AllSpelled s) (parts : s = c ++ r) :
    AllSpelled r :=
  fun t listed => spelled t (parts ▸ List.mem_append_right c listed)

/-- A token of a kind, alone. -/
def Single (kind : TokenKind) (ts : List Token) (t : Token) : Prop :=
  ts = [t] ∧ t.kind = kind ∧ t.Spelled

namespace Explains

open Grammar TokenSource

variable {E : List Token → β → Prop} {s : List Token}

theorem eat (spelled : AllSpelled s) (kind : TokenKind) :
    Explains (Single kind) (fun s => (ScriptTree.eat kind s).plain) s := by
  have viable (t : Token) (proper : t.Proper) (same : t.kind = kind) :
      Completable (Single kind) ([] ++ [t]) := by
    have derived : Single kind [t] t := ⟨rfl, same, proper.spelled⟩
    exact .of_derives derived
  cases s with
  | nil => exact .ended kind viable (plain_eat_nil kind)
  | cons t r =>
    by_cases same : t.kind = kind
    · refine .ok [t] r t rfl ⟨rfl, same, spelled t List.mem_cons_self⟩ fun r' _ => ?_
      rw [List.singleton_append, plain_eat_cons, if_pos same]
    · refine .unexpected [] r t kind rfl viable fun r' => ?_
      rw [List.nil_append, plain_eat_cons, if_neg same]

/-- Takes a token with a single text and goes on. -/
theorem eat_andThen {kind : TokenKind} {next : Token → List Token → Outcome (List Token) β}
    (spelled : AllSpelled s) (fixed : kind.isFixed = true)
    (goes_on : Completable E [token kind])
    (second : ∀ r, AllSpelled r → size r < size s →
      Explains (After [token kind] E) (next (token kind)) r) :
    Explains E (fun s => (ScriptTree.eat kind s).plain.andThen next) s := by
  have only (t : Token) (same : t.kind = kind) (spelled : t.Spelled) : t = token kind := by
    subst same
    exact spelled.eq_token fixed
  apply (eat spelled kind).andThen
  · rintro _ t ⟨rfl, same, spelled⟩
    rwa [only t same spelled]
  · rintro _ t r parts ⟨rfl, same, spelled'⟩ read
    rw [only t same spelled']
    exact second r (spelled.rest parts) (Reading.size_lt_of_plain read)

/-- Takes a token with a single text, which ends the reading. -/
theorem eat_map {kind : TokenKind} {value : β} (spelled : AllSpelled s)
    (fixed : kind.isFixed = true) (derived : E [token kind] value) :
    Explains E (fun s => (ScriptTree.eat kind s).plain.map fun _ => value) s := by
  apply (eat spelled kind).map
  rintro _ t ⟨rfl, same, spelled⟩
  subst same
  rwa [spelled.eq_token fixed]

end Explains
end ScriptTree
