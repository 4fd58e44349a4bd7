import ScriptTree.Proofs.Number.Written
import ScriptTree.Proofs.Text.Escape

/-! The text of a JSON value on one line tells the value, but for infinite numbers, which are
written like `null`. What stands behind a value begins with a comma or a closing bracket, and
neither goes on with a number. -/

namespace ScriptTree.Json

/-! ### What a text tells -/

mutual

/-- A value with `null` for infinite numbers. -/
def content : Json → Json
  | number .infinite => null
  | array items => array (itemContents items)
  | object members => object (memberContents members)
  | value => value

def itemContents : List Json → List Json
  | [] => []
  | item :: items => item.content :: itemContents items

def memberContents : List (String × Json) → List (String × Json)
  | [] => []
  | (key, value) :: members => (key, value.content) :: memberContents members

end

mutual

/-- Whether all finite numbers in a value are stored as they are. -/
def Stored : Json → Prop
  | number (.finite value) => Number.Stored value
  | array items => ItemsStored items
  | object members => MembersStored members
  | _ => True

def ItemsStored : List Json → Prop
  | [] => True
  | item :: items => item.Stored ∧ ItemsStored items

def MembersStored : List (String × Json) → Prop
  | [] => True
  | (_, value) :: members => value.Stored ∧ MembersStored members

end

/-- The shapes of values that their first characters tell apart. -/
inductive Shape where
  | null
  | boolean (value : Bool)
  | number
  | string
  | array
  | object
deriving DecidableEq

/-- The characters of finite numbers. -/
def isNumberChar (c : Char) : Bool :=
  c.isDigit || c == '.' || c == 'e' || c == '+'

/-- The shape of the values that begin with a character, if there are any. -/
def Shape.ofChar? (c : Char) : Option Shape :=
  if c = 'n' then some null
  else if c = 't' then some (boolean true)
  else if c = 'f' then some (boolean false)
  else if c = '"' then some string
  else if c = '[' then some array
  else if c = '{' then some object
  else if isNumberChar c then some number
  else none

def shape : Json → Shape
  | null | number .infinite => .null
  | boolean value => .boolean value
  | number (.finite _) => .number
  | string _ => .string
  | array _ => .array
  | object _ => .object

/-! ### Numbers -/

theorem exponentMark_numberStyle : numberStyle.exponentMark.toList = ['e', '+'] := rfl

theorem all_isNumberChar (n : Nat) :
    (Number.write numberStyle (.finite n)).toList.all isNumberChar = true := by
  refine List.all_eq_true.mpr fun c listed => ?_
  have kinds := Number.mem_write exponentMark_numberStyle listed
  simpa [isNumberChar, or_assoc] using kinds

theorem write_number_ne_nil (n : Nat) :
    (Number.write numberStyle (.finite n)).toList ≠ [] := by
  by_cases short : (Nat.toDigits 10 (Number.shortest n)).length ≤ 16
  · simp [Number.toList_write_short short]
  · simp [Number.toList_write_long exponentMark_numberStyle short]

theorem Shape.ofChar?_number {c : Char} (inside : isNumberChar c = true) :
    ofChar? c = some number := by
  have other {d : Char} (outside : isNumberChar d = false) : c ≠ d := by
    rintro rfl
    exact absurd (inside.symm.trans outside) (by decide)
  simp only [ofChar?, if_neg (other (d := 'n') rfl), if_neg (other (d := 't') rfl),
    if_neg (other (d := 'f') rfl), if_neg (other (d := '"') rfl), if_neg (other (d := '[') rfl),
    if_neg (other (d := '{') rfl), if_pos inside]

/-- Text behind a value does not go on with a number. -/
def Apart (rest : List Char) : Prop :=
  ∀ c ∈ rest.head?, isNumberChar c = false

theorem eq_of_write_number_eq {m n : Nat} {rest rest' : List Char} (first : Number.Stored m)
    (second : Number.Stored n) (apart : Apart rest) (apart' : Apart rest')
    (same : (Number.write numberStyle (.finite m)).toList ++ rest =
      (Number.write numberStyle (.finite n)).toList ++ rest') : m = n ∧ rest = rest' := by
  obtain ⟨texts, behind⟩ :=
    run_append_injective (all_isNumberChar m) (all_isNumberChar n) apart apart' same
  exact ⟨Number.write_injective first second exponentMark_numberStyle (String.toList_inj.mp texts),
    behind⟩

/-! ### Values -/

/-- The first character of a text tells the shape of the value. -/
theorem shape_write (layout : Layout) (depth : Nat) (value : Json) (rest : List Char) :
    (value.write layout depth rest).head?.bind Shape.ofChar? = some value.shape := by
  match value with
  | null => rfl
  | boolean true => rfl
  | boolean false => rfl
  | number .infinite => rfl
  | number (.finite n) =>
    obtain ⟨c, more, text⟩ := List.exists_cons_of_ne_nil (write_number_ne_nil n)
    have inside := List.all_eq_true.mp (all_isNumberChar n) c (by simp [text])
    simp [write, text, shape, Shape.ofChar?_number inside]
  | string value => rfl
  | array [] => rfl
  | array (item :: items) => rfl
  | object [] => rfl
  | object ((key, member) :: members) => rfl

section

variable {depth : Nat} {rest rest' : List Char}

theorem shape_eq_of_write_eq {value value' : Json}
    (same : value.write .compact depth rest = value'.write .compact depth rest') :
    value.shape = value'.shape := by
  have first := shape_write .compact depth value rest
  rw [same, shape_write] at first
  exact (Option.some.inj first).symm

theorem apart_cons {c : Char} (outside : isNumberChar c = false) (rest : List Char) :
    Apart (c :: rest) := by
  rintro _ ⟨⟩
  exact outside

theorem apart_writeItems (items : List Json) :
    Apart (writeItems .compact depth items (']' :: rest)) := by
  cases items <;> exact apart_cons rfl _

theorem apart_writeMembers (members : List (String × Json)) :
    Apart (writeMembers .compact depth members ('}' :: rest)) := by
  obtain _ | ⟨⟨key, value⟩, members⟩ := members <;> exact apart_cons rfl _

/-- No value begins with a closing bracket. -/
theorem write_ne_closing (item : Json) (rest' : List Char) :
    item.write .compact depth rest' ≠ ']' :: rest := by
  intro same
  have first := shape_write .compact depth item rest'
  rw [same] at first
  have shapeless : none = some item.shape := first
  cases shapeless

end

mutual

/-- The text of a value tells its content, whatever stands behind it. -/
theorem content_eq_of_write_eq {depth : Nat} {rest rest' : List Char} (value value' : Json)
    (stored : value.Stored) (stored' : value'.Stored) (apart : Apart rest) (apart' : Apart rest')
    (same : value.write .compact depth rest = value'.write .compact depth rest') :
    value.content = value'.content ∧ rest = rest' := by
  have shapes := shape_eq_of_write_eq same
  match value, value', shapes with
  | null, null, _ | null, number .infinite, _ | number .infinite, null, _
  | number .infinite, number .infinite, _ => exact ⟨rfl, List.append_cancel_left same⟩
  | boolean flag, boolean _, rfl => exact ⟨rfl, List.append_cancel_left same⟩
  | number (.finite m), number (.finite n), _ =>
    obtain ⟨rfl, behind⟩ := eq_of_write_number_eq stored stored' apart apart' same
    exact ⟨rfl, behind⟩
  | string text, string text', _ =>
    obtain ⟨rfl, behind⟩ := eq_of_quote_append_eq same
    exact ⟨rfl, behind⟩
  | array items, array items', _ =>
    match items, items' with
    | [], [] => exact ⟨rfl, (List.cons.inj (List.cons.inj same).2).2⟩
    | [], item :: items => exact absurd (List.cons.inj same).2.symm (write_ne_closing item _)
    | item :: items, [] => exact absurd (List.cons.inj same).2 (write_ne_closing item _)
    | item :: items, item' :: items' =>
      -- Behind a comma the items would be written alike.
      have behindComma : writeItems .compact (depth + 1) (item :: items) (']' :: rest) =
          writeItems .compact (depth + 1) (item' :: items') (']' :: rest') :=
        congrArg (',' :: ·) (List.cons.inj same).2
      obtain ⟨contents, behind⟩ := itemContents_eq_of_write_eq _ _ stored stored' behindComma
      exact ⟨congrArg array contents, behind⟩
  | object members, object members', _ =>
    match members, members' with
    | [], [] => exact ⟨rfl, (List.cons.inj (List.cons.inj same).2).2⟩
    | [], (key, value) :: members =>
      exact absurd (List.cons.inj (List.cons.inj same).2).1 (by decide)
    | (key, value) :: members, [] =>
      exact absurd (List.cons.inj (List.cons.inj same).2).1 (by decide)
    | (key, value) :: members, (key', value') :: members' =>
      have behindComma :
          writeMembers .compact (depth + 1) ((key, value) :: members) ('}' :: rest) =
            writeMembers .compact (depth + 1) ((key', value') :: members') ('}' :: rest') :=
        congrArg (',' :: ·) (List.cons.inj same).2
      obtain ⟨contents, behind⟩ := memberContents_eq_of_write_eq _ _ stored stored' behindComma
      exact ⟨congrArg object contents, behind⟩

theorem itemContents_eq_of_write_eq {depth : Nat} {rest rest' : List Char}
    (items items' : List Json) (stored : ItemsStored items) (stored' : ItemsStored items')
    (same : writeItems .compact depth items (']' :: rest) =
      writeItems .compact depth items' (']' :: rest')) :
    itemContents items = itemContents items' ∧ rest = rest' := by
  match items, items' with
  | [], [] => exact ⟨rfl, (List.cons.inj same).2⟩
  | [], item :: items => exact absurd (List.cons.inj same).1 (by decide)
  | item :: items, [] => exact absurd (List.cons.inj same).1 (by decide)
  | item :: items, item' :: items' =>
    obtain ⟨first, behind⟩ := content_eq_of_write_eq item item' stored.1 stored'.1
      (apart_writeItems items) (apart_writeItems items') (List.cons.inj same).2
    obtain ⟨others, behind⟩ := itemContents_eq_of_write_eq items items' stored.2 stored'.2 behind
    exact ⟨congrArg₂ List.cons first others, behind⟩

theorem memberContents_eq_of_write_eq {depth : Nat} {rest rest' : List Char}
    (members members' : List (String × Json)) (stored : MembersStored members)
    (stored' : MembersStored members')
    (same : writeMembers .compact depth members ('}' :: rest) =
      writeMembers .compact depth members' ('}' :: rest')) :
    memberContents members = memberContents members' ∧ rest = rest' := by
  match members, members' with
  | [], [] => exact ⟨rfl, (List.cons.inj same).2⟩
  | [], (key, value) :: members => exact absurd (List.cons.inj same).1 (by decide)
  | (key, value) :: members, [] => exact absurd (List.cons.inj same).1 (by decide)
  | (key, value) :: members, (key', value') :: members' =>
    obtain ⟨rfl, behind⟩ := eq_of_quote_append_eq (List.cons.inj same).2
    obtain ⟨first, behind⟩ := content_eq_of_write_eq value value' stored.1 stored'.1
      (apart_writeMembers members) (apart_writeMembers members') (List.cons.inj behind).2
    obtain ⟨others, behind⟩ :=
      memberContents_eq_of_write_eq members members' stored.2 stored'.2 behind
    exact ⟨congrArg₂ List.cons (congrArg (key, ·) first) others, behind⟩

end

/-- Values with the same text on one line have the same content. -/
theorem content_eq_of_compact_eq {value value' : Json} (stored : value.Stored)
    (stored' : value'.Stored) (same : value.compact = value'.compact) :
    value.content = value'.content := by
  have chars := congrArg String.toList same
  rw [compact, compact, String.toList_ofList, String.toList_ofList] at chars
  have nothing : Apart [] := fun _ none => absurd none (by simp)
  exact (content_eq_of_write_eq value value' stored stored' nothing nothing chars).1

end ScriptTree.Json
