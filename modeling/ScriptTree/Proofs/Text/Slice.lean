import Mathlib.Data.String.Basic
import ScriptTree.Token.Basic

/-! Slices of a text from one byte to another. There is one exactly if the bytes are in order and
neither stands within a character, and it is then the part of the text between them. -/

namespace ScriptTree.Text

/-- The part of a text from one byte to another, if they are in order and each stands at the start
of a character or at the end of the text. -/
def slice? (text : String) (start stop : Nat) : Option String :=
  if start ≤ stop ∧ (⟨start⟩ : String.Pos.Raw).IsValid text ∧
      (⟨stop⟩ : String.Pos.Raw).IsValid text then
    some (String.Pos.Raw.extract text ⟨start⟩ ⟨stop⟩)
  else none

theorem byteLength_eq_utf8Len (cs : List Char) : byteLength cs = String.utf8Len cs :=
  (byteLength_eq_utf8ByteSize cs).trans (String.utf8ByteSize_ofList cs)

theorem isValid_iff {text : String} {place : Nat} : (⟨place⟩ : String.Pos.Raw).IsValid text ↔
    ∃ before behind, text.toList = before ++ behind ∧ place = byteLength before := by
  rw [String.Pos.Raw.isValid_iff_exists_append]
  constructor
  · rintro ⟨before, behind, rfl, same⟩
    refine ⟨before.toList, behind.toList, String.toList_append, ?_⟩
    rw [byteLength_toList]
    exact congrArg String.Pos.Raw.byteIdx same
  · rintro ⟨before, behind, parts, rfl⟩
    refine ⟨.ofList before, .ofList behind, ?_, ?_⟩
    · rw [← String.ofList_append, ← parts, String.ofList_toList]
    · rw [byteLength_eq_utf8ByteSize]
      rfl

/-- What ends at a byte that is not before another one begins with what ends there. -/
theorem exists_append_of_byteLength_le {first second behind behind' : List Char}
    (same : first ++ behind = second ++ behind')
    (ordered : byteLength first ≤ byteLength second) : ∃ middle, second = first ++ middle := by
  rcases List.append_eq_append_iff.mp same with ⟨middle, shape, -⟩ | ⟨middle, rfl, -⟩
  · exact ⟨middle, shape⟩
  · rw [byteLength_append] at ordered
    cases middle with
    | nil => exact ⟨[], by simp⟩
    | cons c cs =>
      have := c.utf8Size_pos
      rw [byteLength] at ordered
      omega

theorem extract_of_parts {text : String} {before middle behind : List Char}
    (parts : text.toList = before ++ middle ++ behind) :
    String.Pos.Raw.extract text ⟨byteLength before⟩ ⟨byteLength (before ++ middle)⟩ =
      String.ofList middle := by
  have whole : text = String.ofList (before ++ middle ++ behind) := by
    rw [← parts, String.ofList_toList]
  rw [whole, byteLength_append, byteLength_eq_utf8Len, byteLength_eq_utf8Len]
  exact String.extract_of_valid before middle behind

theorem slice?_eq_some_iff {text part : String} {start stop : Nat} :
    slice? text start stop = some part ↔ ∃ before behind,
      text.toList = before ++ part.toList ++ behind ∧ start = byteLength before ∧
        stop = byteLength (before ++ part.toList) := by
  constructor
  · intro taken
    unfold slice? at taken
    split at taken <;> cases taken
    rename_i ends
    obtain ⟨ordered, valid, valid'⟩ := ends
    obtain ⟨before, rest, parts, rfl⟩ := isValid_iff.mp valid
    obtain ⟨whole, behind, parts', rfl⟩ := isValid_iff.mp valid'
    obtain ⟨middle, rfl⟩ := exists_append_of_byteLength_le (parts.symm.trans parts') ordered
    rw [extract_of_parts parts', String.toList_ofList]
    exact ⟨before, behind, parts', rfl, rfl⟩
  · rintro ⟨before, behind, parts, rfl, rfl⟩
    have valid : (⟨byteLength before⟩ : String.Pos.Raw).IsValid text :=
      isValid_iff.mpr ⟨before, part.toList ++ behind, by rw [parts, List.append_assoc], rfl⟩
    have valid' : (⟨byteLength (before ++ part.toList)⟩ : String.Pos.Raw).IsValid text :=
      isValid_iff.mpr ⟨_, behind, parts, rfl⟩
    have ordered : byteLength before ≤ byteLength (before ++ part.toList) := by
      rw [byteLength_append]
      exact Nat.le_add_right ..
    rw [slice?, if_pos ⟨ordered, valid, valid'⟩, extract_of_parts parts, String.ofList_toList]

/-- The slice between two bytes at which a text is divided. -/
theorem slice?_of_parts {text : String} {before middle behind : List Char}
    (parts : text.toList = before ++ middle ++ behind) :
    slice? text (byteLength before) (byteLength (before ++ middle)) = some (String.ofList middle) :=
  slice?_eq_some_iff.mpr ⟨before, behind, by rw [String.toList_ofList, parts], rfl,
    by rw [String.toList_ofList]⟩

/-- The slice from a byte to the end. -/
theorem slice?_to_end {text : String} {before behind : List Char}
    (parts : text.toList = before ++ behind) :
    slice? text (byteLength before) text.utf8ByteSize = some (String.ofList behind) := by
  rw [← byteLength_toList, parts]
  exact slice?_of_parts (by rw [parts, List.append_nil])

end ScriptTree.Text
