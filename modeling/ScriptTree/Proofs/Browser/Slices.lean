import Mathlib.Data.List.TakeWhile
import ScriptTree.Proofs.Browser.Highlight
import ScriptTree.Proofs.Text.Slice

/-! Highlighting by slices. A scan that passes over the characters of a line once, and cuts each
piece from the line by the bytes at which it starts and ends, finds the pieces of the line. No cut
goes beyond the line or through a character. -/

namespace ScriptTree

/-- The characters of a text with the bytes at which they start. -/
def charIndices (start : Nat) : List Char → List (Nat × Char)
  | [] => []
  | c :: cs => (start, c) :: charIndices (start + c.utf8Size) cs

/-- The number of bytes in front of the first place of a character. -/
def byteBefore? (c : Char) (text : List Char) : Option Nat :=
  if c ∈ text then some (byteLength (text.takeWhile (· != c))) else none

namespace Piece

/-- Cuts a piece from a line. -/
def cut? (line : String) (start stop : Nat) (kind : List Char → PieceKind) : Option Piece := do
  let text ← Text.slice? line start stop
  return ⟨kind text.toList, text.toList⟩

/-- Cuts the word that starts at a byte, if one has been begun. -/
def cutWord? (line : String) (begun : Option Nat) (stop : Nat) : Option (List Piece) :=
  begun.toList.mapM fun start => cut? line start stop wordKind

/-- The byte behind the quote that closes the one at a byte, or the end of the line. -/
def quotedEnd? (line : String) (place : Nat) (quote : Char) : Option Nat := do
  let behind ← Text.slice? line (place + 1) line.utf8ByteSize
  return match byteBefore? quote behind.toList with
    | some offset => place + 1 + offset + 1
    | none => line.utf8ByteSize

end Piece

open Piece

/-- Cuts a line into pieces where a word may have been begun. Characters of a name are passed over
until another one shows where the word ends, and behind a string those within it are dropped. -/
def slicesFrom? (line : String) (begun : Option Nat) : List (Nat × Char) → Option (List Piece)
  | [] => cutWord? line begun line.utf8ByteSize
  | (place, c) :: ahead =>
    if CharClass.name.contains c then slicesFrom? line (some (begun.getD place)) ahead
    else do
      let word ← cutWord? line begun place
      if c = '/' ∧ ahead.head?.map Prod.snd = some '/' then
        let comment ← cut? line place line.utf8ByteSize fun _ => .comment
        return word ++ [comment]
      else if c = '"' ∨ c = '\'' then
        let stop ← quotedEnd? line place c
        let string ← cut? line place stop fun _ => .string
        let pieces ← slicesFrom? line none (ahead.dropWhile fun next => next.1 < stop)
        return word ++ string :: pieces
      else
        let sign ← cut? line place (place + c.utf8Size) fun _ =>
          if isBracket c then .bracket else .sign
        let pieces ← slicesFrom? line none ahead
        return word ++ sign :: pieces
termination_by ahead => ahead.length
decreasing_by
  · exact Nat.lt_succ_self _
  · exact Nat.lt_succ_of_le (List.dropWhile_suffix _).length_le
  · exact Nat.lt_succ_self _

/-- Cuts a line into pieces, or fails where a cut is not possible. -/
def slices? (line : String) : Option (List Piece) :=
  slicesFrom? line none (charIndices 0 line.toList)

/-! ### Cuts -/

section Cuts

variable {line : String} {before text behind word rest : List Char}

theorem Piece.cut?_of_parts (parts : line.toList = before ++ text ++ behind)
    (kind : List Char → PieceKind) :
    cut? line (byteLength before) (byteLength (before ++ text)) kind = some ⟨kind text, text⟩ := by
  simp only [cut?, Text.slice?_of_parts parts, String.toList_ofList, bind, Option.bind, pure]

theorem Piece.cut?_to_end (parts : line.toList = before ++ text)
    (kind : List Char → PieceKind) :
    cut? line (byteLength before) line.utf8ByteSize kind = some ⟨kind text, text⟩ := by
  simp only [cut?, Text.slice?_to_end parts, String.toList_ofList, bind, Option.bind, pure]

/-- The byte at which a word in front of some text was begun. -/
def begunAt (before word : List Char) : Option Nat :=
  if word = [] then none else some (byteLength before)

/-- The piece of a word, or none where there is no word. -/
def Piece.ofWord (word : List Char) : List Piece :=
  if word = [] then [] else [⟨wordKind word, word⟩]

theorem Piece.cutWord?_of_parts (parts : line.toList = before ++ word ++ behind) :
    cutWord? line (begunAt before word) (byteLength (before ++ word)) = some (ofWord word) := by
  unfold cutWord? begunAt ofWord
  split
  · rfl
  · simp only [Option.toList_some, List.mapM_cons, List.mapM_nil, cut?_of_parts parts, bind,
      Option.bind, pure]

theorem highlight_ofWord (named : word.all CharClass.name.contains = true)
    (stop : ∀ c ∈ rest.head?, CharClass.name.contains c = false) :
    highlight (word ++ rest) = Piece.ofWord word ++ highlight rest := by
  unfold Piece.ofWord
  split
  · rename_i none
    rw [none]
    rfl
  · rename_i filled
    exact highlight_word filled named stop

end Cuts

/-! ### Strings -/

section Strings

variable {line : String} {quote : Char} {before content rest : List Char}

/-- A quote that is not closed begins a string to the end of the line. -/
theorem highlight_unclosed (mark : quote ∈ ['"', '\'']) (inside : quote ∉ content) :
    highlight (quote :: content) = [⟨.string, quote :: content⟩] := by
  obtain ⟨-, unnamed, other⟩ := of_mem_quotes quote mark
  have all := all_ne_of_not_mem inside
  have none : content.dropWhile (· != quote) = [] :=
    List.dropWhile_eq_nil_iff.mpr (List.all_eq_true.mp all)
  rw [highlight, if_neg (by simp [unnamed]), if_neg fun both => other both.1,
    if_pos (by simpa using mark)]
  split
  · rfl
  · rename_i dropped
    rw [none] at dropped
    cases dropped

theorem byteBefore?_of_mem (inside : quote ∉ content) :
    byteBefore? quote (content ++ quote :: rest) = some (byteLength content) := by
  have stop : ∀ c ∈ (quote :: rest).head?, (c != quote) = false := by simp
  rw [byteBefore?, if_pos (by simp), takeWhile_append_stop (all_ne_of_not_mem inside) stop]

theorem byteLength_concat (text : List Char) (c : Char) :
    byteLength (text ++ [c]) = byteLength text + c.utf8Size := by
  rw [byteLength_append, byteLength, byteLength, Nat.add_zero]

theorem Piece.slice_behind_quote (mark : quote ∈ ['"', '\''])
    (parts : line.toList = before ++ quote :: rest) :
    Text.slice? line (byteLength before + 1) line.utf8ByteSize = some (.ofList rest) := by
  have parts' : line.toList = (before ++ [quote]) ++ rest := by simp [parts]
  rw [← (of_mem_quotes quote mark).1, ← byteLength_concat]
  exact Text.slice?_to_end parts'

theorem Piece.quotedEnd?_of_closed (mark : quote ∈ ['"', '\'']) (inside : quote ∉ content)
    (parts : line.toList = before ++ quote :: (content ++ quote :: rest)) :
    quotedEnd? line (byteLength before) quote =
      some (byteLength (before ++ (quote :: content ++ [quote]))) := by
  have size := (of_mem_quotes quote mark).1
  simp only [quotedEnd?, slice_behind_quote mark parts, String.toList_ofList,
    byteBefore?_of_mem inside, byteLength_append, byteLength, size, bind, Option.bind, pure]
  congr 1
  omega

theorem Piece.quotedEnd?_of_unclosed (mark : quote ∈ ['"', '\'']) (inside : quote ∉ content)
    (parts : line.toList = before ++ quote :: content) :
    quotedEnd? line (byteLength before) quote = some line.utf8ByteSize := by
  simp only [quotedEnd?, slice_behind_quote mark parts, String.toList_ofList, byteBefore?,
    if_neg inside, bind, Option.bind, pure]

end Strings

/-! ### The scan -/

/-- Dropping the characters that start before a byte keeps those that start there and behind. -/
theorem dropWhile_charIndices (start : Nat) (passed rest : List Char) :
    (charIndices start (passed ++ rest)).dropWhile
        (fun next => next.1 < start + byteLength passed) =
      charIndices (start + byteLength passed) rest := by
  induction passed generalizing start with
  | nil =>
    cases rest with
    | nil => rfl
    | cons c cs => simp [charIndices, byteLength]
  | cons c cs ih =>
    have first : start < start + byteLength (c :: cs) := by
      have := c.utf8Size_pos
      rw [byteLength]
      omega
    rw [List.cons_append, charIndices, List.dropWhile_cons_of_pos (by simpa using first)]
    rw [byteLength, ← Nat.add_assoc]
    exact ih (start + c.utf8Size)

theorem head?_charIndices (start : Nat) (text : List Char) :
    (charIndices start text).head?.map Prod.snd = text.head? := by
  cases text <;> rfl

section Scan

variable {line : String} {c quote : Char} {before word content cs rest : List Char}

@[simp] theorem cutWord?_none (stop : Nat) : cutWord? line none stop = some [] :=
  rfl

/-- At a character of a name, the word in front of it goes on, or one is begun. -/
theorem slicesFrom?_letter (letter : CharClass.name.contains c = true) (cs : List Char) :
    slicesFrom? line (begunAt before word) (charIndices (byteLength (before ++ word)) (c :: cs)) =
      slicesFrom? line (begunAt before (word ++ [c]))
        (charIndices (byteLength (before ++ (word ++ [c]))) cs) := by
  have begun : some ((begunAt before word).getD (byteLength (before ++ word))) =
      begunAt before (word ++ [c]) := by
    unfold begunAt
    by_cases none : word = [] <;> simp [none]
  rw [charIndices, slicesFrom?, if_pos letter, begun, ← byteLength_concat, List.append_assoc]

/-- A word that has been begun is cut where its characters end. -/
theorem slicesFrom?_word (parts : line.toList = before ++ word ++ rest)
    (stop : ∀ c ∈ rest.head?, CharClass.name.contains c = false) :
    slicesFrom? line (begunAt before word) (charIndices (byteLength (before ++ word)) rest) =
      (slicesFrom? line none (charIndices (byteLength (before ++ word)) rest)).map
        (ofWord word ++ ·) := by
  cases rest with
  | nil =>
    have whole : line.utf8ByteSize = byteLength (before ++ word) := by
      rw [← byteLength_toList, parts, List.append_nil]
    rw [charIndices, slicesFrom?, slicesFrom?, whole, cutWord?_of_parts parts]
    simp
  | cons c cs =>
    have unnamed := stop c rfl
    simp only [charIndices, slicesFrom?, unnamed, cutWord?_of_parts parts, cutWord?_none,
      Option.bind_eq_bind, Option.bind_some, Option.pure_def, Bool.false_eq_true, if_false]
    split
    · simp [Option.map_bind]
    · split <;> simp [Option.map_bind]

theorem slicesFrom?_comment (parts : line.toList = before ++ '/' :: '/' :: rest) :
    slicesFrom? line none (charIndices (byteLength before) ('/' :: '/' :: rest)) =
      some [⟨.comment, '/' :: '/' :: rest⟩] := by
  rw [charIndices, slicesFrom?, if_neg (by decide), cutWord?_none, Option.bind_eq_bind,
    Option.bind_some, if_pos ⟨rfl, head?_charIndices ..⟩, cut?_to_end parts]
  rfl

theorem slicesFrom?_sign (sign : Piece.isSign c = true)
    (single : ¬(c = '/' ∧ cs.head? = some '/')) (parts : line.toList = before ++ [c] ++ cs) :
    slicesFrom? line none (charIndices (byteLength before) (c :: cs)) =
      (slicesFrom? line none (charIndices (byteLength (before ++ [c])) cs)).map
        (Piece.ofSign c :: ·) := by
  simp only [Piece.isSign, Bool.and_eq_true, Bool.not_eq_true', decide_eq_true_eq] at sign
  obtain ⟨unnamed, unquoted⟩ := sign
  rw [charIndices, slicesFrom?, if_neg (by simp [unnamed]), cutWord?_none, Option.bind_eq_bind,
    Option.bind_some, head?_charIndices, if_neg single, if_neg (by simpa using unquoted),
    ← byteLength_concat, cut?_of_parts parts, Option.bind_eq_bind, Option.bind_some,
    Option.map_eq_bind]
  rfl

section Quoted

variable (mark : quote ∈ ['"', '\'']) (inside : quote ∉ content)
include mark

/-- At a quote, a string is cut, and the characters within it are dropped. -/
theorem slicesFrom?_quote (cs : List Char) :
    slicesFrom? line none (charIndices (byteLength before) (quote :: cs)) = do
      let stop ← quotedEnd? line (byteLength before) quote
      let string ← cut? line (byteLength before) stop fun _ => .string
      let pieces ← slicesFrom? line none
        ((charIndices (byteLength (before ++ [quote])) cs).dropWhile fun next => next.1 < stop)
      return string :: pieces := by
  obtain ⟨-, unnamed, other⟩ := of_mem_quotes quote mark
  rw [charIndices, slicesFrom?, if_neg (by simp [unnamed]), cutWord?_none, Option.bind_eq_bind,
    Option.bind_some, if_neg fun both => other both.1, if_pos (by simpa using mark),
    ← byteLength_concat]
  rfl

include inside

theorem slicesFrom?_quoted
    (parts : line.toList = before ++ (quote :: content ++ [quote]) ++ rest) :
    slicesFrom? line none (charIndices (byteLength before) (quote :: content ++ quote :: rest)) =
      (slicesFrom? line none
        (charIndices (byteLength (before ++ (quote :: content ++ [quote]))) rest)).map
          (⟨.string, quote :: content ++ [quote]⟩ :: ·) := by
  have opened : line.toList = before ++ quote :: (content ++ quote :: rest) := by simp [parts]
  have skipped := dropWhile_charIndices (byteLength (before ++ [quote])) (content ++ [quote]) rest
  rw [← byteLength_append, List.append_assoc content, List.append_assoc before,
    List.singleton_append, List.singleton_append] at skipped
  rw [List.cons_append, slicesFrom?_quote mark, quotedEnd?_of_closed mark inside opened]
  simp only [List.cons_append] at parts skipped ⊢
  simp only [Option.bind_eq_bind, Option.bind_some, cut?_of_parts parts, skipped,
    Option.map_eq_bind]
  rfl

theorem slicesFrom?_unclosed (parts : line.toList = before ++ quote :: content) :
    slicesFrom? line none (charIndices (byteLength before) (quote :: content)) =
      some [⟨.string, quote :: content⟩] := by
  have skipped := dropWhile_charIndices (byteLength (before ++ [quote])) content []
  rw [List.append_nil, ← byteLength_append, List.append_assoc, List.singleton_append, ← parts,
    byteLength_toList] at skipped
  rw [slicesFrom?_quote mark, quotedEnd?_of_unclosed mark inside parts]
  simp only [Option.bind_eq_bind, Option.bind_some, cut?_to_end parts, skipped]
  rw [charIndices, slicesFrom?, cutWord?_none]
  rfl

end Quoted

/-- Where no word has been begun, the scan finds the pieces of what is left of a line if it finds
those of all shorter rests. -/
theorem slicesFrom?_none (parts : line.toList = before ++ rest)
    (stop : ∀ c ∈ rest.head?, CharClass.name.contains c = false)
    (shorter : ∀ before' behind, behind.length < rest.length → line.toList = before' ++ behind →
      slicesFrom? line none (charIndices (byteLength before') behind) = some (highlight behind)) :
    slicesFrom? line none (charIndices (byteLength before) rest) = some (highlight rest) := by
  match rest with
  | [] => rw [charIndices, slicesFrom?, highlight, cutWord?_none]
  | c :: cs =>
    by_cases comment : c = '/' ∧ cs.head? = some '/'
    · obtain ⟨rfl, second⟩ := comment
      obtain ⟨text, rfl⟩ := List.head?_eq_some_iff.mp second
      rw [slicesFrom?_comment parts, highlight_comment]
    by_cases mark : c ∈ ['"', '\'']
    · by_cases closed : c ∈ cs
      · obtain ⟨content, behind, rfl, inside⟩ := List.eq_append_cons_of_mem closed
        have parts' : line.toList = before ++ (c :: content ++ [c]) ++ behind := by simp [parts]
        have fewer : behind.length < (c :: (content ++ c :: behind)).length := by
          simp only [List.length_cons, List.length_append]
          omega
        rw [← List.cons_append, slicesFrom?_quoted mark inside parts',
          shorter _ behind fewer parts', highlight_quoted mark inside, Option.map_some]
      · rw [slicesFrom?_unclosed mark closed parts, highlight_unclosed mark closed]
    · have sign : Piece.isSign c = true := by
        rw [Piece.isSign, stop c rfl]
        exact decide_eq_true mark
      have parts' : line.toList = before ++ [c] ++ cs := by simp [parts]
      rw [slicesFrom?_sign sign comment parts', shorter _ cs (Nat.lt_succ_self _) parts',
        highlight_sign sign comment, Option.map_some]

/-- The scan finds the pieces of what is left of a line, with the word in front of it. -/
theorem slicesFrom?_eq_highlight (parts : line.toList = before ++ word ++ rest)
    (named : word.all CharClass.name.contains = true) :
    slicesFrom? line (begunAt before word) (charIndices (byteLength (before ++ word)) rest) =
      some (highlight (word ++ rest)) := by
  induction length : rest.length using Nat.strong_induction_on generalizing before word rest with
  | h n ih =>
    subst length
    -- Only a character of a name leaves a word open; behind any other piece none has been begun.
    by_cases letter : ∃ c cs, rest = c :: cs ∧ CharClass.name.contains c = true
    · obtain ⟨c, cs, rfl, letter⟩ := letter
      have parts' : line.toList = before ++ (word ++ [c]) ++ cs := by simp [parts]
      have named' : (word ++ [c]).all CharClass.name.contains = true := by
        rw [List.all_append, named, List.all_cons, letter]
        rfl
      rw [slicesFrom?_letter letter, ih _ (Nat.lt_succ_self _) parts' named' rfl,
        List.append_assoc, List.singleton_append]
    · have stop : ∀ c ∈ rest.head?, CharClass.name.contains c = false := by
        intro c first
        obtain ⟨cs, rfl⟩ := List.head?_eq_some_iff.mp first
        exact Bool.eq_false_iff.mpr fun named => letter ⟨c, cs, rfl, named⟩
      have here : slicesFrom? line none (charIndices (byteLength (before ++ word)) rest) =
          some (highlight rest) := by
        refine slicesFrom?_none parts stop fun before' behind fewer parts' => ?_
        have whole : line.toList = before' ++ [] ++ behind := by rw [parts', List.append_nil]
        have fresh := ih _ fewer whole rfl rfl
        rwa [List.append_nil] at fresh
      rw [slicesFrom?_word parts stop, here, Option.map_some, highlight_ofWord named stop]

end Scan

theorem slices?_eq_highlight (line : String) : slices? line = some (highlight line.toList) := by
  have parts : line.toList = [] ++ [] ++ line.toList := rfl
  exact slicesFrom?_eq_highlight parts rfl

/-- No piece is empty. -/
theorem Piece.text_ne_nil (line : List Char) :
    ∀ piece ∈ highlight line, piece.text ≠ [] := by
  fun_induction highlight line with
  | case1 => simp
  | case2 c cs named word ih => simpa using ih
  | case3 c cs unnamed slashes => simp
  | case4 c cs unnamed slash quote dropped => simp
  | case5 c cs unnamed slash quote close rest dropped shorter ih => simpa using ih
  | case6 c cs unnamed slash unquoted ih => simpa using ih

/-- The spans of a line are not empty, and put together they are the line. The scan cuts each of
them, and whatever else it looks at, from the line at starts of characters. -/
theorem highlight_preserves_text (line : String) :
    slices? line = some (highlight line.toList) ∧
      String.join ((highlight line.toList).map fun piece => piece.span.text) = line ∧
      ∀ piece ∈ highlight line.toList, piece.span.text ≠ "" := by
  refine ⟨slices?_eq_highlight line, ?_, ?_⟩
  · rw [join_highlight, String.ofList_toList]
  · intro piece listed empty
    exact Piece.text_ne_nil _ piece listed (String.ofList_eq_empty_iff.mp empty)

example : slices? "x='ä/'//é" = some [⟨.name, ['x']⟩, ⟨.sign, ['=']⟩,
    ⟨.string, ['\'', 'ä', '/', '\'']⟩, ⟨.comment, ['/', '/', 'é']⟩] := by
  decide +kernel

end ScriptTree
