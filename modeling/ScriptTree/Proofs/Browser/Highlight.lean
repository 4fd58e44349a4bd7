import ScriptTree.Browser.Highlight
import ScriptTree.Proofs.Token.Extent

/-! Highlighting follows the tokens. A line that can be read without a lexical error, and in which
no word stands directly behind a number, is highlighted segment by segment: words, strings and
comments are single pieces, and all else is drawn character by character. -/

namespace ScriptTree

open Extent

variable {c : Char} {cs text rest : List Char}

/-! ### Pieces -/

/-- A character that is a piece of its own where no comment begins: it is neither part of a name nor
a quote. -/
def Piece.isSign (c : Char) : Bool :=
  !CharClass.name.contains c && c ∉ ['"', '\'']

def Piece.ofSign (c : Char) : Piece :=
  ⟨if isBracket c then .bracket else .sign, [c]⟩

/-- The pieces of a line put together are the line. -/
theorem flatMap_highlight (line : List Char) : (highlight line).flatMap Piece.text = line := by
  fun_induction highlight line with
  | case1 => rfl
  | case2 c cs named word ih =>
    rw [List.flatMap_cons, ih]
    exact congrArg (c :: ·) List.takeWhile_append_dropWhile
  | case3 c cs unnamed slashes => exact List.append_nil _
  | case4 c cs unnamed slash quote dropped => exact List.append_nil _
  | case5 c cs unnamed slash quote close rest dropped shorter ih =>
    rw [List.flatMap_cons, ih]
    simp [← dropped, List.takeWhile_append_dropWhile]
  | case6 c cs unnamed slash unquoted ih =>
    rw [List.flatMap_cons, ih]
    rfl

/-- The texts of the spans put together are the line. -/
theorem join_highlight (line : List Char) :
    String.join ((highlight line).map fun piece => piece.span.text) = String.ofList line := by
  have spelled : (fun piece : Piece => piece.span.text.toList) = Piece.text :=
    funext fun _ => String.toList_ofList
  rw [← String.toList_inj, String.toList_join, List.flatMap_map, spelled, flatMap_highlight,
    String.toList_ofList]

theorem highlight_word (filled : text ≠ []) (all : text.all CharClass.name.contains = true)
    (stop : ∀ c ∈ rest.head?, CharClass.name.contains c = false) :
    highlight (text ++ rest) = ⟨Piece.wordKind text, text⟩ :: highlight rest := by
  cases text with
  | nil => contradiction
  | cons c cs =>
    rw [List.all_cons, Bool.and_eq_true] at all
    rw [List.cons_append, highlight, if_pos all.1]
    simp only [takeWhile_append_stop all.2 stop, dropWhile_append_stop all.2 stop]

theorem highlight_comment (line : List Char) :
    highlight ('/' :: '/' :: line) = [⟨.comment, '/' :: '/' :: line⟩] := by
  rw [highlight, if_neg (by decide), if_pos ⟨rfl, rfl⟩]

theorem highlight_quoted {quote : Char} {content : List Char} (mark : quote ∈ ['"', '\''])
    (inside : quote ∉ content) (rest : List Char) : highlight (quote :: content ++ quote :: rest) =
      ⟨.string, quote :: content ++ [quote]⟩ :: highlight rest := by
  have all := all_ne_of_not_mem inside
  have stop : ∀ c ∈ (quote :: rest).head?, (c != quote) = false := by simp
  obtain ⟨-, unnamed, other⟩ := of_mem_quotes quote mark
  rw [List.cons_append, highlight, if_neg (by simp [unnamed]), if_neg fun both => other both.1,
    if_pos (by simpa using mark)]
  split
  · rename_i dropped
    rw [dropWhile_append_stop all stop] at dropped
    cases dropped
  · rename_i dropped
    rw [dropWhile_append_stop all stop] at dropped
    cases dropped
    rw [takeWhile_append_stop all stop]

theorem highlight_sign (sign : Piece.isSign c = true)
    (single : ¬(c = '/' ∧ cs.head? = some '/')) :
    highlight (c :: cs) = Piece.ofSign c :: highlight cs := by
  simp only [Piece.isSign, Bool.and_eq_true, Bool.not_eq_true', decide_eq_true_eq] at sign
  obtain ⟨unnamed, unquoted⟩ := sign
  rw [highlight, if_neg (by simp [unnamed]), if_neg single, if_neg (by simpa using unquoted)]
  rfl

theorem highlight_signs (signs : text.all Piece.isSign = true) (slash : '/' ∉ text)
    (rest : List Char) : highlight (text ++ rest) = text.map Piece.ofSign ++ highlight rest := by
  induction text with
  | nil => rfl
  | cons c cs ih =>
    rw [List.all_cons, Bool.and_eq_true] at signs
    rw [List.mem_cons, not_or] at slash
    have single : ¬(c = '/' ∧ (cs ++ rest).head? = some '/') := fun both => slash.1 both.1.symm
    rw [List.cons_append, highlight_sign signs.1 single, ih signs.2 slash.2]
    rfl

/-! ### Segments -/

/-- The kind of piece that a token of some kind is drawn as, if it is drawn as one piece. -/
def TokenKind.pieceKind? : TokenKind → Option PieceKind
  | kwInt | kwIf | kwElse | kwWhile | kwDo | kwFor => some .keyword
  | number | kwTrue | kwFalse | kwNull => some .constant
  | identifier => some .name
  | string => some .string
  | _ => none

namespace Segment

/-- Whether a segment is a token of one of some kinds. -/
def hasKind (kinds : List TokenKind) : Segment → Bool
  | token t => kinds.contains t.kind
  | skipped _ => false

/-- Whether a segment is a comment. -/
def isComment : Segment → Bool
  | token _ => false
  | skipped text => ['/', '/'].isPrefixOf text

def pieceKind? : Segment → Option PieceKind
  | token t => t.kind.pieceKind?
  | skipped text => if isComment (skipped text) then some .comment else none

/-- The pieces that a segment is drawn as. -/
def pieces (segment : Segment) : List Piece :=
  match segment.pieceKind? with
  | some kind => [⟨kind, segment.chars⟩]
  | none => segment.chars.map Piece.ofSign

end Segment

/-- Keywords are words, and they are coloured as their kind says. -/
theorem word_of_keyword : ∀ word ∈ TokenKind.keywords, ∀ text ∈ word.texts,
    text.toList ≠ [] ∧ text.toList.all CharClass.name.contains = true ∧
      word.pieceKind? = some (Piece.wordKind text.toList) := by
  decide

theorem wordKind_of_digit (digit : c.isDigit = true) :
    Piece.wordKind (c :: cs) = .constant := by
  have letters : ∀ word ∈ Piece.keywords ++ Piece.constants,
      word.head?.any Char.isDigit = false := by
    decide
  have other : c :: cs ∉ Piece.keywords ++ Piece.constants := by
    intro listed
    exact absurd (digit.symm.trans (letters _ listed)) (by decide)
  rw [List.mem_append, not_or] at other
  rw [Piece.wordKind, if_neg other.1, if_neg other.2, if_pos (by simpa using digit)]

theorem wordKind_of_name (letter : ∀ c ∈ text.head?, c.isDigit = false)
    (no_keyword : ∀ word ∈ TokenKind.keywords, String.ofList text ∉ word.texts) :
    Piece.wordKind text = .name := by
  have spelled : ∀ text ∈ Piece.keywords ++ Piece.constants, ∃ word ∈ TokenKind.keywords,
      String.ofList text ∈ word.texts := by
    decide
  have other : text ∉ Piece.keywords ++ Piece.constants := by
    intro listed
    obtain ⟨word, keyword, same⟩ := spelled text listed
    exact no_keyword word keyword same
  rw [List.mem_append, not_or] at other
  rw [Piece.wordKind, if_neg other.1, if_neg other.2, if_neg]
  intro digit
  obtain ⟨c, head, digit⟩ := (Option.any_eq_true ..).mp digit
  exact absurd (digit.symm.trans (letter c head)) (by decide)

theorem signs_of_symbol : ∀ kind ∈ TokenKind.all, kind ∉ TokenKind.keywords →
    kind ∉ TokenKind.varied → kind.pieceKind? = none ∧
      ∀ text ∈ kind.texts, text.toList.all Piece.isSign = true ∧ '/' ∉ text.toList.tail := by
  decide

namespace Segment

variable {kind : TokenKind}

/-- The pieces of a segment are its text. -/
theorem flatMap_pieces (segment : Segment) :
    segment.pieces.flatMap Piece.text = segment.chars := by
  rw [pieces]
  split
  · exact List.append_nil _
  · simp [Piece.ofSign, List.flatMap_map]

theorem pieces_of_pieceKind {segment : Segment} {drawn : PieceKind}
    (known : segment.pieceKind? = some drawn) : segment.pieces = [⟨drawn, segment.chars⟩] := by
  rw [pieces, known]

/-- Pieces that are no brackets or signs come from segments that are drawn as one piece. -/
theorem kind_of_mem_pieces {segment : Segment} {drawn : PieceKind} {piece : Piece}
    (large : drawn ∉ [.bracket, .sign]) (listed : piece ∈ segment.pieces)
    (same : piece.kind = drawn) : segment.pieceKind? = some drawn := by
  rw [pieces] at listed
  split at listed <;> rename_i known
  · rw [List.mem_singleton] at listed
    rw [known, ← same, listed]
  · obtain ⟨c, _, rfl⟩ := List.mem_map.mp listed
    refine absurd ?_ large
    rw [← same, Piece.ofSign]
    split <;> simp

theorem pieceKind_eq_hasKind {drawn : PieceKind} {kinds : List TokenKind} (quiet : drawn ≠ .comment)
    (same : ∀ kind ∈ TokenKind.all, (kind.pieceKind? == some drawn) = kinds.contains kind)
    (segment : Segment) : (segment.pieceKind? == some drawn) = segment.hasKind kinds := by
  cases segment with
  | token t => exact same t.kind t.kind.mem_all
  | skipped text =>
    rw [pieceKind?, hasKind]
    split
    · simpa using quiet.symm
    · rfl

theorem pieceKind_eq_comment (segment : Segment) :
    (segment.pieceKind? == some .comment) = segment.isComment := by
  cases segment with
  | token t =>
    have loud : ∀ kind ∈ TokenKind.all, (kind.pieceKind? == some .comment) = false := by decide
    exact loud t.kind t.kind.mem_all
  | skipped text =>
    rw [pieceKind?]
    split <;> simp_all

theorem pieces_of_some {drawn : PieceKind} (known : kind.pieceKind? = some drawn)
    (text : List Char) : (token ⟨kind, String.ofList text⟩).pieces = [⟨drawn, text⟩] := by
  simp [pieces, pieceKind?, known, chars]

theorem pieces_of_none (unknown : kind.pieceKind? = none) (text : List Char) :
    (token ⟨kind, String.ofList text⟩).pieces = text.map Piece.ofSign := by
  simp [pieces, pieceKind?, unknown, chars]

end Segment

/-- Where a token is read, no comment begins. -/
theorem ne_comment_of_token {taken : List Char} {kind : TokenKind} (single : '\n' ∉ cs)
    (matched : firstMatch? cs = some ⟨some kind, taken, rest⟩) (line : List Char) :
    cs ≠ '/' :: '/' :: line := by
  rintro rfl
  have inside : '\n' ∉ line := fun listed => single (by simp [listed])
  have comment : firstMatch? ('/' :: '/' :: (line ++ [])) = some ⟨none, '/' :: '/' :: line, []⟩ :=
    firstMatch?_comment inside nofun
  rw [List.append_nil, matched] at comment
  cases comment

/-- A token in a line is drawn as its pieces, if no word stands directly behind a number. -/
theorem highlight_token {taken : List Char} {kind : TokenKind} (single : '\n' ∉ cs)
    (matched : firstMatch? cs = some ⟨some kind, taken, rest⟩)
    (proper : Token.Proper ⟨kind, String.ofList taken⟩)
    (apart : kind = .number → ∀ c ∈ rest.head?, CharClass.name.contains c = false) :
    highlight cs = (Segment.token ⟨kind, String.ofList taken⟩).pieces ++ highlight rest := by
  have whole : taken ++ rest = cs := firstMatch?_append matched
  have spelled : kind.Spells (String.ofList taken) := proper.spelled
  by_cases varied : kind ∈ TokenKind.varied
  · simp only [TokenKind.varied, List.mem_cons, List.not_mem_nil, or_false] at varied
    rcases varied with rfl | rfl | rfl
    · obtain ⟨filled, digits⟩ := spelled
      rw [String.toList_ofList] at filled digits
      have named : taken.all CharClass.name.contains = true := by
        rw [List.all_eq_true] at digits ⊢
        exact fun c listed => CharClass.name_of_digit (digits c listed)
      obtain ⟨c, cs, rfl⟩ := List.exists_cons_of_ne_nil filled
      have first : c.isDigit = true := List.all_eq_true.mp digits c List.mem_cons_self
      rw [Segment.pieces_of_some rfl, ← whole, highlight_word filled named (apart rfl),
        wordKind_of_digit first]
      rfl
    · obtain ⟨quote, mark, content, inside, shape⟩ := spelled
      rw [String.toList_ofList] at shape
      rw [Segment.pieces_of_some rfl, ← whole, shape, List.append_assoc]
      exact highlight_quoted mark inside rest
    · obtain ⟨filled, named, letter⟩ := spelled
      rw [String.toList_ofList] at filled named letter
      rw [Segment.pieces_of_some rfl, ← whole, highlight_word filled named (stop_of_name matched),
        wordKind_of_name letter (proper.no_keyword rfl)]
      rfl
  · have listed := (TokenKind.spells_iff varied).mp spelled
    by_cases keyword : kind ∈ TokenKind.keywords
    · obtain ⟨filled, named, known⟩ := word_of_keyword kind keyword _ listed
      rw [String.toList_ofList] at filled named known
      rw [Segment.pieces_of_some known, ← whole,
        highlight_word filled named (stop_of_keyword keyword matched)]
      rfl
    · obtain ⟨unknown, signs⟩ := signs_of_symbol kind kind.mem_all keyword varied
      obtain ⟨signs, slash⟩ := signs _ listed
      rw [String.toList_ofList] at signs slash
      rw [Segment.pieces_of_none unknown, ← whole]
      cases taken with
      | nil => rfl
      | cons c more =>
        rw [List.all_cons, Bool.and_eq_true] at signs
        -- Two slashes would have been skipped as a comment.
        have front : ¬(c = '/' ∧ (more ++ rest).head? = some '/') := by
          rintro ⟨rfl, second⟩
          obtain ⟨line, shape⟩ := List.head?_eq_some_iff.mp second
          refine ne_comment_of_token single matched line ?_
          rw [← whole, List.cons_append, shape]
        rw [List.cons_append, highlight_sign signs.1 front, highlight_signs signs.2 slash]
        rfl

/-- What is skipped in a line is drawn as its pieces. -/
theorem highlight_skipped (skipped : Skipped text rest) (single : '\n' ∉ rest) :
    highlight (text ++ rest) = (Segment.skipped text).pieces ++ highlight rest := by
  cases skipped with
  | blanks _ blank =>
    have absent (c : Char) (visible : Text.isBlank c = false) : c ∉ text := by
      intro listed
      exact absurd ((blank c listed).symm.trans visible) (by decide)
    have slash : '/' ∉ text := absent '/' (by decide)
    have signs : text.all Piece.isSign = true := by
      refine List.all_eq_true.mpr fun c listed => ?_
      have unnamed : CharClass.name.contains c = false := by
        apply Bool.eq_false_iff.mpr
        intro named
        have visible := CharClass.not_blank_of_name named
        exact absurd ((blank c listed).symm.trans visible) (by decide)
      have unquoted : c ∉ ['"', '\''] := by
        simp only [List.mem_cons, List.not_mem_nil, or_false, not_or]
        constructor <;> rintro rfl <;> exact absent _ (by decide) listed
      simp only [Piece.isSign, unnamed, Bool.not_false, Bool.true_and]
      exact decide_eq_true unquoted
    have plain : (Segment.skipped text).isComment = false := by
      apply Bool.eq_false_iff.mpr
      intro comment
      obtain ⟨line, rfl⟩ := List.isPrefixOf_iff_prefix.mp comment
      exact slash List.mem_cons_self
    rw [highlight_signs signs slash, Segment.pieces, Segment.pieceKind?, plain]
    rfl
  | @comment line _ inside ends =>
    cases rest with
    | nil => simp [highlight_comment, highlight, Segment.pieces, Segment.pieceKind?,
        Segment.isComment, Segment.chars]
    | cons c cs => exact absurd (ends c rfl ▸ List.mem_cons_self) single

/-! ### Lines -/

/-- The kinds of words. -/
def TokenKind.words : List TokenKind :=
  identifier :: keywords

/-- At a character of a name that is no digit, a word is read. -/
theorem kind_of_name {found : Match} (named : CharClass.name.contains c = true)
    (letter : c.isDigit = false) (matched : firstMatch? (c :: cs) = some found) :
    ∃ word ∈ TokenKind.words, found.kind = some word := by
  have each : ∀ n < 128, CharClass.name.contains (Char.ofNat n) = true →
      (Char.ofNat n).isDigit = false → ∀ rule ∈ rules,
        rule.pattern.canStart (Char.ofNat n) = true →
          ∃ word ∈ TokenKind.words, rule.kind = some word := by
    decide +kernel
  have known := Text.ascii_induction (p := fun c => CharClass.name.contains c = true →
    c.isDigit = false → ∀ rule ∈ rules, rule.pattern.canStart c = true →
      ∃ word ∈ TokenKind.words, rule.kind = some word) each (CharClass.toNat_of_name named)
  obtain ⟨rule, listed, applied⟩ := exists_rule_of_firstMatch? matched
  obtain ⟨split, produces⟩ := Rule.split?_of_match? applied
  rw [← produces]
  exact known named letter rule listed (Pattern.canStart_of_split? split)

/-- No word stands directly behind a number. -/
def NumbersApart (extents : List (Extent Segment)) : Prop :=
  ∀ first ∈ extents, ∀ second ∈ extents, first.part.hasKind [.number] = true →
    first.stop = second.start → second.part.hasKind TokenKind.words = false

instance (extents : List (Extent Segment)) : Decidable (NumbersApart extents) :=
  inferInstanceAs (Decidable (∀ first ∈ extents, ∀ second ∈ extents, _ → _ → _))

theorem NumbersApart.of_cons {extent : Extent Segment} {extents : List (Extent Segment)}
    (apart : NumbersApart (extent :: extents)) : NumbersApart extents :=
  fun first listed second listed' =>
    apart first (List.mem_cons_of_mem _ listed) second (List.mem_cons_of_mem _ listed')

namespace Scanner

/-- Where no word stands directly behind a number, no character of a name does. -/
theorem stop_of_numbersApart {scanner : Scanner} {taken rest : List Char}
    (matched : firstMatch? scanner.rest = some ⟨some .number, taken, rest⟩)
    (faultless : scanner.drain.2 = none) (apart : NumbersApart scanner.extents) :
    ∀ c ∈ rest.head?, CharClass.name.contains c = false := by
  rw [← fault_past matched] at faultless
  rw [extents_of_match matched] at apart
  intro c head
  apply Bool.eq_false_iff.mpr
  intro named
  have letter : c.isDigit = false := stop_of_number matched c head
  obtain ⟨cs, rfl⟩ := List.head?_eq_some_iff.mp head
  cases matched' : firstMatch? (c :: cs) with
  | none =>
    rw [drain_stuck rfl matched'] at faultless
    cases faultless
  | some found =>
    -- The next segment is a word, and it starts where the number stops.
    obtain ⟨word, known, names⟩ := kind_of_name named letter matched'
    have next : firstMatch? (scanner.past ⟨some .number, taken, c :: cs⟩).rest = some found :=
      matched'
    rw [extents_of_match next] at apart
    have other := apart _ List.mem_cons_self _ (List.mem_cons_of_mem _ List.mem_cons_self) rfl rfl
    simp only [Segment.ofMatch, names, Segment.hasKind] at other
    simp [known] at other

/-- A line is highlighted segment by segment. -/
theorem highlight_eq_flatMap (scanner : Scanner) (single : '\n' ∉ scanner.rest)
    (faultless : scanner.drain.2 = none) (apart : NumbersApart scanner.extents) :
    highlight scanner.rest = scanner.extents.flatMap fun extent => extent.part.pieces := by
  induction scanner using match_induction with
  | finished scanner unread =>
    rw [extents_of_none (by rw [unread]; rfl), unread, highlight]
    rfl
  | stuck scanner c cs unread stuck =>
    rw [drain_stuck unread stuck] at faultless
    cases faultless
  | past scanner found matched ih =>
    have whole : found.lexeme ++ found.rest = scanner.rest := firstMatch?_append matched
    have inside : '\n' ∉ found.rest := by
      intro listed
      exact single (whole ▸ List.mem_append_right _ listed)
    have behind : highlight found.rest = _ := ih inside ((fault_past matched).trans faultless)
      (extents_of_match matched ▸ apart).of_cons
    rw [extents_of_match matched, List.flatMap_cons, ← behind]
    obtain ⟨_ | kind, taken, rest⟩ := found
    · rw [← whole]
      exact highlight_skipped (skipped_of_firstMatch? matched) inside
    · have proper : Token.Proper ⟨kind, String.ofList taken⟩ := by
        refine proper_of_drain scanner faultless _ ?_
        rw [drain_token matched rfl]
        exact List.mem_cons_self
      refine highlight_token single matched proper ?_
      rintro rfl
      exact stop_of_numbersApart matched faultless apart

end Scanner

/-! ### Colours -/

section Lines

variable {scanner : Scanner} (single : '\n' ∉ scanner.rest)
    (faultless : scanner.drain.2 = none) (apart : NumbersApart scanner.extents)
include single faultless apart

/-- The pieces of a kind that is not drawn character by character are the segments of this kind. -/
theorem ranges_highlight {kind : PieceKind} (large : kind ∉ [.bracket, .sign]) :
    ranges (fun piece => piece.kind == kind)
      (layOut Piece.text scanner.cursor (highlight scanner.rest)) =
        ranges (fun segment => segment.pieceKind? == some kind) scanner.extents := by
  have divided : highlight scanner.rest =
      (scanner.extents.map Extent.part).flatMap Segment.pieces := by
    rw [scanner.highlight_eq_flatMap single faultless apart, List.flatMap_map]
  conv_rhs => rw [scanner.extents_eq_layOut]
  rw [divided]
  refine ranges_layOut_flatMap ?_ ?_ ?_ scanner.cursor
  · exact fun segment _ => segment.flatMap_pieces
  · intro segment _ same
    exact ⟨_, Segment.pieces_of_pieceKind (eq_of_beq same), beq_self_eq_true kind⟩
  · intro segment _ other piece listed
    apply Bool.eq_false_iff.mpr
    intro same
    rw [Segment.kind_of_mem_pieces large listed (eq_of_beq same)] at other
    simp at other

/-- Where a style is that of the pieces of one kind alone, it shows the segments that are drawn as
such pieces. -/
theorem ranges_shown (shows : Screen.Style → Bool) (kind : PieceKind) {sort : Segment → Bool}
    (shown : ∀ other, shows (Piece.style other) = (other == kind))
    (large : kind ∉ [.bracket, .sign])
    (same : ∀ segment : Segment, (segment.pieceKind? == some kind) = sort segment) :
    ranges (fun piece => shows piece.span.style)
      (layOut Piece.text scanner.cursor (highlight scanner.rest)) =
        ranges sort scanner.extents := by
  have pieces : (fun piece : Piece => shows piece.span.style) = fun piece => piece.kind == kind :=
    funext fun piece => shown piece.kind
  rw [pieces, ranges_highlight single faultless apart large, funext same]

/-- A name is drawn as one piece in the style of plain text, and no other piece overlaps it. -/
theorem exists_piece_of_name {name : Extent Segment} (listed : name ∈ scanner.extents)
    (named : name.part.hasKind [.identifier] = true) :
    ∃ piece ∈ layOut Piece.text scanner.cursor (highlight scanner.rest),
      piece.range = name.range ∧ piece.part.span.style = .text Theme.text ∧
        ∀ other ∈ layOut Piece.text scanner.cursor (highlight scanner.rest),
          other ≠ piece → other.Separate piece := by
  have same : ∀ kind ∈ TokenKind.all,
      (kind.pieceKind? == some .name) = [TokenKind.identifier].contains kind := by
    decide
  have whole : (name.part.pieceKind? == some .name) = true :=
    (Segment.pieceKind_eq_hasKind (by decide) same name.part).trans named
  have there : name.range ∈ ranges (fun segment => segment.pieceKind? == some .name)
      scanner.extents :=
    mem_ranges.mpr ⟨name, listed, whole, rfl⟩
  rw [← ranges_highlight single faultless apart (by decide)] at there
  obtain ⟨piece, inside, kind, place⟩ := mem_ranges.mp there
  refine ⟨piece, inside, place, ?_, ?_⟩
  · rw [Piece.span, eq_of_beq kind]
    rfl
  · intro other inside' different
    exact separate_of_mem_layOut inside' inside different

end Lines

/-- A line without lexical errors, in which no word stands directly behind a number, is coloured as
its tokens say: keywords, numbers and constants, strings and comments take the very bytes that are
drawn in their colour, and each name is drawn as one piece in the style of plain text. -/
theorem highlight_follows_tokens {line : String} (single : '\n' ∉ line.toList)
    (faultless : (lex line).2 = none) (apart : NumbersApart (Scanner.start line).extents) :
    let read := (Scanner.start line).extents
    let drawn := layOut Piece.text 0 (highlight line.toList)
    (read.filterMap (fun extent => extent.part.token?) = (lex line).1 ∧
      read.flatMap (fun extent => extent.part.chars) = line.toList ∧
      read = layOut Segment.chars 0 (read.map Extent.part) ∧
      (highlight line.toList).flatMap Piece.text = line.toList) ∧
    ranges (fun piece => piece.span.style == .boldText Theme.keyword) drawn =
      ranges (Segment.hasKind [.kwInt, .kwIf, .kwElse, .kwWhile, .kwDo, .kwFor]) read ∧
    ranges (fun piece => piece.span.style.foreground == some Theme.number) drawn =
      ranges (Segment.hasKind [.number, .kwTrue, .kwFalse, .kwNull]) read ∧
    ranges (fun piece => piece.span.style.foreground == some Theme.string) drawn =
      ranges (Segment.hasKind [.string]) read ∧
    ranges (fun piece => piece.span.style.foreground == some Theme.comment) drawn =
      ranges Segment.isComment read ∧
    ∀ name ∈ read, name.part.hasKind [.identifier] = true →
      ∃ piece ∈ drawn, piece.range = name.range ∧ piece.part.span.style = .text Theme.text ∧
        ∀ other ∈ drawn, other ≠ piece → other.Separate piece := by
  intro read drawn
  have divided : (read.filterMap fun extent => extent.part.token?) = (lex line).1 :=
    (Scanner.start line).filterMap_extents
  have whole : (read.flatMap fun extent => extent.part.chars) = line.toList :=
    (Scanner.start line).flatMap_extents faultless
  have placed : read = layOut Segment.chars 0 (read.map Extent.part) :=
    (Scanner.start line).extents_eq_layOut
  have shown := @ranges_shown (.start line) single faultless apart
  refine ⟨⟨divided, whole, placed, flatMap_highlight _⟩, ?_, ?_, ?_, ?_, ?_⟩
  · exact shown (· == .boldText Theme.keyword) .keyword (by rintro ⟨⟩ <;> decide) (by decide)
      (Segment.pieceKind_eq_hasKind (by decide) (by decide))
  · exact shown (·.foreground == some Theme.number) .constant (by rintro ⟨⟩ <;> decide) (by decide)
      (Segment.pieceKind_eq_hasKind (by decide) (by decide))
  · exact shown (·.foreground == some Theme.string) .string (by rintro ⟨⟩ <;> decide) (by decide)
      (Segment.pieceKind_eq_hasKind (by decide) (by decide))
  · exact shown (·.foreground == some Theme.comment) .comment (by rintro ⟨⟩ <;> decide) (by decide)
      Segment.pieceKind_eq_comment
  · intro name listed named
    exact @exists_piece_of_name (.start line) single faultless apart name listed named

/-- Slashes within a string begin no comment, and quotes within a comment no string. -/
theorem highlight_follows_tokens_quotes :
    let line := "if (x1 /= 'ä//b') y = 12; // \"z\" int"
    let drawn := layOut Piece.text 0 (highlight line.toList)
    '\n' ∉ line.toList ∧ (lex line).2 = none ∧ NumbersApart (Scanner.start line).extents ∧
      ranges (fun piece => piece.span.style == .boldText Theme.keyword) drawn = [(0, 2)] ∧
      ranges (fun piece => piece.span.style.foreground == some Theme.number) drawn =
        [(23, 25)] ∧
      ranges (fun piece => piece.span.style.foreground == some Theme.string) drawn =
        [(10, 17)] ∧
      ranges (fun piece => piece.span.style.foreground == some Theme.comment) drawn =
        [(27, 37)] ∧
      ∃ piece ∈ drawn, piece.range = (4, 6) ∧ piece.part.span.style = .text Theme.text := by
  intro line drawn
  have single : '\n' ∉ line.toList := by decide
  have faultless : (lex line).2 = none := by decide +kernel
  have apart : NumbersApart (Scanner.start line).extents := by decide +kernel
  obtain ⟨_, keywords, numbers, strings, comments, names⟩ :=
    highlight_follows_tokens single faultless apart
  have name : ⟨.token ⟨.identifier, "x1"⟩, 4, 6⟩ ∈ (Scanner.start line).extents := by
    decide +kernel
  obtain ⟨piece, listed, place, style, _⟩ := names _ name rfl
  exact ⟨single, faultless, apart, keywords.trans (by decide +kernel),
    numbers.trans (by decide +kernel), strings.trans (by decide +kernel),
    comments.trans (by decide +kernel), piece, listed, place, style⟩

end ScriptTree
