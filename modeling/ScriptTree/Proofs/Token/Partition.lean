import ScriptTree.Proofs.Token.Gap

/-! Scanning divides a text. What a scanner reads and what it skips, one segment after the other, is
the text up to its cursor, and a scanner that is asked again and again comes to the end of the text
or to the first character that starts no token. -/

namespace ScriptTree

/-- A segment of a text: a token, or what is skipped between tokens. -/
inductive Segment where
  | token (token : Token)
  | skipped (text : List Char)
deriving DecidableEq, Repr

namespace Segment

def chars : Segment → List Char
  | token t => t.text.toList
  | skipped text => text

def token? : Segment → Option Token
  | token t => some t
  | skipped _ => none

/-- The segment that a match takes. -/
def ofMatch (found : Match) : Segment :=
  match found.kind with
  | some kind => token ⟨kind, String.ofList found.lexeme⟩
  | none => skipped found.lexeme

/-- Whether a segment can stand in front of a text. -/
def Fits : Segment → List Char → Prop
  | token t, _ => t.Spelled
  | skipped text, rest => Skipped text rest

@[simp] theorem chars_ofMatch (found : Match) : (ofMatch found).chars = found.lexeme := by
  obtain ⟨_ | kind, lexeme, rest⟩ := found
  · rfl
  · exact String.toList_ofList

theorem ofMatch_fits {cs : List Char} {found : Match} (matched : firstMatch? cs = some found) :
    (ofMatch found).Fits found.rest := by
  obtain ⟨_ | kind, lexeme, rest⟩ := found
  · exact skipped_of_firstMatch? matched
  · exact spells_of_firstMatch? matched

end Segment

/-- Segments none of which is empty, and each of which can stand in front of what follows it. -/
inductive Fit (rest : List Char) : List Segment → Prop where
  | nil : Fit rest []
  | cons {segment : Segment} {segments : List Segment} : segment.chars ≠ [] →
      segment.Fits (segments.flatMap Segment.chars ++ rest) → Fit rest segments →
      Fit rest (segment :: segments)

theorem Fit.append {rest : List Char} {segments others : List Segment}
    (first : Fit (others.flatMap Segment.chars ++ rest) segments) (second : Fit rest others) :
    Fit rest (segments ++ others) := by
  induction first with
  | nil => exact second
  | cons some fits _ ih => exact .cons some (by simpa using fits) ih

/-- Between two states of a scanner lie these segments of its text. -/
structure Partition (before after : Scanner) (segments : List Segment) : Prop where
  parts : before.rest = segments.flatMap Segment.chars ++ after.rest
  cursor : after.cursor = before.cursor + byteLength (segments.flatMap Segment.chars)
  fit : Fit after.rest segments

namespace Partition

variable {first second third : Scanner} {segments others : List Segment}

theorem refl (scanner : Scanner) : Partition scanner scanner [] :=
  ⟨rfl, rfl, .nil⟩

theorem trans (left : Partition first second segments) (right : Partition second third others) :
    Partition first third (segments ++ others) where
  parts := by simp [left.parts, right.parts]
  cursor := by simp [left.cursor, right.cursor, Nat.add_assoc]
  fit := .append (right.parts ▸ left.fit) right.fit

theorem past {scanner : Scanner} {found : Match}
    (matched : firstMatch? scanner.rest = some found) :
    Partition scanner (scanner.past found) [.ofMatch found] where
  parts := by simpa [Scanner.past] using (firstMatch?_append matched).symm
  cursor := by simp [Scanner.past]
  fit := .cons (by simpa using firstMatch?_ne_nil matched)
    (by simpa [Scanner.past] using Segment.ofMatch_fits matched) .nil

/-- The segments behind the start of a source end on a character boundary. -/
theorem isValid {source : String} {reached : Scanner}
    (partition : Partition (.start source) reached segments) :
    (⟨reached.cursor⟩ : String.Pos.Raw).IsValid source := by
  have place : reached.cursor = (String.ofList (segments.flatMap Segment.chars)).utf8ByteSize := by
    rw [partition.cursor, byteLength_eq_utf8ByteSize]
    exact Nat.zero_add _
  rw [String.Pos.Raw.isValid_iff_exists_append]
  refine ⟨.ofList (segments.flatMap Segment.chars), .ofList reached.rest, ?_, ?_⟩
  · rw [← String.ofList_append, ← partition.parts]
    exact String.ofList_toList.symm
  · exact congrArg String.Pos.Raw.mk place

end Partition

namespace Scanner

variable {scanner : Scanner}

/-! ### One token -/

/-- Reading a token passes over segments of which it is the only token. -/
theorem exists_partition_next (scanner : Scanner) : ∃ segments,
    Partition scanner scanner.next.2 segments ∧
      segments.filterMap Segment.token? = scanner.next.1.toOption.join.toList := by
  induction scanner using match_induction with
  | finished scanner unread =>
    rw [next_nil unread]
    exact ⟨[], .refl scanner, rfl⟩
  | stuck scanner c cs unread stuck =>
    rw [next_stuck unread stuck]
    exact ⟨[], .refl scanner, rfl⟩
  | past scanner found matched ih =>
    have here := Partition.past matched
    rw [next_of_match matched]
    cases produces : found.kind with
    | none =>
      obtain ⟨segments, behind, tokens⟩ := ih
      refine ⟨_, here.trans behind, ?_⟩
      rw [List.filterMap_append, tokens, Segment.ofMatch, produces]
      rfl
    | some kind =>
      refine ⟨_, here, ?_⟩
      rw [Segment.ofMatch, produces]
      rfl

theorem exists_partition_pull (scanner : Scanner) : ∃ segments,
    Partition scanner scanner.pull.2 segments ∧
      segments.filterMap Segment.token? = scanner.pull.1.toList.filterMap Except.toOption := by
  obtain ⟨segments, partition, tokens⟩ := exists_partition_next scanner
  rw [pull]
  split
  · exact ⟨[], .refl scanner, rfl⟩
  · split <;> rename_i read <;> rw [read] at partition tokens
    · exact ⟨segments, partition, tokens⟩
    · exact ⟨segments, partition, tokens⟩
    · exact ⟨segments, ⟨partition.parts, partition.cursor, partition.fit⟩, tokens⟩

/-! ### All tokens -/

/-- Tokens and the lexical error behind them, one by one. -/
def items (lexed : List Token × Option LexError) : List (Except LexError Token) :=
  lexed.1.map .ok ++ (lexed.2.map .error).toList

theorem filterMap_items (lexed : List Token × Option LexError) :
    (items lexed).filterMap Except.toOption = lexed.1 := by
  obtain ⟨tokens, _ | error⟩ := lexed <;>
    simp [items, Function.comp_def, Except.toOption]

/-- What a scanner gives when it is asked until it gives nothing, and where it is then. -/
inductive Yields : Scanner → List (Except LexError Token) → Scanner → Prop where
  | finished {scanner last : Scanner} : scanner.pull = (none, last) → Yields scanner [] last
  | item {scanner between last : Scanner} {item : Except LexError Token}
      {items : List (Except LexError Token)} : scanner.pull = (some item, between) →
      Yields between items last → Yields scanner (item :: items) last

/-- Where scanning ends: with the text, or in front of a character at which no rule matches. -/
def Ends (last : Scanner) : Option LexError → Prop
  | none => last.rest = []
  | some error => last.rest.head? = some error.character ∧ error.position = last.cursor ∧
      ∀ rule ∈ rules, rule.match? last.rest = none

theorem Yields.exists_partition {last : Scanner} {items : List (Except LexError Token)}
    (yields : scanner.Yields items last) : ∃ segments, Partition scanner last segments ∧
      segments.filterMap Segment.token? = items.filterMap Except.toOption := by
  induction yields with
  | @finished scanner last read =>
    obtain ⟨segments, partition, tokens⟩ := exists_partition_pull scanner
    rw [read] at partition tokens
    exact ⟨segments, partition, tokens⟩
  | @item scanner between last item items read _ ih =>
    obtain ⟨segments, partition, tokens⟩ := exists_partition_pull scanner
    obtain ⟨others, behind, more⟩ := ih
    rw [read] at partition tokens
    refine ⟨segments ++ others, partition.trans behind, ?_⟩
    rw [List.filterMap_append, tokens, more, ← List.filterMap_append]
    rfl

theorem Yields.of_pull_eq {other last : Scanner} {items : List (Except LexError Token)}
    (yields : other.Yields items last) (same : scanner.pull = other.pull) :
    scanner.Yields items last := by
  cases yields with
  | finished read => exact .finished (same.trans read)
  | item read behind => exact .item (same.trans read) behind

/-- Asking comes to an end, after all tokens and at most one lexical error. -/
theorem exists_yields (scanner : Scanner) (ready : scanner.halted = false) : ∃ last,
    scanner.Yields (items scanner.drain) last ∧
      last.Ends scanner.drain.2 := by
  induction scanner using match_induction with
  | finished scanner unread =>
    rw [drain_nil unread]
    exact ⟨scanner, .finished (by simp [pull, ready, next_nil unread]), unread⟩
  | stuck scanner c cs unread stuck =>
    rw [drain_stuck unread stuck]
    have read : scanner.pull =
        (some (.error ⟨c, scanner.cursor⟩), { scanner with halted := true }) := by
      simp [pull, ready, next_stuck unread stuck]
    refine ⟨_, .item read (.finished rfl), by rw [unread]; rfl, rfl, ?_⟩
    rw [firstMatch?, List.findSome?_eq_none_iff] at stuck
    rwa [unread]
  | past scanner found matched ih =>
    obtain ⟨last, yields, ends⟩ := ih ready
    have read := next_of_match matched
    cases produces : found.kind with
    | none =>
      rw [produces] at read
      rw [drain_skip matched produces]
      exact ⟨last, yields.of_pull_eq (by simp [pull, past, ready, read]), ends⟩
    | some kind =>
      rw [produces] at read
      rw [drain_token matched produces]
      exact ⟨last, .item (by simp [pull, ready, read]) yields, ends⟩

/-! ### All states -/

/-- The states that a scanner can come to, also in the midst of reading a token. -/
inductive Reaches (scanner : Scanner) : Scanner → Prop where
  | here : Reaches scanner scanner
  | past {reached : Scanner} {found : Match} : Reaches scanner reached →
      firstMatch? reached.rest = some found → Reaches scanner (reached.past found)
  | next {reached : Scanner} : Reaches scanner reached → Reaches scanner reached.next.2
  | pull {reached : Scanner} : Reaches scanner reached → Reaches scanner reached.pull.2

theorem Reaches.exists_partition {reached : Scanner} (reaches : scanner.Reaches reached) :
    ∃ segments, Partition scanner reached segments := by
  induction reaches with
  | here => exact ⟨[], .refl scanner⟩
  | past _ matched ih =>
    obtain ⟨segments, before⟩ := ih
    exact ⟨_, before.trans (.past matched)⟩
  | @next reached _ ih =>
    obtain ⟨segments, before⟩ := ih
    obtain ⟨others, partition, _⟩ := exists_partition_next reached
    exact ⟨_, before.trans partition⟩
  | @pull reached _ ih =>
    obtain ⟨segments, before⟩ := ih
    obtain ⟨others, partition, _⟩ := exists_partition_pull reached
    exact ⟨_, before.trans partition⟩

/-- Scanning a source comes to an end and has then divided the source, up to its cursor, into the
tokens and what was skipped between them. Without a lexical error this is the whole source. At no
time does the cursor stand within a character. -/
theorem scan_divides (source : String) :
    (∃ last segments,
      (start source).Yields (items (lex source)) last ∧
      Partition (start source) last segments ∧
      segments.filterMap Segment.token? = (lex source).1 ∧
      last.Ends (lex source).2 ∧
      ((lex source).2 = none → last.cursor = source.utf8ByteSize)) ∧
    ∀ reached, (start source).Reaches reached →
      (⟨reached.cursor⟩ : String.Pos.Raw).IsValid source := by
  constructor
  · obtain ⟨last, yields, ends⟩ := exists_yields (start source) rfl
    obtain ⟨segments, partition, tokens⟩ := yields.exists_partition
    refine ⟨last, segments, yields, partition, ?_, ends, ?_⟩
    · exact tokens.trans (filterMap_items (lex source))
    · intro faultless
      rw [show (start source).drain.2 = none from faultless] at ends
      have whole := partition.parts
      rw [show last.rest = [] from ends, List.append_nil] at whole
      change source.toList = _ at whole
      rw [partition.cursor, ← whole, byteLength_toList]
      exact Nat.zero_add _
  · intro reached reaches
    obtain ⟨segments, partition⟩ := reaches.exists_partition
    exact partition.isValid

end Scanner

end ScriptTree
