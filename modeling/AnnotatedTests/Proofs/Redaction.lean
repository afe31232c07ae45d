import AnnotatedTests.Proofs.Quotes
import AnnotatedTests.Proofs.Recognition

/-! What comments and literals say. If it is blanked out, a source is read as before: its skeleton
and its comments stay, so its definitions do, and every directive that was not blanked out
itself. -/
namespace AnnotatedTests

/-- Whether an offset lies in one of some stretches. -/
abbrev Covered (spans : List Span) (i : Nat) : Prop :=
  ∃ span ∈ spans, span.start ≤ i ∧ i < span.stop

/-- A source in which some stretches are blanked out. -/
def redact (spans : List Span) (source : List Char) : List Char :=
  source.mapIdx fun i c => if Covered spans i then blanked c else c

/-- Stretches of a source that are all that stands between the delimiters of a closed block comment,
or between the quotes of a literal on one line. -/
inductive Inside (source : List Char) : Span → Prop where
  | comment {start length : Nat} {inner : List Char} :
    (marks source)[start]? = some (.opens ⟨.blockComment, length⟩) →
    Span.slice ⟨start, start + length⟩ source = '/' :: '*' :: (inner ++ ['*', '/']) →
    Inside source ⟨start + 2, start + length - 2⟩
  | literal {start length : Nat} :
    (marks source)[start]? = some (.opens ⟨.literal, length⟩) →
    '\n' ∉ Span.slice ⟨start, start + length⟩ source →
    Inside source ⟨start + 1, start + length - 1⟩

/-- Texts of a token of which the second is the first one with all between its delimiters blanked
out. -/
inductive BlankedInside : TokenKind → List Char → List Char → Prop where
  | comment (inner : List Char) : BlankedInside .blockComment ('/' :: '*' :: (inner ++ ['*', '/']))
      ('/' :: '*' :: (inner.map blanked ++ ['*', '/']))
  | literal {quote : Char} {inner : List Char} : IsQuote quote → LiteralBody quote inner →
    '\n' ∉ inner → BlankedInside .literal (quote :: (inner ++ [quote]))
      (quote :: (inner.map blanked ++ [quote]))

/-- Texts of which the second is the first one with what some tokens say blanked out, piece by
piece. -/
inductive Redaction : Bool → List Char → List Char → Prop where
  | nil {lineStart : Bool} : Redaction lineStart [] []
  | code {lineStart : Bool} {c : Char} {rest other : List Char} :
    tokenAt? lineStart (c :: rest) = none → Redaction (c == '\n') rest other →
    Redaction lineStart (c :: rest) (c :: other)
  | kept {lineStart : Bool} {kind : TokenKind} {body rest other : List Char} :
    TokenText lineStart kind body rest → Redaction (lineStartAfter lineStart body) rest other →
    Redaction lineStart (body ++ rest) (body ++ other)
  | blanked {lineStart : Bool} {kind : TokenKind} {body veiled rest other : List Char} :
    TokenText lineStart kind body rest → BlankedInside kind body veiled →
    Redaction (lineStartAfter lineStart body) rest other →
    Redaction lineStart (body ++ rest) (veiled ++ other)

section Tokens
variable {lineStart : Bool} {kind : TokenKind} {body veiled rest other : List Char}

theorem head?_dropWhile_append {p : Char → Bool} (h : ∃ c ∈ body, p c = false) :
    ((body ++ other).dropWhile p).head? = ((body ++ rest).dropWhile p).head? := by
  induction body with
  | nil => simp at h
  | cons c body ih =>
    by_cases drops : p c = true
    · have behind : ∃ d ∈ body, p d = false := by simpa [drops] using h
      rw [List.cons_append, List.cons_append, List.dropWhile_cons_of_pos drops,
        List.dropWhile_cons_of_pos drops, ih behind]
    · rw [List.cons_append, List.cons_append, List.dropWhile_cons_of_neg drops,
        List.dropWhile_cons_of_neg drops]
      rfl

theorem TokenText.exists_not_indent (h : TokenText lineStart kind body rest) :
    ∃ c ∈ body, isIndent c = false := by
  cases h with
  | closedComment _ => exact ⟨'/', by simp, by decide⟩
  | openComment _ => exact ⟨'/', by simp, by decide⟩
  | lineComment _ _ => exact ⟨'/', by simp, by decide⟩
  | literal hq _ => exact ⟨_, by simp, hq.isIndent_eq_false⟩
  | preprocessorLine _ _ _ => exact ⟨'#', by simp, by decide⟩

theorem staysOpen_blanked (inner : List Char) : StaysOpen (inner.map blanked ++ ['*']) := by
  intro closes
  have slash : '/' ∈ inner.map blanked ++ ['*'] := closes.subset (by simp)
  have blank : '/' ∈ inner.map blanked := by simpa using slash
  obtain ⟨c, -, shown⟩ := List.mem_map.mp blank
  exact absurd (shown ▸ isBlank_blanked c) (by decide)

theorem literalBody_blanked {quote : Char} (hq : IsQuote quote) {inner : List Char}
    (line : '\n' ∉ inner) : LiteralBody quote (inner.map blanked) := by
  induction inner with
  | nil => exact .nil
  | cons c inner ih =>
    rw [List.mem_cons, not_or] at line
    rw [List.map_cons, blanked, if_neg (Ne.symm line.1)]
    refine .plain ?_ (by decide) (by decide) (ih line.2)
    rcases hq with rfl | rfl <;> decide

theorem BlankedInside.tokenText (h : BlankedInside kind body veiled) :
    TokenText lineStart kind veiled other := by
  cases h with
  | comment inner => exact .closedComment (staysOpen_blanked inner)
  | literal hq _ line => exact .literal hq (literalBody_blanked hq line)

theorem BlankedInside.length_eq (h : BlankedInside kind body veiled) :
    veiled.length = body.length := by
  cases h <;> simp

theorem BlankedInside.lineStartAfter_eq (h : BlankedInside kind body veiled) :
    lineStartAfter lineStart veiled = lineStartAfter lineStart body := by
  cases h <;> simp [lineStartAfter]

theorem BlankedInside.exists_head (h : BlankedInside kind body veiled) :
    ∃ c before after, body = c :: before ∧ veiled = c :: after ∧ isIndent c = false := by
  cases h with
  | comment inner => exact ⟨'/', _, _, rfl, rfl, by decide⟩
  | literal hq _ _ => exact ⟨_, _, _, rfl, rfl, hq.isIndent_eq_false⟩

theorem BlankedInside.follows (h : BlankedInside kind body veiled) {quote : Char}
    (hq : IsQuote quote) (next : Follows quote rest other) :
    Follows quote (body ++ rest) (veiled ++ other) := by
  cases h with
  | comment inner =>
    have blanks : Follows quote ('/' :: '*' :: (inner ++ '*' :: '/' :: rest))
        ('/' :: '*' :: (inner.map blanked ++ '*' :: '/' :: other)) :=
      follows_blanked_comment hq next
    simpa using blanks
  | literal ho literal _ => simpa using follows_blanked_literal hq ho literal next

end Tokens

section Redaction
variable {lineStart : Bool} {text other : List Char}

theorem Redaction.head?_eq (h : Redaction lineStart text other) : other.head? = text.head? := by
  induction h with
  | nil => rfl
  | code _ _ _ => rfl
  | kept _ _ ih => rw [List.head?_append, List.head?_append, ih]
  | blanked _ inside _ _ =>
    obtain ⟨c, before, after, rfl, rfl, -⟩ := inside.exists_head
    rfl

theorem Redaction.follows (h : Redaction lineStart text other) {quote : Char}
    (hq : IsQuote quote) : Follows quote text other := by
  induction h with
  | nil => exact .refl
  | code _ _ ih => exact ih.cons hq
  | kept _ _ ih => exact ih.append hq
  | blanked _ inside _ ih => exact inside.follows hq ih

theorem Redaction.head?_dropWhile_eq (h : Redaction lineStart text other) :
    (other.dropWhile isIndent).head? = (text.dropWhile isIndent).head? := by
  induction h with
  | nil => rfl
  | @code lineStart c rest other _ _ ih =>
    by_cases indent : isIndent c = true
    · rw [List.dropWhile_cons_of_pos indent, List.dropWhile_cons_of_pos indent, ih]
    · rw [List.dropWhile_cons_of_neg indent, List.dropWhile_cons_of_neg indent]
      rfl
  | kept token _ _ => exact head?_dropWhile_append token.exists_not_indent
  | blanked _ inside _ _ =>
    obtain ⟨c, before, after, rfl, rfl, visible⟩ := inside.exists_head
    rw [List.cons_append, List.cons_append, List.dropWhile_cons_of_neg (by simp [visible]),
      List.dropWhile_cons_of_neg (by simp [visible])]
    rfl

/-- A source is cut into the same pieces after what tokens say is blanked out. -/
theorem Redaction.marksFrom_eq (h : Redaction lineStart text other) :
    marksFrom 0 lineStart other = marksFrom 0 lineStart text := by
  induction h with
  | nil => rfl
  | @code lineStart c rest other begins redacted ih =>
    obtain ⟨slash, quote, line⟩ := tokenAt?_eq_none_iff.mp begins
    have none : tokenAt? lineStart (c :: other) = none := by
      rw [tokenAt?_eq_none_iff, redacted.head?_eq,
        (Redaction.code begins redacted).head?_dropWhile_eq]
      exact ⟨slash, fun hq closed => quote hq ((redacted.follows hq).whole closed), line⟩
    rw [marksFrom_of_code none, marksFrom_of_code begins, ih]
  | kept token redacted ih =>
    rw [(token.congr redacted.head?_eq).marksFrom_append, token.marksFrom_append, ih]
  | blanked token inside redacted ih =>
    rw [inside.tokenText.marksFrom_append, token.marksFrom_append, inside.length_eq,
      inside.lineStartAfter_eq, ih]

end Redaction

theorem mapIdx_eq_map {α β : Type} {f : Nat → α → β} {g : α → β} {xs : List α}
    (h : ∀ i < xs.length, f i = g) : xs.mapIdx f = xs.map g := by
  apply List.ext_getElem (by simp)
  intro i hi _
  rw [List.getElem_mapIdx, List.getElem_map, h i (by simpa using hi)]

theorem mapIdx_blanked_eq_self {text : List Char} {p : Nat → Prop} [DecidablePred p]
    (h : ∀ i < text.length, ¬ p i) :
    text.mapIdx (fun i c => if p i then blanked c else c) = text := by
  have same : ∀ i < text.length, (fun c => if p i then blanked c else c) = id :=
    fun i hi => funext fun c => if_neg (h i hi)
  rw [mapIdx_eq_map same, List.map_id]

/-- What stands between the delimiters of a token of its kind that begins at an offset. -/
def interior (offset : Nat) (token : Token) : Span :=
  if token.kind = .blockComment then ⟨offset + 2, offset + token.length - 2⟩
  else ⟨offset + 1, offset + token.length - 1⟩

section Redact
variable {source : List Char} {spans : List Span} {span : Span}

theorem slice_append {before body after : List Char} :
    Span.slice ⟨before.length, before.length + body.length⟩ (before ++ (body ++ after)) = body := by
  simp [Span.slice]

theorem of_mem_interior {start i : Nat} {token : Token} (low : (interior start token).start ≤ i)
    (high : i < (interior start token).stop) : start < i ∧ i < start + token.length := by
  unfold interior at low high
  split_ifs at low high
  · dsimp only at low high
    omega
  · dsimp only at low high
    omega

/-- Whether a token is a closed block comment or a literal on one line, by its kind and text. -/
def Encloses (kind : TokenKind) (body : List Char) : Prop :=
  kind = .blockComment ∧ (∃ inner, body = '/' :: '*' :: (inner ++ ['*', '/'])) ∨
    kind = .literal ∧ '\n' ∉ body

theorem Inside.exists_opens (h : Inside source span) : ∃ start token,
    (marks source)[start]? = some (.opens token) ∧ span = interior start token ∧
      Encloses token.kind (Span.slice ⟨start, start + token.length⟩ source) := by
  cases h with
  | comment opens slice => exact ⟨_, _, opens, rfl, .inl ⟨rfl, _, slice⟩⟩
  | literal opens line => exact ⟨_, _, opens, rfl, .inr ⟨rfl, line⟩⟩

theorem Inside.eq_interior (h : Inside source span) {start i : Nat} {token : Token}
    (opens : (marks source)[start]? = some (.opens token))
    (inside : start ≤ i ∧ i < start + token.length) (covers : span.start ≤ i ∧ i < span.stop) :
    span = interior start token ∧
      Encloses token.kind (Span.slice ⟨start, start + token.length⟩ source) := by
  obtain ⟨other, own, opensOther, rfl, encloses⟩ := h.exists_opens
  obtain ⟨low, high⟩ := of_mem_interior covers.1 covers.2
  obtain rfl := eq_of_opens opensOther opens ⟨low.le, high⟩ inside
  rw [opens] at opensOther
  obtain rfl : token = own := by simpa using opensOther
  exact ⟨rfl, encloses⟩

theorem Inside.mark_eq (h : Inside source span) {i : Nat}
    (covers : span.start ≤ i ∧ i < span.stop) : (marks source)[i]? = some .inside := by
  obtain ⟨start, token, opens, rfl, -⟩ := h.exists_opens
  obtain ⟨low, high⟩ := of_mem_interior covers.1 covers.2
  have inside := inside_of_opens opens (k := i - start) (by omega) (by omega)
  rwa [Nat.add_sub_cancel' low.le] at inside

/-- The delimiters of a token cut its text in three. -/
theorem TokenText.exists_parts {kind : TokenKind} {lineStart : Bool} {body rest : List Char}
    (h : TokenText lineStart kind body rest) (encloses : Encloses kind body) (start : Nat) :
    ∃ opening inner closing, body = opening ++ (inner ++ closing) ∧
      interior start ⟨kind, body.length⟩ =
        ⟨start + opening.length, start + opening.length + inner.length⟩ ∧
      BlankedInside kind body (opening ++ (inner.map blanked ++ closing)) := by
  rcases encloses with ⟨rfl, inner, rfl⟩ | ⟨rfl, line⟩
  · refine ⟨['/', '*'], inner, ['*', '/'], rfl, ?_, .comment inner⟩
    simp [interior]
    omega
  · cases h with
    | @literal quote inner rest hq literal =>
      have oneLine : '\n' ∉ inner := by
        intro newline
        exact line (by simp [newline])
      refine ⟨[quote], inner, [quote], rfl, ?_, .literal hq literal oneLine⟩
      simp [interior]
      omega

/-- A text in which the middle is blanked out. -/
theorem mapIdx_blanked {opening inner closing : List Char} {p : Nat → Prop} [DecidablePred p]
    (h : ∀ i < (opening ++ (inner ++ closing)).length,
      p i ↔ opening.length ≤ i ∧ i < opening.length + inner.length) :
    (opening ++ (inner ++ closing)).mapIdx (fun i c => if p i then blanked c else c) =
      opening ++ (inner.map blanked ++ closing) := by
  rw [List.mapIdx_append, List.mapIdx_append]
  simp only [List.length_append] at h
  congr 1
  · apply mapIdx_blanked_eq_self
    intro i hi covered
    have := (h i (by omega)).mp covered
    omega
  · congr 1
    · apply mapIdx_eq_map
      intro i hi
      funext c
      exact if_pos ((h _ (by omega)).mpr (by omega))
    · apply mapIdx_blanked_eq_self
      intro i hi covered
      have := (h _ (by omega)).mp covered
      omega

/-- A token keeps its text, or all between its delimiters is blanked out. -/
theorem TokenText.mapIdx_eq_self_or_blanked {lineStart : Bool} {kind : TokenKind} {start : Nat}
    {body rest : List Char} (h : ∀ span ∈ spans, Inside source span)
    (token : TokenText lineStart kind body rest)
    (opens : (marks source)[start]? = some (.opens ⟨kind, body.length⟩))
    (text : Span.slice ⟨start, start + body.length⟩ source = body) :
    (body.mapIdx fun i c => if Covered spans (start + i) then blanked c else c) = body ∨
      BlankedInside kind body
        (body.mapIdx fun i c => if Covered spans (start + i) then blanked c else c) := by
  -- the only stretch that reaches into the token is what stands between its delimiters
  have only (i : Nat) (hi : i < body.length) {span : Span} (hs : span ∈ spans)
      (covers : span.start ≤ start + i ∧ start + i < span.stop) :
      span = interior start ⟨kind, body.length⟩ ∧ Encloses kind body := by
    obtain ⟨same, encloses⟩ :=
      (h span hs).eq_interior opens ⟨Nat.le_add_right _ _, by simpa using hi⟩ covers
    exact ⟨same, text ▸ encloses⟩
  by_cases touched : ∃ i < body.length, Covered spans (start + i)
  · obtain ⟨i, hi, span, hs, covers⟩ := touched
    obtain ⟨rfl, encloses⟩ := only i hi hs covers
    obtain ⟨opening, inner, closing, rfl, stretch, blanks⟩ := token.exists_parts encloses start
    rw [mapIdx_blanked]
    · exact .inr blanks
    · intro j hj
      constructor
      · rintro ⟨span, hs, covers⟩
        obtain ⟨rfl, -⟩ := only j hj hs covers
        rw [stretch] at covers
        dsimp only at covers
        omega
      · intro inside
        refine ⟨_, hs, ?_⟩
        rw [stretch]
        dsimp only
        omega
  · exact .inl (mapIdx_blanked_eq_self fun i hi covered => touched ⟨i, hi, covered⟩)

theorem redaction_mapIdx (h : ∀ span ∈ spans, Inside source span) (lineStart : Bool)
    (text : List Char) : ∀ before : List Char, source = before ++ text →
      CutsPieces true before text → lineStart = lineStartAfter true before →
      Redaction lineStart text
        (text.mapIdx fun i c => if Covered spans (before.length + i) then blanked c else c) := by
  induction lineStart, text using pieces_induction with
  | nil => exact fun _ _ _ _ => .nil
  | code lineStart c rest begins ih =>
    rintro before rfl cut rfl
    have cutBehind : CutsPieces true (before ++ [c]) rest :=
      cut.append (IsPiece.code begins).cutsPieces
    have behind := ih (before ++ [c]) (by simp) cutBehind lineStartAfter_concat.symm
    have plain : ¬ Covered spans (before.length + 0) := by
      rintro ⟨span, hs, covers⟩
      have inside : (marks (before ++ c :: rest))[before.length + 0]? = some .inside :=
        (h span hs).mark_eq covers
      rw [marks, cut.getElem?_marksFrom, marksFrom_of_code begins] at inside
      simp at inside
    rw [List.mapIdx_cons, if_neg plain]
    refine .code begins ?_
    simpa [Nat.add_assoc, Nat.add_comm 1] using behind
  | token lineStart kind body rest token ih =>
    rintro before rfl cut rfl
    have behind := ih (before ++ body) (by rw [List.append_assoc])
      (cut.append (IsPiece.token token).cutsPieces) lineStartAfter_append.symm
    have opens : (marks (before ++ (body ++ rest)))[before.length]? =
        some (.opens ⟨kind, body.length⟩) := by
      rw [marks, ← Nat.add_zero before.length, cut.getElem?_marksFrom, token.marksFrom_append]
      rfl
    have later : (rest.mapIdx fun i c =>
        if Covered spans (before.length + (i + body.length)) then blanked c else c) =
          rest.mapIdx fun i c =>
            if Covered spans ((before ++ body).length + i) then blanked c else c := by
      simp only [List.length_append, Nat.add_assoc, Nat.add_comm body.length]
    rw [List.mapIdx_append, later]
    rcases token.mapIdx_eq_self_or_blanked h opens slice_append with same | blanks
    · rw [same]
      exact .kept token behind
    · exact .blanked token blanks behind

theorem marks_redact (h : ∀ span ∈ spans, Inside source span) :
    marks (redact spans source) = marks source := by
  have redaction := redaction_mapIdx h true source [] rfl .nil rfl
  simp only [List.length_nil, Nat.zero_add] at redaction
  exact redaction.marksFrom_eq

theorem getElem?_redact (i : Nat) : (redact spans source)[i]? =
    source[i]?.map fun c => if Covered spans i then blanked c else c :=
  List.getElem?_mapIdx

theorem skeleton_redact (h : ∀ span ∈ spans, Inside source span) :
    skeleton (redact spans source) = skeleton source := by
  apply List.ext_getElem?
  intro i
  by_cases covered : Covered spans i
  · obtain ⟨span, hs, covers⟩ := covered
    have inside := (h span hs).mark_eq covers
    have insideAfter : (marks (redact spans source))[i]? = some .inside := by
      rwa [marks_redact h]
    have fade : (fun c => if Covered spans i then blanked c else c) = blanked := by
      funext c
      exact if_pos ⟨span, hs, covers⟩
    rw [getElem?_skeleton_of_hidden insideAfter (by simp), getElem?_skeleton_of_hidden inside
      (by simp), getElem?_redact, fade, Option.map_map]
    congr 1
    funext c
    exact blanked_blanked c
  · rw [skeleton, skeleton, marks_redact h, List.getElem?_zipWith, List.getElem?_zipWith,
      getElem?_redact]
    simp [covered]

theorem comments_redact (h : ∀ span ∈ spans, Inside source span) :
    comments (redact spans source) = comments source := by
  rw [comments, comments, marks_redact h]

theorem lineAt_redact (offset : Int) :
    lineAt (redact spans source) offset = lineAt source offset := by
  have lines : (redact spans source).map (· == '\n') = source.map (· == '\n') := by
    apply List.ext_getElem?
    intro i
    rw [List.getElem?_map, List.getElem?_map, getElem?_redact, Option.map_map]
    congr 1
    funext c
    by_cases covered : Covered spans i
    · rw [Function.comp_apply, if_pos covered, Bool.eq_iff_iff, beq_iff_eq, beq_iff_eq,
        blanked_eq_newline_iff]
    · rw [Function.comp_apply, if_neg covered]
  have count (text : List Char) : text.count '\n' = (text.map (· == '\n')).count true := by
    rw [List.count, List.count, List.countP_map]
    congr 1
    funext c
    simp
  rw [lineAt, lineAt, count, count, List.map_take, List.map_take, lines]

theorem getElem?_slice {text : List Char} {k : Nat} (h : k < span.stop - span.start) :
    (span.slice text)[k]? = text[span.start + k]? := by
  rw [Span.slice, List.getElem?_take_of_lt h, List.getElem?_drop]

theorem opens_of_mem_comments {comment : Span} (h : comment ∈ comments source) :
    (marks source)[comment.start]? =
        some (.opens ⟨.blockComment, comment.stop - comment.start⟩) ∧
      comment.start + 2 ≤ comment.stop := by
  obtain ⟨i, length, opens, rfl⟩ := mem_commentsFrom.mp h
  obtain ⟨before, body, after, -, -, rfl, text, -⟩ := exists_of_opens opens
  have long : 2 ≤ body.length := by
    cases text <;> simp
  simp only [Nat.zero_add, Nat.add_sub_cancel_left]
  exact ⟨opens, by omega⟩

/-- A comment that is not blanked out keeps its text. -/
theorem slice_redact (h : ∀ span ∈ spans, Inside source span) {comment : Span}
    (hc : comment ∈ comments source) (kept : ⟨comment.start + 2, comment.stop - 2⟩ ∉ spans) :
    comment.slice (redact spans source) = comment.slice source := by
  obtain ⟨opens, long⟩ := opens_of_mem_comments hc
  apply List.ext_getElem?
  intro k
  by_cases inside : k < comment.stop - comment.start
  · have plain : ¬ Covered spans (comment.start + k) := by
      rintro ⟨span, hs, covers⟩
      obtain ⟨rfl, -⟩ := (h span hs).eq_interior opens
        ⟨Nat.le_add_right _ _, Nat.add_lt_add_left inside _⟩ covers
      rw [interior, if_pos rfl, Nat.add_sub_cancel' (by omega)] at hs
      exact kept hs
    rw [getElem?_slice inside, getElem?_slice inside, getElem?_redact]
    simp [plain]
  · rw [Span.slice, Span.slice, List.getElem?_take_eq_none (by omega),
      List.getElem?_take_eq_none (by omega)]

theorem third_of_isDirective {marker : String} {text : List Char}
    (h : isDirective marker text = true) : text[2]? = some '!' := by
  have opening : directiveOpening marker <+: text :=
    List.isPrefixOf_iff_prefix.mp (Bool.and_eq_true_iff.mp h).1
  obtain ⟨behind, rfl⟩ := opening
  simp [directiveOpening]

/-- A comment whose inside may be blanked out is closed. -/
theorem Inside.exists_text_of_comment {comment : Span}
    (h : Inside source ⟨comment.start + 2, comment.stop - 2⟩) (hc : comment ∈ comments source) :
    ∃ inner, comment.slice source = '/' :: '*' :: (inner ++ ['*', '/']) := by
  obtain ⟨opens, long⟩ := opens_of_mem_comments hc
  -- the stretch is the inside of this comment and of no other token
  obtain ⟨start, token, opensToken, same, encloses⟩ := h.exists_opens
  have start_eq : start = comment.start := by
    by_contra other
    have next : start = comment.start + 1 := by
      unfold interior at same
      split_ifs at same <;> simp only [Span.mk.injEq] at same <;> omega
    have inside := inside_of_opens opens (k := 1) (by omega) (by dsimp only; omega)
    rw [← marks, ← next, opensToken] at inside
    simp at inside
  subst start_eq
  rw [opens] at opensToken
  obtain rfl : token = ⟨.blockComment, comment.stop - comment.start⟩ := by
    simpa [eq_comm] using opensToken
  rcases encloses with ⟨-, inner, text⟩ | ⟨other, -⟩
  · rw [Nat.add_sub_cancel' (by omega)] at text
    exact ⟨inner, text⟩
  · simp at other

/-- A comment that is blanked out is no directive. -/
theorem isDirective_redact_of_mem (h : ∀ span ∈ spans, Inside source span) {comment : Span}
    (hc : comment ∈ comments source) (hm : ⟨comment.start + 2, comment.stop - 2⟩ ∈ spans)
    (marker : String) : isDirective marker (comment.slice (redact spans source)) = false := by
  obtain ⟨inner, text⟩ := (h _ hm).exists_text_of_comment hc
  have length : (comment.slice source).length ≤ comment.stop - comment.start := by
    rw [Span.slice]
    exact List.length_take_le _ _
  rw [Bool.eq_false_iff]
  intro directive
  have mark := third_of_isDirective directive
  rw [text] at length
  simp only [List.length_cons, List.length_append, List.length_nil] at length
  rw [getElem?_slice (by omega), getElem?_redact] at mark
  have third : source[comment.start + 2]? = (inner ++ ['*', '/'])[0]? := by
    rw [← getElem?_slice (by omega), text]
    rfl
  rw [third] at mark
  cases inner with
  | nil =>
    by_cases covered : Covered spans (comment.start + 2) <;> simp [covered, blanked] at mark
  | cons c inner =>
    simp only [List.length_cons] at length
    have covered : Covered spans (comment.start + 2) :=
      ⟨_, hm, le_rfl, by dsimp only; omega⟩
    rw [List.cons_append, List.getElem?_cons_zero, Option.map_some, if_pos covered] at mark
    exact absurd (Option.some.inj mark ▸ isBlank_blanked c) (by decide)

theorem directiveSpans_redact (h : ∀ span ∈ spans, Inside source span) (marker : String) :
    directiveSpans (redact spans source) marker =
      (directiveSpans source marker).filter fun comment =>
        ⟨comment.start + 2, comment.stop - 2⟩ ∉ spans := by
  rw [directiveSpans, directiveSpans, comments_redact h, List.filter_filter]
  apply List.filter_congr
  intro comment hc
  by_cases hm : ⟨comment.start + 2, comment.stop - 2⟩ ∈ spans
  · simp [isDirective_redact_of_mem h hc hm, hm]
  · simp [slice_redact h hc hm, hm]

/-- What comments and literals say does not matter to what is found in a source: after it is blanked
out in some of them, the skeleton and the comments are as before, the scan has the same definitions,
and it has the same directives, less those that were blanked out, with all that it records for
them. -/
theorem scan_redact (h : ∀ span ∈ spans, Inside source span) (filename marker : String) :
    skeleton (redact spans source) = skeleton source ∧
      comments (redact spans source) = comments source ∧
      (scan (redact spans source) filename marker).definitions =
        (scan source filename marker).definitions ∧
      (scan source filename marker).sites =
        (directiveSpans source marker).map (siteAt source filename) ∧
      (scan (redact spans source) filename marker).sites =
        ((directiveSpans source marker).filter fun comment =>
          ⟨comment.start + 2, comment.stop - 2⟩ ∉ spans).map (siteAt source filename) := by
  have lines : lineAt (redact spans source) = lineAt source := funext lineAt_redact
  have code := skeleton_redact h
  refine ⟨code, comments_redact h, ?_, rfl, ?_⟩
  · simp only [scan, definitionsOf, code, lines]
  · rw [sites_scan, directiveSpans_redact h]
    apply List.map_congr_left
    intro comment hc
    obtain ⟨directive, kept⟩ := List.mem_filter.mp hc
    have text := slice_redact h (List.mem_filter.mp directive).1 (by simpa using kept)
    simp only [siteAt, declarationAfter?, code, lines, text]

end Redact

/-- A source with an open quote before a comment, a directive to blank out, and a literal that looks
like a comment and holds a quote. -/
def quotedSource : List Char :=
  textOfLines ["int n = 1'000; /* sums \x7b */", "/*!cmocka */ /*!cmocka test old */",
    "void t(void **state) \x7b puts(\"/* \\\" \x7d\"); \x7d"]

theorem inside_quotedSource :
    ∀ span ∈ ([⟨17, 25⟩, ⟨43, 60⟩, ⟨92, 99⟩] : List Span), Inside quotedSource span := by
  intro span hs
  simp only [List.mem_cons, List.not_mem_nil, or_false] at hs
  rcases hs with rfl | rfl | rfl
  · exact @Inside.comment _ 15 12 " sums \x7b ".toList (by decide +kernel) (by decide +kernel)
  · exact @Inside.comment _ 41 21 "!cmocka test old ".toList (by decide +kernel)
      (by decide +kernel)
  · exact @Inside.literal _ 91 9 (by decide +kernel) (by decide +kernel)

theorem scan_redact_quotedSource :
    redact [⟨17, 25⟩, ⟨43, 60⟩, ⟨92, 99⟩] quotedSource =
        textOfLines ["int n = 1'000; /*        */", "/*!cmocka */ /*                 */",
          "void t(void **state) \x7b puts(\"       \"); \x7d"] ∧
      skeleton (redact [⟨17, 25⟩, ⟨43, 60⟩, ⟨92, 99⟩] quotedSource) = skeleton quotedSource ∧
      (scan (redact [⟨17, 25⟩, ⟨43, 60⟩, ⟨92, 99⟩] quotedSource) "t.c" "cmocka").definitions =
        (scan quotedSource "t.c" "cmocka").definitions ∧
      (scan (redact [⟨17, 25⟩, ⟨43, 60⟩, ⟨92, 99⟩] quotedSource) "t.c" "cmocka").sites =
        [siteAt quotedSource "t.c" ⟨28, 40⟩] := by
  obtain ⟨code, -, definitions, -, sites⟩ := scan_redact inside_quotedSource "t.c" "cmocka"
  have kept : ((directiveSpans quotedSource "cmocka").filter fun comment =>
      ⟨comment.start + 2, comment.stop - 2⟩ ∉
        ([⟨17, 25⟩, ⟨43, 60⟩, ⟨92, 99⟩] : List Span)) = [⟨28, 40⟩] := by
    decide +kernel
  exact ⟨by decide +kernel, code, definitions, sites.trans (congrArg _ kept)⟩

end AnnotatedTests
