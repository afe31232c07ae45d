import AnnotatedTests.Proofs.Recognition

/-! The block comments of a source as C has them. C removes comments before it looks for
directives, so to a comment a preprocessor line is a line like any other: a comment that begins on
one runs to its end, also on a later line. A skeleton hides every comment of C up to the first
preprocessor line that ends within one. -/
namespace AnnotatedTests

/-- Whether no comment and no literal begins with a text. -/
def BeginsPlain (text : List Char) : Prop :=
  ∀ kind body rest, text = body ++ rest → ¬ TokenText false kind body rest

/-- The block comments that a lexer of C finds in a text whose first character has the given offset.
It takes comments and literals whole and any other character by itself, a hash sign too. -/
inductive BlockComments : Nat → List Char → List Span → Prop where
  | nil {offset : Nat} : BlockComments offset [] []
  | comment {offset : Nat} {body rest : List Char} {spans : List Span} :
    TokenText false .blockComment body rest → BlockComments (offset + body.length) rest spans →
    BlockComments offset (body ++ rest) (⟨offset, offset + body.length⟩ :: spans)
  | other {offset : Nat} {kind : TokenKind} {body rest : List Char} {spans : List Span} :
    kind ≠ .blockComment → TokenText false kind body rest →
    BlockComments (offset + body.length) rest spans → BlockComments offset (body ++ rest) spans
  | plain {offset : Nat} {c : Char} {rest : List Char} {spans : List Span} :
    BeginsPlain (c :: rest) → BlockComments (offset + 1) rest spans →
    BlockComments offset (c :: rest) spans

/-- The block comments of a text as a lexer of C computes them, if the first `hidden` characters
belong to a token that has begun before. -/
def lexComments (hidden offset : Nat) : List Char → List Span
  | [] => []
  | c :: rest =>
    match hidden with
    | left + 1 => lexComments left (offset + 1) rest
    | 0 =>
      match tokenAt? false (c :: rest) with
      | some token =>
        (if token.kind = .blockComment then [⟨offset, offset + token.length⟩] else []) ++
          lexComments (token.length - 1) (offset + 1) rest
      | none => lexComments 0 (offset + 1) rest

/-- Whether none of some stretches begins before an offset and goes on behind it. -/
def NoneAcross (spans : List Span) (offset : Nat) : Prop :=
  ∀ span ∈ spans, ¬ (span.start < offset ∧ offset < span.stop)

/-- Whether a lexer that finds some block comments comes to an offset between two tokens: the
comments end there or before, or they are those it finds from there on. -/
def Resumes (spans : List Span) (offset : Nat) (rest : List Char) : Prop :=
  ∃ behind, BlockComments offset rest behind ∧ (∀ span ∈ behind, span ∈ spans) ∧
    ∀ span ∈ spans, span.stop ≤ offset ∨ span ∈ behind

/-- Whether a text reaches to the end of a line that does not go on behind it. -/
structure EndsLine (body rest : List Char) : Prop where
  stop : AtLineEnd rest
  splice : body.getLast? = some '\\' → rest = []

section Tokens
variable {lineStart : Bool} {kind other : TokenKind} {body rest text behind : List Char}

theorem beginsPlain_iff : BeginsPlain text ↔ tokenAt? false text = none := by
  rw [Option.eq_none_iff_forall_ne_some]
  constructor
  · intro plain token begins
    obtain ⟨body, rest, split, -, token⟩ := tokenAt?_eq_some_iff.mp begins
    exact plain _ body rest split token
  · rintro none kind body rest rfl token
    exact none _ token.tokenAt?_append

/-- At most one token begins with a text. -/
theorem TokenText.unique (h : TokenText lineStart kind body rest)
    (second : TokenText lineStart other text behind) (same : body ++ rest = text ++ behind) :
    kind = other ∧ body = text ∧ rest = behind := by
  have begins := h.tokenAt?_append
  rw [same, second.tokenAt?_append] at begins
  simp only [Option.some.injEq, Token.mk.injEq] at begins
  obtain ⟨rfl, length⟩ := begins
  exact ⟨rfl, List.append_inj same length.symm⟩

theorem TokenText.ne_preprocessorLine (h : TokenText false kind body rest) :
    kind ≠ .preprocessorLine := by
  rintro rfl
  cases h with
  | preprocessorLine first => exact Bool.false_ne_true first

theorem beginsPlain_of_code {c : Char} (h : tokenAt? lineStart (c :: rest) = none) :
    BeginsPlain (c :: rest) := by
  intro kind body behind split token
  have begins := (token.anywhere token.ne_preprocessorLine lineStart).tokenAt?_append
  rw [← split, h] at begins
  simp at begins

end Tokens

section Lines
variable {body rest before : List Char}

theorem EndsLine.of_append (h : EndsLine (before ++ body) rest) : EndsLine body rest := by
  refine ⟨h.stop, fun last => h.splice ?_⟩
  rw [List.getLast?_append, last, Option.some_or]

theorem LogicalLine.endsLine (h : LogicalLine body rest) : EndsLine body rest := by
  refine ⟨h.atLineEnd, ?_⟩
  induction h with
  | ends => simp
  | @joined body rest _ ih =>
    intro last
    cases body with
    | nil => simp at last
    | cons c body => exact ih (by simpa using last)
  | @other c body rest _ splice line ih =>
    intro last
    cases body with
    | nil =>
      obtain rfl : c = '\\' := by simpa using last
      cases rest with
      | nil => rfl
      | cons d rest => exact absurd ⟨rfl, by simp [line.atLineEnd.eq_newline]⟩ splice
    | cons d body => exact ih (by simpa using last)

theorem LogicalLine.endsLine_append (h : LogicalLine body rest) :
    EndsLine (before ++ '#' :: body) rest := by
  refine ⟨h.atLineEnd, fun last => h.endsLine.splice ?_⟩
  cases body with
  | nil => simp at last
  | cons c body => simpa using last

theorem LiteralBody.getLast?_eq_backslash {quote : Char} {text : List Char}
    (h : LiteralBody quote text) (split : text = before ++ '\n' :: rest) :
    before.getLast? = some '\\' := by
  induction h generalizing before with
  | nil => simp at split
  | @escaped c body _ ih =>
    rcases before with _ | ⟨d, _ | ⟨e, before⟩⟩
    · simp at split
    · simp only [List.cons_append, List.nil_append, List.cons.injEq] at split
      simp [← split.1]
    · simp only [List.cons_append, List.cons.injEq] at split
      have last := ih split.2.2
      simp [List.getLast?_cons, last]
  | @plain c body _ line _ _ ih =>
    rcases before with _ | ⟨d, before⟩
    · exact absurd (List.cons.inj split).1 line
    · have last := ih (List.cons.inj split).2
      simp [List.getLast?_cons, last]

theorem LogicalLine.getLast?_eq_backslash {text behind : List Char} (h : LogicalLine text behind)
    (split : text = before ++ '\n' :: rest) : before.getLast? = some '\\' := by
  induction h generalizing before with
  | ends => simp at split
  | joined _ ih =>
    rcases before with _ | ⟨d, _ | ⟨e, before⟩⟩
    · simp at split
    · simp [← (List.cons.inj split).1]
    · have last := ih (List.cons.inj (List.cons.inj split).2).2
      simp [List.getLast?_cons, last]
  | other line _ _ ih =>
    rcases before with _ | ⟨d, before⟩
    · exact absurd (List.cons.inj split).1 line
    · have last := ih (List.cons.inj split).2
      simp [List.getLast?_cons, last]

theorem exists_between_of_not_mem {front inner : List Char} (h : '\n' ∉ front)
    (split : front ++ inner = before ++ '\n' :: rest) :
    ∃ between, before = front ++ between ∧ inner = between ++ '\n' :: rest := by
  rcases List.append_eq_append_iff.mp split with ⟨between, rfl, rfl⟩ | ⟨more, rfl, tail⟩
  · exact ⟨between, rfl, rfl⟩
  · cases more with
    | nil => exact ⟨[], by simp, by simpa using tail.symm⟩
    | cons c more =>
      obtain rfl := (List.cons.inj tail).1
      exact absurd (by simp) h

/-- In a token that is no block comment a line end stands behind a backslash. -/
theorem TokenText.getLast?_eq_backslash {lineStart : Bool} {kind : TokenKind}
    {text behind : List Char} (h : TokenText lineStart kind text behind)
    (hk : kind ≠ .blockComment) (split : text = before ++ '\n' :: rest) :
    before.getLast? = some '\\' := by
  cases h with
  | closedComment | openComment => exact absurd rfl hk
  | @lineComment inner _ inside =>
    have newline : '\n' ∈ '/' :: '/' :: inner := split ▸ (by simp)
    simp [inside] at newline
  | @literal quote inner _ hq literal =>
    have noLine : '\n' ∉ [quote] := by simpa using hq.ne_newline.symm
    obtain ⟨between, rfl, behind⟩ := exists_between_of_not_mem noLine split
    -- the closing quote is no line end, so this one stands before it
    obtain ⟨less, rfl⟩ : ∃ less, inner = between ++ '\n' :: less := by
      rcases List.eq_nil_or_concat rest with rfl | ⟨less, d, rfl⟩
      · exact absurd (List.append_inj' behind rfl).2 (by simpa using hq.ne_newline)
      · rw [List.concat_eq_append, ← List.cons_append, ← List.append_assoc] at behind
        exact ⟨less, (List.append_inj' behind rfl).1⟩
    have last := literal.getLast?_eq_backslash rfl
    simp [List.getLast?_cons, last]
  | @preprocessorLine indent inner _ _ indented line =>
    have noLine : '\n' ∉ indent ++ ['#'] := by
      intro newline
      rcases List.mem_append.mp newline with space | hash
      · exact absurd (indented _ space) (by decide)
      · simp at hash
    obtain ⟨between, rfl, behind⟩ := exists_between_of_not_mem noLine (by simpa using split)
    have last := line.getLast?_eq_backslash behind
    simp [List.getLast?_append, List.getLast?_cons, last]

/-- Of the tokens that begin on a line, only block comments go on behind its end. -/
theorem TokenText.length_le_of_endsLine {kind : TokenKind} {text behind : List Char}
    (h : TokenText false kind text behind) (hk : kind ≠ .blockComment)
    (same : text ++ behind = body ++ rest) (line : EndsLine body rest) :
    text.length ≤ body.length := by
  by_contra longer
  obtain ⟨extra, rfl, rfl⟩ : ∃ extra, text = body ++ extra ∧ rest = extra ++ behind := by
    rcases List.append_eq_append_iff.mp same with ⟨less, rfl, -⟩ | beyond
    · simp at longer
    · exact beyond
  obtain ⟨c, extra, rfl⟩ := List.exists_cons_of_ne_nil (l := extra) (by rintro rfl; simp at longer)
  obtain rfl := line.stop.eq_newline
  -- a backslash at the end of the line would continue it
  simpa using line.splice (h.getLast?_eq_backslash hk rfl)

end Lines

section Lexer
variable {offset : Nat} {kind : TokenKind} {c : Char} {body rest text : List Char}
variable {spans other : List Span} {span : Span}

theorem BlockComments.of_plain (h : BlockComments offset (c :: rest) spans)
    (plain : BeginsPlain (c :: rest)) : BlockComments (offset + 1) rest spans := by
  generalize whole : c :: rest = text at h
  cases h with
  | nil => simp at whole
  | comment token => exact absurd token (plain _ _ _ whole)
  | other _ token => exact absurd token (plain _ _ _ whole)
  | plain _ behind =>
    obtain ⟨-, rfl⟩ := List.cons.inj whole
    exact behind

theorem BlockComments.of_token (h : BlockComments offset (body ++ rest) spans)
    (token : TokenText false kind body rest) :
    ∃ behind, BlockComments (offset + body.length) rest behind ∧
      spans =
        if kind = .blockComment then ⟨offset, offset + body.length⟩ :: behind else behind := by
  generalize whole : body ++ rest = text at h
  cases h with
  | nil => exact absurd (List.append_eq_nil_iff.mp whole).1 token.ne_nil
  | comment second behind =>
    obtain ⟨rfl, rfl, rfl⟩ := token.unique second whole
    exact ⟨_, behind, (if_pos rfl).symm⟩
  | other hk second behind =>
    obtain ⟨rfl, rfl, rfl⟩ := token.unique second whole
    exact ⟨_, behind, (if_neg hk).symm⟩
  | plain plain => exact absurd token (plain _ _ _ whole.symm)

theorem lexComments_append_of_hidden :
    lexComments body.length offset (body ++ rest) = lexComments 0 (offset + body.length) rest := by
  induction body generalizing offset with
  | nil => rfl
  | cons c body ih =>
    rw [List.length_cons, List.cons_append, lexComments, ih, Nat.add_assoc, Nat.add_comm 1]

theorem TokenText.lexComments_append (token : TokenText false kind body rest) :
    lexComments 0 offset (body ++ rest) =
      (if kind = .blockComment then [⟨offset, offset + body.length⟩] else []) ++
        lexComments 0 (offset + body.length) rest := by
  have begins := token.tokenAt?_append
  obtain ⟨c, body, rfl⟩ := List.exists_cons_of_ne_nil token.ne_nil
  rw [List.cons_append] at begins ⊢
  rw [lexComments, begins]
  simp only [List.length_cons, Nat.add_sub_cancel]
  rw [lexComments_append_of_hidden, Nat.add_assoc, Nat.add_comm 1]

theorem BlockComments.eq_lexComments (h : BlockComments offset text spans) :
    spans = lexComments 0 offset text := by
  induction h with
  | nil => rfl
  | comment token _ ih => rw [token.lexComments_append, if_pos rfl, ← ih, List.singleton_append]
  | other hk token _ ih => rw [token.lexComments_append, if_neg hk, ← ih, List.nil_append]
  | plain plain _ ih => rw [lexComments, beginsPlain_iff.mp plain, ih]

theorem blockComments_lexComments (offset : Nat) (text : List Char) :
    BlockComments offset text (lexComments 0 offset text) := by
  induction hn : text.length using Nat.strong_induction_on generalizing offset text with
  | _ n ih =>
    subst hn
    cases text with
    | nil => exact .nil
    | cons c tail =>
      cases begins : tokenAt? false (c :: tail) with
      | none =>
        rw [lexComments, begins]
        exact .plain (beginsPlain_iff.mpr begins) (ih _ (by simp) _ _ rfl)
      | some found =>
        obtain ⟨body, rest, split, -, token⟩ := exists_tokenText begins
        have positive := List.length_pos_iff.mpr token.ne_nil
        rw [split] at ih ⊢
        have behind := ih rest.length (by simpa using positive) (offset + body.length) rest rfl
        rw [token.lexComments_append]
        split_ifs with hk
        · exact .comment (hk ▸ token) behind
        · exact .other hk token behind

/-- The lexer finds one list of comments in every text. -/
theorem blockComments_iff : BlockComments offset text spans ↔ spans = lexComments 0 offset text :=
  ⟨BlockComments.eq_lexComments, fun same => same ▸ blockComments_lexComments offset text⟩

theorem BlockComments.le_start (h : BlockComments offset text spans) (hs : span ∈ spans) :
    offset ≤ span.start := by
  induction h with
  | nil => simp at hs
  | comment _ _ ih =>
    rcases List.mem_cons.mp hs with rfl | hs
    · exact le_rfl
    · exact (Nat.le_add_right _ _).trans (ih hs)
  | other _ _ _ ih => exact (Nat.le_add_right _ _).trans (ih hs)
  | plain _ _ ih => exact (Nat.le_add_right _ _).trans (ih hs)

theorem BlockComments.resumes (h : BlockComments offset text spans) :
    Resumes spans offset text :=
  ⟨spans, h, fun _ hs => hs, fun _ hs => .inr hs⟩

theorem BlockComments.resumes_of_plain (h : BlockComments offset (c :: rest) spans)
    (plain : BeginsPlain (c :: rest)) : Resumes spans (offset + 1) rest :=
  (h.of_plain plain).resumes

theorem BlockComments.resumes_of_token (h : BlockComments offset (body ++ rest) spans)
    (token : TokenText false kind body rest) : Resumes spans (offset + body.length) rest := by
  obtain ⟨behind, next, rfl⟩ := h.of_token token
  refine ⟨behind, next, fun span hs => ?_, fun span hs => ?_⟩
  · split_ifs
    · exact List.mem_cons_of_mem _ hs
    · exact hs
  · split_ifs at hs
    · rcases List.mem_cons.mp hs with rfl | hs
      · exact .inl le_rfl
      · exact .inr hs
    · exact .inr hs

theorem Resumes.trans {next : Nat} (h : Resumes spans offset text) (forward : offset ≤ next)
    (step : ∀ behind, BlockComments offset text behind → (∀ span ∈ behind, span ∈ spans) →
      Resumes behind next rest) : Resumes spans next rest := by
  obtain ⟨behind, lexed, within, passed⟩ := h
  obtain ⟨last, lexedLast, withinLast, passedLast⟩ := step behind lexed within
  refine ⟨last, lexedLast, fun span hs => within span (withinLast span hs), fun span hs => ?_⟩
  rcases passed span hs with before | hs
  · exact .inl (before.trans forward)
  · exact passedLast span hs

/-- The first token of a line ends on it, if no block comment goes on behind the line. -/
theorem BlockComments.length_le_of_endsLine {token behind : List Char}
    (h : BlockComments offset (body ++ rest) spans) (begins : TokenText false kind token behind)
    (same : body ++ rest = token ++ behind) (nonempty : body ≠ []) (line : EndsLine body rest)
    (none : NoneAcross spans (offset + body.length)) : token.length ≤ body.length := by
  by_cases hk : kind = .blockComment
  · rw [same] at h
    obtain ⟨tail, -, rfl⟩ := h.of_token begins
    rw [if_pos hk] at none
    have ends := none _ List.mem_cons_self
    have positive := List.length_pos_iff.mpr nonempty
    dsimp only at ends
    omega
  · exact begins.length_le_of_endsLine hk same.symm line

/-- Through a line the lexer comes to the end of the line, unless a block comment goes on there. -/
theorem BlockComments.resumes_of_endsLine (h : BlockComments offset (body ++ rest) spans)
    (line : EndsLine body rest) (none : NoneAcross spans (offset + body.length)) :
    Resumes spans (offset + body.length) rest := by
  -- by induction on what is left of the line
  induction hn : body.length using Nat.strong_induction_on generalizing offset body spans with
  | _ n ih =>
    subst hn
    by_cases empty : body = []
    · subst empty
      exact h.resumes
    · -- one character or one token is taken off the line
      obtain ⟨piece, behind, rfl, positive, next⟩ : ∃ piece behind, body = piece ++ behind ∧
          0 < piece.length ∧ Resumes spans (offset + piece.length) (behind ++ rest) := by
        obtain ⟨c, tail, rfl⟩ := List.exists_cons_of_ne_nil empty
        cases begins : tokenAt? false (c :: tail ++ rest) with
        | none =>
          exact ⟨[c], tail, rfl, by simp, h.resumes_of_plain (beginsPlain_iff.mpr begins)⟩
        | some found =>
          obtain ⟨token, beyond, same, -, text⟩ := exists_tokenText begins
          have ends := h.length_le_of_endsLine text same empty line none
          obtain ⟨behind, split, rfl⟩ : ∃ behind, c :: tail = token ++ behind ∧
              beyond = behind ++ rest := by
            rcases List.append_eq_append_iff.mp same with ⟨less, rfl, rfl⟩ | other
            · rw [List.length_append] at ends
              obtain rfl : less = [] := List.eq_nil_of_length_eq_zero (by omega)
              exact ⟨[], by simp, by simp⟩
            · exact other
          rw [same] at h
          exact ⟨token, behind, split, List.length_pos_iff.mpr text.ne_nil,
            h.resumes_of_token text⟩
      rw [List.length_append, ← Nat.add_assoc] at none ⊢
      refine next.trans (Nat.le_add_right _ _) fun spansBehind lexed within => ?_
      refine ih behind.length (by simp; omega) lexed line.of_append (fun span hs => ?_) rfl
      exact none span (within span hs)

end Lexer

section Marks
variable {lineStart : Bool} {offset : Nat} {piece rest text source : List Char}
variable {spans : List Span} {span : Span}

theorem BlockComments.resumes_of_isPiece (h : BlockComments offset (piece ++ rest) spans)
    (is : IsPiece lineStart piece rest)
    (none : (marksFrom 0 lineStart (piece ++ rest))[0]? =
      some (.opens ⟨.preprocessorLine, piece.length⟩) → NoneAcross spans (offset + piece.length)) :
    Resumes spans (offset + piece.length) rest := by
  cases is with
  | code begins => exact h.resumes_of_plain (beginsPlain_of_code begins)
  | @token kind _ _ token =>
    by_cases hk : kind = .preprocessorLine
    · subst hk
      have outside := none (by rw [token.marksFrom_append]; rfl)
      cases token with
      | preprocessorLine _ _ line => exact h.resumes_of_endsLine line.endsLine_append outside
    · exact h.resumes_of_token (token.anywhere hk false)

theorem BlockComments.exists_mark_of_isPiece (h : BlockComments offset (piece ++ rest) spans)
    (is : IsPiece lineStart piece rest) (hs : span ∈ spans) {i : Nat} (hi : i < piece.length)
    (low : span.start ≤ offset + i) :
    ∃ mark, (marksFrom 0 lineStart (piece ++ rest))[i]? = some mark ∧ mark ≠ .code := by
  cases is with
  | code begins =>
    have later := (h.of_plain (beginsPlain_of_code begins)).le_start hs
    rw [List.length_singleton] at hi
    omega
  | token token => exact token.exists_mark hi

/-- Whether the characters of the block comments in a text are no code, up to the first preprocessor
line that ends within a comment. -/
def HidesComments (lineStart : Bool) (text : List Char) : Prop :=
  ∀ offset spans, BlockComments offset text spans → ∀ span ∈ spans, ∀ i,
    span.start ≤ offset + i → offset + i < span.stop →
    (∀ start length,
      (marksFrom 0 lineStart text)[start]? = some (.opens ⟨.preprocessorLine, length⟩) →
        start + length ≤ i → NoneAcross spans (offset + (start + length))) →
    ∃ mark, (marksFrom 0 lineStart text)[i]? = some mark ∧ mark ≠ .code

theorem HidesComments.append (behind : HidesComments (lineStartAfter lineStart piece) rest)
    (is : IsPiece lineStart piece rest) : HidesComments lineStart (piece ++ rest) := by
  intro offset spans lexed span hs i low high lines
  by_cases inside : i < piece.length
  · exact lexed.exists_mark_of_isPiece is hs inside low
  · obtain ⟨k, rfl⟩ := Nat.exists_eq_add_of_le (Nat.le_of_not_lt inside)
    have cut := is.cutsPieces
    -- if the piece is a preprocessor line, the lexer is at its end too
    obtain ⟨later, lexedLater, within, passed⟩ := lexed.resumes_of_isPiece is fun opens => by
      simpa using lines 0 piece.length opens (by omega)
    have remains : span ∈ later := (passed span hs).resolve_left (by omega)
    rw [cut.getElem?_marksFrom]
    refine behind _ later lexedLater span remains k (by omega) (by omega) ?_
    intro start length opens le other ho
    rw [← cut.getElem?_marksFrom] at opens
    have outside := lines _ length opens (by omega) other (within other ho)
    have same : offset + (piece.length + start + length) =
        offset + piece.length + (start + length) := by omega
    rwa [same] at outside

theorem hidesComments (lineStart : Bool) (text : List Char) : HidesComments lineStart text := by
  induction lineStart, text using pieces_induction with
  | nil =>
    intro offset spans lexed span hs
    obtain rfl := lexed.eq_lexComments
    simp [lexComments] at hs
  | code lineStart c rest begins ih =>
    have behind : HidesComments (lineStartAfter lineStart [c]) rest := ih
    exact behind.append (.code begins)
  | token lineStart kind body rest token ih => exact ih.append (.token token)

end Marks

/-- Whether no preprocessor line of a source that ends at or before an offset ends within one of
some stretches. -/
def LinesEndOutside (source : List Char) (spans : List Span) (i : Nat) : Prop :=
  ∀ start length, (marks source)[start]? = some (.opens ⟨.preprocessorLine, length⟩) →
    start + length ≤ i → NoneAcross spans (start + length)

/-- A lexer of C finds one list of block comments in a source. A character of one of them is blank
in the skeleton, unless a preprocessor line before it ends within a comment; so no declaration
begins there, and no brace is counted. -/
theorem blank_of_blockComments (source : List Char) :
    ∃ spans, (∀ other, BlockComments 0 source other ↔ other = spans) ∧
      ∀ span ∈ spans, ∀ i, span.start ≤ i → i < span.stop → LinesEndOutside source spans i →
        ∃ c, source[i]? = some c ∧ (skeleton source)[i]? = some (blanked c) ∧
          shapeAt? ((skeleton source).drop i) = none ∧ braceStep (blanked c) = 0 := by
  refine ⟨lexComments 0 0 source, fun other => blockComments_iff, ?_⟩
  intro span hs i low high lines
  obtain ⟨mark, found, hidden⟩ :=
    hidesComments true source 0 _ (blockComments_lexComments 0 source) span hs i (by simpa)
      (by simpa) (fun start length opens le => by simpa using lines start length opens le)
  have shown : (skeleton source)[i]? = source[i]?.map blanked :=
    getElem?_skeleton_of_hidden found hidden
  obtain ⟨c, here⟩ : ∃ c, source[i]? = some c := by
    have inText : i < (marks source).length := (List.getElem?_eq_some_iff.mp found).1
    rw [marks, length_marksFrom] at inText
    exact ⟨_, List.getElem?_eq_getElem inText⟩
  rw [here, Option.map_some] at shown
  refine ⟨c, here, shown, ?_, ?_⟩
  · rw [List.drop_eq_getElem?_toList_append, shown]
    exact shapeAt?_of_isBlank (isBlank_blanked c)
  · rw [blanked]
    split_ifs with line
    · subst line
      rfl
    · rfl

/-- A source with a directive line that holds a comment and what looks like one, a comment, and a
directive line that ends within a comment. -/
def brokenSource : List Char :=
  textOfLines ["#define OPEN \"/*\" /* \x7b */", "/* void f(void) \x7b */ int x;",
    "#define CLOSE /* \x7d", "void g(void) \x7b */"]

theorem blank_of_brokenSource :
    BlockComments 0 brokenSource [⟨18, 25⟩, ⟨26, 46⟩, ⟨68, 90⟩] ∧
      brokenSource[42]? = some '\x7b' ∧ (skeleton brokenSource)[42]? = some ' ' := by
  have lexed : lexComments 0 0 brokenSource = [⟨18, 25⟩, ⟨26, 46⟩, ⟨68, 90⟩] := by decide +kernel
  have here : brokenSource[42]? = some '\x7b' := by decide +kernel
  obtain ⟨spans, only, blank⟩ := blank_of_blockComments brokenSource
  have found : BlockComments 0 brokenSource [⟨18, 25⟩, ⟨26, 46⟩, ⟨68, 90⟩] :=
    blockComments_iff.mpr lexed.symm
  obtain rfl := (only _).mp found
  have lines : LinesEndOutside brokenSource [⟨18, 25⟩, ⟨26, 46⟩, ⟨68, 90⟩] 42 := by
    have checked : ∀ start < 43, ∀ length < 43,
        (marks brokenSource)[start]? = some (.opens ⟨.preprocessorLine, length⟩) →
          ∀ span ∈ ([⟨18, 25⟩, ⟨26, 46⟩, ⟨68, 90⟩] : List Span),
            ¬ (span.start < start + length ∧ start + length < span.stop) := by
      decide +kernel
    intro start length opens le
    exact checked start (by omega) length (by omega) opens
  obtain ⟨c, same, shown, -⟩ := blank ⟨26, 46⟩ (by simp) 42 (by decide) (by decide) lines
  obtain rfl : '\x7b' = c := Option.some.inj (here.symm.trans same)
  exact ⟨found, here, shown⟩

/-- Behind a directive line that ends within a comment, the comment's text is taken for code. -/
theorem not_forall_blank_of_blockComments :
    ¬ ∀ source spans, BlockComments 0 source spans → ∀ span ∈ spans, ∀ i, span.start ≤ i →
      i < span.stop → (skeleton source)[i]? = source[i]?.map blanked := by
  intro blank
  have lexed : [⟨10, 30⟩] =
      lexComments 0 0 (textOfLines ["#define A /*", "void f(void) \x7b */"]) := by
    decide +kernel
  have found := blockComments_iff.mpr lexed
  have shown := blank _ _ found ⟨10, 30⟩ (by simp) 13 (by decide) (by decide)
  exact absurd shown (by decide +kernel)

end AnnotatedTests
