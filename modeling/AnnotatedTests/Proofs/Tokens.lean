import AnnotatedTests.Source.Skeleton
import AnnotatedTests.Text.Blank
import Mathlib.Data.List.TakeWhile

/-! Tokens by the texts they have. A source is cut into characters of code and tokens, one after
the other, and what its skeleton shows is read off these pieces. -/
namespace AnnotatedTests

/-- Whether a literal can begin with a character. -/
def IsQuote (c : Char) : Prop :=
  c = '"' ∨ c = '\''

/-- Texts that can stand between the quotes of a literal: a backslash takes the next character
with it, whatever it is. -/
inductive LiteralBody (quote : Char) : List Char → Prop where
  | nil : LiteralBody quote []
  | escaped {c : Char} {body : List Char} :
    LiteralBody quote body → LiteralBody quote ('\\' :: c :: body)
  | plain {c : Char} {body : List Char} : c ≠ quote → c ≠ '\n' → c ≠ '\\' →
    LiteralBody quote body → LiteralBody quote (c :: body)

/-- Whether a comment that has been opened is not closed in a text. -/
def StaysOpen (text : List Char) : Prop :=
  ¬ ['*', '/'] <:+: text

/-- Whether a text begins at the end of a line, or is at its own end. -/
def AtLineEnd (text : List Char) : Prop :=
  ∀ c ∈ text.head?, c = '\n'

/-- Whether a text reaches to the end of its line, given what follows it. Lines that end in a
backslash go on behind it. -/
inductive LogicalLine : List Char → List Char → Prop where
  | ends {rest : List Char} : AtLineEnd rest → LogicalLine [] rest
  | joined {body rest : List Char} :
    LogicalLine body rest → LogicalLine ('\\' :: '\n' :: body) rest
  | other {c : Char} {body rest : List Char} : c ≠ '\n' →
    ¬ (c = '\\' ∧ (body ++ rest).head? = some '\n') →
    LogicalLine body rest → LogicalLine (c :: body) rest

/-- The texts that tokens have, given what follows them. Preprocessor lines are told apart only
where a line begins. -/
inductive TokenText (lineStart : Bool) : TokenKind → List Char → List Char → Prop where
  | closedComment {body rest : List Char} : StaysOpen (body ++ ['*']) →
    TokenText lineStart .blockComment ('/' :: '*' :: (body ++ ['*', '/'])) rest
  | openComment {body : List Char} : StaysOpen body →
    TokenText lineStart .blockComment ('/' :: '*' :: body) []
  | lineComment {body rest : List Char} : '\n' ∉ body → AtLineEnd rest →
    TokenText lineStart .lineComment ('/' :: '/' :: body) rest
  | literal {quote : Char} {body rest : List Char} : IsQuote quote → LiteralBody quote body →
    TokenText lineStart .literal (quote :: (body ++ [quote])) rest
  | preprocessorLine {indent body rest : List Char} : lineStart = true →
    (∀ c ∈ indent, isIndent c = true) → LogicalLine body rest →
    TokenText lineStart .preprocessorLine (indent ++ '#' :: body) rest

section Characters
variable {quote : Char}

theorem IsQuote.ne_backslash (h : IsQuote quote) : quote ≠ '\\' := by
  rcases h with rfl | rfl <;> decide

theorem IsQuote.ne_newline (h : IsQuote quote) : quote ≠ '\n' := by
  rcases h with rfl | rfl <;> decide

theorem IsQuote.isIndent_eq_false (h : IsQuote quote) : isIndent quote = false := by
  rcases h with rfl | rfl <;> decide

end Characters

section Literals
variable {quote c : Char} {rest : List Char}

theorem literalRest?_escaped :
    literalRest? quote ('\\' :: c :: rest) = (literalRest? quote rest).map (· + 2) := by
  rw [literalRest?]

theorem literalRest?_quote (hq : IsQuote quote) :
    literalRest? quote (quote :: rest) = some 1 := by
  rcases hq with rfl | rfl <;> rfl

theorem literalRest?_newline (hq : IsQuote quote) :
    literalRest? quote ('\n' :: rest) = none := by
  rcases hq with rfl | rfl <;> rfl

theorem literalRest?_plain (other : c ≠ quote) (line : c ≠ '\n') (escape : c ≠ '\\') :
    literalRest? quote (c :: rest) = (literalRest? quote rest).map (· + 1) := by
  rw [literalRest?.eq_def]
  split
  · simp_all
  · simp_all
  · simp_all

/-- A quote is closed where a body of a literal ends. -/
theorem literalRest?_eq_some_iff (hq : IsQuote quote) {text : List Char} {n : Nat} :
    literalRest? quote text = some n ↔
      ∃ body rest, text = body ++ quote :: rest ∧ LiteralBody quote body ∧
        n = body.length + 1 := by
  constructor
  · intro h
    fun_induction literalRest? quote text generalizing n with
    | case1 => simp at h
    | case2 c rest ih =>
      obtain ⟨m, found, rfl⟩ := Option.map_eq_some_iff.mp h
      obtain ⟨body, behind, rfl, literal, rfl⟩ := ih found
      exact ⟨'\\' :: c :: body, behind, rfl, .escaped literal, rfl⟩
    | case3 rest => exact ⟨[], rest, rfl, .nil, (Option.some.inj h).symm⟩
    | case4 => simp at h
    | case5 c rest _ other stays ih =>
      obtain ⟨m, found, rfl⟩ := Option.map_eq_some_iff.mp h
      obtain ⟨body, behind, rfl, literal, rfl⟩ := ih found
      obtain ⟨line, escape⟩ := not_or.mp stays
      exact ⟨c :: body, behind, rfl, .plain other line escape literal, rfl⟩
  · rintro ⟨body, rest, rfl, literal, rfl⟩
    induction literal with
    | nil => exact literalRest?_quote hq
    | escaped _ ih => simp [literalRest?_escaped, ih]
    | plain other line escape _ ih => simp [literalRest?_plain other line escape, ih]

end Literals

section Comments

theorem staysOpen_nil : StaysOpen [] := by
  simp [StaysOpen]

theorem staysOpen_cons {c : Char} {rest : List Char} :
    StaysOpen (c :: rest) ↔ ¬ (c = '*' ∧ rest.head? = some '/') ∧ StaysOpen rest := by
  have starts : ['*', '/'] <+: c :: rest ↔ c = '*' ∧ rest.head? = some '/' := by
    cases rest <;> simp [List.cons_prefix_cons, eq_comm]
  rw [StaysOpen, List.infix_cons_iff, starts, not_or, StaysOpen]

theorem blockCommentRest_cons {c : Char} {rest : List Char}
    (h : ¬ (c = '*' ∧ rest.head? = some '/')) :
    blockCommentRest (c :: rest) = blockCommentRest rest + 1 := by
  rw [blockCommentRest]
  rintro behind rfl rfl
  exact h ⟨rfl, rfl⟩

theorem blockCommentRest_of_staysOpen {body : List Char} (h : StaysOpen body) :
    blockCommentRest body = body.length := by
  induction body with
  | nil => rfl
  | cons c body ih =>
    obtain ⟨first, others⟩ := staysOpen_cons.mp h
    rw [blockCommentRest_cons first, ih others, List.length_cons]

theorem blockCommentRest_of_closed {body rest : List Char} (h : StaysOpen (body ++ ['*'])) :
    blockCommentRest (body ++ '*' :: '/' :: rest) = body.length + 2 := by
  induction body with
  | nil => rfl
  | cons c body ih =>
    obtain ⟨first, others⟩ := staysOpen_cons.mp h
    have next : (body ++ '*' :: '/' :: rest).head? = (body ++ ['*']).head? := by
      cases body <;> rfl
    rw [List.cons_append, blockCommentRest_cons (by rwa [next]), ih others, List.length_cons]

theorem staysOpen_or_closed (text : List Char) :
    StaysOpen text ∨
      ∃ body rest, text = body ++ '*' :: '/' :: rest ∧ StaysOpen (body ++ ['*']) := by
  induction text with
  | nil => exact .inl staysOpen_nil
  | cons c text ih =>
    by_cases closes : c = '*' ∧ text.head? = some '/'
    · obtain ⟨rfl, slash⟩ := closes
      obtain ⟨rest, rfl⟩ := List.head?_eq_some_iff.mp slash
      exact .inr ⟨[], rest, rfl, by simp [staysOpen_cons, staysOpen_nil]⟩
    · rcases ih with stays | ⟨body, rest, rfl, stays⟩
      · exact .inl (staysOpen_cons.mpr ⟨closes, stays⟩)
      · refine .inr ⟨c :: body, rest, rfl, staysOpen_cons.mpr ⟨?_, stays⟩⟩
        simpa [List.head?_append] using closes

end Comments

section Lines

theorem atLineEnd_nil : AtLineEnd [] := by
  simp [AtLineEnd]

theorem atLineEnd_newline {rest : List Char} : AtLineEnd ('\n' :: rest) := by
  simp [AtLineEnd]

theorem AtLineEnd.eq_newline {c : Char} {rest : List Char} (h : AtLineEnd (c :: rest)) :
    c = '\n' :=
  h c rfl

theorem LogicalLine.atLineEnd {body rest : List Char} (h : LogicalLine body rest) :
    AtLineEnd rest := by
  induction h with
  | ends stop => exact stop
  | joined _ ih => exact ih
  | other _ _ _ ih => exact ih

theorem LogicalLine.preprocessorRest_append {body rest : List Char} (h : LogicalLine body rest) :
    preprocessorRest (body ++ rest) = body.length := by
  induction h with
  | @ends rest stop =>
    cases rest with
    | nil => rfl
    | cons c rest =>
      obtain rfl := stop.eq_newline
      rfl
  | joined _ ih => simp [preprocessorRest, ih]
  | @other c body rest line splice _ ih =>
    rw [List.cons_append, preprocessorRest, ih, List.length_cons]
    · rintro behind rfl same
      exact splice ⟨rfl, by rw [same]; rfl⟩
    · exact line

theorem exists_logicalLine (text : List Char) :
    ∃ body rest, text = body ++ rest ∧ LogicalLine body rest := by
  fun_induction preprocessorRest text with
  | case1 => exact ⟨[], [], rfl, .ends atLineEnd_nil⟩
  | case2 rest ih =>
    obtain ⟨body, behind, rfl, line⟩ := ih
    exact ⟨'\\' :: '\n' :: body, behind, rfl, .joined line⟩
  | case3 rest => exact ⟨[], '\n' :: rest, rfl, .ends atLineEnd_newline⟩
  | case4 c rest splice line ih =>
    obtain ⟨body, behind, rfl, logical⟩ := ih
    refine ⟨c :: body, behind, rfl, .other line ?_ logical⟩
    rintro ⟨rfl, first⟩
    obtain ⟨tail, same⟩ := List.head?_eq_some_iff.mp first
    exact splice tail rfl same

end Lines

section Tokens
variable {lineStart : Bool} {kind : TokenKind} {body rest : List Char}

theorem TokenText.ne_nil (h : TokenText lineStart kind body rest) : body ≠ [] := by
  cases h <;> simp

theorem LogicalLine.congr (h : LogicalLine body rest) {other : List Char}
    (next : other.head? = rest.head?) : LogicalLine body other := by
  induction h with
  | ends stop => exact .ends (by rwa [AtLineEnd, next])
  | joined _ ih => exact .joined (ih next)
  | other line splice _ ih =>
    refine .other line ?_ (ih next)
    rwa [List.head?_append, next, ← List.head?_append]

/-- Where a token ends is settled by its own text and the character behind it. -/
theorem TokenText.congr (h : TokenText lineStart kind body rest) {other : List Char}
    (next : other.head? = rest.head?) : TokenText lineStart kind body other := by
  cases h with
  | closedComment stays => exact .closedComment stays
  | openComment stays =>
    rw [List.head?_nil, List.head?_eq_none_iff] at next
    exact next ▸ .openComment stays
  | lineComment inside stop => exact .lineComment inside (by rwa [AtLineEnd, next])
  | literal hq literal => exact .literal hq literal
  | preprocessorLine first indent line => exact .preprocessorLine first indent (line.congr next)

/-- Where lines begin matters to preprocessor lines only. -/
theorem TokenText.anywhere (h : TokenText lineStart kind body rest)
    (hk : kind ≠ .preprocessorLine) (lineStart : Bool) : TokenText lineStart kind body rest := by
  cases h with
  | closedComment stays => exact .closedComment stays
  | openComment stays => exact .openComment stays
  | lineComment inside stop => exact .lineComment inside stop
  | literal hq literal => exact .literal hq literal
  | preprocessorLine => exact absurd rfl hk

theorem preprocessorLine?_append {indent : List Char} (h : ∀ c ∈ indent, isIndent c = true) :
    preprocessorLine? (indent ++ '#' :: rest) =
      some ⟨.preprocessorLine, indent.length + 1 + preprocessorRest rest⟩ := by
  have hash : isIndent '#' = false := by decide
  have drop : (indent ++ '#' :: rest).dropWhile isIndent = '#' :: rest := by
    rw [List.dropWhile_append_of_pos h, List.dropWhile_cons_of_neg (by simp [hash])]
  have take : (indent ++ '#' :: rest).takeWhile isIndent = indent := by
    rw [List.takeWhile_append_of_pos h, List.takeWhile_cons_of_neg (by simp [hash]),
      List.append_nil]
  simp only [preprocessorLine?, drop, take]

/-- A character that begins no comment and no literal can only begin a preprocessor line. -/
theorem tokenAt?_other {c : Char} (slash : c ≠ '/') (quote : ¬ IsQuote c) :
    tokenAt? lineStart (c :: rest) =
      if lineStart then preprocessorLine? (c :: rest) else none := by
  obtain ⟨double, single⟩ := not_or.mp quote
  rw [tokenAt?.eq_def]
  split <;> simp_all

theorem TokenText.tokenAt?_append (h : TokenText lineStart kind body rest) :
    tokenAt? lineStart (body ++ rest) = some ⟨kind, body.length⟩ := by
  cases h with
  | closedComment stays => simp [tokenAt?, blockCommentRest_of_closed stays]
  | openComment stays => simp [tokenAt?, blockCommentRest_of_staysOpen stays]
  | @lineComment body rest inside stop =>
    have run : (body ++ rest).takeWhile (· ≠ '\n') = body := by
      rw [List.takeWhile_append_of_pos (fun c hc => by simpa using ne_of_mem_of_not_mem hc inside)]
      cases rest with
      | nil => simp
      | cons c rest => simp [stop.eq_newline]
    simp only [List.cons_append, tokenAt?, run, List.length_cons]
  | @literal quote body rest hq literal =>
    have closed := (literalRest?_eq_some_iff hq).mpr ⟨body, rest, rfl, literal, rfl⟩
    rcases hq with rfl | rfl <;> simp [tokenAt?, closed]
  | @preprocessorLine indent body rest first indented line =>
    obtain ⟨c, tail, start⟩ : ∃ c tail, indent ++ '#' :: body ++ rest = c :: tail :=
      List.exists_cons_of_ne_nil (by simp)
    have begins : c = '#' ∨ isIndent c = true := by
      cases indent with
      | nil => exact .inl (List.cons.inj start).1.symm
      | cons d indent =>
        obtain rfl : d = c := (List.cons.inj start).1
        exact .inr (indented d List.mem_cons_self)
    have slash : c ≠ '/' := by
      rintro rfl
      rcases begins with h | h <;> exact absurd h (by decide)
    have quote : ¬ IsQuote c := by
      intro hq
      rcases begins with rfl | h
      · exact absurd hq (by unfold IsQuote; decide)
      · rw [hq.isIndent_eq_false] at h
        exact Bool.false_ne_true h
    rw [start, tokenAt?_other slash quote, if_pos first, ← start, List.append_assoc,
      List.cons_append, preprocessorLine?_append indented, line.preprocessorRest_append,
      List.length_append, List.length_cons, Nat.add_assoc, Nat.add_comm 1]

theorem exists_preprocessorLine {text : List Char} {token : Token}
    (h : preprocessorLine? text = some token) :
    ∃ body rest, text = body ++ rest ∧ body.length = token.length ∧
      TokenText true token.kind body rest := by
  unfold preprocessorLine? at h
  split at h
  · rename_i behind hash
    obtain rfl := Option.some.inj h
    obtain ⟨body, rest, rfl, line⟩ := exists_logicalLine behind
    refine ⟨text.takeWhile isIndent ++ '#' :: body, rest, ?_, ?_,
      .preprocessorLine rfl (fun c hc => List.mem_takeWhile_imp hc) line⟩
    · rw [List.append_assoc, List.cons_append, ← hash, List.takeWhile_append_dropWhile]
    · simp only [List.length_append, List.length_cons, line.preprocessorRest_append]
      omega
  · simp at h

theorem exists_literal {quote : Char} (hq : IsQuote quote) {behind : List Char} {token : Token}
    (h : (literalRest? quote behind).map (fun n => (⟨.literal, n + 1⟩ : Token)) = some token) :
    ∃ body rest, quote :: behind = body ++ rest ∧ body.length = token.length ∧
      TokenText lineStart token.kind body rest := by
  obtain ⟨n, closed, rfl⟩ := Option.map_eq_some_iff.mp h
  obtain ⟨body, rest, rfl, literal, rfl⟩ := (literalRest?_eq_some_iff hq).mp closed
  exact ⟨quote :: (body ++ [quote]), rest, by simp, by simp, .literal hq literal⟩

theorem exists_tokenText {text : List Char} {token : Token}
    (h : tokenAt? lineStart text = some token) :
    ∃ body rest, text = body ++ rest ∧ body.length = token.length ∧
      TokenText lineStart token.kind body rest := by
  unfold tokenAt? at h
  split at h
  · rename_i rest
    obtain rfl := Option.some.inj h
    rcases staysOpen_or_closed rest with stays | ⟨body, behind, rfl, stays⟩
    · exact ⟨'/' :: '*' :: rest, [], by simp, by simp [blockCommentRest_of_staysOpen stays],
        .openComment stays⟩
    · exact ⟨'/' :: '*' :: (body ++ ['*', '/']), behind, by simp,
        by simp [blockCommentRest_of_closed stays], .closedComment stays⟩
  · rename_i rest
    obtain rfl := Option.some.inj h
    refine ⟨'/' :: '/' :: rest.takeWhile (· ≠ '\n'), rest.dropWhile (· ≠ '\n'), by simp, by simp,
      .lineComment ?_ ?_⟩
    · intro inside
      simpa using List.mem_takeWhile_imp inside
    · intro c hc
      have stop := List.head?_dropWhile_not (· ≠ '\n') rest
      rw [Option.mem_def.mp hc] at stop
      simpa using stop
  · exact exists_literal (.inl rfl) h
  · exact exists_literal (.inr rfl) h
  · split_ifs at h with first
    subst first
    exact exists_preprocessorLine h

theorem tokenAt?_eq_some_iff {text : List Char} {token : Token} :
    tokenAt? lineStart text = some token ↔
      ∃ body rest, text = body ++ rest ∧ body.length = token.length ∧
        TokenText lineStart token.kind body rest := by
  constructor
  · exact exists_tokenText
  · rintro ⟨body, rest, rfl, length, token⟩
    rw [token.tokenAt?_append, length]

end Tokens

/-- Whether a line begins behind a text, given whether one begins with it. -/
def lineStartAfter (lineStart : Bool) (text : List Char) : Bool :=
  text.foldl (fun _ c => c == '\n') lineStart

/-- What the skeleton shows for a character of a token. -/
def blanked (c : Char) : Char :=
  if c = '\n' then c else ' '

theorem isBlank_blanked (c : Char) : isBlank (blanked c) = true := by
  rw [blanked]
  split_ifs with line
  · exact line ▸ isBlank_newline
  · exact isBlank_space

/-- The skeleton of a text, given whether a line begins with it. -/
def skeletonFrom (lineStart : Bool) (text : List Char) : List Char :=
  List.zipWith blankOut text (marksFrom 0 lineStart text)

section Pieces
variable {lineStart : Bool} {kind : TokenKind} {c : Char} {body rest : List Char}

theorem marksFrom_append_of_hidden :
    marksFrom body.length lineStart (body ++ rest) =
      List.replicate body.length .inside ++
        marksFrom 0 (lineStartAfter lineStart body) rest := by
  induction body generalizing lineStart with
  | nil => rfl
  | cons c body ih =>
    rw [List.length_cons, List.cons_append, marksFrom, ih, List.replicate_succ, List.cons_append,
      lineStartAfter, lineStartAfter, List.foldl_cons]

theorem marksFrom_of_code (h : tokenAt? lineStart (c :: rest) = none) :
    marksFrom 0 lineStart (c :: rest) = .code :: marksFrom 0 (c == '\n') rest := by
  rw [marksFrom, h]

theorem TokenText.marksFrom_append (h : TokenText lineStart kind body rest) :
    marksFrom 0 lineStart (body ++ rest) =
      .opens ⟨kind, body.length⟩ :: (List.replicate (body.length - 1) .inside ++
        marksFrom 0 (lineStartAfter lineStart body) rest) := by
  have begins := h.tokenAt?_append
  obtain ⟨c, body, rfl⟩ := List.exists_cons_of_ne_nil h.ne_nil
  rw [List.cons_append] at begins ⊢
  rw [marksFrom, begins]
  simp only [List.length_cons, Nat.add_sub_cancel]
  rw [marksFrom_append_of_hidden, lineStartAfter, lineStartAfter, List.foldl_cons]

theorem TokenText.exists_mark (h : TokenText lineStart kind body rest) {i : Nat}
    (hi : i < body.length) :
    ∃ mark, (marksFrom 0 lineStart (body ++ rest))[i]? = some mark ∧ mark ≠ .code := by
  rw [h.marksFrom_append]
  cases i with
  | zero => exact ⟨_, rfl, by simp⟩
  | succ i =>
    have inside : i < (List.replicate (body.length - 1) Mark.inside).length := by
      simp only [List.length_replicate]
      omega
    refine ⟨.inside, ?_, by simp⟩
    rw [List.getElem?_cons_succ, List.getElem?_append_left inside,
      List.getElem?_replicate_of_lt (by simpa using inside)]

theorem skeletonFrom_of_code (h : tokenAt? lineStart (c :: rest) = none) :
    skeletonFrom lineStart (c :: rest) = c :: skeletonFrom (c == '\n') rest := by
  rw [skeletonFrom, marksFrom_of_code h, List.zipWith_cons_cons, skeletonFrom, blankOut,
    if_pos (.inl rfl)]

theorem getElem?_skeleton_of_code {source : List Char} {i : Nat}
    (h : (marks source)[i]? = some .code) : (skeleton source)[i]? = source[i]? := by
  rw [skeleton, List.getElem?_zipWith, h]
  cases source[i]? <;> simp [blankOut]

theorem getElem?_skeleton_of_hidden {source : List Char} {i : Nat} {mark : Mark}
    (h : (marks source)[i]? = some mark) (hidden : mark ≠ .code) :
    (skeleton source)[i]? = source[i]?.map blanked := by
  rw [skeleton, List.getElem?_zipWith, h]
  cases source[i]? <;> simp [blankOut, blanked, hidden]

theorem blanked_blanked (c : Char) : blanked (blanked c) = blanked c := by
  by_cases line : c = '\n' <;> simp [blanked, line]

theorem blanked_eq_newline_iff {c : Char} : blanked c = '\n' ↔ c = '\n' := by
  by_cases line : c = '\n' <;> simp [blanked, line]

theorem zipWith_blankOut_of_ne_code {ms : List Mark} (length : ms.length = body.length)
    (hidden : .code ∉ ms) : List.zipWith blankOut body ms = body.map blanked := by
  induction body generalizing ms with
  | nil => rfl
  | cons c body ih =>
    obtain ⟨mark, ms, rfl⟩ := List.exists_cons_of_length_eq_add_one length
    rw [List.mem_cons, not_or] at hidden
    rw [List.zipWith_cons_cons, List.map_cons, ih (by simpa using length) hidden.2]
    simp [blankOut, blanked, Ne.symm hidden.1]

theorem TokenText.skeletonFrom_append (h : TokenText lineStart kind body rest) :
    skeletonFrom lineStart (body ++ rest) =
      body.map blanked ++ skeletonFrom (lineStartAfter lineStart body) rest := by
  have positive : 0 < body.length := List.length_pos_iff.mpr h.ne_nil
  have blank : List.zipWith blankOut body
      (.opens ⟨kind, body.length⟩ :: List.replicate (body.length - 1) .inside) =
        body.map blanked :=
    zipWith_blankOut_of_ne_code (by simp; omega) (by simp [List.mem_replicate])
  rw [skeletonFrom, h.marksFrom_append, ← List.cons_append, List.zipWith_append (by simp; omega),
    blank, skeletonFrom]

/-- To prove something of every text it is enough to prove it of the empty one, and of what begins
with a character of code or with a token if it holds of the rest. -/
@[elab_as_elim]
theorem pieces_induction {motive : Bool → List Char → Prop}
    (nil : ∀ lineStart, motive lineStart [])
    (code : ∀ lineStart c rest, tokenAt? lineStart (c :: rest) = none → motive (c == '\n') rest →
      motive lineStart (c :: rest))
    (token : ∀ lineStart kind body rest, TokenText lineStart kind body rest →
      motive (lineStartAfter lineStart body) rest → motive lineStart (body ++ rest))
    (lineStart : Bool) (text : List Char) : motive lineStart text := by
  induction hn : text.length using Nat.strong_induction_on generalizing lineStart text with
  | _ n ih =>
    subst hn
    cases text with
    | nil => exact nil lineStart
    | cons c rest =>
      cases begins : tokenAt? lineStart (c :: rest) with
      | none => exact code lineStart c rest begins (ih _ (by simp) _ _ rfl)
      | some found =>
        obtain ⟨body, behind, split, -, text⟩ := exists_tokenText begins
        rw [split]
        refine token lineStart _ body behind text (ih _ ?_ _ _ rfl)
        have := List.length_pos_iff.mpr text.ne_nil
        rw [split, List.length_append]
        omega

/-- Whether a text can be cut between two of its pieces: what stands behind the cut is read as a
text of its own. -/
def CutsPieces (lineStart : Bool) (before after : List Char) : Prop :=
  ∃ ms : List Mark, ms.length = before.length ∧ marksFrom 0 lineStart (before ++ after) =
    ms ++ marksFrom 0 (lineStartAfter lineStart before) after

/-- A character of code, or the text of a token. -/
inductive IsPiece (lineStart : Bool) : List Char → List Char → Prop where
  | code {c : Char} {rest : List Char} : tokenAt? lineStart (c :: rest) = none →
    IsPiece lineStart [c] rest
  | token {kind : TokenKind} {body rest : List Char} : TokenText lineStart kind body rest →
    IsPiece lineStart body rest

theorem lineStartAfter_append {before : List Char} :
    lineStartAfter lineStart (before ++ body) =
      lineStartAfter (lineStartAfter lineStart before) body :=
  List.foldl_append

theorem lineStartAfter_concat {before : List Char} :
    lineStartAfter lineStart (before ++ [c]) = (c == '\n') := by
  rw [lineStartAfter_append]
  rfl

theorem CutsPieces.nil : CutsPieces lineStart [] rest :=
  ⟨[], rfl, rfl⟩

theorem CutsPieces.append {before between after : List Char}
    (first : CutsPieces lineStart before (between ++ after))
    (second : CutsPieces (lineStartAfter lineStart before) between after) :
    CutsPieces lineStart (before ++ between) after := by
  obtain ⟨ms, length, split⟩ := first
  obtain ⟨behind, lengthBehind, splitBehind⟩ := second
  refine ⟨ms ++ behind, by simp [length, lengthBehind], ?_⟩
  rw [List.append_assoc, split, splitBehind, lineStartAfter_append, List.append_assoc]

theorem IsPiece.cutsPieces {piece : List Char} (h : IsPiece lineStart piece rest) :
    CutsPieces lineStart piece rest := by
  cases h with
  | code begins => exact ⟨[.code], rfl, marksFrom_of_code begins⟩
  | token text =>
    have positive : 0 < piece.length := List.length_pos_iff.mpr text.ne_nil
    exact ⟨_ :: List.replicate (piece.length - 1) .inside, by simp; omega, text.marksFrom_append⟩

/-- Whether the character at an offset of a text belongs to one of its pieces. -/
def InPiece (lineStart : Bool) (text : List Char) (i : Nat) : Prop :=
  ∃ before piece after, text = before ++ (piece ++ after) ∧
    CutsPieces lineStart before (piece ++ after) ∧ before.length ≤ i ∧
    i < before.length + piece.length ∧ IsPiece (lineStartAfter lineStart before) piece after

theorem InPiece.append {piece : List Char} {i : Nat}
    (behind : ∀ i < rest.length, InPiece (lineStartAfter lineStart piece) rest i)
    (is : IsPiece lineStart piece rest) (h : i < (piece ++ rest).length) :
    InPiece lineStart (piece ++ rest) i := by
  rw [List.length_append] at h
  by_cases inside : i < piece.length
  · exact ⟨[], piece, rest, rfl, .nil, Nat.zero_le i, by simpa using inside, is⟩
  · obtain ⟨before, next, after, rfl, cut, low, high, isNext⟩ :=
      behind (i - piece.length) (by omega)
    refine ⟨piece ++ before, next, after, by simp, is.cutsPieces.append cut, ?_, ?_, ?_⟩
    · rw [List.length_append]
      omega
    · rw [List.length_append]
      omega
    · rwa [lineStartAfter_append]

/-- Every character of a text belongs to one of its pieces. -/
theorem exists_piece (lineStart : Bool) (text : List Char) {i : Nat} (h : i < text.length) :
    InPiece lineStart text i := by
  induction lineStart, text using pieces_induction generalizing i with
  | nil => simp at h
  | code lineStart c rest begins ih =>
    have behind (i : Nat) (hi : i < rest.length) :
        InPiece (lineStartAfter lineStart [c]) rest i := ih hi
    exact InPiece.append behind (.code begins) h
  | token lineStart kind body rest text ih =>
    exact InPiece.append (fun i hi => ih hi) (.token text) h

theorem CutsPieces.getElem?_marksFrom {before after : List Char}
    (h : CutsPieces lineStart before after) (k : Nat) :
    (marksFrom 0 lineStart (before ++ after))[before.length + k]? =
      (marksFrom 0 (lineStartAfter lineStart before) after)[k]? := by
  obtain ⟨ms, length, split⟩ := h
  rw [split, ← length, List.getElem?_append_right (Nat.le_add_right _ _), Nat.add_sub_cancel_left]

theorem CutsPieces.exists_skeletonFrom {before after : List Char}
    (h : CutsPieces lineStart before after) :
    ∃ shown : List Char, shown.length = before.length ∧ skeletonFrom lineStart (before ++ after) =
      shown ++ skeletonFrom (lineStartAfter lineStart before) after := by
  obtain ⟨ms, length, split⟩ := h
  refine ⟨List.zipWith blankOut before ms, by simp [length], ?_⟩
  rw [skeletonFrom, split, List.zipWith_append length.symm, skeletonFrom]

/-- A token that opens in a text is the text of one. -/
theorem exists_of_opens {text : List Char} {i : Nat} {token : Token}
    (h : (marksFrom 0 lineStart text)[i]? = some (.opens token)) :
    ∃ before body after, text = before ++ (body ++ after) ∧ before.length = i ∧
      body.length = token.length ∧
      TokenText (lineStartAfter lineStart before) token.kind body after ∧
      CutsPieces lineStart before (body ++ after) := by
  have inText : i < text.length := by
    rw [← length_marksFrom 0 lineStart text]
    exact (List.getElem?_eq_some_iff.mp h).1
  obtain ⟨before, piece, after, rfl, cut, low, high, is⟩ := exists_piece lineStart text inText
  obtain ⟨k, rfl⟩ := Nat.exists_eq_add_of_le low
  rw [cut.getElem?_marksFrom] at h
  cases is with
  | code begins =>
    obtain rfl : k = 0 := by simpa using high
    rw [List.singleton_append, marksFrom_of_code begins] at h
    simp at h
  | token body =>
    rw [body.marksFrom_append] at h
    cases k with
    | zero =>
      obtain rfl : token = ⟨_, piece.length⟩ := by simpa [eq_comm] using h
      exact ⟨before, piece, after, rfl, rfl, rfl, body, cut⟩
    | succ k =>
      -- behind its first character a token opens no other
      have inside : k < (List.replicate (piece.length - 1) Mark.inside).length := by
        simp only [List.length_replicate]
        omega
      rw [List.getElem?_cons_succ, List.getElem?_append_left inside] at h
      simp [List.getElem?_replicate] at h

theorem inside_of_opens {text : List Char} {i k : Nat} {token : Token}
    (h : (marksFrom 0 lineStart text)[i]? = some (.opens token)) (low : 0 < k)
    (high : k < token.length) : (marksFrom 0 lineStart text)[i + k]? = some .inside := by
  obtain ⟨before, body, after, rfl, rfl, length, text, cut⟩ := exists_of_opens h
  obtain ⟨k, rfl⟩ := Nat.exists_eq_add_of_lt low
  have inside : k < (List.replicate (body.length - 1) Mark.inside).length := by
    simp only [List.length_replicate]
    omega
  rw [cut.getElem?_marksFrom, text.marksFrom_append, Nat.zero_add, List.getElem?_cons_succ,
    List.getElem?_append_left inside, List.getElem?_replicate_of_lt (by simpa using inside)]

/-- No two tokens overlap. -/
theorem eq_of_opens {text : List Char} {i j n : Nat} {first second : Token}
    (hi : (marksFrom 0 lineStart text)[i]? = some (.opens first))
    (hj : (marksFrom 0 lineStart text)[j]? = some (.opens second))
    (inFirst : i ≤ n ∧ n < i + first.length) (inSecond : j ≤ n ∧ n < j + second.length) :
    i = j := by
  have apart {i j : Nat} {first second : Token}
      (hi : (marksFrom 0 lineStart text)[i]? = some (.opens first))
      (hj : (marksFrom 0 lineStart text)[j]? = some (.opens second)) (later : i < j) :
      i + first.length ≤ j := by
    by_contra reaches
    have inside := inside_of_opens hi (k := j - i) (by omega) (by omega)
    rw [Nat.add_sub_cancel' later.le, hj] at inside
    simp at inside
  by_contra other
  rcases Nat.lt_or_gt_of_ne other with later | later
  · have := apart hi hj later
    omega
  · have := apart hj hi later
    omega

theorem mem_commentsFrom {span : Span} {ms : List Mark} {offset : Nat} :
    span ∈ commentsFrom offset ms ↔ ∃ i length,
      ms[i]? = some (.opens ⟨.blockComment, length⟩) ∧
        span = ⟨offset + i, offset + i + length⟩ := by
  -- what opens behind the first mark stands one character further on
  have behind (first : Mark) (rest : List Mark) (offset : Nat) :
      (∃ i length, (first :: rest)[i]? = some (.opens ⟨.blockComment, length⟩) ∧
        span = ⟨offset + i, offset + i + length⟩) ↔
      (∃ length, first = .opens ⟨.blockComment, length⟩ ∧ span = ⟨offset, offset + length⟩) ∨
        ∃ i length, rest[i]? = some (.opens ⟨.blockComment, length⟩) ∧
          span = ⟨offset + 1 + i, offset + 1 + i + length⟩ := by
    constructor
    · rintro ⟨i | i, length, opens, rfl⟩
      · exact .inl ⟨length, by simpa using opens, rfl⟩
      · have same : offset + (i + 1) = offset + 1 + i := by omega
        exact .inr ⟨i, length, by simpa using opens, by rw [same]⟩
    · rintro (⟨length, rfl, rfl⟩ | ⟨i, length, opens, rfl⟩)
      · exact ⟨0, length, rfl, rfl⟩
      · have same : offset + 1 + i = offset + (i + 1) := by omega
        exact ⟨i + 1, length, by simpa using opens, by rw [same]⟩
  fun_induction commentsFrom offset ms with
  | case1 => simp
  | case2 offset length rest ih => simp [behind, ih]
  | case3 offset first rest other ih =>
    have none (length : Nat) : first ≠ .opens ⟨.blockComment, length⟩ := other length
    simp [behind, ih, none]

/-- A block comment of a source is the text of one, and blank in the skeleton. -/
theorem exists_of_mem_comments {source : List Char} {span : Span} (h : span ∈ comments source) :
    ∃ before body after, source = before ++ (body ++ after) ∧
      span = ⟨before.length, before.length + body.length⟩ ∧
      TokenText (lineStartAfter true before) .blockComment body after ∧
      ∃ shown : List Char, shown.length = before.length ∧ skeleton source =
        shown ++ (body.map blanked ++
          skeletonFrom (lineStartAfter (lineStartAfter true before) body) after) := by
  obtain ⟨i, length, opens, rfl⟩ := mem_commentsFrom.mp h
  obtain ⟨before, body, after, rfl, rfl, rfl, text, cut⟩ := exists_of_opens opens
  obtain ⟨shown, same, split⟩ := cut.exists_skeletonFrom
  refine ⟨before, body, after, rfl, by simp, text, shown, same, ?_⟩
  rw [← text.skeletonFrom_append, ← split]
  rfl

end Pieces

end AnnotatedTests
