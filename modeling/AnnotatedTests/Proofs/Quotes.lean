import AnnotatedTests.Proofs.Tokens

/-! Quotes that are closed. Whether a quote begins a literal depends on the text behind it, other
tokens included. Blanking out tokens does not close a quote that was open, so what is no literal
stays none. -/
namespace AnnotatedTests

/-- Whether a quote before a text is closed in it. -/
def Closes (quote : Char) (text : List Char) : Prop :=
  (literalRest? quote text).isSome = true

section Steps
variable {quote c : Char} {rest : List Char}

theorem not_closes_nil : ¬ Closes quote [] := by
  simp [Closes, literalRest?]

theorem closes_backslash (hq : IsQuote quote) :
    Closes quote ('\\' :: rest) ↔ Closes quote rest.tail := by
  cases rest with
  | nil => rcases hq with rfl | rfl <;> simp [Closes, literalRest?]
  | cons c rest => rw [Closes, literalRest?_escaped, Option.isSome_map, List.tail_cons, Closes]

theorem closes_quote (hq : IsQuote quote) : Closes quote (quote :: rest) := by
  rw [Closes, literalRest?_quote hq, Option.isSome_some]

theorem not_closes_newline (hq : IsQuote quote) : ¬ Closes quote ('\n' :: rest) := by
  rw [Closes, literalRest?_newline hq]
  exact Bool.false_ne_true

theorem closes_plain (other : c ≠ quote) (line : c ≠ '\n') (escape : c ≠ '\\') :
    Closes quote (c :: rest) ↔ Closes quote rest := by
  rw [Closes, literalRest?_plain other line escape, Option.isSome_map, Closes]

theorem AtLineEnd.not_closes (h : AtLineEnd rest) (hq : IsQuote quote) : ¬ Closes quote rest := by
  cases rest with
  | nil => exact not_closes_nil
  | cons c rest =>
    obtain rfl := h.eq_newline
    exact not_closes_newline hq

theorem LiteralBody.closes (hq : IsQuote quote) {body : List Char} (h : LiteralBody quote body) :
    Closes quote (body ++ quote :: rest) := by
  rw [Closes, (literalRest?_eq_some_iff hq).mpr ⟨body, rest, rfl, h, rfl⟩, Option.isSome_some]

end Steps

/-- Whether a quote before a text is closed in it even if a backslash behind the quote takes the
first character of the text away. -/
structure SurelyCloses (quote : Char) (text : List Char) : Prop where
  whole : Closes quote text
  tail : Closes quote text.tail

/-- Whether a quote that is closed in the second text is closed in the first one too, also if a
backslash takes their first characters away. -/
structure Follows (quote : Char) (text other : List Char) : Prop where
  whole : Closes quote other → Closes quote text
  tail : Closes quote other.tail → Closes quote text.tail

section Follows
variable {quote c : Char} {body rest other : List Char}

theorem SurelyCloses.cons (hq : IsQuote quote) (line : c ≠ '\n') (h : SurelyCloses quote rest) :
    SurelyCloses quote (c :: rest) := by
  refine ⟨?_, h.whole⟩
  by_cases escape : c = '\\'
  · subst escape
    exact (closes_backslash hq).mpr h.tail
  · by_cases same : c = quote
    · subst same
      exact closes_quote hq
    · exact (closes_plain same line escape).mpr h.whole

theorem SurelyCloses.append (hq : IsQuote quote) (line : '\n' ∉ body)
    (h : SurelyCloses quote rest) : SurelyCloses quote (body ++ rest) := by
  induction body with
  | nil => exact h
  | cons c body ih =>
    rw [List.mem_cons, not_or] at line
    exact (ih line.2).cons hq (Ne.symm line.1)

theorem Follows.refl : Follows quote rest rest :=
  ⟨id, id⟩

theorem Follows.cons (hq : IsQuote quote) (h : Follows quote rest other) :
    Follows quote (c :: rest) (c :: other) := by
  refine ⟨fun closed => ?_, h.whole⟩
  by_cases escape : c = '\\'
  · subst escape
    rw [closes_backslash hq] at closed ⊢
    exact h.tail closed
  · by_cases same : c = quote
    · subst same
      exact closes_quote hq
    · have line : c ≠ '\n' := by
        rintro rfl
        exact not_closes_newline hq closed
      rw [closes_plain same line escape] at closed ⊢
      exact h.whole closed

/-- The same text may stand before both. -/
theorem Follows.append (hq : IsQuote quote) (h : Follows quote rest other) :
    Follows quote (body ++ rest) (body ++ other) := by
  induction body with
  | nil => exact h
  | cons c body ih => exact ih.cons hq

theorem closes_map_blanked_append (hq : IsQuote quote) :
    Closes quote (body.map blanked ++ rest) ↔ '\n' ∉ body ∧ Closes quote rest := by
  induction body with
  | nil => simp
  | cons c body ih =>
    by_cases line : c = '\n'
    · subst line
      simp [blanked, not_closes_newline hq]
    · have space : blanked c = ' ' := if_neg line
      have plain : Closes quote (' ' :: (body.map blanked ++ rest)) ↔
          Closes quote (body.map blanked ++ rest) := by
        refine closes_plain ?_ (by decide) (by decide)
        rcases hq with rfl | rfl <;> decide
      rw [List.map_cons, List.cons_append, space, plain, ih, List.mem_cons, not_or]
      simp [Ne.symm line]

/-- A text without backslashes takes nothing of what follows away. -/
theorem Follows.cons_of_ne_backslash (hq : IsQuote quote) (escape : c ≠ '\\')
    (h : Closes quote other → Closes quote rest) : Follows quote (c :: rest) (c :: other) := by
  refine ⟨fun closed => ?_, h⟩
  by_cases same : c = quote
  · subst same
    exact closes_quote hq
  · have line : c ≠ '\n' := by
      rintro rfl
      exact not_closes_newline hq closed
    rw [closes_plain same line escape] at closed ⊢
    exact h closed

end Follows

section Tokens
variable {quote : Char} {lineStart : Bool} {kind : TokenKind} {body rest other : List Char}

theorem closes_closing_iff (hq : IsQuote quote) :
    Closes quote ('*' :: '/' :: rest) ↔ Closes quote rest := by
  rcases hq with rfl | rfl <;>
    rw [closes_plain (by decide) (by decide) (by decide),
      closes_plain (by decide) (by decide) (by decide)]

theorem surelyCloses_closing (hq : IsQuote quote) (h : Closes quote rest) :
    SurelyCloses quote ('*' :: '/' :: rest) := by
  refine ⟨(closes_closing_iff hq).mpr h, ?_⟩
  rcases hq with rfl | rfl <;> exact (closes_plain (by decide) (by decide) (by decide)).mpr h

theorem surelyCloses_quote (hq : IsQuote quote) {other : Char} (ho : IsQuote other)
    (h : Closes quote rest) : SurelyCloses quote (other :: rest) := by
  refine ⟨?_, h⟩
  by_cases same : other = quote
  · subst same
    exact closes_quote hq
  · exact (closes_plain same ho.ne_newline ho.ne_backslash).mpr h

/-- A quote that is closed behind a token is closed before it too, unless a line ends in it. -/
theorem TokenText.exists_surelyCloses (h : TokenText lineStart kind body rest) (hq : IsQuote quote)
    (closed : Closes quote rest) :
    ∃ first init closing, body = first :: (init ++ closing) ∧ first ≠ '\n' ∧
      SurelyCloses quote (closing ++ rest) := by
  cases h with
  | @closedComment body rest _ =>
    exact ⟨'/', '*' :: body, ['*', '/'], rfl, by decide, surelyCloses_closing hq closed⟩
  | openComment _ => exact absurd closed not_closes_nil
  | lineComment _ stop => exact absurd closed (stop.not_closes hq)
  | @literal own body rest ho _ =>
    exact ⟨own, body, [own], rfl, ho.ne_newline, surelyCloses_quote hq ho closed⟩
  | preprocessorLine _ _ line => exact absurd closed (line.atLineEnd.not_closes hq)

/-- A token may be blanked out. -/
theorem TokenText.follows_blanked (h : TokenText lineStart kind body rest) (hq : IsQuote quote)
    (next : Follows quote rest other) :
    Follows quote (body ++ rest) (body.map blanked ++ other) := by
  have through (closed : Closes quote other) : ('\n' ∉ body → Closes quote (body ++ rest)) ∧
      ('\n' ∉ body.tail → Closes quote (body.tail ++ rest)) := by
    obtain ⟨first, init, closing, rfl, start, sure⟩ := h.exists_surelyCloses hq (next.whole closed)
    have behind (line : '\n' ∉ init ++ closing) :
        SurelyCloses quote (init ++ closing ++ rest) := by
      rw [List.mem_append, not_or] at line
      rw [List.append_assoc]
      exact sure.append hq line.1
    refine ⟨fun line => ?_, fun line => (behind line).whole⟩
    rw [List.mem_cons, not_or] at line
    exact ((behind line.2).cons hq start).whole
  obtain ⟨c, body, rfl⟩ := List.exists_cons_of_ne_nil h.ne_nil
  constructor
  · rw [closes_map_blanked_append hq]
    rintro ⟨line, closed⟩
    exact (through closed).1 line
  · rw [List.map_cons, List.cons_append, List.tail_cons, closes_map_blanked_append hq]
    rintro ⟨line, closed⟩
    exact (through closed).2 line

/-- What a comment says may be blanked out. -/
theorem follows_blanked_comment (hq : IsQuote quote) (next : Follows quote rest other) :
    Follows quote ('/' :: '*' :: (body ++ '*' :: '/' :: rest))
      ('/' :: '*' :: (body.map blanked ++ '*' :: '/' :: other)) := by
  refine Follows.cons hq (.cons_of_ne_backslash hq (by decide) ?_)
  rw [closes_map_blanked_append hq, closes_closing_iff hq]
  rintro ⟨line, closed⟩
  exact ((surelyCloses_closing hq (next.whole closed)).append hq line).whole

/-- What a literal says may be blanked out. -/
theorem follows_blanked_literal (hq : IsQuote quote) {own : Char} (ho : IsQuote own)
    (literal : LiteralBody own body) (next : Follows quote rest other) :
    Follows quote (own :: (body ++ own :: rest)) (own :: (body.map blanked ++ own :: other)) := by
  refine .cons_of_ne_backslash hq ho.ne_backslash ?_
  by_cases same : own = quote
  · subst same
    intro _
    exact literal.closes hq
  · rw [closes_map_blanked_append hq, closes_plain same ho.ne_newline ho.ne_backslash]
    rintro ⟨line, closed⟩
    exact ((surelyCloses_quote hq ho (next.whole closed)).append hq line).whole

end Tokens

section Code
variable {lineStart : Bool} {c : Char} {rest : List Char}

theorem preprocessorLine?_eq_none_iff {text : List Char} :
    preprocessorLine? text = none ↔ (text.dropWhile isIndent).head? ≠ some '#' := by
  unfold preprocessorLine?
  split
  · rename_i behind hash
    simp [hash]
  · rename_i other
    simp only [true_iff]
    intro hash
    obtain ⟨behind, same⟩ := List.head?_eq_some_iff.mp hash
    exact other behind same

theorem tokenAt?_slash (h : rest.head? ≠ some '*' ∧ rest.head? ≠ some '/') :
    tokenAt? lineStart ('/' :: rest) = none := by
  have noLine : preprocessorLine? ('/' :: rest) = none :=
    preprocessorLine?_eq_none_iff.mpr (by simp [isIndent])
  rw [tokenAt?.eq_def]
  split <;> simp_all

theorem tokenAt?_quote (hq : IsQuote c) :
    tokenAt? lineStart (c :: rest) = none ↔ ¬ Closes c rest := by
  rcases hq with rfl | rfl <;> simp [tokenAt?, Closes]

/-- When a character is code: it opens no comment, it is no quote that is closed behind it, and no
preprocessor line begins with it. -/
theorem tokenAt?_eq_none_iff :
    tokenAt? lineStart (c :: rest) = none ↔
      (c = '/' → rest.head? ≠ some '*' ∧ rest.head? ≠ some '/') ∧
      (IsQuote c → ¬ Closes c rest) ∧
      (lineStart = true → ((c :: rest).dropWhile isIndent).head? ≠ some '#') := by
  by_cases slash : c = '/'
  · subst slash
    have noQuote : ¬ IsQuote '/' := by simp [IsQuote]
    have noLine : (('/' :: rest).dropWhile isIndent).head? ≠ some '#' := by simp [isIndent]
    constructor
    · intro none
      refine ⟨fun _ => ⟨?_, ?_⟩, fun hq => absurd hq noQuote, fun _ => noLine⟩
      · intro star
        obtain ⟨behind, rfl⟩ := List.head?_eq_some_iff.mp star
        simp [tokenAt?] at none
      · intro second
        obtain ⟨behind, rfl⟩ := List.head?_eq_some_iff.mp second
        simp [tokenAt?] at none
    · rintro ⟨opens, -, -⟩
      exact tokenAt?_slash (opens rfl)
  · by_cases quote : IsQuote c
    · have noLine : ((c :: rest).dropWhile isIndent).head? ≠ some '#' := by
        rw [List.dropWhile_cons_of_neg (by simp [quote.isIndent_eq_false])]
        rcases quote with rfl | rfl <;> simp
      rw [tokenAt?_quote quote]
      simp [slash, quote, noLine]
    · rw [tokenAt?_other slash quote]
      cases lineStart
      · simp [slash, quote]
      · simp [slash, quote, preprocessorLine?_eq_none_iff]

end Code

end AnnotatedTests
