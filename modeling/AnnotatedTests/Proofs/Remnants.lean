import AnnotatedTests.Proofs.Quotes

/-! Blanking out a skeleton again. A skeleton has no comments and no literals: blanking out a token
makes no other. What it may have left is a preprocessor line behind a token on the same line, where
no line began in the source. -/
namespace AnnotatedTests

/-- Whether a line of a text begins at an offset. -/
def LineBegins (text : List Char) (i : Nat) : Prop :=
  i = 0 ∨ ∃ k, i = k + 1 ∧ text[k]? = some '\n'

/-- Whether the line of a source that begins at the first offset has a hash sign in its code at the
second one, and before it nothing but spaces, tabs and characters of tokens. -/
structure StrayHash (source : List Char) (start stop : Nat) : Prop where
  line : LineBegins source start
  ordered : start ≤ stop
  hash : source[stop]? = some '#'
  code : (marks source)[stop]? = some .code
  before : ∀ k, start ≤ k → k < stop → ∃ c, source[k]? = some c ∧ c ≠ '\n' ∧
    ((marks source)[k]? = some .code → isIndent c = true)

section Texts
variable {text before after : List Char} {start : Nat}

theorem lineStartAfter_eq_true_iff :
    lineStartAfter true before = true ↔ LineBegins (before ++ after) before.length := by
  rcases List.eq_nil_or_concat before with rfl | ⟨init, c, rfl⟩
  · simp [LineBegins, lineStartAfter]
  · rw [List.concat_eq_append, lineStartAfter_concat, beq_iff_eq]
    simp [LineBegins, eq_comm]

theorem head?_dropWhile_eq_hash_iff :
    (text.dropWhile isIndent).head? = some '#' ↔ ∃ n : Nat, text[n]? = some '#' ∧
      ∀ k < n, ∃ c, text[k]? = some c ∧ isIndent c = true := by
  have hash : isIndent '#' = false := by decide
  induction text with
  | nil => simp
  | cons c text ih =>
    by_cases indent : isIndent c = true
    · rw [List.dropWhile_cons_of_pos indent]
      refine ih.trans ⟨?_, ?_⟩
      · rintro ⟨n, here, before⟩
        refine ⟨n + 1, by simpa using here, fun k hk => ?_⟩
        cases k with
        | zero => exact ⟨c, rfl, indent⟩
        | succ k => simpa using before k (by omega)
      · rintro ⟨n, here, before⟩
        cases n with
        | zero =>
          obtain rfl : c = '#' := by simpa using here
          simp [hash] at indent
        | succ n =>
          refine ⟨n, by simpa using here, fun k hk => ?_⟩
          simpa using before (k + 1) (by omega)
    · rw [List.dropWhile_cons_of_neg indent]
      constructor
      · intro here
        exact ⟨0, by simpa using here, by simp⟩
      · rintro ⟨n, here, before⟩
        cases n with
        | zero => simpa using here
        | succ n =>
          obtain ⟨d, same, is⟩ := before 0 (by omega)
          obtain rfl : c = d := by simpa using same
          exact absurd is indent

end Texts

section Source
variable {source : List Char} {start stop i : Nat} {c : Char}

/-- A character of a source is one of code, with which no token begins, or stands in the text of a
token, of which no character is code. -/
theorem code_or_token (inText : i < source.length) :
    (∃ before c rest, source = before ++ c :: rest ∧ before.length = i ∧
      tokenAt? (lineStartAfter true before) (c :: rest) = none ∧
        (marks source)[i]? = some .code) ∨
      ∃ before kind body rest, source = before ++ (body ++ rest) ∧ before.length ≤ i ∧
        i < before.length + body.length ∧ TokenText (lineStartAfter true before) kind body rest ∧
        (marks source)[before.length]? = some (.opens ⟨kind, body.length⟩) ∧
        ∀ j, before.length ≤ j → j < before.length + body.length →
          (marks source)[j]? ≠ some .code := by
  obtain ⟨before, piece, after, rfl, cut, low, high, is⟩ := exists_piece true source inText
  have first := cut.getElem?_marksFrom 0
  cases is with
  | @code c _ begins =>
    obtain rfl : i = before.length := by
      rw [List.length_singleton] at high
      omega
    rw [List.singleton_append, marksFrom_of_code begins] at first
    exact .inl ⟨before, c, after, rfl, rfl, begins, first⟩
  | @token kind _ _ text =>
    refine .inr ⟨before, kind, piece, after, rfl, low, high, text, ?_, fun j lowJ highJ code => ?_⟩
    · rw [text.marksFrom_append] at first
      exact first
    · obtain ⟨k, rfl⟩ := Nat.exists_eq_add_of_le lowJ
      obtain ⟨mark, found, hidden⟩ := text.exists_mark (i := k) (by omega)
      rw [marks, cut.getElem?_marksFrom, found] at code
      exact hidden (Option.some.inj code)

theorem code_of_forall_not_opens (h : ∀ (i : Nat) token, (marks source)[i]? ≠ some (.opens token))
    (inText : i < source.length) : (marks source)[i]? = some .code := by
  rcases code_or_token inText with
    ⟨_, _, _, -, -, -, code⟩ | ⟨_, _, _, _, -, -, -, -, opens, -⟩
  · exact code
  · exact absurd opens (h _ _)

theorem lt_length_of_code (h : (marks source)[i]? = some .code) : i < source.length := by
  rw [← length_marksFrom 0 true source]
  exact (List.getElem?_eq_some_iff.mp h).1

/-- No token begins with a character of code. -/
theorem tokenAt?_of_code (h : (marks source)[i]? = some .code) :
    ∃ before c rest, source = before ++ c :: rest ∧ before.length = i ∧
      tokenAt? (lineStartAfter true before) (c :: rest) = none := by
  rcases code_or_token (lt_length_of_code h) with
    ⟨before, c, rest, split, length, begins, -⟩ | ⟨_, _, _, _, -, low, high, -, -, hidden⟩
  · exact ⟨before, c, rest, split, length, begins⟩
  · exact absurd h (hidden i low high)

/-- The skeleton shows a character where it is code, and a blank elsewhere. -/
theorem cases_of_getElem? (h : source[i]? = some c) :
    (marks source)[i]? = some .code ∧ (skeleton source)[i]? = some c ∨
      ∃ mark, (marks source)[i]? = some mark ∧ mark ≠ .code ∧
        (skeleton source)[i]? = some (blanked c) := by
  have inMarks : i < (marks source).length := by
    rw [marks, length_marksFrom]
    exact (List.getElem?_eq_some_iff.mp h).1
  have found := List.getElem?_eq_getElem inMarks
  by_cases code : (marks source)[i] = .code
  · rw [code] at found
    exact .inl ⟨found, (getElem?_skeleton_of_code found).trans h⟩
  · refine .inr ⟨_, found, code, ?_⟩
    rw [getElem?_skeleton_of_hidden found code, h, Option.map_some]

theorem cases_of_getElem?_skeleton (h : (skeleton source)[i]? = some c) :
    (marks source)[i]? = some .code ∧ source[i]? = some c ∨
      ∃ mark d, (marks source)[i]? = some mark ∧ mark ≠ .code ∧ source[i]? = some d ∧
        blanked d = c := by
  have inText : i < source.length := by
    rw [← length_skeleton]
    exact (List.getElem?_eq_some_iff.mp h).1
  have here := List.getElem?_eq_getElem inText
  rcases cases_of_getElem? here with ⟨code, shown⟩ | ⟨mark, found, hidden, shown⟩
  · rw [h] at shown
    exact .inl ⟨code, here.trans shown.symm⟩
  · rw [h] at shown
    exact .inr ⟨mark, _, found, hidden, here, (Option.some.inj shown).symm⟩

theorem getElem?_skeleton_eq_newline_iff :
    (skeleton source)[i]? = some '\n' ↔ source[i]? = some '\n' := by
  constructor
  · intro shown
    rcases cases_of_getElem?_skeleton shown with ⟨-, same⟩ | ⟨_, d, -, -, same, newline⟩
    · exact same
    · rwa [blanked_eq_newline_iff.mp newline] at same
  · intro newline
    rcases cases_of_getElem? newline with ⟨-, shown⟩ | ⟨_, -, -, shown⟩
    · exact shown
    · exact shown

theorem lineBegins_skeleton_iff : LineBegins (skeleton source) i ↔ LineBegins source i := by
  simp only [LineBegins, getElem?_skeleton_eq_newline_iff]

/-- A preprocessor line that is left in a skeleton is one whose hash sign stands behind tokens. -/
theorem strayHash_of_skeleton (line : LineBegins (skeleton source) i)
    (h : (((skeleton source).drop i).dropWhile isIndent).head? = some '#') :
    ∃ n, StrayHash source i (i + n) ∧ (skeleton source)[i + n]? = some '#' ∧
      ∀ k < n, ∃ c, (skeleton source)[i + k]? = some c ∧ isIndent c = true := by
  obtain ⟨n, hash, before⟩ := head?_dropWhile_eq_hash_iff.mp h
  simp only [List.getElem?_drop] at hash before
  refine ⟨n, ?_, hash, before⟩
  obtain ⟨code, here⟩ : (marks source)[i + n]? = some .code ∧ source[i + n]? = some '#' := by
    rcases cases_of_getElem?_skeleton hash with code | ⟨_, d, -, -, -, shown⟩
    · exact code
    · have blank := isBlank_blanked d
      rw [shown] at blank
      exact absurd blank (by decide)
  refine ⟨lineBegins_skeleton_iff.mp line, Nat.le_add_right i n, here, code, fun k low high => ?_⟩
  obtain ⟨m, rfl⟩ := Nat.exists_eq_add_of_le low
  obtain ⟨c, shown, indent⟩ := before m (by omega)
  rcases cases_of_getElem?_skeleton shown with ⟨_, same⟩ | ⟨mark, d, found, hidden, same, rfl⟩
  · refine ⟨c, same, ?_, fun _ => indent⟩
    rintro rfl
    exact absurd indent (by decide)
  · refine ⟨d, same, ?_, fun code => ?_⟩
    · rintro rfl
      exact absurd indent (by decide)
    · rw [found] at code
      exact absurd (Option.some.inj code) hidden

/-- A hash sign behind tokens makes a preprocessor line of the skeleton. -/
theorem StrayHash.head?_skeleton (h : StrayHash source start stop) :
    (((skeleton source).drop start).dropWhile isIndent).head? = some '#' := by
  obtain ⟨n, rfl⟩ := Nat.exists_eq_add_of_le h.ordered
  refine head?_dropWhile_eq_hash_iff.mpr ⟨n, ?_, fun k hk => ?_⟩
  · rw [List.getElem?_drop, getElem?_skeleton_of_code h.code, h.hash]
  · obtain ⟨c, here, line, indent⟩ := h.before (start + k) (by omega) (by omega)
    rcases cases_of_getElem? here with ⟨code, shown⟩ | ⟨_, -, -, shown⟩
    · exact ⟨c, by rw [List.getElem?_drop, shown], indent code⟩
    · have space : blanked c = ' ' := if_neg line
      rw [space] at shown
      exact ⟨' ', by rw [List.getElem?_drop, shown], by decide⟩

end Source

section Skeleton
variable {quote : Char} {source : List Char}

/-- The skeleton closes no quote that was open in the source. -/
theorem follows_skeletonFrom (hq : IsQuote quote) (lineStart : Bool) (text : List Char) :
    Follows quote text (skeletonFrom lineStart text) := by
  induction lineStart, text using pieces_induction with
  | nil => exact .refl
  | code lineStart c rest begins ih =>
    rw [skeletonFrom_of_code begins]
    exact ih.cons hq
  | token lineStart kind body rest token ih =>
    rw [token.skeletonFrom_append]
    exact token.follows_blanked hq ih

theorem head?_skeletonFrom_ne {c : Char} (visible : isBlank c = false) (lineStart : Bool)
    (text : List Char) (h : text.head? ≠ some c) :
    (skeletonFrom lineStart text).head? ≠ some c := by
  induction lineStart, text using pieces_induction with
  | nil => exact h
  | code lineStart d rest begins =>
    rw [skeletonFrom_of_code begins]
    exact h
  | token lineStart kind body rest token =>
    rw [token.skeletonFrom_append]
    obtain ⟨d, body, rfl⟩ := List.exists_cons_of_ne_nil token.ne_nil
    intro shown
    obtain rfl : blanked d = c := Option.some.inj shown
    rw [isBlank_blanked] at visible
    exact Bool.noConfusion visible

theorem tokenAt?_of_isBlank {c : Char} {rest : List Char} (h : isBlank c = true) :
    tokenAt? false (c :: rest) = none := by
  refine tokenAt?_eq_none_iff.mpr ⟨?_, ?_, by simp⟩
  · rintro rfl
    exact absurd h (by decide)
  · rintro (rfl | rfl) _
    · exact absurd h (by decide)
    · exact absurd h (by decide)

/-- No comment and no literal begins with any character of a skeleton. -/
theorem tokenAt?_drop_skeletonFrom (lineStart : Bool) (text : List Char) (i : Nat) :
    tokenAt? false ((skeletonFrom lineStart text).drop i) = none := by
  induction lineStart, text using pieces_induction generalizing i with
  | nil => simp [skeletonFrom, marksFrom, tokenAt?]
  | code lineStart c rest begins ih =>
    rw [skeletonFrom_of_code begins]
    cases i with
    | succ i => exact ih i
    | zero =>
      obtain ⟨slash, quote, -⟩ := tokenAt?_eq_none_iff.mp begins
      refine tokenAt?_eq_none_iff.mpr ⟨fun same => ?_, fun hq closed => ?_, by simp⟩
      · obtain ⟨star, second⟩ := slash same
        exact ⟨head?_skeletonFrom_ne (by decide) _ rest star,
          head?_skeletonFrom_ne (by decide) _ rest second⟩
      · exact quote hq ((follows_skeletonFrom hq _ rest).whole closed)
  | token lineStart kind body rest token ih =>
    rw [token.skeletonFrom_append]
    by_cases inside : i < body.length
    · have hi : i < (body.map blanked).length := by rwa [List.length_map]
      rw [List.drop_append_of_le_length hi.le, List.drop_eq_getElem_cons hi, List.getElem_map]
      exact tokenAt?_of_isBlank (isBlank_blanked _)
    · have length : (body.map blanked).length ≤ i := by rwa [List.length_map, ← not_lt]
      rw [List.drop_append, List.drop_eq_nil_of_le length, List.nil_append]
      exact ih _

/-- Where a line begins with code, its first visible character is no hash sign. -/
theorem head?_ne_hash_of_code {i : Nat} (h : (marks source)[i]? = some .code)
    (line : LineBegins source i) : ((source.drop i).dropWhile isIndent).head? ≠ some '#' := by
  obtain ⟨before, c, rest, rfl, rfl, none⟩ := tokenAt?_of_code h
  rw [lineStartAfter_eq_true_iff.mpr line] at none
  rw [List.drop_left]
  exact (tokenAt?_eq_none_iff.mp none).2.2 rfl

/-- A token ends with a character that is no space, or its line ends behind it. -/
theorem TokenText.atLineEnd_or_visible {lineStart : Bool} {kind : TokenKind} {body rest : List Char}
    (h : TokenText lineStart kind body rest) :
    AtLineEnd rest ∨ ∃ init c, body = init ++ [c] ∧ isIndent c = false := by
  cases h with
  | @closedComment inner _ _ => exact .inr ⟨'/' :: '*' :: (inner ++ ['*']), '/', by simp, by decide⟩
  | openComment _ => exact .inl atLineEnd_nil
  | lineComment _ stop => exact .inl stop
  | @literal quote inner _ hq _ => exact .inr ⟨quote :: inner, quote, rfl, hq.isIndent_eq_false⟩
  | preprocessorLine _ _ line => exact .inl line.atLineEnd

/-- Between a character of a token and one of code the token ends: with a character that is no space,
or before a line end. -/
theorem exists_visible_of_hidden {start stop : Nat} (ordered : start ≤ stop)
    (hidden : (marks source)[start]? ≠ some .code) (code : (marks source)[stop]? = some .code) :
    ∃ k c, start ≤ k ∧ source[k]? = some c ∧ isIndent c = false ∧
      (k < stop ∨ k ≤ stop ∧ c = '\n') := by
  have inText : stop < source.length := lt_length_of_code code
  rcases code_or_token (lt_of_le_of_lt ordered inText) with
    ⟨_, _, _, -, -, -, first⟩ | ⟨before, kind, body, rest, rfl, low, high, text, -, other⟩
  · exact absurd first hidden
  · have ends : before.length + body.length ≤ stop := by
      by_contra covers
      exact other stop (low.trans ordered) (by omega) code
    rcases text.atLineEnd_or_visible with line | ⟨init, c, rfl, visible⟩
    · have more : rest ≠ [] := by
        rintro rfl
        simp at inText
        omega
      obtain ⟨d, rest, rfl⟩ := List.exists_cons_of_ne_nil more
      obtain rfl := line.eq_newline
      exact ⟨before.length + body.length, '\n', high.le, by simp, by decide, .inr ⟨ends, rfl⟩⟩
    · rw [List.length_append, List.length_singleton] at high ends
      exact ⟨before.length + init.length, c, by omega, by simp, visible, .inl (by omega)⟩

/-- A hash sign is left in the code of a line only behind visible characters: a line that begins
with one is blanked out. -/
theorem StrayHash.exists_visible {start stop : Nat} (h : StrayHash source start stop) :
    ∃ k c, start ≤ k ∧ k < stop ∧ source[k]? = some c ∧ isIndent c = false := by
  by_cases first : (marks source)[start]? = some .code
  · by_contra absent
    obtain ⟨n, rfl⟩ := Nat.exists_eq_add_of_le h.ordered
    refine head?_ne_hash_of_code first h.line (head?_dropWhile_eq_hash_iff.mpr ⟨n, ?_, ?_⟩)
    · rw [List.getElem?_drop, h.hash]
    · intro k hk
      obtain ⟨c, here, -, -⟩ := h.before (start + k) (by omega) (by omega)
      refine ⟨c, by rw [List.getElem?_drop, here], ?_⟩
      by_contra visible
      exact absent ⟨start + k, c, by omega, by omega, here, by simpa using visible⟩
  · obtain ⟨k, c, low, here, visible, earlier | ⟨le, rfl⟩⟩ :=
      exists_visible_of_hidden h.ordered first h.code
    · exact ⟨k, c, low, earlier, here, visible⟩
    · rcases Nat.lt_or_eq_of_le le with earlier | rfl
      · exact ⟨k, '\n', low, earlier, here, visible⟩
      · rw [h.hash] at here
        exact absurd here (by decide)

/-- Every token of a skeleton is a preprocessor line, and its hash sign stands behind tokens. -/
theorem strayHash_of_opens {i : Nat} {token : Token}
    (h : (marks (skeleton source))[i]? = some (.opens token)) :
    token.kind = .preprocessorLine ∧ ∃ n < token.length, StrayHash source i (i + n) ∧
      (skeleton source)[i + n]? = some '#' := by
  obtain ⟨before, body, after, split, rfl, length, text, -⟩ := exists_of_opens h
  have behind : (skeleton source).drop before.length = body ++ after := by
    rw [split, List.drop_left]
  have isLine : token.kind = .preprocessorLine := by
    by_contra other
    have begins := (text.anywhere other false).tokenAt?_append
    have none : tokenAt? false ((skeleton source).drop before.length) = none :=
      tokenAt?_drop_skeletonFrom true source before.length
    rw [← behind, none] at begins
    simp at begins
  refine ⟨isLine, ?_⟩
  rw [isLine] at text
  cases text with
  | @preprocessorLine indent body _ first indented line =>
    have begins : LineBegins (skeleton source) before.length := by
      rw [split]
      exact lineStartAfter_eq_true_iff.mp first
    have hash : (((skeleton source).drop before.length).dropWhile isIndent).head? = some '#' := by
      rw [behind, List.append_assoc, List.dropWhile_append_of_pos indented]
      rfl
    obtain ⟨n, stray, here, spaces⟩ := strayHash_of_skeleton begins hash
    refine ⟨n, ?_, stray, here⟩
    by_contra beyond
    simp only [List.length_append, List.length_cons] at length
    obtain ⟨c, same, indent⟩ := spaces indent.length (by omega)
    rw [← List.getElem?_drop, behind] at same
    obtain rfl : '#' = c := by simpa using same
    exact absurd indent (by decide)

theorem skeleton_eq_self (h : ∀ (i : Nat) token, (marks source)[i]? ≠ some (.opens token)) :
    skeleton source = source := by
  apply List.ext_getElem?
  intro i
  by_cases inText : i < source.length
  · exact getElem?_skeleton_of_code (code_of_forall_not_opens h inText)
  · rw [List.getElem?_eq_none (by rw [length_skeleton]; omega), List.getElem?_eq_none (by omega)]

/-- A skeleton that is its own skeleton has no tokens. -/
theorem not_opens_of_skeleton_skeleton (h : skeleton (skeleton source) = skeleton source) (i : Nat)
    (token : Token) : (marks (skeleton source))[i]? ≠ some (.opens token) := by
  intro opens
  obtain ⟨-, n, inToken, -, hash⟩ := strayHash_of_opens opens
  have hidden : ∃ mark, (marks (skeleton source))[i + n]? = some mark ∧ mark ≠ .code := by
    cases n with
    | zero => exact ⟨_, opens, by simp⟩
    | succ n => exact ⟨.inside, inside_of_opens opens (Nat.succ_pos n) inToken, by simp⟩
  obtain ⟨mark, found, other⟩ := hidden
  have shown := getElem?_skeleton_of_hidden found other
  rw [h, hash, Option.map_some] at shown
  exact absurd shown (by decide)

/-- What is left in a skeleton to blank out is preprocessor lines behind a token on the same line, and
nothing else: a skeleton has no comments, and it is its own skeleton unless the source has such a
line. A preprocessor line with nothing but spaces and tabs before it is none of these. -/
theorem skeleton_skeleton (source : List Char) :
    comments (skeleton source) = [] ∧
      (∀ i token, (marks (skeleton source))[i]? = some (.opens token) →
        token.kind = .preprocessorLine ∧ ∃ n < token.length, StrayHash source i (i + n)) ∧
      (skeleton (skeleton source) = skeleton source ↔ ∀ i j, ¬ StrayHash source i j) ∧
      ∀ i j, StrayHash source i j →
        ∃ k c, i ≤ k ∧ k < j ∧ source[k]? = some c ∧ isIndent c = false := by
  refine ⟨?_, ?_, ⟨?_, ?_⟩, fun i j => StrayHash.exists_visible⟩
  · rw [List.eq_nil_iff_forall_not_mem]
    intro span hs
    obtain ⟨i, length, opens, -⟩ := mem_commentsFrom.mp hs
    obtain ⟨other, -⟩ := strayHash_of_opens opens
    simp at other
  · intro i token opens
    obtain ⟨isLine, n, inToken, stray, -⟩ := strayHash_of_opens opens
    exact ⟨isLine, n, inToken, stray⟩
  · intro same i j stray
    have inText : i < (skeleton source).length := by
      have inSource := (List.getElem?_eq_some_iff.mp stray.hash).1
      have ordered := stray.ordered
      rw [length_skeleton]
      omega
    have code := code_of_forall_not_opens (not_opens_of_skeleton_skeleton same) inText
    exact head?_ne_hash_of_code code (lineBegins_skeleton_iff.mpr stray.line) stray.head?_skeleton
  · intro none
    refine skeleton_eq_self fun i token opens => ?_
    obtain ⟨-, n, -, stray, -⟩ := strayHash_of_opens opens
    exact none _ _ stray

end Skeleton

/-- A preprocessor line behind a comment is left in the skeleton. -/
theorem not_forall_skeleton_skeleton :
    ¬ ∀ source, skeleton (skeleton source) = skeleton source := by
  intro same
  exact absurd (same "/**/#define A \x7b\n".toList) (by decide +kernel)

end AnnotatedTests
