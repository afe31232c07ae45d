import AnnotatedTests.Proofs.Redaction
import AnnotatedTests.Proofs.Remnants
import AnnotatedTests.Proofs.BlockComments

/-! The skeleton and the comments of a source, by offsets. The skeleton differs from the source only
where tokens stand, and there it is blank. The comments stand in order and apart, and each runs from
its opening delimiter to the first closing delimiter behind that. -/
namespace AnnotatedTests

/-- Whether the closing delimiter of a comment stands at an offset. -/
def ClosingAt (text : List Char) (i : Nat) : Prop :=
  text[i]? = some '*' ∧ text[i + 1]? = some '/'

/-- Whether a stretch of a source is a block comment: it has an opening delimiter at its start, and
behind that it reaches to the first closing delimiter, or to the end of the source if there is
none. -/
inductive IsComment (source : List Char) : Span → Prop where
  | closed {start last : Nat} : ['/', '*'] <+: source.drop start → start + 2 ≤ last →
    ClosingAt source last → (∀ i, start + 2 ≤ i → i < last → ¬ ClosingAt source i) →
    IsComment source ⟨start, last + 2⟩
  | unclosed {start : Nat} : ['/', '*'] <+: source.drop start →
    (∀ i, start + 2 ≤ i → ¬ ClosingAt source i) → IsComment source ⟨start, source.length⟩

/-- Whether an offset of a source lies in the text of a token. The token is listed if it is a block
comment. -/
def InToken (source : List Char) (i : Nat) : Prop :=
  ∃ before kind body after, source = before ++ (body ++ after) ∧ before.length ≤ i ∧
    i < before.length + body.length ∧ TokenText (lineStartAfter true before) kind body after ∧
    (kind = .blockComment → ⟨before.length, before.length + body.length⟩ ∈ comments source)

section Delimiters
variable {text rest before : List Char} {i : Nat}

theorem closingAt_append_right :
    ClosingAt (before ++ rest) (before.length + i) ↔ ClosingAt rest i := by
  have behind (k : Nat) : (before ++ rest)[before.length + k]? = rest[k]? := by
    rw [List.getElem?_append_right (Nat.le_add_right _ _), Nat.add_sub_cancel_left]
  rw [ClosingAt, Nat.add_assoc, behind, behind, ClosingAt]

theorem closingAt_append_left (h : i + 1 < text.length) :
    ClosingAt (text ++ rest) i ↔ ClosingAt text i := by
  rw [ClosingAt, List.getElem?_append_left (by omega), List.getElem?_append_left h, ClosingAt]

theorem staysOpen_iff_forall_not_closingAt : StaysOpen text ↔ ∀ i, ¬ ClosingAt text i := by
  induction text with
  | nil => simp [staysOpen_nil, ClosingAt]
  | cons c text ih =>
    have first : ClosingAt (c :: text) 0 ↔ c = '*' ∧ text.head? = some '/' := by
      simp [ClosingAt, List.head?_eq_getElem?]
    have behind (i : Nat) : ClosingAt (c :: text) (i + 1) ↔ ClosingAt text i := by
      simp [ClosingAt]
    rw [staysOpen_cons, ih, ← first]
    constructor
    · rintro ⟨start, others⟩ (_ | i)
      · exact start
      · exact (behind i).not.mpr (others i)
    · intro nowhere
      exact ⟨nowhere 0, fun i => (behind i).not.mp (nowhere (i + 1))⟩

end Delimiters

section Spans
variable {source : List Char} {span : Span}

theorem isComment_of_mem_comments (h : span ∈ comments source) : IsComment source span := by
  obtain ⟨before, body, after, rfl, rfl, text, -⟩ := exists_of_mem_comments h
  have opening (inner : List Char) :
      ['/', '*'] <+: (before ++ '/' :: '*' :: inner).drop before.length := by
    simp
  -- what stands behind the opening delimiter is found two characters further on
  have behind (inner : List Char) (i : Nat) :
      ClosingAt (before ++ '/' :: '*' :: inner) (before.length + 2 + i) ↔ ClosingAt inner i := by
    have split : before ++ '/' :: '*' :: inner = (before ++ ['/', '*']) ++ inner := by simp
    have length : before.length + 2 = (before ++ ['/', '*']).length := by simp
    rw [split, length, closingAt_append_right]
  cases text with
  | @closedComment inner _ stays =>
    have whole : before ++ ('/' :: '*' :: (inner ++ ['*', '/']) ++ after) =
        before ++ '/' :: '*' :: (inner ++ ['*'] ++ '/' :: after) := by
      simp
    have stop : before.length + ('/' :: '*' :: (inner ++ ['*', '/'])).length =
        before.length + 2 + inner.length + 2 := by
      simp
      omega
    rw [whole, stop]
    refine .closed (opening _) (by omega) ?_ fun i low high => ?_
    · rw [behind]
      simp [ClosingAt]
    · obtain ⟨k, rfl⟩ := Nat.exists_eq_add_of_le low
      rw [behind, closingAt_append_left (by simp; omega)]
      exact staysOpen_iff_forall_not_closingAt.mp stays k
  | @openComment inner stays =>
    rw [List.append_nil, ← List.length_append]
    refine .unclosed (opening inner) fun i low => ?_
    obtain ⟨k, rfl⟩ := Nat.exists_eq_add_of_le low
    rw [behind]
    exact staysOpen_iff_forall_not_closingAt.mp stays k

theorem stop_le_length_of_mem_comments (h : span ∈ comments source) :
    span.stop ≤ source.length := by
  obtain ⟨before, body, after, rfl, rfl, -⟩ := exists_of_mem_comments h
  simp only [List.length_append]
  omega

theorem pairwise_start_commentsFrom (offset : Nat) (ms : List Mark) :
    (commentsFrom offset ms).Pairwise fun first second => first.start < second.start := by
  fun_induction commentsFrom offset ms with
  | case1 => exact .nil
  | case2 offset length rest ih =>
    refine List.pairwise_cons.mpr ⟨fun later hl => ?_, ih⟩
    obtain ⟨i, _, -, rfl⟩ := mem_commentsFrom.mp hl
    dsimp only
    omega
  | case3 _ _ _ _ ih => exact ih

/-- Comments stand in the order of the source, and each ends where the next begins or before. -/
theorem pairwise_comments (source : List Char) :
    (comments source).Pairwise fun first second => first.stop ≤ second.start := by
  refine (pairwise_start_commentsFrom 0 (marks source)).imp_of_mem ?_
  intro first second hf hs ordered
  obtain ⟨opensFirst, longFirst⟩ := opens_of_mem_comments hf
  obtain ⟨opensSecond, longSecond⟩ := opens_of_mem_comments hs
  -- an offset in two comments would be the start of both
  by_contra overlap
  have same := eq_of_opens opensFirst opensSecond (n := second.start)
    (by dsimp only; omega) (by dsimp only; omega)
  omega

theorem getElem?_skeleton_of_mem_comments (h : span ∈ comments source) {i : Nat}
    (low : span.start ≤ i) (high : i < span.stop) :
    (skeleton source)[i]? = source[i]?.map blanked := by
  obtain ⟨opens, -⟩ := opens_of_mem_comments h
  rcases Nat.lt_or_eq_of_le low with later | rfl
  · have inside := inside_of_opens opens (k := i - span.start) (by omega) (by dsimp only; omega)
    rw [Nat.add_sub_cancel' low] at inside
    exact getElem?_skeleton_of_hidden inside (by simp)
  · exact getElem?_skeleton_of_hidden opens (by simp)

theorem inToken_of_getElem?_ne {i : Nat} (h : (skeleton source)[i]? ≠ source[i]?) :
    InToken source i := by
  have inText : i < source.length := by
    by_contra beyond
    refine h ?_
    rw [List.getElem?_eq_none (by rw [length_skeleton]; omega), List.getElem?_eq_none (by omega)]
  rcases code_or_token inText with
    ⟨_, _, _, -, -, -, code⟩ | ⟨before, kind, body, after, split, low, high, text, opens, -⟩
  · exact absurd (getElem?_skeleton_of_code code) h
  · refine ⟨before, kind, body, after, split, low, high, text, ?_⟩
    rintro rfl
    exact mem_commentsFrom.mpr ⟨before.length, body.length, opens, by simp⟩

end Spans

/-- A skeleton has the length and the line ends of its source, and any other character of it is
that of the source or a space. It differs from the source only in tokens, and no comment or literal
is left in it. The comments lie in the source, in order and apart; each is blank in the skeleton,
begins with an opening delimiter, and ends with the first closing delimiter behind that, or with the
source if there is none. -/
theorem skeleton_and_comments (source : List Char) :
    (skeleton source).length = source.length ∧
      (∀ i : Nat, (skeleton source)[i]? = some '\n' ↔ source[i]? = some '\n') ∧
      (∀ (i : Nat) (c : Char), (skeleton source)[i]? = some c → source[i]? = some c ∨ c = ' ') ∧
      (∀ i : Nat, (skeleton source)[i]? ≠ source[i]? → InToken source i) ∧
      (∀ i, BeginsPlain ((skeleton source).drop i)) ∧
      ((comments source).Pairwise fun first second => first.stop ≤ second.start) ∧
      ∀ span ∈ comments source, span.start < span.stop ∧ span.stop ≤ source.length ∧
        IsComment source span ∧ ∀ i : Nat, span.start ≤ i → i < span.stop →
          ∃ c, (skeleton source)[i]? = some c ∧ (c = ' ' ∨ c = '\n') := by
  refine ⟨length_skeleton source, fun i => getElem?_skeleton_eq_newline_iff, ?_,
    fun i => inToken_of_getElem?_ne, fun i => ?_, pairwise_comments source, ?_⟩
  · intro i c shown
    rcases cases_of_getElem?_skeleton shown with ⟨-, same⟩ | ⟨_, d, -, -, here, rfl⟩
    · exact .inl same
    · by_cases line : d = '\n'
      · exact .inl (by rw [here, line]; rfl)
      · exact .inr (if_neg line)
  · exact beginsPlain_iff.mpr (tokenAt?_drop_skeletonFrom true source i)
  · intro span hs
    have within := stop_le_length_of_mem_comments hs
    have long := (opens_of_mem_comments hs).2
    refine ⟨by omega, within, isComment_of_mem_comments hs, fun i low high => ?_⟩
    have here := List.getElem?_eq_getElem (show i < source.length by omega)
    have shown := getElem?_skeleton_of_mem_comments hs low high
    rw [here, Option.map_some] at shown
    refine ⟨_, shown, ?_⟩
    by_cases line : source[i] = '\n'
    · exact .inr (blanked_eq_newline_iff.mpr line)
    · exact .inl (if_neg line)

end AnnotatedTests
