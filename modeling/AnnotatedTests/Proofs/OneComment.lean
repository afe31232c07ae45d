import AnnotatedTests.Proofs.DirectiveLayout

/-! Sources that are one directive comment with one word. The scanner finds the comment, and the
word is what it says. -/
namespace AnnotatedTests

def oneWordComment (marker : String) (word : List Char) : List Char :=
  directiveOpening marker ++ ' ' :: word ++ ['*', '/']

/-- A text without stars is all inside the comment that is closed behind it. -/
theorem blockCommentRest_append {text : List Char} (h : '*' ∉ text) :
    blockCommentRest (text ++ ['*', '/']) = text.length + 2 := by
  induction text with
  | nil => rfl
  | cons c rest ih =>
    rw [List.mem_cons, not_or] at h
    obtain ⟨other, fresh⟩ := h
    rw [List.cons_append, blockCommentRest, ih fresh, List.length_cons]
    rintro behind rfl
    exact absurd rfl other

section Word
variable {marker : String} {word : List Char}

theorem isPrefixOf_oneWordComment :
    (directiveOpening marker).isPrefixOf (oneWordComment marker word) = true := by
  rw [List.isPrefixOf_iff_prefix, oneWordComment, List.append_assoc]
  exact List.prefix_append _ _

theorem drop_oneWordComment :
    (oneWordComment marker word).drop (directiveOpening marker).length =
      ' ' :: word ++ ['*', '/'] := by
  rw [oneWordComment, List.append_assoc, List.drop_left]

/-- A source that is one comment has it as a block comment from end to end. -/
theorem mem_comments_oneWordComment (hm : '*' ∉ marker.toList) (hw : '*' ∉ word) :
    ⟨0, (oneWordComment marker word).length⟩ ∈ comments (oneWordComment marker word) := by
  have inside : '*' ∉ '!' :: marker.toList ++ ' ' :: word := by
    simp [hm, hw]
  have source : oneWordComment marker word =
      '/' :: '*' :: (('!' :: marker.toList ++ ' ' :: word) ++ ['*', '/']) := by
    simp [oneWordComment, directiveOpening]
  have length : blockCommentRest (('!' :: marker.toList ++ ' ' :: word) ++ ['*', '/']) + 2 =
      (oneWordComment marker word).length := by
    rw [blockCommentRest_append inside, source]
    simp only [List.length_cons, List.length_append, List.length_nil]
  have first : marks (oneWordComment marker word) =
      .opens ⟨.blockComment, (oneWordComment marker word).length⟩ ::
        (marks (oneWordComment marker word)).tail := by
    rw [← length, source]
    rfl
  rw [comments, first, commentsFrom, Nat.zero_add]
  exact List.mem_cons_self

theorem isDirective_oneWordComment : isDirective marker (oneWordComment marker word) = true := by
  rw [isDirective, isPrefixOf_oneWordComment, drop_oneWordComment, Bool.true_and]
  exact isBlank_space

theorem exists_site_oneWordComment (filename : String) (hm : '*' ∉ marker.toList)
    (hw : '*' ∉ word) :
    ∃ site ∈ (scan (oneWordComment marker word) filename marker).sites,
      site.comment.text = String.ofList (oneWordComment marker word) := by
  have whole : Span.slice ⟨0, (oneWordComment marker word).length⟩ (oneWordComment marker word) =
      oneWordComment marker word := by
    simp [Span.slice]
  refine ⟨_, List.mem_map.mpr ⟨⟨0, (oneWordComment marker word).length⟩, ?_, rfl⟩, ?_⟩
  · rw [List.mem_filter, whole]
    exact ⟨mem_comments_oneWordComment hm hw, isDirective_oneWordComment⟩
  · rw [whole]

theorem directiveWords_oneWordComment (plain : ∀ c ∈ word, isBlank c = false) (hw : '*' ∉ word)
    (hne : word ≠ []) :
    directiveWords marker (oneWordComment marker word) = [String.ofList word] := by
  have begins : word.head? ≠ some '*' := by
    intro first
    exact hw (List.mem_of_head? first)
  let text : PlainWord := { text := word, solid := plain, nonempty := hne, unstarred := begins }
  let layout : DirectiveLayout :=
    { first := .filled { text := [' '] } text [] { text := [] }, more := [] }
  have same : layout.text marker = oneWordComment marker word := by
    simp [layout, text, oneWordComment, DirectiveLayout.text, DirectiveLayout.lines, Row.text,
      separated]
  rw [← same, layout.directiveWords_eq]
  rfl

end Word

end AnnotatedTests
