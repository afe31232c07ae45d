import AnnotatedTests.Proofs.Redaction
import AnnotatedTests.Proofs.BlockComments

/-! Sources put one behind the other. Where a line ends that does not go on, and no comment is open,
nothing that is read before looks at what stands behind: the second source is blanked out as if it
stood alone. -/
namespace AnnotatedTests

/-- Whether a text ends with a line end that has no backslash before it. -/
def EndsWithLine (text : List Char) : Prop :=
  ∃ init, text = init ++ ['\n'] ∧ init.getLast? ≠ some '\\'

/-- Whether a text ends between two lines, of which the second does not go on with the first one,
and outside of comments. -/
structure EndsOutside (lineStart : Bool) (text : List Char) : Prop where
  line : lineStartAfter lineStart text = true
  splice : ∀ init, text = init ++ ['\n'] → init.getLast? ≠ some '\\'
  closed : ∀ (start length : Nat),
    (marksFrom 0 lineStart text)[start]? = some (.opens ⟨.blockComment, length⟩) →
      start + length ≠ text.length

/-- A stretch that stands further on by a number of characters. -/
def Span.shift (n : Nat) (span : Span) : Span :=
  ⟨n + span.start, n + span.stop⟩

section Literals
variable {quote : Char} {init after : List Char}

/-- A quote before a line end is closed in front of it, unless a backslash takes the line end into
the literal. -/
theorem closes_line_of_closes (hq : IsQuote quote) (splice : init.getLast? ≠ some '\\')
    (h : Closes quote (init ++ '\n' :: after)) : Closes quote (init ++ ['\n']) := by
  obtain ⟨n, closed⟩ := Option.isSome_iff_exists.mp h
  obtain ⟨body, rest, split, literal, -⟩ := (literalRest?_eq_some_iff hq).mp closed
  have other : '\n' ≠ quote := hq.ne_newline.symm
  -- the literal ends before the line end, or takes it in behind a backslash
  rcases List.append_eq_append_iff.mp split with ⟨less, rfl, tail⟩ | ⟨less, rfl, tail⟩
  · cases less with
    | nil => exact absurd (List.cons.inj tail).1 other
    | cons c less =>
      obtain rfl := (List.cons.inj tail).1
      exact absurd (literal.getLast?_eq_backslash rfl) splice
  · cases less with
    | nil => exact absurd (List.cons.inj tail).1.symm other
    | cons c less =>
      obtain rfl := (List.cons.inj tail).1
      simpa using literal.closes hq

end Literals

section Steps
variable {lineStart : Bool} {kind : TokenKind} {c : Char} {piece body rest text after : List Char}

theorem EndsOutside.endsWithLine (h : EndsOutside lineStart text) (nonempty : text ≠ []) :
    EndsWithLine text := by
  rcases List.eq_nil_or_concat text with rfl | ⟨init, d, rfl⟩
  · exact absurd rfl nonempty
  · have line := h.line
    rw [List.concat_eq_append, lineStartAfter_concat, beq_iff_eq] at line
    subst line
    exact ⟨init, List.concat_eq_append, h.splice init List.concat_eq_append⟩

/-- What is left of a text behind one of its pieces ends as the text does. -/
theorem EndsOutside.of_piece (h : EndsOutside lineStart (piece ++ rest))
    (is : IsPiece lineStart piece rest) : EndsOutside (lineStartAfter lineStart piece) rest := by
  refine ⟨?_, fun init split last => ?_, fun start length opens stop => ?_⟩
  · rw [← lineStartAfter_append]
    exact h.line
  · refine h.splice (piece ++ init) (by rw [split, List.append_assoc]) ?_
    rw [List.getLast?_append, last, Option.some_or]
  · rw [← is.cutsPieces.getElem?_marksFrom] at opens
    refine h.closed _ length opens ?_
    rw [List.length_append]
    omega

/-- A character of code stays one when more text follows. -/
theorem EndsOutside.tokenAt?_append (h : EndsOutside lineStart (c :: rest))
    (code : tokenAt? lineStart (c :: rest) = none) (after : List Char) :
    tokenAt? lineStart (c :: (rest ++ after)) = none := by
  have behind : EndsOutside (c == '\n') rest := h.of_piece (.code code)
  -- only a line end can be the last character
  have more (other : c ≠ '\n') : rest ≠ [] := by
    rintro rfl
    exact other (beq_iff_eq.mp behind.line)
  obtain ⟨slash, quote, hash⟩ := tokenAt?_eq_none_iff.mp code
  refine tokenAt?_eq_none_iff.mpr ⟨fun same => ?_, fun hq closed => ?_, fun first => ?_⟩
  · have nonempty := more (by rw [same]; decide)
    rw [List.head?_append_of_ne_nil _ nonempty]
    exact slash same
  · obtain ⟨init, rfl, splice⟩ := behind.endsWithLine (more hq.ne_newline)
    rw [List.append_assoc] at closed
    exact quote hq (closes_line_of_closes hq splice closed)
  · obtain ⟨init, split, -⟩ := h.endsWithLine (List.cons_ne_nil c rest)
    -- the indent of this line ends within the text, at its last line end if not before
    have visible : ∃ d ∈ c :: rest, isIndent d = false := by
      rw [split]
      exact ⟨'\n', by simp, by decide⟩
    have same : ((c :: rest ++ after).dropWhile isIndent).head? =
        ((c :: rest ++ []).dropWhile isIndent).head? := head?_dropWhile_append visible
    rw [← List.cons_append, same, List.append_nil]
    exact hash first

/-- A token of a text ends before the last line end of the text. -/
theorem EndsOutside.ne_nil_of_token (h : EndsOutside lineStart (body ++ rest))
    (token : TokenText lineStart kind body rest) : rest ≠ [] := by
  rintro rfl
  obtain ⟨init, split, splice⟩ := h.endsWithLine (by simpa using token.ne_nil)
  rw [List.append_nil] at split
  by_cases hk : kind = .blockComment
  · subst hk
    refine h.closed 0 body.length ?_ (by simp)
    rw [token.marksFrom_append]
    rfl
  · exact splice (token.getLast?_eq_backslash hk split)

/-- A text that ends between two lines and outside of comments is cut into the same pieces whatever
follows, and what follows is cut as a source of its own. -/
theorem EndsOutside.marksFrom_append (h : EndsOutside lineStart text) (after : List Char) :
    marksFrom 0 lineStart (text ++ after) =
      marksFrom 0 lineStart text ++ marksFrom 0 true after := by
  -- along the pieces: what is left behind each of them ends as the text does
  induction lineStart, text using pieces_induction with
  | nil lineStart =>
    obtain rfl : lineStart = true := h.line
    rfl
  | code lineStart c rest begins ih =>
    rw [List.cons_append, marksFrom_of_code (h.tokenAt?_append begins after),
      marksFrom_of_code begins, ih (h.of_piece (.code begins)), List.cons_append]
  | token lineStart kind body rest token ih =>
    have next : (rest ++ after).head? = rest.head? :=
      List.head?_append_of_ne_nil _ (h.ne_nil_of_token token)
    rw [List.append_assoc, (token.congr next).marksFrom_append, token.marksFrom_append,
      ih (h.of_piece (.token token)), List.cons_append, List.append_assoc]

end Steps

section Comments

theorem commentsFrom_append (offset : Nat) (ms others : List Mark) :
    commentsFrom offset (ms ++ others) =
      commentsFrom offset ms ++ commentsFrom (offset + ms.length) others := by
  fun_induction commentsFrom offset ms with
  | case1 => simp
  | case2 offset length rest ih =>
    rw [List.cons_append, commentsFrom, ih, List.cons_append, List.length_cons, Nat.add_assoc,
      Nat.add_comm 1]
  | case3 offset first rest other ih =>
    rw [List.cons_append, commentsFrom, ih, List.length_cons, Nat.add_assoc, Nat.add_comm 1]
    exact other

theorem commentsFrom_add (n offset : Nat) (ms : List Mark) :
    commentsFrom (n + offset) ms = (commentsFrom offset ms).map (Span.shift n) := by
  fun_induction commentsFrom offset ms with
  | case1 => rfl
  | case2 offset length rest ih =>
    rw [commentsFrom, Nat.add_assoc, Nat.add_assoc, ih, List.map_cons, Span.shift]
  | case3 offset first rest other ih =>
    rw [commentsFrom, Nat.add_assoc, ih]
    exact other

end Comments

/-- If a source ends with a line that does not go on and outside of comments, any other source may
be put behind it: the skeleton is that of the first source and then that of the second, and so are
the comments, those of the second further on by the length of the first. -/
theorem skeleton_append {source : List Char} (line : EndsWithLine source)
    (closed : ∀ span ∈ comments source, span.stop ≠ source.length) (other : List Char) :
    skeleton (source ++ other) = skeleton source ++ skeleton other ∧
      comments (source ++ other) =
        comments source ++ (comments other).map (Span.shift source.length) := by
  obtain ⟨init, rfl, splice⟩ := line
  have ends : EndsOutside true (init ++ ['\n']) := by
    refine ⟨lineStartAfter_concat, fun other same => ?_, fun start length opens => ?_⟩
    · rwa [← List.append_cancel_right same]
    · exact closed ⟨start, start + length⟩ (mem_commentsFrom.mpr ⟨start, length, opens, by simp⟩)
  have cut : marks (init ++ ['\n'] ++ other) = marks (init ++ ['\n']) ++ marks other :=
    ends.marksFrom_append other
  have length : (marks (init ++ ['\n'])).length = (init ++ ['\n']).length :=
    length_marksFrom 0 true _
  constructor
  · rw [skeleton, cut, List.zipWith_append length.symm, skeleton, skeleton]
  · have behind : commentsFrom (init ++ ['\n']).length (marks other) =
        (comments other).map (Span.shift (init ++ ['\n']).length) := commentsFrom_add _ 0 _
    rw [comments, cut, commentsFrom_append, length, Nat.zero_add, behind]
    rfl

/-- A source with quotes that are not closed on their lines, and with what looks like the opening of
a comment in a directive line that goes on. -/
def openSource : List Char :=
  textOfLines ["int n = 1'000; /* \" */", "#define OPEN \\", "  \"/*\"", "puts(\"it's"]

/-- A source that would close a quote, and a comment, if one were open. -/
def closingSource : List Char :=
  textOfLines ["'s\"); /* */", "#define CLOSE */"]

theorem skeleton_append_openSource_closingSource :
    EndsWithLine openSource ∧ (∀ span ∈ comments openSource, span.stop ≠ openSource.length) ∧
      skeleton (openSource ++ closingSource) = skeleton openSource ++ skeleton closingSource ∧
      comments (openSource ++ closingSource) = [⟨15, 22⟩, ⟨62, 67⟩] := by
  have line : EndsWithLine openSource :=
    ⟨openSource.dropLast, by decide +kernel, by decide +kernel⟩
  have closed : ∀ span ∈ comments openSource, span.stop ≠ openSource.length := by
    decide +kernel
  obtain ⟨code, shifted⟩ := skeleton_append line closed closingSource
  exact ⟨line, closed, code, shifted.trans (by decide +kernel)⟩

end AnnotatedTests
