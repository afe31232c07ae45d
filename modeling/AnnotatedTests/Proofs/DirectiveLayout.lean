import AnnotatedTests.Proofs.Items
import AnnotatedTests.Proofs.Words

/-! The layout of directives. The words of a directive may stand on any number of lines, with any
blanks around them and a star at the head of each line that continues the comment; what is read
depends on the words alone. -/
namespace AnnotatedTests

/-- Blanks within a line. -/
structure Gap where
  text : List Char
  blank : IsGap text := by decide
  unbroken : '\n' ∉ text := by decide

/-- The blanks between two words of a line. -/
structure Separator extends Gap where
  nonempty : text ≠ [] := by decide

/-- A word that can begin a line: it may hold stars, but not at its start, where one would be taken
for the star of the line. -/
structure PlainWord where
  text : List Char
  solid : IsSolid text := by decide
  nonempty : text ≠ [] := by decide
  unstarred : text.head? ≠ some '*' := by decide

/-- The words of one line and the blanks around them. -/
inductive Row where
  | blank (gap : Gap)
  | filled (before : Gap) (first : PlainWord) (more : List (Separator × PlainWord)) (behind : Gap)

/-- Words, each behind the blanks that separate it from the word before. -/
def separated (more : List (Separator × PlainWord)) : List Char :=
  more.flatMap fun p => p.1.text ++ p.2.text

namespace Row

def text : Row → List Char
  | .blank gap => gap.text
  | .filled before first more behind => before.text ++ (first.text ++ separated more) ++ behind.text

def words : Row → List (List Char)
  | .blank _ => []
  | .filled _ first more _ => first.text :: more.map fun p => p.2.text

end Row

/-- A line behind the first of a comment. With a star it has the blanks before the star, and then
its words. -/
structure ContinuationLine where
  star : Option Gap
  row : Row

def ContinuationLine.text (line : ContinuationLine) : List Char :=
  match line.star with
  | none => line.row.text
  | some indent => indent.text ++ '*' :: line.row.text

/-- A directive comment, line by line. Words can follow the marker at once and can be followed at
once by the end of the comment. -/
structure DirectiveLayout where
  first : Row
  more : List ContinuationLine

namespace DirectiveLayout

def lines (layout : DirectiveLayout) : List (List Char) :=
  layout.first.text :: layout.more.map ContinuationLine.text

def text (marker : String) (layout : DirectiveLayout) : List Char :=
  directiveOpening marker ++ ['\n'].intercalate layout.lines ++ ['*', '/']

def words (layout : DirectiveLayout) : List String :=
  (layout.first.words ++ layout.more.flatMap fun line => line.row.words).map String.ofList

end DirectiveLayout

theorem PlainWord.exists_cons (word : PlainWord) :
    ∃ c rest, word.text = c :: rest ∧ isBlank c = false ∧ c ≠ '*' := by
  cases letters : word.text with
  | nil => exact absurd letters word.nonempty
  | cons c rest =>
    refine ⟨c, rest, rfl, word.solid c (by simp [letters]), ?_⟩
    rintro rfl
    exact word.unstarred (by rw [letters]; rfl)

theorem words_append_separated (word : PlainWord) (more : List (Separator × PlainWord)) :
    words (word.text ++ separated more) = word.text :: more.map fun p => p.2.text := by
  induction more generalizing word with
  | nil =>
    rw [separated, List.flatMap_nil, List.append_nil]
    exact words_solid word.solid word.nonempty
  | cons p more ih =>
    obtain ⟨gap, next⟩ := p
    have parts : separated ((gap, next) :: more) = gap.text ++ (next.text ++ separated more) := by
      rw [separated, List.flatMap_cons, List.append_assoc]
      rfl
    have ends : ∀ c ∈ (separated ((gap, next) :: more)).head?, isBlank c = true := by
      obtain ⟨b, rest, split⟩ := List.exists_cons_of_ne_nil gap.nonempty
      intro c hc
      rw [parts, split, List.cons_append, List.head?_cons, Option.mem_some_iff] at hc
      exact gap.blank c (by simp [split, hc])
    rw [words_solid_append word.solid word.nonempty ends, parts, words_gap_append gap.blank,
      ih next]
    rfl

theorem Row.words_text (row : Row) : AnnotatedTests.words row.text = row.words := by
  cases row with
  | blank gap => exact words_gap gap.blank
  | filled before first more behind =>
    rw [text, words_append_gap _ behind.blank, words_gap_append before.blank]
    exact words_append_separated first more

section ContinuedLine
variable {gap : List Char} (blank : IsGap gap)
include blank

theorem continuedLine_gap : continuedLine gap = [] := by
  rw [continuedLine, strip_gap blank]

/-- A line that does not begin with a star keeps its words. -/
theorem words_continuedLine_of_ne {c : Char} (solid : isBlank c = false) (other : c ≠ '*')
    (rest : List Char) : words (continuedLine (gap ++ c :: rest)) = words (c :: rest) := by
  obtain ⟨kept, behind, stripped, -, -⟩ := exists_strip_cons solid rest
  have same : continuedLine (gap ++ c :: rest) = strip (c :: rest) := by
    rw [continuedLine, strip_gap_append blank, stripped]
    split
    · next h => exact absurd (List.cons.inj h).1 other
    · rfl
  rw [same, words_strip]

/-- A line that begins with a star keeps the words behind it. -/
theorem words_continuedLine_star (rest : List Char) :
    words (continuedLine (gap ++ '*' :: rest)) = words rest := by
  obtain ⟨kept, behind, stripped, split, trailing⟩ := exists_strip_cons (c := '*') rfl rest
  have kept_eq : continuedLine (gap ++ '*' :: rest) = kept := by
    rw [continuedLine, strip_gap_append blank, stripped]
    rfl
  rw [kept_eq, split, words_append_gap _ trailing]

end ContinuedLine

theorem Row.words_continuedLine (row : Row) :
    AnnotatedTests.words (continuedLine row.text) = row.words := by
  rw [← row.words_text]
  cases row with
  | blank gap => rw [text, continuedLine_gap gap.blank, words_gap gap.blank, words_nil]
  | filled before first more behind =>
    obtain ⟨c, rest, letters, solid, other⟩ := first.exists_cons
    have split : (filled before first more behind).text =
        before.text ++ c :: (rest ++ separated more ++ behind.text) := by
      simp [text, letters]
    rw [split, words_continuedLine_of_ne before.blank solid other, words_gap_append before.blank]

theorem ContinuationLine.words_continuedLine (line : ContinuationLine) :
    words (continuedLine line.text) = line.row.words := by
  unfold ContinuationLine.text
  cases line.star with
  | none => exact line.row.words_continuedLine
  | some indent => rw [words_continuedLine_star indent.blank, line.row.words_text]

theorem IsSolid.newline_notMem {text : List Char} (solid : IsSolid text) : '\n' ∉ text := by
  intro inside
  rw [← Bool.false_eq_true, ← solid '\n' inside]
  exact isBlank_newline

theorem Row.newline_notMem_text (row : Row) : '\n' ∉ row.text := by
  cases row with
  | blank gap => exact gap.unbroken
  | filled before first more behind =>
    have later : '\n' ∉ separated more := by
      rw [separated, List.mem_flatMap]
      rintro ⟨p, -, inside⟩
      rcases List.mem_append.mp inside with h | h
      · exact p.1.unbroken h
      · exact p.2.solid.newline_notMem h
    simp only [text, List.mem_append, not_or]
    exact ⟨⟨before.unbroken, first.solid.newline_notMem, later⟩, behind.unbroken⟩

theorem ContinuationLine.newline_notMem_text (line : ContinuationLine) : '\n' ∉ line.text := by
  unfold ContinuationLine.text
  cases line.star with
  | none => exact line.row.newline_notMem_text
  | some indent =>
    have other : '\n' ≠ '*' := by decide
    simp only [List.mem_append, List.mem_cons, other, false_or, not_or]
    exact ⟨indent.unbroken, line.row.newline_notMem_text⟩

theorem dropOpening_append (marker : String) (text : List Char) :
    dropOpening marker (directiveOpening marker ++ text) = text := by
  have opens : (directiveOpening marker).isPrefixOf (directiveOpening marker ++ text) = true :=
    List.isPrefixOf_iff_prefix.mpr (List.prefix_append _ _)
  rw [dropOpening, if_pos opens, List.drop_left]

theorem dropClosing_append (text : List Char) : dropClosing (text ++ ['*', '/']) = text := by
  simp [dropClosing]

namespace DirectiveLayout

theorem splitOn_lines (layout : DirectiveLayout) :
    (['\n'].intercalate layout.lines).splitOn '\n' = layout.lines := by
  apply List.splitOn_intercalate
  · intro line hl
    rcases List.mem_cons.mp hl with rfl | hl
    · exact layout.first.newline_notMem_text
    · obtain ⟨continued, -, rfl⟩ := List.mem_map.mp hl
      exact continued.newline_notMem_text
  · exact List.cons_ne_nil _ _

theorem directiveWords_eq (layout : DirectiveLayout) (marker : String) :
    directiveWords marker (layout.text marker) = layout.words := by
  have body : directiveBody marker (layout.text marker) =
      strip ([' '].intercalate (layout.lines.map continuedLine)) := by
    rw [directiveBody, text, List.append_assoc, dropOpening_append, dropClosing_append,
      splitOn_lines]
  have continued : ∀ line ∈ layout.more,
      AnnotatedTests.words (continuedLine line.text) = line.row.words :=
    fun line _ => line.words_continuedLine
  have read : AnnotatedTests.words (directiveBody marker (layout.text marker)) =
      layout.first.words ++ layout.more.flatMap fun line => line.row.words := by
    calc
      _ = (layout.lines.map continuedLine).flatMap AnnotatedTests.words := by
        rw [body, words_strip, words_intercalate isBlank_space]
      _ = AnnotatedTests.words (continuedLine layout.first.text) ++
            layout.more.flatMap fun line => AnnotatedTests.words (continuedLine line.text) := by
        rw [lines, List.map_cons, List.flatMap_cons, List.map_map, List.flatMap_map]
        rfl
      _ = _ := by rw [layout.first.words_continuedLine, List.flatMap_congr continued]
  rw [directiveWords, read, words]

end DirectiveLayout

/-- What is read of a directive comment are its words, in their order and however they are laid
out. Comments at one place with the same words are read as the same directive, or fail for the same
reason, and the same is recorded of them. -/
theorem reading_of_layout (layout : DirectiveLayout) (marker : String) :
    directiveWords marker (layout.text marker) = layout.words ∧
      ∀ (other : DirectiveLayout) (otherMarker : String), other.words = layout.words →
        ∀ one two : Comment, one.text = String.ofList (layout.text marker) →
          two.text = String.ofList (other.text otherMarker) → one.place = two.place →
          one.directive marker = two.directive otherMarker ∧
            ∀ current following, Site.item? marker current ⟨one, following⟩ =
              Site.item? otherMarker current ⟨two, following⟩ := by
  refine ⟨layout.directiveWords_eq marker, ?_⟩
  intro other otherMarker sameWords one two oneText twoText samePlace
  have words : directiveWords marker one.text.toList =
      directiveWords otherMarker two.text.toList := by
    rw [oneText, twoText, String.toList_ofList, String.toList_ofList, layout.directiveWords_eq,
      other.directiveWords_eq, sameWords]
  have place : (⟨one.filename, one.startLine⟩ : Place) = ⟨two.filename, two.startLine⟩ := samePlace
  have directive : one.directive marker = two.directive otherMarker := by
    rw [Comment.directive, Comment.directive, words, place]
  refine ⟨directive, ?_⟩
  intro current following
  simp only [Site.item?, directive, samePlace]

/-- The words of a directive on the line of the marker. -/
def plainLayout : DirectiveLayout where
  first := .filled { text := [' '] } { text := "test".toList }
    [({ text := [' '] }, { text := "grows".toList }),
      ({ text := [' '] }, { text := "timeout:5".toList })] { text := [] }
  more := []

/-- The same words on lines with and without stars, one of which has no words, with a space that
does not break and a carriage return, and the end of the comment behind a star. -/
def starredLayout : DirectiveLayout where
  first := .blank { text := ['\t'] }
  more :=
    [{ star := some { text := [' '] }, row := .blank { text := [] } },
      { star := some { text := [' '] }
        row := .filled { text := [' '] } { text := "test".toList }
          [({ text := ['\u00a0'] }, { text := "grows".toList })] { text := ['\r'] } },
      { star := none
        row := .filled { text := ['\t'] } { text := "timeout:5".toList } [] { text := [] } },
      { star := some { text := [' '] }, row := .blank { text := [] } }]

theorem reading_of_starredLayout :
    directiveWords "cmocka" (starredLayout.text "cmocka") = ["test", "grows", "timeout:5"] ∧
      plainLayout.words = starredLayout.words ∧
      (⟨"t.c", 7, 11, String.ofList (starredLayout.text "cmocka")⟩ : Comment).directive "cmocka" =
        (⟨"t.c", 7, 7, String.ofList (plainLayout.text "tests")⟩ : Comment).directive "tests" := by
  obtain ⟨words, reading⟩ := reading_of_layout starredLayout "cmocka"
  have same : plainLayout.words = starredLayout.words := by decide
  let starred : Comment := ⟨"t.c", 7, 11, String.ofList (starredLayout.text "cmocka")⟩
  let plain : Comment := ⟨"t.c", 7, 7, String.ofList (plainLayout.text "tests")⟩
  obtain ⟨directive, -⟩ := reading plainLayout "tests" same starred plain rfl rfl rfl
  exact ⟨words, same, directive⟩

end AnnotatedTests
