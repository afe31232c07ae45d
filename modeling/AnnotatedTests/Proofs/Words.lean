import AnnotatedTests.Text.Blank
import Mathlib.Data.List.DropRight

/-! What blanks do to a text that is stripped or cut into its words: they separate its words and do
nothing else. -/
namespace AnnotatedTests

/-- Whether a text is a run of blanks, which may be empty. -/
def IsGap (text : List Char) : Prop := ∀ c ∈ text, isBlank c = true

/-- Whether a text holds no blank. -/
def IsSolid (text : List Char) : Prop := ∀ c ∈ text, isBlank c = false

instance (text : List Char) : Decidable (IsGap text) :=
  List.decidableBAll (isBlank · = true) text

instance (text : List Char) : Decidable (IsSolid text) :=
  List.decidableBAll (isBlank · = false) text

/-- A blank ends a word, and what stands behind it begins anew. -/
theorem words_append_cons {c : Char} (blank : isBlank c = true) (before behind : List Char) :
    words (before ++ c :: behind) = words before ++ words behind := by
  rw [words, List.splitOnP_append_cons before behind blank, List.filter_append]
  rfl

theorem words_gap_append {gap : List Char} (blank : IsGap gap) (text : List Char) :
    words (gap ++ text) = words text := by
  induction gap with
  | nil => rfl
  | cons c gap ih =>
    have first : isBlank c = true := blank c List.mem_cons_self
    calc
      words (c :: gap ++ text) = words [] ++ words (gap ++ text) := words_append_cons first [] _
      _ = words text := ih fun d hd => blank d (List.mem_cons_of_mem _ hd)

theorem words_append_gap (text : List Char) {gap : List Char} (blank : IsGap gap) :
    words (text ++ gap) = words text := by
  cases gap with
  | nil => rw [List.append_nil]
  | cons c gap =>
    have rest := words_gap_append (fun d hd => blank d (List.mem_cons_of_mem _ hd)) []
    rw [words_append_cons (blank c List.mem_cons_self), ← List.append_nil gap, rest, words_nil,
      List.append_nil]

theorem words_gap {gap : List Char} (blank : IsGap gap) : words gap = [] :=
  words_append_gap [] blank

theorem words_solid {word : List Char} (solid : IsSolid word) (nonempty : word ≠ []) :
    words word = [word] := by
  rw [words, List.splitOnP_eq_singleton solid]
  simp [nonempty]

/-- A word ends where the text behind it begins with a blank. -/
theorem words_solid_append {word rest : List Char} (solid : IsSolid word) (nonempty : word ≠ [])
    (ends : ∀ c ∈ rest.head?, isBlank c = true) : words (word ++ rest) = word :: words rest := by
  cases rest with
  | nil => rw [List.append_nil, words_solid solid nonempty, words_nil]
  | cons c rest =>
    have blank : isBlank c = true := ends c rfl
    calc
      words (word ++ c :: rest) = words word ++ words rest := words_append_cons blank _ _
      _ = [word] ++ words rest := by rw [words_solid solid nonempty]
      _ = word :: words (c :: rest) := by
        rw [← List.nil_append (c :: rest), words_append_cons blank]
        rfl

/-- Lines that are joined by a blank have their own words. -/
theorem words_intercalate {c : Char} (blank : isBlank c = true) (lines : List (List Char)) :
    words ([c].intercalate lines) = lines.flatMap words := by
  induction lines with
  | nil => rfl
  | cons line rest ih =>
    cases rest with
    | nil => simp
    | cons next rest =>
      rw [List.intercalate_cons_cons, List.flatMap_cons, ← ih, List.append_assoc,
        List.singleton_append]
      exact words_append_cons blank _ _

theorem strip_gap_append {gap : List Char} (blank : IsGap gap) (text : List Char) :
    strip (gap ++ text) = strip text := by
  rw [strip, List.dropWhile_append_of_pos blank, strip]

theorem strip_gap {gap : List Char} (blank : IsGap gap) : strip gap = [] := by
  rw [← List.append_nil gap, strip_gap_append blank, strip_nil]

/-- A text that begins with no blank keeps its beginning when it is stripped, and loses a run of
blanks at its end. -/
theorem exists_strip_cons {c : Char} (solid : isBlank c = false) (rest : List Char) :
    ∃ kept gap, strip (c :: rest) = c :: kept ∧ rest = kept ++ gap ∧ IsGap gap := by
  refine ⟨rest.rdropWhile isBlank, rest.rtakeWhile isBlank, ?_, ?_, ?_⟩
  · have first : (c :: rest).dropWhile isBlank = c :: rest := by
      rw [List.dropWhile_cons_of_neg (by simp [solid])]
    rw [strip, first, List.reverse_cons, List.dropWhile_append]
    split_ifs with all
    · have empty : rest.rdropWhile isBlank = [] := by
        rw [List.rdropWhile, List.isEmpty_iff.mp all, List.reverse_nil]
      rw [empty, List.dropWhile_cons_of_neg (by simp [solid]), List.reverse_singleton]
    · rw [List.reverse_append, List.reverse_singleton, List.singleton_append]
      rfl
  · exact (List.rdropWhile_append_rtakeWhile).symm
  · intro d hd
    exact List.mem_rtakeWhile_imp hd

/-- A text is a run of blanks and what stands behind it, if anything, from its first visible
character on. -/
theorem exists_gap_append (text : List Char) :
    ∃ gap rest, text = gap ++ rest ∧ IsGap gap ∧ ∀ c ∈ rest.head?, isBlank c = false := by
  refine ⟨text.takeWhile isBlank, text.dropWhile isBlank, ?_, ?_, ?_⟩
  · exact (List.takeWhile_append_dropWhile).symm
  · intro c hc
    exact List.mem_takeWhile_imp hc
  · intro c hc
    have visible := List.head?_dropWhile_not isBlank text
    rwa [Option.mem_def.mp hc] at visible

/-- Stripping a text takes none of its words away. -/
theorem words_strip (text : List Char) : words (strip text) = words text := by
  obtain ⟨gap, rest, rfl, blank, visible⟩ := exists_gap_append text
  rw [strip_gap_append blank, words_gap_append blank]
  cases rest with
  | nil => rw [strip_nil]
  | cons c rest =>
    obtain ⟨kept, behind, stripped, rfl, trailing⟩ := exists_strip_cons (visible c rfl) rest
    rw [stripped, ← List.cons_append, words_append_gap _ trailing]

end AnnotatedTests
