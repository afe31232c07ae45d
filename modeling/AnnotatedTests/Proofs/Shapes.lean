import AnnotatedTests.Proofs.Words
import AnnotatedTests.Source.Declaration
import Mathlib.Tactic.SplitIfs

/-! Declaration shapes in a text. How a shape is written is said by its parts, and a text begins
with one just when the search at its first character finds it. Of all the shapes in a text those are
found that stand leftmost and apart, each with how many more braces are opened than closed before
it. -/
namespace AnnotatedTests

/-- The character with which a declaration shape ends: the brace of a body, or a semicolon. -/
def closingChar (defined : Bool) : Char :=
  if defined then '\x7b' else ';'

/-- Whether a text is a declaration shape: a head that begins as an identifier does, a flat
parameter list in parentheses, which is stripped, and behind any blanks the brace of a body or a
semicolon. -/
inductive ShapeText : Shape → List Char → Prop
  | parts {first : Char} {head params gap text : List Char} {defined : Bool} :
    beginsIdentifier first = true → (∀ c ∈ head, isHeadChar c = true) →
    (∀ c ∈ params, isParameterChar c = true) → IsGap gap →
    text = first :: (head ++ '(' :: (params ++ ')' :: (gap ++ [closingChar defined]))) →
    ShapeText { head := first :: head, params := strip params, defined, length := text.length } text

/-- How many more braces a text opens than it closes. -/
def braceBalance : List Char → Int
  | [] => 0
  | c :: rest => braceStep c + braceBalance rest

/-- The offset behind a shape. -/
def Found.stop (found : Found) : Nat :=
  found.offset + found.shape.length

/-- Whether a shape stands in a text where it is said to, behind as many more braces that are opened
than closed. -/
def Found.StandsIn (text : List Char) (found : Found) : Prop :=
  ∃ before written after, text = before ++ (written ++ after) ∧ found.offset = before.length ∧
    found.depth = braceBalance before ∧ ShapeText found.shape written

/-- Whether shapes are the leftmost ones of a text from an offset on that do not overlap: they stand
there, in order and apart, and each shape that stands there is one of them or begins inside of one
that has begun before it. -/
structure Leftmost (text : List Char) (start : Nat) (shapes : List Found) : Prop where
  stand : ∀ found ∈ shapes, found.StandsIn text
  behind : ∀ found ∈ shapes, start ≤ found.offset
  apart : shapes.Pairwise fun found later => found.stop ≤ later.offset
  covers : ∀ other : Found, other.StandsIn text → start ≤ other.offset →
    ∃ found ∈ shapes, found.offset ≤ other.offset ∧ other.offset < found.stop

section Written
variable {c : Char} {head inner text : List Char} {shape : Shape}

theorem closesDeclaration?_eq_some_iff {defined : Bool} :
    closesDeclaration? c = some defined ↔ c = closingChar defined := by
  unfold closesDeclaration? closingChar
  split_ifs <;> simp_all

theorem isBlank_closingChar (defined : Bool) : isBlank (closingChar defined) = false := by
  cases defined <;> decide

theorem isHeadChar_of_beginsIdentifier (h : beginsIdentifier c = true) : isHeadChar c = true := by
  simp [isHeadChar, isWordChar_of_beginsIdentifier h]

/-- Behind the opening parenthesis of a shape stand its parameters, the closing parenthesis and,
after any blanks, its last character. -/
theorem shapeWithHead?_eq_some_iff :
    shapeWithHead? head inner = some shape ↔
      ∃ params gap defined rest, inner = params ++ ')' :: (gap ++ closingChar defined :: rest) ∧
        (∀ d ∈ params, isParameterChar d = true) ∧ IsGap gap ∧
        shape = { head, params := strip params, defined,
                  length := head.length + params.length + gap.length + 3 } := by
  constructor
  · intro h
    unfold shapeWithHead? at h
    dsimp only at h
    split at h
    · next behind closes =>
      split at h
      · next last rest visible =>
        obtain ⟨defined, ends, rfl⟩ := Option.map_eq_some_iff.mp h
        refine ⟨inner.takeWhile isParameterChar, behind.takeWhile isBlank, defined, rest, ?_,
          fun d hd => List.mem_takeWhile_imp hd, fun d hd => List.mem_takeWhile_imp hd, rfl⟩
        rw [← closesDeclaration?_eq_some_iff.mp ends, ← visible,
          List.takeWhile_append_dropWhile, ← closes, List.takeWhile_append_dropWhile]
      · simp at h
    · simp at h
  · rintro ⟨params, gap, defined, rest, rfl, inParams, blank, rfl⟩
    have stops : ¬ isParameterChar ')' = true := by decide
    have visible : ¬ isBlank (closingChar defined) = true := by simp [isBlank_closingChar]
    unfold shapeWithHead?
    simp only [List.takeWhile_append_of_pos inParams, List.dropWhile_append_of_pos inParams,
      List.takeWhile_cons_of_neg stops, List.dropWhile_cons_of_neg stops,
      List.takeWhile_append_of_pos blank, List.dropWhile_append_of_pos blank,
      List.takeWhile_cons_of_neg visible, List.dropWhile_cons_of_neg visible,
      closesDeclaration?_eq_some_iff.mpr rfl, Option.map_some, List.append_nil]

/-- A shape begins as an identifier does, and its head reaches up to the opening parenthesis. -/
theorem shapeAt?_eq_some_iff_shapeWithHead? :
    shapeAt? text = some shape ↔
      ∃ first head inner, text = first :: (head ++ '(' :: inner) ∧ beginsIdentifier first = true ∧
        (∀ d ∈ head, isHeadChar d = true) ∧ shapeWithHead? (first :: head) inner = some shape := by
  constructor
  · intro h
    unfold shapeAt? at h
    split at h
    · simp at h
    · next first rest =>
      split_ifs at h with begins
      split at h
      · next inner opens =>
        have letter := isHeadChar_of_beginsIdentifier begins
        rw [List.takeWhile_cons_of_pos letter] at h
        rw [List.dropWhile_cons_of_pos letter] at opens
        refine ⟨first, rest.takeWhile isHeadChar, inner, ?_, begins,
          fun d hd => List.mem_takeWhile_imp hd, h⟩
        rw [← opens, List.takeWhile_append_dropWhile]
      · simp at h
  · rintro ⟨first, head, inner, rfl, begins, inHead, found⟩
    have letter := isHeadChar_of_beginsIdentifier begins
    have stops : ¬ isHeadChar '(' = true := by decide +kernel
    unfold shapeAt?
    simp only [begins, if_true, List.takeWhile_cons_of_pos letter,
      List.dropWhile_cons_of_pos letter, List.takeWhile_append_of_pos inHead,
      List.dropWhile_append_of_pos inHead, List.takeWhile_cons_of_neg stops,
      List.dropWhile_cons_of_neg stops, List.append_nil, found]

/-- A text begins with a shape just when the search at its first character finds it. -/
theorem shapeAt?_eq_some_iff :
    shapeAt? text = some shape ↔
      ∃ written after, text = written ++ after ∧ ShapeText shape written := by
  rw [shapeAt?_eq_some_iff_shapeWithHead?]
  constructor
  · rintro ⟨first, head, inner, rfl, begins, inHead, found⟩
    obtain ⟨params, gap, defined, after, rfl, inParams, blank, rfl⟩ :=
      shapeWithHead?_eq_some_iff.mp found
    have length : (first :: head).length + params.length + gap.length + 3 =
        (first :: (head ++ '(' :: (params ++ ')' :: (gap ++ [closingChar defined])))).length := by
      simp only [List.length_cons, List.length_append, List.length_nil]
      omega
    refine ⟨first :: (head ++ '(' :: (params ++ ')' :: (gap ++ [closingChar defined]))), after,
      by simp, ?_⟩
    rw [length]
    exact .parts begins inHead inParams blank rfl
  · rintro ⟨written, after, rfl, shaped⟩
    cases shaped with
    | @parts first head params gap _ defined begins inHead inParams blank split =>
      have rest : shapeWithHead? (first :: head)
          (params ++ ')' :: (gap ++ closingChar defined :: after)) = some
            { head := first :: head
              params := strip params
              defined
              length := written.length } := by
        refine shapeWithHead?_eq_some_iff.mpr
          ⟨params, gap, defined, after, rfl, inParams, blank, ?_⟩
        rw [split]
        simp only [List.length_cons, List.length_append, List.length_nil, Shape.mk.injEq, true_and]
        omega
      exact ⟨first, head, _, by simp [split], begins, inHead, rest⟩

theorem ShapeText.length_eq {written : List Char} (h : ShapeText shape written) :
    shape.length = written.length := by
  cases h
  rfl

theorem ShapeText.length_pos {written : List Char} (h : ShapeText shape written) :
    0 < shape.length := by
  cases h with
  | parts _ _ _ _ split => simp [split]

end Written

theorem braceBalance_append (text other : List Char) :
    braceBalance (text ++ other) = braceBalance text + braceBalance other := by
  induction text with
  | nil => simp [braceBalance]
  | cons c text ih => rw [List.cons_append, braceBalance, ih, braceBalance, Int.add_assoc]

theorem braceBalance_eq (text : List Char) :
    braceBalance text = text.count '\x7b' - text.count '\x7d' := by
  induction text with
  | nil => rfl
  | cons c text ih =>
    rw [braceBalance, ih, List.count_cons, List.count_cons, braceStep]
    by_cases opens : c = '\x7b'
    · simp [opens]
      omega
    · by_cases closes : c = '\x7d'
      · simp [closes]
        omega
      · simp [opens, closes]

section Places
variable {text : List Char} {found other : Found} {shapes others : List Found} {start : Nat}

/-- A shape stands where the search finds it. -/
theorem Found.standsIn_iff :
    found.StandsIn text ↔ shapeAt? (text.drop found.offset) = some found.shape ∧
      found.depth = braceBalance (text.take found.offset) := by
  rw [shapeAt?_eq_some_iff]
  constructor
  · rintro ⟨before, written, after, rfl, offset, depth, shaped⟩
    rw [offset, List.drop_left, List.take_left]
    exact ⟨⟨written, after, rfl, shaped⟩, depth⟩
  · rintro ⟨⟨written, after, split, shaped⟩, depth⟩
    -- a shape is not empty, so that it does not stand behind the text
    have inText : found.offset < text.length := by
      have length := congrArg List.length split
      have nonempty := shaped.length_eq ▸ shaped.length_pos
      simp only [List.length_drop, List.length_append] at length
      omega
    refine ⟨text.take found.offset, written, after, ?_, ?_, depth, shaped⟩
    · rw [← split, List.take_append_drop]
    · rw [List.length_take, Nat.min_eq_left inText.le]

/-- Only one shape can stand at an offset. -/
theorem Found.StandsIn.eq_of_offset_eq (h : found.StandsIn text) (ho : other.StandsIn text)
    (same : found.offset = other.offset) : found = other := by
  obtain ⟨shape, depth⟩ := standsIn_iff.mp h
  obtain ⟨otherShape, otherDepth⟩ := standsIn_iff.mp ho
  rw [same] at shape depth
  have shapes : found.shape = other.shape := Option.some.inj (shape.symm.trans otherShape)
  have depths : found.depth = other.depth := depth.trans otherDepth.symm
  cases found
  cases other
  simp_all

theorem Found.StandsIn.offset_lt_stop (h : found.StandsIn text) : found.offset < found.stop := by
  obtain ⟨before, written, after, -, -, -, shaped⟩ := h
  have nonempty := shaped.length_pos
  rw [stop]
  omega

theorem leftmost_nil (h : text.length ≤ start) : Leftmost text start [] := by
  refine ⟨by simp, by simp, .nil, ?_⟩
  rintro other ⟨before, written, after, rfl, offset, -, shaped⟩ fromStart
  have nonempty := shaped.length_eq ▸ shaped.length_pos
  simp only [List.length_append] at h
  omega

/-- Where no shape begins, the leftmost ones are those from the next offset on. -/
theorem Leftmost.skip (h : Leftmost text (start + 1) shapes)
    (nothing : shapeAt? (text.drop start) = none) : Leftmost text start shapes := by
  refine ⟨h.stand, ?_, h.apart, ?_⟩
  · intro found hf
    have := h.behind found hf
    omega
  · intro other stands fromStart
    have elsewhere : other.offset ≠ start := by
      rintro rfl
      rw [(Found.standsIn_iff.mp stands).1] at nothing
      simp at nothing
    exact h.covers other stands (by omega)

/-- Where a shape begins, the leftmost ones are this one and then those behind it. -/
theorem Leftmost.cons (stands : found.StandsIn text) (h : Leftmost text found.stop shapes) :
    Leftmost text found.offset (found :: shapes) := by
  refine ⟨List.forall_mem_cons.mpr ⟨stands, h.stand⟩, ?_,
    List.pairwise_cons.mpr ⟨h.behind, h.apart⟩, ?_⟩
  · refine List.forall_mem_cons.mpr ⟨le_rfl, fun later hl => ?_⟩
    exact stands.offset_lt_stop.le.trans (h.behind later hl)
  · intro other ho fromFound
    by_cases inside : other.offset < found.stop
    · exact ⟨found, List.mem_cons_self, fromFound, inside⟩
    · obtain ⟨first, hf, covers⟩ := h.covers other ho (by omega)
      exact ⟨first, List.mem_cons_of_mem _ hf, covers⟩

theorem Leftmost.tail (h : Leftmost text start (found :: shapes)) :
    Leftmost text found.stop shapes := by
  obtain ⟨apart, rest⟩ := List.pairwise_cons.mp h.apart
  refine ⟨fun later hl => h.stand later (List.mem_cons_of_mem _ hl), apart, rest, ?_⟩
  intro other ho fromStop
  have own := (h.stand found List.mem_cons_self).offset_lt_stop
  have first := h.behind found List.mem_cons_self
  obtain ⟨cover, hc, begins, ends⟩ := h.covers other ho (by omega)
  rcases List.mem_cons.mp hc with rfl | hc
  · omega
  · exact ⟨cover, hc, begins, ends⟩

/-- The first of the leftmost shapes begins before any other shape. -/
theorem Leftmost.head_le (h : Leftmost text start (found :: shapes)) (ho : other.StandsIn text)
    (fromStart : start ≤ other.offset) : found.offset ≤ other.offset := by
  obtain ⟨cover, hc, begins, -⟩ := h.covers other ho fromStart
  rcases List.mem_cons.mp hc with rfl | hc
  · exact begins
  · have own := (h.stand found List.mem_cons_self).offset_lt_stop
    have later := (List.pairwise_cons.mp h.apart).1 cover hc
    omega

/-- There is only one list of leftmost shapes. -/
theorem Leftmost.eq (h : Leftmost text start shapes) (ho : Leftmost text start others) :
    shapes = others := by
  induction shapes generalizing start others with
  | nil =>
    cases others with
    | nil => rfl
    | cons other others =>
      obtain ⟨cover, hc, -⟩ := h.covers other (ho.stand other List.mem_cons_self)
        (ho.behind other List.mem_cons_self)
      simp at hc
  | cons found shapes ih =>
    have stands := h.stand found List.mem_cons_self
    have behind := h.behind found List.mem_cons_self
    cases others with
    | nil =>
      obtain ⟨cover, hc, -⟩ := ho.covers found stands behind
      simp at hc
    | cons other others =>
      have otherStands := ho.stand other List.mem_cons_self
      have otherBehind := ho.behind other List.mem_cons_self
      have same : found = other := stands.eq_of_offset_eq otherStands
        (Nat.le_antisymm (h.head_le otherStands otherBehind) (ho.head_le stands behind))
      subst same
      rw [ih h.tail ho.tail]

end Places

/-- The search keeps finding the leftmost shapes behind those that it has found, and keeps count of
the braces. -/
theorem leftmost_shapesFrom (before text : List Char) (covered : Nat) :
    Leftmost (before ++ text) (before.length + covered)
      (shapesFrom before.length (braceBalance before) covered text) := by
  -- on the text that is left to read; what has been read of it is put behind the text before
  induction text generalizing before covered with
  | nil => exact leftmost_nil (by simp)
  | cons c rest ih =>
    have next (covered : Nat) : Leftmost (before ++ c :: rest) (before.length + 1 + covered)
        (shapesFrom (before.length + 1) (braceBalance before + braceStep c) covered rest) := by
      have read := ih (before ++ [c]) covered
      rwa [List.append_assoc, List.singleton_append, List.length_append, List.length_singleton,
        braceBalance_append, braceBalance, braceBalance, Int.add_zero] at read
    unfold shapesFrom
    cases covered with
    | succ left =>
      have read := next left
      rwa [Nat.add_assoc, Nat.add_comm 1 left] at read
    | zero =>
      cases begins : shapeAt? (c :: rest) with
      | none => exact (next 0).skip (by rwa [List.drop_left])
      | some shape =>
        have stands : Found.StandsIn (before ++ c :: rest)
            ⟨before.length, braceBalance before, shape⟩ := by
          rw [Found.standsIn_iff]
          dsimp only
          rw [List.drop_left, List.take_left]
          exact ⟨begins, rfl⟩
        have nonempty := stands.offset_lt_stop
        have stop : before.length + 1 + (shape.length - 1) =
            Found.stop ⟨before.length, braceBalance before, shape⟩ := by
          unfold Found.stop at nonempty ⊢
          dsimp only at nonempty ⊢
          omega
        have read := next (shape.length - 1)
        rw [stop] at read
        exact .cons stands read

theorem leftmost_shapes (text : List Char) : Leftmost text 0 (shapes text) :=
  leftmost_shapesFrom [] text 0

end AnnotatedTests
