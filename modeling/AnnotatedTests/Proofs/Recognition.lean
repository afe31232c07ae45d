import AnnotatedTests.Proofs.Linkage
import AnnotatedTests.Proofs.Locations
import AnnotatedTests.Proofs.Tokens

/-! The two ways in which a scan recognises a function: behind a directive comment, and among the
definitions at file scope. They agree on an annotated function where the text before the comment is
complete and no brace is open. -/
namespace AnnotatedTests
attribute [local irreducible] Comment.directive

/-- The last character of a text that is not blank. -/
def lastVisible? (text : List Char) : Option Char :=
  (text.filter fun c => !isBlank c).getLast?

/-- The directive comments of a source, in order. -/
def directiveSpans (source : List Char) (marker : String) : List Span :=
  (comments source).filter fun span => isDirective marker (span.slice source)

/-- What a scan records for a directive comment. -/
def siteAt (source : List Char) (filename : String) (span : Span) : Site where
  comment :=
    { filename
      startLine := lineAt source span.start
      endLine := lineAt source ((span.stop : Int) - 1)
      text := String.ofList (span.slice source) }
  following := declarationAfter? source (skeleton source) filename span.stop

/-- The first offset, from a given one on, at which a text is not blank. -/
def firstVisible (text : List Char) (offset : Nat) : Nat :=
  offset + ((text.drop offset).takeWhile isBlank).length

/-- Whether a statement or a body can end with a character. -/
def EndsStatement (c : Char) : Prop :=
  c = ';' ∨ c = '\x7d'

theorem sites_scan (source : List Char) (filename marker : String) :
    (scan source filename marker).sites =
      (directiveSpans source marker).map (siteAt source filename) :=
  rfl

theorem beginsIdentifier_of_isBlank {c : Char} (h : isBlank c = true) :
    beginsIdentifier c = false := by
  rw [Bool.eq_false_iff]
  intro begins
  simp only [isBlank, Bool.or_eq_true, Bool.and_eq_true, decide_eq_true_eq, beq_iff_eq] at h
  simp only [beginsIdentifier, Bool.or_eq_true, Bool.and_eq_true, decide_eq_true_eq,
    beq_iff_eq] at begins
  rcases begins with begins | rfl
  · omega
  · simp at h

section Shapes

/-- Before its last character a declaration shape holds no brace and no semicolon. -/
theorem exists_text_of_shapeAt? {text : List Char} {shape : Shape}
    (h : shapeAt? text = some shape) :
    ∃ init last rest, text = init ++ last :: rest ∧ shape.length = init.length + 1 ∧
      ∀ c ∈ init, c ≠ '\x7b' ∧ ¬ EndsStatement c := by
  have plain {p : Char → Bool} (hp : ['\x7b', '\x7d', ';'].all (fun c => !p c) = true) {c : Char}
      (h : p c = true) : c ≠ '\x7b' ∧ ¬ EndsStatement c := by
    have other := List.all_eq_true.mp hp
    refine ⟨?_, ?_⟩
    · rintro rfl
      simpa [h] using other '\x7b' (by simp)
    · rintro (rfl | rfl)
      · simpa [h] using other ';' (by simp)
      · simpa [h] using other '\x7d' (by simp)
  obtain ⟨written, after, rfl, shaped⟩ := shapeAt?_eq_some_iff.mp h
  cases shaped with
  | @parts first head params gap _ defined begins inHead inParams inGap split =>
    subst split
    refine ⟨first :: (head ++ '(' :: (params ++ ')' :: gap)), closingChar defined, after, by simp,
      ?_, ?_⟩
    · simp only [List.length_cons, List.length_append, List.length_nil]
      omega
    · intro d hd
      simp only [List.mem_cons, List.mem_append] at hd
      rcases hd with rfl | hd | rfl | hd | rfl | hd
      · exact plain (by decide) begins
      · exact plain (by decide) (inHead d hd)
      · simp [EndsStatement]
      · exact plain (by decide) (inParams d hd)
      · simp [EndsStatement]
      · exact plain (by decide) (inGap d hd)

theorem shapeAt?_of_isBlank {c : Char} {rest : List Char} (h : isBlank c = true) :
    shapeAt? (c :: rest) = none := by
  simp [shapeAt?, beginsIdentifier_of_isBlank h]

/-- A shape is found if none that begins before it reaches into it. -/
theorem mem_shapes {text : List Char} {n : Nat} {shape : Shape}
    (begins : shapeAt? (text.drop n) = some shape)
    (apart : ∀ k < n, ∀ earlier, shapeAt? (text.drop k) = some earlier →
      k + earlier.length ≤ n) :
    ⟨n, braceBalance (text.take n), shape⟩ ∈ shapes text := by
  have stands : Found.StandsIn text ⟨n, braceBalance (text.take n), shape⟩ :=
    Found.standsIn_iff.mpr ⟨begins, rfl⟩
  obtain ⟨first, hf, before, reaches⟩ := (leftmost_shapes text).covers _ stands (Nat.zero_le n)
  have found := (leftmost_shapes text).stand first hf
  rcases Nat.lt_or_eq_of_le before with earlier | same
  · have ends := apart first.offset earlier first.shape (Found.standsIn_iff.mp found).1
    exact absurd reaches (Nat.not_lt.mpr ends)
  · exact found.eq_of_offset_eq stands same ▸ hf

end Shapes

theorem lastVisible?_append (before behind : List Char) {c : Char}
    (visible : isBlank c = false) :
    ∃ d ∈ c :: behind, lastVisible? (before ++ c :: behind) = some d := by
  have seen : c ∈ (c :: behind).filter fun c => !isBlank c := by simp [visible]
  obtain ⟨d, hd⟩ := Option.isSome_iff_exists.mp
    (List.getLast?_isSome.mpr (List.ne_nil_of_mem seen))
  refine ⟨d, (List.mem_filter.mp (List.mem_of_getLast? hd)).1, ?_⟩
  rw [lastVisible?, List.filter_append, List.getLast?_append, hd, Option.some_or]

/-- Where the visible text before a place ends with a statement or a body, or there is none, no
declaration shape that begins before the place reaches it. -/
theorem length_le_of_endsStatement {before gap rest : List Char}
    (complete : ∀ c ∈ lastVisible? before, EndsStatement c) (blank : ∀ c ∈ gap, isBlank c = true)
    {k : Nat} (hk : k < (before ++ gap).length) {shape : Shape}
    (found : shapeAt? ((before ++ gap ++ rest).drop k) = some shape) :
    k + shape.length ≤ (before ++ gap).length := by
  rw [List.length_append] at hk ⊢
  rw [List.append_assoc] at found
  by_cases early : k < before.length
  · obtain ⟨init, last, behind, split, length, plain⟩ := exists_text_of_shapeAt? found
    by_contra reaches
    rw [List.drop_append_of_le_length early.le] at split
    -- the shape holds all that is visible behind its beginning, and so how that ends
    have inside : before.drop k <+: init := by
      have within : before.drop k <+: init ++ last :: behind := split ▸ List.prefix_append _ _
      refine List.prefix_of_prefix_length_le within (List.prefix_append _ _) ?_
      rw [List.length_drop]
      omega
    obtain ⟨c, tail, start⟩ := List.exists_cons_of_ne_nil
      (show before.drop k ≠ [] by simpa using early)
    have visible : isBlank c = false := by
      rw [Bool.eq_false_iff]
      intro blank
      rw [List.drop_append_of_le_length early.le, start, List.cons_append,
        shapeAt?_of_isBlank blank] at found
      simp at found
    obtain ⟨d, hd, last⟩ := lastVisible?_append (before.take k) tail visible
    rw [← start, List.take_append_drop] at last
    exact (plain d (inside.subset (start ▸ hd))).2 (complete d last)
  · obtain ⟨c, tail, start⟩ := List.exists_cons_of_ne_nil
      (show gap.drop (k - before.length) ≠ [] by simp; omega)
    have inGap : c ∈ gap := List.mem_of_mem_drop (start ▸ List.mem_cons_self)
    rw [List.drop_append, List.drop_eq_nil_of_le (not_lt.mp early), List.nil_append,
      List.drop_append_of_le_length (by omega), start, List.cons_append,
      shapeAt?_of_isBlank (blank c inGap)] at found
    simp at found

/-- The function that follows a directive comment, if it has a body there, is also among the
definitions at file scope, provided that before the comment a statement or a body has ended, or
there is nothing, and that no brace is open where the function begins. -/
theorem mem_definitions_of_following {source : List Char} {filename marker : String} {i : Nat}
    {site : Site} {span : Span} {d : Declaration}
    (annotates : (scan source filename marker).sites[i]? = some site)
    (directive : (directiveSpans source marker)[i]? = some span)
    (follows : site.following = some d) (body : d.defined = true)
    (complete : ∀ c ∈ lastVisible? ((skeleton source).take span.start), EndsStatement c)
    (balanced : ((skeleton source).take (firstVisible (skeleton source) span.stop)).count '\x7b' =
      ((skeleton source).take (firstVisible (skeleton source) span.stop)).count '\x7d') :
    d ∈ (scan source filename marker).definitions := by
  rw [sites_scan, List.getElem?_map, directive, Option.map_some] at annotates
  obtain rfl := Option.some.inj annotates
  obtain ⟨shape, begins, declares⟩ := Option.bind_eq_some_iff.mp follows
  have comment : span ∈ comments source :=
    (List.mem_filter.mp (List.mem_of_getElem? directive)).1
  obtain ⟨before, text, after, -, rfl, -, shown, length, code⟩ := exists_of_mem_comments comment
  -- the code is cut at the beginning of the comment and where the function begins
  generalize skeletonFrom _ after = tail at code
  have behind : (skeleton source).drop (before.length + text.length) = tail := by
    rw [code, ← List.append_assoc]
    exact List.drop_left' (by simp [length])
  have first : firstVisible (skeleton source) (before.length + text.length) =
      (shown ++ (text.map blanked ++ tail.takeWhile isBlank)).length := by
    rw [firstVisible, behind]
    simp [length, Nat.add_assoc]
  have whole : skeleton source =
      shown ++ (text.map blanked ++ tail.takeWhile isBlank) ++ tail.dropWhile isBlank := by
    rw [code]
    simp
  have start : (skeleton source).take before.length = shown := by
    rw [code]
    exact List.take_left' length
  have blank : ∀ c ∈ text.map blanked ++ tail.takeWhile isBlank, isBlank c = true := by
    intro c hc
    rcases List.mem_append.mp hc with comment | gap
    · obtain ⟨d, -, rfl⟩ := List.mem_map.mp comment
      exact isBlank_blanked d
    · exact List.mem_takeWhile_imp gap
  have here : shapeAt? ((skeleton source).drop
      (firstVisible (skeleton source) (before.length + text.length))) = some shape := by
    rw [first, whole, List.drop_left]
    rwa [behind] at begins
  have apart : ∀ k < firstVisible (skeleton source) (before.length + text.length), ∀ earlier,
      shapeAt? ((skeleton source).drop k) = some earlier →
        k + earlier.length ≤ firstVisible (skeleton source) (before.length + text.length) := by
    rw [first]
    intro k hk earlier reaches
    rw [whole] at reaches
    exact length_le_of_endsStatement (start ▸ complete) blank hk reaches
  have found := mem_shapes here apart
  rw [braceBalance_eq, balanced, Int.sub_self] at found
  have outside : DeclaresAtFileScope (filename, source) d := ⟨_, found, rfl, declares⟩
  exact mem_definitions_scan.mpr ⟨outside, body⟩

/-- A source with a function that has statements in the shape of declarations, and with an
annotated one behind a second comment. -/
def sumSource : List Char :=
  textOfLines ["static int sum(int n) \x7b if (n) \x7b return sum(n - 1); \x7d return (0); \x7d",
    "/*!cmocka */ /* adds \x7b */", "void sums(void **state)", "\x7b sum(1); \x7d"]

theorem mem_definitions_of_sumSource :
    ∃ site ∈ (scan sumSource "sum.c" "cmocka").sites, ∃ d, site.following = some d ∧
      d.identifier = "sums" ∧ d.place = ⟨"sum.c", 3⟩ ∧
      d ∈ (scan sumSource "sum.c" "cmocka").definitions := by
  have annotates : (scan sumSource "sum.c" "cmocka").sites[0]? =
      some ⟨⟨"sum.c", 2, 2, "/*!cmocka */"⟩,
        some ⟨"sums", ["void**"], "void", ⟨"sum.c", 3⟩, true, false⟩⟩ := by
    decide +kernel
  have directive : (directiveSpans sumSource "cmocka")[0]? = some ⟨68, 80⟩ := by
    decide +kernel
  refine ⟨_, List.mem_of_getElem? annotates, _, rfl, rfl, rfl,
    mem_definitions_of_following annotates directive rfl rfl ?_ ?_⟩
  · have last : lastVisible? ((skeleton sumSource).take 68) = some '\x7d' := by
      decide +kernel
    intro c hc
    rw [last] at hc
    exact .inr (Option.some.inj hc).symm
  · decide +kernel

end AnnotatedTests
