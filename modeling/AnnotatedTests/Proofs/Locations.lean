import AnnotatedTests.Proofs.Linkage
import AnnotatedTests.Proofs.Shapes
import AnnotatedTests.Proofs.Sites

/-! Where problems are. Each is reported for a source at a line on which something of that source
begins: the declaration of the function that does not fit, and otherwise the comment of the
directive. -/
namespace AnnotatedTests
attribute [local irreducible] Comment.directive

/-- Whether a directive comment of a source, which is given with its name, begins at an offset. -/
def DirectiveAt (marker : String) (source : String × List Char) (offset : Nat) : Prop :=
  ∃ span ∈ comments source.2, span.start = offset ∧
    isDirective marker (span.slice source.2) = true

/-- Whether the code of a source has the shape of a declaration from an offset on. -/
def DeclarationAt (source : String × List Char) (offset : Nat) (d : Declaration) : Prop :=
  ∃ shape, shapeAt? ((skeleton source.2).drop offset) = some shape ∧
    shape.declaration? ⟨source.1, lineAt source.2 offset⟩ = some d

/-- Whether the scan of a source holds a declaration, as a definition or behind a directive. -/
def Recognised (marker : String) (source : String × List Char) (d : Declaration) : Prop :=
  d ∈ (scan source.2 source.1 marker).definitions ∨
    ∃ site ∈ (scan source.2 source.1 marker).sites, site.following = some d

/-- Where a problem is in some sources: on the line where a directive comment begins, or if it is
that a function does not fit, where a declaration of that function does. -/
inductive Located (marker : String) (sources : List (String × List Char)) (problem : Problem) :
    Prop where
  | directive {source : String × List Char} {offset : Nat} : source ∈ sources →
    problem.place = ⟨source.1, lineAt source.2 offset⟩ →
    problem.cause.kind ≠ .signatureMismatch → DirectiveAt marker source offset →
    Located marker sources problem
  | declaration {source : String × List Char} {offset : Nat} {d : Declaration} :
    source ∈ sources → problem.place = ⟨source.1, lineAt source.2 offset⟩ →
    problem.cause.kind = .signatureMismatch → Recognised marker source d →
    DeclarationAt source offset d → problem.cause.subject? = some d.identifier →
    Located marker sources problem

theorem drop_length_takeWhile {α : Type} (p : α → Bool) (xs : List α) :
    xs.drop (xs.takeWhile p).length = xs.dropWhile p := by
  induction xs with
  | nil => rfl
  | cons x xs ih => by_cases h : p x <;> simp [h, ih]

theorem DeclarationAt.place_eq {source : String × List Char} {offset : Nat} {d : Declaration}
    (h : DeclarationAt source offset d) : d.place = ⟨source.1, lineAt source.2 offset⟩ := by
  obtain ⟨shape, -, declares⟩ := h
  exact (parts_of_declaration? declares).1

section Scanned
variable {marker : String} {source : String × List Char}

/-- A site of a scan comes from a directive comment, and so does its place. -/
theorem exists_directiveAt {site : Site} (h : site ∈ (scan source.2 source.1 marker).sites) :
    ∃ offset, DirectiveAt marker source offset ∧
      site.comment.place = ⟨source.1, lineAt source.2 offset⟩ := by
  obtain ⟨span, hs, rfl⟩ := List.mem_map.mp h
  obtain ⟨comment, directive⟩ := List.mem_filter.mp hs
  exact ⟨span.start, ⟨span, comment, rfl, directive⟩, rfl⟩

/-- A declaration of a scan is one in the code of the source. -/
theorem Recognised.exists_declarationAt {d : Declaration} (h : Recognised marker source d) :
    ∃ offset, DeclarationAt source offset d := by
  rcases h with definition | ⟨site, hs, following⟩
  · obtain ⟨⟨found, hf, -, declares⟩, -⟩ := mem_definitions_scan.mp definition
    have stands := (leftmost_shapes _).stand found hf
    exact ⟨found.offset, found.shape, (Found.standsIn_iff.mp stands).1, declares⟩
  · obtain ⟨span, -, rfl⟩ := List.mem_map.mp hs
    -- it begins with the first character behind the comment that is not blank
    obtain ⟨shape, begins, declares⟩ := Option.bind_eq_some_iff.mp following
    rw [← drop_length_takeWhile, List.drop_drop] at begins
    exact ⟨_, shape, begins, declares⟩

end Scanned

/-- The symbol that declarations make stands where one of them does. -/
theorem exists_place_of_symbolOf {declarations : List Declaration} {s : Symbol}
    (made : symbolOf declarations = some s) : ∃ d ∈ declarations, d.place = s.place := by
  refine symbolOf_induction (motive := fun declarations s =>
    ∃ d ∈ declarations, d.place = s.place) ?_ ?_ made
  · intro d
    exact ⟨d, List.mem_cons_self, rfl⟩
  · intro declarations s last t _ ih step
    obtain ⟨d, hd, place⟩ := ih
    have kept : ∃ d ∈ declarations ++ [last], d.place = s.place :=
      ⟨d, List.mem_append_left _ hd, place⟩
    -- only the first definition moves the symbol, and then to its own place
    cases step with
    | repeats _ => exact kept
    | stays _ _ => exact kept
    | moves _ _ _ => exact ⟨last, by simp, rfl⟩

section Problems
variable {marker : String} {sources : List (String × List Char)}

theorem located_of_site {problem : Problem} {site : Site}
    (hs : site ∈ (scanAll marker sources).flatMap Scan.sites)
    (place : problem.place = site.comment.place)
    (kind : problem.cause.kind ≠ .signatureMismatch) : Located marker sources problem := by
  obtain ⟨file, hf, hs⟩ := List.mem_flatMap.mp hs
  obtain ⟨source, member, rfl⟩ := List.mem_map.mp hf
  obtain ⟨offset, directive, begins⟩ := exists_directiveAt hs
  exact .directive member (place.trans begins) kind directive

theorem located_of_reference {conventions : Conventions} {reference : Reference}
    (hr : reference ∈ (Collection.ofItems conventions
      (itemsOf marker (scanAll marker sources))).references)
    {problem : Problem} (place : problem.place = reference.place)
    (kind : problem.cause.kind ≠ .signatureMismatch) : Located marker sources problem := by
  obtain ⟨before, i, later, split, made⟩ := mem_references_ofItems.mp hr
  have hi : i ∈ instructionsOf marker (scanAll marker sources) := by
    rw [instructionsOf, split]
    simp
  obtain ⟨file, hf, site, hs, read, -⟩ := exists_site_of_mem_instructionsOf hi
  have own : reference.place = i.directive.place := by
    cases Instruction.comesFrom_of_mem_references made <;> rfl
  refine located_of_site (List.mem_flatMap.mpr ⟨file, hf, hs⟩) ?_ kind
  calc problem.place
      = reference.place := place
    _ = i.directive.place := own
    _ = site.comment.place := place_of_directive read

theorem exists_recognised_of_mem_declarationsOf {name : String} {d : Declaration}
    (h : d ∈ declarationsOf marker (scanAll marker sources) name) :
    d.identifier = name ∧ ∃ source ∈ sources, Recognised marker source d := by
  obtain ⟨named, source, member, recorded⟩ := mem_declarationsOf_scanAll.mp h
  refine ⟨named, source, member, ?_⟩
  rcases recorded with definition | ⟨site, hs, directive, -, following⟩
  · exact Or.inl (mem_definitions_scan.mpr definition)
  · exact Or.inr ⟨site, hs, following⟩

theorem located_of_symbol {conventions : Conventions} {name : String} {s : Symbol}
    (declared : (Collection.ofItems conventions (itemsOf conventions.marker
      (scanAll conventions.marker sources))).symbols.lookup? name = some s)
    {problem : Problem} (place : problem.place = s.place)
    (kind : problem.cause.kind = .signatureMismatch)
    (subject : problem.cause.subject? = some name) :
    Located conventions.marker sources problem := by
  rw [lookup?_symbols_itemsOf] at declared
  obtain ⟨d, hd, own⟩ := exists_place_of_symbolOf declared
  obtain ⟨rfl, source, member, recognised⟩ := exists_recognised_of_mem_declarationsOf hd
  obtain ⟨offset, declares⟩ := recognised.exists_declarationAt
  have begins : problem.place = ⟨source.1, lineAt source.2 offset⟩ := by
    rw [place, ← own, declares.place_eq]
  exact .declaration member begins kind recognised declares subject

end Problems

/-- Every problem of a registry is in one of the sources that it is made of, on the line where a
directive comment of that source begins; or if a function does not fit, where a declaration of that
function does. -/
theorem located_of_mem_problems {conventions : Conventions} {sources : List (String × List Char)}
    {registry : Registry}
    (built : (buildRegistry conventions (scanAll conventions.marker sources)).1 = .ok registry) :
    ∀ problem ∈ registry.problems, Located conventions.marker sources problem := by
  obtain ⟨-, rfl⟩ := buildRegistry_eq_ok_iff.mp built
  intro problem hp
  rw [Collection.problems_registry_ofItems, Collection.problems_itemsOf, List.mem_append] at hp
  rcases hp with collected | resolved
  · obtain ⟨⟨prior, site⟩, hs, made⟩ := List.mem_filterMap.mp collected
    obtain ⟨place, kinds⟩ := Site.of_problem? made
    refine located_of_site (mem_of_mem_withPrior hs) place ?_
    rcases kinds with kind | kind | kind <;> simp [kind]
  · obtain ⟨⟨prior, reference⟩, hr, made⟩ := List.mem_filterMap.mp resolved
    obtain ⟨later, split⟩ := mem_withPrior.mp hr
    have member := mem_of_mem_withPrior hr
    -- a reference that is wrong itself is where its directive is, a function where it is declared
    cases (problem?_eq_some_iff split).mp made with
    | undeclared _ => exact located_of_reference member rfl (by simp [Cause.kind])
    | conflict _ _ _ => exact located_of_reference member rfl (by simp [Cause.kind])
    | internal declared _ _ => exact located_of_symbol declared rfl rfl rfl
    | misshapen declared _ _ _ => exact located_of_symbol declared rfl rfl rfl

/-- A source that annotates a prototype, and one that defines the function with another shape. -/
def callSource : String × List Char :=
  ("call.c", textOfLines ["/*!cmocka setup */ int up(void **state);", "/*!cmocka test lost */"])

def bodySource : String × List Char :=
  ("body.c", textOfLines ["", "int up(int n) \x7b\x7d"])

theorem located_callSource_bodySource :
    ∃ registry,
      (buildRegistry .standard (scanAll "cmocka" [callSource, bodySource])).1 = .ok registry ∧
        registry.problems.map (fun problem => (problem.cause.kind, problem.place)) =
          [(.signatureMismatch, ⟨"body.c", 2⟩), (.unknownSymbol, ⟨"call.c", 2⟩)] ∧
        ∀ problem ∈ registry.problems, Located "cmocka" [callSource, bodySource] problem := by
  have legible : ∀ file ∈ scanAll "cmocka" [callSource, bodySource],
      file.Legible Conventions.standard.marker := by
    decide +kernel
  have built := buildRegistry_eq_ok_iff.mpr ⟨legible, rfl⟩
  exact ⟨_, built, by decide +kernel, located_of_mem_problems built⟩

end AnnotatedTests
