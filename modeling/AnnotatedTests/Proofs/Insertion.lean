import AnnotatedTests.Proofs.Declarations
import AnnotatedTests.Proofs.Exchange
import AnnotatedTests.Proofs.Sites

/-! Files without directives. What such a file declares can be used by the directives of all other
files, wherever it stands among them: collecting looks no function up, and resolving knows the
symbols by their names only. -/
namespace AnnotatedTests
attribute [local irreducible] Comment.directive

theorem instructionsOf_eq_flatMap (marker : String) (files : List Scan) :
    instructionsOf marker files =
      files.flatMap fun file => instructionsAmong (file.items marker) := by
  rw [instructionsOf, instructionsAmong, itemsOf, List.filterMap_flatMap]
  rfl

theorem instructionsAmong_items_of_silent {file : Scan} (silent : file.sites = [])
    (marker : String) : instructionsAmong (file.items marker) = [] := by
  simp [instructionsAmong, Scan.items, silent, Item.instruction?]

theorem filterMap_file?_itemsOf (marker : String) (files : List Scan) :
    (itemsOf marker files).filterMap Item.file? = files.map Scan.filename := by
  have ofSite (current : String) (site : Site) :
      (site.item? marker current).bind Item.file? = none := by
    unfold Site.item?
    cases site.comment.directive marker with
    | ok d => rfl
    | error failure => cases failure <;> rfl
  have named (file : Scan) : (file.items marker).filterMap Item.file? = [file.filename] := by
    have read := file.filterMap_items fun current site _ => ofSite current site
    simpa [Item.file?] using read
  rw [itemsOf, List.filterMap_flatMap, List.map_eq_flatMap]
  simp only [named]

/-- Resolving knows the symbols by their names only. -/
theorem Reference.problem?_congr {symbols others : SymbolTable}
    (same : ∀ name, symbols.lookup? name = others.lookup? name) (prior : List Reference)
    (reference : Reference) :
    reference.problem? symbols prior = reference.problem? others prior := by
  rw [problem?, problem?, same]

section Same
variable {conventions : Conventions} {files others : List Scan}

theorem groups_registry_congr
    (instructions : instructionsOf conventions.marker files =
      instructionsOf conventions.marker others) :
    (Collection.ofItems conventions (itemsOf conventions.marker files)).registry.groups =
      (Collection.ofItems conventions (itemsOf conventions.marker others)).registry.groups := by
  unfold instructionsOf at instructions
  rw [Collection.groups_registry_ofItems, Collection.groups_registry_ofItems, instructions]

theorem references_congr
    (instructions : instructionsOf conventions.marker files =
      instructionsOf conventions.marker others) :
    (Collection.ofItems conventions (itemsOf conventions.marker files)).references =
      (Collection.ofItems conventions (itemsOf conventions.marker others)).references := by
  unfold instructionsOf at instructions
  rw [Collection.references_ofItems, Collection.references_ofItems, instructions]

/-- The symbol of a name in a registry is that of its declarations, with the use that the references
give it. -/
theorem lookup?_registry_itemsOf (conventions : Conventions) (files : List Scan) (name : String) :
    (Collection.ofItems conventions
        (itemsOf conventions.marker files)).registry.symbols.lookup? name =
      (symbolOf (declarationsOf conventions.marker files name)).map fun s =>
        { s with use := useOf (Collection.ofItems conventions
          (itemsOf conventions.marker files)).references name } := by
  rw [Collection.symbols_registry_ofItems, SymbolTable.lookup?_usedBy, lookup?_symbols_itemsOf]

theorem lookup?_registry_congr
    (instructions : instructionsOf conventions.marker files =
      instructionsOf conventions.marker others) {name : String}
    (declarations : declarationsOf conventions.marker files name =
      declarationsOf conventions.marker others name) :
    (Collection.ofItems conventions
        (itemsOf conventions.marker files)).registry.symbols.lookup? name =
      (Collection.ofItems conventions
        (itemsOf conventions.marker others)).registry.symbols.lookup? name := by
  rw [lookup?_registry_itemsOf, lookup?_registry_itemsOf, declarations,
    references_congr instructions]

theorem problems_registry_congr
    (sites : files.flatMap Scan.sites = others.flatMap Scan.sites)
    (instructions : instructionsOf conventions.marker files =
      instructionsOf conventions.marker others)
    (declarations : ∀ name, declarationsOf conventions.marker files name =
      declarationsOf conventions.marker others name) :
    (Collection.ofItems conventions (itemsOf conventions.marker files)).registry.problems =
      (Collection.ofItems conventions (itemsOf conventions.marker others)).registry.problems := by
  have symbols (name : String) :
      (Collection.ofItems conventions (itemsOf conventions.marker files)).symbols.lookup? name =
        (Collection.ofItems conventions
          (itemsOf conventions.marker others)).symbols.lookup? name := by
    rw [lookup?_symbols_itemsOf, lookup?_symbols_itemsOf, declarations]
  -- the sites make the same problems, and so do the references, which are looked up by name
  rw [Collection.problems_registry_ofItems, Collection.problems_registry_ofItems,
    Collection.problems_itemsOf, Collection.problems_itemsOf, sites, references_congr instructions]
  congr 1
  apply List.filterMap_congr
  intro p _
  exact Reference.problem?_congr symbols p.1 p.2

end Same

/-- A file whose functions no other file declares can stand anywhere among the others: what the
files declare of a name is in the same order. -/
theorem declarationsOf_insert {marker : String} {before after : List Scan} {added : Scan}
    (silent : added.sites = [])
    (own : ∀ d ∈ added.definitions, ∀ file ∈ before ++ after, ∀ e ∈ file.declarations marker,
      e.identifier ≠ d.identifier) (name : String) :
    declarationsOf marker (before ++ added :: after) name =
      declarationsOf marker (added :: (before ++ after)) name := by
  have moved : Exchanged (fun d e : Declaration => d.identifier ≠ e.identifier)
      ([] ++ (before.flatMap (Scan.declarations marker) ++
        (added.declarations marker ++ after.flatMap (Scan.declarations marker))))
      ([] ++ (added.declarations marker ++
        (before.flatMap (Scan.declarations marker) ++
          after.flatMap (Scan.declarations marker)))) := by
    refine .blocks ?_
    intro e he d hd
    obtain ⟨file, hf, he⟩ := List.mem_flatMap.mp he
    have defined : d ∈ added.definitions := by
      simpa [Scan.declarations, silent] using hd
    exact own d defined file (by simp [hf]) e he
  simpa [declarationsOf] using moved.filter_key_eq (fun _ _ different => different) name

/-- Files between which one is put that has no directives, and whose functions no other file
declares, give the same groups and tests, the same problems and the same symbol for each name
wherever it stands among them; only the list of files shows its place. The groups and the other
functions are as they are without it, and its own functions are as it alone declares them. -/
theorem buildRegistry_insert {conventions : Conventions} {files : List Scan} {registry : Registry}
    (built : (buildRegistry conventions files).1 = .ok registry) {added : Scan}
    (silent : added.sites = [])
    (own : ∀ d ∈ added.definitions, ∀ file ∈ files, ∀ e ∈ file.declarations conventions.marker,
      e.identifier ≠ d.identifier) :
    ∃ first, (buildRegistry conventions (added :: files)).1 = .ok first ∧
      first.groups = registry.groups ∧
      (∀ name, (∀ d ∈ added.definitions, d.identifier ≠ name) →
        first.symbols.lookup? name = registry.symbols.lookup? name) ∧
      (∀ d ∈ added.definitions,
        (first.symbols.lookup? d.identifier).map Symbol.toDeclaration =
          (symbolOf (added.definitions.filter fun e => e.identifier = d.identifier)).map
            Symbol.toDeclaration) ∧
      ∀ before after, files = before ++ after →
        ∃ inserted, (buildRegistry conventions (before ++ added :: after)).1 = .ok inserted ∧
          inserted.groups = first.groups ∧ inserted.problems = first.problems ∧
          (∀ name, inserted.symbols.lookup? name = first.symbols.lookup? name) ∧
          inserted.files =
            before.map Scan.filename ++ added.filename :: after.map Scan.filename := by
  obtain ⟨legible, rfl⟩ := buildRegistry_eq_ok_iff.mp built
  have readable : added.Legible conventions.marker := by
    intro site hs
    simp [silent] at hs
  have noInstruction := instructionsAmong_items_of_silent silent conventions.marker
  have same : instructionsOf conventions.marker (added :: files) =
      instructionsOf conventions.marker files := by
    rw [instructionsOf_eq_flatMap, instructionsOf_eq_flatMap, List.flatMap_cons, noInstruction,
      List.nil_append]
  refine ⟨_, buildRegistry_eq_ok_iff.mpr ⟨?_, rfl⟩, groups_registry_congr same, ?_, ?_, ?_⟩
  · intro file hf
    rcases List.mem_cons.mp hf with rfl | hf
    · exact readable
    · exact legible file hf
  · intro name foreign
    have none_added : (added.declarations conventions.marker).filter
        (fun d => d.identifier = name) = [] := by
      simpa [Scan.declarations, silent, List.filter_eq_nil_iff] using foreign
    refine lookup?_registry_congr same ?_
    simp [declarationsOf, none_added]
  · intro d hd
    -- the other files declare nothing of this name
    have none_before : (files.flatMap (Scan.declarations conventions.marker)).filter
        (fun e => e.identifier = d.identifier) = [] := by
      apply List.filter_eq_nil_iff.mpr
      intro e he
      obtain ⟨file, hf, he⟩ := List.mem_flatMap.mp he
      simpa using own d hd file hf e he
    have alone : declarationsOf conventions.marker (added :: files) d.identifier =
        added.definitions.filter fun e => e.identifier = d.identifier := by
      simp [declarationsOf, none_before, Scan.declarations, silent]
    rw [lookup?_registry_itemsOf, alone, Option.map_map]
    rfl
  · rintro before after rfl
    have instructions : instructionsOf conventions.marker (before ++ added :: after) =
        instructionsOf conventions.marker (added :: (before ++ after)) := by
      simp [instructionsOf_eq_flatMap, noInstruction]
    have sites : (before ++ added :: after).flatMap Scan.sites =
        (added :: (before ++ after)).flatMap Scan.sites := by
      simp [silent]
    have declarations := declarationsOf_insert silent own
    refine ⟨_, buildRegistry_eq_ok_iff.mpr ⟨?_, rfl⟩, groups_registry_congr instructions,
      problems_registry_congr sites instructions declarations,
      fun name => lookup?_registry_congr instructions (declarations name), ?_⟩
    · intro file hf
      rw [List.mem_append, List.mem_cons] at hf
      rcases hf with hf | rfl | hf
      · exact legible file (List.mem_append_left _ hf)
      · exact readable
      · exact legible file (List.mem_append_right _ hf)
    · rw [Collection.registry, Collection.files_ofItems, filterMap_file?_itemsOf, List.map_append,
        List.map_cons]

/-- A file that defines functions which the directives of other files name. -/
def plainFile : Scan :=
  scan
    (textOfLines
      ["int spare(void) \x7b return 0; \x7d", "void writes(void **state) \x7b\x7d",
        "void closes(void) \x7b\x7d"])
    "plain.c" "cmocka"

theorem buildRegistry_insert_plainFile :
    ∃ first inserted, (buildRegistry .standard [plainFile, ioFile, diskFile]).1 = .ok first ∧
      (buildRegistry .standard [ioFile, plainFile, diskFile]).1 = .ok inserted ∧
      inserted.groups = first.groups ∧ inserted.problems = first.problems ∧
      (∀ name, inserted.symbols.lookup? name = first.symbols.lookup? name) ∧
      inserted.files = ["io.c", "plain.c", "disk.c"] := by
  have built := buildRegistry_eq_ok_iff.mpr ⟨legible_ioFile_diskFile, rfl⟩
  have silent : plainFile.sites = [] := by decide +kernel
  have own : ∀ d ∈ plainFile.definitions, ∀ file ∈ [ioFile, diskFile],
      ∀ e ∈ file.declarations Conventions.standard.marker, e.identifier ≠ d.identifier := by
    decide +kernel
  obtain ⟨first, atFront, -, -, -, anywhere⟩ := buildRegistry_insert built silent own
  obtain ⟨inserted, between, groups, problems, symbols, files⟩ :=
    anywhere [ioFile] [diskFile] rfl
  exact ⟨first, inserted, atFront, between, groups, problems, symbols, files⟩

end AnnotatedTests
