import AnnotatedTests.Proofs.Declarations
import AnnotatedTests.Proofs.Recovery
import AnnotatedTests.Proofs.Uses

/-! What a runner links with: the functions that a registry uses have to be defined in some file and
must not be static. Which declarations decide this is said exactly; prototypes can pass for
definitions, and a static declaration can be missed. -/
namespace AnnotatedTests
attribute [local irreducible] Comment.directive

/-- Where a registry has no problems, every function that it uses is declared, has its one role
there, is not static and has the shape that the role asks for. It is defined just when the files
record a definition of it, other than on the line of an earlier prototype. -/
theorem declared_of_used {conventions : Conventions} {files : List Scan} {registry : Registry}
    (built : (buildRegistry conventions files).1 = .ok registry) (clean : registry.problems = [])
    {name : String} {role : Role} (used : Used conventions.marker files registry name role) :
    ∃ s, registry.symbols.lookup? name = some s ∧ s.role = some role ∧ s.isStatic = false ∧
      s.returnKind = role.returnKind ∧ s.params = stateParams ∧
      (s.defined = true ↔
        ∃ prior d, (prior, d) ∈ withPrior (declarationsOf conventions.marker files name) ∧
          d.defined = true ∧ ¬ d.Repeats prior) := by
  obtain ⟨-, rfl⟩ := buildRegistry_eq_ok_iff.mp built
  rw [Collection.problems_registry_ofItems, List.append_eq_nil_iff,
    List.filterMap_eq_nil_iff] at clean
  obtain ⟨reference, hr, rfl, rfl⟩ := used.exists_reference
  obtain ⟨⟨s, found, fits⟩, use, first, role⟩ := of_no_problem clean.2 reference hr
  obtain ⟨linked, returns, params⟩ := misfit?_eq_none_iff.mp fits
  refine ⟨{ s with use := some use }, ?_, by rw [Symbol.role, Option.map_some, role], linked,
    returns, params, ?_⟩
  · rw [Collection.symbols_registry_ofItems, SymbolTable.lookup?_usedBy, found, first,
      Option.map_some]
  · rw [lookup?_symbols_itemsOf] at found
    have defined := defined_iff_exists found
    exact defined

/-- A source with a test that is declared in it and defined nowhere. -/
def prototypeSource : String × List Char :=
  ("t.c", textOfLines ["/*!cmocka test t */", "void t(void **state);"])

theorem exists_registry_prototypeSource :
    ∃ registry, (buildRegistry .standard (scanAll "cmocka" [prototypeSource])).1 = .ok registry ∧
      registry.problems = [] ∧
      Used "cmocka" (scanAll "cmocka" [prototypeSource]) registry "t" .test ∧
      ∀ s, registry.symbols.lookup? "t" = some s → s.defined = false := by
  have legible : ∀ file ∈ scanAll "cmocka" [prototypeSource],
      file.Legible Conventions.standard.marker := by
    decide +kernel
  refine ⟨_, buildRegistry_eq_ok_iff.mpr ⟨legible, rfl⟩, by decide +kernel, ?_, ?_⟩
  · obtain ⟨test, ht, symbol⟩ : ∃ test ∈ (Collection.ofItems .standard
        (itemsOf Conventions.standard.marker
          (scanAll "cmocka" [prototypeSource]))).registry.tests, test.symbol = "t" := by
      decide +kernel
    exact symbol ▸ .test ht
  · intro s found
    have undefined : ((Collection.ofItems .standard (itemsOf Conventions.standard.marker
        (scanAll "cmocka" [prototypeSource]))).registry.symbols.lookup? "t").all
          (fun s => !s.defined) = true := by
      decide +kernel
    simpa [found] using undefined

theorem declared_of_prototypeSource :
    ∃ registry, (buildRegistry .standard (scanAll "cmocka" [prototypeSource])).1 = .ok registry ∧
      registry.problems = [] ∧
      Used "cmocka" (scanAll "cmocka" [prototypeSource]) registry "t" .test ∧
      ∃ s, registry.symbols.lookup? "t" = some s ∧ s.role = some .test ∧ s.isStatic = false ∧
        s.returnKind = Role.test.returnKind ∧ s.params = stateParams ∧
        (s.defined = true ↔
          ∃ prior d, (prior, d) ∈ withPrior (declarationsOf "cmocka"
            (scanAll "cmocka" [prototypeSource]) "t") ∧ d.defined = true ∧ ¬ d.Repeats prior) := by
  obtain ⟨registry, built, clean, used, -⟩ := exists_registry_prototypeSource
  exact ⟨registry, built, clean, used, declared_of_used built clean used⟩

/-- A registry without problems can use a function that no file defines. -/
theorem not_forall_defined_of_used :
    ¬ ∀ (conventions : Conventions) (sources : List (String × List Char)) (registry : Registry),
      (buildRegistry conventions (scanAll conventions.marker sources)).1 = .ok registry →
      registry.problems = [] → ∀ name role,
        Used conventions.marker (scanAll conventions.marker sources) registry name role →
        ∃ s, registry.symbols.lookup? name = some s ∧ s.defined = true := by
  intro all
  obtain ⟨registry, built, clean, used, undefined⟩ := exists_registry_prototypeSource
  obtain ⟨s, found, defined⟩ := all .standard [prototypeSource] registry built clean "t" .test used
  rw [undefined s found] at defined
  exact Bool.false_ne_true defined

/-- Whether a source, given with its name, declares a function where no brace is open, with or
without a body. -/
def DeclaresAtFileScope (source : String × List Char) (d : Declaration) : Prop :=
  ∃ found ∈ shapes (skeleton source.2), found.depth = 0 ∧
    found.shape.declaration? ⟨source.1, lineAt source.2 found.offset⟩ = some d

theorem parts_of_declaration? {shape : Shape} {place : Place} {d : Declaration}
    (h : shape.declaration? place = some d) : d.place = place ∧ d.defined = shape.defined := by
  unfold Shape.declaration? at h
  split at h
  · simp at h
  · dsimp only at h
    split_ifs at h
    obtain rfl := Option.some.inj h
    exact ⟨rfl, rfl⟩

/-- The definitions of a scan are the declarations at file scope that have a body. -/
theorem mem_definitions_scan {source : String × List Char} {marker : String} {d : Declaration} :
    d ∈ (scan source.2 source.1 marker).definitions ↔
      DeclaresAtFileScope source d ∧ d.defined = true := by
  rw [scan, definitionsOf, List.mem_filterMap]
  constructor
  · intro h
    obtain ⟨found, hf, declares⟩ := h
    obtain ⟨member, outside, body⟩ : found ∈ shapes (skeleton source.2) ∧ found.depth = 0 ∧
        found.shape.defined = true := by
      simpa using List.mem_filter.mp hf
    exact ⟨⟨found, member, outside, declares⟩, (parts_of_declaration? declares).2.trans body⟩
  · intro h
    obtain ⟨⟨found, member, outside, declares⟩, body⟩ := h
    rw [(parts_of_declaration? declares).2] at body
    exact ⟨found, List.mem_filter.mpr ⟨member, by simp [outside, body]⟩, declares⟩

/-- The declarations of a function that the scans of some sources record: its definitions at file
scope, and those that follow a directive which can be read. -/
theorem mem_declarationsOf_scanAll {marker : String} {sources : List (String × List Char)}
    {name : String} {d : Declaration} :
    d ∈ declarationsOf marker (scanAll marker sources) name ↔
      d.identifier = name ∧ ∃ source ∈ sources,
        (DeclaresAtFileScope source d ∧ d.defined = true) ∨
        ∃ site ∈ (scan source.2 source.1 marker).sites, ∃ directive,
          site.comment.directive marker = .ok directive ∧ site.following = some d := by
  have followed (site : Site) : (site.request? marker).bind Prod.snd = some d ↔
      ∃ directive, site.comment.directive marker = .ok directive ∧ site.following = some d := by
    cases read : site.comment.directive marker <;> simp [Site.request?, read]
  rw [declarationsOf, List.mem_filter, List.mem_flatMap]
  simp only [scanAll, List.mem_map, exists_exists_and_eq_and, Scan.declarations, List.mem_append,
    mem_definitions_scan, List.mem_filterMap, followed, decide_eq_true_eq]
  rw [and_comm]

/-- A function of some sources is static just when one of its declarations counts that is in its
file and static. The declarations among which this is decided are its definitions at file scope and
those that follow a directive, and a static function that is used is reported. -/
theorem isStatic_iff_of_scanAll {conventions : Conventions} {sources : List (String × List Char)}
    {registry : Registry}
    (built : (buildRegistry conventions (scanAll conventions.marker sources)).1 = .ok registry)
    {name : String} {s : Symbol} (found : registry.symbols.lookup? name = some s) :
    (s.isStatic = true ↔
        ∃ prior d, (prior, d) ∈ withPrior (declarationsOf conventions.marker
            (scanAll conventions.marker sources) name) ∧
          d.isStatic = true ∧ d.place.filename = s.place.filename ∧ d.Counts prior) ∧
      (∀ d, d ∈ declarationsOf conventions.marker (scanAll conventions.marker sources) name ↔
        d.identifier = name ∧ ∃ source ∈ sources,
          (DeclaresAtFileScope source d ∧ d.defined = true) ∨
          ∃ site ∈ (scan source.2 source.1 conventions.marker).sites, ∃ directive,
            site.comment.directive conventions.marker = .ok directive ∧ site.following = some d) ∧
      (s.isStatic = true → ∀ role,
        Used conventions.marker (scanAll conventions.marker sources) registry name role →
        ∃ first, ⟨.internal name first, s.place⟩ ∈ registry.problems) := by
  obtain ⟨-, rfl⟩ := buildRegistry_eq_ok_iff.mp built
  refine ⟨?_, fun d => mem_declarationsOf_scanAll, ?_⟩
  · rw [Collection.symbols_registry_ofItems, SymbolTable.lookup?_usedBy,
      lookup?_symbols_itemsOf] at found
    obtain ⟨collected, made, rfl⟩ := Option.map_eq_some_iff.mp found
    have linkage := isStatic_iff_exists_counts made
    exact linkage
  · intro hidden role used
    exact exists_internal_of_used used found hidden

/-- A source in which an annotated prototype makes a function static that is defined without the
word. -/
def hiddenSource : String × List Char :=
  ("t.c", textOfLines
    ["/*!cmocka */", "static void t(void **state);", "void t(void **state) \x7b\x7d"])

theorem isStatic_of_hiddenSource :
    ∃ registry s, (buildRegistry .standard (scanAll "cmocka" [hiddenSource])).1 = .ok registry ∧
      registry.symbols.lookup? "t" = some s ∧ s.isStatic = true ∧
      (∃ prior d, (prior, d) ∈ withPrior (declarationsOf "cmocka"
          (scanAll "cmocka" [hiddenSource]) "t") ∧
        d.isStatic = true ∧ d.place.filename = s.place.filename ∧ d.Counts prior) ∧
      ∃ first, ⟨.internal "t" first, s.place⟩ ∈ registry.problems := by
  have legible : ∀ file ∈ scanAll "cmocka" [hiddenSource],
      file.Legible Conventions.standard.marker := by
    decide +kernel
  have built := buildRegistry_eq_ok_iff.mpr ⟨legible, rfl⟩
  obtain ⟨s, found, hidden⟩ : ∃ s, (Collection.ofItems .standard
      (itemsOf Conventions.standard.marker
        (scanAll "cmocka" [hiddenSource]))).registry.symbols.lookup? "t" = some s ∧
          s.isStatic = true := by
    rw [← Option.any_eq_true]
    decide +kernel
  obtain ⟨test, ht, symbol⟩ : ∃ test ∈ (Collection.ofItems .standard
      (itemsOf Conventions.standard.marker
        (scanAll "cmocka" [hiddenSource]))).registry.tests, test.symbol = "t" := by
    decide +kernel
  obtain ⟨linkage, -, reported⟩ := isStatic_iff_of_scanAll built found
  exact ⟨_, s, built, found, hidden, linkage.mp hidden, reported hidden .test (symbol ▸ .test ht)⟩

/-- A source in which a prototype without a directive makes a function static. -/
def plainPrototypeSource : String × List Char :=
  ("t.c", textOfLines
    ["static void t(void **state);", "/*!cmocka */", "void t(void **state) \x7b\x7d"])

/-- A function can be static by a declaration in its file and pass for one that is not. -/
theorem not_forall_isStatic_of_declared :
    ¬ ∀ (conventions : Conventions) (sources : List (String × List Char)) (registry : Registry),
      (buildRegistry conventions (scanAll conventions.marker sources)).1 = .ok registry →
      ∀ name s, registry.symbols.lookup? name = some s →
        ∀ source ∈ sources, source.1 = s.place.filename →
          ∀ d, DeclaresAtFileScope source d → d.identifier = name → d.isStatic = true →
            s.isStatic = true := by
  intro all
  have legible : ∀ file ∈ scanAll "cmocka" [plainPrototypeSource],
      file.Legible Conventions.standard.marker := by
    decide +kernel
  obtain ⟨s, found, place, linked⟩ : ∃ s, (Collection.ofItems .standard
      (itemsOf Conventions.standard.marker
        (scanAll "cmocka" [plainPrototypeSource]))).registry.symbols.lookup? "t" = some s ∧
          s.place.filename = "t.c" ∧ s.isStatic = false := by
    have looked : ((Collection.ofItems .standard (itemsOf Conventions.standard.marker
        (scanAll "cmocka" [plainPrototypeSource]))).registry.symbols.lookup? "t").any
          (fun s => s.place.filename = "t.c" ∧ s.isStatic = false) = true := by
      decide +kernel
    simpa [Option.any_eq_true] using looked
  have declared : DeclaresAtFileScope plainPrototypeSource
      ⟨"t", ["void**"], "void", ⟨"t.c", 1⟩, false, true⟩ := by
    unfold DeclaresAtFileScope
    decide +kernel
  have hidden := all .standard [plainPrototypeSource] _
    (buildRegistry_eq_ok_iff.mpr ⟨legible, rfl⟩) "t" s found plainPrototypeSource
    List.mem_cons_self place.symm _ declared rfl rfl
  rw [linked] at hidden
  exact Bool.false_ne_true hidden

end AnnotatedTests
