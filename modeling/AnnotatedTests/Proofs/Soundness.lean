import AnnotatedTests.Proofs.Grouping
import AnnotatedTests.Proofs.Resolution

/-! When a registry has no problems. Every problem breaks one condition on the directives and the
symbols, and files that meet all conditions have none. -/
namespace AnnotatedTests
attribute [local irreducible] Comment.directive

/-- Whether a directive is about a function that it names or that follows it. Group directives are
not, and a bare one without attributes is about what follows it only. -/
def Directive.NeedsTarget (d : Directive) : Prop :=
  d.kind = .test ∨ d.kind = .setup ∨ d.kind = .teardown ∨ (d.kind = .bare ∧ d.attributes ≠ .empty)

/-- The functions that a directive refers to, and the roles that it refers to them in. -/
inductive Directive.Refers (d : Directive) (following : Option Declaration) :
    String → Role → Prop where
  | test {name : String} : d.makesTest following = true → d.target? following = some name →
    d.Refers following name .test
  | testFixture {slot : Slot} {name : String} : d.makesTest following = true →
    d.attributes.fixture? slot = some name → d.Refers following name slot.role
  | groupFixture {slot : Slot} {name : String} : d.kind = .group →
    d.attributes.fixture? slot = some name → d.Refers following name slot.role
  | setup {name : String} : d.kind = .setup → d.target? following = some name →
    d.Refers following name .setup
  | teardown {name : String} : d.kind = .teardown → d.target? following = some name →
    d.Refers following name .teardown

/-- The name of the test that a site asks for, if it asks for one. -/
def Site.test? (marker : String) (site : Site) : Option String :=
  match site.comment.directive marker with
  | .ok d => if d.makesTest site.following then d.target? site.following else none
  | .error _ => none

/-- A site asks for a test just when its directive makes one and has a function to make it of. -/
theorem Site.test?_eq_some_iff {marker : String} {site : Site} {name : String} :
    site.test? marker = some name ↔
      ∃ d, site.comment.directive marker = .ok d ∧ d.makesTest site.following = true ∧
        d.target? site.following = some name := by
  unfold Site.test?
  cases read : site.comment.directive marker with
  | ok d => simp [ite_eq_iff]
  | error failure => simp

/-- The functions that the directives of some files refer to, and the roles. -/
def Refers (marker : String) (files : List Scan) (name : String) (role : Role) : Prop :=
  ∃ file ∈ files, ∃ site ∈ file.sites, ∃ d, site.comment.directive marker = .ok d ∧
    d.Refers site.following name role

/-- What the directives of some files have to be for a runner to be generated from them. -/
structure Sound (marker : String) (files : List Scan) (symbols : SymbolTable) : Prop where
  parsed : ∀ file ∈ files, ∀ site ∈ file.sites, ∃ d, site.comment.directive marker = .ok d
  targeted : ∀ file ∈ files, ∀ site ∈ file.sites, ∀ d, site.comment.directive marker = .ok d →
    d.NeedsTarget → d.name.isSome ∨ site.following.isSome
  followed : ∀ file ∈ files, ∀ site ∈ file.sites, ∀ d, site.comment.directive marker = .ok d →
    d.kind = .bare → d.attributes = .empty → site.following.isSome
  distinct : (files.flatMap fun file => file.sites.filterMap (Site.test? marker)).Nodup
  declared : ∀ name role, Refers marker files name role → (symbols.lookup? name).isSome
  oneRole : ∀ name role other, Refers marker files name role → Refers marker files name other →
    role = other
  fitting : ∀ name role s, Refers marker files name role → symbols.lookup? name = some s →
    s.isStatic = false ∧ s.returnKind = role.returnKind ∧ s.params = stateParams

theorem lacksTarget_eq_false_iff {d : Directive} {following : Option Declaration} :
    d.lacksTarget following = false ↔
      (d.NeedsTarget → d.name.isSome ∨ following.isSome) ∧
        (d.kind = .bare → d.attributes = .empty → following.isSome) := by
  have target : (d.target? following).isNone = false ↔ d.name.isSome ∨ following.isSome := by
    cases named : d.name <;> simp [Directive.target?, named]
  unfold Directive.lacksTarget Directive.NeedsTarget
  cases kind : d.kind with
  | bare => by_cases plain : d.attributes = .empty <;> simp [plain, target]
  | _ => simp [target]

theorem Attributes.exists_mem_references {attributes : Attributes} {usage : Slot → Usage}
    {place : Place} {name : String} {role : Role} :
    (∃ reference ∈ attributes.references usage place,
        reference.name = name ∧ reference.role = role) ↔
      ∃ slot, attributes.fixture? slot = some name ∧ (usage slot).role = role := by
  constructor
  · intro referred
    obtain ⟨reference, hr, rfl, rfl⟩ := referred
    obtain ⟨slot, -, hs⟩ := List.mem_filterMap.mp hr
    obtain ⟨name, named, rfl⟩ := Option.map_eq_some_iff.mp hs
    exact ⟨slot, named, rfl⟩
  · intro fixture
    obtain ⟨slot, named, rfl⟩ := fixture
    refine ⟨⟨name, usage slot, place⟩, List.mem_filterMap.mpr ⟨slot, ?_, by simp [named]⟩, rfl, rfl⟩
    cases slot <;> simp

namespace Instruction

theorem accepted?_nil (i : Instruction) : i.accepted? [] = i.test? := by
  cases h : i.test? <;> simp [accepted?, h]

theorem test?_eq_some_iff {i : Instruction} {name : String} :
    i.test? = some name ↔
      i.directive.makesTest i.following = true ∧ i.directive.target? i.following = some name := by
  simp [test?, ite_eq_iff]

/-- An instruction that does not lack a target refers to what its directive refers to. -/
theorem exists_mem_references {i : Instruction}
    (targeted : i.directive.lacksTarget i.following = false) {name : String} {role : Role} :
    (∃ reference ∈ i.references [], reference.name = name ∧ reference.role = role) ↔
      i.directive.Refers i.following name role := by
  constructor
  · intro referred
    obtain ⟨reference, hr, rfl, rfl⟩ := referred
    unfold references at hr
    split at hr
    · next kind =>
      obtain ⟨slot, fixture, role⟩ :=
        Attributes.exists_mem_references.mp ⟨reference, hr, rfl, rfl⟩
      rw [← role]
      exact .groupFixture kind fixture
    · next kind =>
      obtain ⟨name, target, rfl⟩ := List.mem_map.mp hr
      exact .setup kind (Option.mem_toList.mp target)
    · next kind =>
      obtain ⟨name, target, rfl⟩ := List.mem_map.mp hr
      exact .teardown kind (Option.mem_toList.mp target)
    · obtain ⟨name, accepted, hr⟩ := List.mem_flatMap.mp hr
      rw [accepted?_nil, Option.mem_toList, test?_eq_some_iff] at accepted
      obtain ⟨makes, target⟩ := accepted
      rcases List.mem_cons.mp hr with rfl | hr
      · exact .test makes target
      · obtain ⟨slot, fixture, role⟩ :=
          Attributes.exists_mem_references.mp ⟨reference, hr, rfl, rfl⟩
        rw [← role]
        exact .testFixture makes fixture
  · -- a directive that makes a test has a target, under which its fixtures are referred to
    have ofTest (makes : i.directive.makesTest i.following = true) :
        ∃ name, i.directive.target? i.following = some name ∧
          i.references [] = ⟨name, .test, i.directive.place⟩ ::
            i.directive.attributes.references (.testFixture · name) i.directive.place := by
      have lacks := lacksTarget_of_makesTest makes
      rw [targeted] at lacks
      obtain ⟨name, target⟩ : ∃ name, i.directive.target? i.following = some name := by
        simpa [Option.isSome_iff_exists] using lacks.symm
      have test : i.accepted? [] = some name := by
        rw [accepted?_nil, test?_eq_some_iff]
        exact ⟨makes, target⟩
      exact ⟨name, target, by simp [references_of_makesTest makes, test]⟩
    intro refers
    rcases refers with ⟨makes, target⟩ | ⟨makes, fixture⟩ | ⟨kind, fixture⟩ | ⟨kind, target⟩ |
      ⟨kind, target⟩
    · obtain ⟨other, same, refers⟩ := ofTest makes
      rw [target, Option.some.injEq] at same
      exact ⟨⟨name, .test, i.directive.place⟩, by simp [refers, same], rfl, rfl⟩
    · obtain ⟨owner, -, refers⟩ := ofTest makes
      rw [refers]
      obtain ⟨reference, hr, named⟩ := Attributes.exists_mem_references.mpr ⟨_, fixture, rfl⟩
      exact ⟨reference, List.mem_cons_of_mem _ hr, named⟩
    · have refers : i.references [] = i.directive.attributes.references
          (.groupFixture · (i.directive.name.getD "")) i.directive.place := by
        simp [references, kind]
      rw [refers]
      exact Attributes.exists_mem_references.mpr ⟨_, fixture, rfl⟩
    · exact ⟨⟨name, .fixture .setup, i.directive.place⟩, by simp [references, kind, target], rfl,
        rfl⟩
    · exact ⟨⟨name, .fixture .teardown, i.directive.place⟩, by simp [references, kind, target], rfl,
        rfl⟩

theorem cause?_eq_none_iff {i : Instruction} {tests : List Test} :
    i.cause? tests = none ↔
      i.directive.lacksTarget i.following = false ∧
        ∀ name, i.test? = some name → name ∉ tests.map Test.name := by
  rw [cause?]
  cases lacks : i.directive.lacksTarget i.following with
  | true => simp
  | false =>
    cases test : i.test? with
    | none => simp
    | some name => simp

end Instruction

/-- Where no two instructions ask for tests of one name, each refers to the functions of the test
that it asks for. -/
theorem references_of_nodup {instructions : List Instruction}
    (distinct : (testNames instructions).Nodup) :
    ((withPrior instructions).flatMap fun p => p.2.references (testNames p.1)) =
      instructions.flatMap (Instruction.references []) := by
  induction instructions using List.reverseRecOn with
  | nil => rfl
  | append_singleton instructions i ih =>
    rw [testNames_concat, List.nodup_append] at distinct
    obtain ⟨earlier, -, fresh⟩ := distinct
    -- a name that is not in use is accepted as if none were
    have accepted : i.accepted? (testNames instructions) = i.accepted? [] := by
      cases test : i.test? with
      | none => simp [Instruction.accepted?, test]
      | some name =>
        have new : name ∉ testNames instructions := by
          intro used
          exact fresh name used name (by simp [test]) rfl
        rw [Instruction.accepted?_of_test test, Instruction.accepted?_of_test test, if_neg new,
          if_neg List.not_mem_nil]
    have last : i.references (testNames instructions) = i.references [] := by
      simp [Instruction.references, accepted]
    rw [withPrior_concat, List.flatMap_append, List.flatMap_append, ih earlier]
    simp [last]

namespace Collection

/-- Collecting finds no problem just when no item is malformed, every instruction has its target, and
no two ask for tests of one name. -/
theorem problems_ofItems_eq_nil_iff {conventions : Conventions} {items : List Item} :
    (ofItems conventions items).problems = [] ↔
      (∀ why place, Item.malformed why place ∉ items) ∧
        (∀ i ∈ instructionsAmong items, i.directive.lacksTarget i.following = false) ∧
        (testNames (instructionsAmong items)).Nodup := by
  induction items using List.reverseRecOn with
  | nil => simp [empty, instructionsAmong, testNames]
  | append_singleton items item ih =>
    rw [ofItems_concat, note_eq, List.append_eq_nil_iff, ih, instructionsAmong_concat]
    cases item with
    | file name => simp [Item.problem?, Item.instruction?]
    | definition d => simp [Item.problem?, Item.instruction?]
    | malformed why place =>
      simp only [Item.problem?, Option.toList_some, List.cons_ne_nil, and_false, false_iff]
      intro sound
      obtain ⟨wellFormed, -⟩ := sound
      exact wellFormed why place (by simp)
    | instruction i =>
      have new : (Item.instruction i).problem? (ofItems conventions items).tests = none ↔
          i.directive.lacksTarget i.following = false ∧
            ∀ name, i.test? = some name → name ∉ testNames (instructionsAmong items) := by
        rw [Item.problem?, Option.map_eq_none_iff, Instruction.cause?_eq_none_iff, tests_ofItems]
        simp only [mem_map_name_acceptedTests]
      have names : (testNames (instructionsAmong items ++ [i])).Nodup ↔
          (testNames (instructionsAmong items)).Nodup ∧
            ∀ name, i.test? = some name → name ∉ testNames (instructionsAmong items) := by
        rw [testNames_concat]
        cases i.test? with
        | none => simp
        | some name => simp [List.nodup_append']
      simp only [Option.toList_eq_nil_iff, new, Item.instruction?, Option.toList_some, names,
        List.mem_append, List.mem_singleton, reduceCtorEq, or_false, or_imp, forall_and, forall_eq]
      tauto

end Collection

/-- The tests that the instructions of some files ask for are those that their sites ask for. -/
theorem testNames_instructionsOf (marker : String) (files : List Scan) :
    testNames (instructionsOf marker files) =
      files.flatMap fun file => file.sites.filterMap (Site.test? marker) := by
  have ofSite (site : Site) :
      ((site.request? marker).bind fun request =>
        if request.1.makesTest request.2 then request.1.target? request.2 else none) =
        site.test? marker := by
    cases read : site.comment.directive marker with
    | ok d => simp [Site.request?, Site.test?, read]
    | error failure => simp [Site.request?, Site.test?, read]
  have bySite := filterMap_instructionsOf marker files fun request =>
    if request.1.makesTest request.2 then request.1.target? request.2 else none
  simp only [ofSite] at bySite
  rw [← List.filterMap_flatMap, ← bySite]
  rfl

theorem exists_instruction_of_mem_sites {marker : String} {files : List Scan} {file : Scan}
    (hf : file ∈ files) {site : Site} (hs : site ∈ file.sites) {d : Directive}
    (read : site.comment.directive marker = .ok d) :
    ∃ i ∈ instructionsOf marker files, i.directive = d ∧ i.following = site.following := by
  obtain ⟨before, later, split⟩ := List.append_of_mem hs
  exact ⟨⟨d, site.following, groupBehind marker file.filename before⟩,
    mem_instructionsOf.mpr ⟨file, hf, before, site, later, split, read, rfl, rfl⟩, rfl, rfl⟩

theorem exists_site_of_mem_instructionsOf {marker : String} {files : List Scan} {i : Instruction}
    (h : i ∈ instructionsOf marker files) :
    ∃ file ∈ files, ∃ site ∈ file.sites, site.comment.directive marker = .ok i.directive ∧
      i.following = site.following := by
  obtain ⟨file, hf, before, site, later, split, read, following, -⟩ := mem_instructionsOf.mp h
  exact ⟨file, hf, site, by simp [split], read, following⟩

/-- Files that can be read to their ends have malformed items unless all of their sites parse. -/
theorem no_malformed_iff {marker : String} {files : List Scan}
    (legible : ∀ file ∈ files, file.Legible marker) :
    (∀ why place, Item.malformed why place ∉ itemsOf marker files) ↔
      ∀ file ∈ files, ∀ site ∈ file.sites, ∃ d, site.comment.directive marker = .ok d := by
  constructor
  · intro wellFormed file hf site hs
    cases read : site.comment.directive marker with
    | ok d => exact ⟨d, rfl⟩
    | error failure =>
      cases failure with
      | malformed why =>
        obtain ⟨before, later, split⟩ := List.append_of_mem hs
        refine absurd ?_ (wellFormed why site.comment.place)
        refine List.mem_flatMap.mpr ⟨file, hf, List.mem_append_right _ ?_⟩
        refine List.mem_filterMap.mpr ⟨(before, site), mem_withPrior.mpr ⟨later, split⟩, ?_⟩
        simp [Site.item?, read]
      | numeralTooLong digits =>
        have readable := legible file hf site hs
        simp [Comment.overlong?, read] at readable
  · intro parsed why place hm
    obtain ⟨file, hf, hi⟩ := List.mem_flatMap.mp hm
    rcases List.mem_append.mp hi with opening | hs
    · simp at opening
    · obtain ⟨⟨before, site⟩, hp, hs⟩ := List.mem_filterMap.mp hs
      obtain ⟨d, read⟩ := parsed file hf site (mem_of_mem_withPrior hp)
      simp [Site.item?, read] at hs

/-- Where all directives have their targets and no two ask for tests of one name, the references of
a run are to the functions that the directives refer to. -/
theorem exists_mem_references_iff {conventions : Conventions} {marker : String} {files : List Scan}
    (targeted : ∀ i ∈ instructionsOf marker files, i.directive.lacksTarget i.following = false)
    (distinct : (testNames (instructionsOf marker files)).Nodup) {name : String} {role : Role} :
    (∃ reference ∈ (Collection.ofItems conventions (itemsOf marker files)).references,
        reference.name = name ∧ reference.role = role) ↔
      Refers marker files name role := by
  have all : (Collection.ofItems conventions (itemsOf marker files)).references =
      (instructionsOf marker files).flatMap (Instruction.references []) := by
    rw [Collection.references_ofItems]
    exact references_of_nodup distinct
  rw [all]
  constructor
  · intro referred
    obtain ⟨reference, hr, named⟩ := referred
    obtain ⟨i, hi, hr⟩ := List.mem_flatMap.mp hr
    have refers := (Instruction.exists_mem_references (targeted i hi)).mp ⟨reference, hr, named⟩
    obtain ⟨file, hf, site, hs, read, following⟩ := exists_site_of_mem_instructionsOf hi
    exact ⟨file, hf, site, hs, i.directive, read, following ▸ refers⟩
  · intro directive
    obtain ⟨file, hf, site, hs, d, read, refers⟩ := directive
    obtain ⟨i, hi, rfl, following⟩ := exists_instruction_of_mem_sites hf hs read
    rw [← following] at refers
    obtain ⟨reference, hr, named⟩ := (Instruction.exists_mem_references (targeted i hi)).mpr refers
    exact ⟨reference, List.mem_flatMap.mpr ⟨i, hi, hr⟩, named⟩

/-- No instruction of some files lacks a target just when their sites have what they need. -/
theorem targeted_iff {marker : String} {files : List Scan} :
    (∀ i ∈ instructionsOf marker files, i.directive.lacksTarget i.following = false) ↔
      ∀ file ∈ files, ∀ site ∈ file.sites, ∀ d, site.comment.directive marker = .ok d →
        d.lacksTarget site.following = false := by
  constructor
  · intro h file hf site hs d read
    obtain ⟨i, hi, rfl, following⟩ := exists_instruction_of_mem_sites hf hs read
    exact following ▸ h i hi
  · intro h i hi
    obtain ⟨file, hf, site, hs, read, following⟩ := exists_site_of_mem_instructionsOf hi
    exact following ▸ h file hf site hs i.directive read

/-- A registry has no problems just when the directives of its files are sound. -/
theorem problems_eq_nil_iff_sound {conventions : Conventions} {files : List Scan}
    {registry : Registry} (built : (buildRegistry conventions files).1 = .ok registry) :
    registry.problems = [] ↔ Sound conventions.marker files registry.symbols := by
  obtain ⟨legible, rfl⟩ := buildRegistry_eq_ok_iff.mp built
  rw [Collection.problems_registry_ofItems, List.append_eq_nil_iff, List.filterMap_eq_nil_iff,
    no_problem_iff, Collection.problems_ofItems_eq_nil_iff, no_malformed_iff legible,
    Collection.symbols_registry_ofItems]
  have names := testNames_instructionsOf conventions.marker files
  constructor
  · -- every directive makes its references, so what holds of these holds of it
    intro clean
    obtain ⟨⟨parsed, targeted, distinct⟩, declared, oneRole⟩ := clean
    have bySite := targeted_iff.mp targeted
    have referred {name : String} {role : Role} (h : Refers conventions.marker files name role) :
        ∃ reference ∈ (Collection.ofItems conventions
          (itemsOf conventions.marker files)).references,
          reference.name = name ∧ reference.role = role :=
      (exists_mem_references_iff targeted distinct).mpr h
    refine ⟨parsed, ?_, ?_, names ▸ distinct, ?_, ?_, ?_⟩
    · intro file hf site hs d read
      exact (lacksTarget_eq_false_iff.mp (bySite file hf site hs d read)).1
    · intro file hf site hs d read
      exact (lacksTarget_eq_false_iff.mp (bySite file hf site hs d read)).2
    · intro name role h
      obtain ⟨reference, hr, rfl, rfl⟩ := referred h
      obtain ⟨s, found, -⟩ := declared reference hr
      simp [SymbolTable.lookup?_usedBy, found]
    · intro name role other h ho
      obtain ⟨reference, hr, rfl, rfl⟩ := referred h
      obtain ⟨reference', hr', same, rfl⟩ := referred ho
      exact oneRole reference hr reference' hr' same.symm
    · intro name role s h found
      obtain ⟨reference, hr, rfl, rfl⟩ := referred h
      obtain ⟨before, declaration, fits⟩ := declared reference hr
      rw [SymbolTable.lookup?_usedBy, declaration, Option.map_some, Option.some.injEq] at found
      subst found
      exact misfit?_eq_none_iff.mp fits
  · -- every reference comes from a directive
    intro sound
    have targeted := targeted_iff.mpr fun file hf site hs d read =>
      lacksTarget_eq_false_iff.mpr
        ⟨sound.targeted file hf site hs d read, sound.followed file hf site hs d read⟩
    have distinct := names.symm ▸ sound.distinct
    have refers (reference : Reference)
        (hr : reference ∈ (Collection.ofItems conventions
          (itemsOf conventions.marker files)).references) :
        Refers conventions.marker files reference.name reference.role :=
      (exists_mem_references_iff targeted distinct).mp ⟨reference, hr, rfl, rfl⟩
    refine ⟨⟨sound.parsed, targeted, distinct⟩, ?_, ?_⟩
    · intro reference hr
      obtain ⟨s, used⟩ := Option.isSome_iff_exists.mp (sound.declared _ _ (refers reference hr))
      have fits := sound.fitting _ _ s (refers reference hr) used
      rw [SymbolTable.lookup?_usedBy, Option.map_eq_some_iff] at used
      obtain ⟨before, found, rfl⟩ := used
      exact ⟨before, found, misfit?_eq_none_iff.mpr fits⟩
    · intro reference hr other ho same
      exact sound.oneRole _ _ _ (refers reference hr) (same ▸ refers other ho)

/-- A file with a group, its fixture and a test, in which all directives are sound. -/
def portFile : Scan :=
  scan
    (textOfLines
      ["/*!cmocka group io setup:up */",
        "/*!cmocka */ void opens(void **state);",
        "/*!cmocka setup */ int up(void **state);"])
    "port.c" "cmocka"

theorem sound_portFile :
    ∃ registry, (buildRegistry .standard [portFile]).1 = .ok registry ∧
      Sound "cmocka" [portFile] registry.symbols := by
  have legible : ∀ file ∈ [portFile], file.Legible Conventions.standard.marker := by
    decide +kernel
  have built := buildRegistry_eq_ok_iff.mpr ⟨legible, rfl⟩
  exact ⟨_, built, (problems_eq_nil_iff_sound built).mp (by decide +kernel)⟩

end AnnotatedTests
