import AnnotatedTests.Proofs.Fixtures
import AnnotatedTests.Proofs.Reports

/-! The functions that a registry uses. Each use comes from a reference to the function in the same
role, so that whatever resolving finds about references holds of all uses. -/
namespace AnnotatedTests
attribute [local irreducible] Comment.directive

/-- The kind of the directives that declare a fixture for a slot. -/
def Slot.kind : Slot → DirectiveKind
  | .setup => .setup
  | .teardown => .teardown

/-- The functions that a registry uses, with the roles that it uses them in: those of its tests, of
the fixtures of its tests and groups, and of the fixtures that directives of its files declare. -/
inductive Used (marker : String) (files : List Scan) (registry : Registry) :
    String → Role → Prop where
  | test {test : Test} : test ∈ registry.tests → Used marker files registry test.symbol .test
  | testFixture {test : Test} {slot : Slot} {name : String} : test ∈ registry.tests →
    test.fixture? slot = some name → Used marker files registry name slot.role
  | groupFixture {group : Group} {slot : Slot} {name : String} : group ∈ registry.groups →
    group.fixture? slot = some name → Used marker files registry name slot.role
  | fixture {file : Scan} {site : Site} {d : Directive} {slot : Slot} {name : String} :
    file ∈ files → site ∈ file.sites → site.comment.directive marker = .ok d →
    d.kind = slot.kind → d.target? site.following = some name →
    Used marker files registry name slot.role

/-- A fixture that attributes name is referred to for its slot. -/
theorem Attributes.exists_reference_of_fixture? {attributes : Attributes} {slot : Slot}
    {name : String} (named : attributes.fixture? slot = some name) (usage : Slot → Usage)
    (place : Place) :
    ∃ reference ∈ attributes.references usage place,
      reference.name = name ∧ reference.role = (usage slot).role :=
  Attributes.exists_mem_references.mpr ⟨slot, named, rfl⟩

/-- The references that an instruction can make: to the function that its directive is about, and to
those that its attributes name. -/
inductive Reference.ComesFrom (i : Instruction) : Reference → Prop where
  | target {name : String} {usage : Usage} : i.directive.kind ≠ .group →
    i.directive.target? i.following = some name →
    Reference.ComesFrom i ⟨name, usage, i.directive.place⟩
  | fixture {slot : Slot} {name : String} {usage : Usage} :
    i.directive.attributes.fixture? slot = some name →
    Reference.ComesFrom i ⟨name, usage, i.directive.place⟩

theorem Instruction.comesFrom_of_mem_references {i : Instruction} {taken : List String}
    {reference : Reference} (h : reference ∈ i.references taken) : reference.ComesFrom i := by
  have ofFixture {usage : Slot → Usage}
      (hr : reference ∈ i.directive.attributes.references usage i.directive.place) :
      reference.ComesFrom i := by
    obtain ⟨slot, -, hs⟩ := List.mem_filterMap.mp hr
    obtain ⟨name, given, rfl⟩ := Option.map_eq_some_iff.mp hs
    exact .fixture given
  unfold references at h
  split at h
  · exact ofFixture h
  · next kind =>
    obtain ⟨name, target, rfl⟩ := List.mem_map.mp h
    exact .target (by simp [kind]) (Option.mem_toList.mp target)
  · next kind =>
    obtain ⟨name, target, rfl⟩ := List.mem_map.mp h
    exact .target (by simp [kind]) (Option.mem_toList.mp target)
  · obtain ⟨name, accepted, h⟩ := List.mem_flatMap.mp h
    have asks : i.test? = some name :=
      (Option.filter_eq_some_iff.mp (Option.mem_toList.mp accepted)).1
    rcases List.mem_cons.mp h with rfl | h
    · exact .target (kind_ne_group_of_test asks) (test?_eq_some_iff.mp asks).2
    · exact ofFixture h

section References
variable {conventions : Conventions} {items : List Item}

theorem mem_references_ofItems {reference : Reference} :
    reference ∈ (Collection.ofItems conventions items).references ↔
      ∃ before i after, instructionsAmong items = before ++ i :: after ∧
        reference ∈ i.references (testNames before) := by
  rw [Collection.references_ofItems, List.mem_flatMap]
  constructor
  · intro h
    obtain ⟨⟨before, i⟩, hi, made⟩ := h
    obtain ⟨after, split⟩ := mem_withPrior.mp hi
    exact ⟨before, i, after, split, made⟩
  · intro h
    obtain ⟨before, i, after, split, made⟩ := h
    exact ⟨(before, i), mem_withPrior.mpr ⟨after, split⟩, made⟩

/-- The tests of a registry are the added ones, completed by the fixtures of their groups. -/
theorem exists_of_mem_tests_registry {test : Test}
    (h : test ∈ (Collection.ofItems conventions items).registry.tests) :
    ∃ mention, ∃ own ∈ acceptedTests conventions (instructionsAmong items),
      test = (draftOf conventions (instructionsAmong items) mention).complete own := by
  rw [Registry.tests, Collection.groups_registry_ofItems] at h
  obtain ⟨group, hg, ht⟩ := List.mem_flatMap.mp h
  obtain ⟨mention, -, rfl⟩ := List.mem_map.mp hg
  obtain ⟨own, accepted, rfl⟩ := List.mem_map.mp ht
  exact ⟨mention, own, (List.mem_filter.mp accepted).1, rfl⟩

/-- A test that is added is referred to, and so are the fixtures of its own. -/
theorem exists_references_of_mem_acceptedTests {test : Test}
    (h : test ∈ acceptedTests conventions (instructionsAmong items)) :
    (∃ reference ∈ (Collection.ofItems conventions items).references,
        reference.name = test.name ∧ reference.role = .test) ∧
      ∀ slot name, test.fixture? slot = some name →
        ∃ reference ∈ (Collection.ofItems conventions items).references,
          reference.name = name ∧ reference.role = slot.role := by
  obtain ⟨before, i, after, split, asks, fresh, made⟩ := exists_first_instruction h
  -- the instruction that has added the test refers to it and to what its attributes name
  have makes := (Instruction.test?_eq_some_iff.mp asks).1
  have refers := Instruction.references_of_makesTest makes (testNames before)
  rw [Instruction.accepted?_of_test asks, if_neg fresh, Option.toList_some,
    List.flatMap_singleton] at refers
  constructor
  · refine ⟨⟨test.name, .test, i.directive.place⟩, ?_, rfl, rfl⟩
    exact mem_references_ofItems.mpr ⟨before, i, after, split, by simp [refers]⟩
  · intro slot name named
    rw [made, fixture?_asTest] at named
    obtain ⟨reference, hr, parts⟩ := Attributes.exists_reference_of_fixture? named
      (.testFixture · test.name) i.directive.place
    refine ⟨reference, ?_, parts⟩
    exact mem_references_ofItems.mpr ⟨before, i, after, split, by simp [refers, hr]⟩

/-- A fixture that is given to a group is referred to. -/
theorem exists_reference_of_groupFixture? {group name : String} {slot : Slot}
    (given : groupFixture? (instructionsAmong items) group slot = some name) :
    ∃ reference ∈ (Collection.ofItems conventions items).references,
      reference.name = name ∧ reference.role = slot.role := by
  obtain ⟨i, hi, gives⟩ := List.mem_filterMap.mp (List.mem_of_getLast? given)
  obtain ⟨before, after, split⟩ := List.append_of_mem hi
  obtain ⟨kind, fixture⟩ : i.directive.kind = .group ∧
      i.directive.attributes.fixture? slot = some name := by
    unfold Instruction.groupFixture? at gives
    split_ifs at gives with own
    exact ⟨own.1, gives⟩
  have refers : i.references (testNames before) = i.directive.attributes.references
      (.groupFixture · (i.directive.name.getD "")) i.directive.place := by
    simp [Instruction.references, kind]
  obtain ⟨reference, hr, parts⟩ := Attributes.exists_reference_of_fixture? fixture
    (.groupFixture · (i.directive.name.getD "")) i.directive.place
  exact ⟨reference, mem_references_ofItems.mpr ⟨before, i, after, split, by rwa [refers]⟩, parts⟩

end References

/-- Every use of a function comes from a reference to it in the same role. -/
theorem Used.exists_reference {conventions : Conventions} {files : List Scan} {name : String}
    {role : Role}
    (used : Used conventions.marker files
      (Collection.ofItems conventions (itemsOf conventions.marker files)).registry name role) :
    ∃ reference ∈ (Collection.ofItems conventions (itemsOf conventions.marker files)).references,
      reference.name = name ∧ reference.role = role := by
  cases used with
  | @test test ht =>
    obtain ⟨mention, own, accepted, rfl⟩ := exists_of_mem_tests_registry ht
    have symbol : own.symbol = own.name := symbol_of_mem_acceptedTests own accepted
    obtain ⟨referred, -⟩ := exists_references_of_mem_acceptedTests accepted
    exact symbol ▸ referred
  | @testFixture test slot _ ht named =>
    obtain ⟨mention, own, accepted, rfl⟩ := exists_of_mem_tests_registry ht
    rw [fixture?_complete] at named
    -- the fixture is the test's own one or else that of its group
    cases given : own.fixture? slot with
    | some fixture =>
      obtain rfl : fixture = name := by simpa [given] using named
      exact (exists_references_of_mem_acceptedTests accepted).2 slot fixture given
    | none => exact exists_reference_of_groupFixture? (by simpa [given] using named)
  | @groupFixture group slot _ hg named =>
    rw [Collection.groups_registry_ofItems] at hg
    obtain ⟨mention, -, rfl⟩ := List.mem_map.mp hg
    have given : groupFixture? (instructionsAmong (itemsOf conventions.marker files)) mention.1
        slot = some name := by
      cases slot <;> exact named
    exact exists_reference_of_groupFixture? given
  | @fixture file site d slot _ hf hs read kind target =>
    obtain ⟨i, hi, rfl, following⟩ := exists_instruction_of_mem_sites hf hs read
    obtain ⟨before, after, split⟩ := List.append_of_mem hi
    rw [← following] at target
    refine ⟨⟨name, .fixture slot, i.directive.place⟩, mem_references_ofItems.mpr
      ⟨before, i, after, split, ?_⟩, rfl, rfl⟩
    cases slot with
    | setup => simp [Instruction.references, show i.directive.kind = .setup from kind, target]
    | teardown =>
      simp [Instruction.references, show i.directive.kind = .teardown from kind, target]

/-- A static function that a registry uses is reported where it is declared. -/
theorem exists_internal_of_used {conventions : Conventions} {files : List Scan} {name : String}
    {role : Role} {s : Symbol}
    (used : Used conventions.marker files
      (Collection.ofItems conventions (itemsOf conventions.marker files)).registry name role)
    (found : (Collection.ofItems conventions
      (itemsOf conventions.marker files)).registry.symbols.lookup? name = some s)
    (hidden : s.isStatic = true) :
    ∃ first, ⟨.internal name first, s.place⟩ ∈
      (Collection.ofItems conventions (itemsOf conventions.marker files)).registry.problems := by
  obtain ⟨reference, hr, rfl, -⟩ := used.exists_reference
  rw [Collection.symbols_registry_ofItems, SymbolTable.lookup?_usedBy] at found
  obtain ⟨collected, declared, rfl⟩ := Option.map_eq_some_iff.mp found
  -- the first reference is the one that is checked
  obtain ⟨first, earliest⟩ : ∃ first, (Collection.ofItems conventions
      (itemsOf conventions.marker files)).references.find?
        (fun other => other.name == reference.name) = some first := by
    rw [← Option.isSome_iff_exists, List.find?_isSome]
    exact ⟨reference, hr, by simp⟩
  obtain ⟨named, prior, later, split, others⟩ := List.find?_eq_some_iff_append.mp earliest
  have name : first.name = reference.name := by simpa using named
  have fresh : ∀ other ∈ prior, other.name ≠ first.name := by
    intro other ho same
    simpa [same, name] using others other ho
  have internal : collected.isStatic = true := hidden
  have made := (problem?_eq_some_iff split).mpr (.internal (name ▸ declared) fresh internal)
  rw [name] at made
  refine ⟨first.role, ?_⟩
  rw [Collection.problems_registry_ofItems, List.mem_append]
  exact Or.inr (List.mem_filterMap.mpr
    ⟨(prior, first), mem_withPrior.mpr ⟨later, split⟩, made⟩)

end AnnotatedTests
