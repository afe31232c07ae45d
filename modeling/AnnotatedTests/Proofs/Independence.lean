import AnnotatedTests.Proofs.Insertion
import AnnotatedTests.Proofs.Uses

/-! Files that have no names in common. Neither of them shows in what is made of the other, so that
their order is only the order of what a registry lists: it has the same symbols, the same groups and
the same problems. -/
namespace AnnotatedTests
attribute [local irreducible] Comment.directive

/-- The functions that a directive is about or gives as fixtures. -/
def Directive.functions (d : Directive) (following : Option Declaration) : List String :=
  (if d.kind = .group then [] else (d.target? following).toList) ++
    (d.attributes.setup.toList ++ d.attributes.teardown.toList)

/-- The groups that a directive names. -/
def Directive.groups (d : Directive) : List String :=
  (if d.kind = .group then [d.name.getD ""] else []) ++ d.attributes.group.toList

def Scan.functions (marker : String) (file : Scan) : List String :=
  (file.sites.filterMap (Site.request? marker)).flatMap fun request =>
    request.1.functions request.2

/-- The groups that a file names, and the one that is named for it. -/
def Scan.groups (marker : String) (file : Scan) : List String :=
  defaultGroupName file.filename ::
    (file.sites.filterMap (Site.request? marker)).flatMap fun request => request.1.groups

/-- Whether two files have no names in common: no function that both declare, none that directives
of both are about or give as a fixture, and no group. -/
structure Scan.Apart (marker : String) (a b : Scan) : Prop where
  declarations : ∀ d ∈ a.declarations marker, ∀ e ∈ b.declarations marker,
    d.identifier ≠ e.identifier
  functions : ∀ name ∈ a.functions marker, name ∉ b.functions marker
  groups : ∀ name ∈ a.groups marker, name ∉ b.groups marker

namespace Instruction

def functions (i : Instruction) : List String := i.directive.functions i.following

def groups (i : Instruction) : List String := i.current :: i.directive.groups

structure Apart (i j : Instruction) : Prop where
  functions : ∀ name ∈ i.functions, name ∉ j.functions
  groups : ∀ name ∈ i.groups, name ∉ j.groups

theorem mem_functions_of_target? {i : Instruction} {name : String}
    (kind : i.directive.kind ≠ .group) (target : i.directive.target? i.following = some name) :
    name ∈ i.functions := by
  simp [functions, Directive.functions, kind, target]

theorem mem_functions_of_test? {i : Instruction} {name : String} (asks : i.test? = some name) :
    name ∈ i.functions :=
  mem_functions_of_target? (kind_ne_group_of_test asks) (test?_eq_some_iff.mp asks).2

theorem mem_functions_of_fixture? {i : Instruction} {slot : Slot} {name : String}
    (given : i.directive.attributes.fixture? slot = some name) : name ∈ i.functions := by
  cases slot with
  | setup =>
    have given : i.directive.attributes.setup = some name := given
    simp [functions, Directive.functions, given]
  | teardown =>
    have given : i.directive.attributes.teardown = some name := given
    simp [functions, Directive.functions, given]

theorem Apart.test?_ne {i j : Instruction} {name : String} (apart : i.Apart j)
    (asks : i.test? = some name) : j.test? ≠ some name := by
  intro asks'
  exact apart.functions name (mem_functions_of_test? asks)
    (mem_functions_of_test? asks')

/-- The functions that an instruction refers to are among those of its directive. -/
theorem mem_functions_of_mem_references {i : Instruction} {taken : List String}
    {reference : Reference} (h : reference ∈ i.references taken) :
    reference.name ∈ i.functions := by
  cases comesFrom_of_mem_references h with
  | target kind target => exact mem_functions_of_target? kind target
  | fixture given => exact mem_functions_of_fixture? given

theorem destination_mem_groups (i : Instruction) : i.destination ∈ i.groups := by
  unfold destination groups Directive.groups
  cases i.directive.attributes.group <;> simp

theorem mem_groups_of_visit? {i : Instruction} {taken : List String}
    {visit : String × (Draft → Draft)} (h : i.visit? taken = some visit) :
    visit.1 ∈ i.groups := by
  unfold visit? at h
  split at h
  · next kind =>
    obtain rfl := Option.some.inj h
    simp [groups, Directive.groups, kind]
  · obtain ⟨name, -, rfl⟩ := Option.map_eq_some_iff.mp h
    exact i.destination_mem_groups

theorem mem_groups_of_groupFixture? {i : Instruction} {group name : String} {slot : Slot}
    (h : i.groupFixture? group slot = some name) : group ∈ i.groups := by
  unfold groupFixture? at h
  split at h
  · next own => simp [groups, Directive.groups, own.1, own.2]
  · simp at h

/-- Whether an instruction adds its test is a matter of those that ask for a test of its name. -/
theorem byKey_accepted? :
    ByKey Instruction.test? fun prior i => i.accepted? (testNames prior) := by
  intro seen other i same
  have asked (instructions : List Instruction) (name : String) : name ∈ testNames instructions ↔
      instructions.filter (fun j => j.test? = some name) ≠ [] := by
    simp [testNames, List.filter_eq_nil_iff]
  -- the name is in use if an instruction of this key stands before, and no other key matters
  cases asks : i.test? with
  | none => simp [accepted?, asks]
  | some name =>
    simp only [accepted?_of_test asks, asked, same name asks]

theorem byKey_references :
    ByKey Instruction.test? fun prior i => i.references (testNames prior) := by
  intro seen other i same
  have accepted := byKey_accepted? seen other i same
  simp only at accepted
  simp [references, accepted]

theorem byKey_visit? : ByKey Instruction.test? fun prior i =>
    (i.visit? (testNames prior)).map fun visit => (visit.1, i.directive.place) := by
  intro seen other i same
  have accepted := byKey_accepted? seen other i same
  simp only at accepted
  simp [visit?, accepted]

end Instruction

theorem Site.byKey_problem? (marker : String) :
    ByKey (Site.test? marker) fun prior site => site.problem? marker prior := by
  intro seen other site same
  have found (name : String) (asks : site.test? marker = some name) :
      seen.find? (fun earlier => earlier.test? marker = some name) =
        other.find? fun earlier => earlier.test? marker = some name := by
    rw [← List.head?_filter, ← List.head?_filter, same name asks]
  unfold problem?
  dsimp only
  cases asks : site.test? marker with
  | none => rfl
  | some name => simp [found name asks]

theorem Reference.byKey_problem? (symbols : SymbolTable) :
    ByKey (fun reference : Reference => some reference.name) fun prior reference =>
      reference.problem? symbols prior := by
  intro seen other reference same
  have uses : useOf seen reference.name = useOf other reference.name := by
    have filtered := same reference.name rfl
    simp only [Option.some.injEq] at filtered
    rw [useOf_eq_head?, useOf_eq_head?, filtered]
  simp only [problem?, uses]

/-- The functions and the groups of a file's instructions are among those of the file. -/
theorem mem_of_mem_instructionsAmong {marker : String} {file : Scan} {i : Instruction}
    (h : i ∈ instructionsAmong (file.items marker)) :
    (∀ name ∈ i.functions, name ∈ file.functions marker) ∧
      ∀ name ∈ i.groups, name ∈ file.groups marker := by
  have alone : i ∈ instructionsOf marker [file] := by simpa [instructionsOf, itemsOf] using h
  obtain ⟨same, hf, before, site, later, split, read, following, current⟩ :=
    mem_instructionsOf.mp alone
  obtain rfl : file = same := (List.mem_singleton.mp hf).symm
  have requests {site : Site} (hs : site ∈ file.sites) {d : Directive}
      (read : site.comment.directive marker = .ok d) :
      (d, site.following) ∈ file.sites.filterMap (Site.request? marker) :=
    List.mem_filterMap.mpr ⟨site, hs, by simp [Site.request?, read]⟩
  have requested : (i.directive, i.following) ∈ file.sites.filterMap (Site.request? marker) :=
    following ▸ requests (by simp [split]) read
  constructor
  · intro name hn
    exact List.mem_flatMap.mpr ⟨_, requested, hn⟩
  · intro name hn
    rcases List.mem_cons.mp hn with rfl | hn
    · -- the group that tests are in is named by a site before, or else for the file
      rw [current, groupBehind]
      cases last : (before.filterMap fun site => site.comment.group? marker).getLast? with
      | none => exact List.mem_cons_self
      | some group =>
        obtain ⟨earlier, he, named⟩ := List.mem_filterMap.mp (List.mem_of_getLast? last)
        obtain ⟨d, read, kind, name⟩ := Comment.group?_eq_some_iff.mp named
        refine List.mem_cons_of_mem _ (List.mem_flatMap.mpr
          ⟨_, requests (by simp [split, he]) read, ?_⟩)
        simp [Directive.groups, kind, name]
    · exact List.mem_cons_of_mem _ (List.mem_flatMap.mpr ⟨_, requested, hn⟩)

namespace Exchanged
variable {conventions : Conventions} {files others : List Scan}

theorem declarations {marker : String} (h : Exchanged (Scan.Apart marker) files others) :
    Exchanged (fun d e : Declaration => d.identifier ≠ e.identifier)
      (files.flatMap (Scan.declarations marker)) (others.flatMap (Scan.declarations marker)) :=
  h.flatMap fun _ _ apart d hd e he => apart.declarations d hd e he

theorem declarationsOf {marker : String} (h : Exchanged (Scan.Apart marker) files others)
    (name : String) :
    AnnotatedTests.declarationsOf marker files name =
      AnnotatedTests.declarationsOf marker others name :=
  h.declarations.filter_key_eq (fun _ _ different => different) name

theorem instructions {marker : String} (h : Exchanged (Scan.Apart marker) files others) :
    Exchanged Instruction.Apart (instructionsOf marker files) (instructionsOf marker others) := by
  rw [instructionsOf_eq_flatMap, instructionsOf_eq_flatMap]
  refine h.flatMap ?_
  intro a b apart i hi j hj
  obtain ⟨functionsA, groupsA⟩ := mem_of_mem_instructionsAmong hi
  obtain ⟨functionsB, groupsB⟩ := mem_of_mem_instructionsAmong hj
  exact ⟨fun name hn hn' => apart.functions name (functionsA name hn) (functionsB name hn'),
    fun name hn hn' => apart.groups name (groupsA name hn) (groupsB name hn')⟩

theorem sites {marker : String} (h : Exchanged (Scan.Apart marker) files others) :
    Exchanged (fun s t : Site => ∀ name, s.test? marker = some name → t.test? marker ≠ some name)
      (files.flatMap Scan.sites) (others.flatMap Scan.sites) := by
  have asked {file : Scan} {site : Site} (hs : site ∈ file.sites) {name : String}
      (asks : site.test? marker = some name) : name ∈ file.functions marker := by
    obtain ⟨d, read, makes, target⟩ := Site.test?_eq_some_iff.mp asks
    have asks : (⟨d, site.following, ""⟩ : Instruction).test? = some name :=
      Instruction.test?_eq_some_iff.mpr ⟨makes, target⟩
    have requested : (d, site.following) ∈ file.sites.filterMap (Site.request? marker) :=
      List.mem_filterMap.mpr ⟨site, hs, by simp [Site.request?, read]⟩
    exact List.mem_flatMap.mpr ⟨_, requested, Instruction.mem_functions_of_test? asks⟩
  refine h.flatMap ?_
  intro a b apart s hs t ht name asks asks'
  exact apart.functions name (asked hs asks) (asked ht asks')

/-- The tests that are added do not meet across the two files, neither by name nor in a group. -/
theorem acceptedTests {instructions others : List Instruction}
    (h : Exchanged Instruction.Apart instructions others) (conventions : Conventions) :
    Exchanged (fun s t : Test => s.name ≠ t.name ∧ s.group ≠ t.group)
      (AnnotatedTests.acceptedTests conventions instructions)
      (AnnotatedTests.acceptedTests conventions others) := by
  refine Exchanged.firsts (h.filterMap ?_) fun _ _ apart => apart.1
  intro i j s t apart hs ht
  obtain ⟨name, asks, rfl⟩ := Option.map_eq_some_iff.mp hs
  obtain ⟨other, asks', rfl⟩ := Option.map_eq_some_iff.mp ht
  constructor
  · rintro rfl
    exact apart.test?_ne asks asks'
  · intro same
    have same : i.destination = j.destination := same
    exact apart.groups i.destination i.destination_mem_groups
      (same ▸ j.destination_mem_groups)

theorem mentions {instructions others : List Instruction}
    (h : Exchanged Instruction.Apart instructions others) :
    Exchanged (fun m n : String × Place => m.1 ≠ n.1) (AnnotatedTests.mentions instructions)
      (AnnotatedTests.mentions others) := by
  refine h.filterMap_withPrior (f := fun prior i =>
    (i.visit? (testNames prior)).map fun visit => (visit.1, i.directive.place))
    Instruction.byKey_visit? (fun _ _ _ apart => apart.test?_ne) ?_
  intro i j seen other m n apart hm hn
  obtain ⟨v, visits, rfl⟩ := Option.map_eq_some_iff.mp hm
  obtain ⟨w, visits', rfl⟩ := Option.map_eq_some_iff.mp hn
  intro same
  have same : v.1 = w.1 := same
  exact apart.groups v.1 (Instruction.mem_groups_of_visit? visits)
    (same ▸ Instruction.mem_groups_of_visit? visits')

theorem references {instructions others : List Instruction}
    (h : Exchanged Instruction.Apart instructions others) :
    Exchanged (fun r s : Reference => r.name ≠ s.name)
      ((withPrior instructions).flatMap fun p => p.2.references (testNames p.1))
      ((withPrior others).flatMap fun p => p.2.references (testNames p.1)) := by
  refine h.flatMap_withPrior (f := fun prior i => i.references (testNames prior))
    Instruction.byKey_references (fun _ _ _ apart => apart.test?_ne) ?_
  intro i j seen other apart r hr s hs same
  exact apart.functions r.name (Instruction.mem_functions_of_mem_references hr)
    (same ▸ Instruction.mem_functions_of_mem_references hs)

theorem groupFixture? {instructions others : List Instruction}
    (h : Exchanged Instruction.Apart instructions others) (group : String) (slot : Slot) :
    AnnotatedTests.groupFixture? instructions group slot =
      AnnotatedTests.groupFixture? others group slot := by
  rw [AnnotatedTests.groupFixture?, AnnotatedTests.groupFixture?]
  congr 1
  refine h.filterMap_eq ?_
  intro i j name apart given
  cases given' : j.groupFixture? group slot with
  | none => rfl
  | some other =>
    exact absurd (Instruction.mem_groups_of_groupFixture? given')
      (apart.groups group (Instruction.mem_groups_of_groupFixture? given))

end Exchanged

section Registry
variable {conventions : Conventions} {files others : List Scan}

theorem useOf_of_exchanged
    (h : Exchanged (Scan.Apart conventions.marker) files others) (name : String) :
    useOf (Collection.ofItems conventions (itemsOf conventions.marker files)).references name =
      useOf (Collection.ofItems conventions (itemsOf conventions.marker others)).references
        name := by
  have same := h.instructions.references.filter_key_eq (fun _ _ different => different) name
  rw [useOf_eq_head?, useOf_eq_head?, Collection.references_ofItems,
    Collection.references_ofItems]
  exact congrArg _ (congrArg _ same)

theorem groups_perm_of_exchanged
    (h : Exchanged (Scan.Apart conventions.marker) files others) :
    (Collection.ofItems conventions (itemsOf conventions.marker files)).registry.groups.Perm
      (Collection.ofItems conventions (itemsOf conventions.marker others)).registry.groups := by
  have instructions := h.instructions
  have fixtures := instructions.groupFixture?
  -- a group has its tests from one of the two files at most, so that their order is the same
  have tests (group : String) :
      (acceptedTests conventions (instructionsOf conventions.marker files)).filter
          (fun test => test.group = group) =
        (acceptedTests conventions (instructionsOf conventions.marker others)).filter
          fun test => test.group = group :=
    (instructions.acceptedTests conventions).filter_key_eq (fun _ _ different => different.2) group
  have drafts (mention : String × Place) :
      draftOf conventions (instructionsOf conventions.marker files) mention =
        draftOf conventions (instructionsOf conventions.marker others) mention := by
    rw [draftOf, draftOf, fixtures, fixtures, tests]
  have mentioned := (instructions.mentions.firsts fun _ _ different => different).perm
  rw [Collection.groups_registry_ofItems, Collection.groups_registry_ofItems,
    ← instructionsOf, ← instructionsOf]
  simp only [drafts, tests]
  exact mentioned.map _

theorem problems_perm_of_exchanged
    (h : Exchanged (Scan.Apart conventions.marker) files others) :
    (Collection.ofItems conventions (itemsOf conventions.marker files)).registry.problems.Perm
      (Collection.ofItems conventions (itemsOf conventions.marker others)).registry.problems := by
  have symbols (name : String) :
      (Collection.ofItems conventions (itemsOf conventions.marker files)).symbols.lookup? name =
        (Collection.ofItems conventions
          (itemsOf conventions.marker others)).symbols.lookup? name := by
    rw [lookup?_symbols_itemsOf, lookup?_symbols_itemsOf, h.declarationsOf]
  have collected := h.sites.filterMap_withPrior_perm (Site.byKey_problem? conventions.marker)
    fun _ _ _ apart => apart _
  have resolved := h.instructions.references.filterMap_withPrior_perm
    (Reference.byKey_problem? (Collection.ofItems conventions
      (itemsOf conventions.marker files)).symbols)
    fun r s k different hr hs => different (Option.some.inj (hr.trans hs.symm))
  rw [Collection.problems_registry_ofItems, Collection.problems_registry_ofItems,
    Collection.problems_itemsOf, Collection.problems_itemsOf, Collection.references_ofItems,
    Collection.references_ofItems]
  simp only [← Reference.problem?_congr symbols]
  exact collected.append resolved

/-- Two neighbouring files that have no names in common can change places: all symbols stay as they
are, the groups are the same with all that they hold, and so are the problems. Only the order of
groups and of problems depends on which file comes first. -/
theorem buildRegistry_swap {conventions : Conventions} {before after : List Scan} {a b : Scan}
    (apart : a.Apart conventions.marker b) {registry : Registry}
    (built : (buildRegistry conventions (before ++ a :: b :: after)).1 = .ok registry) :
    ∃ swapped, (buildRegistry conventions (before ++ b :: a :: after)).1 = .ok swapped ∧
      (∀ name, swapped.symbols.lookup? name = registry.symbols.lookup? name) ∧
      swapped.groups.Perm registry.groups ∧ swapped.problems.Perm registry.problems := by
  obtain ⟨legible, rfl⟩ := buildRegistry_eq_ok_iff.mp built
  have exchanged : Exchanged (Scan.Apart conventions.marker) (before ++ ([a] ++ ([b] ++ after)))
      (before ++ ([b] ++ ([a] ++ after))) := by
    refine .blocks ?_
    intro x hx y hy
    rw [List.mem_singleton.mp hx, List.mem_singleton.mp hy]
    exact apart
  -- groups and problems are exchanged as lists, symbols are the same for every name
  refine ⟨_, buildRegistry_eq_ok_iff.mpr ⟨?_, rfl⟩, ?_, (groups_perm_of_exchanged exchanged).symm,
    (problems_perm_of_exchanged exchanged).symm⟩
  · intro file hf
    exact legible file (exchanged.perm.mem_iff.mpr hf)
  · intro name
    rw [lookup?_registry_itemsOf, lookup?_registry_itemsOf]
    have uses := useOf_of_exchanged exchanged name
    have declared := exchanged.declarationsOf name
    simp only [List.singleton_append] at uses declared
    rw [uses, declared]

end Registry

theorem buildRegistry_swap_portFile_refillFile :
    ∃ registry swapped, (buildRegistry .standard [portFile, refillFile]).1 = .ok registry ∧
      (buildRegistry .standard [refillFile, portFile]).1 = .ok swapped ∧
      registry.groups.map Group.name = ["io", "queue"] ∧
      swapped.groups.map Group.name = ["queue", "io"] ∧
      (∀ name, swapped.symbols.lookup? name = registry.symbols.lookup? name) ∧
      swapped.groups.Perm registry.groups ∧ swapped.problems.Perm registry.problems := by
  have legible : ∀ file ∈ [portFile, refillFile],
      file.Legible Conventions.standard.marker := by
    decide +kernel
  have built : (buildRegistry .standard ([] ++ portFile :: refillFile :: [])).1 = .ok _ :=
    buildRegistry_eq_ok_iff.mpr ⟨legible, rfl⟩
  have apart : portFile.Apart Conventions.standard.marker refillFile :=
    ⟨by decide +kernel, by decide +kernel, by decide +kernel⟩
  obtain ⟨swapped, rebuilt, symbols, groups, problems⟩ := buildRegistry_swap apart built
  obtain ⟨-, rfl⟩ := buildRegistry_eq_ok_iff.mp rebuilt
  exact ⟨_, _, built, rebuilt, by decide +kernel, by decide +kernel, symbols, groups, problems⟩

end AnnotatedTests
