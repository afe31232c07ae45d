import AnnotatedTests.Proofs.Drafts
import Mathlib.Data.List.Perm.Basic

/-! Every test has one place: it is in the group that it says, once, and in no other. This holds
of everything that can be collected, and of the registry that is made of it. -/
namespace AnnotatedTests
attribute [local irreducible] Comment.directive

/-- What can be collected by adding files, also after one that could not be read to its end. -/
inductive Reached (conventions : Conventions) : Collection → Prop where
  | empty : Reached conventions .empty
  | addFile {c : Collection} (file : Scan) :
    Reached conventions c → Reached conventions (c.addFile conventions file).1

/-- Groups, given by their names and those of their tests, in which each of some tests has its one
place. -/
structure Grouping (groups : List (String × List String)) (tests : List Test) : Prop where
  groupNames : (groups.map Prod.fst).Nodup
  testNames : (tests.map Test.name).Nodup
  placed : ∀ test ∈ tests, ∃ members, (test.group, members) ∈ groups ∧
    members.count test.name = 1
  nowhereElse : ∀ test ∈ tests, ∀ group ∈ groups, test.name ∈ group.2 → group.1 = test.group
  known : ∀ group ∈ groups, ∀ name ∈ group.2, ∃ test ∈ tests, test.name = name
  ownSymbol : ∀ test ∈ tests, test.symbol = test.name

def Test.placing (test : Test) : String × String × String := (test.name, test.group, test.symbol)

theorem mem_members {tests : List Test} {group name : String} :
    name ∈ members tests group ↔ ∃ test ∈ tests, test.group = group ∧ test.name = name := by
  simp [members, and_assoc]

theorem nodup_members {tests : List Test} (unique : (tests.map Test.name).Nodup)
    (group : String) : (members tests group).Nodup :=
  unique.sublist (List.filter_sublist.map Test.name)

/-- Listing tests under the groups that they name gives each its one place. -/
theorem grouping_members {groups : List String} {tests : List Test}
    (distinct : groups.Nodup) (unique : (tests.map Test.name).Nodup)
    (housed : ∀ test ∈ tests, test.group ∈ groups)
    (own : ∀ test ∈ tests, test.symbol = test.name) :
    Grouping (groups.map fun group => (group, members tests group)) tests where
  groupNames := by simpa [Function.comp_def] using distinct
  testNames := unique
  placed := by
    intro test ht
    refine ⟨members tests test.group, List.mem_map.mpr ⟨test.group, housed test ht, rfl⟩, ?_⟩
    exact List.count_eq_one_of_mem (nodup_members unique _) (mem_members.mpr ⟨test, ht, rfl, rfl⟩)
  nowhereElse := by
    intro test ht group hg hn
    obtain ⟨name, -, rfl⟩ := List.mem_map.mp hg
    obtain ⟨other, ho, rfl, same⟩ := mem_members.mp hn
    -- a test of the same name is the same test
    rw [List.inj_on_of_nodup_map unique ho ht same]
  known := by
    intro group hg name hn
    obtain ⟨g, -, rfl⟩ := List.mem_map.mp hg
    obtain ⟨test, ht, -, named⟩ := mem_members.mp hn
    exact ⟨test, ht, named⟩
  ownSymbol := own

/-- Whether tests have their places is a matter of what places them. -/
theorem Grouping.of_perm {groups : List (String × List String)} {tests others : List Test}
    (grouping : Grouping groups tests)
    (same : (others.map Test.placing).Perm (tests.map Test.placing)) :
    Grouping groups others := by
  -- each test has one on the other side that is placed alike
  have twin (test : Test) (ht : test ∈ others) :
      ∃ other ∈ tests, other.placing = test.placing :=
    List.mem_map.mp (same.mem_iff.mp (List.mem_map.mpr ⟨test, ht, rfl⟩))
  have names : (others.map Test.name).Perm (tests.map Test.name) := by
    simpa [Function.comp_def, Test.placing] using same.map Prod.fst
  refine ⟨grouping.groupNames, names.nodup_iff.mpr grouping.testNames, ?_, ?_, ?_, ?_⟩
  · intro test ht
    obtain ⟨other, ho, placing⟩ := twin test ht
    simp only [Test.placing, Prod.mk.injEq] at placing
    rw [← placing.1, ← placing.2.1]
    exact grouping.placed other ho
  · intro test ht group hg hn
    obtain ⟨other, ho, placing⟩ := twin test ht
    simp only [Test.placing, Prod.mk.injEq] at placing
    rw [← placing.2.1]
    exact grouping.nowhereElse other ho group hg (placing.1 ▸ hn)
  · intro group hg name hn
    obtain ⟨test, ht, rfl⟩ := grouping.known group hg name hn
    exact List.mem_map.mp (names.mem_iff.mpr (List.mem_map.mpr ⟨test, ht, rfl⟩))
  · intro test ht
    obtain ⟨other, ho, placing⟩ := twin test ht
    simp only [Test.placing, Prod.mk.injEq] at placing
    rw [← placing.1, ← placing.2.2]
    exact grouping.ownSymbol other ho

/-- Tests that are listed group by group are all of them, each once. -/
theorem flatMap_filter_group_perm {groups : List String} {tests : List Test}
    (distinct : groups.Nodup) (unique : (tests.map Test.name).Nodup)
    (housed : ∀ test ∈ tests, test.group ∈ groups) :
    (groups.flatMap fun group => tests.filter fun test => test.group = group).Perm tests := by
  have once : tests.Nodup := unique.of_map Test.name
  have listed : (groups.flatMap fun group =>
      tests.filter fun test => test.group = group).Nodup := by
    refine List.nodup_flatMap.mpr ⟨fun group _ => once.filter _, distinct.imp ?_⟩
    intro a b different test ha hb
    simp only [List.mem_filter, decide_eq_true_eq] at ha hb
    exact different (ha.2.symm.trans hb.2)
  -- neither list repeats a test, so it is enough that they have the same ones
  apply (List.perm_ext_iff_of_nodup listed once).mpr
  intro test
  simp only [List.mem_flatMap, List.mem_filter, decide_eq_true_eq]
  constructor
  · intro listed
    obtain ⟨group, -, ht, -⟩ := listed
    exact ht
  · intro ht
    exact ⟨test.group, housed test ht, ht, rfl⟩

theorem Reached.exists_items {conventions : Conventions} {c : Collection}
    (h : Reached conventions c) : ∃ items, c = Collection.ofItems conventions items := by
  induction h with
  | empty => exact ⟨[], rfl⟩
  | addFile file _ ih =>
    obtain ⟨items, rfl⟩ := ih
    exact ⟨_, Collection.addFile_ofItems conventions items file⟩

theorem group_mem_mentionedGroups {conventions : Conventions} {instructions : List Instruction} :
    ∀ test ∈ acceptedTests conventions instructions, test.group ∈ mentionedGroups instructions :=
  fun _ ht => (mem_map_firsts Prod.fst).mpr (group_mem_mentions ht)

theorem symbol_of_mem_acceptedTests {conventions : Conventions} {instructions : List Instruction} :
    ∀ test ∈ acceptedTests conventions instructions, test.symbol = test.name := by
  intro test ht
  obtain ⟨i, -, hi⟩ := List.mem_filterMap.mp (mem_of_mem_firsts Test.name ht)
  obtain ⟨name, -, rfl⟩ := Option.map_eq_some_iff.mp hi
  rfl

/-- Tests that have been added stay: more instructions only add tests behind them. -/
theorem acceptedTests_append (conventions : Conventions) (instructions more : List Instruction) :
    acceptedTests conventions instructions <+:
      acceptedTests conventions (instructions ++ more) := by
  induction more using List.reverseRecOn with
  | nil => simp
  | append_singleton more i ih =>
    rw [← List.append_assoc, acceptedTests_concat]
    exact ih.trans (List.prefix_append _ _)

theorem placing_registry_ofItems (conventions : Conventions) (items : List Item) :
    ((Collection.ofItems conventions items).registry.tests.map Test.placing).Perm
      ((acceptedTests conventions (instructionsAmong items)).map Test.placing) := by
  have listed := flatMap_filter_group_perm
    (nodup_map_firsts Prod.fst (mentions (instructionsAmong items)))
    (nodup_names_acceptedTests conventions (instructionsAmong items)) group_mem_mentionedGroups
  have same : (Collection.ofItems conventions items).registry.tests.map Test.placing =
      ((mentionedGroups (instructionsAmong items)).flatMap fun group =>
        (acceptedTests conventions (instructionsAmong items)).filter fun test =>
          test.group = group).map Test.placing := by
    rw [Registry.tests, Collection.groups_registry_ofItems, mentionedGroups, List.flatMap_map,
      List.flatMap_map, List.map_flatMap, List.map_flatMap]
    simp only [List.map_map]
    rfl
  rw [same]
  exact listed.map Test.placing

/-- The tests of a registry are those that are added, each under its name. -/
theorem names_registry_ofItems (conventions : Conventions) (items : List Item) :
    ((Collection.ofItems conventions items).registry.tests.map Test.name).Perm
      ((acceptedTests conventions (instructionsAmong items)).map Test.name) := by
  simpa [Function.comp_def, Test.placing] using
    (placing_registry_ofItems conventions items).map Prod.fst

/-- Whatever has been collected, each test has its one place in the drafts and in the registry that
is made of them, so that searches by name find the only entry; and a test keeps its place in the
list of tests when more files are added. -/
theorem grouping_of_reached {conventions : Conventions} {c : Collection}
    (h : Reached conventions c) :
    Grouping (c.drafts.map fun draft => (draft.name, draft.tests)) c.tests ∧
      Grouping (c.registry.groups.map fun group => (group.name, group.tests.map Test.name))
        c.registry.tests ∧
      (c.registry.tests.map Test.name).Perm (c.tests.map Test.name) ∧
      (∀ name test, c.registry.test? name = some test ↔
        test ∈ c.registry.tests ∧ test.name = name) ∧
      (∀ name group, c.registry.group? name = some group ↔
        group ∈ c.registry.groups ∧ group.name = name) ∧
      ∀ file, c.tests <+: (c.addFile conventions file).1.tests := by
  obtain ⟨items, rfl⟩ := h.exists_items
  -- drafts and groups list the same names, and completing tests leaves their places alone
  have own := grouping_members
    (nodup_map_firsts Prod.fst (mentions (instructionsAmong items)))
    (nodup_names_acceptedTests conventions (instructionsAmong items))
    group_mem_mentionedGroups symbol_of_mem_acceptedTests
  have drafts : ((Collection.ofItems conventions items).drafts.map fun draft =>
      (draft.name, draft.tests)) = (mentionedGroups (instructionsAmong items)).map fun group =>
        (group, members (acceptedTests conventions (instructionsAmong items)) group) := by
    rw [Collection.drafts_ofItems, mentionedGroups, List.map_map, List.map_map]
    rfl
  have groups : ((Collection.ofItems conventions items).registry.groups.map fun group =>
      (group.name, group.tests.map Test.name)) =
        (mentionedGroups (instructionsAmong items)).map fun group =>
          (group, members (acceptedTests conventions (instructionsAmong items)) group) := by
    rw [Collection.groups_registry_ofItems, mentionedGroups, List.map_map, List.map_map]
    apply List.map_congr_left
    intro mention _
    simp only [Function.comp_apply, List.map_map]
    rfl
  have placing := placing_registry_ofItems conventions items
  have registered : Grouping
      ((Collection.ofItems conventions items).registry.groups.map fun group =>
        (group.name, group.tests.map Test.name))
      (Collection.ofItems conventions items).registry.tests := by
    rw [groups]
    exact own.of_perm placing
  have groupNames := registered.groupNames
  rw [List.map_map] at groupNames
  refine ⟨?_, registered, ?_, ?_, ?_, ?_⟩
  · rw [drafts, Collection.tests_ofItems]
    exact own
  · rw [Collection.tests_ofItems]
    exact names_registry_ofItems conventions items
  · intro name test
    exact find?_eq_some_iff_of_nodup registered.testNames
  · intro name group
    exact find?_eq_some_iff_of_nodup groupNames
  · intro file
    rw [Collection.addFile_ofItems, Collection.tests_ofItems, Collection.tests_ofItems,
      instructionsAmong_append]
    exact acceptedTests_append conventions _ _

def textOfLines (lines : List String) : List Char :=
  lines.flatMap fun line => line.toList ++ ['\n']

/-- A source with a malformed directive inside a group, and a test for a group that another file is
named for. -/
def ioSource : List Char :=
  textOfLines
    ["/*!cmocka group io */",
      "/*!cmocka */ void reads(void **state);",
      "/*!cmocka test 1st */",
      "/*!cmocka test writes group:disk */"]

/-- A source that repeats a test of another one, and adds a test to a group of it. -/
def diskSource : List Char :=
  textOfLines
    ["/*!cmocka test reads */",
      "/*!cmocka group:io */ void flushes(void **state);",
      "/*!cmocka test closes */"]

def ioFile : Scan := scan ioSource "io.c" "cmocka"

def diskFile : Scan := scan diskSource "disk.c" "cmocka"

theorem legible_ioFile_diskFile :
    ∀ file ∈ [ioFile, diskFile], file.Legible Conventions.standard.marker := by
  decide +kernel

theorem grouping_of_ioFile_diskFile :
    ∃ c, Reached .standard c ∧
      (c.drafts.map fun draft => (draft.name, draft.tests)) =
        [("io", ["reads", "flushes"]), ("disk", ["writes", "closes"])] ∧
      Grouping (c.drafts.map fun draft => (draft.name, draft.tests)) c.tests ∧
      Grouping (c.registry.groups.map fun group => (group.name, group.tests.map Test.name))
        c.registry.tests := by
  have reached : Reached .standard
      ((Collection.empty.addFile .standard ioFile).1.addFile .standard diskFile).1 :=
    .addFile diskFile (.addFile ioFile .empty)
  obtain ⟨drafts, groups, -⟩ := grouping_of_reached reached
  exact ⟨_, reached, by decide +kernel, drafts, groups⟩

end AnnotatedTests
