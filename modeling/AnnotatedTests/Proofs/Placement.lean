import AnnotatedTests.Proofs.Grouping

/-! Where tests go. The group of a test is said by its directive or else by the last group
directive before it in its file, and groups and tests stand in the order in which they first
appear. -/
namespace AnnotatedTests
attribute [local irreducible] Comment.directive

theorem groupBehind_of_no_group {marker : String} {site : Site}
    (h : site.comment.group? marker = none) (filename : String) (before : List Site) :
    groupBehind marker filename (before ++ [site]) = groupBehind marker filename before := by
  rw [groupBehind_concat, h, Option.getD_none]

/-- A test that is added comes from a directive of some file, and its group is the one that the
directive gives or else the one that tests are in where it stands. -/
theorem exists_site_of_mem_acceptedTests {conventions : Conventions} {files : List Scan}
    {test : Test} (h : test ∈ acceptedTests conventions (instructionsOf conventions.marker files)) :
    ∃ file ∈ files, ∃ before site later d, file.sites = before ++ site :: later ∧
      site.comment.directive conventions.marker = .ok d ∧
      d.makesTest site.following = true ∧ d.target? site.following = some test.name ∧
      test.place = d.place ∧
      test.group =
        d.attributes.group.getD (groupBehind conventions.marker file.filename before) := by
  obtain ⟨i, hi, asked⟩ := List.mem_filterMap.mp (mem_of_mem_firsts Test.name h)
  obtain ⟨name, named, rfl⟩ := Option.map_eq_some_iff.mp asked
  obtain ⟨file, hf, before, site, later, split, read, following, current⟩ :=
    mem_instructionsOf.mp hi
  obtain ⟨makes, target⟩ : i.directive.makesTest i.following = true ∧
      i.directive.target? i.following = some name := by
    simpa [Instruction.test?, ite_eq_iff] using named
  refine ⟨file, hf, before, site, later, i.directive, split, read, following ▸ makes,
    following ▸ target, rfl, ?_⟩
  rw [← current]
  rfl

/-- The tests that are collected are the first ones of their names. A registry has the groups that
are mentioned, in the order of their first mention, and each group has the tests that were added to
it, in the order in which they were added. Each of them is in the group that its directive gives, or
else in the one that the last group directive before it in the same file names, or else in the one
that is named for the file; no other site changes the group that tests are in. -/
theorem groups_of_buildRegistry {conventions : Conventions} {files : List Scan}
    {registry : Registry} (built : (buildRegistry conventions files).1 = .ok registry) :
    (Collection.empty.addFiles conventions files).1.tests =
        acceptedTests conventions (instructionsOf conventions.marker files) ∧
      registry.groups.map Group.name =
        mentionedGroups (instructionsOf conventions.marker files) ∧
      (∀ group ∈ registry.groups,
        group.tests.map (fun test => (test.name, test.place)) =
          ((acceptedTests conventions (instructionsOf conventions.marker files)).filter
            fun test => test.group = group.name).map fun test => (test.name, test.place)) ∧
      (∀ test ∈ acceptedTests conventions (instructionsOf conventions.marker files),
        ∃ file ∈ files, ∃ before site later d, file.sites = before ++ site :: later ∧
          site.comment.directive conventions.marker = .ok d ∧
          d.makesTest site.following = true ∧ d.target? site.following = some test.name ∧
          test.place = d.place ∧
          test.group =
            d.attributes.group.getD (groupBehind conventions.marker file.filename before) ∧
          ∃ group ∈ registry.groups, group.name = test.group ∧
            (test.name, test.place) ∈ group.tests.map fun member => (member.name, member.place)) ∧
      (∀ filename before site, site.comment.group? conventions.marker = none →
        groupBehind conventions.marker filename (before ++ [site]) =
          groupBehind conventions.marker filename before) := by
  obtain ⟨legible, rfl⟩ := buildRegistry_eq_ok_iff.mp built
  have groups := Collection.groups_registry_ofItems conventions
    (itemsOf conventions.marker files)
  have names : (Collection.ofItems conventions
      (itemsOf conventions.marker files)).registry.groups.map Group.name =
        mentionedGroups (instructionsOf conventions.marker files) := by
    rw [groups, mentionedGroups, List.map_map]
    rfl
  have members : ∀ group ∈ (Collection.ofItems conventions
      (itemsOf conventions.marker files)).registry.groups,
      group.tests.map (fun test => (test.name, test.place)) =
        ((acceptedTests conventions (instructionsOf conventions.marker files)).filter
          fun test => test.group = group.name).map fun test => (test.name, test.place) := by
    intro group hg
    rw [groups] at hg
    obtain ⟨mention, -, rfl⟩ := List.mem_map.mp hg
    simp only [List.map_map]
    rfl
  refine ⟨?_, names, members, ?_,
    fun filename before site h => groupBehind_of_no_group h filename before⟩
  · rw [Collection.addFiles_of_legible legible]
    exact Collection.tests_ofItems conventions (itemsOf conventions.marker files)
  · intro test accepted
    obtain ⟨file, hf, before, site, later, d, split, read, makes, target, place, home⟩ :=
      exists_site_of_mem_acceptedTests accepted
    -- the group of the test is mentioned by its directive at the latest
    have mentioned := group_mem_mentionedGroups test accepted
    rw [← names] at mentioned
    obtain ⟨group, hg, same⟩ := List.mem_map.mp mentioned
    refine ⟨file, hf, before, site, later, d, split, read, makes, target, place, home, group, hg,
      same, ?_⟩
    rw [members group hg]
    exact List.mem_map.mpr ⟨test, List.mem_filter.mpr ⟨accepted, by simp [same]⟩, rfl⟩

theorem groups_of_ioFile_diskFile :
    ∃ registry, (buildRegistry .standard [ioFile, diskFile]).1 = .ok registry ∧
      registry.groups.map Group.name = ["io", "disk"] ∧
      ∀ group ∈ registry.groups,
        group.tests.map (fun test => (test.name, test.place)) =
          ((acceptedTests .standard (instructionsOf "cmocka" [ioFile, diskFile])).filter
            fun test => test.group = group.name).map fun test => (test.name, test.place) := by
  have built := buildRegistry_eq_ok_iff.mpr ⟨legible_ioFile_diskFile, rfl⟩
  obtain ⟨-, names, members, -⟩ := groups_of_buildRegistry built
  have mentioned : mentionedGroups (instructionsOf "cmocka" [ioFile, diskFile]) =
      ["io", "disk"] := by
    decide +kernel
  exact ⟨_, built, names.trans mentioned, members⟩

end AnnotatedTests
