import AnnotatedTests.Proofs.Run

/-! The drafts of a run, and the groups that they become: they stand in the order in which they are
first mentioned, and each holds the last fixtures that it is given and the tests that say they are
in it. -/
namespace AnnotatedTests
attribute [local irreducible] Comment.directive

/-- The groups that instructions mention, each with the place of the mention. A group directive
mentions the group that it names, and a test that is added the group that it is added to. -/
def mentions (instructions : List Instruction) : List (String × Place) :=
  (withPrior instructions).filterMap fun p =>
    (p.2.visit? (testNames p.1)).map fun visit => (visit.1, p.2.directive.place)

/-- The fixture that an instruction gives to a group for a slot, if it is a directive for that
group. -/
def Instruction.groupFixture? (group : String) (slot : Slot) (i : Instruction) : Option String :=
  if i.directive.kind = .group ∧ i.directive.name.getD "" = group then
    i.directive.attributes.fixture? slot
  else none

/-- The fixture of a group for a slot: the last one that an instruction gives it. -/
def groupFixture? (instructions : List Instruction) (group : String) (slot : Slot) :
    Option String :=
  (instructions.filterMap (Instruction.groupFixture? group slot)).getLast?

/-- The draft of a group that is first mentioned at a place. -/
def draftOf (conventions : Conventions) (instructions : List Instruction)
    (mention : String × Place) : Draft :=
  { name := mention.1
    place := mention.2
    setup := groupFixture? instructions mention.1 .setup
    teardown := groupFixture? instructions mention.1 .teardown
    tests := ((acceptedTests conventions instructions).filter fun test =>
      test.group = mention.1).map Test.name }

/-- The names of the tests that say they are in a group. -/
def members (tests : List Test) (group : String) : List String :=
  (tests.filter fun test => test.group = group).map Test.name

def Draft.complete (draft : Draft) (test : Test) : Test :=
  { test with
    setup := test.setup <|> draft.setup
    teardown := test.teardown <|> draft.teardown }

/-- The groups that are mentioned, in the order of their first mention. -/
def mentionedGroups (instructions : List Instruction) : List String :=
  (firsts Prod.fst (mentions instructions)).map Prod.fst

theorem mentions_concat (instructions : List Instruction) (i : Instruction) :
    mentions (instructions ++ [i]) = mentions instructions ++
      ((i.visit? (testNames instructions)).map fun visit =>
        (visit.1, i.directive.place)).toList := by
  cases h : i.visit? (testNames instructions) <;> simp [mentions, h]

theorem groupFixture?_concat (instructions : List Instruction) (i : Instruction) (group : String)
    (slot : Slot) :
    groupFixture? (instructions ++ [i]) group slot =
      (i.groupFixture? group slot <|> groupFixture? instructions group slot) := by
  cases h : i.groupFixture? group slot <;> simp [groupFixture?, h]

theorem Instruction.kind_ne_group_of_test {i : Instruction} {name : String}
    (h : i.test? = some name) : i.directive.kind ≠ .group := by
  intro kind
  simp [Instruction.test?, Directive.makesTest, kind] at h

theorem group_mem_mentions {conventions : Conventions} {instructions : List Instruction}
    {test : Test} (h : test ∈ acceptedTests conventions instructions) :
    test.group ∈ (mentions instructions).map Prod.fst := by
  induction instructions using List.reverseRecOn with
  | nil => simp [acceptedTests, requestedTests] at h
  | append_singleton instructions i ih =>
    rw [acceptedTests_concat, List.mem_append] at h
    rw [mentions_concat, List.map_append, List.mem_append]
    rcases h with earlier | new
    · exact Or.inl (ih earlier)
    · obtain ⟨name, accepted, rfl⟩ : ∃ name, i.accepted? (testNames instructions) = some name ∧
          i.asTest conventions name = test := by
        simpa using new
      have asks : i.test? = some name := (Option.filter_eq_some_iff.mp accepted).1
      refine Or.inr ?_
      simp [Instruction.visit?, Instruction.kind_ne_group_of_test asks, accepted,
        Instruction.asTest]

/-- What one more instruction does to the draft of a group: only a visit to the group changes
it. -/
theorem draftOf_concat (conventions : Conventions) (instructions : List Instruction)
    (i : Instruction) (mention : String × Place) :
    draftOf conventions (instructions ++ [i]) mention =
      match i.visit? (testNames instructions) with
      | none => draftOf conventions instructions mention
      | some (group, f) =>
        if mention.1 = group then f (draftOf conventions instructions mention)
        else draftOf conventions instructions mention := by
  -- a group directive adds no test, and any other instruction gives a group no fixture
  by_cases kind : i.directive.kind = .group
  · have noTest : i.accepted? (testNames instructions) = none := by
      simp [Instruction.accepted?, Instruction.test?, Directive.makesTest, kind]
    rw [Instruction.visit?, if_pos kind]
    simp only [draftOf, acceptedTests_concat, noTest, groupFixture?_concat,
      Instruction.groupFixture?, kind, true_and]
    by_cases same : mention.1 = i.directive.name.getD ""
    · simp [same, Attributes.fixture?]
    · simp [same, Ne.symm same]
  · have noFixture (slot : Slot) : i.groupFixture? mention.1 slot = none := by
      simp [Instruction.groupFixture?, kind]
    rw [Instruction.visit?, if_neg kind]
    simp only [draftOf, acceptedTests_concat, groupFixture?_concat, noFixture]
    cases accepted : i.accepted? (testNames instructions) with
    | none => simp
    | some name =>
      have member : (i.asTest conventions name).group = i.destination := rfl
      by_cases same : mention.1 = i.destination
      · simp [same, Instruction.asTest]
      · simp [same, Ne.symm same, member]

/-- A group that is not mentioned has been given nothing. -/
theorem draftOf_of_not_mentioned {conventions : Conventions} {instructions : List Instruction}
    {group : String} (h : group ∉ (mentions instructions).map Prod.fst) (place : Place) :
    draftOf conventions instructions (group, place) = ⟨group, place, none, none, []⟩ := by
  induction instructions using List.reverseRecOn with
  | nil => rfl
  | append_singleton instructions i ih =>
    rw [mentions_concat, List.map_append, List.mem_append, not_or] at h
    obtain ⟨earlier, new⟩ := h
    rw [draftOf_concat, ih earlier]
    cases visit : i.visit? (testNames instructions) with
    | none => rfl
    | some v =>
      have other : group ≠ v.1 := by
        rintro rfl
        exact new (by simp [visit])
      simp [other]

/-- Visiting a group in the drafts of some instructions first gives it a draft if it has none; that
draft stands where the group's first mention does. -/
theorem visitDrafts_draftOf (conventions : Conventions) (instructions : List Instruction)
    (group : String) (place : Place) (f : Draft → Draft) :
    visitDrafts ((firsts Prod.fst (mentions instructions)).map (draftOf conventions instructions))
        group place f =
      (firsts Prod.fst (mentions instructions ++ [(group, place)])).map fun mention =>
        if mention.1 = group then f (draftOf conventions instructions mention)
        else draftOf conventions instructions mention := by
  -- a group has a draft as soon as it is mentioned
  have known : ((firsts Prod.fst (mentions instructions)).map
        (draftOf conventions instructions)).any (fun draft => draft.name == group) = true ↔
      group ∈ (mentions instructions).map Prod.fst := by
    rw [← mem_map_firsts]
    simp [draftOf]
  rw [visitDrafts, firsts_concat]
  by_cases mentioned : group ∈ (mentions instructions).map Prod.fst
  · rw [if_pos (known.mpr mentioned), if_pos mentioned, List.append_nil, List.map_map]
    rfl
  · rw [if_neg (fun h => mentioned (known.mp h)), if_neg mentioned,
      ← draftOf_of_not_mentioned mentioned place, List.map_append, List.map_append, List.map_map]
    rfl

/-- The drafts of a run are those of the groups that are mentioned, in the order of their first
mention. -/
theorem Collection.drafts_ofItems (conventions : Conventions) (items : List Item) :
    (ofItems conventions items).drafts =
      (firsts Prod.fst (mentions (instructionsAmong items))).map
        (draftOf conventions (instructionsAmong items)) := by
  induction items using List.reverseRecOn with
  | nil => rfl
  | append_singleton items item ih =>
    rw [ofItems_concat, note_eq, instructionsAmong_concat, ih]
    cases instruction : item.instruction? with
    | none => simp [Item.drafts, instruction]
    | some i =>
      have visits := i.visit?_congr (mem_taken_ofItems conventions items)
      -- the drafts after the item are those of one more mention, with the visited one changed
      simp only [Item.drafts, instruction, visits, Option.toList_some, mentions_concat]
      generalize instructionsAmong items = earlier
      cases visit : i.visit? (testNames earlier) with
      | none => simp [draftOf_concat, visit]
      | some v =>
        simp only [visitDrafts_draftOf, Option.map_some, Option.toList_some]
        apply List.map_congr_left
        intro mention _
        rw [draftOf_concat, visit]

theorem nodup_names_acceptedTests (conventions : Conventions) (instructions : List Instruction) :
    ((acceptedTests conventions instructions).map Test.name).Nodup :=
  nodup_map_firsts Test.name _

/-- Where keys do not repeat, a search by key finds the one element that has it. -/
theorem find?_eq_some_iff_of_nodup {α : Type} {key : α → String} {xs : List α}
    (unique : (xs.map key).Nodup) {k : String} {x : α} :
    xs.find? (fun y => key y == k) = some x ↔ x ∈ xs ∧ key x = k := by
  constructor
  · intro found
    exact ⟨List.mem_of_find?_eq_some found, by simpa using List.find?_some found⟩
  · intro found
    obtain ⟨hx, rfl⟩ := found
    cases found : xs.find? fun y => key y == key x with
    | none => simpa using List.find?_eq_none.mp found x hx
    | some y =>
      have same : key y = key x := by simpa using List.find?_some found
      rw [List.inj_on_of_nodup_map unique (List.mem_of_find?_eq_some found) hx same]

namespace Collection

/-- A draft that lists the tests of its group becomes the group of these tests, completed. -/
theorem tests_finish {c : Collection} {draft : Draft} (unique : (c.tests.map Test.name).Nodup)
    (listed : draft.tests = members c.tests draft.name) :
    (c.finish draft).tests =
      (c.tests.filter fun test => test.group = draft.name).map draft.complete := by
  have found (test : Test) (ht : test ∈ c.tests) :
      c.finished? draft test.name = some (draft.complete test) := by
    have search := (find?_eq_some_iff_of_nodup unique).mpr ⟨ht, rfl⟩
    simp [finished?, search, Draft.complete]
  rw [finish, listed, members, List.filterMap_map, ← List.filterMap_eq_map]
  apply List.filterMap_congr
  intro test ht
  exact found test (List.mem_filter.mp ht).1

/-- The groups of a registry, each with its tests completed by the fixtures of its draft. -/
theorem groups_registry_ofItems (conventions : Conventions) (items : List Item) :
    (ofItems conventions items).registry.groups =
      (firsts Prod.fst (mentions (instructionsAmong items))).map fun mention =>
        let draft := draftOf conventions (instructionsAmong items) mention
        { name := mention.1
          tests := ((acceptedTests conventions (instructionsAmong items)).filter fun test =>
            test.group = mention.1).map draft.complete
          setup := draft.setup
          teardown := draft.teardown
          place := mention.2 } := by
  have unique : ((ofItems conventions items).tests.map Test.name).Nodup := by
    rw [tests_ofItems]
    exact nodup_names_acceptedTests _ _
  rw [registry, drafts_ofItems, List.map_map]
  apply List.map_congr_left
  intro mention _
  have listed : (draftOf conventions (instructionsAmong items) mention).tests =
      members (ofItems conventions items).tests mention.1 := by
    rw [tests_ofItems]
    rfl
  have tests := tests_finish unique listed
  rw [tests_ofItems] at tests
  rw [Function.comp_apply, finish]
  congr 1

end Collection

end AnnotatedTests
