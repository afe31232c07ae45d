import AnnotatedTests.Proofs.Step

/-! What a run over items collects, part by part. Each part is determined by the items alone; the
tests are the first ones of their names. -/
namespace AnnotatedTests
attribute [local irreducible] Comment.directive

def instructionsAmong (items : List Item) : List Instruction :=
  items.filterMap Item.instruction?

def instructionsOf (marker : String) (files : List Scan) : List Instruction :=
  instructionsAmong (itemsOf marker files)

def testNames (instructions : List Instruction) : List String :=
  instructions.filterMap Instruction.test?

/-- The tests that instructions ask for, under names that may repeat. -/
def requestedTests (conventions : Conventions) (instructions : List Instruction) : List Test :=
  instructions.filterMap fun i => i.test?.map (i.asTest conventions)

/-- The tests that instructions add: the first one of each name. -/
def acceptedTests (conventions : Conventions) (instructions : List Instruction) : List Test :=
  firsts Test.name (requestedTests conventions instructions)

theorem instructionsAmong_append (items more : List Item) :
    instructionsAmong (items ++ more) = instructionsAmong items ++ instructionsAmong more := by
  rw [instructionsAmong, List.filterMap_append]
  rfl

theorem instructionsAmong_concat (items : List Item) (item : Item) :
    instructionsAmong (items ++ [item]) =
      instructionsAmong items ++ item.instruction?.toList := by
  rw [instructionsAmong_append]
  cases h : item.instruction? <;> simp [instructionsAmong, h]

/-- An instruction of some files is the directive of one of their sites, where tests are in the
group that the sites before it in the same file determine. -/
theorem mem_instructionsOf {marker : String} {files : List Scan} {i : Instruction} :
    i ∈ instructionsOf marker files ↔
      ∃ file ∈ files, ∃ before site later, file.sites = before ++ site :: later ∧
        site.comment.directive marker = .ok i.directive ∧ i.following = site.following ∧
        i.current = groupBehind marker file.filename before := by
  have ofSite (current : String) (site : Site) :
      ((site.item? marker current).bind Item.instruction? = some i) ↔
        site.comment.directive marker = .ok i.directive ∧ i.following = site.following ∧
          i.current = current := by
    cases hd : site.comment.directive marker with
    | ok d =>
      simp only [Site.item?, hd, Option.bind_some, Item.instruction?, Option.some.injEq,
        Except.ok.injEq]
      constructor
      · rintro rfl
        exact ⟨rfl, rfl, rfl⟩
      · intro parts
        obtain ⟨rfl, following, rfl⟩ := parts
        rw [← following]
    | error failure => cases failure <;> simp [Site.item?, hd, Item.instruction?]
  simp only [instructionsOf, instructionsAmong, itemsOf, List.mem_filterMap, List.mem_flatMap]
  constructor
  · -- of the items of a file, only those of its sites are instructions
    intro collected
    obtain ⟨item, ⟨file, hf, hi⟩, instruction⟩ := collected
    simp only [Scan.items, List.mem_append, List.mem_cons, List.mem_map, List.mem_filterMap] at hi
    rcases hi with (rfl | ⟨d, -, rfl⟩) | ⟨⟨before, site⟩, hp, hs⟩
    · simp [Item.instruction?] at instruction
    · simp [Item.instruction?] at instruction
    · obtain ⟨later, split⟩ := mem_withPrior.mp hp
      refine ⟨file, hf, before, site, later, split, (ofSite _ site).mp ?_⟩
      simp [hs, instruction]
  · intro site
    obtain ⟨file, hf, before, site, later, split, read⟩ := site
    obtain ⟨item, hs, instruction⟩ := Option.bind_eq_some_iff.mp ((ofSite _ site).mpr read)
    refine ⟨item, ⟨file, hf, ?_⟩, instruction⟩
    rw [Scan.items, List.mem_append]
    exact Or.inr (List.mem_filterMap.mpr ⟨(before, site), mem_withPrior.mpr ⟨later, split⟩, hs⟩)

/-- What a site asks for: its directive, with the declaration that follows it. -/
def Site.request? (marker : String) (site : Site) : Option (Directive × Option Declaration) :=
  match site.comment.directive marker with
  | .ok d => some (d, site.following)
  | .error _ => none

/-- Apart from the groups that tests are in, the instructions of some files are what their sites
ask for, in the same order. -/
theorem map_request_instructionsOf (marker : String) (files : List Scan) :
    (instructionsOf marker files).map (fun i => (i.directive, i.following)) =
      (files.flatMap Scan.sites).filterMap (Site.request? marker) := by
  have ofSite (current : String) (site : Site) :
      ((site.item? marker current).bind fun item =>
        item.instruction?.map fun i => (i.directive, i.following)) = site.request? marker := by
    cases read : site.comment.directive marker with
    | ok d => simp [Site.item?, Site.request?, read, Item.instruction?]
    | error failure => cases failure <;> simp [Site.item?, Site.request?, read, Item.instruction?]
  rw [instructionsOf, instructionsAmong, itemsOf, List.map_filterMap, List.filterMap_flatMap,
    List.filterMap_flatMap]
  apply List.flatMap_congr
  intro file _
  have read := file.filterMap_items fun current site _ => ofSite current site
  simpa [Item.instruction?] using read

/-- What is read off the directives of instructions can be read off the sites of their files. -/
theorem filterMap_instructionsOf {β : Type} (marker : String) (files : List Scan)
    (f : Directive × Option Declaration → Option β) :
    (instructionsOf marker files).filterMap (fun i => f (i.directive, i.following)) =
      (files.flatMap Scan.sites).filterMap fun site => (site.request? marker).bind f := by
  rw [← List.filterMap_filterMap, ← map_request_instructionsOf, List.filterMap_map]
  rfl

theorem testNames_concat (instructions : List Instruction) (i : Instruction) :
    testNames (instructions ++ [i]) = testNames instructions ++ i.test?.toList := by
  cases h : i.test? <;> simp [testNames, h]

theorem map_name_requestedTests (conventions : Conventions) (instructions : List Instruction) :
    (requestedTests conventions instructions).map Test.name = testNames instructions := by
  rw [requestedTests, testNames, List.map_filterMap]
  congr 1
  funext i
  cases i.test? <;> rfl

/-- A name is in use as soon as one instruction has asked for a test of it. -/
theorem mem_map_name_acceptedTests {conventions : Conventions} {instructions : List Instruction}
    {name : String} :
    name ∈ (acceptedTests conventions instructions).map Test.name ↔
      name ∈ testNames instructions := by
  rw [acceptedTests, mem_map_firsts, map_name_requestedTests]

theorem acceptedTests_concat (conventions : Conventions) (instructions : List Instruction)
    (i : Instruction) :
    acceptedTests conventions (instructions ++ [i]) =
      acceptedTests conventions instructions ++
        ((i.accepted? (testNames instructions)).map (i.asTest conventions)).toList := by
  cases test : i.test? with
  | none =>
    simp [acceptedTests, requestedTests, test, Instruction.accepted?]
  | some name =>
    have last : requestedTests conventions (instructions ++ [i]) =
        requestedTests conventions instructions ++ [i.asTest conventions name] := by
      simp [requestedTests, test]
    have named : (i.asTest conventions name).name = name := rfl
    rw [acceptedTests, last, firsts_concat, map_name_requestedTests, named,
      Instruction.accepted?_of_test test]
    by_cases used : name ∈ testNames instructions
    · simp [used, acceptedTests]
    · simp [used, acceptedTests]

/-- An instruction depends on the names in use only through which ones they are. -/
theorem Instruction.accepted?_congr {taken others : List String}
    (h : ∀ name, name ∈ taken ↔ name ∈ others) (i : Instruction) :
    i.accepted? taken = i.accepted? others := by
  simp [Instruction.accepted?, h]

theorem Instruction.references_congr {taken others : List String}
    (h : ∀ name, name ∈ taken ↔ name ∈ others) (i : Instruction) :
    i.references taken = i.references others := by
  simp [Instruction.references, i.accepted?_congr h]

theorem Instruction.visit?_congr {taken others : List String}
    (h : ∀ name, name ∈ taken ↔ name ∈ others) (i : Instruction) :
    i.visit? taken = i.visit? others := by
  simp [Instruction.visit?, i.accepted?_congr h]

namespace Collection

/-- The tests of a run are the first ones of their names. -/
theorem tests_ofItems (conventions : Conventions) (items : List Item) :
    (ofItems conventions items).tests = acceptedTests conventions (instructionsAmong items) := by
  induction items using List.reverseRecOn with
  | nil => rfl
  | append_singleton items item ih =>
    -- the tests so far bear the names asked for so far, so both sides judge the item alike
    have used : ∀ name, name ∈ (ofItems conventions items).taken ↔
        name ∈ testNames (instructionsAmong items) := by
      intro name
      rw [taken, ih, mem_map_name_acceptedTests]
    rw [ofItems_concat, note_eq, instructionsAmong_concat]
    cases instruction : item.instruction? with
    | none => simp [Item.test?, instruction, ih]
    | some i =>
      rw [Option.toList_some, acceptedTests_concat, ← i.accepted?_congr used]
      simp [Item.test?, instruction, ih]

theorem mem_taken_ofItems (conventions : Conventions) (items : List Item) (name : String) :
    name ∈ (ofItems conventions items).taken ↔ name ∈ testNames (instructionsAmong items) := by
  rw [taken, tests_ofItems, mem_map_name_acceptedTests]

theorem files_ofItems (conventions : Conventions) (items : List Item) :
    (ofItems conventions items).files = items.filterMap Item.file? := by
  induction items using List.reverseRecOn with
  | nil => rfl
  | append_singleton items item ih =>
    rw [ofItems_concat, note_eq, ih, List.filterMap_append]
    cases h : item.file? <;> simp [h]

theorem symbols_ofItems (conventions : Conventions) (items : List Item) :
    (ofItems conventions items).symbols =
      (items.filterMap Item.declaration?).foldl SymbolTable.declare [] := by
  induction items using List.reverseRecOn with
  | nil => rfl
  | append_singleton items item ih =>
    rw [ofItems_concat, note_eq, ih, List.filterMap_append, List.foldl_append]
    cases h : item.declaration? <;> simp [h]

/-- The references of a run, in the order of the instructions that make them. -/
theorem references_ofItems (conventions : Conventions) (items : List Item) :
    (ofItems conventions items).references =
      (withPrior (instructionsAmong items)).flatMap fun p => p.2.references (testNames p.1) := by
  induction items using List.reverseRecOn with
  | nil => rfl
  | append_singleton items item ih =>
    rw [ofItems_concat, note_eq, instructionsAmong_concat, ih]
    cases instruction : item.instruction? with
    | none => simp [Item.references, instruction]
    | some i =>
      simp [Item.references, instruction, i.references_congr (mem_taken_ofItems conventions items)]

theorem problems_ofItems (conventions : Conventions) (items : List Item) :
    (ofItems conventions items).problems =
      (withPrior items).filterMap fun p =>
        p.2.problem? (acceptedTests conventions (instructionsAmong p.1)) := by
  induction items using List.reverseRecOn with
  | nil => rfl
  | append_singleton items item ih =>
    rw [ofItems_concat, note_eq, ih, withPrior_concat, List.filterMap_append, tests_ofItems]
    cases h : item.problem? (acceptedTests conventions (instructionsAmong items)) <;> simp [h]

end Collection

end AnnotatedTests
