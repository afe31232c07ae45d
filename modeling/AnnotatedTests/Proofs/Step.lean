import AnnotatedTests.Proofs.Items

/-! What recording one item changes. Each part of a collection grows by what the item adds to it,
and the only thing an item is compared with is the list of tests so far. -/
namespace AnnotatedTests
attribute [local irreducible] Comment.directive

/-- Whether a directive is about a function and there is none: it names none and none follows it.
A bare directive without attributes can only be about the one that follows. -/
def Directive.lacksTarget (d : Directive) (following : Option Declaration) : Bool :=
  match d.kind with
  | .group => false
  | .bare => if d.attributes = .empty then following.isNone else (d.target? following).isNone
  | _ => (d.target? following).isNone

def Attributes.fixture? (attributes : Attributes) : Slot → Option String
  | .setup => attributes.setup
  | .teardown => attributes.teardown

def Attributes.references (attributes : Attributes) (usage : Slot → Usage) (place : Place) :
    List Reference :=
  [Slot.setup, .teardown].filterMap fun slot =>
    (attributes.fixture? slot).map fun name => ⟨name, usage slot, place⟩

namespace Instruction

def test? (i : Instruction) : Option String :=
  if i.directive.makesTest i.following then i.directive.target? i.following else none

/-- The name of the test that an instruction adds where the names `taken` are in use. -/
def accepted? (taken : List String) (i : Instruction) : Option String :=
  i.test?.filter fun name => name ∉ taken

def destination (i : Instruction) : String :=
  i.directive.attributes.group.getD i.current

def asTest (conventions : Conventions) (i : Instruction) (name : String) : Test :=
  { name, group := i.destination, symbol := name
    setup := i.directive.attributes.setup
    teardown := i.directive.attributes.teardown
    disabled := i.directive.attributes.disabled.getD false
    timeout := (i.directive.attributes.timeout.map fun n => (n : Int)).getD
      conventions.defaultTimeout
    place := i.directive.place }

/-- The references that an instruction makes where the names `taken` are in use. -/
def references (taken : List String) (i : Instruction) : List Reference :=
  match i.directive.kind with
  | .group =>
    i.directive.attributes.references (.groupFixture · (i.directive.name.getD "")) i.directive.place
  | .setup => (i.directive.target? i.following).toList.map
      fun name => ⟨name, .fixture .setup, i.directive.place⟩
  | .teardown => (i.directive.target? i.following).toList.map
      fun name => ⟨name, .fixture .teardown, i.directive.place⟩
  | _ => (i.accepted? taken).toList.flatMap fun name =>
      ⟨name, .test, i.directive.place⟩ ::
        i.directive.attributes.references (.testFixture · name) i.directive.place

def cause? (tests : List Test) (i : Instruction) : Option Cause :=
  if i.directive.lacksTarget i.following then some .orphan
  else i.test?.bind fun name =>
    (tests.find? fun test => test.name == name).map fun previous =>
      .duplicateTest name previous.place

/-- The group that an instruction mentions, and what it does to the draft of it. -/
def visit? (taken : List String) (i : Instruction) : Option (String × (Draft → Draft)) :=
  if i.directive.kind = .group then
    some (i.directive.name.getD "", fun draft =>
      { draft with
        setup := i.directive.attributes.setup <|> draft.setup
        teardown := i.directive.attributes.teardown <|> draft.teardown })
  else (i.accepted? taken).map fun name =>
    (i.destination, fun draft => { draft with tests := draft.tests ++ [name] })

end Instruction

/-- Drafts in which that of a group is changed; a group without one gets one first. -/
def visitDrafts (drafts : List Draft) (name : String) (place : Place) (f : Draft → Draft) :
    List Draft :=
  (if drafts.any fun draft => draft.name == name then drafts
    else drafts ++ [⟨name, place, none, none, []⟩]).map
      fun draft => if draft.name = name then f draft else draft

namespace Item

def file? : Item → Option String
  | .file name => some name
  | _ => none

def declaration? : Item → Option Declaration
  | .definition d => some d
  | .instruction i => i.following
  | _ => none

def test? (conventions : Conventions) (taken : List String) (item : Item) : Option Test :=
  item.instruction?.bind fun i => (i.accepted? taken).map (i.asTest conventions)

def references (taken : List String) (item : Item) : List Reference :=
  item.instruction?.toList.flatMap (Instruction.references taken)

def problem? (tests : List Test) : Item → Option Problem
  | .malformed why place => some ⟨.malformed why, place⟩
  | .instruction i => (i.cause? tests).map fun cause => ⟨cause, i.directive.place⟩
  | _ => none

def event? (symbols : SymbolTable) (item : Item) : Option Event :=
  item.declaration?.bind symbols.repeated?

def drafts (taken : List String) (before : List Draft) (item : Item) : List Draft :=
  match item.instruction? with
  | none => before
  | some i =>
    match i.visit? taken with
    | none => before
    | some (name, f) => visitDrafts before name i.directive.place f

end Item

namespace Collection

def taken (c : Collection) : List String := c.tests.map Test.name

theorem mention_changeDraft (c : Collection) (name : String) (place : Place) (f : Draft → Draft) :
    (c.mention name place).changeDraft name f =
      { c with drafts := visitDrafts c.drafts name place f } := by
  unfold mention changeDraft visitDrafts
  split <;> rfl

/-- Fixtures that are named are referred to, setup first. -/
theorem referIf_referIf (c : Collection) (attributes : Attributes) (usage : Slot → Usage)
    (place : Place) :
    (c.referIf attributes.setup (usage .setup) place).referIf attributes.teardown
        (usage .teardown) place =
      { c with references := c.references ++ attributes.references usage place } := by
  cases hs : attributes.setup <;> cases ht : attributes.teardown <;>
    simp [referIf, refer, Attributes.references, Attributes.fixture?, hs, ht]

theorem defineGroup_eq (c : Collection) (d : Directive) (name : String) :
    c.defineGroup d name =
      { c with
        drafts := visitDrafts c.drafts name d.place fun draft =>
          { draft with
            setup := d.attributes.setup <|> draft.setup
            teardown := d.attributes.teardown <|> draft.teardown }
        references := c.references ++
          d.attributes.references (.groupFixture · name) d.place } := by
  rw [defineGroup, mention_changeDraft]
  exact referIf_referIf _ d.attributes (.groupFixture · name) d.place

/-- A test of a name that is in use is reported and changes nothing else. -/
theorem addTest_of_taken {c : Collection} {name : String} {previous : Test}
    (h : c.tests.find? (fun test => test.name == name) = some previous)
    (conventions : Conventions) (d : Directive) (current : String) :
    c.addTest conventions d current name =
      c.report (.duplicateTest name previous.place) d.place := by
  simp [addTest, h]

/-- A test of a new name joins the tests and the draft of its group, and refers to its function
and to its own fixtures. -/
theorem addTest_of_new {c : Collection} {name : String}
    (h : c.tests.find? (fun test => test.name == name) = none)
    (conventions : Conventions) (i : Instruction) :
    c.addTest conventions i.directive i.current name =
      { c with
        tests := c.tests ++ [i.asTest conventions name]
        drafts := visitDrafts c.drafts i.destination i.directive.place fun draft =>
          { draft with tests := draft.tests ++ [name] }
        references := c.references ++ ⟨name, .test, i.directive.place⟩ ::
          i.directive.attributes.references (.testFixture · name) i.directive.place } := by
  -- the test's own reference comes first, then those to its fixtures
  have fixtures := referIf_referIf
    (({ c with
        tests := c.tests ++ [i.asTest conventions name]
        drafts := visitDrafts c.drafts i.destination i.directive.place fun draft =>
          { draft with tests := draft.tests ++ [name] } } : Collection).refer name .test
      i.directive.place)
    i.directive.attributes (.testFixture · name) i.directive.place
  simp only [addTest, h, mention_changeDraft]
  refine fixtures.trans ?_
  simp [refer]

theorem find_test_eq_none {tests : List Test} {name : String} :
    tests.find? (fun test => test.name == name) = none ↔ name ∉ tests.map Test.name := by
  simp [List.find?_eq_none]

end Collection

namespace Instruction

theorem accepted?_of_test {i : Instruction} {name : String} (h : i.test? = some name)
    (taken : List String) :
    i.accepted? taken = if name ∈ taken then none else some name := by
  by_cases hn : name ∈ taken <;> simp [accepted?, h, hn]

theorem kind_of_makesTest {i : Instruction} (makes : i.directive.makesTest i.following = true) :
    i.directive.kind = .test ∨ i.directive.kind = .bare := by
  cases kind : i.directive.kind <;> simp [Directive.makesTest, kind] at makes ⊢

/-- A test that is added is referred to first, and then its own fixtures are. -/
theorem references_of_makesTest {i : Instruction}
    (makes : i.directive.makesTest i.following = true) (taken : List String) :
    i.references taken = (i.accepted? taken).toList.flatMap fun name =>
      ⟨name, .test, i.directive.place⟩ ::
        i.directive.attributes.references (.testFixture · name) i.directive.place := by
  rcases kind_of_makesTest makes with kind | kind <;> simp [references, kind]

/-- A directive that makes a test lacks a function just when it has no target. -/
theorem lacksTarget_of_makesTest {i : Instruction}
    (h : i.directive.makesTest i.following = true) :
    i.directive.lacksTarget i.following = (i.directive.target? i.following).isNone := by
  unfold Directive.lacksTarget
  unfold Directive.makesTest at h
  split
  · simp_all
  · split
    · next plain =>
      -- without attributes only a following test function makes a test, and that is its target
      obtain ⟨f, hf, -⟩ : ∃ f, i.following = some f ∧ f.fits .test = true := by
        simpa [*, Option.any_eq_true] using h
      simp [Directive.target?, hf]
    · rfl
  · rfl

end Instruction

namespace Collection

/-- An instruction that makes a test adds it under a new name, and is reported if it lacks a target
or repeats a name. -/
theorem withTarget_addTest (c : Collection) (conventions : Conventions) {i : Instruction}
    (makes : i.directive.makesTest i.following = true) :
    (c.withTarget i.directive i.following fun name =>
        c.addTest conventions i.directive i.current name) =
      { c with
        tests := c.tests ++ ((i.accepted? c.taken).map (i.asTest conventions)).toList
        drafts := (Item.instruction i).drafts c.taken c.drafts
        references := c.references ++ i.references c.taken
        problems := c.problems ++
          ((i.cause? c.tests).map fun cause => ⟨cause, i.directive.place⟩).toList } := by
  have lacks := Instruction.lacksTarget_of_makesTest makes
  have test : i.test? = i.directive.target? i.following := by
    simp [Instruction.test?, makes]
  have notGroup : i.directive.kind ≠ .group := by
    rcases Instruction.kind_of_makesTest makes with kind | kind <;> simp [kind]
  have visits : i.visit? c.taken = (i.accepted? c.taken).map fun name =>
      (i.destination, fun draft => { draft with tests := draft.tests ++ [name] }) := by
    simp [Instruction.visit?, notGroup]
  have refers := Instruction.references_of_makesTest makes c.taken
  cases target : i.directive.target? i.following with
  | none =>
    rw [target] at lacks test
    have none_accepted : i.accepted? c.taken = none := by simp [Instruction.accepted?, test]
    simp [withTarget, target, report, Instruction.cause?, lacks, Item.drafts, Item.instruction?,
      visits, refers, none_accepted]
  | some name =>
    rw [target] at lacks test
    -- whether the name is in use decides both whether the test is added and whether it is reported
    have accepted := Instruction.accepted?_of_test test c.taken
    simp only [withTarget, target]
    cases found : c.tests.find? fun test => test.name == name with
    | none =>
      have fresh : name ∉ c.taken := find_test_eq_none.mp found
      rw [if_neg fresh] at accepted
      simp [addTest_of_new found, Instruction.cause?, lacks, test, found, Item.drafts,
        Item.instruction?, visits, refers, accepted]
    | some previous =>
      have used : name ∈ c.taken := by
        by_contra fresh
        rw [find_test_eq_none.mpr fresh] at found
        simp at found
      rw [if_pos used] at accepted
      simp [addTest_of_taken found, report, Instruction.cause?, lacks, test, found, Item.drafts,
        Item.instruction?, visits, refers, accepted]

theorem follow_eq (c : Collection) (conventions : Conventions) (i : Instruction) :
    c.follow conventions i.current i.directive i.following =
      { c with
        tests := c.tests ++ ((i.accepted? c.taken).map (i.asTest conventions)).toList
        drafts := (Item.instruction i).drafts c.taken c.drafts
        references := c.references ++ i.references c.taken
        problems := c.problems ++
          ((i.cause? c.tests).map fun cause => ⟨cause, i.directive.place⟩).toList } := by
  unfold follow
  cases kind : i.directive.kind with
  | group =>
    have noTest : i.test? = none := by simp [Instruction.test?, Directive.makesTest, kind]
    simp [defineGroup_eq, Instruction.accepted?, noTest, Item.drafts, Item.instruction?,
      Instruction.visit?, kind, Instruction.references, Instruction.cause?, Directive.lacksTarget]
  | setup =>
    have noTest : i.test? = none := by simp [Instruction.test?, Directive.makesTest, kind]
    cases target : i.directive.target? i.following <;>
      simp [withTarget, target, refer, report, Instruction.accepted?, noTest, Item.drafts,
        Item.instruction?, Instruction.visit?, kind, Instruction.references, Instruction.cause?,
        Directive.lacksTarget]
  | teardown =>
    have noTest : i.test? = none := by simp [Instruction.test?, Directive.makesTest, kind]
    cases target : i.directive.target? i.following <;>
      simp [withTarget, target, refer, report, Instruction.accepted?, noTest, Item.drafts,
        Item.instruction?, Instruction.visit?, kind, Instruction.references, Instruction.cause?,
        Directive.lacksTarget]
  | test =>
    have makes : i.directive.makesTest i.following = true := by
      simp [Directive.makesTest, kind]
    rw [if_pos makes]
    exact withTarget_addTest c conventions makes
  | bare =>
    by_cases makes : i.directive.makesTest i.following = true
    · rw [if_pos makes]
      exact withTarget_addTest c conventions makes
    · rw [if_neg makes]
      -- a bare directive that makes no test has no attributes and only declares what follows it
      have noTest : i.test? = none := by simp [Instruction.test?, makes]
      have plain : i.directive.attributes = .empty := by
        by_contra attributes
        exact makes (by simp [Directive.makesTest, kind, attributes])
      cases following : i.following <;>
        simp [report, Instruction.accepted?, noTest, Item.drafts, Item.instruction?,
          Instruction.visit?, kind, Instruction.references, Instruction.cause?,
          Directive.lacksTarget, plain, following]

/-- All that recording an item changes: each part grows by what the item adds to it. -/
theorem note_eq (c : Collection) (conventions : Conventions) (item : Item) :
    c.note conventions item =
      { files := c.files ++ item.file?.toList
        drafts := item.drafts c.taken c.drafts
        tests := c.tests ++ (item.test? conventions c.taken).toList
        symbols := item.declaration?.toList.foldl SymbolTable.declare c.symbols
        references := c.references ++ item.references c.taken
        problems := c.problems ++ (item.problem? c.tests).toList
        events := c.events ++ (item.event? c.symbols).toList } := by
  cases item with
  | file name =>
    simp [note, Item.file?, Item.drafts, Item.instruction?, Item.test?, Item.declaration?,
      Item.references, Item.problem?, Item.event?]
  | definition d =>
    simp [note, declare, Item.file?, Item.drafts, Item.instruction?, Item.test?,
      Item.declaration?, Item.references, Item.problem?, Item.event?]
  | malformed why place =>
    simp [note, report, Item.file?, Item.drafts, Item.instruction?, Item.test?,
      Item.declaration?, Item.references, Item.problem?, Item.event?]
  | instruction i =>
    rw [note, follow_eq]
    cases following : i.following <;>
      simp [declareIf, declare, taken, Item.file?, Item.drafts, Item.instruction?, Item.test?,
        Item.declaration?, Item.references, Item.problem?, Item.event?, following]

end Collection

end AnnotatedTests
