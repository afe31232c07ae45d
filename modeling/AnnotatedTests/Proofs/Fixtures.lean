import AnnotatedTests.Proofs.DirectiveForm
import AnnotatedTests.Proofs.Soundness

/-! The fixtures of groups and of tests. A group has, slot by slot, the last fixture that any group
directive gives it, and a test without a fixture of its own has that of its group: also where the
group is given it only after the test, or in a later file. -/
namespace AnnotatedTests
attribute [local irreducible] Comment.directive

def Group.fixture? (group : Group) : Slot → Option String
  | .setup => group.setup
  | .teardown => group.teardown

def Test.fixture? (test : Test) : Slot → Option String
  | .setup => test.setup
  | .teardown => test.teardown

/-- The fixture that a site gives to a group for a slot, if it holds a directive for that group
which names one. -/
def Site.groupFixture? (marker group : String) (slot : Slot) (site : Site) : Option String :=
  match site.comment.directive marker with
  | .ok d => if d.kind = .group ∧ d.name = some group then d.attributes.fixture? slot else none
  | .error _ => none

/-- A group directive that can be read names its group. -/
theorem exists_name_of_group {comment : Comment} {marker : String} {d : Directive}
    (read : comment.directive marker = .ok d) (kind : d.kind = .group) :
    ∃ group, d.name = some group := by
  obtain ⟨form, spells, rfl⟩ := exists_form_of_directive read
  exact Option.isSome_iff_exists.mp (spells.named kind)

/-- A directive that stays bare names no function. -/
theorem name_of_bare {comment : Comment} {marker : String} {d : Directive}
    (read : comment.directive marker = .ok d) (kind : d.kind = .bare) : d.name = none := by
  obtain ⟨form, spells, rfl⟩ := exists_form_of_directive read
  -- a kind that is stated is not bare, and a name would have made it a test
  change form.kind = .bare at kind
  unfold DirectiveForm.kind at kind
  cases stated : form.stated with
  | some stated' =>
    rw [stated, Option.getD_some] at kind
    exact absurd (spells.stated stated' stated) (by rw [kind]; decide)
  | none =>
    cases name : form.name with
    | none => exact name
    | some word => simp [stated, name] at kind

/-- A test that is added is asked for by an instruction, and no instruction before it has asked for
its name. -/
theorem exists_first_instruction {conventions : Conventions} {instructions : List Instruction}
    {test : Test} (h : test ∈ acceptedTests conventions instructions) :
    ∃ before i after, instructions = before ++ i :: after ∧ i.test? = some test.name ∧
      test.name ∉ testNames before ∧ test = i.asTest conventions test.name := by
  induction instructions using List.reverseRecOn with
  | nil => simp [acceptedTests, requestedTests] at h
  | append_singleton instructions last ih =>
    rw [acceptedTests_concat, List.mem_append] at h
    rcases h with earlier | new
    · obtain ⟨before, i, after, rfl, asks⟩ := ih earlier
      exact ⟨before, i, after ++ [last], by simp, asks⟩
    · obtain ⟨name, accepted, rfl⟩ : ∃ name, last.accepted? (testNames instructions) = some name ∧
          last.asTest conventions name = test := by
        simpa using new
      obtain ⟨asks, fresh⟩ := Option.filter_eq_some_iff.mp accepted
      exact ⟨instructions, last, [], rfl, asks, of_decide_eq_true fresh, rfl⟩

theorem eq_of_request? {marker : String} {site : Site} {d : Directive}
    {following : Option Declaration} (h : site.request? marker = some (d, following)) :
    site.comment.directive marker = .ok d ∧ site.following = following := by
  unfold Site.request? at h
  cases read : site.comment.directive marker with
  | ok d => simpa [read] using h
  | error failure => simp [read] at h

/-- An instruction that is the first to ask for a test of some name comes from the first site that
does. -/
theorem exists_first_site {marker : String} {files : List Scan} {before after : List Instruction}
    {i : Instruction} {name : String}
    (split : instructionsOf marker files = before ++ i :: after) (asks : i.test? = some name)
    (fresh : name ∉ testNames before) :
    ∃ prior site later, files.flatMap Scan.sites = prior ++ site :: later ∧
      site.comment.directive marker = .ok i.directive ∧ site.test? marker = some name ∧
      ∀ other ∈ prior, other.test? marker ≠ some name := by
  have requests := map_request_instructionsOf marker files
  rw [split, List.map_append, List.map_cons] at requests
  -- sites that ask for nothing can stand between those of `before` and the one that is sought
  obtain ⟨earlier, rest, sites, ofEarlier, ofRest⟩ := List.filterMap_eq_append_iff.mp requests.symm
  obtain ⟨silent, site, later, rfl, quiet, request, -⟩ := List.filterMap_eq_cons_iff.mp ofRest
  obtain ⟨read, following⟩ := eq_of_request? request
  refine ⟨earlier ++ silent, site, later, by simp [sites], read, ?_, ?_⟩
  · simpa [Site.test?, read, following, Instruction.test?] using asks
  · intro other ho named
    obtain ⟨d, reads, -⟩ := Site.test?_eq_some_iff.mp named
    have made : other.request? marker = some (d, other.following) := by
      simp [Site.request?, reads]
    have early : other ∈ earlier := by
      rcases List.mem_append.mp ho with early | late
      · exact early
      · rw [quiet other late] at made
        simp at made
    -- its instruction stands among those before and asks for the same name
    have among : (d, other.following) ∈ before.map fun i => (i.directive, i.following) := by
      rw [← ofEarlier]
      exact List.mem_filterMap.mpr ⟨other, early, made⟩
    obtain ⟨j, hj, same⟩ := List.mem_map.mp among
    obtain ⟨rfl, next⟩ := Prod.mk.inj same
    refine fresh (List.mem_filterMap.mpr ⟨j, hj, ?_⟩)
    simpa [Site.test?, (eq_of_request? made).1, ← next, Instruction.test?] using named

theorem fixture?_asTest (conventions : Conventions) (i : Instruction) (name : String)
    (slot : Slot) :
    (i.asTest conventions name).fixture? slot = i.directive.attributes.fixture? slot := by
  cases slot <;> rfl

theorem fixture?_complete (conventions : Conventions) (instructions : List Instruction)
    (mention : String × Place) (test : Test) (slot : Slot) :
    ((draftOf conventions instructions mention).complete test).fixture? slot =
      (test.fixture? slot <|> groupFixture? instructions mention.1 slot) := by
  cases slot <;> rfl

def refillFile : Scan :=
  scan (textOfLines ["/*!cmocka group queue setup:refill */"]) "refill.c" "cmocka"

end AnnotatedTests
