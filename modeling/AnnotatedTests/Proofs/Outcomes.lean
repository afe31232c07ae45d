import AnnotatedTests.Proofs.Exchange
import AnnotatedTests.Proofs.Sites
import AnnotatedTests.Proofs.Uses

/-! How sites end. Each site of the files that a registry is made of is reported, adds a test, names
a group, refers to a fixture, or stands before a function that it leaves alone: one of these and no
other, so that the sites can be counted in the registry. -/
namespace AnnotatedTests
attribute [local irreducible] Comment.directive

inductive SiteOutcome where
  | reported (problem : Problem)
  | test (name : String)
  | group (name : String)
  | fixture (slot : Slot) (name : String)
  /-- The function that follows does not look like a test, and the directive asks for nothing. -/
  | plain (f : Declaration)
  deriving DecidableEq, Repr

namespace SiteOutcome

@[simp]
def problem? : SiteOutcome → Option Problem
  | .reported problem => some problem
  | _ => none

@[simp]
def test? : SiteOutcome → Option String
  | .test name => some name
  | _ => none

@[simp]
def isGroup : SiteOutcome → Bool
  | .group _ => true
  | _ => false

@[simp]
def isFixture : SiteOutcome → Bool
  | .fixture _ _ => true
  | _ => false

@[simp]
def isPlain : SiteOutcome → Bool
  | .plain _ => true
  | _ => false

end SiteOutcome

/-- The outcomes that a site can have behind others. -/
inductive Site.Ends (marker : String) (prior : List Site) (site : Site) : SiteOutcome → Prop where
  | malformed {why : Malformed} : site.comment.directive marker = .error (.malformed why) →
    site.Ends marker prior (.reported ⟨.malformed why, site.comment.place⟩)
  /-- A directive other than a group's names no function, and none follows it. -/
  | orphan {d : Directive} : site.comment.directive marker = .ok d → d.kind ≠ .group →
    d.name = none → site.following = none →
    site.Ends marker prior (.reported ⟨.orphan, site.comment.place⟩)
  /-- An earlier site, of which `first` is the first one, asks for a test of the same name. -/
  | repeated {name : String} {first : Site} : site.test? marker = some name →
    prior.find? (fun other => other.test? marker = some name) = some first →
    site.Ends marker prior
      (.reported ⟨.duplicateTest name first.comment.place, site.comment.place⟩)
  | test {name : String} : site.test? marker = some name →
    (∀ other ∈ prior, other.test? marker ≠ some name) → site.Ends marker prior (.test name)
  | group {d : Directive} {name : String} : site.comment.directive marker = .ok d →
    d.kind = .group → d.name = some name → site.Ends marker prior (.group name)
  | fixture {d : Directive} {slot : Slot} {name : String} :
    site.comment.directive marker = .ok d → d.kind = slot.kind →
    d.target? site.following = some name → site.Ends marker prior (.fixture slot name)
  | plain {d : Directive} {f : Declaration} : site.comment.directive marker = .ok d →
    d.kind = .bare → d.attributes = .empty → site.following = some f → f.fits .test = false →
    site.Ends marker prior (.plain f)

/-- Whether a site holds a directive of which something is true, with what follows it. -/
def Site.asks (marker : String) (p : Directive → Option Declaration → Bool) (site : Site) : Bool :=
  match site.comment.directive marker with
  | .ok d => p d site.following
  | .error _ => false

namespace Directive

def namesGroup (d : Directive) (_ : Option Declaration) : Bool := d.kind = .group

/-- Whether a directive declares a fixture and has the function that it is about. -/
def hasFixture (d : Directive) (following : Option Declaration) : Bool :=
  (d.kind = .setup ∨ d.kind = .teardown) ∧ (d.target? following).isSome

/-- Whether a bare directive without a group or attributes stands before a function that does not
look like a test. -/
def leavesAlone (d : Directive) (following : Option Declaration) : Bool :=
  d.kind = .bare ∧ d.attributes = .empty ∧ following.any fun f => !f.fits .test

end Directive

/-- A directive that can be read lacks its function just when it needs one, names none and is
followed by none. -/
theorem lacksTarget_iff {comment : Comment} {marker : String} {d : Directive}
    (read : comment.directive marker = .ok d) {following : Option Declaration} :
    d.lacksTarget following = true ↔ d.kind ≠ .group ∧ d.name = none ∧ following = none := by
  have target : (d.target? following).isNone = true ↔ d.name = none ∧ following = none := by
    cases named : d.name <;> simp [Directive.target?, named]
  unfold Directive.lacksTarget
  cases kind : d.kind with
  | group => simp
  | bare => simp [Directive.target?, name_of_bare read kind]
  | test => simp [target]
  | setup => simp [target]
  | teardown => simp [target]

namespace Site
variable {marker : String} {prior : List Site} {site : Site} {outcome : SiteOutcome}

/-- Every site whose comment can be read has an outcome. -/
theorem exists_ends (readable : site.comment.overlong? marker = none) (prior : List Site) :
    ∃ outcome, site.Ends marker prior outcome := by
  cases read : site.comment.directive marker with
  | error failure =>
    cases failure with
    | malformed why => exact ⟨_, .malformed read⟩
    | numeralTooLong digits => simp [Comment.overlong?, read] at readable
  | ok d =>
    by_cases lacks : d.lacksTarget site.following = true
    · obtain ⟨kind, unnamed, alone⟩ := (lacksTarget_iff read).mp lacks
      exact ⟨_, .orphan read kind unnamed alone⟩
    · -- a directive that needs a function has one
      have target (kind : d.kind ≠ .group) : ∃ name, d.target? site.following = some name := by
        rw [lacksTarget_iff read] at lacks
        cases named : d.name with
        | some name => exact ⟨name, by simp [Directive.target?, named]⟩
        | none =>
          obtain ⟨f, following⟩ := Option.ne_none_iff_exists'.mp fun alone =>
            lacks ⟨kind, named, alone⟩
          exact ⟨f.identifier, by simp [Directive.target?, named, following]⟩
      by_cases makes : d.makesTest site.following = true
      · obtain ⟨name, named⟩ := target fun kind => by simp [Directive.makesTest, kind] at makes
        have asks := test?_eq_some_iff.mpr ⟨d, read, makes, named⟩
        cases earlier : prior.find? fun other => other.test? marker = some name with
        | some first => exact ⟨_, .repeated asks earlier⟩
        | none => exact ⟨_, .test asks (by simpa using earlier)⟩
      · cases kind : d.kind with
        | group =>
          obtain ⟨name, named⟩ := exists_name_of_group read kind
          exact ⟨_, .group read kind named⟩
        | test => simp [Directive.makesTest, kind] at makes
        | setup =>
          obtain ⟨name, named⟩ := target (by simp [kind])
          have slot : d.kind = Slot.setup.kind := kind
          exact ⟨_, .fixture read slot named⟩
        | teardown =>
          obtain ⟨name, named⟩ := target (by simp [kind])
          have slot : d.kind = Slot.teardown.kind := kind
          exact ⟨_, .fixture read slot named⟩
        | bare =>
          -- it makes no test, so it has no attributes and what follows does not look like one
          obtain ⟨f, following⟩ : ∃ f, site.following = some f := by
            simpa [lacksTarget_iff read, kind, name_of_bare read kind,
              Option.ne_none_iff_exists'] using lacks
          obtain ⟨attributes, unlike⟩ : d.attributes = .empty ∧ f.fits .test = false := by
            simpa [Directive.makesTest, kind, following] using makes
          exact ⟨_, .plain read kind attributes following unlike⟩

/-- The test that a site adds behind others: the one that it asks for, unless one of them does. -/
def added? (marker : String) (prior : List Site) (site : Site) : Option String :=
  (site.test? marker).bind fun name =>
    if name ∈ prior.filterMap (test? marker) then none else some name

theorem problem?_of_test? {name : String} (asks : site.test? marker = some name) :
    site.problem? marker prior =
      (prior.find? fun other => other.test? marker = some name).map fun first =>
        ⟨.duplicateTest name first.comment.place, site.comment.place⟩ := by
  obtain ⟨d, read, makes, target⟩ := test?_eq_some_iff.mp asks
  have targeted : d.lacksTarget site.following = false := by
    rw [Bool.eq_false_iff, Ne, lacksTarget_iff read]
    rintro ⟨-, unnamed, alone⟩
    simp [Directive.target?, unnamed, alone] at target
  simp [problem?_of_ok read, targeted, asks]

/-- A directive that has what it needs and makes no test leads to no problem and to no test. -/
theorem silent_of_targeted {d : Directive} (read : site.comment.directive marker = .ok d)
    (targeted : d.lacksTarget site.following = false)
    (untested : d.makesTest site.following = false) :
    site.problem? marker prior = none ∧ site.added? marker prior = none := by
  have silent : site.test? marker = none := by simp [test?, read, untested]
  exact ⟨by simp [problem?_of_ok read, targeted, silent], by simp [added?, silent]⟩

/-- An outcome tells the problem that the site makes and the test that it adds. -/
theorem Ends.parts (ends : site.Ends marker prior outcome) :
    site.problem? marker prior = outcome.problem? ∧
      site.added? marker prior = outcome.test? := by
  cases ends with
  | malformed read => exact ⟨problem?_of_malformed read, by simp [added?, test?, read]⟩
  | orphan read kind unnamed alone =>
    have lacks := (lacksTarget_iff read).mpr ⟨kind, unnamed, alone⟩
    have silent : site.test? marker = none := by
      simp [test?, read, Directive.target?, unnamed, alone]
    exact ⟨by simp [problem?_of_ok read, lacks], by simp [added?, silent]⟩
  | @repeated name first asks earlier =>
    -- the earlier site has taken the name, so that no test is added
    have known : name ∈ prior.filterMap (test? marker) :=
      List.mem_filterMap.mpr ⟨first, List.mem_of_find?_eq_some earlier,
        by simpa using List.find?_some earlier⟩
    rw [problem?_of_test? asks, earlier, added?, asks, Option.bind_some, if_pos known]
    exact ⟨rfl, rfl⟩
  | @test name asks fresh =>
    have new : name ∉ prior.filterMap (test? marker) := by simpa using fresh
    have earlier : prior.find? (fun other => other.test? marker = some name) = none := by
      simpa using fresh
    rw [problem?_of_test? asks, earlier, added?, asks, Option.bind_some, if_neg new]
    exact ⟨rfl, rfl⟩
  | group read kind _ =>
    exact silent_of_targeted read (by simp [Directive.lacksTarget, kind])
      (by simp [Directive.makesTest, kind])
  | @fixture d slot name read kind target =>
    exact silent_of_targeted read
      (by cases slot <;> simp [Directive.lacksTarget, kind, Slot.kind, target])
      (by cases slot <;> simp [Directive.makesTest, kind, Slot.kind])
  | plain read kind attributes following unlike =>
    exact silent_of_targeted read
      (by simp [Directive.lacksTarget, kind, attributes, following])
      (by simp [Directive.makesTest, kind, attributes, following, unlike])

/-- The outcome of a site behind others, as it is found from its problem, the test that it adds and
its directive, in this order. -/
def outcome? (marker : String) (prior : List Site) (site : Site) : Option SiteOutcome :=
  match site.problem? marker prior, site.added? marker prior, site.request? marker with
  | some problem, _, _ => some (.reported problem)
  | none, some name, _ => some (.test name)
  | none, none, some (d, following) =>
    match d.kind with
    | .group => d.name.map .group
    | .setup => (d.target? following).map (.fixture .setup)
    | .teardown => (d.target? following).map (.fixture .teardown)
    | _ => following.map .plain
  | none, none, none => none

theorem Ends.outcome?_eq (ends : site.Ends marker prior outcome) :
    site.outcome? marker prior = some outcome := by
  obtain ⟨problem, added⟩ := ends.parts
  rw [outcome?, problem, added]
  cases ends with
  | malformed _ => rfl
  | orphan _ _ _ _ => rfl
  | repeated _ _ => rfl
  | test _ _ => rfl
  | group read kind named =>
    simp [request?, read, kind, named]
  | @fixture d slot name read kind target =>
    cases slot <;> simp [request?, read, kind, Slot.kind, target]
  | plain read kind _ following _ =>
    simp [request?, read, kind, following]

/-- Every site whose comment can be read has exactly one outcome. -/
theorem existsUnique_ends (readable : site.comment.overlong? marker = none) (prior : List Site) :
    ∃! outcome, site.Ends marker prior outcome := by
  obtain ⟨outcome, ends⟩ := exists_ends readable prior
  refine ⟨outcome, ends, ?_⟩
  intro other ends'
  exact Option.some.inj (ends'.outcome?_eq.symm.trans ends.outcome?_eq)

section Asks
attribute [local simp] asks Directive.namesGroup Directive.hasFixture Directive.leavesAlone

/-- A directive that makes a test names no group, declares no fixture and does not leave the
function behind it alone. -/
theorem asks_of_test? {name : String} (asked : site.test? marker = some name) :
    site.asks marker Directive.namesGroup = false ∧
      site.asks marker Directive.hasFixture = false ∧
      site.asks marker Directive.leavesAlone = false := by
  obtain ⟨d, read, makes, -⟩ := test?_eq_some_iff.mp asked
  cases kind : d.kind with
  | test => simp [read, kind]
  | bare =>
    -- attributes make it a test, and otherwise the function behind it does
    have like : d.attributes = .empty → site.following.any (fun f => f.fits .test) = true := by
      simpa [Directive.makesTest, kind, or_iff_not_imp_left] using makes
    by_cases attributes : d.attributes = .empty
    · obtain ⟨f, following, fits⟩ : ∃ f, site.following = some f ∧ f.fits .test = true := by
        simpa [Option.any_eq_true] using like attributes
      simp [read, kind, following, fits]
    · simp [read, kind, attributes]
  | group => simp [Directive.makesTest, kind] at makes
  | setup => simp [Directive.makesTest, kind] at makes
  | teardown => simp [Directive.makesTest, kind] at makes

/-- What a directive asks for besides tests is told by its outcome. -/
theorem Ends.asks_eq (ends : site.Ends marker prior outcome) :
    site.asks marker Directive.namesGroup = outcome.isGroup ∧
      site.asks marker Directive.hasFixture = outcome.isFixture ∧
      site.asks marker Directive.leavesAlone = outcome.isPlain := by
  cases ends with
  | malformed read => simp [read]
  | orphan read kind unnamed alone => simp [read, kind, Directive.target?, unnamed, alone]
  | repeated asked _ => exact asks_of_test? asked
  | test asked _ => exact asks_of_test? asked
  | group read kind _ => simp [read, kind]
  | @fixture d slot name read kind target => cases slot <;> simp [read, kind, Slot.kind, target]
  | plain read kind attributes following unlike => simp [read, kind, attributes, following, unlike]

end Asks

end Site

/-- The number of problems of a kind. -/
def countOf (kind : ProblemKind) (problems : List Problem) : Nat :=
  problems.countP fun problem => problem.cause.kind = kind

/-- Whether sites have some outcomes, one each and in their order. -/
def SitesEnd (marker : String) (sites : List Site) (outcomes : List SiteOutcome) : Prop :=
  List.Forall₂ (fun p outcome => p.2.Ends marker p.1 outcome) (withPrior sites) outcomes

theorem filterMap_eq_of_forall₂ {α β γ : Type} {R : α → β → Prop} {f : α → Option γ}
    {g : β → Option γ} (same : ∀ x y, R x y → f x = g y) {xs : List α} {ys : List β}
    (related : List.Forall₂ R xs ys) : xs.filterMap f = ys.filterMap g := by
  induction related with
  | nil => rfl
  | cons head _ ih => rw [List.filterMap_cons, List.filterMap_cons, same _ _ head, ih]

namespace SitesEnd
variable {marker : String} {sites : List Site} {outcomes : List SiteOutcome}

theorem exists_of_readable (readable : ∀ site ∈ sites, site.comment.overlong? marker = none) :
    ∃ outcomes, SitesEnd marker sites outcomes := by
  induction sites using List.reverseRecOn with
  | nil => exact ⟨[], .nil⟩
  | append_singleton sites site ih =>
    obtain ⟨outcomes, earlier⟩ := ih fun other ho => readable other (by simp [ho])
    obtain ⟨outcome, last⟩ := Site.exists_ends (readable site (by simp)) sites
    refine ⟨outcomes ++ [outcome], ?_⟩
    rw [SitesEnd, withPrior_concat]
    exact List.rel_append earlier (.cons last .nil)

theorem problems_eq (ends : SitesEnd marker sites outcomes) :
    ((withPrior sites).filterMap fun p => p.2.problem? marker p.1) =
      outcomes.filterMap SiteOutcome.problem? :=
  filterMap_eq_of_forall₂ (fun _ _ ends => ends.parts.1) ends

/-- The tests that sites add are the first ones of their names. -/
theorem tests_eq (ends : SitesEnd marker sites outcomes) :
    firsts id (sites.filterMap (Site.test? marker)) = outcomes.filterMap SiteOutcome.test? := by
  calc firsts id (sites.filterMap (Site.test? marker))
      = (withPrior (sites.filterMap (Site.test? marker))).filterMap fun p =>
          if p.2 ∈ p.1 then none else some p.2 := by
        simp only [firsts_eq_filterMap, List.map_id, id_eq]
    _ = (withPrior sites).filterMap fun p => p.2.added? marker p.1 :=
        (filterMap_withPrior_filterMap (g := fun seen name =>
          if name ∈ seen then none else some name) (fun _ _ => rfl) sites).symm
    _ = outcomes.filterMap SiteOutcome.test? :=
        filterMap_eq_of_forall₂ (fun _ _ ends => ends.parts.2) ends

/-- Every site is counted once: as a problem of one of three kinds, as a test, as a group directive,
as a fixture or as a plain directive. -/
theorem length_eq (ends : SitesEnd marker sites outcomes) :
    sites.length =
      countOf .directiveSyntax (outcomes.filterMap SiteOutcome.problem?) +
        countOf .orphanDirective (outcomes.filterMap SiteOutcome.problem?) +
        countOf .duplicateName (outcomes.filterMap SiteOutcome.problem?) +
        (outcomes.filterMap SiteOutcome.test?).length +
        sites.countP (Site.asks marker Directive.namesGroup) +
        sites.countP (Site.asks marker Directive.hasFixture) +
        sites.countP (Site.asks marker Directive.leavesAlone) := by
  rw [← map_snd_withPrior sites]
  unfold SitesEnd at ends
  generalize withPrior sites = behind at ends
  -- each site adds one to exactly one of the counts
  induction ends with
  | nil => rfl
  | @cons p outcome behind outcomes first _ ih =>
    obtain ⟨group, fixture, plain⟩ := first.asks_eq
    unfold countOf at ih ⊢
    simp only [List.map_cons, List.length_cons, List.countP_cons, List.filterMap_cons, group,
      fixture, plain, ih]
    cases outcome with
    | reported problem =>
      obtain ⟨-, kinds⟩ := Site.of_problem? first.parts.1
      rcases kinds with kind | kind | kind <;> simp [kind] <;> omega
    | _ =>
      simp
      omega

end SitesEnd

/-- The kinds of the problems that references make. -/
def ProblemKind.ofReferences : List ProblemKind :=
  [.unknownSymbol, .roleConflict, .signatureMismatch]

theorem Reference.kind_of_problem? {symbols : SymbolTable} {prior : List Reference}
    {reference : Reference} {problem : Problem}
    (made : reference.problem? symbols prior = some problem) :
    problem.cause.kind ∈ ProblemKind.ofReferences := by
  have last : prior ++ [reference] = prior ++ reference :: [] := rfl
  cases (problem?_eq_some_iff last).mp made <;> simp [Cause.kind, ProblemKind.ofReferences]

/-- What references make is of no kind that sites make. -/
theorem countOf_append_of_references {kind : ProblemKind}
    (other : kind ∉ ProblemKind.ofReferences) (problems : List Problem) {found : List Problem}
    (kinds : ∀ problem ∈ found, problem.cause.kind ∈ ProblemKind.ofReferences) :
    countOf kind (problems ++ found) = countOf kind problems := by
  have none_found : countOf kind found = 0 := by
    rw [countOf, List.countP_eq_zero]
    intro problem hp same
    have same : problem.cause.kind = kind := of_decide_eq_true same
    exact other (same ▸ kinds problem hp)
  have parts : countOf kind (problems ++ found) = countOf kind problems + countOf kind found :=
    List.countP_append
  rw [parts, none_found, Nat.add_zero]

namespace SitesEnd
variable {conventions : Conventions} {files : List Scan} {outcomes : List SiteOutcome}

theorem problems_registry
    (ends : SitesEnd conventions.marker (files.flatMap Scan.sites) outcomes) :
    ∃ found,
      (Collection.ofItems conventions (itemsOf conventions.marker files)).registry.problems =
        outcomes.filterMap SiteOutcome.problem? ++ found ∧
      ∀ problem ∈ found, problem.cause.kind ∈ ProblemKind.ofReferences := by
  have problems := Collection.problems_registry_ofItems conventions
    (itemsOf conventions.marker files)
  rw [Collection.problems_itemsOf, ends.problems_eq] at problems
  refine ⟨_, problems, ?_⟩
  intro problem hp
  obtain ⟨p, -, made⟩ := List.mem_filterMap.mp hp
  exact Reference.kind_of_problem? made

theorem tests_registry_perm
    (ends : SitesEnd conventions.marker (files.flatMap Scan.sites) outcomes) :
    ((Collection.ofItems conventions
        (itemsOf conventions.marker files)).registry.tests.map Test.name).Perm
      (outcomes.filterMap SiteOutcome.test?) := by
  have names := names_registry_ofItems conventions (itemsOf conventions.marker files)
  have added : (acceptedTests conventions (instructionsOf conventions.marker files)).map Test.name =
      outcomes.filterMap SiteOutcome.test? := by
    rw [acceptedTests, map_firsts, map_name_requestedTests, testNames_instructionsOf,
      ← List.filterMap_flatMap, ends.tests_eq]
  exact added ▸ names

end SitesEnd

/-- Every site of the files has exactly one outcome. The sites are as many as the problems that they
make, the tests, the group directives, the directives for fixtures that have a function, and the
plain directives. The problems that sites make stand in the order of the sites, before those that
references make. -/
theorem outcomes_of_buildRegistry {conventions : Conventions} {files : List Scan}
    {registry : Registry} (built : (buildRegistry conventions files).1 = .ok registry) :
    (∀ prior site later, files.flatMap Scan.sites = prior ++ site :: later →
        ∃! outcome, site.Ends conventions.marker prior outcome) ∧
      (files.flatMap Scan.sites).length =
        countOf .directiveSyntax registry.problems + countOf .orphanDirective registry.problems +
          countOf .duplicateName registry.problems + registry.tests.length +
          (files.flatMap Scan.sites).countP (Site.asks conventions.marker Directive.namesGroup) +
          (files.flatMap Scan.sites).countP (Site.asks conventions.marker Directive.hasFixture) +
          (files.flatMap Scan.sites).countP (Site.asks conventions.marker Directive.leavesAlone) ∧
      ∃ outcomes found, SitesEnd conventions.marker (files.flatMap Scan.sites) outcomes ∧
        registry.problems = outcomes.filterMap SiteOutcome.problem? ++ found ∧
        (∀ problem ∈ found, problem.cause.kind ∈ ProblemKind.ofReferences) ∧
        (registry.tests.map Test.name).Perm (outcomes.filterMap SiteOutcome.test?) := by
  obtain ⟨legible, rfl⟩ := buildRegistry_eq_ok_iff.mp built
  have readable : ∀ site ∈ files.flatMap Scan.sites,
      site.comment.overlong? conventions.marker = none := by
    intro site hs
    obtain ⟨file, hf, hs⟩ := List.mem_flatMap.mp hs
    exact legible file hf site hs
  -- one list of outcomes gives the problems, the tests and the counts
  obtain ⟨outcomes, ends⟩ := SitesEnd.exists_of_readable readable
  obtain ⟨found, problems, kinds⟩ := ends.problems_registry
  have tests := ends.tests_registry_perm
  refine ⟨?_, ?_, outcomes, found, ends, problems, kinds, tests⟩
  · intro prior site later split
    exact Site.existsUnique_ends (readable site (by simp [split])) prior
  · have number : (Collection.ofItems conventions
        (itemsOf conventions.marker files)).registry.tests.length =
          (outcomes.filterMap SiteOutcome.test?).length := by
      simpa using tests.length_eq
    rw [problems, number, countOf_append_of_references (by decide) _ kinds,
      countOf_append_of_references (by decide) _ kinds,
      countOf_append_of_references (by decide) _ kinds]
    exact ends.length_eq

/-- A file with a site for each outcome, and a group whose fixture no file declares. -/
def mixedFile : Scan :=
  scan
    (textOfLines
      ["/*!cmocka group io setup:lost */",
        "/*!cmocka */ void reads(void **state);",
        "/*!cmocka test reads */",
        "/*!cmocka setup */ int up(void **state);",
        "/*!cmocka */ int twice(int n);",
        "/*!cmocka test 1st */",
        "/*!cmocka setup */"])
    "mixed.c" "cmocka"

theorem outcomes_of_mixedFile :
    ∃ registry, (buildRegistry .standard [mixedFile]).1 = .ok registry ∧
      ([mixedFile].flatMap Scan.sites).length = 7 ∧
      ([.directiveSyntax, .orphanDirective, .duplicateName, .unknownSymbol].map fun kind =>
        countOf kind registry.problems) = [1, 1, 1, 1] ∧
      (∀ prior site later, [mixedFile].flatMap Scan.sites = prior ++ site :: later →
        ∃! outcome, site.Ends Conventions.standard.marker prior outcome) ∧
      ∃ outcomes found,
        SitesEnd Conventions.standard.marker ([mixedFile].flatMap Scan.sites) outcomes ∧
          registry.problems = outcomes.filterMap SiteOutcome.problem? ++ found := by
  have legible : ∀ file ∈ [mixedFile], file.Legible Conventions.standard.marker := by
    decide +kernel
  have built := buildRegistry_eq_ok_iff.mpr ⟨legible, rfl⟩
  obtain ⟨unique, -, outcomes, found, ends, problems, -⟩ := outcomes_of_buildRegistry built
  exact ⟨_, built, by decide +kernel, by decide +kernel, unique, outcomes, found, ends, problems⟩

end AnnotatedTests
