import AnnotatedTests.Proofs.DirectiveForm
import AnnotatedTests.Proofs.Soundness

/-! What the sites of files give to a collection. The problems that are found while files are read
are made by their sites, in order, and depend on the files in no other way. -/
namespace AnnotatedTests
attribute [local irreducible] Comment.directive

section Mapped
variable {α β γ : Type}

/-- Where what an element gives behind others is a matter of what is read off all of them, it is
given by what is read off the list. -/
theorem filterMap_withPrior_filterMap {h : α → Option β} {f : List α → α → Option γ}
    {g : List β → β → Option γ}
    (reads : ∀ prior x, f prior x = (h x).bind (g (prior.filterMap h))) (xs : List α) :
    ((withPrior xs).filterMap fun p => f p.1 p.2) =
      (withPrior (xs.filterMap h)).filterMap fun p => g p.1 p.2 := by
  induction xs using List.reverseRecOn with
  | nil => rfl
  | append_singleton xs x ih =>
    -- behind the last element nothing is read, so the rest is as it was
    rw [withPrior_concat, List.filterMap_append, List.filterMap_append, ih]
    cases read : h x with
    | none => simp [reads, read]
    | some y => cases given : g (xs.filterMap h) y <;> simp [reads, read, given]

/-- A search in what is read off a list is a search in the list. -/
theorem map_find?_filterMap (h : α → Option β) (p : β → Bool) (g : β → γ) (xs : List α) :
    ((xs.filterMap h).find? p).map g =
      xs.findSome? fun x => (h x).bind fun y => if p y then some (g y) else none := by
  induction xs with
  | nil => rfl
  | cons x xs ih =>
    rw [List.findSome?_cons, ← ih]
    cases read : h x with
    | none => simp [read]
    | some y => by_cases found : p y <;> simp [read, found]

end Mapped

/-- What a site says: why its comment is malformed, or a directive with what follows it. -/
inductive Remark where
  | malformed (why : Malformed) (place : Place)
  | directive (d : Directive) (following : Option Declaration)

namespace Remark

def place : Remark → Place
  | .malformed _ place => place
  | .directive d _ => d.place

def test? : Remark → Option String
  | .malformed _ _ => none
  | .directive d following => if d.makesTest following then d.target? following else none

def problem? (prior : List Remark) : Remark → Option Problem
  | .malformed why place => some ⟨.malformed why, place⟩
  | .directive d following =>
    if d.lacksTarget following then some ⟨.orphan, d.place⟩
    else (test? (.directive d following)).bind fun name =>
      ((prior.find? fun other => other.test? = some name).map place).map fun first =>
        ⟨.duplicateTest name first, d.place⟩

end Remark

def Item.remark? : Item → Option Remark
  | .malformed why place => some (.malformed why place)
  | .instruction i => some (.directive i.directive i.following)
  | _ => none

def Site.remark? (marker : String) (site : Site) : Option Remark :=
  match site.comment.directive marker with
  | .ok d => some (.directive d site.following)
  | .error (.malformed why) => some (.malformed why site.comment.place)
  | .error (.numeralTooLong _) => none

/-- The problem that a site makes behind others: its comment is malformed, there is no function that
its directive could be about, or one of the others asks for a test of the same name. -/
def Site.problem? (marker : String) (prior : List Site) (site : Site) : Option Problem :=
  match site.comment.directive marker with
  | .error (.malformed why) => some ⟨.malformed why, site.comment.place⟩
  | .error (.numeralTooLong _) => none
  | .ok d =>
    if d.lacksTarget site.following then some ⟨.orphan, site.comment.place⟩
    else (site.test? marker).bind fun name =>
      (prior.find? fun other => other.test? marker = some name).map fun first =>
        ⟨.duplicateTest name first.comment.place, site.comment.place⟩

namespace Site
variable {marker : String} {prior : List Site} {site : Site}

theorem problem?_of_malformed {why : Malformed}
    (read : site.comment.directive marker = .error (.malformed why)) :
    site.problem? marker prior = some ⟨.malformed why, site.comment.place⟩ := by
  unfold problem?
  simp only [read]

theorem problem?_of_ok {d : Directive} (read : site.comment.directive marker = .ok d) :
    site.problem? marker prior =
      if d.lacksTarget site.following then some ⟨.orphan, site.comment.place⟩
      else (site.test? marker).bind fun name =>
        (prior.find? fun other => other.test? marker = some name).map fun first =>
          ⟨.duplicateTest name first.comment.place, site.comment.place⟩ := by
  unfold problem?
  simp only [read]

/-- A site makes problems of three kinds, at its own place. -/
theorem of_problem? {problem : Problem} (made : site.problem? marker prior = some problem) :
    problem.place = site.comment.place ∧
      (problem.cause.kind = .directiveSyntax ∨ problem.cause.kind = .orphanDirective ∨
        problem.cause.kind = .duplicateName) := by
  cases read : site.comment.directive marker with
  | error failure =>
    cases failure with
    | malformed why =>
      rw [problem?_of_malformed read, Option.some.injEq] at made
      rw [← made]
      exact ⟨rfl, Or.inl rfl⟩
    | numeralTooLong digits =>
      unfold problem? at made
      simp [read] at made
  | ok d =>
    rw [problem?_of_ok read] at made
    by_cases lacks : d.lacksTarget site.following = true
    · rw [if_pos lacks, Option.some.injEq] at made
      rw [← made]
      exact ⟨rfl, Or.inr (Or.inl rfl)⟩
    · rw [if_neg lacks] at made
      obtain ⟨name, -, repeated⟩ := Option.bind_eq_some_iff.mp made
      obtain ⟨first, -, rfl⟩ := Option.map_eq_some_iff.mp repeated
      exact ⟨rfl, Or.inr (Or.inr rfl)⟩

end Site

theorem place_of_directive {comment : Comment} {marker : String} {d : Directive}
    (read : comment.directive marker = .ok d) : d.place = comment.place := by
  obtain ⟨form, -, rfl⟩ := exists_form_of_directive read
  rfl

theorem filterMap_remark?_itemsOf (marker : String) (files : List Scan) :
    (itemsOf marker files).filterMap Item.remark? =
      (files.flatMap Scan.sites).filterMap (Site.remark? marker) := by
  have ofSite (current : String) (site : Site) :
      (site.item? marker current).bind Item.remark? = site.remark? marker := by
    unfold Site.item? Site.remark?
    cases site.comment.directive marker with
    | ok d => rfl
    | error failure => cases failure <;> rfl
  rw [itemsOf, List.filterMap_flatMap, List.filterMap_flatMap]
  apply List.flatMap_congr
  intro file _
  have read := file.filterMap_items fun current site _ => ofSite current site
  simpa [Item.remark?] using read

/-- A search by key finds the first one of its key, among all elements or among the first ones. -/
theorem find?_firsts {α : Type} (key : α → String) (xs : List α) (k : String) :
    (firsts key xs).find? (fun x => key x == k) = xs.find? fun x => key x == k := by
  induction xs using List.reverseRecOn with
  | nil => rfl
  | append_singleton xs x ih =>
    rw [firsts_concat, List.find?_append, List.find?_append, ih]
    by_cases known : key x ∈ xs.map key
    · rw [if_pos known, List.find?_nil, Option.or_none]
      by_cases own : key x = k
      · -- the key has been found before
        obtain ⟨first, found⟩ : ∃ first, xs.find? (fun y => key y == k) = some first := by
          rw [← Option.isSome_iff_exists, List.find?_isSome]
          simpa [own] using known
        simp [found]
      · simp [own]
    · rw [if_neg known]

/-- A search among the tests that are added finds the one that was asked for first. -/
theorem find?_acceptedTests (conventions : Conventions) (instructions : List Instruction)
    (name : String) :
    (acceptedTests conventions instructions).find? (fun test => test.name == name) =
      (instructions.find? fun i => i.test? = some name).map fun i => i.asTest conventions name := by
  have asks (i : Instruction) :
      (i.test?.map (i.asTest conventions)).any (fun test => test.name == name) =
        decide (i.test? = some name) := by
    cases i.test? with
    | none => rfl
    | some asked => by_cases same : asked = name <;> simp [Instruction.asTest, same]
  rw [acceptedTests, find?_firsts, requestedTests, List.find?_filterMap]
  simp only [asks]
  cases found : instructions.find? fun i => i.test? = some name with
  | none => rfl
  | some i =>
    have asked : i.test? = some name := by simpa using List.find?_some found
    simp [asked]

/-- What an item makes behind others is a matter of what they and it say. -/
theorem Item.problem?_eq (conventions : Conventions) (prior : List Item) (item : Item) :
    item.problem? (acceptedTests conventions (instructionsAmong prior)) =
      item.remark?.bind (Remark.problem? (prior.filterMap Item.remark?)) := by
  cases item with
  | file name => rfl
  | definition d => rfl
  | malformed why place => rfl
  | instruction i =>
    -- who asked first for a test is seen among the remarks as it is among the instructions
    have earlier (name : String) :
        ((instructionsAmong prior).find? fun i => i.test? = some name).map (·.directive.place) =
          ((prior.filterMap Item.remark?).find? fun other => other.test? = some name).map
            Remark.place := by
      rw [instructionsAmong, map_find?_filterMap, map_find?_filterMap]
      congr 1
      funext item
      cases item <;> rfl
    have asks : (Remark.directive i.directive i.following).test? = i.test? := rfl
    by_cases lacks : i.directive.lacksTarget i.following = true
    · simp [Item.problem?, Item.remark?, Remark.problem?, Instruction.cause?, lacks]
    · simp only [Item.problem?, Item.remark?, Option.bind_some, Remark.problem?, asks, ← earlier,
        Instruction.cause?, lacks, find?_acceptedTests]
      cases i.test? <;> simp [Function.comp_def, Instruction.asTest]

theorem Site.test?_eq (marker : String) (site : Site) :
    site.test? marker = (site.remark? marker).bind Remark.test? := by
  unfold Site.test? Site.remark?
  cases site.comment.directive marker with
  | ok d => rfl
  | error failure => cases failure <;> rfl

theorem Site.place_of_remark? {marker : String} {site : Site} {r : Remark}
    (said : site.remark? marker = some r) : r.place = site.comment.place := by
  unfold Site.remark? at said
  cases read : site.comment.directive marker with
  | ok d =>
    simp only [read, Option.some.injEq] at said
    rw [← said]
    exact place_of_directive read
  | error failure =>
    cases failure with
    | malformed why =>
      simp only [read, Option.some.injEq] at said
      rw [← said]
      rfl
    | numeralTooLong digits => simp [read] at said

/-- What a site makes behind others is a matter of what they and it say. -/
theorem Site.problem?_eq (marker : String) (prior : List Site) (site : Site) :
    site.problem? marker prior =
      (site.remark? marker).bind (Remark.problem? (prior.filterMap (Site.remark? marker))) := by
  have earlier (name : String) :
      (prior.find? fun other => other.test? marker = some name).map (·.comment.place) =
        ((prior.filterMap (Site.remark? marker)).find? fun other => other.test? = some name).map
          Remark.place := by
    have self := map_find?_filterMap some (fun other : Site => other.test? marker = some name)
      (·.comment.place) prior
    rw [List.filterMap_some] at self
    rw [self, map_find?_filterMap]
    congr 1
    funext other
    rw [Option.bind_some, Site.test?_eq]
    cases said : other.remark? marker with
    | none => simp
    | some r => simp [Site.place_of_remark? said]
  have repeated (name : String) := congrArg
    (Option.map fun first => (⟨.duplicateTest name first, site.comment.place⟩ : Problem))
    (earlier name)
  simp only [Option.map_map, Function.comp_def] at repeated
  unfold Site.problem?
  rw [Site.test?_eq, Site.remark?]
  cases read : site.comment.directive marker with
  | error failure => cases failure <;> rfl
  | ok d =>
    have place := place_of_directive read
    simp [Remark.problem?, place, repeated, Function.comp_def]

namespace Collection

/-- The problems that are found while files are read are those of their sites, in order. -/
theorem problems_itemsOf (conventions : Conventions) (marker : String) (files : List Scan) :
    (ofItems conventions (itemsOf marker files)).problems =
      (withPrior (files.flatMap Scan.sites)).filterMap fun p => p.2.problem? marker p.1 := by
  rw [problems_ofItems, filterMap_withPrior_filterMap (Item.problem?_eq conventions),
    filterMap_remark?_itemsOf, ← filterMap_withPrior_filterMap (Site.problem?_eq marker)]

end Collection

end AnnotatedTests
