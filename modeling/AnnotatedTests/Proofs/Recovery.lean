import AnnotatedTests.Proofs.OneComment
import AnnotatedTests.Proofs.Overlong
import AnnotatedTests.Proofs.Placement
import AnnotatedTests.Proofs.Resolution

/-! What malformed comments do. Each is reported once, at its own place, and all else is as if it
were not there; only a numeral that is too long to be read keeps a registry from being built. -/
namespace AnnotatedTests
attribute [local irreducible] Comment.directive
attribute [ext] Registry

def Comment.malformed? (comment : Comment) (marker : String) : Option Malformed :=
  match comment.directive marker with
  | .error (.malformed why) => some why
  | _ => none

/-- A file without its malformed comments. -/
def Scan.wellFormed (marker : String) (file : Scan) : Scan :=
  { file with sites := file.sites.filter fun site => (site.comment.malformed? marker).isNone }

/-- Whether a problem is that a comment is malformed. -/
def Problem.isSyntax (problem : Problem) : Bool :=
  problem.cause.kind = .directiveSyntax

def Item.syntaxProblem? : Item → Option Problem
  | .malformed why place => some ⟨.malformed why, place⟩
  | _ => none

def withoutMalformed (items : List Item) : List Item :=
  items.filter fun item => item.syntaxProblem?.isNone

/-- The problems of the malformed comments of some files, in order. -/
def syntaxProblems (marker : String) (files : List Scan) : List Problem :=
  files.flatMap fun file => file.sites.filterMap fun site =>
    (site.comment.malformed? marker).map fun why =>
      ⟨.malformed why, ⟨file.filename, site.comment.startLine⟩⟩

theorem group?_of_malformed {comment : Comment} {marker : String} {why : Malformed}
    (h : comment.malformed? marker = some why) : comment.group? marker = none := by
  unfold Comment.malformed? at h
  unfold Comment.group?
  cases read : comment.directive marker with
  | ok d => simp [read] at h
  | error failure => rfl

theorem groupBehind_filter (marker filename : String) (before : List Site) :
    groupBehind marker filename
        (before.filter fun site => (site.comment.malformed? marker).isNone) =
      groupBehind marker filename before := by
  have same : (before.filter fun site => (site.comment.malformed? marker).isNone).filterMap
      (fun site => site.comment.group? marker) =
        before.filterMap fun site => site.comment.group? marker := by
    rw [List.filterMap_filter]
    apply List.filterMap_congr
    intro site _
    cases malformed : site.comment.malformed? marker with
    | none => simp
    | some why => simp [group?_of_malformed malformed]
  rw [groupBehind, same, groupBehind]

theorem Site.syntaxProblem?_item? (marker current : String) (site : Site) :
    (site.item? marker current).bind Item.syntaxProblem? =
      (site.comment.malformed? marker).map fun why => ⟨.malformed why, site.comment.place⟩ := by
  unfold Site.item? Comment.malformed?
  cases read : site.comment.directive marker with
  | ok d => simp [Item.syntaxProblem?]
  | error failure => cases failure <;> simp [Item.syntaxProblem?]

/-- Taking malformed sites out of a file takes out their items and leaves the other ones as they
are, with their groups. -/
theorem Scan.items_wellFormed (marker : String) (file : Scan) :
    (file.wellFormed marker).items marker = withoutMalformed (file.items marker) := by
  have sites (sites : List Site) :
      ((withPrior (sites.filter fun site => (site.comment.malformed? marker).isNone)).filterMap
        fun p => p.2.item? marker (groupBehind marker file.filename p.1)) =
      withoutMalformed ((withPrior sites).filterMap fun p =>
        p.2.item? marker (groupBehind marker file.filename p.1)) := by
    induction sites using List.reverseRecOn with
    | nil => rfl
    | append_singleton before site ih =>
      -- a malformed site leaves the group as it was, so those behind it are in the same group
      have problem := site.syntaxProblem?_item? marker (groupBehind marker file.filename before)
      rw [List.filter_append, withPrior_concat, List.filterMap_append, withoutMalformed,
        List.filter_append, ← withoutMalformed, ← ih]
      cases malformed : site.comment.malformed? marker with
      | none =>
        rw [malformed, Option.map_none] at problem
        cases item : site.item? marker (groupBehind marker file.filename before) with
        | none => simp [malformed, item, groupBehind_filter]
        | some item' =>
          rw [item, Option.bind_some] at problem
          simp [malformed, item, groupBehind_filter, problem]
      | some why =>
        obtain ⟨item, hi, hp⟩ := Option.bind_eq_some_iff.mp (by rw [problem, malformed]; rfl)
        simp [malformed, hi, hp]
  have opening : (Item.file file.filename :: file.definitions.map Item.definition).filter
      (fun item => item.syntaxProblem?.isNone) =
        .file file.filename :: file.definitions.map .definition := by
    simp [Item.syntaxProblem?]
  rw [Scan.items, Scan.items, withoutMalformed, List.filter_append, opening]
  exact congrArg _ (sites file.sites)

theorem itemsOf_wellFormed (marker : String) (files : List Scan) :
    itemsOf marker (files.map (Scan.wellFormed marker)) =
      withoutMalformed (itemsOf marker files) := by
  rw [itemsOf, itemsOf, withoutMalformed, List.filter_flatMap, List.flatMap_map]
  simp only [Scan.items_wellFormed, withoutMalformed]

theorem Item.problem?_of_malformed {item : Item} {problem : Problem}
    (h : item.syntaxProblem? = some problem) (tests : List Test) :
    item.problem? tests = some problem ∧ problem.isSyntax = true := by
  cases item with
  | malformed why place =>
    obtain rfl := Option.some.inj h
    exact ⟨rfl, rfl⟩
  | _ => simp [Item.syntaxProblem?] at h

theorem Item.isSyntax_of_problem? {item : Item} (h : item.syntaxProblem? = none)
    {tests : List Test} {problem : Problem} (made : item.problem? tests = some problem) :
    problem.isSyntax = false := by
  cases item with
  | malformed why place => simp [Item.syntaxProblem?] at h
  | file name => simp [Item.problem?] at made
  | definition d => simp [Item.problem?] at made
  | instruction i =>
    obtain ⟨cause, caused, rfl⟩ := Option.map_eq_some_iff.mp made
    unfold Instruction.cause? at caused
    split at caused
    · obtain rfl := Option.some.inj caused
      rfl
    · obtain ⟨name, -, found⟩ := Option.bind_eq_some_iff.mp caused
      obtain ⟨previous, -, rfl⟩ := Option.map_eq_some_iff.mp found
      rfl

theorem Reference.isSyntax_of_problem? {symbols : SymbolTable} {prior : List Reference}
    {reference : Reference} {problem : Problem}
    (made : reference.problem? symbols prior = some problem) : problem.isSyntax = false := by
  unfold Reference.problem? at made
  split at made
  · obtain rfl := Option.some.inj made
    rfl
  · split at made
    · obtain ⟨cause, misfit, rfl⟩ := Option.map_eq_some_iff.mp made
      unfold Symbol.misfit? at misfit
      split_ifs at misfit <;> obtain rfl := Option.some.inj misfit <;> rfl
    · split_ifs at made
      obtain rfl := Option.some.inj made
      rfl

/-- What is not read off malformed comments is the same without them. -/
theorem filterMap_withoutMalformed {β : Type} (f : Item → Option β)
    (blind : ∀ why place, f (.malformed why place) = none) (items : List Item) :
    (withoutMalformed items).filterMap f = items.filterMap f := by
  rw [withoutMalformed, List.filterMap_filter]
  apply List.filterMap_congr
  intro item _
  cases item with
  | malformed why place => simp [blind]
  | _ => rfl

theorem instructionsAmong_withoutMalformed (items : List Item) :
    instructionsAmong (withoutMalformed items) = instructionsAmong items :=
  filterMap_withoutMalformed Item.instruction? (fun _ _ => rfl) items

namespace Collection

/-- The malformed comments among some items are reported in order, each once. -/
theorem filter_problems_ofItems (conventions : Conventions) (items : List Item) :
    (ofItems conventions items).problems.filter Problem.isSyntax =
      items.filterMap Item.syntaxProblem? := by
  induction items using List.reverseRecOn with
  | nil => rfl
  | append_singleton items item ih =>
    rw [ofItems_concat, note_eq, List.filter_append, ih, List.filterMap_append]
    cases malformed : item.syntaxProblem? with
    | some problem =>
      obtain ⟨made, isSyntax⟩ :=
        item.problem?_of_malformed malformed (ofItems conventions items).tests
      simp [malformed, made, isSyntax]
    | none =>
      cases made : item.problem? (ofItems conventions items).tests with
      | none => simp [malformed]
      | some problem => simp [malformed, item.isSyntax_of_problem? malformed made]

/-- Without the malformed comments the other problems are found as before. -/
theorem problems_withoutMalformed (conventions : Conventions) (items : List Item) :
    (ofItems conventions (withoutMalformed items)).problems =
      (ofItems conventions items).problems.filter fun problem => !problem.isSyntax := by
  induction items using List.reverseRecOn with
  | nil => rfl
  | append_singleton items item ih =>
    -- problems depend on the tests so far, which are the same on both sides
    have tests : (ofItems conventions (withoutMalformed items)).tests =
        (ofItems conventions items).tests := by
      rw [tests_ofItems, tests_ofItems, instructionsAmong_withoutMalformed]
    have split : withoutMalformed (items ++ [item]) =
        withoutMalformed items ++ withoutMalformed [item] := List.filter_append _ _
    rw [split, ofItems_concat, note_eq, List.filter_append, ← ih]
    cases malformed : item.syntaxProblem? with
    | some problem =>
      obtain ⟨made, isSyntax⟩ :=
        item.problem?_of_malformed malformed (ofItems conventions items).tests
      simp [withoutMalformed, malformed, made, isSyntax]
    | none =>
      have kept : withoutMalformed [item] = [item] := by simp [withoutMalformed, malformed]
      rw [kept, ofItems_concat, note_eq, tests]
      cases made : item.problem? (ofItems conventions items).tests with
      | none => simp
      | some problem => simp [item.isSyntax_of_problem? malformed made]

/-- A registry without the malformed comments differs in the reports of these only. -/
theorem registry_withoutMalformed (conventions : Conventions) (items : List Item) :
    (ofItems conventions (withoutMalformed items)).registry =
      { (ofItems conventions items).registry with
        problems := (ofItems conventions items).registry.problems.filter
          fun problem => !problem.isSyntax } := by
  have references : (ofItems conventions (withoutMalformed items)).references =
      (ofItems conventions items).references := by
    rw [references_ofItems, references_ofItems, instructionsAmong_withoutMalformed]
  have symbols : (ofItems conventions (withoutMalformed items)).symbols =
      (ofItems conventions items).symbols := by
    rw [symbols_ofItems, symbols_ofItems,
      filterMap_withoutMalformed Item.declaration? fun _ _ => rfl]
  have files : (ofItems conventions (withoutMalformed items)).files =
      (ofItems conventions items).files := by
    rw [files_ofItems, files_ofItems, filterMap_withoutMalformed Item.file? fun _ _ => rfl]
  ext1
  · rw [groups_registry_ofItems, groups_registry_ofItems, instructionsAmong_withoutMalformed]
  · rw [symbols_registry_ofItems, symbols_registry_ofItems, symbols, references]
  · rw [problems_registry_ofItems, problems_registry_ofItems, problems_withoutMalformed,
      symbols, references, List.filter_append]
    congr 1
    refine (List.filter_eq_self.mpr ?_).symm
    intro problem hp
    obtain ⟨p, -, made⟩ := List.mem_filterMap.mp hp
    rw [p.2.isSyntax_of_problem? made, Bool.not_false]
  · exact files

end Collection

/-- The malformed items of files are their malformed sites, where each comment bears the name of its
file. -/
theorem filterMap_syntaxProblem?_itemsOf {marker : String} {files : List Scan}
    (own : ∀ file ∈ files, ∀ site ∈ file.sites, site.comment.filename = file.filename) :
    (itemsOf marker files).filterMap Item.syntaxProblem? = syntaxProblems marker files := by
  rw [itemsOf, syntaxProblems, List.filterMap_flatMap]
  apply List.flatMap_congr
  intro file hf
  have ofSite (current : String) (site : Site) (hs : site ∈ file.sites) :
      (site.item? marker current).bind Item.syntaxProblem? =
        (site.comment.malformed? marker).map fun why =>
          ⟨.malformed why, ⟨file.filename, site.comment.startLine⟩⟩ := by
    rw [Site.syntaxProblem?_item?, Comment.place, own file hf site hs]
  have read := file.filterMap_items ofSite
  simpa [Item.syntaxProblem?] using read

/-- A comment cannot be read just when its words hold a numeral that is too long. -/
theorem overlong?_eq_none_iff {comment : Comment} {marker : String} :
    comment.overlong? marker = none ↔
      ∀ digits, ¬ Overlong (directiveWords marker comment.text.toList) digits := by
  have reads : comment.overlong? marker = none ↔
      ∀ n, readWords (directiveWords marker comment.text.toList) ≠ .error (.numeralTooLong n) := by
    rw [Comment.overlong?, Comment.directive]
    cases readWords (directiveWords marker comment.text.toList) with
    | ok read => simp [Except.map]
    | error failure => cases failure <;> simp [Except.map]
  rw [reads]
  constructor
  · intro h digits overlong
    exact h _ (readWords_eq_numeralTooLong_iff.mpr ⟨digits, overlong, rfl⟩)
  · intro h n failed
    obtain ⟨digits, overlong, -⟩ := readWords_eq_numeralTooLong_iff.mp failed
    exact h digits overlong

theorem filename_of_mem_sites_scan {source : List Char} {filename marker : String} {site : Site}
    (h : site ∈ (scan source filename marker).sites) :
    site.comment.filename = (scan source filename marker).filename := by
  obtain ⟨span, -, rfl⟩ := List.mem_map.mp h
  rfl

/-- The scans of some sources, which are given with their names. -/
def scanAll (marker : String) (sources : List (String × List Char)) : List Scan :=
  sources.map fun source => scan source.2 source.1 marker

/-- A registry is built of all sources but those in which a directive gives a timeout by too long a
numeral. In it each malformed comment is reported once, at its own file and line and in the order
of the comments; and all else is as it is built without the malformed comments. -/
theorem buildRegistry_recovers (conventions : Conventions)
    (sources : List (String × List Char)) :
    ((∃ registry,
        (buildRegistry conventions (scanAll conventions.marker sources)).1 = .ok registry) ↔
      ∀ file ∈ scanAll conventions.marker sources, ∀ site ∈ file.sites, ∀ digits,
        ¬ Overlong (directiveWords conventions.marker site.comment.text.toList) digits) ∧
    ∀ registry, (buildRegistry conventions (scanAll conventions.marker sources)).1 = .ok registry →
      registry.problems.filter Problem.isSyntax =
          syntaxProblems conventions.marker (scanAll conventions.marker sources) ∧
        (buildRegistry conventions ((scanAll conventions.marker sources).map
            (Scan.wellFormed conventions.marker))).1 =
          .ok { registry with
            problems := registry.problems.filter fun problem => !problem.isSyntax } := by
  constructor
  · simp only [buildRegistry_eq_ok_iff, exists_and_left, exists_eq, and_true, Scan.Legible,
      overlong?_eq_none_iff]
  · intro registry built
    obtain ⟨legible, rfl⟩ := buildRegistry_eq_ok_iff.mp built
    have own : ∀ file ∈ scanAll conventions.marker sources, ∀ site ∈ file.sites,
        site.comment.filename = file.filename := by
      intro file hf site hs
      obtain ⟨source, -, rfl⟩ := List.mem_map.mp hf
      exact filename_of_mem_sites_scan hs
    constructor
    · have resolved : ((withPrior (Collection.ofItems conventions (itemsOf conventions.marker
          (scanAll conventions.marker sources))).references).filterMap fun p =>
          p.2.problem? (Collection.ofItems conventions (itemsOf conventions.marker
            (scanAll conventions.marker sources))).symbols p.1).filter Problem.isSyntax = [] := by
        apply List.filter_eq_nil_iff.mpr
        intro problem hp
        obtain ⟨p, -, made⟩ := List.mem_filterMap.mp hp
        simp [p.2.isSyntax_of_problem? made]
      rw [Collection.problems_registry_ofItems, List.filter_append, resolved, List.append_nil,
        Collection.filter_problems_ofItems, filterMap_syntaxProblem?_itemsOf own]
    · refine buildRegistry_eq_ok_iff.mpr ⟨?_, ?_⟩
      · intro file hf site hs
        obtain ⟨whole, hw, rfl⟩ := List.mem_map.mp hf
        exact legible whole hw site (List.mem_filter.mp hs).1
      · rw [itemsOf_wellFormed, Collection.registry_withoutMalformed]

theorem buildRegistry_recovers_ioFile_diskFile :
    ∃ registry, (buildRegistry .standard [ioFile, diskFile]).1 = .ok registry ∧
      registry.problems.filter Problem.isSyntax =
        [⟨.malformed (.invalidName "1st"), ⟨"io.c", 3⟩⟩] ∧
      (buildRegistry .standard ([ioFile, diskFile].map (Scan.wellFormed "cmocka"))).1 =
        .ok { registry with
          problems := registry.problems.filter fun problem => !problem.isSyntax } := by
  have built := buildRegistry_eq_ok_iff.mpr ⟨legible_ioFile_diskFile, rfl⟩
  have reported : syntaxProblems "cmocka" [ioFile, diskFile] =
      [⟨.malformed (.invalidName "1st"), ⟨"io.c", 3⟩⟩] := by
    decide +kernel
  obtain ⟨syntaxErrors, others⟩ := (buildRegistry_recovers .standard
    [("io.c", ioSource), ("disk.c", diskSource)]).2 _ built
  exact ⟨_, built, syntaxErrors.trans reported, others⟩

/-- A comment whose timeout has one digit more than are read. -/
def overlongSource : List Char :=
  oneWordComment "cmocka" (timeoutWord (List.replicate 4301 '1')).toList

/-- There are sources of which no registry is built. -/
theorem not_forall_exists_registry :
    ¬ ∀ (conventions : Conventions) (sources : List (String × List Char)),
      ∃ registry,
        (buildRegistry conventions (scanAll conventions.marker sources)).1 = .ok registry := by
  intro total
  obtain ⟨registry, built⟩ := total .standard [("t.c", overlongSource)]
  obtain ⟨legible, -⟩ := buildRegistry_eq_ok_iff.mp built
  -- the word has neither blanks nor stars, so it is all that the comment says
  have letters : ∀ c ∈ (timeoutWord (List.replicate 4301 '1')).toList,
      isBlank c = false ∧ c ≠ '*' := by
    have key : ("timeout".toList.all fun c => !isBlank c && c != '*') = true := by decide
    intro c hc
    rw [toList_timeoutWord, List.mem_append, List.mem_cons, List.mem_replicate] at hc
    rcases hc with hc | rfl | ⟨-, rfl⟩
    · simpa using List.all_eq_true.mp key c hc
    · decide
    · decide
  have starless : '*' ∉ (timeoutWord (List.replicate 4301 '1')).toList :=
    fun star => (letters '*' star).2 rfl
  obtain ⟨site, hs, text⟩ :=
    exists_site_oneWordComment "t.c" (by decide : '*' ∉ "cmocka".toList) starless
  have readable := overlong?_eq_none_iff.mp (legible _ List.mem_cons_self site hs)
    (List.replicate 4301 '1')
  apply readable
  rw [text, String.toList_ofList]
  have words : directiveWords "cmocka" overlongSource = _ :=
    directiveWords_oneWordComment (fun c hc => (letters c hc).1) starless
      (List.ne_nil_of_mem (colon_mem_timeoutWord _))
  rw [String.ofList_toList] at words
  refine ⟨[], [], words, ?_, ?_, ?_⟩
  · intro c hc
    rw [List.eq_of_mem_replicate hc]
    decide
  · rw [List.length_replicate]
    decide
  · exact ⟨(.bare, none, { Attributes.empty with timeout := some 1 }), by decide +kernel⟩

end AnnotatedTests
