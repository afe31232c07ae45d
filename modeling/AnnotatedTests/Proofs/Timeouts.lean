import AnnotatedTests.Proofs.Acceptance
import AnnotatedTests.Proofs.Delivery
import AnnotatedTests.Proofs.DirectiveForm
import AnnotatedTests.Proofs.Fixtures
import AnnotatedTests.Proofs.RunnerLines

/-! The timeouts in the tables of a runner. A timeout comes from the directive of its test, or from
the settings where the directive gives none; each of these is checked where it is read, and nothing
changes it on its way to the row of the test. -/
namespace AnnotatedTests
attribute [local irreducible] Comment.directive

/-- The number that the last cell of a row holds, read off the text of the row. -/
def rowTimeout? (line : String) : Option Nat :=
  match line.toList.reverse with
  | ',' :: '\x7d' :: ' ' :: before =>
    match before.dropWhile Char.isDigit with
    | ' ' :: ',' :: _ =>
      if (before.takeWhile Char.isDigit).isEmpty then none
      else some (Nat.ofDigitChars 10 (before.takeWhile Char.isDigit).reverse 0)
    | _ => none
  | _ => none

section Directives

/-- A word gives a timeout just when it is the key, a colon and a numeral. -/
theorem written_timeoutWord_iff {a : Attribute} {digits : List Char} :
    a.Written (timeoutWord digits) ↔
      ∃ seconds, a = .timeout seconds ∧ TimeoutNumeral digits seconds := by
  constructor
  · rintro (⟨value, has, letters⟩ | ⟨-, flag⟩)
    · have cut := cutAtColon?_ofList (colon_notMem_word a.key) value.toList
      rw [← letters, String.ofList_toList, cutAtColon?_timeoutWord, String.ofList_toList,
        String.ofList_toList] at cut
      obtain ⟨key, rfl⟩ := Prod.mk.inj (Option.some.inj cut)
      cases a with
      | timeout seconds => exact ⟨seconds, rfl, by simpa [Attribute.HasValue] using has⟩
      | _ => simp [Attribute.key, AttributeKey.word] at key
    · exact absurd (flag ▸ colon_mem_timeoutWord digits) (by decide)
  · rintro ⟨seconds, rfl, numeral⟩
    refine .inl ⟨String.ofList digits, ?_, ?_⟩
    · rwa [Attribute.HasValue, String.toList_ofList]
    · rw [toList_timeoutWord]
      exact congrArg (fun value => "timeout".toList ++ ':' :: value) String.toList_ofList.symm

/-- The timeout of a list of attributes is the one that is in it. -/
theorem timeout_ofList_eq_some_iff {attributes : List Attribute}
    (distinct : (attributes.map Attribute.key).Nodup) {seconds : Nat} :
    (Attributes.ofList attributes).timeout = some seconds ↔
      .timeout seconds ∈ attributes := by
  have only {a : Attribute} {n : Nat} (h : a.timeout? = some n) : a = .timeout n := by
    cases a <;> simp_all [Attribute.timeout?]
  constructor
  · intro found
    obtain ⟨a, ha, own⟩ := List.exists_of_findSome?_eq_some found
    rwa [only own] at ha
  · intro member
    obtain ⟨n, found⟩ : ∃ n, attributes.findSome? Attribute.timeout? = some n := by
      rw [← Option.isSome_iff_exists, List.findSome?_isSome_iff]
      exact ⟨_, member, rfl⟩
    obtain ⟨a, ha, own⟩ := List.exists_of_findSome?_eq_some found
    -- two timeouts have the same key, so they are one
    rw [only own] at ha
    obtain rfl := Attribute.timeout.inj (List.inj_on_of_nodup_map distinct ha member rfl)
    exact found

/-- A word with a colon can only be that of an attribute. -/
theorem DirectiveForm.Spells.mem_attributeWords {form : DirectiveForm} {words : List String}
    (spells : form.Spells words) {word : String} (colon : ':' ∈ word.toList)
    (member : word ∈ words) : word ∈ form.attributeWords := by
  rw [spells.split, List.append_assoc, List.mem_append, List.mem_append] at member
  rcases member with stated | named | given
  · obtain ⟨kind, -, rfl⟩ := Option.map_eq_some_iff.mp (Option.mem_toList.mp stated)
    have noColon : ':' ∉ kind.label.toList := by cases kind <;> decide
    exact absurd colon noColon
  · exact absurd colon (spells.name word (Option.mem_toList.mp named)).1
  · exact given

/-- The timeout of a directive is that of its only word which gives one. -/
theorem timeout_of_directive {comment : Comment} {marker : String} {d : Directive}
    (read : comment.directive marker = .ok d) :
    (∀ digits, timeoutWord digits ∈ directiveWords marker comment.text.toList →
        ∃ seconds, TimeoutNumeral digits seconds ∧ d.attributes.timeout = some seconds) ∧
      ((∀ digits, timeoutWord digits ∉ directiveWords marker comment.text.toList) →
        d.attributes.timeout = none) := by
  obtain ⟨form, spells, rfl⟩ := exists_form_of_directive read
  generalize directiveWords marker comment.text.toList = words at spells ⊢
  constructor
  · intro digits member
    obtain ⟨a, ha, written⟩ := exists_related_of_mem_right spells.written
      (spells.mem_attributeWords (colon_mem_timeoutWord digits) member)
    obtain ⟨seconds, rfl, numeral⟩ := written_timeoutWord_iff.mp written
    exact ⟨seconds, numeral, (timeout_ofList_eq_some_iff spells.distinct).mpr ha⟩
  · intro absent
    rw [Option.eq_none_iff_forall_ne_some]
    intro seconds given
    have member := (timeout_ofList_eq_some_iff spells.distinct).mp given
    obtain ⟨word, hw, written⟩ := exists_related_of_mem_left spells.written member
    -- the word of a timeout is its key, a colon and a numeral
    rcases written with ⟨value, -, letters⟩ | ⟨flag, -⟩
    · have own : word = timeoutWord value.toList := by
        rw [← String.toList_inj, letters, toList_timeoutWord]
        rfl
      refine absent value.toList ?_
      rw [← own, spells.split]
      exact List.mem_append_right _ hw
    · cases flag

end Directives

section Rows

/-- A number that is written in the last cell of a row is read back. -/
theorem rowTimeout?_row {test : Test} {seconds : Nat} (timeout : test.timeout = seconds) :
    rowTimeout? test.row = some seconds := by
  have unsigned : toString (seconds : Int) = toString seconds := rfl
  have digits : (toString seconds).toList = Nat.toDigits 10 seconds := Nat.toList_repr
  have all : ∀ c ∈ (Nat.toDigits 10 seconds).reverse, c.isDigit = true := by
    intro c hc
    exact Nat.isDigit_of_mem_toDigits (by decide) (by decide) (List.mem_reverse.mp hc)
  obtain ⟨front, text⟩ : ∃ front, test.row = front ++ ", " ++ toString test.timeout ++ " \x7d," :=
    ⟨_, rfl⟩
  -- read from its end, a row closes with a brace and a comma, and the digits come before these
  have backwards : test.row.toList.reverse =
      ',' :: '\x7d' :: ' ' ::
        ((Nat.toDigits 10 seconds).reverse ++ ' ' :: ',' :: front.toList.reverse) := by
    rw [text, timeout, unsigned]
    simp only [String.toList_append, List.reverse_append, digits]
    simp
  have noDigit : ' '.isDigit = false := by decide
  have nonempty : Nat.toDigits 10 seconds ≠ [] := Nat.toDigits_ne_nil
  rw [rowTimeout?, backwards]
  simp only [List.dropWhile_append_of_pos all, List.takeWhile_append_of_pos all]
  simp [noDigit, nonempty]

end Rows

section Tests
variable {marker : String} {files : List Scan}

/-- Where all sites ask for different tests, a site is the only one that asks for its test. -/
theorem filter_test?_eq_singleton {prior later : List Site} {site : Site} {name : String}
    (distinct : (files.flatMap fun file => file.sites.filterMap (Site.test? marker)).Nodup)
    (split : files.flatMap Scan.sites = prior ++ site :: later)
    (asks : site.test? marker = some name) :
    (files.flatMap Scan.sites).filter (fun site => site.test? marker = some name) = [site] := by
  rw [← List.filterMap_flatMap, split, List.filterMap_append, List.filterMap_cons_some asks]
    at distinct
  -- its name stands once among those that are asked for, so it comes neither before nor behind
  obtain ⟨-, behind, apart⟩ := List.nodup_append.mp distinct
  have noEarlier : prior.filter (fun site => site.test? marker = some name) = [] := by
    rw [List.filter_eq_nil_iff]
    intro other ho same
    exact apart name (List.mem_filterMap.mpr ⟨other, ho, of_decide_eq_true same⟩) name
      List.mem_cons_self rfl
  have noLater : later.filter (fun site => site.test? marker = some name) = [] := by
    rw [List.filter_eq_nil_iff]
    intro other ho same
    exact (List.nodup_cons.mp behind).1
      (List.mem_filterMap.mpr ⟨other, ho, of_decide_eq_true same⟩)
  rw [split, List.filter_append, noEarlier, List.filter_cons_of_pos (by simpa using asks), noLater]
  rfl

/-- Sites of files that give a registry without problems ask for different tests. -/
theorem nodup_tests_of_clean {conventions : Conventions} {registry : Registry}
    (built : (buildRegistry conventions files).1 = .ok registry) (clean : registry.problems = []) :
    (files.flatMap fun file => file.sites.filterMap (Site.test? conventions.marker)).Nodup := by
  obtain ⟨-, rfl⟩ := buildRegistry_eq_ok_iff.mp built
  rw [Collection.problems_registry_ofItems, List.append_eq_nil_iff] at clean
  obtain ⟨-, -, distinct⟩ := Collection.problems_ofItems_eq_nil_iff.mp clean.1
  rwa [← instructionsOf, testNames_instructionsOf] at distinct

theorem exists_directive_of_mem_tests {conventions : Conventions} {registry : Registry}
    (built : (buildRegistry conventions files).1 = .ok registry) (clean : registry.problems = [])
    {group : Group} (hg : group ∈ registry.groups) {test : Test} (ht : test ∈ group.tests) :
    ∃ site d, (files.flatMap Scan.sites).filter
        (fun site => site.test? conventions.marker = some test.name) = [site] ∧
      site.comment.directive conventions.marker = .ok d ∧
      test.timeout = (d.attributes.timeout.map fun n => (n : Int)).getD
        conventions.defaultTimeout := by
  have distinct := nodup_tests_of_clean built clean
  obtain ⟨-, rfl⟩ := buildRegistry_eq_ok_iff.mp built
  rw [Collection.groups_registry_ofItems, ← instructionsOf] at hg
  obtain ⟨mention, -, rfl⟩ := List.mem_map.mp hg
  obtain ⟨own, accepted, rfl⟩ := List.mem_map.mp ht
  obtain ⟨before, i, after, split, asks, fresh, made⟩ :=
    exists_first_instruction (List.mem_filter.mp accepted).1
  obtain ⟨prior, site, later, sites, read, first, -⟩ := exists_first_site split asks fresh
  refine ⟨site, i.directive, filter_test?_eq_singleton distinct sites first, read, ?_⟩
  -- completing a test gives it fixtures and leaves its timeout
  have kept : own.timeout = (i.asTest conventions own.name).timeout := congrArg Test.timeout made
  exact kept

end Tests

theorem readCount_eq_ok_iff {most n : Nat} {value : Value} :
    readCount (some most) value = .ok n ↔ value = .int n ∧ 1 ≤ n ∧ n ≤ most := by
  simp [readCount_ok_iff]

/-- The timeout of a test is one that an alarm can count. It is the number that the directive of the
test gives, however many zeros this begins with, or else the one that is set. -/
theorem exists_timeout_of_mem_tests {settings : Settings} (positive : 1 ≤ settings.defaultTimeout)
    (fits : settings.defaultTimeout ≤ 4294967295) {files : List Scan} {registry : Registry}
    (built : (buildRegistry ⟨settings.marker, settings.defaultTimeout⟩ files).1 = .ok registry)
    (clean : registry.problems = []) {test : Test} (ht : test ∈ registry.tests) :
    ∃ seconds : Nat, test.timeout = seconds ∧ 1 ≤ seconds ∧ seconds ≤ 4294967295 ∧
      ∃ site, (files.flatMap Scan.sites).filter
          (fun site => site.test? settings.marker = some test.name) = [site] ∧
        (∀ digits,
          timeoutWord digits ∈ directiveWords settings.marker site.comment.text.toList →
            TimeoutNumeral digits seconds) ∧
        ((∀ digits,
          timeoutWord digits ∉ directiveWords settings.marker site.comment.text.toList) →
            seconds = settings.defaultTimeout) := by
  obtain ⟨group, hg, member⟩ := List.mem_flatMap.mp ht
  obtain ⟨site, d, only, read, given⟩ := exists_directive_of_mem_tests built clean hg member
  obtain ⟨stated, unstated⟩ := timeout_of_directive read
  by_cases own : ∃ digits,
      timeoutWord digits ∈ directiveWords settings.marker site.comment.text.toList
  · obtain ⟨digits, member⟩ := own
    obtain ⟨seconds, numeral, set⟩ := stated digits member
    have timeout : test.timeout = seconds := by simpa [set] using given
    refine ⟨seconds, timeout, numeral.positive, numeral.fits, site, only, ?_,
      fun none => absurd member (none digits)⟩
    -- a directive that gives several timeouts is malformed
    intro others mem
    obtain ⟨same, numeral', set'⟩ := stated others mem
    rw [set, Option.some.injEq] at set'
    exact set' ▸ numeral'
  · have none := not_exists.mp own
    have timeout : test.timeout = settings.defaultTimeout := by
      simpa [unstated none] using given
    exact ⟨settings.defaultTimeout, timeout, positive, fits, site, only,
      fun digits member => absurd member (none digits), fun _ => rfl⟩

/-- A runner has one row for each test in its tables, and no other rows. They hold timeouts that an
alarm can count: each is the number that the directive of its test gives, however many zeros this
begins with, or else the one that is set. -/
theorem timeouts_of_generate {file given : Entries} {settings : Settings}
    (loaded : (loadSettings file given).1 = .ok settings) {files : List Scan}
    {path : Option (Given String)} {generated : Generated} {runner manifest : String}
    (result : (generate settings files path).1 = .ok generated)
    (texts : generated.outputs = some (runner, manifest)) :
    (file.overlay given.given).effective .defaultTimeout = .int settings.defaultTimeout ∧
      ∃ includes lines : List String, settings.includes = includes.map Value.text ∧
        lines = runnerLines generated.registry (includes.map includeLine) ∧
        runner = String.join (lines.map fun line => line ++ "\n") ∧
        List.Forall₂ (fun test line => line = test.row ∧
          ∃ seconds, rowTimeout? line = some seconds ∧ 1 ≤ seconds ∧ seconds ≤ 4294967295 ∧
            ∃ site, (files.flatMap Scan.sites).filter
                (fun site => site.test? settings.marker = some test.name) = [site] ∧
              (∀ digits,
                timeoutWord digits ∈ directiveWords settings.marker site.comment.text.toList →
                  TimeoutNumeral digits seconds) ∧
              ((∀ digits,
                timeoutWord digits ∉ directiveWords settings.marker site.comment.text.toList) →
                  seconds = settings.defaultTimeout))
          generated.registry.tests (testRows lines) := by
  obtain ⟨-, timeout, -⟩ := Entries.settings_eq_ok_iff.mp loaded
  obtain ⟨default, positive, fits⟩ := readCount_eq_ok_iff.mp timeout
  obtain ⟨built, clean, rendered, -⟩ := of_generate result texts
  obtain ⟨includes, headers, rfl⟩ := exists_texts_of_renderRunner rendered
  refine ⟨default, includes, _, headers, rfl, rfl, ?_⟩
  rw [testRows_runnerLines, List.forall₂_map_right_iff, List.forall₂_same]
  intro test ht
  obtain ⟨seconds, own, rest⟩ := exists_timeout_of_mem_tests positive fits built clean ht
  exact ⟨rfl, seconds, rowTimeout?_row own, rest⟩

/-- A registry without problems gives both texts, if all headers that are set are texts. -/
theorem exists_generate_of_clean {settings : Settings} {files : List Scan} {registry : Registry}
    (built :
      (buildRegistry ⟨settings.marker, settings.defaultTimeout⟩ files).1 = .ok registry)
    (clean : registry.problems = []) {includes : List String}
    (headers : settings.includes = includes.map Value.text) (path : Option (Given String)) :
    ∃ runner manifest,
      (generate settings files path).1 = .ok ⟨registry, some (runner, manifest)⟩ := by
  have rendered := renderRunner_of_clean clean includes
  have listed := renderManifest_of_clean clean settings.manifestFormat path
  have ok : registry.ok = true := by rw [Registry.ok, clean, List.isEmpty_nil]
  refine ⟨joinLines (runnerLines registry (includes.map includeLine)),
    manifestText settings.manifestFormat path registry.entries, ?_⟩
  unfold generate
  dsimp only
  rw [built, headers]
  dsimp only
  rw [ok, rendered, listed]
  rfl

/-- Two tests, of which one gives a timeout. -/
def clockFile : Scan :=
  scan
    (textOfLines
      ["/*!cmocka timeout:007 */", "void ticks(void **state) \x7b\x7d",
        "/*!cmocka */", "void rests(void **state) \x7b\x7d"])
    "clock.c" "cmocka"

theorem timeouts_of_clockFile :
    ∃ settings generated runner manifest lines,
      (loadSettings [("default_timeout", .int 30)] []).1 = .ok settings ∧
        (generate settings [clockFile] none).1 = .ok generated ∧
        generated.outputs = some (runner, manifest) ∧
        runner = String.join (lines.map fun line => line ++ "\n") ∧
        (testRows lines).map rowTimeout? = [some 7, some 30] ∧
        ∀ line ∈ testRows lines,
          ∃ seconds, rowTimeout? line = some seconds ∧ 1 ≤ seconds ∧ seconds ≤ 4294967295 := by
  have loaded : (loadSettings [("default_timeout", .int 30)] []).1 =
      .ok ⟨defaultMarker, 30, .json, 1, []⟩ := rfl
  have legible : ∀ file ∈ [clockFile], file.Legible "cmocka" := by decide +kernel
  obtain ⟨registry, built, clean, rows⟩ : ∃ registry,
      (buildRegistry ⟨"cmocka", 30⟩ [clockFile]).1 = .ok registry ∧ registry.problems = [] ∧
        (registry.tests.map Test.row).map rowTimeout? = [some 7, some 30] :=
    ⟨_, buildRegistry_eq_ok_iff.mpr ⟨legible, rfl⟩, by decide +kernel, by decide +kernel⟩
  have headers : (⟨defaultMarker, 30, .json, 1, []⟩ : Settings).includes =
      ([] : List String).map Value.text := rfl
  obtain ⟨runner, manifest, result⟩ := exists_generate_of_clean built clean headers none
  obtain ⟨-, includes, lines, -, -, text, timeouts⟩ := timeouts_of_generate loaded result rfl
  have listed : testRows lines = registry.tests.map Test.row := by
    rw [← List.forall₂_eq_eq_eq, List.forall₂_map_right_iff]
    exact (timeouts.imp fun test line row => row.1).flip
  refine ⟨_, _, runner, manifest, lines, loaded, result, rfl, text, ?_, ?_⟩
  · rw [listed, rows]
  · intro line hl
    obtain ⟨-, -, -, seconds, read, positive, fits, -⟩ := exists_related_of_mem_right timeouts hl
    exact ⟨seconds, read, positive, fits⟩

end AnnotatedTests
