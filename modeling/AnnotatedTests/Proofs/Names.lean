import AnnotatedTests.Proofs.Locations

/-! The names in a registry. Whatever a name comes from, it is an identifier: the heads of
declarations and the words of directives are checked before they give one, and the paths of files
are changed. So every name can stand in the text of a program as it is. -/
namespace AnnotatedTests
attribute [local irreducible] Comment.directive

abbrev IsIdentifier (name : String) : Prop := isIdentifier name.toList = true

/-- Whether a name can stand in a program as it is: nothing in it ends or separates what is written
around it, and a string literal that is opened before it is closed by the quote behind it. -/
structure Verbatim (name : String) : Prop where
  identifier : IsIdentifier name
  plain : ∀ c ∈ name.toList, isBlank c = false ∧ c ∉ ['"', '\'', '\\', ',', '\x7b', '\x7d']
  literal : ∀ rest, literalRest? '"' (name.toList ++ '"' :: rest) = some (name.toList.length + 1)

/-- The names in a registry: of groups, tests and symbols, and of the fixtures of groups and
tests. -/
inductive Registry.Names (registry : Registry) : String → Prop where
  | group {group : Group} : group ∈ registry.groups → registry.Names group.name
  | groupFixture {group : Group} {slot : Slot} {name : String} : group ∈ registry.groups →
    group.fixture? slot = some name → registry.Names name
  | test {test : Test} : test ∈ registry.tests → registry.Names test.name
  | testGroup {test : Test} : test ∈ registry.tests → registry.Names test.group
  | testSymbol {test : Test} : test ∈ registry.tests → registry.Names test.symbol
  | testFixture {test : Test} {slot : Slot} {name : String} : test ∈ registry.tests →
    test.fixture? slot = some name → registry.Names name
  | symbol {s : Symbol} : s ∈ registry.symbols → registry.Names s.identifier

section Characters

theorem isWordChar_of_isBlank {c : Char} (h : isBlank c = true) : isWordChar c = false := by
  -- no letter and no number is among the blanks beyond ASCII
  have far : ∀ n ∈ [0x85, 0xA0, 0x1680, 0x2000, 0x2001, 0x2002, 0x2003, 0x2004, 0x2005, 0x2006,
      0x2007, 0x2008, 0x2009, 0x200A, 0x2028, 0x2029, 0x202F, 0x205F, 0x3000],
      alphanumericRanges.covers n = false := by
    decide +kernel
  have notUnderscore : c ≠ '_' := by
    rintro rfl
    exact absurd h (by decide)
  simp only [isBlank, Bool.or_eq_true, Bool.and_eq_true, decide_eq_true_eq, beq_iff_eq] at h
  by_cases small : c.toNat < 128
  · have other : isAsciiAlphanumeric c = false := by
      simp only [isAsciiAlphanumeric, Bool.or_eq_false_iff, Bool.and_eq_false_iff,
        decide_eq_false_iff_not]
      omega
    simp [isWordChar, small, other, notUnderscore]
  · have uncovered : alphanumericRanges.covers c.toNat = false := by
      apply far
      simp only [List.mem_cons, List.not_mem_nil, or_false]
      omega
    simp [isWordChar, small, uncovered]

/-- A literal is closed by the first quote, where no backslash and no line end comes before it. -/
theorem literalRest?_append {quote : Char} (hq : quote ≠ '\\') {text : List Char}
    (plain : ∀ c ∈ text, c ≠ quote ∧ c ≠ '\\' ∧ c ≠ '\n') (rest : List Char) :
    literalRest? quote (text ++ quote :: rest) = some (text.length + 1) := by
  induction text with
  | nil =>
    rw [List.nil_append, literalRest?.eq_def]
    simp [hq]
  | cons c text ih =>
    obtain ⟨inside, noEscape, noEnd⟩ := plain c List.mem_cons_self
    have behind := ih fun d hd => plain d (List.mem_cons_of_mem c hd)
    rw [List.cons_append, literalRest?.eq_def]
    simp [inside, noEscape, noEnd, behind]

theorem verbatim_of_isIdentifier {name : String} (h : IsIdentifier name) : Verbatim name := by
  have word := isWordChar_of_mem_identifier h
  have plain : ∀ c ∈ name.toList,
      isBlank c = false ∧ c ∉ ['"', '\'', '\\', ',', '\x7b', '\x7d'] := by
    intro c hc
    constructor
    · by_contra blank
      rw [Bool.not_eq_false] at blank
      exact Bool.false_ne_true ((isWordChar_of_isBlank blank).symm.trans (word c hc))
    · intro mark
      have apart : ['"', '\'', '\\', ',', '\x7b', '\x7d'].all (fun d => !isWordChar d) = true := by
        decide
      have noWord : isWordChar c = false := by simpa using List.all_eq_true.mp apart c mark
      exact Bool.false_ne_true (noWord.symm.trans (word c hc))
  refine ⟨h, plain, ?_⟩
  apply literalRest?_append (by decide)
  intro c hc
  obtain ⟨notBlank, noMark⟩ := plain c hc
  refine ⟨?_, ?_, ?_⟩
  · rintro rfl
    exact noMark (by simp)
  · rintro rfl
    exact noMark (by simp)
  · rintro rfl
    exact Bool.false_ne_true (notBlank.symm.trans isBlank_newline)

end Characters

theorem isNameChar_cases {c : Char} (h : isNameChar c = true) :
    c.toNat < 128 ∧ isWordChar c = true ∧ (isAsciiDigit c = false → beginsIdentifier c = true) := by
  simp only [isNameChar, Bool.or_eq_true, Bool.and_eq_true, decide_eq_true_eq, beq_iff_eq] at h
  have small : c.toNat < 128 := by
    rcases h with h | rfl
    · omega
    · decide
  refine ⟨small, ?_, ?_⟩
  · simp only [isWordChar, small, if_true, isAsciiAlphanumeric, Bool.or_eq_true, Bool.and_eq_true,
      decide_eq_true_eq, beq_iff_eq]
    exact h
  · intro noDigit
    simp only [isAsciiDigit, Bool.and_eq_false_iff, decide_eq_false_iff_not] at noDigit
    simp only [beginsIdentifier, Bool.or_eq_true, Bool.and_eq_true, decide_eq_true_eq, beq_iff_eq]
    rcases h with h | underscore
    · left; omega
    · exact Or.inr underscore

/-- The group that is named for a file has an identifier of ASCII characters as its name. -/
theorem isIdentifier_defaultGroupName (filename : String) :
    IsIdentifier (defaultGroupName filename) ∧
      ∀ c ∈ (defaultGroupName filename).toList, c.toNat < 128 := by
  have changed : ∀ c ∈ ((baseName filename.toList).takeWhile (· ≠ '.')).map
      (fun c => if isNameChar c then c else '_'), isNameChar c = true := by
    intro c hc
    obtain ⟨d, -, rfl⟩ := List.mem_map.mp hc
    by_cases nameChar : isNameChar d = true
    · simp [nameChar]
    · simp only [nameChar, Bool.false_eq_true, if_false]
      decide
  unfold defaultGroupName
  simp only
  generalize ((baseName filename.toList).takeWhile (· ≠ '.')).map
    (fun c => if isNameChar c then c else '_') = name at changed ⊢
  cases name with
  | nil =>
    refine ⟨by decide, ?_⟩
    intro c hc
    obtain rfl := List.mem_singleton.mp hc
    decide
  | cons c rest =>
    have others : ∀ d ∈ c :: rest, isWordChar d = true ∧ d.toNat < 128 := by
      intro d hd
      obtain ⟨small, word, -⟩ := isNameChar_cases (changed d hd)
      exact ⟨word, small⟩
    rw [IsIdentifier, String.toList_ofList]
    -- a digit cannot come first, so an underscore is put before it
    by_cases digit : isAsciiDigit c = true
    · rw [if_pos digit]
      refine ⟨(isIdentifier_cons _ _).mpr ⟨by decide, fun d hd => (others d hd).1⟩, ?_⟩
      intro d hd
      rcases List.mem_cons.mp hd with rfl | hd
      · decide
      · exact (others d hd).2
    · rw [if_neg digit]
      rw [Bool.not_eq_true] at digit
      have first := (isNameChar_cases (changed c List.mem_cons_self)).2.2 digit
      refine ⟨(isIdentifier_cons _ _).mpr ⟨first, ?_⟩, fun d hd => (others d hd).2⟩
      intro d hd
      exact (others d (List.mem_cons_of_mem c hd)).1

section Attributes

/-- Whether the names that attributes give are identifiers. -/
structure Attributes.WellNamed (attributes : Attributes) : Prop where
  group : ∀ name, attributes.group = some name → IsIdentifier name
  setup : ∀ name, attributes.setup = some name → IsIdentifier name
  teardown : ∀ name, attributes.teardown = some name → IsIdentifier name

namespace Attributes
variable {given : Attributes}

theorem WellNamed.fixture (wellNamed : given.WellNamed) {slot : Slot} {name : String}
    (named : given.fixture? slot = some name) : IsIdentifier name := by
  cases slot with
  | setup => exact wellNamed.setup name named
  | teardown => exact wellNamed.teardown name named

/-- A word that gives a name is written with an identifier. -/
theorem wellNamed_ofList {attributes : List Attribute}
    (written : ∀ a ∈ attributes, ∃ word, a.Written word) : (ofList attributes).WellNamed := by
  have checked {a : Attribute} (ha : a ∈ attributes) {name : String}
      (named : a = .group name ∨ a = .setup name ∨ a = .teardown name) : IsIdentifier name := by
    obtain ⟨word, ⟨value, has, -⟩ | ⟨flag, -⟩⟩ := written a ha
    · rcases named with rfl | rfl | rfl <;> exact has.2
    · rcases named with rfl | rfl | rfl <;> cases flag
  refine ⟨?_, ?_, ?_⟩
  · intro name given
    obtain ⟨a, ha, own⟩ := List.exists_of_findSome?_eq_some given
    cases a with
    | group other =>
      obtain rfl := Option.some.inj own
      exact checked ha (.inl rfl)
    | _ => cases own
  · intro name given
    obtain ⟨a, ha, own⟩ := List.exists_of_findSome?_eq_some given
    cases a with
    | setup other =>
      obtain rfl := Option.some.inj own
      exact checked ha (.inr (.inl rfl))
    | _ => cases own
  · intro name given
    obtain ⟨a, ha, own⟩ := List.exists_of_findSome?_eq_some given
    cases a with
    | teardown other =>
      obtain rfl := Option.some.inj own
      exact checked ha (.inr (.inr rfl))
    | _ => cases own

end Attributes

theorem wellNamed_of_directive {comment : Comment} {marker : String} {d : Directive}
    (read : comment.directive marker = .ok d) :
    (∀ name, d.name = some name → IsIdentifier name) ∧ d.attributes.WellNamed := by
  obtain ⟨form, spells, rfl⟩ := exists_form_of_directive read
  refine ⟨fun name named => (spells.name name named).2.2, Attributes.wellNamed_ofList ?_⟩
  intro a ha
  obtain ⟨word, -, spelled⟩ := exists_related_of_mem_left spells.written ha
  exact ⟨word, spelled⟩

end Attributes

section Sources
variable {marker : String} {sources : List (String × List Char)}

/-- The last token of a head names a function only if it is an identifier. -/
theorem isIdentifier_of_declaration? {shape : Shape} {place : Place} {d : Declaration}
    (h : shape.declaration? place = some d) : IsIdentifier d.identifier := by
  unfold Shape.declaration? at h
  split at h
  · simp at h
  · next name reversed _ =>
    dsimp only at h
    split_ifs at h with unnamed
    obtain rfl := Option.some.inj h
    have named : isIdentifier name = true := by
      by_contra other
      exact unnamed (by simp [other])
    simpa [IsIdentifier] using named

theorem Recognised.isIdentifier {source : String × List Char} {d : Declaration}
    (h : Recognised marker source d) : IsIdentifier d.identifier := by
  obtain ⟨offset, shape, -, declares⟩ := h.exists_declarationAt
  exact isIdentifier_of_declaration? declares

theorem isIdentifier_of_mem_declarationsOf {name : String} {d : Declaration}
    (h : d ∈ declarationsOf marker (scanAll marker sources) name) : IsIdentifier name := by
  obtain ⟨rfl, source, -, recognised⟩ := exists_recognised_of_mem_declarationsOf h
  exact recognised.isIdentifier

/-- Whether all names that an instruction can give are identifiers, and a group directive has
one. -/
structure Instruction.WellNamed (i : Instruction) : Prop where
  name : ∀ name, i.directive.name = some name → IsIdentifier name
  group : i.directive.kind = .group → ∃ group, i.directive.name = some group
  attributes : i.directive.attributes.WellNamed
  following : ∀ d, i.following = some d → IsIdentifier d.identifier
  current : IsIdentifier i.current

theorem isIdentifier_groupBehind (filename : String) (before : List Site) :
    IsIdentifier (groupBehind marker filename before) := by
  induction before using List.reverseRecOn with
  | nil => exact (isIdentifier_defaultGroupName filename).1
  | append_singleton before site ih =>
    rw [groupBehind_concat]
    cases named : site.comment.group? marker with
    | none => exact ih
    | some group =>
      obtain ⟨d, read, -, name⟩ := Comment.group?_eq_some_iff.mp named
      exact (wellNamed_of_directive read).1 group name

theorem wellNamed_of_mem_instructionsOf {i : Instruction}
    (h : i ∈ instructionsOf marker (scanAll marker sources)) : i.WellNamed := by
  obtain ⟨file, hf, before, site, later, split, read, following, current⟩ :=
    mem_instructionsOf.mp h
  obtain ⟨source, -, rfl⟩ := List.mem_map.mp hf
  obtain ⟨name, attributes⟩ := wellNamed_of_directive read
  refine ⟨name, exists_name_of_group read, attributes, ?_, ?_⟩
  · intro d behind
    have hs : site ∈ (scan source.2 source.1 marker).sites := by simp [split]
    have recognised : Recognised marker source d := Or.inr ⟨site, hs, following ▸ behind⟩
    exact recognised.isIdentifier
  · rw [current]
    exact isIdentifier_groupBehind _ _

end Sources

namespace Instruction
variable {i : Instruction}

theorem WellNamed.test (wellNamed : i.WellNamed) {name : String} (asked : i.test? = some name) :
    IsIdentifier name := by
  obtain ⟨-, target⟩ := test?_eq_some_iff.mp asked
  unfold Directive.target? at target
  cases named : i.directive.name with
  | some own =>
    obtain rfl : own = name := by simpa [named] using target
    exact wellNamed.name own named
  | none =>
    obtain ⟨d, following, rfl⟩ : ∃ d, i.following = some d ∧ d.identifier = name := by
      simpa [named] using target
    exact wellNamed.following d following

theorem WellNamed.destination (wellNamed : i.WellNamed) : IsIdentifier i.destination := by
  unfold Instruction.destination
  cases group : i.directive.attributes.group with
  | none => exact wellNamed.current
  | some name => exact wellNamed.attributes.group name group

theorem WellNamed.visit (wellNamed : i.WellNamed) {taken : List String}
    {visit : String × (Draft → Draft)} (visits : i.visit? taken = some visit) :
    IsIdentifier visit.1 := by
  unfold Instruction.visit? at visits
  split_ifs at visits with kind
  · obtain ⟨group, named⟩ := wellNamed.group kind
    rw [named, Option.some.injEq] at visits
    rw [← visits]
    exact wellNamed.name group named
  · obtain ⟨name, -, rfl⟩ := Option.map_eq_some_iff.mp visits
    exact wellNamed.destination

end Instruction

section Registry
variable {instructions : List Instruction} (wellNamed : ∀ i ∈ instructions, i.WellNamed)
include wellNamed

theorem isIdentifier_of_mem_mentions {mention : String × Place}
    (h : mention ∈ mentions instructions) : IsIdentifier mention.1 := by
  obtain ⟨⟨prior, i⟩, hi, visited⟩ := List.mem_filterMap.mp h
  obtain ⟨visit, visits, rfl⟩ := Option.map_eq_some_iff.mp visited
  exact (wellNamed i (mem_of_mem_withPrior hi)).visit visits

theorem isIdentifier_of_groupFixture? {group name : String} {slot : Slot}
    (given : groupFixture? instructions group slot = some name) : IsIdentifier name := by
  obtain ⟨i, hi, gives⟩ := List.mem_filterMap.mp (List.mem_of_getLast? given)
  unfold Instruction.groupFixture? at gives
  split_ifs at gives with own
  exact (wellNamed i hi).attributes.fixture gives

/-- The names of a test that is added: its own, that of its group, and those of its fixtures. -/
theorem isIdentifier_of_mem_acceptedTests {conventions : Conventions} {test : Test}
    (h : test ∈ acceptedTests conventions instructions) :
    IsIdentifier test.name ∧ IsIdentifier test.group ∧
      ∀ slot name, test.fixture? slot = some name → IsIdentifier name := by
  obtain ⟨i, hi, asked⟩ := List.mem_filterMap.mp (mem_of_mem_firsts Test.name h)
  obtain ⟨name, asks, rfl⟩ := Option.map_eq_some_iff.mp asked
  have own := wellNamed i hi
  refine ⟨own.test asks, own.destination, ?_⟩
  intro slot fixture named
  rw [fixture?_asTest] at named
  exact own.attributes.fixture named

end Registry

/-- Every symbol that is collected comes from a declaration of its name. -/
theorem exists_declaration_of_mem_symbols {conventions : Conventions} {files : List Scan}
    {s : Symbol}
    (h : s ∈ (Collection.ofItems conventions (itemsOf conventions.marker files)).symbols) :
    ∃ d, d ∈ declarationsOf conventions.marker files s.identifier := by
  apply List.exists_mem_of_ne_nil
  intro none_declared
  have absent : (Collection.ofItems conventions
      (itemsOf conventions.marker files)).symbols.lookup? s.identifier = none := by
    rw [lookup?_symbols_itemsOf, none_declared, symbolOf_nil]
  simpa using List.find?_eq_none.mp absent s h

/-- Every name in a registry that is built of sources is an identifier, with or without problems. -/
theorem isIdentifier_of_names {conventions : Conventions} {sources : List (String × List Char)}
    {registry : Registry}
    (built : (buildRegistry conventions (scanAll conventions.marker sources)).1 = .ok registry)
    {name : String} (names : registry.Names name) : IsIdentifier name := by
  obtain ⟨-, rfl⟩ := buildRegistry_eq_ok_iff.mp built
  have wellNamed : ∀ i ∈ instructionsAmong (itemsOf conventions.marker
      (scanAll conventions.marker sources)), i.WellNamed :=
    fun i hi => wellNamed_of_mem_instructionsOf hi
  have ofTest {test : Test} (ht : test ∈ (Collection.ofItems conventions
      (itemsOf conventions.marker (scanAll conventions.marker sources))).registry.tests) :
      IsIdentifier test.name ∧ IsIdentifier test.group ∧ IsIdentifier test.symbol ∧
        ∀ slot name, test.fixture? slot = some name → IsIdentifier name := by
    obtain ⟨mention, own, accepted, rfl⟩ := exists_of_mem_tests_registry ht
    obtain ⟨name, group, fixtures⟩ := isIdentifier_of_mem_acceptedTests wellNamed accepted
    have symbol : IsIdentifier own.symbol := symbol_of_mem_acceptedTests own accepted ▸ name
    refine ⟨name, group, symbol, ?_⟩
    intro slot fixture named
    rw [fixture?_complete] at named
    -- the fixture is the test's own one or else that of its group
    cases given : own.fixture? slot with
    | some other =>
      obtain rfl : other = fixture := by simpa [given] using named
      exact fixtures slot other given
    | none =>
      exact isIdentifier_of_groupFixture? wellNamed (by simpa [given] using named)
  have ofGroup {group : Group} (hg : group ∈ (Collection.ofItems conventions
      (itemsOf conventions.marker (scanAll conventions.marker sources))).registry.groups) :
      IsIdentifier group.name ∧
        ∀ slot name, group.fixture? slot = some name → IsIdentifier name := by
    rw [Collection.groups_registry_ofItems] at hg
    obtain ⟨mention, hm, rfl⟩ := List.mem_map.mp hg
    refine ⟨isIdentifier_of_mem_mentions wellNamed (mem_of_mem_firsts Prod.fst hm), ?_⟩
    intro slot name named
    have given : groupFixture? (instructionsAmong (itemsOf conventions.marker
        (scanAll conventions.marker sources))) mention.1 slot = some name := by
      cases slot <;> exact named
    exact isIdentifier_of_groupFixture? wellNamed given
  cases names with
  | group hg => exact (ofGroup hg).1
  | groupFixture hg given => exact (ofGroup hg).2 _ name given
  | test ht => exact (ofTest ht).1
  | testGroup ht => exact (ofTest ht).2.1
  | testSymbol ht => exact (ofTest ht).2.2.1
  | testFixture ht given => exact (ofTest ht).2.2.2 _ name given
  | symbol hs =>
    rw [Collection.symbols_registry_ofItems] at hs
    obtain ⟨collected, hc, rfl⟩ := List.mem_map.mp hs
    obtain ⟨d, hd⟩ := exists_declaration_of_mem_symbols hc
    exact isIdentifier_of_mem_declarationsOf hd

/-- Every name in a registry that is built of sources is an identifier, with or without problems, so
that it can stand in a runner as it is. The groups that are named for files have names of ASCII
characters. -/
theorem verbatim_of_names {conventions : Conventions} {sources : List (String × List Char)}
    {registry : Registry}
    (built : (buildRegistry conventions (scanAll conventions.marker sources)).1 = .ok registry) :
    (∀ name, registry.Names name → Verbatim name) ∧
      ∀ filename, Verbatim (defaultGroupName filename) ∧
        ∀ c ∈ (defaultGroupName filename).toList, c.toNat < 128 := by
  constructor
  · intro name names
    exact verbatim_of_isIdentifier (isIdentifier_of_names built names)
  · intro filename
    obtain ⟨identifier, ascii⟩ := isIdentifier_defaultGroupName filename
    exact ⟨verbatim_of_isIdentifier identifier, ascii⟩

/-- A source whose path and whose functions have characters beyond ASCII, with a directive whose
name begins with one. -/
def umlautSource : String × List Char :=
  ("io/1-\"ä.c", textOfLines
    ["/*!cmocka setup:up */ void größe(void **state);",
      "/*!cmocka group io teardown:down */",
      "/*!cmocka test öffnet */"])

theorem verbatim_of_umlautSource :
    ∃ registry, (buildRegistry .standard (scanAll "cmocka" [umlautSource])).1 = .ok registry ∧
      registry.problems.map (fun problem => problem.cause.kind) =
        [.directiveSyntax, .unknownSymbol, .unknownSymbol] ∧
      registry.groups.map Group.name = ["_1___", "io"] ∧
      registry.tests.map Test.name = ["größe"] ∧
      (∀ name, registry.Names name → Verbatim name) ∧
      Verbatim (defaultGroupName "io/1-\"ä.c") := by
  have legible : ∀ file ∈ scanAll "cmocka" [umlautSource],
      file.Legible Conventions.standard.marker := by
    decide +kernel
  have built := buildRegistry_eq_ok_iff.mpr ⟨legible, rfl⟩
  obtain ⟨names, groups⟩ := verbatim_of_names built
  refine ⟨_, built, ?_⟩
  -- the three parts that are evaluated are taken together
  rw [← and_assoc, ← and_assoc]
  exact ⟨by decide +kernel, names, (groups "io/1-\"ä.c").1⟩

end AnnotatedTests
