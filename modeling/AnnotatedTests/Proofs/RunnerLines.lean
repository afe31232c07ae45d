import AnnotatedTests.Proofs.Tables

/-! What the lines of a runner say, read off the lines themselves. A line opens a table by how it
begins, the rows of tests are all lines inside the tables of tests, and a row falls into columns at
its commas. What the columns name can be called: it is declared before the tables and listed. -/
namespace AnnotatedTests
attribute [local irreducible] Comment.directive

/-- Whether a line opens a table. -/
def opensTable (line : String) : Bool :=
  "static const struct runner_".toList.isPrefixOf line.toList

/-- Whether a line opens a table of tests, and not that of groups. -/
def opensTestTable (line : String) : Bool :=
  "static const struct runner_test ".toList.isPrefixOf line.toList &&
    "[] = \x7b".toList.isSuffixOf line.toList

/-- The rows of tests in some lines, of which the first one can be inside a table of tests. All
lines up to the one that closes the table are rows. -/
def testRowsFrom (inside : Bool) : List String → List String
  | [] => []
  | line :: rest =>
    if inside then
      if line = "\x7d;" then testRowsFrom false rest else line :: testRowsFrom true rest
    else testRowsFrom (opensTestTable line) rest

def testRows (lines : List String) : List String := testRowsFrom false lines

/-- The lines of declarations: those before the tables, from the empty line behind the headers. -/
def declarationPart (lines : List String) : List String :=
  (lines.takeWhile fun line => !opensTable line).dropWhile fun line => line ≠ ""

/-- The characters that frame what a cell of a row says. -/
def framing : List Char := [' ', '"', '\x7b', '\x7d']

/-- The columns of a row: what stands between its commas, without blanks, quotes and braces. -/
def rowColumns (row : String) : List String :=
  (row.toList.splitOn ',').map fun cell => String.ofList (cell.filter fun c => c ∉ framing)

/-- Whether a runner can call a function in a role: its lines of declarations have one prototype of
the function's name, with what is to be returned, and the manifest has one entry, in an input
file. -/
structure Registry.Links (registry : Registry) (lines : List String) (name returned : String)
    (role : Role) : Prop where
  declared : (declarationPart lines).filter (isPrototypeOf name) =
    [returned ++ " " ++ name ++ "(void **state);"]
  listed : ∃ file ∈ registry.files,
    (registry.entries.filter fun e => e.symbol = name) = [⟨file, name, role⟩]

section Columns

theorem filter_eq_self_of_plain {said : List Char} (plain : ∀ c ∈ said, c ∉ framing) :
    said.filter (fun c => c ∉ framing) = said :=
  List.filter_eq_self.mpr fun c hc => by simpa using plain c hc

theorem filter_identifier {name : String} (named : IsIdentifier name) :
    name.toList.filter (fun c => c ∉ framing) = name.toList := by
  have marks : framing.all (fun c => isWordChar c == false) = true := by decide
  apply filter_eq_self_of_plain
  intro c hc frame
  exact notMem_of_isIdentifier named (by simpa using List.all_eq_true.mp marks c frame) hc

theorem filter_toString_int (n : Int) :
    (toString n).toList.filter (fun c => c ∉ framing) = (toString n).toList := by
  have marks : framing.all (fun c => c.isDigit == false && c != '-') = true := by decide
  apply filter_eq_self_of_plain
  intro c hc frame
  obtain ⟨noDigit, noSign⟩ : c.isDigit = false ∧ c ≠ '-' := by
    simpa using List.all_eq_true.mp marks c frame
  exact notMem_toString_int noDigit noSign n hc

/-- A cell names the fixture that a test has. -/
theorem filter_fixtureCell {fixture : Option String}
    (named : ∀ name, fixture = some name → IsIdentifier name) :
    (fixtureCell fixture).toList.filter (fun c => c ∉ framing) =
      (fixture.getD "NULL").toList := by
  have cell : fixtureCell fixture = fixture.getD "NULL" := by
    cases fixture with
    | none => rfl
    | some name => exact fixtureCell_of_isIdentifier (named name rfl)
  rw [← cell]
  exact filter_identifier (isIdentifier_fixtureCell named)

/-- The columns of a test's row are what the test says. -/
theorem rowColumns_row {test : Test} (named : test.WellNamed) :
    rowColumns test.row =
      [test.name, test.symbol, test.setup.getD "NULL", test.teardown.getD "NULL",
        if test.disabled then "1" else "0", toString test.timeout, ""] := by
  have cells : test.row.toList.splitOn ',' = test.cells ++ [[]] := by
    rw [Test.toList_row, splitOn_marked, flatMap_splitOn_of_notMem (named.notMem_cells (by simp))]
  -- what frames a cell goes, and what a cell says stays
  have frames : "  \x7b \"".toList.filter (fun c => c ∉ framing) = [] ∧
      "\"".toList.filter (fun c => c ∉ framing) = [] ∧
      " ".toList.filter (fun c => c ∉ framing) = [] ∧
      " \x7d".toList.filter (fun c => c ∉ framing) = [] := by
    decide +kernel
  obtain ⟨brace, quote, space, close⟩ := frames
  have name := filter_identifier named.name
  have symbol := filter_identifier named.symbol
  have setup : (fixtureCell test.setup).toList.filter (fun c => c ∉ framing) =
      (test.setup.getD "NULL").toList := filter_fixtureCell (named.fixture .setup)
  have teardown : (fixtureCell test.teardown).toList.filter (fun c => c ∉ framing) =
      (test.teardown.getD "NULL").toList := filter_fixtureCell (named.fixture .teardown)
  have flag : (if test.disabled then "1" else "0").toList.filter (fun c => c ∉ framing) =
      (if test.disabled then "1" else "0").toList := by
    split_ifs <;> decide +kernel
  have timeout := filter_toString_int test.timeout
  rw [rowColumns, cells]
  simp only [Test.cells, List.map_append, List.map_cons, List.map_nil, String.toList_append,
    List.filter_append, brace, quote, space, close, name, symbol, setup, teardown, flag, timeout,
    List.nil_append, List.append_nil, String.ofList_toList, List.filter_nil]
  rfl

end Columns

section Rows

theorem testRows_append {lines : List String} (plain : ∀ line ∈ lines, opensTestTable line = false)
    (rest : List String) : testRows (lines ++ rest) = testRows rest := by
  induction lines with
  | nil => rfl
  | cons line lines ih =>
    obtain ⟨here, behind⟩ := List.forall_mem_cons.mp plain
    have next : testRows (line :: lines ++ rest) = testRowsFrom (opensTestTable line) _ := rfl
    rw [next, here]
    exact ih behind

/-- The rows of a table are all lines between the one that opens it and the one that closes it. -/
theorem testRows_table {opening : String} (opens : opensTestTable opening = true)
    {rows : List String} (plain : ∀ row ∈ rows, row ≠ "\x7d;") (rest : List String) :
    testRows (opening :: rows ++ "\x7d;" :: rest) = rows ++ testRows rest := by
  -- no row closes the table, so that reading goes on to the line behind the last one
  have inside : testRowsFrom true (rows ++ "\x7d;" :: rest) = rows ++ testRows rest := by
    induction rows with
    | nil => rfl
    | cons row rows ih =>
      obtain ⟨here, behind⟩ := List.forall_mem_cons.mp plain
      have next : testRowsFrom true (row :: rows ++ "\x7d;" :: rest) =
          row :: testRowsFrom true (rows ++ "\x7d;" :: rest) := if_neg here
      rw [next, ih behind]
      rfl
  have next : testRows (opening :: rows ++ "\x7d;" :: rest) =
    testRowsFrom (opensTestTable opening) (rows ++ "\x7d;" :: rest) := rfl
  rw [next, opens, inside]

theorem opensTestTable_eq_false {line : String} (plain : opensTable line = false) :
    opensTestTable line = false := by
  have begins : "static const struct runner_".toList <+:
      "static const struct runner_test ".toList :=
    ⟨"test ".toList, by decide +kernel⟩
  by_contra opens
  rw [Bool.not_eq_false, opensTestTable, Bool.and_eq_true, List.isPrefixOf_iff_prefix] at opens
  have other : opensTable line = true :=
    List.isPrefixOf_iff_prefix.mpr (begins.trans opens.1)
  exact Bool.false_ne_true (plain.symm.trans other)

theorem opensTestTable_tableLine (name : String) :
    opensTestTable ("static const struct runner_test runner_group_" ++ name ++ "[] = \x7b") =
      true := by
  have begins : "static const struct runner_test ".toList <+:
      "static const struct runner_test runner_group_".toList :=
    ⟨"runner_group_".toList, by decide +kernel⟩
  simp only [opensTestTable, String.toList_append, Bool.and_eq_true, List.isPrefixOf_iff_prefix,
    List.isSuffixOf_iff_suffix]
  exact ⟨begins.trans (by simp), List.suffix_append _ _⟩

theorem row_ne_close (test : Test) : test.row ≠ "\x7d;" := by
  intro same
  have text := congrArg String.toList same
  rw [Test.toList_row] at text
  simp [Test.cells, marked] at text

theorem testRows_tableLines (group : Group) (rest : List String) :
    testRows (group.tableLines ++ rest) = group.tests.map Test.row ++ testRows rest := by
  unfold Group.tableLines
  split_ifs with empty
  · rw [List.isEmpty_iff.mp empty]
    rfl
  · have rows : ∀ row ∈ group.tests.map Test.row, row ≠ "\x7d;" := by
      simpa using fun test _ => row_ne_close test
    have table := testRows_table (opensTestTable_tableLine group.name) rows ("" :: rest)
    have blank : testRows ("" :: rest) = testRows rest := rfl
    rw [blank] at table
    simpa only [List.append_assoc, List.cons_append, List.nil_append] using table

/-- In the tables of some groups, the rows are those of their tests. -/
theorem testRows_tables (groups : List Group) (rest : List String) :
    testRows (groups.flatMap Group.tableLines ++ rest) =
      (groups.flatMap Group.tests).map Test.row ++ testRows rest := by
  induction groups with
  | nil => rfl
  | cons group groups ih =>
    rw [List.flatMap_cons, List.flatMap_cons, List.map_append, List.append_assoc,
      List.append_assoc, testRows_tableLines, ih]

end Rows

section Beginnings

/-- Whether a line begins with another character than the lines that open tables. -/
def beginsOtherwise (line : String) : Bool := line.toList.head?.any fun c => c != 's'

theorem of_beginsOtherwise {line : String} (other : beginsOtherwise line = true) :
    opensTable line = false ∧ line ≠ "" := by
  have first : "static const struct runner_".toList =
    's' :: "tatic const struct runner_".toList := rfl
  unfold beginsOtherwise at other
  cases text : line.toList with
  | nil => simp [text] at other
  | cons c rest =>
    have different : c ≠ 's' := by simpa [text] using other
    constructor
    · rw [opensTable, text, first, List.isPrefixOf, beq_false_of_ne different.symm, Bool.false_and]
    · rintro rfl
      cases text

theorem beginsOtherwise_includeLine (header : String) :
    beginsOtherwise (includeLine header) = true := by
  unfold includeLine
  split <;> simp [beginsOtherwise]

theorem beginsOtherwise_of_mem_openingLines {files : List String} {line : String}
    (hl : line ∈ openingLines files) : beginsOtherwise line = true := by
  unfold openingLines at hl
  split_ifs at hl with empty
  · simp only [List.mem_append, List.mem_cons, List.not_mem_nil, or_false] at hl
    rcases hl with ((rfl | rfl | rfl) | rfl) | rfl <;> rfl
  · simp only [List.mem_append, List.mem_cons, List.mem_map, List.not_mem_nil, or_false] at hl
    rcases hl with ((rfl | rfl | rfl) | rfl | ⟨file, -, rfl⟩) | rfl <;> simp [beginsOtherwise]

theorem beginsOtherwise_prototype (e : Entry) : beginsOtherwise e.prototype = true := by
  cases role : e.role <;> simp [beginsOtherwise, Entry.prototype, role, Role.returnKind]

theorem of_mem_declarationLines {entries : List Entry} {current : Option String} {line : String}
    (hl : line ∈ declarationLines current entries) :
    line = "" ∨ ∃ e ∈ entries, line = fileHeading e.file ∨ line = e.prototype := by
  induction entries generalizing current with
  | nil => cases hl
  | cons e entries ih =>
    rw [declarationLines, List.mem_append, List.mem_cons] at hl
    rcases hl with opening | rfl | behind
    · have heading : line = "" ∨ line = fileHeading e.file := by
        split_ifs at opening
        · cases opening
        · exact Or.inr (List.mem_singleton.mp opening)
        · exact List.mem_pair.mp opening
      exact heading.imp_right fun own => ⟨e, List.mem_cons_self, Or.inl own⟩
    · exact Or.inr ⟨e, List.mem_cons_self, Or.inr rfl⟩
    · refine (ih behind).imp_right ?_
      rintro ⟨other, ho, form⟩
      exact ⟨other, List.mem_cons_of_mem e ho, form⟩

theorem opensTable_of_mem_declarationLines {entries : List Entry} {current : Option String}
    {line : String} (hl : line ∈ declarationLines current entries) :
    opensTable line = false := by
  rcases of_mem_declarationLines hl with rfl | ⟨e, -, rfl | rfl⟩
  · rfl
  · exact (of_beginsOtherwise (by simp [beginsOtherwise, fileHeading])).1
  · exact (of_beginsOtherwise (beginsOtherwise_prototype e)).1

end Beginnings

section Layout

/-- The lines of a runner between its headers and its tables. -/
def Registry.preamble (registry : Registry) : List String :=
  "" :: (if (declarationLines none registry.entries).isEmpty then []
    else declarationLines none registry.entries ++ [""]) ++ runnerTypes ++ [""]

theorem opensTable_of_mem_preamble {registry : Registry} {line : String}
    (hl : line ∈ registry.preamble) : opensTable line = false := by
  have types : ∀ line ∈ runnerTypes, opensTable line = false := by decide +kernel
  simp only [Registry.preamble, List.mem_append, List.mem_cons, List.not_mem_nil, or_false] at hl
  rcases hl with ((rfl | declared) | type) | rfl
  · rfl
  · split_ifs at declared
    · cases declared
    · rcases List.mem_append.mp declared with declared | blank
      · exact opensTable_of_mem_declarationLines declared
      · rw [List.mem_singleton.mp blank]
        rfl
  · exact types line type
  · rfl

/-- A runner begins with lines that neither are empty nor open a table. Behind them come the
declarations, the tables and lines that are the same in all runners. -/
theorem exists_front_runnerLines (registry : Registry) (includes : List String) :
    ∃ front, (∀ line ∈ front, opensTable line = false ∧ line ≠ "") ∧
      runnerLines registry (includes.map includeLine) =
        front ++ (registry.preamble ++ (tableLines registry.groups ++ "" :: runnerProgram)) := by
  refine ⟨openingLines registry.files ++
    systemHeaders.map (fun header => includeLine ("<" ++ header ++ ">")) ++
      includes.map includeLine, ?_, ?_⟩
  · intro line hl
    apply of_beginsOtherwise
    simp only [List.mem_append, List.mem_map] at hl
    rcases hl with (opening | ⟨header, -, rfl⟩) | ⟨header, -, rfl⟩
    · exact beginsOtherwise_of_mem_openingLines opening
    · exact beginsOtherwise_includeLine _
    · exact beginsOtherwise_includeLine header
  · simp [runnerLines, Registry.preamble]

theorem forall_of_map_toList {p : List Char → Bool} {lines : List String}
    {texts : List (List Char)} (read : lines.map String.toList = texts)
    (all : texts.all p = true) : ∀ line ∈ lines, p line.toList = true := by
  intro line hl
  exact List.all_eq_true.mp all line.toList (read ▸ List.mem_map_of_mem hl)

/-- The program that runs the tests has tables of its own, but none of tests. -/
theorem opensTestTable_of_mem_runnerProgram :
    ∀ line ∈ runnerProgram, opensTestTable line = false := by
  let opens (text : List Char) : Bool :=
    "static const struct runner_test ".toList.isPrefixOf text && "[] = \x7b".toList.isSuffixOf text
  have none : ∀ line ∈ runnerProgram, (!opens line.toList) = true := by
    apply forall_of_map_toList (p := fun text => !opens text)
    · -- line by line, for the evaluation of a text takes its bytes apart
      unfold runnerProgram
      repeat' first | exact List.map_nil | apply map_toList_cons
    · decide +kernel
  intro line hl
  exact (Bool.not_eq_true' _).mp (none line hl)

theorem beginsOtherwise_groupRow (group : Group) : beginsOtherwise group.row = true := by
  unfold Group.row
  split_ifs <;> simp [beginsOtherwise]

/-- The rows of tests in a runner are those of the registry's tests, in the order of these. -/
theorem testRows_runnerLines (registry : Registry) (includes : List String) :
    testRows (runnerLines registry (includes.map includeLine)) = registry.tests.map Test.row := by
  obtain ⟨front, plain, lines⟩ := exists_front_runnerLines registry includes
  have before : ∀ line ∈ front ++ registry.preamble, opensTestTable line = false := by
    intro line hl
    apply opensTestTable_eq_false
    rcases List.mem_append.mp hl with opening | declared
    · exact (plain line opening).1
    · exact opensTable_of_mem_preamble declared
  -- behind the tables of tests come the table of groups and the program
  have after : ∀ line ∈ (groupTableLine :: registry.groups.map Group.row ++ closingLines) ++
      "" :: runnerProgram, opensTestTable line = false := by
    intro line hl
    simp only [List.mem_append, List.mem_cons, List.mem_map] at hl
    rcases hl with ((rfl | ⟨group, -, rfl⟩) | closing) | rfl | program
    · decide +kernel
    · exact opensTestTable_eq_false (of_beginsOtherwise (beginsOtherwise_groupRow group)).1
    · revert line
      decide +kernel
    · rfl
    · exact opensTestTable_of_mem_runnerProgram line program
  have tables : tableLines registry.groups ++ "" :: runnerProgram =
      registry.groups.flatMap Group.tableLines ++
        ((groupTableLine :: registry.groups.map Group.row ++ closingLines) ++
          "" :: runnerProgram) := by
    simp [tableLines, groupTableLine, closingLines]
  have none_behind := testRows_append after []
  rw [List.append_nil] at none_behind
  rw [lines, ← List.append_assoc, testRows_append before, tables, testRows_tables, none_behind]
  exact List.append_nil _

theorem takeWhile_append_of_opens {groups : List Group} {rest : List String}
    (opens : rest.takeWhile (fun line => !opensTable line) = []) :
    (groups.flatMap Group.tableLines ++ rest).takeWhile (fun line => !opensTable line) = [] := by
  induction groups with
  | nil => exact opens
  | cons group groups ih =>
    rw [List.flatMap_cons, List.append_assoc, Group.tableLines]
    split_ifs with empty
    · exact ih
    · have table : opensTable ("static const struct runner_test runner_group_" ++ group.name ++
          "[] = \x7b") = true := by
        by_contra plain
        have other := opensTestTable_eq_false (Bool.not_eq_true _ ▸ plain)
        exact Bool.false_ne_true (other.symm.trans (opensTestTable_tableLine group.name))
      simp [table]

/-- The tables begin with a line that opens one. -/
theorem takeWhile_tableLines (groups : List Group) (rest : List String) :
    (tableLines groups ++ rest).takeWhile (fun line => !opensTable line) = [] := by
  have table : opensTable groupTableLine = true := by decide +kernel
  have form : tableLines groups ++ rest = groups.flatMap Group.tableLines ++
      groupTableLine :: (groups.map Group.row ++ closingLines ++ rest) := by
    simp [tableLines, groupTableLine, closingLines]
  rw [form]
  exact takeWhile_append_of_opens (List.takeWhile_cons_of_neg (by simp [table]))

/-- The part of a runner in which functions are declared. -/
theorem declarationPart_runnerLines (registry : Registry) (includes : List String) :
    declarationPart (runnerLines registry (includes.map includeLine)) = registry.preamble := by
  obtain ⟨front, plain, lines⟩ := exists_front_runnerLines registry includes
  have taken : (runnerLines registry (includes.map includeLine)).takeWhile
      (fun line => !opensTable line) = front ++ registry.preamble := by
    rw [lines, List.takeWhile_append_of_pos, List.takeWhile_append_of_pos, takeWhile_tableLines,
      List.append_nil]
    · intro line hl
      rw [opensTable_of_mem_preamble hl, Bool.not_false]
    · intro line hl
      rw [(plain line hl).1, Bool.not_false]
  rw [declarationPart, taken, List.dropWhile_append_of_pos]
  · rfl
  · intro line hl
    exact decide_eq_true (plain line hl).2

theorem filter_isPrototypeOf_preamble (registry : Registry) (name : String) :
    registry.preamble.filter (isPrototypeOf name) =
      (declarationLines none registry.entries).filter (isPrototypeOf name) := by
  have blank := isPrototypeOf_empty name
  have types : runnerTypes.filter (isPrototypeOf name) = [] := by
    have ends : ∀ line ∈ runnerTypes, ");".toList.isSuffixOf line.toList = false := by
      decide +kernel
    apply List.filter_eq_nil_iff.mpr
    intro line hl prototype
    rw [isPrototypeOf, ends line hl, Bool.and_false] at prototype
    cases prototype
  unfold Registry.preamble
  cases declarationLines none registry.entries <;>
    simp [List.filter_cons, List.filter_append, blank, types]

end Layout

/-- The lines of a runner that a registry without problems gives for some headers. Its rows of tests
say what the tests of the registry say. The function of each row and each fixture in it has one
prototype before the tables, which returns nothing in the one case and a number in the other, and
one entry in the manifest, with the role of its column and in an input file. Directives refer to all
functions that are declared or listed. -/
theorem links_of_buildRegistry {conventions : Conventions} {sources : List (String × List Char)}
    {registry : Registry}
    (built : (buildRegistry conventions (scanAll conventions.marker sources)).1 = .ok registry)
    (clean : registry.problems = []) {includes lines : List String}
    (made : lines = runnerLines registry (includes.map includeLine)) :
    renderRunner registry (includes.map Value.text) =
        .ok (String.join (lines.map fun line => line ++ "\n")) ∧
      (testRows lines).map rowColumns = registry.tests.map (fun test =>
        [test.name, test.symbol, test.setup.getD "NULL", test.teardown.getD "NULL",
          if test.disabled then "1" else "0", toString test.timeout, ""]) ∧
      (∀ row ∈ testRows lines, ∃ name function setup teardown disabled timeout,
        rowColumns row = [name, function, setup, teardown, disabled, timeout, ""] ∧
        registry.Links lines function "void" .test ∧
        (setup ≠ "NULL" → registry.Links lines setup "int" .setup) ∧
        (teardown ≠ "NULL" → registry.Links lines teardown "int" .teardown)) ∧
      (∀ e ∈ registry.entries,
        Refers conventions.marker (scanAll conventions.marker sources) e.symbol e.role) ∧
      ∀ line ∈ declarationPart lines, ∀ name, isPrototypeOf name line = true →
        ∃ role, Refers conventions.marker (scanAll conventions.marker sources) name role := by
  have rows : testRows lines = registry.tests.map Test.row :=
    made ▸ testRows_runnerLines registry includes
  have named := wellNamed_of_mem_tests built
  have prototypes (name : String) : (declarationPart lines).filter (isPrototypeOf name) =
      (registry.entries.filter fun e => e.symbol = name).map Entry.prototype := by
    rw [made, declarationPart_runnerLines, filter_isPrototypeOf_preamble]
    exact filter_isPrototypeOf (fun e he => isIdentifier_of_mem_entries built he) none name
  -- a function that is used has one entry, and each prototype comes from an entry
  have links {name : String} {role : Role}
      (used : Used conventions.marker (scanAll conventions.marker sources) registry name role) :
      registry.Links lines name role.returnKind role := by
    obtain ⟨file, hf, entry⟩ := exists_filter_entries_of_used built clean used
    refine ⟨?_, file, hf, entry⟩
    rw [prototypes, entry]
    rfl
  refine ⟨made ▸ renderRunner_of_clean clean includes, ?_, ?_,
    fun e he => refers_of_mem_entries built clean he, ?_⟩
  · rw [rows, List.map_map]
    apply List.map_congr_left
    intro test ht
    rw [Function.comp_apply, rowColumns_row (named test ht)]
  · intro row hr
    rw [rows] at hr
    obtain ⟨test, ht, rfl⟩ := List.mem_map.mp hr
    have fixture (slot : Slot) (given : (test.fixture? slot).getD "NULL" ≠ "NULL") :
        registry.Links lines ((test.fixture? slot).getD "NULL") slot.role.returnKind slot.role := by
      cases own : test.fixture? slot with
      | none => simp [own] at given
      | some name => exact links (.testFixture ht own)
    exact ⟨_, _, _, _, _, _, rowColumns_row (named test ht), links (.test ht), fixture .setup,
      fixture .teardown⟩
  · intro line hl name prototype
    have declared := List.mem_filter.mpr ⟨hl, prototype⟩
    rw [prototypes] at declared
    obtain ⟨e, he, -⟩ := List.mem_map.mp declared
    obtain ⟨listed, named⟩ := List.mem_filter.mp he
    have own : e.symbol = name := of_decide_eq_true named
    exact ⟨e.role, own ▸ refers_of_mem_entries built clean listed⟩

/-- A source with a test, and a later one that gives a fixture to its group. -/
def fillSource : String × List Char :=
  ("buffer.c", textOfLines ["/*!cmocka */", "void fills(void **state) \x7b\x7d"])

def bufferGroupSource : String × List Char :=
  ("pool.c", textOfLines
    ["/*!cmocka group buffer setup:up */", "int up(void **state) \x7b return 0; \x7d",
      "int spare(void **state) \x7b return 0; \x7d"])

theorem links_of_fillSource_bufferGroupSource :
    ∃ registry lines, (buildRegistry .standard
        (scanAll "cmocka" [fillSource, bufferGroupSource])).1 = .ok registry ∧
      registry.problems = [] ∧
      lines = runnerLines registry (["buffer.h"].map includeLine) ∧
      renderRunner registry (["buffer.h"].map Value.text) =
        .ok (String.join (lines.map fun line => line ++ "\n")) ∧
      (testRows lines).map rowColumns = [["fills", "fills", "up", "NULL", "0", "10", ""]] ∧
      registry.Links lines "fills" "void" .test ∧ registry.Links lines "up" "int" .setup := by
  have legible : ∀ file ∈ scanAll "cmocka" [fillSource, bufferGroupSource],
      file.Legible Conventions.standard.marker := by
    decide +kernel
  have built := buildRegistry_eq_ok_iff.mpr ⟨legible, rfl⟩
  have clean : (Collection.ofItems .standard (itemsOf Conventions.standard.marker
      (scanAll "cmocka" [fillSource, bufferGroupSource]))).registry.problems = [] := by
    decide +kernel
  obtain ⟨rendered, columns, called, -⟩ := links_of_buildRegistry built clean
    (Eq.refl (runnerLines _ (["buffer.h"].map includeLine)))
  have said := columns.trans
    (show _ = [["fills", "fills", "up", "NULL", "0", "10", ""]] by decide +kernel)
  obtain ⟨row, only, own⟩ := List.map_eq_singleton_iff.mp said
  obtain ⟨_, _, _, _, _, _, cells, function, setup, -⟩ := called row
    (only ▸ List.mem_singleton_self row)
  obtain ⟨rfl, rfl, rfl, -⟩ : _ ∧ _ ∧ _ ∧ _ := by simpa using own.symm.trans cells
  exact ⟨_, _, built, clean, rfl, rendered, said, function, setup (by decide)⟩

end AnnotatedTests
