import AnnotatedTests.Proofs.Grouping
import AnnotatedTests.Proofs.Tables

/-! The identifiers that a runner declares at file scope. They are read off its lines, and come from
three parts: the functions that are used, the tables of groups that have tests, and the runner's own
names. No two of them are the same unless a function that is used has a name from the other two
parts. -/
namespace AnnotatedTests
attribute [local irreducible] Comment.directive

section Reader

/-- How far the text of a program is read: the names it has declared, the words of the declarator at
hand with the last one first, and the letters of the word at hand; how many brackets are open, and
whether they hold a list of enumerators; whether the declarator at hand has its name; and whether
the text is in a string literal, behind a backslash of it. -/
structure Reading where
  names : List String
  words : List String
  letters : List Char
  depth : Nat
  listing : Bool
  declared : Bool
  quoted : Bool
  escaped : Bool
  deriving DecidableEq

namespace Reading

/-- Between two declarations. -/
def between (names : List String) : Reading := ⟨names, [], [], 0, false, false, false, false⟩

/-- Whether words are those of a declarator, and not of a body, of parameters or of values. -/
def declares (r : Reading) : Bool := r.depth == r.listing.toNat

def endWord (r : Reading) : Reading :=
  { r with
    letters := []
    words :=
      if r.declares && !r.letters.isEmpty then String.ofList r.letters :: r.words else r.words }

/-- Takes the last word as the name of the declarator at hand, if it has none yet. -/
def declare (r : Reading) : Reading :=
  match r.words with
  | [] => r
  | name :: _ =>
    if r.declares && !r.declared then { r with names := r.names ++ [name], declared := true } else r

def endDeclarator (r : Reading) : Reading :=
  if r.declares then { r.declare with words := [], declared := false } else r

/-- A brace opens a list of members or of enumerators where no name has been declared. -/
def openBrace (r : Reading) : Reading :=
  if r.depth == 0 && !r.declared then
    { r with words := [], depth := 1, listing := r.words.getLast? == some "enum" }
  else { r with depth := r.depth + 1 }

def closeBrace (r : Reading) : Reading :=
  if r.depth == 1 then between r.declare.names else { r with depth := r.depth - 1 }

def mark (r : Reading) (c : Char) : Reading :=
  if c = '"' then { r with quoted := true }
  else if c = '(' ∨ c = '[' then { r.declare with depth := r.depth + 1 }
  else if c = ')' ∨ c = ']' then { r with depth := r.depth - 1 }
  else if c = '\x7b' then r.openBrace
  else if c = '\x7d' then r.closeBrace
  else if c = '=' then r.declare
  else if c = ',' ∨ c = ';' then r.endDeclarator
  else r

def step (r : Reading) (c : Char) : Reading :=
  if r.quoted then
    if r.escaped then { r with escaped := false }
    else if c = '\\' then { r with escaped := true }
    else if c = '"' then { r with quoted := false }
    else r
  else if isWordChar c then { r with letters := r.letters ++ [c] }
  else r.endWord.mark c

/-- Whether a line is a comment or an instruction to the preprocessor. A comment goes on to the end
of its line, whatever the name of a file in it may hold. -/
def skips (text : List Char) : Bool :=
  "/*".toList.isPrefixOf text || "#".toList.isPrefixOf text

/-- Reads the characters of a line. -/
def spelled (r : Reading) (text : List Char) : Reading :=
  if skips text then r else (text ++ ['\n']).foldl step r

def line (r : Reading) (text : String) : Reading := r.spelled text.toList

end Reading

/-- The ordinary identifiers that lines of a program declare at file scope, in their order. -/
def fileScopeNames (lines : List String) : List String :=
  (lines.foldl Reading.line (.between [])).names

/-- Whether lines are whole declarations, which declare some names at file scope. -/
def Declare (lines names : List String) : Prop :=
  ∀ earlier, lines.foldl Reading.line (.between earlier) = .between (earlier ++ names)

namespace Reading

/-- The same reading behind declarations of some other names. -/
def after (earlier : List String) (r : Reading) : Reading := { r with names := earlier ++ r.names }

theorem between_eq_after (earlier names : List String) :
    between (earlier ++ names) = (between names).after earlier := rfl

theorem endWord_after (earlier : List String) (r : Reading) :
    (r.after earlier).endWord = r.endWord.after earlier := rfl

theorem declare_after (earlier : List String) (r : Reading) :
    (r.after earlier).declare = r.declare.after earlier := by
  obtain ⟨names, words, letters, depth, listing, declared, quoted, escaped⟩ := r
  cases words with
  | nil => rfl
  | cons name words =>
    by_cases unnamed : (depth == listing.toNat && !declared) = true
    · simp only [declare, after, declares, unnamed, if_true, List.append_assoc]
    · simp only [declare, after, declares, unnamed, Bool.false_eq_true, if_false]

theorem endDeclarator_after (earlier : List String) (r : Reading) :
    (r.after earlier).endDeclarator = r.endDeclarator.after earlier := by
  have same : (r.after earlier).declares = r.declares := rfl
  unfold endDeclarator
  rw [same, declare_after]
  split_ifs <;> rfl

theorem openBrace_after (earlier : List String) (r : Reading) :
    (r.after earlier).openBrace = r.openBrace.after earlier := by
  unfold openBrace after
  dsimp only
  split_ifs <;> rfl

theorem closeBrace_after (earlier : List String) (r : Reading) :
    (r.after earlier).closeBrace = r.closeBrace.after earlier := by
  have same : (r.after earlier).depth = r.depth := rfl
  unfold closeBrace
  rw [same, declare_after]
  split_ifs <;> rfl

theorem mark_after (earlier : List String) (r : Reading) (c : Char) :
    (r.after earlier).mark c = (r.mark c).after earlier := by
  unfold mark
  rw [declare_after, openBrace_after, closeBrace_after, endDeclarator_after]
  split_ifs <;> rfl

theorem step_after (earlier : List String) (r : Reading) (c : Char) :
    (r.after earlier).step c = (r.step c).after earlier := by
  have quoted : (r.after earlier).quoted = r.quoted := rfl
  have escaped : (r.after earlier).escaped = r.escaped := rfl
  unfold step
  rw [quoted, escaped, endWord_after, mark_after]
  split_ifs <;> rfl

theorem foldl_step_after (earlier : List String) (text : List Char) (r : Reading) :
    text.foldl step (r.after earlier) = (text.foldl step r).after earlier := by
  induction text generalizing r with
  | nil => rfl
  | cons c text ih => rw [List.foldl_cons, step_after, ih, List.foldl_cons]

theorem line_after (earlier : List String) (r : Reading) (text : String) :
    (r.after earlier).line text = (r.line text).after earlier := by
  unfold line spelled
  rw [foldl_step_after]
  split_ifs <;> rfl

theorem foldl_line_after (earlier : List String) (lines : List String) (r : Reading) :
    lines.foldl line (r.after earlier) = (lines.foldl line r).after earlier := by
  induction lines generalizing r with
  | nil => rfl
  | cons text lines ih => rw [List.foldl_cons, line_after, ih, List.foldl_cons]

end Reading

namespace Declare
variable {lines more names others : List String}

/-- It is enough to read the lines with nothing before them. -/
theorem of_foldl (read : lines.foldl Reading.line (.between []) = .between names) :
    Declare lines names := by
  intro earlier
  have start : Reading.between earlier = (Reading.between []).after earlier := by
    rw [← Reading.between_eq_after, List.append_nil]
  rw [start, Reading.foldl_line_after, read, Reading.between_eq_after]

theorem nil : Declare [] [] := fun earlier => by rw [List.append_nil]; rfl

theorem append (first : Declare lines names) (second : Declare more others) :
    Declare (lines ++ more) (names ++ others) := by
  intro earlier
  rw [List.foldl_append, first, second, List.append_assoc]

theorem fileScopeNames_eq (declared : Declare lines names) : fileScopeNames lines = names := by
  rw [fileScopeNames, declared []]
  rfl

example : fileScopeNames ["/* a */", "struct s \x7b int n; \x7d;", "enum e \x7b A, B = 2 \x7d;",
    "static int b = 1, c;", "static int f(int n)", "\x7b", "  return n;", "\x7d",
    "int d[] = \x7b 0, \"\x7d;\" \x7d;"] = ["A", "B", "b", "c", "f", "d"] := by
  decide +kernel

end Declare

end Reader

section Template

/-- Whether the reading of lines comes through some stages, each of which is reached behind a number
of lines, and ends with the last of them. -/
def Reading.passes (r : Reading) : List (Nat × Reading) → List (List Char) → Bool
  | [], lines => lines.isEmpty
  | (count, stage) :: stages, lines =>
    (lines.take count).foldl Reading.spelled r == stage && stage.passes stages (lines.drop count)

theorem foldl_line_of_passes {r : Reading} (stages : List (Nat × Reading)) {texts : List String}
    {lines : List (List Char)} (spelled : texts.map String.toList = lines)
    (passes : r.passes stages lines = true) :
    texts.foldl Reading.line r = (stages.map Prod.snd).getLast?.getD r := by
  subst spelled
  induction stages generalizing r texts with
  | nil =>
    obtain rfl : texts = [] := by simpa [Reading.passes] using passes
    rfl
  | cons next stages ih =>
    obtain ⟨count, stage⟩ := next
    simp only [Reading.passes, Bool.and_eq_true, beq_iff_eq, ← List.map_take,
      ← List.map_drop] at passes
    obtain ⟨reached, later⟩ := passes
    have here : (texts.take count).foldl Reading.line r = stage := by
      rw [← reached, List.foldl_map]
      rfl
    rw [← List.take_append_drop count texts, List.foldl_append, here, ih later, List.map_cons,
      List.getLast?_cons]
    rfl

/-- The results of a test, which are enumerators. -/
def resultNames : List String :=
  ["RUNNER_PASSED", "RUNNER_FAILED", "RUNNER_ERRORED", "RUNNER_TIMED_OUT", "RUNNER_SKIPPED"]

/-- The variables and functions of the program that runs the tests. -/
def programNames : List String :=
  ["runner_labels", "runner_current", "runner_fixture_failed", "runner_setup", "runner_teardown",
    "runner_child", "runner_run", "runner_selected", "runner_known", "main"]

/-- Behind the opening brace of something whose name is declared. -/
def Reading.inside (names words : List String) : Reading :=
  { Reading.between names with words, declared := true, depth := 1 }

theorem declare_runnerTypes : Declare runnerTypes resultNames := by
  apply Declare.of_foldl
  apply foldl_line_of_passes [(25, .between resultNames)]
  · -- line by line, for the evaluation of a text takes its bytes apart
    unfold runnerTypes
    repeat' first | exact List.map_nil | apply map_toList_cons
  · decide +kernel

/-- The program is read in parts, so that none of them is too long to be evaluated. -/
theorem declare_runnerProgram : Declare runnerProgram programNames := by
  let stage (count : Nat) : Reading := .between (programNames.take count)
  let body : Reading := .inside programNames ["main", "int"]
  apply Declare.of_foldl
  apply foldl_line_of_passes [(28, stage 5), (21, stage 6), (32, stage 7), (28, stage 9),
    (17, body), (20, body), (7, stage 10)]
  · unfold runnerProgram
    repeat' first | exact List.map_nil | apply map_toList_cons
  · decide +kernel

end Template

section Lines

namespace Reading

/-- The characters that open or close something. -/
def brackets : List Char := ['"', '(', ')', '[', ']', '\x7b', '\x7d']

theorem foldl_step_word {text : List Char} (word : ∀ c ∈ text, isWordChar c = true) {r : Reading}
    (code : r.quoted = false) : text.foldl step r = { r with letters := r.letters ++ text } := by
  induction text generalizing r with
  | nil => rw [List.append_nil]; rfl
  | cons c text ih =>
    obtain ⟨first, later⟩ := List.forall_mem_cons.mp word
    have next : r.step c = { r with letters := r.letters ++ [c] } := by
      rw [step, code, first]
      rfl
    rw [List.foldl_cons, next, ih later (r := { r with letters := r.letters ++ [c] }) code]
    simp

/-- A literal without quotes and backslashes says nothing. -/
theorem foldl_step_quoted {text : List Char} (plain : ∀ c ∈ text, c ≠ '"' ∧ c ≠ '\\') {r : Reading}
    (quoted : r.quoted = true) (straight : r.escaped = false) : text.foldl step r = r := by
  induction text with
  | nil => rfl
  | cons c text ih =>
    obtain ⟨⟨inside, noEscape⟩, later⟩ := List.forall_mem_cons.mp plain
    have next : r.step c = r := by simp [step, quoted, straight, inside, noEscape]
    rw [List.foldl_cons, next, ih later]

theorem endWord_of_still {r : Reading} (still : r.declares = false) :
    r.endWord = { r with letters := [] } := by
  simp [endWord, still]

/-- Where nothing is declared, only brackets and quotes make a difference. -/
theorem mark_of_still {r : Reading} (still : r.declares = false) {c : Char}
    (other : c ∉ brackets) : r.mark c = r := by
  have declare : r.declare = r := by
    unfold declare
    rw [still]
    cases r.words <;> rfl
  have ended : r.endDeclarator = r := by rw [endDeclarator, still]; rfl
  simp only [brackets, List.mem_cons, List.not_mem_nil, or_false, not_or] at other
  obtain ⟨quote, paren, closed, square, closed', brace, closed''⟩ := other
  simp [mark, quote, paren, closed, square, closed', brace, closed'', declare, ended]

/-- Where nothing is declared, a text without brackets leaves no more behind than letters. -/
theorem exists_foldl_step {text : List Char} (plain : ∀ c ∈ text, c ∉ brackets) {r : Reading}
    (code : r.quoted = false) (still : r.declares = false) :
    ∃ letters, text.foldl step r = { r with letters } := by
  induction text generalizing r with
  | nil => exact ⟨r.letters, rfl⟩
  | cons c text ih =>
    obtain ⟨first, later⟩ := List.forall_mem_cons.mp plain
    have next : ∃ letters, r.step c = { r with letters } := by
      rw [step, if_neg (by simp [code]), endWord_of_still still]
      split_ifs
      · exact ⟨r.letters ++ [c], rfl⟩
      · exact ⟨[], mark_of_still (r := { r with letters := [] }) still first⟩
    obtain ⟨letters, next⟩ := next
    obtain ⟨last, rest⟩ := ih later (r := { r with letters }) code still
    exact ⟨last, by rw [List.foldl_cons, next, rest]⟩

/-- A row of a table declares nothing. -/
theorem line_row {names words : List String} {text : String} {name values : List Char}
    (row : text.toList = "  \x7b \"".toList ++ (name ++ '"' :: (values ++ " \x7d,".toList)))
    (word : ∀ c ∈ name, isWordChar c = true) (plain : ∀ c ∈ values, c ∉ brackets) :
    (inside names words).line text = inside names words := by
  have code : skips text.toList = false := by simp [skips, row, List.isPrefixOf]
  have letters : ∀ c ∈ name, c ≠ '"' ∧ c ≠ '\\' := by
    intro c hc
    constructor
    · rintro rfl
      exact absurd (word _ hc) (by decide)
    · rintro rfl
      exact absurd (word _ hc) (by decide)
  -- the name is in a literal, the values are in the braces of the row
  have opened : "  \x7b \"".toList.foldl step (inside names words) =
      { inside names words with depth := 2, quoted := true } := by
    simp [step, mark, openBrace, endWord, inside, between, declares, isWordChar,
      isAsciiAlphanumeric]
  have closed : Reading.step { inside names words with depth := 2, quoted := true } '"' =
      { inside names words with depth := 2 } := by
    simp [step, inside, between]
  obtain ⟨left, valued⟩ := exists_foldl_step plain
    (r := { inside names words with depth := 2 }) rfl rfl
  have ended : [' ', '\x7d', ',', '\n'].foldl step
      { inside names words with depth := 2, letters := left } = inside names words := by
    simp [step, mark, closeBrace, endWord, endDeclarator, inside, between, declares, isWordChar,
      isAsciiAlphanumeric]
  rw [line, spelled, code, if_neg Bool.false_ne_true, row]
  simp only [List.append_assoc, List.cons_append, List.foldl_append, List.foldl_cons]
  rw [opened, foldl_step_quoted letters rfl rfl, closed, valued]
  exact ended

/-- Reads the line of a declaration up to the end of a word in it. -/
theorem line_word {text : String} {front start word behind : List Char} {words : List String}
    (form : text.toList = front ++ (word ++ behind)) (code : skips text.toList = false)
    (read : front.foldl step (between []) = { between [] with words, letters := start })
    (letters : ∀ c ∈ word, isWordChar c = true) :
    (between []).line text =
      (behind ++ ['\n']).foldl step { between [] with words, letters := start ++ word } := by
  have next := foldl_step_word letters (r := { between [] with words, letters := start }) rfl
  rw [line, spelled, code, if_neg Bool.false_ne_true, form, List.append_assoc, List.append_assoc,
    List.foldl_append, read, List.foldl_append, next]

end Reading

theorem ne_empty_of_isIdentifier {name : String} (named : IsIdentifier name) : name ≠ "" := by
  rintro rfl
  exact absurd named (by decide)

/-- The prototype of a function declares it. -/
theorem declare_prototype {e : Entry} (named : IsIdentifier e.symbol) :
    Declare [e.prototype] [e.symbol] := by
  have form : e.prototype.toList =
      (e.role.returnKind ++ " ").toList ++ (e.symbol.toList ++ "(void **state);".toList) := by
    simp [Entry.prototype]
  have code : Reading.skips e.prototype.toList = false := by
    rw [form]
    cases e.role <;> simp [Reading.skips, Role.returnKind, List.isPrefixOf]
  have kind : (e.role.returnKind ++ " ").toList.foldl Reading.step (.between []) =
      { Reading.between [] with words := [e.role.returnKind], letters := [] } := by
    cases e.role <;> decide +kernel
  have proper := ne_empty_of_isIdentifier named
  apply Declare.of_foldl
  rw [List.foldl_cons, List.foldl_nil,
    Reading.line_word form code kind (isWordChar_of_mem_identifier named)]
  simp [Reading.step, Reading.mark, Reading.endWord, Reading.declare, Reading.endDeclarator,
    Reading.between, Reading.declares, isWordChar, isAsciiAlphanumeric, proper]

theorem declare_comment (text : String) : Declare ["/* " ++ text ++ " */"] [] := by
  intro earlier
  simp [Reading.line, Reading.spelled, Reading.skips, List.isPrefixOf]

theorem declare_empty : Declare [""] [] := by
  intro earlier
  simp [Reading.line, Reading.spelled, Reading.step, Reading.endWord, Reading.mark, Reading.between,
    show isWordChar '\n' = false from rfl]

theorem declare_declarationLines {entries : List Entry}
    (named : ∀ e ∈ entries, IsIdentifier e.symbol) (current : Option String) :
    Declare (declarationLines current entries) (entries.map Entry.symbol) := by
  induction entries generalizing current with
  | nil => exact .nil
  | cons e entries ih =>
    obtain ⟨first, later⟩ := List.forall_mem_cons.mp named
    have prototypes : Declare (e.prototype :: declarationLines (some e.file) entries)
        (e.symbol :: entries.map Entry.symbol) :=
      (declare_prototype first).append (ih later (some e.file))
    have heading := declare_comment e.file
    unfold declarationLines
    dsimp only
    -- the same file as before, the first file, or another file
    split_ifs
    · exact prototypes
    · exact heading.append prototypes
    · exact (declare_empty.append heading).append prototypes

end Lines

section Tables

/-- Whether the names of a test are identifiers. -/
structure Test.Named (test : Test) : Prop where
  name : IsIdentifier test.name
  symbol : IsIdentifier test.symbol
  fixture : ∀ slot name, test.fixture? slot = some name → IsIdentifier name

structure Group.Named (group : Group) : Prop where
  name : IsIdentifier group.name
  tests : ∀ test ∈ group.tests, test.Named

/-- The name of the table of a group's tests. -/
def Group.table (group : Group) : String := "runner_group_" ++ group.name

/-- The tables of the groups that have tests. -/
def tableNames (groups : List Group) : List String :=
  (groups.filter fun group => !group.tests.isEmpty).map Group.table

theorem Test.Named.line_row {test : Test} (named : test.Named) (names words : List String) :
    (Reading.inside names words).line test.row = .inside names words := by
  have setup : IsIdentifier (fixtureCell test.setup) :=
    isIdentifier_fixtureCell (named.fixture .setup)
  have teardown : IsIdentifier (fixtureCell test.teardown) :=
    isIdentifier_fixtureCell (named.fixture .teardown)
  have row : test.row.toList = "  \x7b \"".toList ++ (test.name.toList ++ '"' ::
      ((", " ++ test.symbol ++ ", " ++ fixtureCell test.setup ++ ", " ++
        fixtureCell test.teardown ++ ", " ++ (if test.disabled then "1" else "0") ++ ", " ++
          toString test.timeout).toList ++ " \x7d,".toList)) := by
    unfold Test.row
    simp only [String.toList_append, List.append_assoc]
    rfl
  refine Reading.line_row row (isWordChar_of_mem_identifier named.name) ?_
  -- no bracket is a character of a name, of a number or of what separates them
  intro c hc bracket
  have marks : isWordChar c = false ∧ c.isDigit = false ∧ c ≠ '-' ∧ c ∉ ", ".toList ∧
      c ∉ "0".toList ∧ c ∉ "1".toList := by
    simp only [Reading.brackets, List.mem_cons, List.not_mem_nil, or_false] at bracket
    rcases bracket with rfl | rfl | rfl | rfl | rfl | rfl | rfl <;> decide
  obtain ⟨noWord, noDigit, noSign, comma, no, yes⟩ := marks
  have flag : c ∉ (if test.disabled then "1" else "0").toList := by
    split_ifs
    · exact yes
    · exact no
  simp only [String.toList_append, List.mem_append, comma, flag, or_false,
    notMem_of_isIdentifier named.symbol noWord, notMem_of_isIdentifier setup noWord,
    notMem_of_isIdentifier teardown noWord, notMem_toString_int noDigit noSign] at hc

theorem Group.Named.line_row {group : Group} (named : group.Named) (names words : List String) :
    (Reading.inside names words).line group.row = .inside names words := by
  have row : group.row.toList = "  \x7b \"".toList ++ (group.name.toList ++ '"' ::
      ((if group.tests.isEmpty then ", NULL, 0"
        else ", " ++ group.table ++ ", " ++ toString group.tests.length).toList ++
          " \x7d,".toList)) := by
    unfold Group.row Group.table
    split_ifs <;> simp
  refine Reading.line_row row (isWordChar_of_mem_identifier named.name) ?_
  intro c hc bracket
  have marks : isWordChar c = false ∧ c.isDigit = false ∧ c ∉ ", ".toList ∧ c ∉ ", NULL, 0".toList ∧
      c ∉ "runner_group_".toList := by
    simp only [Reading.brackets, List.mem_cons, List.not_mem_nil, or_false] at bracket
    rcases bracket with rfl | rfl | rfl | rfl | rfl | rfl | rfl <;> decide
  obtain ⟨noWord, noDigit, comma, null, start⟩ := marks
  split_ifs at hc
  · exact null hc
  · simp only [Group.table, String.toList_append, List.mem_append, comma, start, or_false,
      notMem_of_isIdentifier named.name noWord, notMem_toString_nat noDigit] at hc

def testTableStart : String := "static const struct runner_test runner_group_"

/-- The line that opens the table of a group. -/
def Group.head (group : Group) : String := testTableStart ++ group.name ++ "[] = \x7b"

theorem Group.Named.line_head {group : Group} (named : group.Named) :
    (Reading.between []).line group.head =
      .inside [group.table] [group.table, "runner_test", "struct", "const", "static"] := by
  have form : group.head.toList =
      testTableStart.toList ++ (group.name.toList ++ "[] = \x7b".toList) := by
    simp only [Group.head, String.toList_append, List.append_assoc]
  have code : Reading.skips group.head.toList = false := by
    have first : testTableStart.toList = 's' :: testTableStart.toList.tail := by decide +kernel
    rw [form, first]
    simp [Reading.skips, List.isPrefixOf]
  have kind : testTableStart.toList.foldl Reading.step (.between []) =
      { Reading.between [] with
        words := ["runner_test", "struct", "const", "static"]
        letters := "runner_group_".toList } := by
    decide +kernel
  have table : "runner_group_".toList ++ group.name.toList = group.table.toList :=
    String.toList_append.symm
  have proper : group.table ≠ "" := by simp [Group.table]
  rw [Reading.line_word form code kind (isWordChar_of_mem_identifier named.name), table]
  simp [Reading.step, Reading.mark, Reading.endWord, Reading.declare, Reading.openBrace,
    Reading.between, Reading.inside, Reading.declares, isWordChar, isAsciiAlphanumeric, proper]

/-- Rows leave the reading inside of a table, and its last line leaves it. -/
theorem foldl_rows {rows : List String} {names words : List String}
    (each : ∀ row ∈ rows, (Reading.inside names words).line row = .inside names words) :
    (rows ++ ["\x7d;"]).foldl Reading.line (.inside names words) = .between names := by
  induction rows with
  | nil =>
    have braces : "\x7d;".toList = ['\x7d', ';'] := String.toList_ofList
    cases words <;>
      simp [Reading.line, Reading.spelled, Reading.skips, braces, List.isPrefixOf, Reading.step,
        Reading.mark, Reading.endWord, Reading.declare, Reading.endDeclarator, Reading.closeBrace,
        Reading.between, Reading.inside, Reading.declares, isWordChar, isAsciiAlphanumeric]
  | cons row rows ih =>
    obtain ⟨first, later⟩ := List.forall_mem_cons.mp each
    rw [List.cons_append, List.foldl_cons, first, ih later]

/-- The tables of groups declare one name for each group that has tests. -/
theorem Group.Named.declare_tableLines {group : Group} (named : group.Named) :
    Declare group.tableLines (tableNames [group]) := by
  by_cases empty : group.tests.isEmpty = true
  · simpa [Group.tableLines, tableNames, empty] using Declare.nil
  · have lines : group.tableLines =
        (group.head :: (group.tests.map Test.row ++ ["\x7d;"])) ++ [""] := by
      rw [Group.tableLines, if_neg empty]
      simp only [List.append_assoc, List.cons_append, List.nil_append]
      rfl
    have names : tableNames [group] = [group.table] ++ [] := by simp [tableNames, empty]
    have rows : ∀ row ∈ group.tests.map Test.row, ∀ words,
        (Reading.inside [group.table] words).line row = .inside [group.table] words := by
      intro row hr words
      obtain ⟨test, ht, rfl⟩ := List.mem_map.mp hr
      exact (named.tests test ht).line_row _ _
    have table : Declare (group.head :: (group.tests.map Test.row ++ ["\x7d;"])) [group.table] := by
      apply Declare.of_foldl
      rw [List.foldl_cons, named.line_head, foldl_rows fun row hr => rows row hr _]
    rw [lines, names]
    exact table.append declare_empty

theorem tableNames_append (groups others : List Group) :
    tableNames (groups ++ others) = tableNames groups ++ tableNames others := by
  simp [tableNames]

/-- The lines behind the tables of tests declare the table of groups. -/
theorem declare_groupTable {groups : List Group} (named : ∀ group ∈ groups, group.Named) :
    Declare (groupTableLine :: (groups.map Group.row ++ closingLines)) ["runner_groups"] := by
  let table : Reading := .inside ["runner_groups"]
    ["runner_groups", "runner_group", "struct", "const", "static"]
  have head : (Reading.between []).line groupTableLine = table := by decide +kernel
  have rows : ∀ row ∈ groups.map Group.row ++ ["  \x7b NULL, NULL, 0 \x7d"],
      table.line row = table := by
    intro row hr
    rcases List.mem_append.mp hr with hr | last
    · obtain ⟨group, hg, rfl⟩ := List.mem_map.mp hr
      exact (named group hg).line_row _ _
    · obtain rfl := List.mem_singleton.mp last
      decide +kernel
  have lines : groups.map Group.row ++ closingLines =
      groups.map Group.row ++ ["  \x7b NULL, NULL, 0 \x7d"] ++ ["\x7d;"] := by
    rw [List.append_assoc]
    rfl
  apply Declare.of_foldl
  rw [List.foldl_cons, head, lines, foldl_rows rows]

theorem declare_tableLines {groups : List Group} (named : ∀ group ∈ groups, group.Named) :
    Declare (tableLines groups) (tableNames groups ++ ["runner_groups"]) := by
  have tables : Declare (groups.flatMap Group.tableLines) (tableNames groups) := by
    induction groups with
    | nil => exact .nil
    | cons group groups ih =>
      obtain ⟨first, later⟩ := List.forall_mem_cons.mp named
      exact tableNames_append [group] groups ▸ first.declare_tableLines.append (ih later)
  have lines : tableLines groups = groups.flatMap Group.tableLines ++
      groupTableLine :: (groups.map Group.row ++ closingLines) := by
    rw [tableLines, List.append_assoc, List.append_assoc]
    rfl
  rw [lines]
  exact tables.append (declare_groupTable named)

end Tables

/-- The lines of a runner behind the headers that it includes. -/
def Registry.codeLines (registry : Registry) : List String :=
  (if (declarationLines none registry.entries).isEmpty then []
    else declarationLines none registry.entries ++ [""]) ++
    (runnerTypes ++ "" :: (tableLines registry.groups ++ "" :: runnerProgram))

/-- The runner's own names: those of its results, its tables, its variables and its functions. -/
def Registry.ownNames (registry : Registry) : List String :=
  resultNames ++ (tableNames registry.groups ++ "runner_groups" :: programNames)

theorem Registry.declare_codeLines {registry : Registry}
    (symbols : ∀ e ∈ registry.entries, IsIdentifier e.symbol)
    (groups : ∀ group ∈ registry.groups, group.Named) :
    Declare registry.codeLines (registry.entries.map Entry.symbol ++ registry.ownNames) := by
  have declarations : Declare (if (declarationLines none registry.entries).isEmpty then []
      else declarationLines none registry.entries ++ [""]) (registry.entries.map Entry.symbol) := by
    have each := declare_declarationLines symbols none
    split_ifs with empty
    · rwa [List.isEmpty_iff.mp empty] at each
    · simpa using each.append declare_empty
  have program := declare_empty.append declare_runnerProgram
  have tables := (declare_tableLines groups).append program
  have types := declare_runnerTypes.append (declare_empty.append tables)
  have code := declarations.append types
  simpa [Registry.codeLines, Registry.ownNames] using code

section Distinct

theorem nodup_tableNames {groups : List Group} (distinct : (groups.map Group.name).Nodup) :
    (tableNames groups).Nodup := by
  have injective : Function.Injective fun name : String => "runner_group_" ++ name :=
    fun _ _ => (String.append_right_inj _).mp
  have names : tableNames groups =
      ((groups.filter fun group => !group.tests.isEmpty).map Group.name).map
        fun name => "runner_group_" ++ name := by
    rw [tableNames, List.map_map]
    rfl
  rw [names]
  exact (distinct.sublist (List.filter_sublist.map Group.name)).map injective

/-- The runner's own names differ from each other. -/
theorem Registry.nodup_ownNames {registry : Registry}
    (distinct : (registry.groups.map Group.name).Nodup) : registry.ownNames.Nodup := by
  have tables := nodup_tableNames distinct
  have fixed : (resultNames ++ "runner_groups" :: programNames).Nodup := by decide +kernel
  -- the names of tables start as no other name of the runner does
  have others : ∀ name ∈ resultNames ++ "runner_groups" :: programNames,
      "runner_group_".toList.isPrefixOf name.toList = false := by
    decide +kernel
  have apart : ∀ name ∈ tableNames registry.groups,
      ∀ other ∈ resultNames ++ "runner_groups" :: programNames, name ≠ other := by
    rintro name hn other ho rfl
    obtain ⟨group, -, rfl⟩ := List.mem_map.mp hn
    have start := others _ ho
    rw [Group.table, String.toList_append] at start
    simp at start
  have order : registry.ownNames.Perm
      (tableNames registry.groups ++ (resultNames ++ "runner_groups" :: programNames)) :=
    List.perm_append_comm_assoc _ _ _
  rw [order.nodup_iff, List.nodup_append]
  exact ⟨tables, fixed, apart⟩

theorem Registry.nodup_symbols_entries {registry : Registry}
    (keyed : (registry.symbols.map fun s => s.identifier).Nodup) :
    (registry.entries.map Entry.symbol).Nodup := by
  have names (symbols : SymbolTable) : (symbols.filterMap Symbol.entry?).map Entry.symbol =
      (symbols.filter fun s => s.use.isSome).map fun s => s.identifier := by
    induction symbols with
    | nil => rfl
    | cons s symbols ih =>
      cases given : s.use <;> simp [Symbol.entry?, Symbol.role, given, ih]
  rw [(registry.entries_perm.map Entry.symbol).nodup_iff, names]
  exact keyed.sublist (List.filter_sublist.map _)

end Distinct

section Built
variable {conventions : Conventions} {sources : List (String × List Char)} {registry : Registry}
  (built : (buildRegistry conventions (scanAll conventions.marker sources)).1 = .ok registry)
include built

theorem named_of_mem_groups {group : Group} (hg : group ∈ registry.groups) : group.Named := by
  refine ⟨isIdentifier_of_names built (.group hg), ?_⟩
  intro test member
  have ht : test ∈ registry.tests := List.mem_flatMap.mpr ⟨group, hg, member⟩
  exact ⟨isIdentifier_of_names built (.test ht), isIdentifier_of_names built (.testSymbol ht),
    fun slot name given => isIdentifier_of_names built (.testFixture ht given)⟩

theorem fileScopeNames_codeLines : fileScopeNames registry.codeLines =
    registry.entries.map Entry.symbol ++ registry.ownNames :=
  (Registry.declare_codeLines (fun _ he => isIdentifier_of_mem_entries built he)
    fun _ hg => named_of_mem_groups built hg).fileScopeNames_eq

/-- Neither the functions that are used nor the runner's own names hold a name twice. -/
theorem nodup_parts :
    (registry.entries.map Entry.symbol).Nodup ∧ registry.ownNames.Nodup := by
  obtain ⟨-, rfl⟩ := buildRegistry_eq_ok_iff.mp built
  have groups : ((Collection.ofItems conventions (itemsOf conventions.marker
      (scanAll conventions.marker sources))).registry.groups.map Group.name).Nodup := by
    rw [Collection.groups_registry_ofItems, List.map_map]
    exact nodup_map_firsts Prod.fst _
  exact ⟨Registry.nodup_symbols_entries
    (Collection.nodup_identifiers_registry_ofItems conventions _), Registry.nodup_ownNames groups⟩

end Built

/-- The text of a runner ends with code that declares the functions that are used, and the runner's
own names. They differ from each other unless a function that is used has one of the runner's own
names. -/
theorem fileScopeNames_of_buildRegistry {conventions : Conventions}
    {sources : List (String × List Char)} {registry : Registry}
    (built : (buildRegistry conventions (scanAll conventions.marker sources)).1 = .ok registry)
    (clean : registry.problems = []) :
    (∀ includes : List String, renderRunner registry (includes.map Value.text) =
        .ok (joinLines (openingLines registry.files ++
          systemHeaders.map (fun header => includeLine ("<" ++ header ++ ">")) ++
            includes.map includeLine ++ "" :: registry.codeLines))) ∧
      fileScopeNames registry.codeLines =
        registry.entries.map Entry.symbol ++ registry.ownNames ∧
      ((fileScopeNames registry.codeLines).Nodup ↔
        ∀ e ∈ registry.entries, e.symbol ∉ registry.ownNames) := by
  have declared := fileScopeNames_codeLines built
  obtain ⟨symbols, own⟩ := nodup_parts built
  refine ⟨fun includes => ?_, declared, ?_⟩
  · rw [renderRunner_of_clean clean]
    simp [runnerLines, Registry.codeLines]
  · rw [declared, List.nodup_append]
    constructor
    · rintro ⟨-, -, apart⟩ e he taken
      exact apart _ (List.mem_map_of_mem he) _ taken rfl
    · intro free
      refine ⟨symbols, own, ?_⟩
      rintro name hn other ho rfl
      obtain ⟨e, he, rfl⟩ := List.mem_map.mp hn
      exact free e he ho

theorem fileScopeNames_of_growthSource :
    ∃ registry, (buildRegistry .standard (scanAll "cmocka" [growthSource])).1 = .ok registry ∧
      registry.problems = [] ∧
      fileScopeNames registry.codeLines = "grows" :: resultNames ++
        ["runner_group_growth", "runner_groups"] ++ programNames ∧
      (fileScopeNames registry.codeLines).Nodup := by
  have built : (buildRegistry .standard
      (scanAll Conventions.standard.marker [growthSource])).1 = .ok (growthRegistry ["growth.c"]) :=
    buildRegistry_eq_ok_iff.mpr ⟨by decide +kernel, by decide +kernel⟩
  have entries : (growthRegistry ["growth.c"]).entries = [⟨"growth.c", "grows", .test⟩] := by
    simp [growthRegistry, Registry.entries, Registry.usedSymbols, Symbol.entry?, Symbol.role]
  obtain ⟨-, names, distinct⟩ := fileScopeNames_of_buildRegistry built rfl
  rw [entries] at names distinct
  exact ⟨_, built, rfl, names, distinct.mpr (by decide +kernel)⟩

/-- A source with a test that is named as a function of the runner. -/
def setupTestSource : String × List Char :=
  ("t.c", textOfLines ["/*!cmocka */", "void runner_setup(void **state) \x7b\x7d"])

theorem not_forall_nodup_fileScopeNames :
    ¬ ∀ (conventions : Conventions) (sources : List (String × List Char)) (registry : Registry),
      (buildRegistry conventions (scanAll conventions.marker sources)).1 = .ok registry →
        registry.problems = [] → (fileScopeNames registry.codeLines).Nodup := by
  intro distinct
  have legible : ∀ file ∈ scanAll "cmocka" [setupTestSource],
      file.Legible Conventions.standard.marker := by
    decide +kernel
  have built := buildRegistry_eq_ok_iff.mpr ⟨legible, rfl⟩
  have clean : (Collection.ofItems .standard (itemsOf Conventions.standard.marker
      (scanAll "cmocka" [setupTestSource]))).registry.problems = [] := by
    decide +kernel
  have used : (⟨"t.c", "runner_setup", .test⟩ : Entry) ∈ (Collection.ofItems .standard (itemsOf
      Conventions.standard.marker (scanAll "cmocka" [setupTestSource]))).registry.entries := by
    rw [(Registry.entries_perm _).mem_iff]
    decide +kernel
  have once := distinct .standard [setupTestSource] _ built clean
  rw [fileScopeNames_codeLines built, List.nodup_append] at once
  have own (registry : Registry) : "runner_setup" ∈ registry.ownNames := by
    simp [Registry.ownNames, programNames]
  exact once.2.2 _ (List.mem_map_of_mem used) _ (own _) rfl

end AnnotatedTests
