import AnnotatedTests.Proofs.Prototypes
import Mathlib

/-! Reading tables back. The lines of a table and the cells of a row end in marks that are in none
of their names, so a text of lines determines the tables that it ends with: from the last line that
opens the table of groups to the lines that all runners end with. What comes before the tables can
be anything. -/
namespace AnnotatedTests
attribute [local irreducible] Comment.directive

/-- What a row says about a test, with the fixtures that it runs with. -/
structure TestListing where
  name : String
  symbol : String
  setup : Option String
  teardown : Option String
  disabled : Bool
  timeout : Int
  deriving DecidableEq, Repr

/-- What the tables of a runner say about a group. -/
structure GroupListing where
  name : String
  tests : List TestListing
  deriving DecidableEq, Repr

def Test.listing (test : Test) : TestListing :=
  ⟨test.name, test.symbol, test.setup, test.teardown, test.disabled, test.timeout⟩

def Group.listing (group : Group) : GroupListing := ⟨group.name, group.tests.map Test.listing⟩

/-- Whether all names that a test gives are identifiers. -/
structure Test.WellNamed (test : Test) : Prop where
  name : IsIdentifier test.name
  symbol : IsIdentifier test.symbol
  fixture : ∀ slot name, test.fixture? slot = some name → IsIdentifier name

/-- Whether in addition no fixture of a test has the name that stands for none. -/
structure Test.Plain (test : Test) : Prop extends test.WellNamed where
  proper : ∀ slot name, test.fixture? slot = some name → name ≠ "NULL"

structure Group.Plain (group : Group) : Prop where
  name : IsIdentifier group.name
  tests : ∀ test ∈ group.tests, test.Plain

section Pieces

/-- The text of some pieces, each of which ends in a mark. -/
def marked (mark : Char) (pieces : List (List Char)) : List Char :=
  pieces.flatMap fun piece => piece ++ [mark]

theorem splitOn_marked (mark : Char) (pieces : List (List Char)) :
    (marked mark pieces).splitOn mark = pieces.flatMap (List.splitOn mark) ++ [[]] := by
  induction pieces with
  | nil => rfl
  | cons piece pieces ih =>
    have text : marked mark (piece :: pieces) = piece ++ mark :: marked mark pieces := by
      simp [marked]
    rw [text, List.splitOn_append_cons_self, ih, List.flatMap_cons, List.append_assoc]

/-- Pieces without the mark are left as they are when they are split at it. -/
theorem flatMap_splitOn_of_notMem {mark : Char} {pieces : List (List Char)}
    (plain : ∀ piece ∈ pieces, mark ∉ piece) : pieces.flatMap (List.splitOn mark) = pieces := by
  induction pieces with
  | nil => rfl
  | cons piece pieces ih =>
    have behind := ih fun other ho => plain other (List.mem_cons_of_mem piece ho)
    have whole := List.splitOn_eq_singleton (plain piece List.mem_cons_self)
    rw [List.flatMap_cons, whole, behind, List.singleton_append]

/-- A text has only one division into pieces that end in a mark and do not hold it. -/
theorem marked_injective {mark : Char} {pieces others : List (List Char)}
    (plain : ∀ piece ∈ pieces, mark ∉ piece) (plain' : ∀ piece ∈ others, mark ∉ piece)
    (same : marked mark pieces = marked mark others) : pieces = others := by
  have split := congrArg (List.splitOn mark) same
  rw [splitOn_marked, splitOn_marked, flatMap_splitOn_of_notMem plain,
    flatMap_splitOn_of_notMem plain'] at split
  exact List.append_cancel_right split

/-- Lists that are the same are cut alike at the last place of an element. -/
theorem eq_of_append_cons_eq {α : Type} {x : α} {before before' after after' : List α}
    (last : x ∉ after) (last' : x ∉ after')
    (same : before ++ x :: after = before' ++ x :: after') :
    before = before' ∧ after = after' := by
  -- if one list were cut further on, the element would come once more behind the other cut
  rcases List.append_eq_append_iff.mp same with ⟨more, rfl, tail⟩ | ⟨more, rfl, tail⟩
  · cases more with
    | nil => simpa using tail
    | cons y more =>
      obtain ⟨rfl, rfl⟩ := List.cons.inj tail
      exact absurd (by simp) last
  · cases more with
    | nil => simpa using tail.symm
    | cons y more =>
      obtain ⟨rfl, rfl⟩ := List.cons.inj tail
      exact absurd (by simp) last'

/-- The characters of a text are found in its literal, without taking its bytes apart. -/
theorem map_toList_cons {text : List Char} {texts : List String} {lines : List (List Char)}
    (others : texts.map String.toList = lines) :
    (String.ofList text :: texts).map String.toList = text :: lines := by
  rw [List.map_cons, others, String.toList_ofList]

/-- The lines of a text that is made of some lines, which can hold line ends of their own. -/
def linesWithin (lines : List String) : List (List Char) :=
  (lines.map String.toList).flatMap (List.splitOn '\n')

theorem linesWithin_append (lines more : List String) :
    linesWithin (lines ++ more) = linesWithin lines ++ linesWithin more := by
  rw [linesWithin, List.map_append, List.flatMap_append]
  rfl

theorem linesWithin_of_notMem {lines : List String} (plain : ∀ line ∈ lines, '\n' ∉ line.toList) :
    linesWithin lines = lines.map String.toList :=
  flatMap_splitOn_of_notMem (by simpa using plain)

theorem linesWithin_of_joinLines {lines others : List String}
    (same : joinLines lines = joinLines others) : linesWithin lines = linesWithin others := by
  have split (lines : List String) :
      (joinLines lines).toList.splitOn '\n' = linesWithin lines ++ [[]] := by
    have text : (joinLines lines).toList = marked '\n' (lines.map String.toList) := by
      simp [joinLines, marked, String.toList_join, List.flatMap_map]
    rw [text, splitOn_marked]
    rfl
  have ended : linesWithin lines ++ [[]] = linesWithin others ++ [[]] := by
    rw [← split, ← split, same]
  exact List.append_cancel_right ended

end Pieces

section Rows

def Test.cells (test : Test) : List (List Char) :=
  [("  \x7b \"" ++ test.name ++ "\"").toList, (" " ++ test.symbol).toList,
    (" " ++ fixtureCell test.setup).toList, (" " ++ fixtureCell test.teardown).toList,
    (" " ++ if test.disabled then "1" else "0").toList,
    (" " ++ toString test.timeout ++ " \x7d").toList]

theorem Test.toList_row (test : Test) : test.row.toList = marked ',' test.cells := by
  unfold row cells marked
  simp only [String.toList_append, List.flatMap_cons, List.flatMap_nil, List.append_assoc]
  rfl

/-- The first and the last cell of a group's row tell its name and the number of its tests. -/
def Group.cells (group : Group) : List (List Char) :=
  [("  \x7b \"" ++ group.name ++ "\"").toList,
    (" " ++ if group.tests.isEmpty then "NULL" else "runner_group_" ++ group.name).toList,
    (" " ++ toString group.tests.length ++ " \x7d").toList]

theorem Group.toList_row (group : Group) : group.row.toList = marked ',' group.cells := by
  unfold row cells
  cases group.tests with
  | nil => simp [marked]
  | cons test tests => simp [marked]

theorem notMem_of_isIdentifier {name : String} (named : IsIdentifier name) {c : Char}
    (mark : isWordChar c = false) : c ∉ name.toList := by
  intro member
  exact Bool.false_ne_true (mark.symm.trans (isWordChar_of_mem_identifier named c member))

theorem notMem_toString_nat {c : Char} (mark : c.isDigit = false) (n : Nat) :
    c ∉ (toString n).toList := by
  intro member
  have digits : (toString n).toList = Nat.toDigits 10 n := Nat.toList_repr
  rw [digits] at member
  have digit := Nat.isDigit_of_mem_toDigits (by decide) (by decide) member
  exact Bool.false_ne_true (mark.symm.trans digit)

theorem notMem_toString_int {c : Char} (mark : c.isDigit = false) (other : c ≠ '-') (n : Int) :
    c ∉ (toString n).toList := by
  cases n with
  | ofNat n => exact notMem_toString_nat mark n
  | negSucc n =>
    have text : toString (Int.negSucc n) = "-" ++ toString (n + 1) := rfl
    rw [text, String.toList_append, List.mem_append]
    rintro (sign | digits)
    · exact other (List.mem_singleton.mp sign)
    · exact notMem_toString_nat mark (n + 1) digits

theorem isIdentifier_fixtureCell {fixture : Option String}
    (named : ∀ name, fixture = some name → IsIdentifier name) :
    IsIdentifier (fixtureCell fixture) := by
  cases fixture with
  | none => exact (by decide : IsIdentifier "NULL")
  | some name =>
    rw [fixtureCell_of_isIdentifier (named name rfl)]
    exact named name rfl

/-- A cell tells which fixture a test has, if no fixture has the name that stands for none. -/
theorem fixtureCell_injective {fixture other : Option String}
    (named : ∀ name, fixture = some name → IsIdentifier name ∧ name ≠ "NULL")
    (named' : ∀ name, other = some name → IsIdentifier name ∧ name ≠ "NULL")
    (same : fixtureCell fixture = fixtureCell other) : fixture = other := by
  cases fixture with
  | none =>
    cases other with
    | none => rfl
    | some name =>
      obtain ⟨identifier, proper⟩ := named' name rfl
      rw [fixtureCell_of_isIdentifier identifier] at same
      exact absurd same.symm proper
  | some name =>
    obtain ⟨identifier, proper⟩ := named name rfl
    rw [fixtureCell_of_isIdentifier identifier] at same
    cases other with
    | none => exact absurd same proper
    | some name' => rw [same, fixtureCell_of_isIdentifier (named' name' rfl).1]

/-- Neither of the marks that end cells and lines is in a cell of a test. -/
theorem Test.WellNamed.notMem_cells {test : Test} (named : test.WellNamed) {mark : Char}
    (hm : mark ∈ [',', '\n']) : ∀ cell ∈ test.cells, mark ∉ cell := by
  have setup := isIdentifier_fixtureCell (named.fixture .setup)
  have teardown := isIdentifier_fixtureCell (named.fixture .teardown)
  have marks : isWordChar mark = false ∧ mark.isDigit = false ∧ mark ≠ '-' ∧
      mark ∉ "  \x7b \"".toList ∧ mark ∉ "\"".toList ∧ mark ∉ " ".toList ∧ mark ∉ " \x7d".toList ∧
      mark ∉ "0".toList ∧ mark ∉ "1".toList := by
    rcases List.mem_pair.mp hm with rfl | rfl <;> decide
  obtain ⟨noWord, noDigit, noSign, brace, quote, space, close, no, yes⟩ := marks
  have flag : mark ∉ (if test.disabled then "1" else "0").toList := by
    split_ifs
    · exact yes
    · exact no
  simp only [cells, List.forall_mem_cons, String.toList_append, List.mem_append, not_or]
  exact ⟨⟨⟨brace, notMem_of_isIdentifier named.name noWord⟩, quote⟩,
    ⟨space, notMem_of_isIdentifier named.symbol noWord⟩,
    ⟨space, notMem_of_isIdentifier setup noWord⟩,
    ⟨space, notMem_of_isIdentifier teardown noWord⟩, ⟨space, flag⟩,
    ⟨⟨space, notMem_toString_int noDigit noSign test.timeout⟩, close⟩, by simp⟩

/-- Rows of tests differ unless they say the same. -/
theorem Test.listing_of_row {test other : Test} (plain : test.Plain) (plain' : other.Plain)
    (same : test.row = other.row) : test.listing = other.listing := by
  have text := congrArg String.toList same
  rw [toList_row, toList_row] at text
  have cells := marked_injective (plain.notMem_cells (by simp)) (plain'.notMem_cells (by simp)) text
  simp only [Test.cells, List.cons.injEq, String.toList_inj] at cells
  obtain ⟨name, symbol, setup, teardown, disabled, timeout, -⟩ := cells
  -- what frames the text of a cell is the same in all rows, so the texts are the same
  have digits : ∀ a b : Bool, (if a then "1" else "0") = (if b then "1" else "0") → a = b := by
    decide
  have flag : test.disabled = other.disabled :=
    digits _ _ ((String.append_right_inj _).mp disabled)
  have seconds : test.timeout = other.timeout := by
    rw [String.append_left_inj, String.append_right_inj] at timeout
    exact Int.repr_inj.mp timeout
  rw [String.append_left_inj, String.append_right_inj] at name
  rw [String.append_right_inj] at symbol setup teardown
  have fixture (slot : Slot)
      (cell : fixtureCell (test.fixture? slot) = fixtureCell (other.fixture? slot)) :
      test.fixture? slot = other.fixture? slot :=
    fixtureCell_injective
      (fun name given => ⟨plain.fixture slot name given, plain.proper slot name given⟩)
      (fun name given => ⟨plain'.fixture slot name given, plain'.proper slot name given⟩) cell
  have before : test.setup = other.setup := fixture .setup setup
  have after : test.teardown = other.teardown := fixture .teardown teardown
  simp only [listing, name, symbol, before, after, flag, seconds]

theorem Group.Plain.notMem_cells {group : Group} (plain : group.Plain) {mark : Char}
    (hm : mark ∈ [',', '\n']) : ∀ cell ∈ group.cells, mark ∉ cell := by
  have marks : isWordChar mark = false ∧ mark.isDigit = false ∧ mark ∉ "  \x7b \"".toList ∧
      mark ∉ "\"".toList ∧ mark ∉ " ".toList ∧ mark ∉ " \x7d".toList ∧ mark ∉ "NULL".toList ∧
      mark ∉ "runner_group_".toList := by
    rcases List.mem_pair.mp hm with rfl | rfl <;> decide
  obtain ⟨noWord, noDigit, brace, quote, space, close, null, start⟩ := marks
  have own := notMem_of_isIdentifier plain.name noWord
  have table : mark ∉
      (if group.tests.isEmpty then "NULL" else "runner_group_" ++ group.name).toList := by
    split_ifs
    · exact null
    · rw [String.toList_append, List.mem_append, not_or]
      exact ⟨start, own⟩
  simp only [cells, List.forall_mem_cons, String.toList_append, List.mem_append, not_or]
  exact ⟨⟨⟨brace, own⟩, quote⟩, ⟨space, table⟩,
    ⟨⟨space, notMem_toString_nat noDigit group.tests.length⟩, close⟩, by simp⟩

/-- The row of a group tells its name and the number of its tests. -/
theorem Group.size_of_row {group other : Group} (plain : group.Plain) (plain' : other.Plain)
    (same : group.row = other.row) :
    group.name = other.name ∧ group.tests.length = other.tests.length := by
  have text := congrArg String.toList same
  rw [toList_row, toList_row] at text
  have cells := marked_injective (plain.notMem_cells (by simp)) (plain'.notMem_cells (by simp)) text
  simp only [Group.cells, List.cons.injEq, String.toList_inj] at cells
  obtain ⟨name, -, count, -⟩ := cells
  rw [String.append_left_inj, String.append_right_inj] at name count
  exact ⟨name, Nat.repr_inj.mp count⟩

end Rows

section Tables

/-- If one reading of the elements of two lists tells another, it does so for the whole lists. -/
theorem map_eq_map_of_tells {α β γ : Type} {f : α → β} {g : α → γ} {xs ys : List α}
    (tells : ∀ x ∈ xs, ∀ y ∈ ys, f x = f y → g x = g y) (same : xs.map f = ys.map f) :
    xs.map g = ys.map g := by
  induction xs generalizing ys with
  | nil => rw [List.map_eq_nil_iff.mp same.symm]
  | cons x xs ih =>
    cases ys with
    | nil => simp at same
    | cons y ys =>
      obtain ⟨first, rest⟩ := List.cons.inj same
      have here := tells x List.mem_cons_self y List.mem_cons_self first
      have behind := ih (fun a ha b hb =>
        tells a (List.mem_cons_of_mem x ha) b (List.mem_cons_of_mem y hb)) rest
      rw [List.map_cons, List.map_cons, here, behind]

theorem Group.length_tableLines (group : Group) :
    group.tableLines.length = if group.tests.length = 0 then 0 else group.tests.length + 3 := by
  unfold tableLines
  cases group.tests with
  | nil => rfl
  | cons test tests => simp

/-- The rows of groups tell how many lines the tables of their tests have. -/
theorem length_tableLines_of_rows {groups others : List Group}
    (plain : ∀ group ∈ groups, group.Plain) (plain' : ∀ group ∈ others, group.Plain)
    (rows : groups.map Group.row = others.map Group.row) :
    groups.map (fun group => group.tableLines.length) =
      others.map fun group => group.tableLines.length := by
  apply map_eq_map_of_tells ?_ rows
  intro group hg other ho row
  obtain ⟨-, count⟩ := Group.size_of_row (plain group hg) (plain' other ho) row
  rw [Group.length_tableLines, Group.length_tableLines, count]

theorem Group.listing_of_tableLines {group other : Group} (plain : group.Plain)
    (plain' : other.Plain) (name : group.name = other.name)
    (count : group.tests.length = other.tests.length)
    (same : group.tableLines = other.tableLines) : group.listing = other.listing := by
  have rows : group.tests.map Test.row = other.tests.map Test.row := by
    unfold tableLines at same
    cases own : group.tests with
    | nil =>
      -- a group without tests has no table, and the other one has as many tests
      have none_there : other.tests = [] := List.length_eq_zero_iff.mp (by rw [← count, own]; rfl)
      rw [none_there]
    | cons test tests =>
      obtain ⟨test', tests', theirs⟩ := List.exists_cons_of_length_pos
        (l := other.tests) (by rw [← count, own]; exact Nat.succ_pos _)
      simpa [own, theirs, name] using same
  have said := map_eq_map_of_tells (fun test ht theirs ho =>
    Test.listing_of_row (plain.tests test ht) (plain'.tests theirs ho)) rows
  rw [listing, listing, name, said]

/-- The tables of tests do not say where one of them ends, but the rows of the groups tell it. -/
theorem listings_of_tables {groups others : List Group}
    (plain : ∀ group ∈ groups, group.Plain) (plain' : ∀ group ∈ others, group.Plain)
    (rows : groups.map Group.row = others.map Group.row)
    (tables : groups.flatMap Group.tableLines = others.flatMap Group.tableLines) :
    groups.map Group.listing = others.map Group.listing := by
  have sizes := length_tableLines_of_rows plain plain' rows
  have each : groups.map Group.tableLines = others.map Group.tableLines := by
    rw [List.eq_iff_flatten_eq, List.map_map, List.map_map]
    exact ⟨tables, sizes⟩
  have both : groups.map (fun group => (group.row, group.tableLines)) =
      others.map fun group => (group.row, group.tableLines) :=
    calc groups.map (fun group => (group.row, group.tableLines))
        = (groups.map Group.row).zip (groups.map Group.tableLines) := List.zip_map'.symm
      _ = (others.map Group.row).zip (others.map Group.tableLines) := by rw [rows, each]
      _ = others.map fun group => (group.row, group.tableLines) := List.zip_map'
  apply map_eq_map_of_tells ?_ both
  intro group hg other ho same
  obtain ⟨row, table⟩ := Prod.mk.inj same
  obtain ⟨name, count⟩ := Group.size_of_row (plain group hg) (plain' other ho) row
  exact Group.listing_of_tableLines (plain group hg) (plain' other ho) name count table

theorem notMem_marked {mark c : Char} {pieces : List (List Char)} (other : c ≠ mark)
    (plain : ∀ piece ∈ pieces, c ∉ piece) : c ∉ marked mark pieces := by
  intro member
  obtain ⟨piece, hp, hc⟩ := List.mem_flatMap.mp member
  rcases List.mem_append.mp hc with inside | last
  · exact plain piece hp inside
  · exact other (List.mem_singleton.mp last)

theorem Test.Plain.newline_notMem_row {test : Test} (plain : test.Plain) :
    '\n' ∉ test.row.toList := by
  rw [Test.toList_row]
  exact notMem_marked (by decide) (plain.notMem_cells (by simp))

theorem Group.Plain.newline_notMem_row {group : Group} (plain : group.Plain) :
    '\n' ∉ group.row.toList := by
  rw [Group.toList_row]
  exact notMem_marked (by decide) (plain.notMem_cells (by simp))

theorem Group.Plain.newline_notMem_tableLines {group : Group} (plain : group.Plain) :
    ∀ line ∈ group.tableLines, '\n' ∉ line.toList := by
  intro line hl
  unfold tableLines at hl
  split_ifs at hl with empty
  · simp at hl
  · simp only [List.mem_append, List.mem_map, List.mem_cons, List.not_mem_nil, or_false] at hl
    rcases hl with (rfl | ⟨test, ht, rfl⟩) | rfl | rfl
    · have own := notMem_of_isIdentifier plain.name (c := '\n') (by decide)
      simp only [String.toList_append, List.mem_append, not_or]
      exact ⟨⟨by decide, own⟩, by decide⟩
    · exact (plain.tests test ht).newline_notMem_row
    · decide
    · decide

/-- The line that opens the table of groups. -/
def groupTableLine : String := "static const struct runner_group runner_groups[] = \x7b"

theorem groupTableLine_notMem_rows (groups : List Group) :
    groupTableLine ∉ groups.map Group.row := by
  intro member
  obtain ⟨group, -, same⟩ := List.mem_map.mp member
  have text := congrArg String.toList same
  rw [Group.toList_row] at text
  simp [Group.cells, marked, groupTableLine] at text

/-- The lines behind the rows of groups, which are the same in all runners. -/
def closingLines : List String := ["  \x7b NULL, NULL, 0 \x7d", "\x7d;"]

theorem linesWithin_tableLines {groups : List Group} (plain : ∀ group ∈ groups, group.Plain) :
    linesWithin (tableLines groups) =
      (groups.flatMap Group.tableLines).map String.toList ++
        groupTableLine.toList :: (groups.map Group.row).map String.toList ++
          linesWithin closingLines := by
  have tables : linesWithin (groups.flatMap Group.tableLines) =
      (groups.flatMap Group.tableLines).map String.toList := by
    apply linesWithin_of_notMem
    intro line hl
    obtain ⟨group, hg, hl⟩ := List.mem_flatMap.mp hl
    exact (plain group hg).newline_notMem_tableLines line hl
  have rows : linesWithin (groups.map Group.row) =
      (groups.map Group.row).map String.toList := by
    apply linesWithin_of_notMem
    intro line hl
    obtain ⟨group, hg, rfl⟩ := List.mem_map.mp hl
    exact (plain group hg).newline_notMem_row
  have opens : linesWithin [groupTableLine] = [groupTableLine.toList] :=
    linesWithin_of_notMem (by decide)
  have form : tableLines groups = groups.flatMap Group.tableLines ++ [groupTableLine] ++
      groups.map Group.row ++ closingLines := rfl
  simp only [form, linesWithin_append, tables, opens, rows]
  simp only [List.append_assoc, List.cons_append, List.nil_append]

/-- A text that ends with tables, and with lines that are known, tells what the tables say. -/
theorem listings_of_joinLines {groups others : List Group}
    (plain : ∀ group ∈ groups, group.Plain) (plain' : ∀ group ∈ others, group.Plain)
    {opening opening' ending : List String}
    (same : joinLines (opening ++ tableLines groups ++ ending) =
      joinLines (opening' ++ tableLines others ++ ending)) :
    groups.map Group.listing = others.map Group.listing := by
  have injective : Function.Injective String.toList := fun _ _ => String.toList_injective
  have last (groups : List Group) :
      groupTableLine.toList ∉ (groups.map Group.row).map String.toList := by
    rw [List.mem_map_of_injective injective]
    exact groupTableLine_notMem_rows groups
  have split : (linesWithin opening ++ (groups.flatMap Group.tableLines).map String.toList) ++
      groupTableLine.toList :: (groups.map Group.row).map String.toList ++
        (linesWithin closingLines ++ linesWithin ending) =
      (linesWithin opening' ++ (others.flatMap Group.tableLines).map String.toList) ++
      groupTableLine.toList :: (others.map Group.row).map String.toList ++
        (linesWithin closingLines ++ linesWithin ending) := by
    simpa only [linesWithin_append, linesWithin_tableLines plain, linesWithin_tableLines plain',
      List.append_assoc, List.cons_append] using linesWithin_of_joinLines same
  -- the lines behind the rows are the same, and the table of groups is the last one to open
  obtain ⟨before, rows⟩ := eq_of_append_cons_eq (last groups) (last others)
    (List.append_cancel_right split)
  have rows := List.map_injective_iff.mpr injective rows
  -- the rows tell how long the tables of tests are, so what comes before these can be cut off
  have lengths : ((groups.flatMap Group.tableLines).map String.toList).length =
      ((others.flatMap Group.tableLines).map String.toList).length := by
    have sizes := length_tableLines_of_rows plain plain' rows
    rw [List.length_map, List.length_map, List.length_flatMap, List.length_flatMap, sizes]
  obtain ⟨-, tables⟩ := List.append_inj' before lengths
  have tables := List.map_injective_iff.mpr injective tables
  exact listings_of_tables plain plain' rows tables

end Tables

theorem clean_of_renderRunner {registry : Registry} {includes : List Value} {text : String}
    (rendered : renderRunner registry includes = .ok text) : registry.problems = [] := by
  unfold renderRunner at rendered
  split_ifs at rendered with left
  simpa [Registry.ok] using left

theorem wellNamed_of_mem_tests {conventions : Conventions} {sources : List (String × List Char)}
    {registry : Registry}
    (built : (buildRegistry conventions (scanAll conventions.marker sources)).1 = .ok registry) :
    ∀ test ∈ registry.tests, test.WellNamed := by
  intro test ht
  exact ⟨isIdentifier_of_names built (.test ht), isIdentifier_of_names built (.testSymbol ht),
    fun slot name named => isIdentifier_of_names built (.testFixture ht named)⟩

/-- The names in a registry without problems are plain, if no symbol has the name that stands for no
fixture. -/
theorem plain_of_mem_groups {conventions : Conventions} {sources : List (String × List Char)}
    {registry : Registry}
    (built : (buildRegistry conventions (scanAll conventions.marker sources)).1 = .ok registry)
    (clean : registry.problems = []) (proper : ∀ s ∈ registry.symbols, s.identifier ≠ "NULL") :
    ∀ group ∈ registry.groups, group.Plain := by
  intro group hg
  refine ⟨isIdentifier_of_names built (.group hg), ?_⟩
  intro test member
  have ht : test ∈ registry.tests := List.mem_flatMap.mpr ⟨group, hg, member⟩
  refine ⟨wellNamed_of_mem_tests built test ht, ?_⟩
  intro slot name named
  -- a fixture is declared, since it is used
  obtain ⟨s, hs, rfl, -⟩ := exists_symbol_of_used built clean (.testFixture ht named)
  exact proper s hs

/-- Two registries for which the same runner is generated have the same groups and tests, in the
same order, with the same fixtures, flags and timeouts. Neither the names of files nor the headers
that are included make a difference to what the tables of a runner say. -/
theorem listings_of_renderRunner {conventions conventions' : Conventions}
    {sources sources' : List (String × List Char)} {registry registry' : Registry}
    (built : (buildRegistry conventions (scanAll conventions.marker sources)).1 = .ok registry)
    (built' : (buildRegistry conventions' (scanAll conventions'.marker sources')).1 = .ok registry')
    (proper : ∀ s ∈ registry.symbols, s.identifier ≠ "NULL")
    (proper' : ∀ s ∈ registry'.symbols, s.identifier ≠ "NULL")
    {includes includes' : List String} {text : String}
    (rendered : renderRunner registry (includes.map Value.text) = .ok text)
    (rendered' : renderRunner registry' (includes'.map Value.text) = .ok text) :
    registry.groups.map Group.listing = registry'.groups.map Group.listing := by
  have clean := clean_of_renderRunner rendered
  have clean' := clean_of_renderRunner rendered'
  rw [renderRunner_of_clean clean, Except.ok.injEq] at rendered
  rw [renderRunner_of_clean clean', Except.ok.injEq] at rendered'
  obtain ⟨opening, between, lines⟩ := exists_runnerLines registry (includes.map includeLine)
  obtain ⟨opening', between', lines'⟩ := exists_runnerLines registry' (includes'.map includeLine)
  have same := rendered.trans rendered'.symm
  rw [lines, lines'] at same
  exact listings_of_joinLines (plain_of_mem_groups built clean proper)
    (plain_of_mem_groups built' clean' proper') same

/-- A source with one test, to be read with two more files, or with one whose name has two lines. -/
def growthSource : String × List Char :=
  ("growth.c", textOfLines ["/*!cmocka timeout:5 */", "void grows(void **state) \x7b\x7d"])

def twoFiles : List (String × List Char) := [("a.c", []), ("b.c", []), growthSource]

def oneFile : List (String × List Char) := [("a.c\n *   b.c", []), growthSource]

/-- What is collected of that source and of files that hold nothing. -/
def growthRegistry (files : List String) : Registry where
  groups :=
    [⟨"growth", [⟨"grows", "growth", "grows", none, none, false, 5, ⟨"growth.c", 1⟩⟩], none, none,
      ⟨"growth.c", 1⟩⟩]
  symbols :=
    [⟨⟨"grows", stateParams, "void", ⟨"growth.c", 2⟩, true, false⟩, some ⟨.test, ⟨"growth.c", 1⟩⟩⟩]
  problems := []
  files := files

theorem joinLines_append (lines more : List String) :
    joinLines (lines ++ more) = joinLines lines ++ joinLines more := by
  simp [joinLines]

theorem listings_of_twoFiles_oneFile :
    ∃ registry registry' text,
      (buildRegistry .standard (scanAll "cmocka" twoFiles)).1 = .ok registry ∧
      (buildRegistry .standard (scanAll "cmocka" oneFile)).1 = .ok registry' ∧
      registry.files ≠ registry'.files ∧
      (∀ s ∈ registry.symbols, s.identifier ≠ "NULL") ∧
      (∀ s ∈ registry'.symbols, s.identifier ≠ "NULL") ∧
      renderRunner registry (["a.h", "b.h"].map Value.text) = .ok text ∧
      renderRunner registry' (["a.h\"\n#include \"b.h"].map Value.text) = .ok text ∧
      registry.groups.map Group.listing =
        [⟨"growth", [⟨"grows", "grows", none, none, false, 5⟩]⟩] ∧
      registry.groups.map Group.listing = registry'.groups.map Group.listing := by
  have built : (buildRegistry .standard (scanAll Conventions.standard.marker twoFiles)).1 =
      .ok (growthRegistry ["a.c", "b.c", "growth.c"]) :=
    buildRegistry_eq_ok_iff.mpr ⟨by decide +kernel, by decide +kernel⟩
  have built' : (buildRegistry .standard (scanAll Conventions.standard.marker oneFile)).1 =
      .ok (growthRegistry ["a.c\n *   b.c", "growth.c"]) :=
    buildRegistry_eq_ok_iff.mpr ⟨by decide +kernel, by decide +kernel⟩
  have proper (files : List String) :
      ∀ s ∈ (growthRegistry files).symbols, s.identifier ≠ "NULL" := by
    simp [growthRegistry]
  have entries (files : List String) :
      (growthRegistry files).entries = [⟨"growth.c", "grows", .test⟩] := by
    simp [growthRegistry, Registry.entries, Registry.usedSymbols, Symbol.entry?, Symbol.role]
  -- the two texts differ in where the lines of the opening comment and of the headers end
  have text : joinLines (runnerLines (growthRegistry ["a.c", "b.c", "growth.c"])
        (["a.h", "b.h"].map includeLine)) =
      joinLines (runnerLines (growthRegistry ["a.c\n *   b.c", "growth.c"])
        (["a.h\"\n#include \"b.h"].map includeLine)) := by
    have comment : joinLines (openingLines ["a.c", "b.c", "growth.c"]) =
        joinLines (openingLines ["a.c\n *   b.c", "growth.c"]) := by
      decide +kernel
    have headers : joinLines (["a.h", "b.h"].map includeLine) =
        joinLines (["a.h\"\n#include \"b.h"].map includeLine) := by
      decide +kernel
    simp only [runnerLines, joinLines_append, entries, headers]
    simp only [growthRegistry, comment]
  have clean (files : List String) : (growthRegistry files).problems = [] := rfl
  have rendered := renderRunner_of_clean (clean ["a.c", "b.c", "growth.c"]) ["a.h", "b.h"]
  have rendered' := renderRunner_of_clean (clean ["a.c\n *   b.c", "growth.c"])
    ["a.h\"\n#include \"b.h"]
  rw [← text] at rendered'
  exact ⟨_, _, _, built, built', by decide, proper _, proper _, rendered, rendered', rfl,
    listings_of_renderRunner built built' (proper _) (proper _) rendered rendered'⟩

end AnnotatedTests
