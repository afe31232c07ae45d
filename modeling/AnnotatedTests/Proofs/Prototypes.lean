import AnnotatedTests.Output.Rendering
import AnnotatedTests.Proofs.Insertion
import AnnotatedTests.Proofs.ManifestOrder
import AnnotatedTests.Proofs.Names
import Mathlib.Data.List.Infix

/-! What a runner declares. The tables of a runner name functions of other files, so each of these
functions needs a prototype and an entry in the manifest. Rows come from tests that are completed
late and prototypes from the uses of symbols; without problems a function that is used has one
entry, and nothing is declared that no directive refers to. -/
namespace AnnotatedTests
attribute [local irreducible] Comment.directive

/-- Whether a line is a prototype of a function, whatever the function returns and takes. -/
def isPrototypeOf (name line : String) : Bool :=
  (line.toList.tails.any fun rest => (" " ++ name ++ "(").toList.isPrefixOf rest) &&
    ");".toList.isSuffixOf line.toList

section Declarations

theorem isPrototypeOf_iff {name line : String} :
    isPrototypeOf name line = true ↔
      (" " ++ name ++ "(").toList <:+: line.toList ∧ ");".toList <:+ line.toList := by
  simp only [isPrototypeOf, Bool.and_eq_true, List.any_eq_true, List.mem_tails,
    List.isPrefixOf_iff_prefix, List.isSuffixOf_iff_suffix, List.infix_iff_prefix_suffix]
  exact and_congr_left' (exists_congr fun rest => and_comm)

theorem isPrototypeOf_empty (name : String) : isPrototypeOf name "" = false := by
  simp [isPrototypeOf]

theorem isPrototypeOf_fileHeading (name file : String) :
    isPrototypeOf name (fileHeading file) = false := by
  have ending : ");".toList.isSuffixOf (fileHeading file).toList = false := by
    simp [fileHeading, List.isSuffixOf, List.isPrefixOf]
  rw [isPrototypeOf, ending, Bool.and_false]

theorem isPrototypeOf_prototype_iff {e : Entry} (named : IsIdentifier e.symbol) (name : String) :
    isPrototypeOf name e.prototype = true ↔ e.symbol = name := by
  have text : e.prototype.toList = (e.role.returnKind.toList ++ ' ' :: e.symbol.toList) ++
      '(' :: "void **state);".toList := by
    simp [Entry.prototype]
  constructor
  · intro h
    obtain ⟨⟨before, after, split⟩, -⟩ := isPrototypeOf_iff.mp h
    have word := isWordChar_of_mem_identifier named
    have noBlank : ' ' ∉ e.symbol.toList := fun member => absurd (word _ member) (by decide)
    have noBracket : '(' ∉ e.symbol.toList := fun member => absurd (word _ member) (by decide)
    have kind : ' ' ∉ e.role.returnKind.toList ∧ '(' ∉ e.role.returnKind.toList := by
      cases e.role <;> decide
    have same : (e.role.returnKind.toList ++ ' ' :: e.symbol.toList) ++
        '(' :: "void **state);".toList = (before ++ ' ' :: name.toList) ++ '(' :: after := by
      rw [← text, ← split]
      simp
    -- one bracket opens in a prototype, and before it there is one space
    obtain ⟨head, -, -⟩ := (List.append_cons_inj_of_notMem
      (by simp [kind, noBracket]) (by decide)).mp same
    obtain ⟨-, -, symbol⟩ := (List.append_cons_inj_of_notMem kind.1 noBlank).mp head
    exact String.toList_inj.mp symbol
  · rintro rfl
    have inside : (" " ++ e.symbol ++ "(").toList <:+: e.prototype.toList := by
      refine ⟨e.role.returnKind.toList, "void **state);".toList, ?_⟩
      rw [text]
      simp
    have ending : ");".toList <:+ e.prototype.toList := by
      refine ⟨e.role.returnKind.toList ++ ' ' :: e.symbol.toList ++ "(void **state".toList, ?_⟩
      rw [text]
      simp
    exact isPrototypeOf_iff.mpr ⟨inside, ending⟩

/-- Of the lines of declarations, those that are prototypes of a function are the ones of its
entries. -/
theorem filter_isPrototypeOf {entries : List Entry} (named : ∀ e ∈ entries, IsIdentifier e.symbol)
    (current : Option String) (name : String) :
    (declarationLines current entries).filter (isPrototypeOf name) =
      (entries.filter fun e => e.symbol = name).map Entry.prototype := by
  induction entries generalizing current with
  | nil => rfl
  | cons e entries ih =>
    have behind := ih (fun other ho => named other (List.mem_cons_of_mem e ho)) (some e.file)
    have own := isPrototypeOf_prototype_iff (named e List.mem_cons_self) name
    have plain := isPrototypeOf_empty name
    have heading := isPrototypeOf_fileHeading name e.file
    -- neither an empty line nor a heading is a prototype
    have opened : (declarationLines current (e :: entries)).filter (isPrototypeOf name) =
        (e.prototype :: declarationLines (some e.file) entries).filter (isPrototypeOf name) := by
      rw [declarationLines, List.filter_append]
      split_ifs <;> simp_all [fileHeading]
    rw [opened, List.filter_cons, List.filter_cons, behind]
    by_cases same : e.symbol = name
    · simp [same, own]
    · simp [same, own]

end Declarations

namespace Registry

theorem entries_perm (registry : Registry) :
    registry.entries.Perm (registry.symbols.filterMap Symbol.entry?) := by
  have unused : (registry.symbols.filter fun s => s.use.isSome).filterMap Symbol.entry? =
      registry.symbols.filterMap Symbol.entry? := by
    rw [List.filterMap_filter]
    apply List.filterMap_congr
    intro s _
    cases given : s.use <;> simp [Symbol.entry?, Symbol.role, given]
  rw [entries, ← unused]
  exact registry.usedSymbols_perm.filterMap Symbol.entry?

/-- A symbol that has a role has one entry, where symbols differ in their names. -/
theorem filter_entries {registry : Registry}
    (keyed : (registry.symbols.map fun s => s.identifier).Nodup) {s : Symbol}
    (hs : s ∈ registry.symbols) {role : Role} (given : s.role = some role) :
    (registry.entries.filter fun e => e.symbol = s.identifier) =
      [⟨s.place.filename, s.identifier, role⟩] := by
  obtain ⟨before, after, split⟩ := List.append_of_mem hs
  rw [split, List.map_append, List.map_cons, List.nodup_middle, List.nodup_cons,
    ← List.map_append] at keyed
  obtain ⟨apart, -⟩ := keyed
  -- no other symbol has the name, so that none of them gives an entry for it
  have others : ∀ symbols ⊆ before ++ after, (symbols.filterMap Symbol.entry?).filter
      (fun e => e.symbol = s.identifier) = [] := by
    intro symbols among
    apply List.filter_eq_nil_iff.mpr
    intro e he
    obtain ⟨t, ht, made⟩ := List.mem_filterMap.mp he
    obtain ⟨-, -, rfl⟩ := Option.map_eq_some_iff.mp made
    have different : t.identifier ≠ s.identifier := fun same =>
      apart (List.mem_map.mpr ⟨t, among ht, same⟩)
    simpa using different
  have own : s.entry? = some ⟨s.place.filename, s.identifier, role⟩ := by
    rw [Symbol.entry?, given, Option.map_some]
  have listed := registry.entries_perm.filter fun e => e.symbol = s.identifier
  rw [split, List.filterMap_append, List.filterMap_cons_some own, List.filter_append,
    List.filter_cons_of_pos (by simp), others before (by simp), others after (by simp)] at listed
  exact List.perm_singleton.mp listed

end Registry

namespace Collection

theorem nodup_identifiers_registry_ofItems (conventions : Conventions) (items : List Item) :
    ((ofItems conventions items).registry.symbols.map fun s => s.identifier).Nodup := by
  have kept : ((ofItems conventions items).registry.symbols.map fun s => s.identifier) =
      (ofItems conventions items).symbols.map fun s => s.identifier := by
    rw [symbols_registry_ofItems, SymbolTable.usedBy, List.map_map]
    rfl
  have once := nodup_map_firsts id
    ((items.filterMap Item.declaration?).map Declaration.identifier)
  rw [kept, symbols_ofItems, SymbolTable.map_identifier_foldl_declare]
  simpa using once

end Collection

section Built
variable {conventions : Conventions} {sources : List (String × List Char)} {registry : Registry}
  (built : (buildRegistry conventions (scanAll conventions.marker sources)).1 = .ok registry)
include built

/-- A symbol is in one of the input files. -/
theorem filename_mem_files {s : Symbol} (hs : s ∈ registry.symbols) :
    s.place.filename ∈ registry.files := by
  obtain ⟨-, rfl⟩ := buildRegistry_eq_ok_iff.mp built
  have keyed := Collection.nodup_identifiers_registry_ofItems conventions
    (itemsOf conventions.marker (scanAll conventions.marker sources))
  have found := (find?_eq_some_iff_of_nodup keyed).mpr ⟨hs, rfl⟩
  rw [← SymbolTable.lookup?, lookup?_registry_itemsOf, Option.map_eq_some_iff] at found
  obtain ⟨t, made, used⟩ := found
  -- the symbol stands where one of its declarations does
  obtain ⟨d, hd, place⟩ := exists_place_of_symbolOf made
  obtain ⟨-, source, member, recognised⟩ := exists_recognised_of_mem_declarationsOf hd
  obtain ⟨offset, declares⟩ := recognised.exists_declarationAt
  have filename : s.place.filename = source.1 := by
    rw [← used, ← place, declares.place_eq]
  have files : (Collection.ofItems conventions (itemsOf conventions.marker
      (scanAll conventions.marker sources))).registry.files =
        (scanAll conventions.marker sources).map Scan.filename := by
    rw [← filterMap_file?_itemsOf conventions.marker]
    exact Collection.files_ofItems conventions _
  rw [files]
  exact List.mem_map.mpr ⟨_, List.mem_map.mpr ⟨source, member, rfl⟩, filename.symm⟩

theorem isIdentifier_of_mem_entries {e : Entry} (he : e ∈ registry.entries) :
    IsIdentifier e.symbol := by
  obtain ⟨s, hs, made⟩ := List.mem_filterMap.mp (registry.entries_perm.mem_iff.mp he)
  obtain ⟨role, -, rfl⟩ := Option.map_eq_some_iff.mp made
  exact isIdentifier_of_names built (.symbol hs)

variable (clean : registry.problems = [])
include clean

/-- Every function that is used has a symbol with the role that it is used in. -/
theorem exists_symbol_of_used {name : String} {role : Role}
    (used : Used conventions.marker (scanAll conventions.marker sources) registry name role) :
    ∃ s ∈ registry.symbols, s.identifier = name ∧ s.role = some role := by
  obtain ⟨-, rfl⟩ := buildRegistry_eq_ok_iff.mp built
  obtain ⟨reference, hr, rfl, rfl⟩ := used.exists_reference
  rw [Collection.problems_registry_ofItems, List.append_eq_nil_iff,
    List.filterMap_eq_nil_iff] at clean
  -- the first reference to a function gives its symbol a role, and later ones ask for the same
  obtain ⟨⟨s, found, -⟩, use, first, role⟩ := of_no_problem clean.2 reference hr
  have name := SymbolTable.identifier_of_lookup? found
  rw [Collection.symbols_registry_ofItems]
  refine ⟨_, List.mem_map.mpr ⟨s, List.mem_of_find?_eq_some found, rfl⟩, name, ?_⟩
  rw [Symbol.role, name, first, Option.map_some, role]

/-- A function that is used has one entry, in an input file. -/
theorem exists_filter_entries_of_used {name : String} {role : Role}
    (used : Used conventions.marker (scanAll conventions.marker sources) registry name role) :
    ∃ file ∈ registry.files,
      (registry.entries.filter fun e => e.symbol = name) = [⟨file, name, role⟩] := by
  obtain ⟨s, hs, rfl, given⟩ := exists_symbol_of_used built clean used
  have keyed : (registry.symbols.map fun s => s.identifier).Nodup := by
    obtain ⟨-, rfl⟩ := buildRegistry_eq_ok_iff.mp built
    exact Collection.nodup_identifiers_registry_ofItems conventions _
  exact ⟨s.place.filename, filename_mem_files built hs, Registry.filter_entries keyed hs given⟩

/-- The functions of a manifest have their roles from directives. -/
theorem refers_of_mem_entries {e : Entry} (he : e ∈ registry.entries) :
    Refers conventions.marker (scanAll conventions.marker sources) e.symbol e.role := by
  obtain ⟨s, hs, made⟩ := List.mem_filterMap.mp (registry.entries_perm.mem_iff.mp he)
  obtain ⟨role, given, rfl⟩ := Option.map_eq_some_iff.mp made
  obtain ⟨-, rfl⟩ := buildRegistry_eq_ok_iff.mp built
  rw [Collection.symbols_registry_ofItems] at hs
  obtain ⟨t, -, rfl⟩ := List.mem_map.mp hs
  obtain ⟨use, first, rfl⟩ := Option.map_eq_some_iff.mp given
  obtain ⟨reference, hr, name, role⟩ := exists_reference_of_useOf first
  rw [Collection.problems_registry_ofItems, List.append_eq_nil_iff,
    Collection.problems_ofItems_eq_nil_iff] at clean
  obtain ⟨⟨-, targeted, distinct⟩, -⟩ := clean
  exact (exists_mem_references_iff targeted distinct).mp ⟨reference, hr, name, role⟩

end Built

section Rendering

theorem includeLines_map_text (includes : List String) :
    includeLines (includes.map Value.text) = .ok (includes.map includeLine) := by
  induction includes with
  | nil => rfl
  | cons header rest ih =>
    rw [List.map_cons, includeLines, ih]
    rfl

/-- A registry without problems is rendered, whatever headers are included. -/
theorem renderRunner_of_clean {registry : Registry} (clean : registry.problems = [])
    (includes : List String) :
    renderRunner registry (includes.map Value.text) =
      .ok (joinLines (runnerLines registry (includes.map includeLine))) := by
  have ok : registry.ok = true := by rw [Registry.ok, clean, List.isEmpty_nil]
  rw [renderRunner, includeLines_map_text, ok]
  rfl

theorem exists_texts_of_includeLines {items : List Value} {lines : List String}
    (included : includeLines items = .ok lines) :
    ∃ texts : List String, items = texts.map Value.text ∧ lines = texts.map includeLine := by
  induction items generalizing lines with
  | nil => exact ⟨[], rfl, (Except.ok.inj included).symm⟩
  | cons item rest ih =>
    cases item with
    | text header =>
      cases behind : includeLines rest with
      | error other =>
        rw [includeLines, behind] at included
        cases included
      | ok others =>
        rw [includeLines, behind] at included
        obtain ⟨texts, rfl, rfl⟩ := ih behind
        exact ⟨header :: texts, rfl, (Except.ok.inj included).symm⟩
    | _ => cases included

/-- A runner is rendered only of headers that are texts. -/
theorem exists_texts_of_renderRunner {registry : Registry} {includes : List Value} {runner : String}
    (rendered : renderRunner registry includes = .ok runner) :
    ∃ texts : List String, includes = texts.map Value.text ∧
      runner = joinLines (runnerLines registry (texts.map includeLine)) := by
  unfold renderRunner at rendered
  split_ifs at rendered
  split at rendered
  next lines included =>
    obtain ⟨texts, rfl, rfl⟩ := exists_texts_of_includeLines included
    exact ⟨texts, rfl, (Except.ok.inj rendered).symm⟩
  next => cases rendered

/-- In a runner the declarations come before the tables, which are followed by the same lines in all
runners. -/
theorem exists_runnerLines (registry : Registry) (includes : List String) :
    ∃ opening between, runnerLines registry includes =
      opening ++ declarationLines none registry.entries ++ between ++
        tableLines registry.groups ++ "" :: runnerProgram := by
  refine ⟨openingLines registry.files ++
    systemHeaders.map (fun header => includeLine ("<" ++ header ++ ">")) ++ includes ++ [""],
    (if (declarationLines none registry.entries).isEmpty then [] else [""]) ++
      runnerTypes ++ [""], ?_⟩
  rw [runnerLines]
  cases declarationLines none registry.entries <;> simp

theorem fixtureCell_of_isIdentifier {name : String} (h : IsIdentifier name) :
    fixtureCell (some name) = name := by
  apply if_neg
  rintro rfl
  exact absurd h (by decide)

end Rendering

end AnnotatedTests
