import AnnotatedTests.Output.Runner
import Mathlib.Data.List.Forall2
import Mathlib.Data.Prod.Lex
import Mathlib.Data.String.Basic
import Mathlib.Order.Compare

/-! The order of a manifest. Symbols are listed by a key in which their own names come last, so that
no two have the same one: the manifest depends on the symbols alone and not on the order in which
they were declared, and the functions of one file stand together. -/
namespace AnnotatedTests

/-- What a manifest is sorted by: the position of the file among the input files, or their number if
it is none of them, then the file's name, the line and the function's name. -/
def Symbol.manifestKey (files : List String) (s : Symbol) : ℕ ×ₗ String ×ₗ ℤ ×ₗ String :=
  toLex (files.idxOf s.place.filename,
    toLex (s.place.filename, toLex (s.place.line, s.identifier)))

/-- Whether an entry is the one of a symbol: the symbol has a role, and the entry says which, in
which file and for which function. -/
def Entry.Lists (e : Entry) (s : Symbol) : Prop :=
  e.file = s.place.filename ∧ e.symbol = s.identifier ∧ s.role = some e.role

def fileHeading (file : String) : String := "/* " ++ file ++ " */"

section Rank
variable {files : List String} (unique : files.Nodup)
include unique

theorem eraseDups_of_nodup : files.eraseDups = files := by
  induction files with
  | nil => rfl
  | cons file rest ih =>
    obtain ⟨fresh, unique⟩ := List.nodup_cons.mp unique
    have kept : rest.filter (fun other => !other == file) = rest := by
      apply List.filter_eq_self.mpr
      intro other ho
      have different : other ≠ file := fun same => fresh (same ▸ ho)
      simpa using different
    rw [List.eraseDups_cons, kept, ih unique]

/-- Where no file is given twice, the rank of a file is its only position. -/
theorem fileRank_eq_idxOf (filename : String) :
    fileRank files filename = files.idxOf filename := by
  have none_of {others : List String} (absent : filename ∉ others) (n : ℕ) :
      ((others.zipIdx n).filter fun file => file.1 == filename) = [] := by
    apply List.filter_eq_nil_iff.mpr
    intro file hf
    have member : file.1 ∈ others := List.fst_mem_of_mem_zipIdx hf
    have different : file.1 ≠ filename := fun same => absent (same ▸ member)
    simpa using different
  unfold fileRank
  by_cases given : filename ∈ files
  · obtain ⟨before, after, rfl, fresh⟩ := List.eq_append_cons_of_mem given
    have later : filename ∉ after := by
      have apart := (List.nodup_append.mp unique).2.1
      exact (List.nodup_cons.mp apart).1
    have found : (((before ++ filename :: after).zipIdx).filter fun file =>
        file.1 == filename) = [(filename, before.length)] := by
      rw [List.zipIdx_append, List.filter_append, none_of fresh, List.zipIdx_cons,
        List.filter_cons_of_pos (by simp), none_of later]
      simp
    rw [found, List.idxOf_append_of_notMem fresh, List.idxOf_cons_self]
    simp
  · rw [none_of given, eraseDups_of_nodup unique, List.idxOf_eq_length_iff.mpr given]
    rfl

theorem isLE_symbolOrder_iff (a b : Symbol) :
    (symbolOrder files a b).isLE = true ↔ a.manifestKey files ≤ b.manifestKey files := by
  have compared : symbolOrder files a b =
      compare (a.manifestKey files) (b.manifestKey files) := by
    simp only [symbolOrder, fileRank_eq_idxOf unique]
    rfl
  rw [compared, Ordering.isLE_iff_ne_gt]
  exact compare_le_iff_le

end Rank

namespace Registry

theorem usedSymbols_perm (registry : Registry) :
    registry.usedSymbols.Perm (registry.symbols.filter fun s => s.use.isSome) :=
  List.mergeSort_perm _ _

/-- Where symbols differ in their names, each has its key before all that follow it. -/
theorem pairwise_usedSymbols {registry : Registry}
    (keyed : (registry.symbols.map fun s => s.identifier).Nodup) (once : registry.files.Nodup) :
    registry.usedSymbols.Pairwise fun a b =>
      a.manifestKey registry.files < b.manifestKey registry.files := by
  have sorted : registry.usedSymbols.Pairwise fun a b =>
      a.manifestKey registry.files ≤ b.manifestKey registry.files := by
    have transitive : ∀ a b c, (symbolOrder registry.files a b).isLE = true →
        (symbolOrder registry.files b c).isLE = true →
        (symbolOrder registry.files a c).isLE = true := by
      intro a b c first second
      rw [isLE_symbolOrder_iff once] at first second ⊢
      exact first.trans second
    have total : ∀ a b, ((symbolOrder registry.files a b).isLE ||
        (symbolOrder registry.files b a).isLE) = true := by
      intro a b
      rw [Bool.or_eq_true, isLE_symbolOrder_iff once, isLE_symbolOrder_iff once]
      exact le_total _ _
    have result := List.pairwise_mergeSort transitive total
      (registry.symbols.filter fun s => s.use.isSome)
    exact result.imp fun {a b} h => (isLE_symbolOrder_iff once a b).mp h
  have distinct : registry.usedSymbols.Pairwise fun a b => a.identifier ≠ b.identifier := by
    have names : (registry.usedSymbols.map fun s => s.identifier).Nodup := by
      rw [(registry.usedSymbols_perm.map fun s => s.identifier).nodup_iff]
      exact keyed.sublist (List.filter_sublist.map _)
    exact List.pairwise_map.mp names
  apply (sorted.and distinct).imp
  intro a b both
  obtain ⟨before, different⟩ := both
  apply lt_of_le_of_ne before
  intro same
  -- the names of symbols are part of their keys
  exact different (congrArg (fun key => (ofLex (ofLex (ofLex key).2).2).2) same)

/-- The entries of a manifest are those of the used symbols, one by one. -/
theorem forall₂_entries (registry : Registry) :
    List.Forall₂ (fun s e => Entry.Lists e s) registry.usedSymbols registry.entries := by
  have used : ∀ s ∈ registry.usedSymbols, s.use.isSome = true := by
    intro s hs
    exact (List.mem_filter.mp (registry.usedSymbols_perm.mem_iff.mp hs)).2
  rw [entries]
  generalize registry.usedSymbols = symbols at used
  induction symbols with
  | nil => exact .nil
  | cons s rest ih =>
    obtain ⟨use, given⟩ := Option.isSome_iff_exists.mp (used s List.mem_cons_self)
    have role : s.role = some use.role := by rw [Symbol.role, given, Option.map_some]
    have entry : s.entry? = some ⟨s.place.filename, s.identifier, use.role⟩ := by
      rw [Symbol.entry?, role, Option.map_some]
    rw [List.filterMap_cons_some entry]
    exact .cons ⟨rfl, rfl, role⟩ (ih fun other ho => used other (List.mem_cons_of_mem s ho))

/-- There is only one list of the used symbols in which the keys increase. -/
theorem usedSymbols_eq {registry : Registry}
    (keyed : (registry.symbols.map fun s => s.identifier).Nodup) (once : registry.files.Nodup)
    {used : List Symbol} (same : used.Perm (registry.symbols.filter fun s => s.use.isSome))
    (sorted : used.Pairwise fun a b =>
      a.manifestKey registry.files < b.manifestKey registry.files) :
    registry.usedSymbols = used := by
  have perm := registry.usedSymbols_perm.trans same.symm
  apply perm.eq_of_pairwise ?_ (pairwise_usedSymbols keyed once) sorted
  intro a b _ _ before after
  exact absurd (before.trans after) (lt_irrefl _)

/-- Where symbols differ in their names, their order makes no difference to the manifest. -/
theorem entries_eq_of_perm {registry other : Registry}
    (keyed : (registry.symbols.map fun s => s.identifier).Nodup) (once : registry.files.Nodup)
    (symbols : other.symbols.Perm registry.symbols) (files : other.files = registry.files) :
    other.entries = registry.entries := by
  have keyed' : (other.symbols.map fun s => s.identifier).Nodup :=
    (symbols.map fun s => s.identifier).nodup_iff.mpr keyed
  have sorted := pairwise_usedSymbols keyed' (files.symm ▸ once)
  rw [files] at sorted
  have same : other.usedSymbols.Perm (registry.symbols.filter fun s => s.use.isSome) :=
    other.usedSymbols_perm.trans (symbols.filter _)
  rw [entries, entries, usedSymbols_eq keyed once same sorted]

end Registry

section Blocks

/-- In a list that is sorted by a key, the elements of the least key come before the others. -/
theorem eq_filter_append_filter {α β γ : Type} [DecidableEq β] [LinearOrder γ] {key : α → β}
    {rank : β → γ} (injective : Function.Injective rank) {k : β} {xs : List α}
    (sorted : xs.Pairwise fun a b => rank (key a) ≤ rank (key b))
    (least : ∀ x ∈ xs, rank k ≤ rank (key x)) :
    xs = (xs.filter fun x => key x = k) ++ xs.filter fun x => key x ≠ k := by
  induction xs with
  | nil => rfl
  | cons x rest ih =>
    obtain ⟨before, behind⟩ := List.pairwise_cons.mp sorted
    by_cases same : key x = k
    · have parts := ih behind fun y hy => least y (List.mem_cons_of_mem x hy)
      simpa [same] using parts
    · have beyond : rank k < rank (key x) :=
        lt_of_le_of_ne (least x List.mem_cons_self) fun equal => same (injective equal).symm
      -- nothing behind a greater key has the least one
      have others : ∀ y ∈ rest, key y ≠ k := by
        rintro y hy rfl
        exact absurd (before y hy) (not_le_of_gt beyond)
      have kept : rest.filter (fun y => key y ≠ k) = rest :=
        List.filter_eq_self.mpr (by simpa using others)
      have dropped : rest.filter (fun y => key y = k) = [] :=
        List.filter_eq_nil_iff.mpr (by simpa using others)
      rw [List.filter_cons_of_neg (by simpa using same), dropped,
        List.filter_cons_of_pos (by simpa using same), kept, List.nil_append]

/-- A list that is sorted by a key falls into blocks of one key each. -/
theorem exists_blocks {α β γ : Type} [DecidableEq β] [LinearOrder γ] (key : α → β) {rank : β → γ}
    (injective : Function.Injective rank) {xs : List α}
    (sorted : xs.Pairwise fun a b => rank (key a) ≤ rank (key b)) :
    ∃ keys : List β, keys.Nodup ∧ (∀ k, k ∈ keys ↔ ∃ x ∈ xs, key x = k) ∧
      xs = keys.flatMap fun k => xs.filter fun x => key x = k := by
  induction hn : xs.length using Nat.strong_induction_on generalizing xs with
  | _ n ih =>
  cases xs with
  | nil => exact ⟨[], by simp⟩
  | cons x rest =>
    obtain ⟨least, behind⟩ := List.pairwise_cons.mp sorted
    -- the elements of the first key come first, so what is left is sorted and shorter
    have split : rest = (rest.filter fun y => key y = key x) ++
        rest.filter fun y => key y ≠ key x := by
      exact eq_filter_append_filter injective behind least
    have shorter : (rest.filter fun y => key y ≠ key x).length < n := by
      have bound := List.length_filter_le (fun y => decide (key y ≠ key x)) rest
      rw [List.length_cons] at hn
      omega
    obtain ⟨keys, distinct, listed, parts⟩ := ih _ shorter (behind.sublist List.filter_sublist) rfl
    have fresh : key x ∉ keys := by
      intro member
      obtain ⟨y, hy, same⟩ := (listed (key x)).mp member
      exact of_decide_eq_true (List.mem_filter.mp hy).2 same
    have others : ∀ k ∈ keys, ((x :: rest).filter fun y => key y = k) =
        (rest.filter fun y => key y ≠ key x).filter fun y => key y = k := by
      intro k hk
      have different : key x ≠ k := fun same => fresh (same ▸ hk)
      rw [List.filter_cons_of_neg (by simpa using different), List.filter_filter]
      apply List.filter_congr
      intro y _
      by_cases same : key y = k
      · simp [same, Ne.symm different]
      · simp [same]
    refine ⟨key x :: keys, List.nodup_cons.mpr ⟨fresh, distinct⟩, ?_, ?_⟩
    · intro k
      rw [List.mem_cons, listed]
      constructor
      · rintro (rfl | ⟨y, hy, same⟩)
        · exact ⟨x, List.mem_cons_self, rfl⟩
        · exact ⟨y, List.mem_cons_of_mem x (List.mem_filter.mp hy).1, same⟩
      · rintro ⟨y, hy, rfl⟩
        by_cases same : key y = key x
        · exact Or.inl same
        · rcases List.mem_cons.mp hy with rfl | hy
          · exact absurd rfl same
          · exact Or.inr ⟨y, List.mem_filter.mpr ⟨hy, by simpa using same⟩, rfl⟩
    · rw [List.flatMap_cons, List.flatMap_congr others, ← parts,
        List.filter_cons_of_pos (by simp), List.cons_append, ← split]

/-- Behind entries of a file come those of the same file, without a heading of their own. -/
theorem declarationLines_append {file : String} {entries : List Entry}
    (own : ∀ e ∈ entries, e.file = file) (rest : List Entry) :
    declarationLines (some file) (entries ++ rest) =
      entries.map Entry.prototype ++ declarationLines (some file) rest := by
  induction entries with
  | nil => rfl
  | cons e entries ih =>
    have here : e.file = file := own e List.mem_cons_self
    have behind := ih fun other ho => own other (List.mem_cons_of_mem e ho)
    rw [List.cons_append, declarationLines, here, behind]
    simp

/-- A file that is another one than that of the entries before opens with an empty line. -/
theorem declarationLines_of_ne {file : String} {e : Entry} (other : e.file ≠ file)
    (rest : List Entry) :
    declarationLines (some file) (e :: rest) = "" :: declarationLines none (e :: rest) := by
  simp [declarationLines, Ne.symm other]

/-- The declarations of some files, given in blocks, have each file's heading once. -/
theorem declarationLines_flatMap {files : List String} {block : String → List Entry}
    (distinct : files.Nodup) (nonempty : ∀ file ∈ files, block file ≠ [])
    (own : ∀ file ∈ files, ∀ e ∈ block file, e.file = file) :
    declarationLines none (files.flatMap block) =
      [""].intercalate (files.map fun file =>
        fileHeading file :: (block file).map Entry.prototype) := by
  induction files with
  | nil => rfl
  | cons file files ih =>
    obtain ⟨fresh, distinct⟩ := List.nodup_cons.mp distinct
    have rest := ih distinct (fun other ho => nonempty other (List.mem_cons_of_mem file ho))
      fun other ho => own other (List.mem_cons_of_mem file ho)
    obtain ⟨e, entries, first⟩ := List.exists_cons_of_ne_nil (nonempty file List.mem_cons_self)
    have here := own file List.mem_cons_self
    rw [first, List.forall_mem_cons] at here
    obtain ⟨head, tail⟩ := here
    have opened : declarationLines none ((file :: files).flatMap block) =
        fileHeading file :: (block file).map Entry.prototype ++
          declarationLines (some file) (files.flatMap block) := by
      rw [List.flatMap_cons, first, List.cons_append, declarationLines, head,
        declarationLines_append tail]
      rfl
    rw [opened]
    cases files with
    | nil => simp [declarationLines]
    | cons next files =>
      -- the next file is another one, so that an empty line comes before its heading
      obtain ⟨e', entries', second⟩ := List.exists_cons_of_ne_nil (nonempty next (by simp))
      have there : e'.file = next := own next (by simp) e' (by simp [second])
      have other : e'.file ≠ file := by
        rintro same
        exact fresh (by simp [← same, there])
      have apart : declarationLines (some file) ((next :: files).flatMap block) =
          "" :: declarationLines none ((next :: files).flatMap block) := by
        rw [List.flatMap_cons, second, List.cons_append]
        exact declarationLines_of_ne other _
      rw [apart, rest, List.map_cons, List.map_cons, List.map_cons, List.intercalate_cons_cons,
        List.append_assoc]
      rfl

end Blocks

/-- Keys that follow each other do so in their files first. -/
theorem fileKey_le_of_manifestKey_lt {files : List String} {a b : Symbol}
    (h : a.manifestKey files < b.manifestKey files) :
    toLex (files.idxOf a.place.filename, a.place.filename) ≤
      toLex (files.idxOf b.place.filename, b.place.filename) := by
  unfold Symbol.manifestKey at h
  rw [Prod.Lex.toLex_lt_toLex, Prod.Lex.toLex_lt_toLex] at h
  rw [Prod.Lex.toLex_le_toLex]
  rcases h with position | ⟨position, name | ⟨name, -⟩⟩
  · exact Or.inl position
  · exact Or.inr ⟨position, name.le⟩
  · exact Or.inr ⟨position, name.le⟩

theorem pairwise_file_entries {registry : Registry}
    (keyed : (registry.symbols.map fun s => s.identifier).Nodup) (once : registry.files.Nodup) :
    registry.entries.Pairwise fun a b =>
      toLex (registry.files.idxOf a.file, a.file) ≤
        toLex (registry.files.idxOf b.file, b.file) := by
  have files : (registry.usedSymbols.map fun s => s.place.filename) =
      registry.entries.map Entry.file := by
    rw [← List.forall₂_eq_eq_eq, List.forall₂_map_left_iff, List.forall₂_map_right_iff]
    exact registry.forall₂_entries.imp fun s e lists => lists.1.symm
  have sorted := (Registry.pairwise_usedSymbols keyed once).imp fileKey_le_of_manifestKey_lt
  have byFile : (registry.entries.map Entry.file).Pairwise fun a b =>
      toLex (registry.files.idxOf a, a) ≤ toLex (registry.files.idxOf b, b) := by
    rw [← files, List.pairwise_map]
    exact sorted
  rw [List.pairwise_map] at byFile
  exact byFile

/-- A manifest has one entry for each symbol with a role, in the order of their keys, which are all
different. It is the same whatever order the symbols are in. The declarations that are made of it
have the heading of each file once, and all prototypes of the file under it. -/
theorem entries_of_keyed {registry : Registry}
    (keyed : (registry.symbols.map fun s => s.identifier).Nodup) (once : registry.files.Nodup) :
    (∃ used : List Symbol, used.Perm (registry.symbols.filter fun s => s.role.isSome) ∧
        List.Forall₂ (fun s e => Entry.Lists e s) used registry.entries ∧
        used.Pairwise fun a b =>
          a.manifestKey registry.files < b.manifestKey registry.files) ∧
      (∀ other : Registry, other.symbols.Perm registry.symbols → other.files = registry.files →
        other.entries = registry.entries) ∧
      ∃ files : List String, files.Nodup ∧
        (∀ file, file ∈ files ↔ ∃ e ∈ registry.entries, e.file = file) ∧
        (registry.entries = files.flatMap fun file =>
          registry.entries.filter fun e => e.file = file) ∧
        declarationLines none registry.entries =
          [""].intercalate (files.map fun file => ("/* " ++ file ++ " */") ::
            (registry.entries.filter fun e => e.file = file).map fun e =>
              e.role.returnKind ++ " " ++ e.symbol ++ "(void **state);") := by
  refine ⟨⟨registry.usedSymbols, ?_, registry.forall₂_entries,
    Registry.pairwise_usedSymbols keyed once⟩, ?_, ?_⟩
  · simpa [Symbol.role] using registry.usedSymbols_perm
  · intro other symbols files
    exact Registry.entries_eq_of_perm keyed once symbols files
  · have injective : Function.Injective fun file => toLex (registry.files.idxOf file, file) := by
      intro a b same
      exact congrArg (fun key => (ofLex key).2) same
    obtain ⟨files, distinct, listed, parts⟩ :=
      exists_blocks Entry.file injective (pairwise_file_entries keyed once)
    refine ⟨files, distinct, listed, parts, ?_⟩
    conv_lhs => rw [parts]
    apply declarationLines_flatMap distinct
    · intro file hf
      obtain ⟨e, he, own⟩ := (listed file).mp hf
      exact List.ne_nil_of_mem (List.mem_filter.mpr ⟨he, by simpa using own⟩)
    · intro file _ e he
      simpa using (List.mem_filter.mp he).2

/-- Symbols of three files, of which one is not among the input files. -/
def scatteredRegistry : Registry :=
  let symbol (name file : String) (line : Int) (role : Option Role) : Symbol :=
    ⟨⟨name, stateParams, "void", ⟨file, line⟩, true, false⟩,
      role.map fun role => ⟨role, ⟨file, line⟩⟩⟩
  { groups := []
    symbols :=
      [symbol "lost" "aux.c" 1 (some .teardown), symbol "writes" "disk.c" 9 (some .test),
        symbol "spare" "disk.c" 2 none, symbol "reads" "io.c" 4 (some .test),
        symbol "opens" "disk.c" 9 (some .test), symbol "up" "io.c" 1 (some .setup)]
    problems := []
    files := ["io.c", "disk.c"] }

theorem entries_of_scatteredRegistry :
    (scatteredRegistry.symbols.map fun s => s.identifier).Nodup ∧ scatteredRegistry.files.Nodup ∧
      (scatteredRegistry.entries.map fun e => (e.file, e.symbol)) =
        [("io.c", "up"), ("io.c", "reads"), ("disk.c", "opens"), ("disk.c", "writes"),
          ("aux.c", "lost")] ∧
      declarationLines none scatteredRegistry.entries =
        ["/* io.c */", "int up(void **state);", "void reads(void **state);", "",
          "/* disk.c */", "void opens(void **state);", "void writes(void **state);", "",
          "/* aux.c */", "int lost(void **state);"] ∧
      (∀ other : Registry, other.symbols.Perm scatteredRegistry.symbols →
        other.files = scatteredRegistry.files → other.entries = scatteredRegistry.entries) ∧
      ∃ files : List String, files.Nodup ∧
        declarationLines none scatteredRegistry.entries =
          [""].intercalate (files.map fun file => ("/* " ++ file ++ " */") ::
            (scatteredRegistry.entries.filter fun e => e.file = file).map fun e =>
              e.role.returnKind ++ " " ++ e.symbol ++ "(void **state);") := by
  have keyed : (scatteredRegistry.symbols.map fun s => s.identifier).Nodup := by decide +kernel
  have once : scatteredRegistry.files.Nodup := by decide +kernel
  have used : scatteredRegistry.usedSymbols = [5, 3, 4, 1, 0].filterMap
      (scatteredRegistry.symbols[·]?) := by
    apply Registry.usedSymbols_eq keyed once
    · decide +kernel
    · decide +kernel
  have listed : (scatteredRegistry.entries.map fun e => (e.file, e.symbol)) =
      [("io.c", "up"), ("io.c", "reads"), ("disk.c", "opens"), ("disk.c", "writes"),
        ("aux.c", "lost")] := by
    rw [Registry.entries, used]
    decide +kernel
  have declared : declarationLines none scatteredRegistry.entries =
      ["/* io.c */", "int up(void **state);", "void reads(void **state);", "",
        "/* disk.c */", "void opens(void **state);", "void writes(void **state);", "",
        "/* aux.c */", "int lost(void **state);"] := by
    rw [Registry.entries, used]
    decide +kernel
  obtain ⟨-, order, files, distinct, -, -, lines⟩ := entries_of_keyed keyed once
  exact ⟨keyed, once, listed, declared, order, files, distinct, lines⟩

end AnnotatedTests
