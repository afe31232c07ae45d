import AnnotatedTests.Proofs.Acceptance
import AnnotatedTests.Proofs.Tables

/-! Reading manifests in plain text. Such a manifest has a line for each entry, cut into fields by
tabs, and nothing in it is escaped. So it tells its entries just when no name of a file in it has a
tab or a line end; symbols and roles never have one. -/
namespace AnnotatedTests

/-- The fields of the lines of a text: what stands between tabs on each line. -/
def textRows (text : String) : List (List (List Char)) :=
  (text.toList.splitOn '\n').dropLast.map (List.splitOn '\t')

/-- What a manifest says about an entry, in the order of its fields. -/
def Entry.fields (e : Entry) : List (List Char) :=
  [e.file.toList, e.symbol.toList, e.role.label.toList]

/-- Whether the name of a file can stand in a manifest without being cut. -/
def UncutName (file : String) : Prop := '\t' ∉ file.toList ∧ '\n' ∉ file.toList

/-- The pieces of a text hold none of the marks that it was cut at, and nothing that is not in the
text. -/
theorem of_mem_splitOn {α : Type} [DecidableEq α] {mark : α} {text piece : List α}
    (h : piece ∈ text.splitOn mark) : ∀ c ∈ piece, c ≠ mark ∧ c ∈ text := by
  induction text generalizing piece with
  | nil =>
    rw [List.splitOn_nil, List.mem_singleton] at h
    simp [h]
  | cons d text ih =>
    rw [List.splitOn_cons_eq_if_modifyHead] at h
    split_ifs at h with own
    · -- the mark itself begins a new piece and is in none
      rcases List.mem_cons.mp h with rfl | later
      · simp
      · exact fun c hc => (ih later c hc).imp_right (List.mem_cons_of_mem d)
    · obtain ⟨first, others, pieces⟩ := List.exists_cons_of_ne_nil (List.splitOn_ne_nil mark text)
      rw [pieces] at h ih
      rcases List.mem_cons.mp h with rfl | later
      · intro c hc
        rcases List.mem_cons.mp hc with rfl | hc
        · exact ⟨by simpa using own, List.mem_cons_self⟩
        · exact (ih List.mem_cons_self c hc).imp_right (List.mem_cons_of_mem d)
      · exact fun c hc =>
          (ih (List.mem_cons_of_mem first later) c hc).imp_right (List.mem_cons_of_mem d)

/-- The fields that a text is cut into have no tabs and no line ends. -/
theorem uncut_of_mem_textRows {text : String} {row : List (List Char)} (hr : row ∈ textRows text)
    {field : List Char} (hf : field ∈ row) : '\t' ∉ field ∧ '\n' ∉ field := by
  obtain ⟨line, hl, rfl⟩ := List.mem_map.mp hr
  have inside := of_mem_splitOn (List.mem_of_mem_dropLast hl)
  have cut := of_mem_splitOn hf
  exact ⟨fun member => (cut _ member).1 rfl, fun member => (inside _ (cut _ member).2).1 rfl⟩

theorem intercalate_fields (e : Entry) : ['\t'].intercalate e.fields =
    e.file.toList ++ '\t' :: (e.symbol.toList ++ '\t' :: e.role.label.toList) := by
  simp [Entry.fields, List.intercalate]

/-- A manifest is cut into its entries, if nothing in them is a mark that it is cut at. -/
theorem textRows_textManifest {entries : List Entry}
    (plain : ∀ e ∈ entries, ∀ field ∈ e.fields, '\t' ∉ field ∧ '\n' ∉ field) :
    textRows (textManifest entries) = entries.map Entry.fields := by
  have text : (textManifest entries).toList =
      marked '\n' (entries.map fun e => ['\t'].intercalate e.fields) := by
    simp [textManifest, marked, String.toList_join, List.flatMap_map, intercalate_fields]
  have whole : ∀ line ∈ entries.map fun e => ['\t'].intercalate e.fields, '\n' ∉ line := by
    intro line hl
    obtain ⟨e, he, rfl⟩ := List.mem_map.mp hl
    have fields := plain e he
    simp only [Entry.fields, List.forall_mem_cons] at fields
    obtain ⟨⟨-, file⟩, ⟨-, symbol⟩, ⟨-, role⟩, -⟩ := fields
    simp [intercalate_fields, file, symbol, role]
  rw [textRows, text, splitOn_marked, flatMap_splitOn_of_notMem whole, List.dropLast_concat,
    List.map_map]
  apply List.map_congr_left
  intro e he
  exact List.splitOn_intercalate '\t' (fun field hf => (plain e he field hf).1)
    (by simp [Entry.fields])

/-- A registry that is built of sources and has no problems gives a manifest in plain text. Cut at
its line ends and tabs, it gives the entries in their order just when no name of a file among them
has a tab or a line end. -/
theorem textRows_renderManifest {conventions : Conventions} {sources : List (String × List Char)}
    {registry : Registry}
    (built : (buildRegistry conventions (scanAll conventions.marker sources)).1 = .ok registry)
    (clean : registry.problems = []) (path : Option (Given String)) :
    ∃ text, renderManifest registry "text" path = .ok text ∧
      (textRows text = registry.entries.map Entry.fields ↔
        ∀ e ∈ registry.entries, UncutName e.file) := by
  refine ⟨_, renderManifest_of_clean clean .text path, ?_⟩
  constructor
  · -- a field that was cut at these marks cannot hold one
    intro read e he
    have row : e.fields ∈ textRows (textManifest registry.entries) :=
      read ▸ List.mem_map_of_mem he
    exact uncut_of_mem_textRows row List.mem_cons_self
  · intro uncut
    apply textRows_textManifest
    intro e he field hf
    have named := isIdentifier_of_mem_entries built he
    simp only [Entry.fields, List.mem_cons, List.not_mem_nil, or_false] at hf
    rcases hf with rfl | rfl | rfl
    · exact uncut e he
    · exact ⟨notMem_of_isIdentifier named (by decide), notMem_of_isIdentifier named (by decide)⟩
    · cases e.role <;> decide

theorem textRows_renderManifest_growthSource :
    ∃ registry text,
      (buildRegistry .standard (scanAll "cmocka" [growthSource])).1 = .ok registry ∧
        registry.problems = [] ∧ renderManifest registry "text" none = .ok text ∧
        textRows text = [["growth.c".toList, "grows".toList, "test".toList]] := by
  have built : (buildRegistry .standard (scanAll Conventions.standard.marker [growthSource])).1 =
      .ok (growthRegistry ["growth.c"]) :=
    buildRegistry_eq_ok_iff.mpr ⟨by decide +kernel, by decide +kernel⟩
  have entries : (growthRegistry ["growth.c"]).entries = [⟨"growth.c", "grows", .test⟩] := by
    simp [growthRegistry, Registry.entries, Registry.usedSymbols, Symbol.entry?, Symbol.role]
  obtain ⟨text, rendered, read⟩ := textRows_renderManifest built rfl none
  refine ⟨_, text, built, rfl, rendered, ?_⟩
  rw [entries] at read
  exact read.mpr (by simp [UncutName])

/-- A source with a test, whose name has two lines. -/
def twoLinedSource : String × List Char :=
  ("a\nb.c", textOfLines ["/*!cmocka */", "void grows(void **state) \x7b\x7d"])

theorem not_forall_textRows_renderManifest :
    ¬ ∀ (conventions : Conventions) (sources : List (String × List Char)) (registry : Registry)
      (path : Option (Given String)),
        (buildRegistry conventions (scanAll conventions.marker sources)).1 = .ok registry →
          registry.problems = [] →
            ∃ text, renderManifest registry "text" path = .ok text ∧
              textRows text = registry.entries.map Entry.fields := by
  intro told
  let registry : Registry :=
    { groups :=
        [⟨"a_b", [⟨"grows", "a_b", "grows", none, none, false, 10, ⟨"a\nb.c", 1⟩⟩], none, none,
          ⟨"a\nb.c", 1⟩⟩]
      symbols :=
        [⟨⟨"grows", stateParams, "void", ⟨"a\nb.c", 2⟩, true, false⟩,
          some ⟨.test, ⟨"a\nb.c", 1⟩⟩⟩]
      problems := []
      files := ["a\nb.c"] }
  have built : (buildRegistry .standard (scanAll "cmocka" [twoLinedSource])).1 = .ok registry :=
    buildRegistry_eq_ok_iff.mpr ⟨by decide +kernel, by decide +kernel⟩
  have entries : registry.entries = [⟨"a\nb.c", "grows", .test⟩] := by
    simp [registry, Registry.entries, Registry.usedSymbols, Symbol.entry?, Symbol.role]
  obtain ⟨text, -, read⟩ := told .standard [twoLinedSource] registry none built rfl
  rw [entries] at read
  have row : Entry.fields ⟨"a\nb.c", "grows", .test⟩ ∈ textRows text := by simp [read]
  exact (uncut_of_mem_textRows row List.mem_cons_self).2 (by decide)

end AnnotatedTests
