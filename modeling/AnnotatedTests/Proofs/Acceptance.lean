import AnnotatedTests.Proofs.Prototypes
import AnnotatedTests.Settings.Loading

/-! Settings that are accepted, at their use. The format of a manifest is checked when settings are
loaded, so that every registry without problems gives a manifest. Headers are only checked to be a
list, and a runner fails at the first of them that is no text. -/
namespace AnnotatedTests

section Accepted
variable {entries : Entries} {settings : Settings}

theorem Entries.read_eq_ok_iff {α : Type} {key : SettingKey}
    {reader : Value → Except InvalidSetting α} {a : α} :
    entries.read key reader = .ok a ↔ reader (entries.effective key) = .ok a := by
  unfold Entries.read
  cases reader (entries.effective key) <;> simp [Except.mapError]

/-- Settings are accepted just when each of them is read from the value that counts for it. -/
theorem Entries.settings_eq_ok_iff :
    entries.settings = .ok settings ↔
      readMarker (entries.effective .marker) = .ok settings.marker ∧
        readCount (some maxTimeout) (entries.effective .defaultTimeout) =
          .ok settings.defaultTimeout ∧
        readFormat (entries.effective .manifestFormat) = .ok settings.manifestFormat ∧
        readCount none (entries.effective .jobs) = .ok settings.jobs ∧
        readIncludes (entries.effective .includes) = .ok settings.includes := by
  simp only [← Entries.read_eq_ok_iff, Entries.settings]
  obtain ⟨marker, defaultTimeout, manifestFormat, jobs, includes⟩ := settings
  -- the settings are read in this order up to the first that is refused
  cases entries.read .marker readMarker with
  | error refused => simp [bind, Except.bind]
  | ok marker' =>
    cases entries.read .defaultTimeout (readCount (some maxTimeout)) with
    | error refused => simp [bind, Except.bind]
    | ok defaultTimeout' =>
      cases entries.read .manifestFormat readFormat with
      | error refused => simp [bind, Except.bind]
      | ok manifestFormat' =>
        cases entries.read .jobs (readCount none) with
        | error refused => simp [bind, Except.bind]
        | ok jobs' =>
          cases entries.read .includes readIncludes with
          | error refused => simp [bind, Except.bind]
          | ok includes' => simp [bind, Except.bind, pure, Except.pure]

theorem ManifestFormat.ofWord?_eq_some_iff {word : String} {format : ManifestFormat} :
    ManifestFormat.ofWord? word = some format ↔ word = format.word := by
  constructor
  · intro known
    unfold ManifestFormat.ofWord? at known
    split at known <;> cases known <;> rfl
  · rintro rfl
    cases format <;> rfl

theorem readFormat_eq_ok_iff {value : Value} {format : ManifestFormat} :
    readFormat value = .ok format ↔ value = .text format.word := by
  constructor
  · intro read
    unfold readFormat at read
    split at read
    next word =>
      split at read
      next format' known =>
        cases read
        rw [ManifestFormat.ofWord?_eq_some_iff.mp known]
      next => cases read
    next => cases read
  · rintro rfl
    simp [readFormat, ManifestFormat.ofWord?_eq_some_iff.mpr rfl]

theorem readCount_ok_iff {maximum : Option Nat} {value : Value} {n : Nat} :
    readCount maximum value = .ok n ↔ value = .int n ∧ 1 ≤ n ∧ ∀ most ∈ maximum, n ≤ most := by
  constructor
  · intro read
    unfold readCount at read
    split at read
    next count =>
      split_ifs at read with low
      have counted : ((count.toNat : Nat) : Int) = count := Int.toNat_of_nonneg (by omega)
      cases maximum with
      | none =>
        obtain rfl := Except.ok.inj read
        exact ⟨by rw [counted], by omega, by simp⟩
      | some most =>
        dsimp only at read
        split_ifs at read with high
        obtain rfl := Except.ok.inj read
        exact ⟨by rw [counted], by omega, by simpa using high⟩
    next => cases read
    next => cases read
  · rintro ⟨rfl, positive, fits⟩
    have low : ¬ (n : Int) ≤ 0 := by omega
    unfold readCount
    dsimp only
    rw [if_neg low]
    cases maximum with
    | none => rfl
    | some most => exact if_pos (fits most rfl)

theorem readIncludes_eq_ok_iff {value : Value} {items : List Value} :
    readIncludes value = .ok items ↔ value = .list items := by
  cases value <;> simp [readIncludes]

end Accepted

section Headers

/-- The text that a value is. -/
def Value.text? : Value → Option String
  | .text s => some s
  | _ => none

theorem Value.eq_text_of_text? {value : Value} {s : String} (text : value.text? = some s) :
    value = .text s := by
  unfold Value.text? at text
  split at text
  · rw [Option.some.inj text]
  · cases text

theorem map_text_filterMap_text? {items : List Value}
    (texts : ∀ item ∈ items, item.text?.isSome = true) :
    (items.filterMap Value.text?).map Value.text = items := by
  induction items with
  | nil => rfl
  | cons item rest ih =>
    obtain ⟨first, later⟩ := List.forall_mem_cons.mp texts
    obtain ⟨s, text⟩ := Option.isSome_iff_exists.mp first
    rw [List.filterMap_cons_some text, List.map_cons, ih later, Value.eq_text_of_text? text]

/-- The first header that is no text is the one that fails. -/
theorem includeLines_eq_error {items : List Value} {other : Value}
    (first : items.find? (fun item => item.text?.isNone) = some other) :
    includeLines items = .error other := by
  induction items with
  | nil => cases first
  | cons item rest ih =>
    cases text : item.text? with
    | none =>
      rw [List.find?_cons_of_pos (by simp [text])] at first
      obtain rfl := Option.some.inj first
      unfold includeLines
      cases item <;> first | rfl | cases text
    | some s =>
      rw [List.find?_cons_of_neg (by simp [text])] at first
      rw [Value.eq_text_of_text? text, includeLines, ih first]
      rfl

theorem renderRunner_eq_error {registry : Registry} (clean : registry.problems = [])
    {items : List Value} {other : Value}
    (first : items.find? (fun item => item.text?.isNone) = some other) :
    renderRunner registry items = .error (.headerNotText other.typeName) := by
  have ok : registry.ok = true := by rw [Registry.ok, clean, List.isEmpty_nil]
  rw [renderRunner, includeLines_eq_error first, ok]
  rfl

theorem renderManifest_of_clean {registry : Registry} (clean : registry.problems = [])
    (format : ManifestFormat) (path : Option (Given String)) :
    renderManifest registry format.word path = .ok (manifestText format path registry.entries) := by
  have ok : registry.ok = true := by rw [Registry.ok, clean, List.isEmpty_nil]
  rw [renderManifest, ManifestFormat.ofWord?_eq_some_iff.mpr rfl, ok]
  rfl

end Headers

/-- Under accepted settings a registry without problems gives the manifest in the format that is
set. It gives a runner if all headers that are set are texts, and else fails at the first that is
none. -/
theorem rendered_of_loadSettings {file given : Entries} {settings : Settings}
    (loaded : (loadSettings file given).1 = .ok settings) {registry : Registry}
    (clean : registry.problems = []) (path : Option (Given String)) :
    (file.overlay given.given).effective .manifestFormat = .text settings.manifestFormat.word ∧
      (file.overlay given.given).effective .includes = .list settings.includes ∧
      renderManifest registry settings.manifestFormat.word path =
        .ok (manifestText settings.manifestFormat path registry.entries) ∧
      ((∀ item ∈ settings.includes, item.text?.isSome = true) →
        renderRunner registry settings.includes = .ok (joinLines (runnerLines registry
          ((settings.includes.filterMap Value.text?).map includeLine)))) ∧
      ∀ other, settings.includes.find? (fun item => item.text?.isNone) = some other →
        renderRunner registry settings.includes = .error (.headerNotText other.typeName) := by
  obtain ⟨-, -, format, -, includes⟩ := Entries.settings_eq_ok_iff.mp loaded
  refine ⟨readFormat_eq_ok_iff.mp format, readIncludes_eq_ok_iff.mp includes,
    renderManifest_of_clean clean _ path, fun texts => ?_, fun _ => renderRunner_eq_error clean⟩
  have rendered := renderRunner_of_clean clean (settings.includes.filterMap Value.text?)
  rwa [map_text_filterMap_text? texts] at rendered

/-- A file that names a format and two headers. -/
def headerEntries : Entries :=
  [("manifest_format", .text "text"), ("includes", .list [.text "helpers.h", .text "<math.h>"])]

theorem rendered_of_headerEntries :
    ∃ settings, (loadSettings headerEntries []).1 = .ok settings ∧ Registry.empty.problems = [] ∧
      renderManifest Registry.empty settings.manifestFormat.word none =
        .ok (manifestText settings.manifestFormat none Registry.empty.entries) ∧
      renderRunner Registry.empty settings.includes = .ok (joinLines (runnerLines Registry.empty
        ["#include \"helpers.h\"", "#include <math.h>"])) := by
  have loaded : (loadSettings headerEntries []).1 = .ok
      ⟨defaultMarker, 10, .text, 1, [.text "helpers.h", .text "<math.h>"]⟩ := rfl
  have clean : Registry.empty.problems = [] := rfl
  obtain ⟨-, -, manifest, runner, -⟩ := rendered_of_loadSettings loaded clean none
  exact ⟨_, loaded, clean, manifest, runner (by simp [Value.text?])⟩

theorem not_forall_rendered_of_loadSettings :
    ¬ ∀ (file given : Entries) (settings : Settings) (registry : Registry)
      (path : Option (Given String)), (loadSettings file given).1 = .ok settings →
        registry.problems = [] →
          (∃ runner, renderRunner registry settings.includes = .ok runner) ∧
            ∃ manifest, renderManifest registry settings.manifestFormat.word path =
              .ok manifest := by
  intro rendered
  have loaded : (loadSettings [] [("includes", .list [.int 1])]).1 =
      .ok ⟨defaultMarker, 10, .json, 1, [.int 1]⟩ := rfl
  obtain ⟨⟨runner, text⟩, -⟩ := rendered _ _ _ Registry.empty none loaded rfl
  cases text

end AnnotatedTests
