import AnnotatedTests.Proofs.Acceptance

/-! Settings in two layers. What is given for a run counts more than what a file says, and that more
than the defaults; a null says nothing in either layer. Settings are accepted just when each of
these values is one that its setting can have, and they are these values. -/
namespace AnnotatedTests

/-- The value that some entries have for a key. A null is none. -/
def Entries.set? (entries : Entries) (key : String) : Option Value :=
  (entries.value? key).filter fun value => !value.isNull

/-- The value of a setting in two layers: what is given for the run, or else what the file says, or
else the default. -/
def layeredValue (file given : Entries) (key : SettingKey) : Value :=
  ((given.set? key.word).or (file.set? key.word)).getD key.default

/-- The entries whose keys are those of settings. -/
def Entries.known (entries : Entries) : Entries :=
  entries.filter fun entry => entry.1 ∈ SettingKey.all.map SettingKey.word

/-- The values that a setting can have. -/
inductive SettingKey.Accepts : SettingKey → Value → Prop where
  | marker {text : String} : isIdentifierLine text.toList = true → Accepts .marker (.text text)
  | defaultTimeout {n : Nat} : 1 ≤ n → n ≤ 4294967295 → Accepts .defaultTimeout (.int n)
  | manifestFormat {format : ManifestFormat} : Accepts .manifestFormat (.text format.word)
  | jobs {n : Nat} : 1 ≤ n → Accepts .jobs (.int n)
  | includes {items : List Value} : Accepts .includes (.list items)

/-- The value of each setting. -/
def Settings.value (settings : Settings) : SettingKey → Value
  | .marker => .text settings.marker
  | .defaultTimeout => .int settings.defaultTimeout
  | .manifestFormat => .text settings.manifestFormat.word
  | .jobs => .int settings.jobs
  | .includes => .list settings.includes

/-- The error of a result, if it is one. -/
def errorOf {ε α : Type} : Except ε α → Option ε
  | .ok _ => none
  | .error e => some e

/-- Why a setting cannot have a value, if it cannot. -/
def SettingKey.refusal? (value : Value) : SettingKey → Option InvalidSetting
  | .marker => errorOf (readMarker value)
  | .defaultTimeout => errorOf (readCount (some maxTimeout) value)
  | .manifestFormat => errorOf (readFormat value)
  | .jobs => errorOf (readCount none value)
  | .includes => errorOf (readIncludes value)

section Entries
variable {entries more : Entries} {key other : String} {value : Value}

theorem Entries.value?_cons (entry : String × Value) :
    Entries.value? (entry :: entries) key =
      if entry.1 = key then some entry.2 else entries.value? key := by
  by_cases same : entry.1 = key <;> simp [Entries.value?, same]

theorem Entries.value?_append :
    Entries.value? (entries ++ more) key = (entries.value? key).or (more.value? key) := by
  rw [Entries.value?, List.find?_append, Option.map_or, Entries.value?, Entries.value?]

theorem Entries.value?_eq_none_iff : entries.value? key = none ↔ key ∉ entries.map Prod.fst := by
  induction entries with
  | nil => simp [Entries.value?]
  | cons entry entries ih =>
    rw [Entries.value?_cons, List.map_cons, List.mem_cons, not_or, ← ih]
    by_cases same : entry.1 = key
    · simp [same]
    · simp [same, Ne.symm same]

theorem Entries.value?_map_replace :
    Entries.value? (entries.map fun entry => if entry.1 = other then (other, value) else entry)
        key =
      if other = key then (entries.value? key).map fun _ => value else entries.value? key := by
  induction entries with
  | nil => simp [Entries.value?]
  | cons entry entries ih =>
    rw [List.map_cons, Entries.value?_cons, ih, Entries.value?_cons]
    split_ifs <;> simp_all

/-- What is put for a key is its value, and other keys keep theirs. -/
theorem Entries.value?_put :
    (entries.put other value).value? key =
      if other = key then some value else entries.value? key := by
  unfold Entries.put
  split_ifs with taken same same
  · subst same
    have member : other ∈ entries.map Prod.fst := by simpa using taken
    obtain ⟨old, found⟩ :=
      Option.ne_none_iff_exists'.mp (Entries.value?_eq_none_iff.not_left.mpr member)
    rw [Entries.value?_map_replace, if_pos rfl, found, Option.map_some]
  · rw [Entries.value?_map_replace, if_neg same]
  · subst same
    have free : other ∉ entries.map Prod.fst := by simpa using taken
    rw [Entries.value?_append, Entries.value?_eq_none_iff.mpr free, Option.none_or,
      Entries.value?_cons, if_pos rfl]
  · rw [Entries.value?_append, Entries.value?_cons, if_neg same]
    simp [Entries.value?]

theorem Entries.value?_overlay (distinct : (more.map Prod.fst).Nodup) :
    (entries.overlay more).value? key = (more.value? key).or (entries.value? key) := by
  induction more generalizing entries with
  | nil => rfl
  | cons entry more ih =>
    obtain ⟨fresh, distinct⟩ := List.nodup_cons.mp distinct
    have step : entries.overlay (entry :: more) = (entries.put entry.1 entry.2).overlay more := rfl
    rw [step, ih distinct, Entries.value?_put, Entries.value?_cons]
    split_ifs with same
    · subst same
      rw [Entries.value?_eq_none_iff.mpr fresh, Option.none_or, Option.some_or]
    · rfl

theorem Entries.value?_given (distinct : (entries.map Prod.fst).Nodup) :
    entries.given.value? key = entries.set? key := by
  induction entries with
  | nil => rfl
  | cons entry entries ih =>
    obtain ⟨fresh, distinct⟩ := List.nodup_cons.mp distinct
    rw [Entries.set?, Entries.value?_cons]
    by_cases null : entry.2.isNull = true
    · have dropped : Entries.given (entry :: entries) = Entries.given entries := by
        simp [Entries.given, null]
      rw [dropped, ih distinct, Entries.set?]
      split_ifs with same
      · subst same
        rw [Entries.value?_eq_none_iff.mpr fresh, Option.filter_some_neg (by simp [null]),
          Option.filter_none]
      · rfl
    · have kept : Entries.given (entry :: entries) = entry :: Entries.given entries := by
        simp [Entries.given, null]
      rw [kept, Entries.value?_cons, ih distinct, Entries.set?]
      split_ifs with same
      · rw [Option.filter_some_pos (by simp [null])]
      · rfl

theorem Entries.effective_eq (entries : Entries) (key : SettingKey) :
    entries.effective key = (entries.set? key.word).getD key.default := by
  unfold Entries.effective Entries.set?
  cases entries.value? key.word with
  | none => rfl
  | some value =>
    rw [Option.filter_some]
    by_cases null : value.isNull = true <;> simp [null]

/-- The value that counts for a setting after what is given was put on top of the file. -/
theorem effective_overlay {file given : Entries} (distinct : (given.map Prod.fst).Nodup)
    (key : SettingKey) :
    (file.overlay given.given).effective key = layeredValue file given key := by
  have distinctSet : (given.given.map Prod.fst).Nodup :=
    distinct.sublist (List.filter_sublist.map Prod.fst)
  rw [Entries.effective_eq, layeredValue, Entries.set?, Entries.value?_overlay distinctSet,
    Entries.value?_given distinct]
  -- what is given is no null, so the default does not come in again
  cases stated : given.set? key.word with
  | none => rw [Option.none_or, Option.none_or, Entries.set?]
  | some value =>
    have set := (Option.filter_eq_some_iff.mp stated).2
    rw [Option.some_or, Option.some_or, Option.filter_some, if_pos set]

theorem Entries.value?_filter {p : String × Value → Bool} (keeps : ∀ value, p (key, value) = true) :
    Entries.value? (entries.filter p) key = entries.value? key := by
  have same : (fun entry => decide (p entry = true ∧ (entry.1 == key) = true)) =
      fun entry => entry.1 == key := by
    funext ⟨own, value⟩
    by_cases own = key <;> simp_all
  rw [Entries.value?, List.find?_filter, same, Entries.value?]

theorem Entries.set?_known (entries : Entries) (key : SettingKey) :
    entries.known.set? key.word = entries.set? key.word := by
  have setting : key.word ∈ SettingKey.all.map SettingKey.word := by
    cases key <;> simp [SettingKey.all]
  rw [Entries.set?, Entries.known, Entries.value?_filter (by simp [setting]), Entries.set?]

/-- Unknown keys do not matter to the value of a setting. -/
theorem layeredValue_known (file given : Entries) (key : SettingKey) :
    layeredValue file.known given.known key = layeredValue file given key := by
  rw [layeredValue, Entries.set?_known, Entries.set?_known, layeredValue]

theorem Entries.settings_congr (same : ∀ key, entries.effective key = more.effective key) :
    entries.settings = more.settings := by
  simp only [Entries.settings, Entries.read, same]

end Entries

section Checks
variable {entries : Entries} {settings : Settings} {value : Value} {key : SettingKey}

theorem errorOf_eq_none_iff {ε α : Type} {result : Except ε α} :
    errorOf result = none ↔ ∃ a, result = .ok a := by
  cases result <;> simp [errorOf]

theorem errorOf_eq_some_iff {ε α : Type} {result : Except ε α} {e : ε} :
    errorOf result = some e ↔ result = .error e := by
  cases result <;> simp [errorOf]

theorem readMarker_eq_ok_iff {text : String} :
    readMarker value = .ok text ↔ value = .text text ∧ isIdentifierLine text.toList = true := by
  constructor
  · intro read
    unfold readMarker at read
    split at read
    next =>
      split_ifs at read with identifier
      obtain rfl := Except.ok.inj read
      exact ⟨rfl, identifier⟩
    next => cases read
  · rintro ⟨rfl, identifier⟩
    rw [readMarker, if_pos identifier]

/-- A value is refused for no reason just when the setting can have it. -/
theorem SettingKey.refusal?_eq_none_iff : key.refusal? value = none ↔ key.Accepts value := by
  cases key with
  | marker =>
    rw [SettingKey.refusal?, errorOf_eq_none_iff]
    constructor
    · rintro ⟨text, read⟩
      obtain ⟨rfl, identifier⟩ := readMarker_eq_ok_iff.mp read
      exact .marker identifier
    · rintro ⟨identifier⟩
      exact ⟨_, readMarker_eq_ok_iff.mpr ⟨rfl, identifier⟩⟩
  | defaultTimeout =>
    rw [SettingKey.refusal?, errorOf_eq_none_iff]
    constructor
    · rintro ⟨n, read⟩
      obtain ⟨rfl, positive, fits⟩ := readCount_ok_iff.mp read
      exact .defaultTimeout positive (fits _ rfl)
    · rintro ⟨⟩
      rename_i n positive fits
      exact ⟨n, readCount_ok_iff.mpr ⟨rfl, positive, by simpa [maxTimeout] using fits⟩⟩
  | manifestFormat =>
    rw [SettingKey.refusal?, errorOf_eq_none_iff]
    constructor
    · rintro ⟨format, read⟩
      rw [readFormat_eq_ok_iff.mp read]
      exact .manifestFormat
    · rintro ⟨⟩
      exact ⟨_, readFormat_eq_ok_iff.mpr rfl⟩
  | jobs =>
    rw [SettingKey.refusal?, errorOf_eq_none_iff]
    constructor
    · rintro ⟨n, read⟩
      obtain ⟨rfl, positive, -⟩ := readCount_ok_iff.mp read
      exact .jobs positive
    · rintro ⟨⟩
      rename_i n positive
      exact ⟨n, readCount_ok_iff.mpr ⟨rfl, positive, by simp⟩⟩
  | includes =>
    rw [SettingKey.refusal?, errorOf_eq_none_iff]
    constructor
    · rintro ⟨items, read⟩
      rw [readIncludes_eq_ok_iff.mp read]
      exact .includes
    · rintro ⟨⟩
      exact ⟨_, rfl⟩

/-- The setting that is reported is the first one that refuses its value. -/
theorem Entries.errorOf_settings (entries : Entries) :
    errorOf entries.settings = SettingKey.all.findSome? fun key =>
      (key.refusal? (entries.effective key)).map (RefusedSetting.mk key) := by
  simp only [Entries.settings, Entries.read, SettingKey.all, List.findSome?_cons,
    List.findSome?_nil, SettingKey.refusal?]
  -- the settings are read in this order up to the first that is refused
  cases readMarker (entries.effective .marker) with
  | error why => rfl
  | ok marker =>
    cases readCount (some maxTimeout) (entries.effective .defaultTimeout) with
    | error why => rfl
    | ok defaultTimeout =>
      cases readFormat (entries.effective .manifestFormat) with
      | error why => rfl
      | ok manifestFormat =>
        cases readCount none (entries.effective .jobs) with
        | error why => rfl
        | ok jobs =>
          cases readIncludes (entries.effective .includes) with
          | error why => rfl
          | ok includes => rfl

/-- Every default is a value that its setting can have. -/
theorem SettingKey.accepts_default (key : SettingKey) : key.Accepts key.default := by
  cases key with
  | marker => exact .marker (by decide)
  | defaultTimeout => exact @SettingKey.Accepts.defaultTimeout 10 (by decide) (by decide)
  | manifestFormat => exact @SettingKey.Accepts.manifestFormat .json
  | jobs => exact @SettingKey.Accepts.jobs 1 le_rfl
  | includes => exact .includes

theorem SettingKey.mem_all (key : SettingKey) : key ∈ SettingKey.all := by
  cases key <;> simp [SettingKey.all]

theorem Entries.exists_settings_iff : (∃ settings, entries.settings = .ok settings) ↔
    ∀ key : SettingKey, key.Accepts (entries.effective key) := by
  rw [← errorOf_eq_none_iff, Entries.errorOf_settings, List.findSome?_eq_none_iff]
  simp [SettingKey.mem_all, SettingKey.refusal?_eq_none_iff]

theorem Settings.value_eq (accepted : entries.settings = .ok settings) (key : SettingKey) :
    settings.value key = entries.effective key := by
  obtain ⟨marker, timeout, format, jobs, includes⟩ := Entries.settings_eq_ok_iff.mp accepted
  cases key with
  | marker => exact (readMarker_eq_ok_iff.mp marker).1.symm
  | defaultTimeout => exact (readCount_ok_iff.mp timeout).1.symm
  | manifestFormat => exact (readFormat_eq_ok_iff.mp format).symm
  | jobs => exact (readCount_ok_iff.mp jobs).1.symm
  | includes => exact (readIncludes_eq_ok_iff.mp includes).symm

/-- A setting is only reported if it refuses its value and all before it accept theirs. -/
theorem Entries.exists_split_of_refused {refused : RefusedSetting}
    (report : entries.settings = .error refused) :
    refused.key.refusal? (entries.effective refused.key) = some refused.why ∧
      ∃ before after, SettingKey.all = before ++ refused.key :: after ∧
        ∀ key ∈ before, key.Accepts (entries.effective key) := by
  rw [← errorOf_eq_some_iff, Entries.errorOf_settings, List.findSome?_eq_some_iff] at report
  obtain ⟨before, own, after, split, found, earlier⟩ := report
  obtain ⟨why, refuses, rfl⟩ := Option.map_eq_some_iff.mp found
  refine ⟨refuses, before, after, split, fun key hk => ?_⟩
  exact SettingKey.refusal?_eq_none_iff.mp (Option.map_eq_none_iff.mp (earlier key hk))

end Checks

/-- Settings are accepted just when each of them can have its value in the two layers, and then they
are these values. If some cannot, the first of these in the order of the settings is reported. Keys
of no setting change nothing, in whichever layer they are. -/
theorem loadSettings_of_layers {given : Entries} (distinct : (given.map Prod.fst).Nodup)
    (file : Entries) :
    ((∃ settings, (loadSettings file given).1 = .ok settings) ↔
        ∀ key : SettingKey, key.Accepts (layeredValue file given key)) ∧
      (∀ settings, (loadSettings file given).1 = .ok settings →
        ∀ key, settings.value key = layeredValue file given key) ∧
      (∀ refused, (loadSettings file given).1 = .error refused →
        ¬ refused.key.Accepts (layeredValue file given refused.key) ∧
          refused.key.refusal? (layeredValue file given refused.key) = some refused.why ∧
          ∃ before after, SettingKey.all = before ++ refused.key :: after ∧
            ∀ key ∈ before, key.Accepts (layeredValue file given key)) ∧
      (loadSettings file.known given.known).1 = (loadSettings file given).1 := by
  have values : (file.overlay given.given).effective = layeredValue file given :=
    funext (effective_overlay distinct)
  rw [← values]
  refine ⟨Entries.exists_settings_iff, fun settings => Settings.value_eq, fun refused report => ?_,
    Entries.settings_congr fun key => ?_⟩
  · obtain ⟨refuses, first⟩ := Entries.exists_split_of_refused report
    refine ⟨fun accepts => ?_, refuses, first⟩
    rw [SettingKey.refusal?_eq_none_iff.mpr accepts] at refuses
    cases refuses
  · have known : (given.known.map Prod.fst).Nodup :=
      distinct.sublist (List.filter_sublist.map Prod.fst)
    rw [effective_overlay known, layeredValue_known, values]

/-- A file with a null, a count that is none, and a key of no setting. -/
def countEntries : Entries :=
  [("marker", .null), ("default_timeout", .int 30), ("jobs", .int 0), ("colour", .text "red")]

/-- What a run may be given on top: a count, a null, and a key of no setting. -/
def runEntries : Entries :=
  [("jobs", .int 4), ("default_timeout", .null), ("verbose", .bool true)]

theorem loadSettings_of_countEntries_runEntries :
    (runEntries.map Prod.fst).Nodup ∧
      (∃ settings, (loadSettings countEntries runEntries).1 = .ok settings ∧
        SettingKey.all.map settings.value =
          [.text "cmocka", .int 30, .text "json", .int 4, .list []]) ∧
      ∃ refused, (loadSettings countEntries []).1 = .error refused ∧ refused.key = .jobs := by
  have distinct : (runEntries.map Prod.fst).Nodup := by decide
  obtain ⟨accepted, values, -⟩ := loadSettings_of_layers distinct countEntries
  obtain ⟨settings, loaded⟩ := accepted.mpr fun key => by
    cases key with
    | defaultTimeout => exact @SettingKey.Accepts.defaultTimeout 30 (by decide) (by decide)
    | jobs => exact @SettingKey.Accepts.jobs 4 (by decide)
    | marker => exact SettingKey.accepts_default .marker
    | manifestFormat => exact SettingKey.accepts_default .manifestFormat
    | includes => exact SettingKey.accepts_default .includes
  refine ⟨distinct, ⟨settings, loaded, ?_⟩, _, rfl, rfl⟩
  rw [funext (values settings loaded)]
  rfl

end AnnotatedTests
