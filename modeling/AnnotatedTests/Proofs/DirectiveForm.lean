import AnnotatedTests.Proofs.Overlong
import Mathlib.Data.List.Forall2
import Mathlib.Data.List.Induction

/-! The form of directives. The words of a comment are a directive just when they are a kind, then
a name, each of which may be left out, and then attributes that the kind can carry, no two of one
key; the directive is what these say. -/
namespace AnnotatedTests

/-- What one word of a directive says behind its kind and name. -/
inductive Attribute where
  | group (name : String)
  | setup (name : String)
  | teardown (name : String)
  | disabled (truth : Bool)
  | timeout (seconds : Nat)
  deriving DecidableEq, Repr

def Attribute.key : Attribute → AttributeKey
  | .group _ => .group
  | .setup _ => .setup
  | .teardown _ => .teardown
  | .disabled _ => .disabled
  | .timeout _ => .timeout

/-- Whether a text is a word of small letters, some of which may be capitals. -/
def SpelledInAnyCase (word text : String) : Prop :=
  List.Forall₂ (fun c d => d = c ∨ d = c.toUpper) word.toList text.toList

/-- Whether a text is a numeral of digits for a number of seconds that an alarm can count. -/
structure TimeoutNumeral (digits : List Char) (seconds : Nat) : Prop where
  nonempty : digits ≠ []
  short : digits.length ≤ 4300
  digit : ∀ c ∈ digits, '0' ≤ c ∧ c ≤ '9'
  value : Nat.ofDigitChars 10 digits 0 = seconds
  positive : 1 ≤ seconds
  fits : seconds ≤ 4294967295

/-- Whether an attribute has a text as its value. -/
def Attribute.HasValue : Attribute → String → Prop
  | .group name, value => value = name ∧ isIdentifier name.toList = true
  | .setup name, value => value = name ∧ isIdentifier name.toList = true
  | .teardown name, value => value = name ∧ isIdentifier name.toList = true
  | .disabled truth, value => SpelledInAnyCase (if truth then "true" else "false") value
  | .timeout seconds, value => TimeoutNumeral value.toList seconds

/-- Whether an attribute is written as a word: as its key, a colon and its value, or as the flag
alone. -/
def Attribute.Written (a : Attribute) (word : String) : Prop :=
  (∃ value, a.HasValue value ∧ word.toList = a.key.word.toList ++ ':' :: value.toList) ∨
    a = .disabled true ∧ word = "disabled"

def statedKinds : List DirectiveKind := [.group, .test, .setup, .teardown]

/-- The parts of a directive, and the words of its attributes. -/
structure DirectiveForm where
  stated : Option DirectiveKind
  name : Option String
  attributes : List Attribute
  attributeWords : List String

/-- The kind that is stated; without one, a directive that has a name is a test. -/
def DirectiveForm.kind (form : DirectiveForm) : DirectiveKind :=
  form.stated.getD (if form.name.isSome then .test else .bare)

/-- Whether words are made up of the parts of a directive, as a directive may be. -/
structure DirectiveForm.Spells (form : DirectiveForm) (words : List String) : Prop where
  split : words =
    (form.stated.map DirectiveKind.label).toList ++ form.name.toList ++ form.attributeWords
  stated : ∀ kind ∈ form.stated, kind ∈ statedKinds
  unstated : form.stated = none → ∀ kind ∈ statedKinds, words.head? ≠ some kind.label
  name : ∀ name ∈ form.name,
    ':' ∉ name.toList ∧ name ≠ "disabled" ∧ isIdentifier name.toList = true
  named : form.kind = .group → form.name.isSome
  written : List.Forall₂ Attribute.Written form.attributes form.attributeWords
  allowed : ∀ a ∈ form.attributes, form.kind.allows a.key = true
  distinct : (form.attributes.map Attribute.key).Nodup

def Attribute.group? : Attribute → Option String
  | .group name => some name
  | _ => none

def Attribute.setup? : Attribute → Option String
  | .setup name => some name
  | _ => none

def Attribute.teardown? : Attribute → Option String
  | .teardown name => some name
  | _ => none

def Attribute.disabled? : Attribute → Option Bool
  | .disabled truth => some truth
  | _ => none

def Attribute.timeout? : Attribute → Option Nat
  | .timeout seconds => some seconds
  | _ => none

/-- The attributes that a list gives, read off it key by key. -/
def Attributes.ofList (attributes : List Attribute) : Attributes where
  group := attributes.findSome? Attribute.group?
  setup := attributes.findSome? Attribute.setup?
  teardown := attributes.findSome? Attribute.teardown?
  disabled := attributes.findSome? Attribute.disabled?
  timeout := attributes.findSome? Attribute.timeout?

def DirectiveForm.directive (form : DirectiveForm) (place : Place) : Directive where
  kind := form.kind
  name := form.name
  attributes := .ofList form.attributes
  place := place

theorem exists_of_map_eq_ok {ε α β : Type} {read : Except ε α} {f : α → β} {b : β}
    (h : read.map f = .ok b) : ∃ a, read = .ok a ∧ f a = b := by
  cases read with
  | error failure => simp [Except.map] at h
  | ok a => exact ⟨a, rfl, Except.ok.inj h⟩

theorem exists_of_bind_eq_ok {ε α β : Type} {read : Except ε α} {f : α → Except ε β} {b : β}
    (h : read.bind f = .ok b) : ∃ a, read = .ok a ∧ f a = .ok b := by
  cases read with
  | error failure => simp [Except.bind] at h
  | ok a => exact ⟨a, rfl, h⟩

theorem exists_related_of_mem_right {α β : Type} {R : α → β → Prop} {as : List α} {bs : List β}
    (related : List.Forall₂ R as bs) {b : β} (hb : b ∈ bs) : ∃ a ∈ as, R a b := by
  induction related with
  | nil => cases hb
  | cons first rest ih =>
    rcases List.mem_cons.mp hb with rfl | hb
    · exact ⟨_, List.mem_cons_self, first⟩
    · obtain ⟨a, ha, r⟩ := ih hb
      exact ⟨a, List.mem_cons_of_mem _ ha, r⟩

theorem exists_related_of_mem_left {α β : Type} {R : α → β → Prop} {as : List α} {bs : List β}
    (related : List.Forall₂ R as bs) {a : α} (ha : a ∈ as) : ∃ b ∈ bs, R a b :=
  exists_related_of_mem_right related.flip ha

section Values

theorem readName_eq_ok_iff {key : AttributeKey} {value name : String} :
    readName key value = .ok name ↔ value = name ∧ isIdentifier name.toList = true := by
  unfold readName
  split_ifs with identifier
  · rw [Except.ok.injEq]
    exact ⟨fun h => ⟨h, h ▸ identifier⟩, fun h => h.1⟩
  · refine iff_of_false (by simp) ?_
    rintro ⟨rfl, h⟩
    exact identifier h

theorem toNat_toLower (c : Char) :
    c.toLower.toNat = if 65 ≤ c.toNat ∧ c.toNat ≤ 90 then c.toNat + 32 else c.toNat := by
  unfold Char.toLower
  split_ifs with capital capital' capital'
  · change (c.val + 32).toNat = c.val.toNat + 32
    have low : c.val.toNat ≤ 90 := capital'.2
    rw [UInt32.toNat_add]
    exact Nat.mod_eq_of_lt (by change _ + 32 < 4294967296; omega)
  · exact absurd capital capital'
  · exact absurd capital' capital
  · rfl

theorem toNat_toUpper (c : Char) :
    c.toUpper.toNat = if 97 ≤ c.toNat ∧ c.toNat ≤ 122 then c.toNat - 32 else c.toNat := by
  unfold Char.toUpper
  split_ifs with small small' small'
  · change (c.val + 4294967264).toNat = c.val.toNat - 32
    have bounds : 97 ≤ c.val.toNat ∧ c.val.toNat ≤ 122 := small'
    rw [UInt32.toNat_add]
    change (_ + 4294967264) % 4294967296 = _
    omega
  · exact absurd small small'
  · exact absurd small' small
  · rfl

/-- What becomes a small letter is that letter or its capital. -/
theorem toLower_eq_iff {c d : Char} (small : 'a' ≤ c ∧ c ≤ 'z') :
    d.toLower = c ↔ d = c ∨ d = c.toUpper := by
  have bounds : 97 ≤ c.toNat ∧ c.toNat ≤ 122 := small
  simp only [← Char.toNat_inj, toNat_toLower, toNat_toUpper]
  split_ifs <;> omega

theorem map_toLower_eq_iff {letters : List Char} (small : ∀ c ∈ letters, 'a' ≤ c ∧ c ≤ 'z')
    (text : List Char) :
    text.map Char.toLower = letters ↔
      List.Forall₂ (fun c d => d = c ∨ d = c.toUpper) letters text := by
  induction letters generalizing text with
  | nil => simp
  | cons c letters ih =>
    cases text with
    | nil => simp
    | cons d text =>
      rw [List.map_cons, List.cons.injEq, List.forall₂_cons,
        toLower_eq_iff (small c List.mem_cons_self),
        ih fun c hc => small c (List.mem_cons_of_mem _ hc)]

theorem readTruth?_eq_some_iff {value : String} {truth : Bool} :
    readTruth? value = some truth ↔
      SpelledInAnyCase (if truth then "true" else "false") value := by
  have smallTrue : ∀ c ∈ "true".toList, 'a' ≤ c ∧ c ≤ 'z' := by simp
  have smallFalse : ∀ c ∈ "false".toList, 'a' ≤ c ∧ c ≤ 'z' := by simp
  have asTrue := map_toLower_eq_iff smallTrue value.toList
  have asFalse := map_toLower_eq_iff smallFalse value.toList
  have apart : "true".toList ≠ "false".toList := by decide
  unfold readTruth? SpelledInAnyCase
  generalize value.toList.map Char.toLower = lowered at asTrue asFalse ⊢
  simp only
  cases truth with
  | true =>
    rw [if_pos rfl, ← asTrue]
    split_ifs with whole
    · exact iff_of_true rfl whole
    · exact iff_of_false (by simp) whole
    · exact iff_of_false (by simp) whole
  | false =>
    rw [if_neg Bool.false_ne_true, ← asFalse]
    split_ifs with whole other
    · exact iff_of_false (by simp) (whole ▸ apart)
    · exact iff_of_true rfl other
    · exact iff_of_false (by simp) other

/-- A timeout is read from its numeral. The empty row of digits is no timeout, as its value is
zero. -/
theorem readTimeout_eq_ok_iff {value : String} {seconds : Nat} :
    readTimeout value = .ok seconds ↔ TimeoutNumeral value.toList seconds := by
  have value_eq (text : List Char) : decimalValue text = Nat.ofDigitChars 10 text 0 := rfl
  have digits : value.toList.all isAsciiDigit = true ↔
      ∀ c ∈ value.toList, '0' ≤ c ∧ c ≤ '9' := by
    simp only [List.all_eq_true, isAsciiDigit, Bool.and_eq_true, decide_eq_true_eq]
    rfl
  unfold readTimeout
  simp only [value_eq]
  constructor
  · intro h
    split_ifs at h with other long zero large
    obtain rfl := Except.ok.inj h
    refine ⟨?_, ?_, ?_, rfl, Nat.one_le_iff_ne_zero.mpr zero, Nat.not_lt.mp large⟩
    · intro empty
      exact zero (by rw [empty]; rfl)
    · exact Nat.not_lt.mp long
    · exact digits.mp (by simpa using other)
  · intro numeral
    obtain ⟨-, short, digit, rfl, positive, fits⟩ := numeral
    have admitted : ¬ maxNumeralDigits < value.toList.length := Nat.not_lt.mpr short
    have inRange : ¬ maxTimeout < Nat.ofDigitChars 10 value.toList 0 := Nat.not_lt.mpr fits
    rw [digits.mpr digit, if_neg (by decide), if_neg admitted,
      if_neg (Nat.one_le_iff_ne_zero.mp positive), if_neg inRange]

end Values

section Attributes

/-- An attribute set in what has been given so far. -/
def Attributes.put (given : Attributes) : Attribute → Attributes
  | .group name => { given with group := some name }
  | .setup name => { given with setup := some name }
  | .teardown name => { given with teardown := some name }
  | .disabled truth => { given with disabled := some truth }
  | .timeout seconds => { given with timeout := some seconds }

theorem has_ofList_eq_false_iff {attributes : List Attribute} {key : AttributeKey} :
    (Attributes.ofList attributes).has key = false ↔ key ∉ attributes.map Attribute.key := by
  have absent {α : Type} {read : Attribute → Option α}
      (reads : ∀ a, read a = none ↔ a.key ≠ key) :
      (attributes.findSome? read).isSome = false ↔ key ∉ attributes.map Attribute.key := by
    simp only [Option.isSome_eq_false_iff, Option.isNone_iff_eq_none, List.findSome?_eq_none_iff,
      reads, List.mem_map, not_exists, not_and]
  cases key <;> refine absent fun a => ?_ <;> cases a <;>
    simp [Attribute.key, Attribute.group?, Attribute.setup?, Attribute.teardown?,
      Attribute.disabled?, Attribute.timeout?]

/-- An attribute whose key no other has is the last of a list. -/
theorem put_ofList {attributes : List Attribute} {a : Attribute}
    (fresh : a.key ∉ attributes.map Attribute.key) :
    (Attributes.ofList attributes).put a = .ofList (attributes ++ [a]) := by
  have unset := has_ofList_eq_false_iff.mpr fresh
  have behind : Attributes.ofList (attributes ++ [a]) =
      { group := (Attributes.ofList attributes).group <|> a.group?
        setup := (Attributes.ofList attributes).setup <|> a.setup?
        teardown := (Attributes.ofList attributes).teardown <|> a.teardown?
        disabled := (Attributes.ofList attributes).disabled <|> a.disabled?
        timeout := (Attributes.ofList attributes).timeout <|> a.timeout? } := by
    simp [Attributes.ofList, List.findSome?_append]
  rw [behind]
  generalize Attributes.ofList attributes = given at unset ⊢
  cases a <;> simp_all [Attributes.put, Attributes.has, Attribute.key, Attribute.group?,
    Attribute.setup?, Attribute.teardown?, Attribute.disabled?, Attribute.timeout?]

theorem ne_empty_of_hasValue {a : Attribute} {value : String} (has : a.HasValue value) :
    value ≠ "" := by
  rintro rfl
  cases a with
  | group name | setup name | teardown name =>
    obtain ⟨rfl, identifier⟩ := has
    simp [isIdentifier] at identifier
  | disabled truth => cases truth <;> simp [Attribute.HasValue, SpelledInAnyCase] at has
  | timeout seconds => exact has.nonempty rfl

theorem assign_eq_ok_iff {given more : Attributes} {key : AttributeKey} {value : String} :
    given.assign key value = .ok more ↔
      ∃ a : Attribute, a.key = key ∧ a.HasValue value ∧ more = given.put a := by
  unfold Attributes.assign
  constructor
  · intro h
    split_ifs at h with blank
    cases key with
    | group =>
      obtain ⟨name, read, rfl⟩ := exists_of_map_eq_ok h
      exact ⟨.group name, rfl, readName_eq_ok_iff.mp read, rfl⟩
    | setup =>
      obtain ⟨name, read, rfl⟩ := exists_of_map_eq_ok h
      exact ⟨.setup name, rfl, readName_eq_ok_iff.mp read, rfl⟩
    | teardown =>
      obtain ⟨name, read, rfl⟩ := exists_of_map_eq_ok h
      exact ⟨.teardown name, rfl, readName_eq_ok_iff.mp read, rfl⟩
    | disabled =>
      cases read : readTruth? value with
      | none => simp [read] at h
      | some truth =>
        rw [read] at h
        exact ⟨.disabled truth, rfl, readTruth?_eq_some_iff.mp read, (Except.ok.inj h).symm⟩
    | timeout =>
      obtain ⟨seconds, read, rfl⟩ := exists_of_map_eq_ok h
      exact ⟨.timeout seconds, rfl, readTimeout_eq_ok_iff.mp read, rfl⟩
  · intro given
    obtain ⟨a, rfl, has, rfl⟩ := given
    rw [if_neg (ne_empty_of_hasValue has)]
    cases a with
    | group name | setup name | teardown name =>
      simp only [Attribute.key, readName_eq_ok_iff.mpr has]
      rfl
    | disabled truth => simp only [Attribute.key, readTruth?_eq_some_iff.mpr has]; rfl
    | timeout seconds =>
      simp only [Attribute.key, readTimeout_eq_ok_iff.mpr has]
      rfl

theorem colon_notMem_word (key : AttributeKey) : ':' ∉ key.word.toList := by
  cases key <;> decide

/-- A word is added to the attributes of a directive as an attribute that it spells, which its kind
can carry and which it has not yet. -/
theorem add_eq_ok_iff {given more : Attributes} {kind : DirectiveKind} {word : String} :
    given.add kind word = .ok more ↔
      ∃ a : Attribute, a.Written word ∧ kind.allows a.key = true ∧ given.has a.key = false ∧
        more = given.put a := by
  unfold Attributes.add
  constructor
  · intro h
    cases cut : cutAtColon? word with
    | none =>
      simp only [cut] at h
      split_ifs at h with flag
      obtain ⟨key, accepted, rfl⟩ := exists_of_map_eq_ok h
      obtain ⟨known, allowed, new⟩ := accept_eq_ok_iff.mp accepted
      subst flag
      obtain rfl : AttributeKey.disabled = key := Option.some.inj known
      exact ⟨.disabled true, .inr ⟨rfl, rfl⟩, allowed, new, rfl⟩
    | some parts =>
      obtain ⟨name, value⟩ := parts
      simp only [cut] at h
      obtain ⟨key, accepted, assigned⟩ := exists_of_bind_eq_ok h
      obtain ⟨known, allowed, new⟩ := accept_eq_ok_iff.mp accepted
      obtain rfl := word_of_ofWord? known
      obtain ⟨a, rfl, has, rfl⟩ := assign_eq_ok_iff.mp assigned
      refine ⟨a, .inl ⟨value, has, ?_⟩, allowed, new, rfl⟩
      rw [eq_of_cutAtColon? cut, String.toList_ofList]
  · intro spelled
    obtain ⟨a, written, allowed, new, rfl⟩ := spelled
    have accepted : given.accept kind a.key.word = .ok a.key :=
      accept_eq_ok_iff.mpr ⟨ofWord_word a.key, allowed, new⟩
    rcases written with ⟨value, has, letters⟩ | ⟨rfl, rfl⟩
    · have cut := cutAtColon?_ofList (colon_notMem_word a.key) value.toList
      rw [← letters, String.ofList_toList, String.ofList_toList, String.ofList_toList] at cut
      simp only [cut, accepted]
      exact assign_eq_ok_iff.mpr ⟨a, rfl, has, rfl⟩
    · have cut : cutAtColon? "disabled" = none := by decide
      have flag : given.accept kind "disabled" = .ok .disabled := accepted
      simp only [cut, flag]
      rfl

theorem exists_concat_of_forall₂ {α β : Type} {R : α → β → Prop} {as : List α} {bs : List β}
    {b : β} (h : List.Forall₂ R as (bs ++ [b])) :
    ∃ before a, as = before ++ [a] ∧ List.Forall₂ R before bs ∧ R a b := by
  have last := List.forall₂_drop_append as bs [b] h
  obtain ⟨a, rest, related, none, split⟩ := List.forall₂_cons_right_iff.mp last
  rw [List.forall₂_nil_right_iff.mp none] at split
  exact ⟨as.take bs.length, a, by rw [← split, List.take_append_drop],
    List.forall₂_take_append as bs [b] h, related⟩

/-- Words are read as attributes just when they spell some that a kind can carry, no two of one
key. -/
theorem readAttributes_eq_ok_iff {kind : DirectiveKind} {words : List String}
    {read : Attributes} :
    readAttributes kind .empty words = .ok read ↔
      ∃ attributes, List.Forall₂ Attribute.Written attributes words ∧
        (∀ a ∈ attributes, kind.allows a.key = true) ∧
        (attributes.map Attribute.key).Nodup ∧ read = .ofList attributes := by
  -- the induction is on the words before the last, as the last is added to what these give
  induction words using List.reverseRecOn generalizing read with
  | nil =>
    constructor
    · intro h
      obtain rfl := Except.ok.inj h
      exact ⟨[], .nil, by simp, List.nodup_nil, rfl⟩
    · intro spelled
      obtain ⟨attributes, written, -, -, rfl⟩ := spelled
      cases written
      rfl
  | append_singleton words word ih =>
    rw [readAttributes_append]
    constructor
    · intro h
      obtain ⟨given, before, last⟩ := exists_of_bind_eq_ok h
      obtain ⟨attributes, written, allowed, distinct, rfl⟩ := ih.mp before
      obtain ⟨more, added, done⟩ := exists_of_bind_eq_ok last
      obtain rfl := Except.ok.inj done
      obtain ⟨a, spelled, admitted, new, rfl⟩ := add_eq_ok_iff.mp added
      have fresh := has_ofList_eq_false_iff.mp new
      refine ⟨attributes ++ [a], List.rel_append written (.cons spelled .nil), ?_, ?_,
        put_ofList fresh⟩
      · simpa [or_imp, forall_and] using ⟨allowed, admitted⟩
      · simpa [List.nodup_append, distinct] using fresh
    · intro spelled
      obtain ⟨all, written, allowed, distinct, rfl⟩ := spelled
      obtain ⟨attributes, a, rfl, before, last⟩ := exists_concat_of_forall₂ written
      rw [List.map_append] at distinct
      obtain ⟨apart, -, new⟩ := List.nodup_append.mp distinct
      have fresh : a.key ∉ attributes.map Attribute.key :=
        fun mem => new a.key mem a.key List.mem_cons_self rfl
      have given := ih.mpr ⟨attributes, before,
        fun b hb => allowed b (List.mem_append_left _ hb), apart, rfl⟩
      have added := add_eq_ok_iff.mpr ⟨a, last, allowed a (by simp),
        has_ofList_eq_false_iff.mpr fresh, rfl⟩
      rw [given, ← put_ofList fresh]
      change (Attributes.add kind _ word).bind _ = _
      rw [added]
      rfl

end Attributes

section Head

theorem ofWord?_eq_some_iff {word : String} {kind : DirectiveKind} :
    DirectiveKind.ofWord? word = some kind ↔ kind ∈ statedKinds ∧ word = kind.label := by
  constructor
  · intro h
    unfold DirectiveKind.ofWord? at h
    split at h <;> simp only [Option.some.injEq, reduceCtorEq] at h <;> subst h <;>
      exact ⟨by decide, rfl⟩
  · rintro ⟨stated, rfl⟩
    cases kind <;> first | rfl | simp [statedKinds] at stated

theorem standsForName_eq_true_iff {word : String} :
    standsForName word = true ↔ ':' ∉ word.toList ∧ word ≠ "disabled" := by
  simp [standsForName, disabledWord, AttributeKey.word]

/-- The word of an attribute cannot stand for a name. -/
theorem standsForName_of_written {a : Attribute} {word : String} (h : a.Written word) :
    standsForName word = false := by
  rw [Bool.eq_false_iff, Ne, standsForName_eq_true_iff]
  rintro ⟨noColon, notFlag⟩
  rcases h with ⟨value, -, letters⟩ | ⟨-, flag⟩
  · exact noColon (by rw [letters]; simp)
  · exact notFlag flag

/-- The kind and the name that a directive begins with, where something stands behind them that
can be neither. -/
theorem headOf_eq {stated : Option DirectiveKind} {name : Option String}
    {words rest : List String}
    (split : words = (stated.map DirectiveKind.label).toList ++ name.toList ++ rest)
    (known : ∀ kind ∈ stated, kind ∈ statedKinds)
    (unstated : stated = none → ∀ kind ∈ statedKinds, words.head? ≠ some kind.label)
    (stands : ∀ word ∈ name, standsForName word = true)
    (ends : ∀ word ∈ rest.head?, standsForName word = false) :
    headOf words = (stated.getD .bare, name, rest) := by
  have named : takeName (name.toList ++ rest) = (name, rest) := by
    cases name with
    | some name => simp [takeName, stands name rfl]
    | none =>
      cases rest with
      | nil => rfl
      | cons word rest => simp [takeName, ends word rfl]
  have kind : takeKind words = (stated.getD .bare, name.toList ++ rest) := by
    cases stated with
    | some kind =>
      have word := ofWord?_eq_some_iff.mpr ⟨known kind rfl, rfl⟩
      simp [split, takeKind, word]
    | none =>
      have split : words = name.toList ++ rest := split
      rw [← split]
      cases words with
      | nil => rfl
      | cons word words =>
        have none : DirectiveKind.ofWord? word = none := by
          refine Option.eq_none_iff_forall_ne_some.mpr fun kind h => ?_
          obtain ⟨stated, rfl⟩ := ofWord?_eq_some_iff.mp h
          exact unstated rfl kind stated rfl
        simp [takeKind, none]
  rw [headOf, kind]
  simp only [named]

theorem takeName_append (words : List String) :
    (takeName words).1.toList ++ (takeName words).2 = words ∧
      ∀ name ∈ (takeName words).1, standsForName name = true := by
  cases words with
  | nil => simp [takeName]
  | cons word rest => by_cases stands : standsForName word = true <;> simp [takeName, stands]

/-- All words begin with a kind and a name, each of which may be missing. -/
theorem exists_head (words : List String) :
    ∃ stated : Option DirectiveKind,
      words = (stated.map DirectiveKind.label).toList ++ (headOf words).2.1.toList ++
        (headOf words).2.2 ∧
      (headOf words).1 = stated.getD .bare ∧ (∀ kind ∈ stated, kind ∈ statedKinds) ∧
      (stated = none → ∀ kind ∈ statedKinds, words.head? ≠ some kind.label) ∧
      ∀ name ∈ (headOf words).2.1, standsForName name = true := by
  obtain ⟨split, stands⟩ := takeName_append (takeKind words).2
  refine ⟨words.head?.bind DirectiveKind.ofWord?, ?_, ?_, ?_, ?_, stands⟩
  · rw [headOf, List.append_assoc, split]
    cases words with
    | nil => rfl
    | cons word rest =>
      cases kind : DirectiveKind.ofWord? word with
      | none => simp [takeKind, kind]
      | some stated =>
        obtain ⟨-, rfl⟩ := ofWord?_eq_some_iff.mp kind
        simp [takeKind, kind]
  · cases words with
    | nil => rfl
    | cons word rest => cases kind : DirectiveKind.ofWord? word <;> simp [headOf, takeKind, kind]
  · intro kind stated
    obtain ⟨word, -, known⟩ := Option.bind_eq_some_iff.mp stated
    exact (ofWord?_eq_some_iff.mp known).1
  · intro unstated kind known first
    simp [first, ofWord?_eq_some_iff.mpr ⟨known, rfl⟩] at unstated

end Head

theorem readHead_eq_ok_iff {stated kind : DirectiveKind} {name : Option String} :
    readHead stated name = .ok kind ↔
      (∀ word ∈ name, isIdentifier word.toList = true) ∧ kind = stated.withName name ∧
        (kind = .group → name.isSome) := by
  have valid : name.all (fun word => isIdentifier word.toList) = true ↔
      ∀ word ∈ name, isIdentifier word.toList = true := by
    cases name <;> simp
  unfold readHead
  rw [← valid]
  constructor
  · intro h
    split_ifs at h with invalid unnamed
    obtain rfl := Except.ok.inj h
    refine ⟨by simpa using invalid, rfl, ?_⟩
    intro group
    simpa [group, Option.isSome_iff_ne_none] using unnamed
  · intro head
    obtain ⟨identifier, rfl, named⟩ := head
    have noMissing : ¬ (stated.withName name = .group ∧ name.isNone = true) := by
      rintro ⟨group, missing⟩
      simp [Option.isNone_iff_eq_none.mp missing] at named
      exact named (by rw [← group, Option.isNone_iff_eq_none.mp missing])
    rw [identifier, if_neg (by decide), if_neg noMissing]

theorem kind_eq_withName {form : DirectiveForm}
    (known : ∀ kind ∈ form.stated, kind ∈ statedKinds) :
    form.kind = (form.stated.getD .bare).withName form.name := by
  unfold DirectiveForm.kind DirectiveKind.withName
  cases stated : form.stated with
  | none => cases form.name <;> simp
  | some kind =>
    have other : kind ≠ .bare := by
      rintro rfl
      exact absurd (known .bare stated) (by decide)
    simp [other]

/-- Words are read as a directive just when they are the parts of one, and what is read is what the
parts say. -/
theorem readWords_eq_ok_iff {words : List String} {kind : DirectiveKind} {name : Option String}
    {attributes : Attributes} :
    readWords words = .ok (kind, name, attributes) ↔
      ∃ form : DirectiveForm, form.Spells words ∧ kind = form.kind ∧ name = form.name ∧
        attributes = .ofList form.attributes := by
  rw [readWords_eq]
  constructor
  · intro h
    obtain ⟨read, start, behind⟩ := exists_of_bind_eq_ok h
    obtain ⟨given, rest, same⟩ := exists_of_map_eq_ok behind
    obtain ⟨rfl, rfl, rfl⟩ := by simpa using same
    obtain ⟨stated, split, first, known, unstated, stands⟩ := exists_head words
    obtain ⟨identifier, kind, named⟩ := readHead_eq_ok_iff.mp start
    obtain ⟨as, written, allowed, distinct, rfl⟩ := readAttributes_eq_ok_iff.mp rest
    let form : DirectiveForm := ⟨stated, (headOf words).2.1, as, (headOf words).2.2⟩
    have formKind : form.kind = (stated.getD .bare).withName (headOf words).2.1 :=
      kind_eq_withName known
    obtain rfl : read = form.kind := by rw [kind, first, formKind]
    refine ⟨form, ?_, rfl, rfl, rfl⟩
    refine ⟨split, known, unstated, ?_, named, written, allowed, distinct⟩
    intro name given
    obtain ⟨noColon, notFlag⟩ := standsForName_eq_true_iff.mp (stands name given)
    exact ⟨noColon, notFlag, identifier name given⟩
  · intro spelled
    obtain ⟨form, spells, rfl, rfl, rfl⟩ := spelled
    have head : headOf words = (form.stated.getD .bare, form.name, form.attributeWords) := by
      refine headOf_eq spells.split spells.stated spells.unstated ?_ ?_
      · intro name given
        obtain ⟨noColon, notFlag, -⟩ := spells.name name given
        exact standsForName_eq_true_iff.mpr ⟨noColon, notFlag⟩
      · intro word first
        obtain ⟨rest, same⟩ := List.head?_eq_some_iff.mp first
        have written := spells.written
        rw [same] at written
        obtain ⟨a, -, spelled, -⟩ := List.forall₂_cons_right_iff.mp written
        exact standsForName_of_written spelled
    have start : readHead (form.stated.getD .bare) form.name = .ok form.kind :=
      readHead_eq_ok_iff.mpr ⟨fun name given => (spells.name name given).2.2,
        kind_eq_withName spells.stated, spells.named⟩
    have rest := readAttributes_eq_ok_iff.mpr
      ⟨form.attributes, spells.written, spells.allowed, spells.distinct, rfl⟩
    rw [head]
    simp only [start]
    change (readAttributes form.kind .empty form.attributeWords).map _ = _
    rw [rest]
    rfl

/-- The words of a comment that is read as a directive are the parts of one. -/
theorem exists_form_of_directive {comment : Comment} {marker : String} {d : Directive}
    (read : comment.directive marker = .ok d) :
    ∃ form : DirectiveForm, form.Spells (directiveWords marker comment.text.toList) ∧
      d = form.directive ⟨comment.filename, comment.startLine⟩ := by
  unfold Comment.directive at read
  obtain ⟨⟨kind, name, attributes⟩, words, rfl⟩ := exists_of_map_eq_ok read
  obtain ⟨form, spells, rfl, rfl, rfl⟩ := readWords_eq_ok_iff.mp words
  exact ⟨form, spells, rfl⟩

/-- A comment is read as a directive just when its words are the parts of one. What is read is what
they say, and it has its place where the comment begins. -/
theorem directive_eq_ok_iff_exists_form {comment : Comment} {marker : String} {d : Directive} :
    comment.directive marker = .ok d ↔
      ∃ form : DirectiveForm, form.Spells (directiveWords marker comment.text.toList) ∧
        d = form.directive ⟨comment.filename, comment.startLine⟩ := by
  refine ⟨exists_form_of_directive, ?_⟩
  intro spelled
  obtain ⟨form, spells, rfl⟩ := spelled
  rw [Comment.directive, readWords_eq_ok_iff.mpr ⟨form, spells, rfl, rfl, rfl⟩]
  rfl

end AnnotatedTests
