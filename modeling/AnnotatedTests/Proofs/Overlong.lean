import AnnotatedTests.Directive.Parse
import Mathlib.Data.List.Basic

/-! Numerals that are too long. Nothing but the numeral of a timeout keeps the words of a directive
from being either read or found malformed, and only where a shorter one could stand. -/
namespace AnnotatedTests

def timeoutWord (digits : List Char) : String :=
  String.ofList ("timeout".toList ++ ':' :: digits)

/-- Whether some words give a timeout by too long a row of digits, and would be read up to there if
the row were short. -/
def Overlong (words : List String) (digits : List Char) : Prop :=
  ∃ before after, words = before ++ timeoutWord digits :: after ∧
    (∀ c ∈ digits, isAsciiDigit c = true) ∧ maxNumeralDigits < digits.length ∧
    ∃ read, readWords (before ++ [timeoutWord ['1']]) = .ok read

/-- What a directive says before its attributes, and the words of these. -/
def headOf (words : List String) : DirectiveKind × Option String × List String :=
  ((takeKind words).1, takeName (takeKind words).2)

def readHead (stated : DirectiveKind) (name : Option String) :
    Except DirectiveFailure DirectiveKind :=
  if !(name.all fun word => isIdentifier word.toList) then
    .error (.malformed (.invalidName (name.getD "")))
  else if stated.withName name = .group ∧ name.isNone then .error (.malformed .groupWithoutName)
  else .ok (stated.withName name)

theorem readWords_eq (words : List String) :
    readWords words =
      (readHead (headOf words).1 (headOf words).2.1).bind fun kind =>
        (readAttributes kind .empty (headOf words).2.2).map fun attributes =>
          (kind, (headOf words).2.1, attributes) := by
  unfold readWords readHead headOf
  rcases takeKind words with ⟨stated, afterKind⟩
  rcases htake : takeName afterKind with ⟨name, afterName⟩
  simp only [htake]
  split_ifs <;> rfl

theorem readHead_ne_numeralTooLong (stated : DirectiveKind) (name : Option String)
    (digits : Nat) : readHead stated name ≠ .error (.numeralTooLong digits) := by
  unfold readHead
  split_ifs <;> simp

theorem ofWord?_eq_none_of_colon {word : String} (h : ':' ∈ word.toList) :
    DirectiveKind.ofWord? word = none := by
  unfold DirectiveKind.ofWord?
  split <;> first | rfl | exact absurd h (by decide)

theorem standsForName_of_colon {word : String} (h : ':' ∈ word.toList) :
    standsForName word = false := by
  simp [standsForName, h]

/-- A word with a colon ends the head of a directive, if it has not ended before. -/
theorem headOf_append {word : String} (h : ':' ∈ word.toList) (before after : List String) :
    headOf (before ++ word :: after) =
      ((headOf before).1, (headOf before).2.1, (headOf before).2.2 ++ word :: after) := by
  have noKind := ofWord?_eq_none_of_colon h
  have noName := standsForName_of_colon h
  have named (words : List String) : takeName (words ++ word :: after) =
      ((takeName words).1, (takeName words).2 ++ word :: after) := by
    cases words with
    | nil => simp [takeName, noName]
    | cons first rest => by_cases stands : standsForName first = true <;> simp [takeName, stands]
  unfold headOf
  cases before with
  | nil => simp [takeKind, noKind, takeName, noName]
  | cons first rest =>
    cases stated : DirectiveKind.ofWord? first with
    | some kind => simp [takeKind, stated, named]
    | none =>
      have whole := named (first :: rest)
      rw [List.cons_append] at whole
      simp [takeKind, stated, whole]

theorem exists_eq_append_headOf (words : List String) :
    ∃ head, words = head ++ (headOf words).2.2 := by
  have named (words : List String) : ∃ head, words = head ++ (takeName words).2 := by
    cases words with
    | nil => exact ⟨[], rfl⟩
    | cons first rest =>
      by_cases stands : standsForName first = true
      · exact ⟨[first], by simp [takeName, stands]⟩
      · exact ⟨[], by simp [takeName, stands]⟩
  obtain ⟨kind, hk⟩ : ∃ kind, words = kind ++ (takeKind words).2 := by
    cases words with
    | nil => exact ⟨[], rfl⟩
    | cons first rest =>
      cases stated : DirectiveKind.ofWord? first with
      | some kind => exact ⟨[first], by simp [takeKind, stated]⟩
      | none => exact ⟨[], by simp [takeKind, stated]⟩
  obtain ⟨name, hn⟩ := named (takeKind words).2
  refine ⟨kind ++ name, ?_⟩
  rw [headOf, List.append_assoc, ← hn, ← hk]

theorem readAttributes_append (kind : DirectiveKind) (given : Attributes)
    (words more : List String) :
    readAttributes kind given (words ++ more) =
      (readAttributes kind given words).bind fun read => readAttributes kind read more := by
  induction words generalizing given with
  | nil => rfl
  | cons word rest ih =>
    rw [List.cons_append, readAttributes, readAttributes]
    cases given.add kind word with
    | ok read => exact ih read
    | error failure => rfl

/-- Attributes fail to be read with the failure of the first word that fails. -/
theorem readAttributes_eq_error_iff {kind : DirectiveKind} {given : Attributes}
    {words : List String} {failure : DirectiveFailure} :
    readAttributes kind given words = .error failure ↔
      ∃ before word after read, words = before ++ word :: after ∧
        readAttributes kind given before = .ok read ∧ read.add kind word = .error failure := by
  constructor
  · intro h
    induction words generalizing given with
    | nil => simp [readAttributes] at h
    | cons word rest ih =>
      rw [readAttributes] at h
      cases added : given.add kind word with
      | error other =>
        rw [added] at h
        obtain rfl : other = failure := by simpa [Except.bind] using h
        exact ⟨[], word, rest, given, rfl, rfl, added⟩
      | ok more =>
        rw [added] at h
        obtain ⟨before, next, after, read, rfl, readBefore, failed⟩ := ih h
        refine ⟨word :: before, next, after, read, rfl, ?_, failed⟩
        rw [readAttributes, added]
        exact readBefore
  · intro first
    obtain ⟨before, word, after, read, rfl, readBefore, failed⟩ := first
    rw [readAttributes_append, readBefore]
    change readAttributes kind read (word :: after) = .error failure
    rw [readAttributes, failed]
    rfl

theorem cutAtColon?_ofList {key : List Char} (h : ':' ∉ key) (value : List Char) :
    cutAtColon? (String.ofList (key ++ ':' :: value)) =
      some (String.ofList key, String.ofList value) := by
  have before : ∀ c ∈ key, decide (c ≠ ':') = true := by
    intro c hc
    simpa using fun same : c = ':' => h (same ▸ hc)
  rw [cutAtColon?, String.toList_ofList, List.takeWhile_append_of_pos before,
    List.dropWhile_append_of_pos before]
  simp

theorem eq_of_cutAtColon? {word key value : String} (h : cutAtColon? word = some (key, value)) :
    word = String.ofList (key.toList ++ ':' :: value.toList) := by
  have colon : ':' ∈ word.toList := by
    by_contra absent
    simp [cutAtColon?, absent] at h
  obtain ⟨before, behind, split, fresh⟩ := List.eq_append_cons_of_mem colon
  have whole : word = String.ofList (before ++ ':' :: behind) := by
    rw [← split, String.ofList_toList]
  rw [whole, cutAtColon?_ofList fresh] at h
  obtain ⟨rfl, rfl⟩ := Prod.mk.inj (Option.some.inj h)
  rw [String.toList_ofList, String.toList_ofList, whole]

theorem cutAtColon?_timeoutWord (digits : List Char) :
    cutAtColon? (timeoutWord digits) = some ("timeout", String.ofList digits) :=
  cutAtColon?_ofList (by decide) digits

theorem accept_eq_ok_iff {given : Attributes} {kind : DirectiveKind} {word : String}
    {key : AttributeKey} :
    given.accept kind word = .ok key ↔
      AttributeKey.ofWord? word = some key ∧ kind.allows key = true ∧ given.has key = false := by
  unfold Attributes.accept
  cases AttributeKey.ofWord? word with
  | none => simp
  | some known =>
    cases allowed : kind.allows known <;> cases had : given.has known <;>
      simp [allowed, had] <;> rintro rfl <;> simp [allowed, had]

theorem accept_ne_numeralTooLong (given : Attributes) (kind : DirectiveKind) (word : String)
    (digits : Nat) : given.accept kind word ≠ .error (.numeralTooLong digits) := by
  unfold Attributes.accept
  cases AttributeKey.ofWord? word with
  | none => simp
  | some known =>
    simp only
    split_ifs <;> simp

theorem word_of_ofWord? {word : String} {key : AttributeKey}
    (h : AttributeKey.ofWord? word = some key) : word = key.word := by
  unfold AttributeKey.ofWord? at h
  split at h <;> simp only [Option.some.injEq, reduceCtorEq] at h <;> subst h <;> rfl

theorem readTimeout_eq_numeralTooLong_iff {value : String} {digits : Nat} :
    readTimeout value = .error (.numeralTooLong digits) ↔
      (∀ c ∈ value.toList, isAsciiDigit c = true) ∧ maxNumeralDigits < value.toList.length ∧
        value.toList.length = digits := by
  unfold readTimeout
  by_cases numeral : ∀ c ∈ value.toList, isAsciiDigit c = true
  · have all : value.toList.all isAsciiDigit = true := List.all_eq_true.mpr numeral
    rw [and_iff_right numeral]
    simp only [all, Bool.not_true, Bool.false_eq_true, if_false]
    by_cases long : maxNumeralDigits < value.toList.length
    · simp [long]
    · rw [if_neg long]
      simp only [long, false_and, iff_false]
      split_ifs <;> simp
  · have other : value.toList.all isAsciiDigit = false := by
      rw [Bool.eq_false_iff, Ne, List.all_eq_true]
      exact numeral
    simp only [other, numeral, Bool.not_false, if_true, false_and, iff_false]
    simp

theorem map_readName_ne_numeralTooLong {β : Type} (key : AttributeKey) (value : String)
    (f : String → β) (digits : Nat) :
    (readName key value).map f ≠ .error (.numeralTooLong digits) := by
  unfold readName
  split_ifs <;> simp [Except.map]

/-- Only a timeout can have a value that is too long. -/
theorem assign_eq_numeralTooLong_iff {given : Attributes} {key : AttributeKey} {value : String}
    {digits : Nat} :
    given.assign key value = .error (.numeralTooLong digits) ↔
      key = .timeout ∧ (∀ c ∈ value.toList, isAsciiDigit c = true) ∧
        maxNumeralDigits < value.toList.length ∧ value.toList.length = digits := by
  unfold Attributes.assign
  by_cases blank : value = ""
  · simp [blank]
  · rw [if_neg blank]
    cases key with
    | timeout =>
      rw [← and_congr_right_iff.mpr fun _ => readTimeout_eq_numeralTooLong_iff]
      cases readTimeout value <;> simp [Except.map]
    | disabled => cases readTruth? value <;> simp
    | group => simp [map_readName_ne_numeralTooLong]
    | setup => simp [map_readName_ne_numeralTooLong]
    | teardown => simp [map_readName_ne_numeralTooLong]

theorem exists_add_short_iff {given : Attributes} {kind : DirectiveKind} :
    (∃ more, given.add kind (timeoutWord ['1']) = .ok more) ↔
      given.accept kind "timeout" = .ok .timeout := by
  unfold Attributes.add
  rw [cutAtColon?_timeoutWord]
  simp only
  cases accepted : given.accept kind "timeout" with
  | error failure => simp [Except.bind]
  | ok key =>
    have known : AttributeKey.timeout = key :=
      Option.some.inj (accept_eq_ok_iff.mp accepted).1
    subst known
    exact iff_of_true ⟨{ given with timeout := some 1 }, rfl⟩ rfl

/-- A word holds a numeral that is too long if it is a timeout and a short one could be given. -/
theorem add_eq_numeralTooLong_iff {given : Attributes} {kind : DirectiveKind} {word : String}
    {n : Nat} :
    given.add kind word = .error (.numeralTooLong n) ↔
      ∃ digits, word = timeoutWord digits ∧ (∀ c ∈ digits, isAsciiDigit c = true) ∧
        maxNumeralDigits < digits.length ∧ digits.length = n ∧
        ∃ more, given.add kind (timeoutWord ['1']) = .ok more := by
  simp only [exists_add_short_iff]
  constructor
  · intro h
    unfold Attributes.add at h
    cases cut : cutAtColon? word with
    | none =>
      simp only [cut] at h
      split_ifs at h with flag
      · cases accepted : given.accept kind word with
        | ok key => simp [accepted, Except.map] at h
        | error failure =>
          obtain rfl : failure = .numeralTooLong n := by simpa [accepted, Except.map] using h
          exact absurd accepted (accept_ne_numeralTooLong given kind word n)
      · simp at h
    | some parts =>
      obtain ⟨key, value⟩ := parts
      simp only [cut] at h
      cases accepted : given.accept kind key with
      | error failure =>
        obtain rfl : failure = .numeralTooLong n := by simpa [accepted, Except.bind] using h
        exact absurd accepted (accept_ne_numeralTooLong given kind key n)
      | ok known =>
        rw [accepted] at h
        obtain ⟨rfl, numeral, long, length⟩ := assign_eq_numeralTooLong_iff.mp h
        have named : key = "timeout" := word_of_ofWord? (accept_eq_ok_iff.mp accepted).1
        subst named
        exact ⟨value.toList, eq_of_cutAtColon? cut, numeral, long, length, accepted⟩
  · intro word
    obtain ⟨digits, rfl, numeral, long, length, accepted⟩ := word
    unfold Attributes.add
    rw [cutAtColon?_timeoutWord]
    simp only [accepted]
    apply assign_eq_numeralTooLong_iff.mpr
    rw [String.toList_ofList]
    exact ⟨rfl, numeral, long, length⟩

theorem toList_timeoutWord (digits : List Char) :
    (timeoutWord digits).toList = "timeout".toList ++ ':' :: digits :=
  String.toList_ofList

theorem colon_mem_timeoutWord (digits : List Char) : ':' ∈ (timeoutWord digits).toList := by
  rw [toList_timeoutWord]
  exact List.mem_append_right _ List.mem_cons_self

/-- Words fail with a numeral that is too long just when they give one where a short one could
stand. -/
theorem readWords_eq_numeralTooLong_iff {words : List String} {n : Nat} :
    readWords words = .error (.numeralTooLong n) ↔
      ∃ digits, Overlong words digits ∧ digits.length = n := by
  constructor
  · intro h
    rw [readWords_eq] at h
    cases start : readHead (headOf words).1 (headOf words).2.1 with
    | error failure =>
      obtain rfl : failure = .numeralTooLong n := by simpa [start, Except.bind] using h
      exact absurd start (readHead_ne_numeralTooLong _ _ n)
    | ok kind =>
      have failed : readAttributes kind .empty (headOf words).2.2 =
          .error (.numeralTooLong n) := by
        cases read : readAttributes kind .empty (headOf words).2.2 with
        | ok attributes => simp [start, read, Except.bind, Except.map] at h
        | error failure => simpa [start, read, Except.bind, Except.map] using h
      obtain ⟨middle, word, after, given, split, readMiddle, added⟩ :=
        readAttributes_eq_error_iff.mp failed
      obtain ⟨digits, rfl, numeral, long, length, more, short⟩ :=
        add_eq_numeralTooLong_iff.mp added
      obtain ⟨head, whole⟩ := exists_eq_append_headOf words
      rw [split, ← List.append_assoc] at whole
      -- the head of the words before the numeral is that of all of them
      have heads := headOf_append (colon_mem_timeoutWord digits) (head ++ middle) after
      rw [← whole] at heads
      have attributes : (headOf (head ++ middle)).2.2 = middle := by
        have same := congrArg (fun h => h.2.2) heads
        simp only [split] at same
        exact (List.append_cancel_right same).symm
      have shortened := headOf_append (colon_mem_timeoutWord ['1']) (head ++ middle) []
      refine ⟨digits, ⟨head ++ middle, after, whole, numeral, long, ?_⟩, length⟩
      rw [heads] at start
      refine ⟨(kind, (headOf (head ++ middle)).2.1, more), ?_⟩
      rw [readWords_eq, shortened]
      simp only [start, Except.bind, attributes, readAttributes_append, readMiddle]
      simp [readAttributes, short, Except.bind, Except.map]
  · intro long
    obtain ⟨digits, ⟨before, after, rfl, numeral, long, read, short⟩, length⟩ := long
    -- the long row and the short one stand behind the same head and the same attributes
    have heads := headOf_append (colon_mem_timeoutWord digits) before after
    have shortened := headOf_append (colon_mem_timeoutWord ['1']) before []
    rw [readWords_eq, shortened] at short
    rw [readWords_eq, heads]
    simp only at short ⊢
    cases start : readHead (headOf before).1 (headOf before).2.1 with
    | error failure => simp [start, Except.bind] at short
    | ok kind =>
      simp only [start, Except.bind, readAttributes_append] at short ⊢
      cases readBefore : readAttributes kind .empty (headOf before).2.2 with
      | error failure => simp [readBefore, Except.map] at short
      | ok given =>
        simp only [readBefore] at short ⊢
        cases added : given.add kind (timeoutWord ['1']) with
        | error failure => simp [readAttributes, added, Except.bind, Except.map] at short
        | ok more =>
          have failed := add_eq_numeralTooLong_iff.mpr
            ⟨digits, rfl, numeral, long, length, more, added⟩
          simp [readAttributes, failed, Except.bind, Except.map]

end AnnotatedTests
