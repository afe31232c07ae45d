import AnnotatedTests.Proofs.Shapes
import AnnotatedTests.Source.Scan

/-! The functions that a text defines outside of all braces. They are those of its leftmost
declaration shapes that have a body and before which as many braces are closed as are opened. In a
text that closes no brace before it has opened one, that is to say that no brace is open there. -/
namespace AnnotatedTests

/-- Whether a text closes no brace that it has not opened. -/
def NeverOvercloses (text : List Char) : Prop :=
  ∀ n, (text.take n).count '\x7d' ≤ (text.take n).count '\x7b'

/-- Whether a brace is open at an offset of a text: it is opened before the offset, and all that is
closed behind it is opened behind it. -/
def InsideBrace (text : List Char) (offset : Nat) : Prop :=
  ∃ i < offset, text[i]? = some '\x7b' ∧ NeverOvercloses ((text.take offset).drop (i + 1))

/-- Whether as many braces are opened as closed before an offset of a text. -/
def BalancedBefore (text : List Char) (offset : Nat) : Prop :=
  (text.take offset).count '\x7b' = (text.take offset).count '\x7d'

/-- It is enough to look at the beginnings that are no longer than the text. -/
theorem neverOvercloses_iff_forall_le {text : List Char} :
    NeverOvercloses text ↔
      ∀ n ≤ text.length, (text.take n).count '\x7d' ≤ (text.take n).count '\x7b' := by
  refine ⟨fun h n _ => h n, fun within n => ?_⟩
  have short := within (min n text.length) (Nat.min_le_right _ _)
  rwa [← List.take_eq_take_min] at short

instance : DecidablePred NeverOvercloses := fun _ =>
  decidable_of_iff' _ neverOvercloses_iff_forall_le

instance (text : List Char) : DecidablePred (InsideBrace text) := fun offset =>
  inferInstanceAs (Decidable (∃ i < offset, _))

instance (text : List Char) : DecidablePred (BalancedBefore text) := fun _ =>
  inferInstanceAs (Decidable (_ = _))

section Braces
variable {text : List Char} {offset : Nat}

theorem neverOvercloses_iff : NeverOvercloses text ↔ ∀ n, 0 ≤ braceBalance (text.take n) := by
  refine forall_congr' fun n => ?_
  rw [braceBalance_eq]
  omega

theorem balancedBefore_iff : BalancedBefore text offset ↔ braceBalance (text.take offset) = 0 := by
  rw [BalancedBefore, braceBalance_eq]
  omega

theorem NeverOvercloses.balance_nonneg (h : NeverOvercloses text) : 0 ≤ braceBalance text := by
  have whole := neverOvercloses_iff.mp h text.length
  rwa [List.take_length] at whole

theorem insideBrace_iff_exists_append :
    InsideBrace text offset ↔
      ∃ before inner, text.take offset = before ++ '\x7b' :: inner ∧ NeverOvercloses inner := by
  constructor
  · rintro ⟨i, early, opens, closed⟩
    have here : (text.take offset)[i]? = some '\x7b' := by rwa [List.getElem?_take_of_lt early]
    obtain ⟨inText, same⟩ := List.getElem?_eq_some_iff.mp here
    refine ⟨(text.take offset).take i, (text.take offset).drop (i + 1), ?_, closed⟩
    rw [← same, List.getElem_cons_drop, List.take_append_drop]
  · rintro ⟨before, inner, split, closed⟩
    have early : before.length < offset := by
      have length := congrArg List.length split
      simp only [List.length_take, List.length_append, List.length_cons] at length
      omega
    refine ⟨before.length, early, ?_, ?_⟩
    · rw [← List.getElem?_take_of_lt early, split]
      simp
    · rw [split]
      simpa using closed

/-- A text that opens more braces than it closes leaves one of them open. -/
theorem exists_open_of_balance_pos (h : 0 < braceBalance text) :
    ∃ before inner, text = before ++ '\x7b' :: inner ∧ NeverOvercloses inner := by
  -- on the length: a first brace that is closed again is left out with all that it encloses
  induction hn : text.length using Nat.strong_induction_on generalizing text with
  | _ n ih =>
    cases text with
    | nil => simp [braceBalance] at h
    | cons c rest =>
      -- one that a shorter end of the text leaves open is left open by the text
      have behind {skipped shorter : List Char} (split : rest = skipped ++ shorter)
          (positive : 0 < braceBalance shorter) :
          ∃ before inner, c :: rest = before ++ '\x7b' :: inner ∧ NeverOvercloses inner := by
        have less : shorter.length < n := by
          rw [← hn, split, List.length_cons, List.length_append]
          omega
        obtain ⟨before, inner, cut, closed⟩ := ih shorter.length less positive rfl
        exact ⟨c :: (skipped ++ before), inner, by rw [split, cut]; simp, closed⟩
      rw [braceBalance] at h
      by_cases opens : c = '\x7b'
      · by_cases closed : NeverOvercloses rest
        · exact ⟨[], rest, by rw [opens]; rfl, closed⟩
        · obtain ⟨k, negative⟩ : ∃ k, braceBalance (rest.take k) < 0 := by
            simpa [neverOvercloses_iff] using closed
          have halves := braceBalance_append (rest.take k) (rest.drop k)
          have first : braceStep c = 1 := by rw [opens]; rfl
          rw [List.take_append_drop] at halves
          exact behind (List.take_append_drop k rest).symm (by omega)
      · have first : braceStep c ≤ 0 := by
          rw [braceStep, if_neg opens]
          split_ifs <;> decide
        exact behind (List.nil_append rest).symm (by omega)

/-- In a text that closes no brace that it has not opened, some brace is open at an offset just when
not as many are closed as opened before it. -/
theorem NeverOvercloses.balanced_iff_outside (h : NeverOvercloses text) :
    BalancedBefore text offset ↔ ¬ InsideBrace text offset := by
  rw [balancedBefore_iff, insideBrace_iff_exists_append]
  constructor
  · rintro balanced ⟨before, inner, split, closed⟩
    -- neither what stands before the open brace nor what stands behind it makes up for it
    have beginning : before = text.take before.length := by
      have cut := congrArg (List.take before.length) split
      have early := congrArg List.length split
      simp only [List.length_take, List.length_append, List.length_cons] at early
      rw [List.take_left, List.take_take, Nat.min_eq_left (by omega)] at cut
      exact cut.symm
    have outer : 0 ≤ braceBalance before := by
      rw [beginning]
      exact neverOvercloses_iff.mp h _
    have own : braceBalance ('\x7b' :: inner) = 1 + braceBalance inner := rfl
    have within := closed.balance_nonneg
    rw [split, braceBalance_append, own] at balanced
    omega
  · intro outside
    by_contra unbalanced
    have nonneg := neverOvercloses_iff.mp h offset
    exact outside (exists_open_of_balance_pos (by omega))

end Braces

/-- The functions that shapes declare, in their order. A shape that declares none is passed over. -/
def declaredBy (source : List Char) (filename : String) (shapes : List Found) : List Declaration :=
  shapes.filterMap fun found => found.shape.declaration? ⟨filename, lineAt source found.offset⟩

/-- The search counts the braces before a shape. -/
theorem definitionsOf_eq_declaredBy (source code : List Char) (filename : String) :
    definitionsOf source code filename =
      declaredBy source filename ((shapes code).filter fun found =>
        found.shape.defined = true ∧ BalancedBefore code found.offset) := by
  have outside : ∀ found ∈ shapes code, (found.depth == 0 && found.shape.defined) =
      decide (found.shape.defined = true ∧ BalancedBefore code found.offset) := by
    intro found hf
    obtain ⟨-, depth⟩ := Found.standsIn_iff.mp ((leftmost_shapes code).stand found hf)
    rw [Bool.eq_iff_iff, decide_eq_true_iff, balancedBefore_iff, ← depth]
    simp [and_comm]
  rw [definitionsOf, declaredBy, List.filter_congr outside]

/-- A text has one list of leftmost shapes that do not overlap. Of these it defines, in their order,
the functions of those with a body before which as many braces are opened as closed. If it closes no
brace that it has not opened, they are those with a body inside of no open brace. -/
theorem definitionsOf_of_leftmost (source code : List Char) (filename : String) :
    (∃! found, Leftmost code 0 found) ∧
      ∀ found, Leftmost code 0 found →
        definitionsOf source code filename = declaredBy source filename
            (found.filter fun x => x.shape.defined = true ∧ BalancedBefore code x.offset) ∧
          (NeverOvercloses code →
            definitionsOf source code filename = declaredBy source filename
              (found.filter fun x => x.shape.defined = true ∧ ¬ InsideBrace code x.offset)) := by
  have unique : ∃! found, Leftmost code 0 found :=
    ⟨shapes code, leftmost_shapes code, fun others ho => ho.eq (leftmost_shapes code)⟩
  refine ⟨unique, fun found leftmost => ?_⟩
  obtain rfl : found = shapes code := leftmost.eq (leftmost_shapes code)
  have balanced := definitionsOf_eq_declaredBy source code filename
  refine ⟨balanced, fun closed => ?_⟩
  simpa only [closed.balanced_iff_outside] using balanced

/-- A text with a function inside of a structure, and with statements in the shape of
declarations. -/
def nestedCode : List Char :=
  ("int outer(int n) \x7b if (n) \x7b return inner(n); \x7d \x7d\n" ++
    "struct hooks \x7b void hook(int n) \x7b \x7d \x7d;\nvoid last(void) \x7b \x7d").toList

theorem definitionsOf_nestedCode :
    NeverOvercloses nestedCode ∧ ∃ found, Leftmost nestedCode 0 found ∧
      declaredBy nestedCode "hooks.c"
          (found.filter fun x => x.shape.defined = true ∧ ¬ InsideBrace nestedCode x.offset) =
        [⟨"outer", ["int"], "int", ⟨"hooks.c", 1⟩, true, false⟩,
          ⟨"last", [], "void", ⟨"hooks.c", 3⟩, true, false⟩] := by
  obtain ⟨⟨found, leftmost, -⟩, defined⟩ :=
    definitionsOf_of_leftmost nestedCode nestedCode "hooks.c"
  have closed : NeverOvercloses nestedCode := by decide +kernel
  have outside := (defined found leftmost).2 closed
  refine ⟨closed, found, leftmost, ?_⟩
  rw [← outside]
  decide +kernel

-- a brace that closes nothing makes up for one that is open, and a function inside of it is defined
example :
    let code := "\x7d struct hooks \x7b void hook(int n) \x7b \x7d \x7d;".toList
    InsideBrace code 17 ∧
      (definitionsOf code code "hooks.c").map Declaration.identifier = ["hook"] := by
  decide +kernel

end AnnotatedTests
