import AnnotatedTests.Proofs.Prior
import Mathlib.Data.List.Perm.Basic

/-! Lists that differ in the order of two neighbouring blocks, where no element of the one block has
to do with an element of the other. What is read off such lists differs in the same way, and a
reading that is after one key only is the same on both. -/
namespace AnnotatedTests

variable {α β κ : Type}

/-- Lists that differ in the order of two blocks only, where all elements of the first block are
`apart` from those of the second. -/
inductive Exchanged (apart : α → α → Prop) : List α → List α → Prop where
  | blocks {front a b back : List α} : (∀ x ∈ a, ∀ y ∈ b, apart x y) →
    Exchanged apart (front ++ (a ++ (b ++ back))) (front ++ (b ++ (a ++ back)))

/-- Whether what an element gives behind others is a matter of the others that have its key. -/
def ByKey [DecidableEq κ] (key : α → Option κ) (f : List α → α → β) : Prop :=
  ∀ seen other x,
    (∀ k, key x = some k →
      seen.filter (fun y => key y = some k) = other.filter fun y => key y = some k) →
    f seen x = f other x

theorem flatMap_withPriorFrom_congr {f : List α → α → List β} {seen other xs : List α}
    (same : ∀ before, ∀ x ∈ xs, f (seen ++ before) x = f (other ++ before) x) :
    ((withPriorFrom seen xs).flatMap fun p => f p.1 p.2) =
      (withPriorFrom other xs).flatMap fun p => f p.1 p.2 := by
  induction xs generalizing seen other with
  | nil => rfl
  | cons x xs ih =>
    -- behind the first element both lists go on from one that ends in it
    have first : f seen x = f other x := by simpa using same [] x List.mem_cons_self
    have later : ∀ before, ∀ y ∈ xs,
        f (seen ++ [x] ++ before) y = f (other ++ [x] ++ before) y := by
      intro before y hy
      simpa using same (x :: before) y (List.mem_cons_of_mem _ hy)
    rw [withPriorFrom, withPriorFrom, List.flatMap_cons, List.flatMap_cons, first, ih later]

/-- An element is among the first ones of their keys if none before it has its key. -/
theorem firsts_eq_filterMap [DecidableEq κ] (key : α → κ) (xs : List α) :
    firsts key xs =
      (withPrior xs).filterMap fun p => if key p.2 ∈ p.1.map key then none else some p.2 := by
  induction xs using List.reverseRecOn with
  | nil => rfl
  | append_singleton xs x ih =>
    rw [firsts_concat, ih, withPrior_concat, List.filterMap_append]
    by_cases known : key x ∈ xs.map key <;> simp only [known, List.filterMap_cons,
      List.filterMap_nil, if_true, if_false]

namespace Exchanged
variable {apart : α → α → Prop} {apart' : β → β → Prop} {xs ys : List α}

theorem perm (h : Exchanged apart xs ys) : xs.Perm ys := by
  cases h with
  | blocks _ => exact (List.perm_append_comm_assoc _ _ _).append_left _

theorem flatMap {f : α → List β} (h : Exchanged apart xs ys)
    (keeps : ∀ x y, apart x y → ∀ u ∈ f x, ∀ v ∈ f y, apart' u v) :
    Exchanged apart' (xs.flatMap f) (ys.flatMap f) := by
  cases h with
  | blocks separate =>
    simp only [List.flatMap_append]
    refine .blocks ?_
    intro u hu v hv
    obtain ⟨x, hx, hu⟩ := List.mem_flatMap.mp hu
    obtain ⟨y, hy, hv⟩ := List.mem_flatMap.mp hv
    exact keeps x y (separate x hx y hy) u hu v hv

theorem filterMap {f : α → Option β} (h : Exchanged apart xs ys)
    (keeps : ∀ x y u v, apart x y → f x = some u → f y = some v → apart' u v) :
    Exchanged apart' (xs.filterMap f) (ys.filterMap f) := by
  rw [List.filterMap_eq_flatMap_toList, List.filterMap_eq_flatMap_toList]
  refine h.flatMap ?_
  intro x y separate u hu v hv
  exact keeps x y u v separate (Option.mem_toList.mp hu) (Option.mem_toList.mp hv)

/-- A reading that finds something in one block at most does not see the exchange. -/
theorem filterMap_eq {f : α → Option β} (h : Exchanged apart xs ys)
    (oneSide : ∀ x y u, apart x y → f x = some u → f y = none) :
    xs.filterMap f = ys.filterMap f := by
  cases h with
  | @blocks front a b back separate =>
    simp only [List.filterMap_append]
    -- if the first block is read at all, then the second one is not
    by_cases silent : a.filterMap f = []
    · simp [silent]
    · obtain ⟨u, hu⟩ := List.exists_mem_of_ne_nil _ silent
      obtain ⟨x, hx, found⟩ := List.mem_filterMap.mp hu
      have other : b.filterMap f = [] :=
        List.filterMap_eq_nil_iff.mpr fun y hy => oneSide x y u (separate x hx y hy) found
      simp [other]

theorem filter_eq {p : α → Bool} (h : Exchanged apart xs ys)
    (oneSide : ∀ x y, apart x y → p x = true → p y = false) : xs.filter p = ys.filter p := by
  rw [← List.filterMap_eq_filter]
  refine h.filterMap_eq ?_
  intro x y u separate found
  have holds : p x = true := (Option.guard_eq_some_iff.mp found).2
  simp [oneSide x y separate holds]

/-- The elements of one key are in one block at most, so that their order is the same. -/
theorem filter_key_eq [DecidableEq κ] {key : α → κ} (h : Exchanged apart xs ys)
    (keyed : ∀ x y, apart x y → key x ≠ key y) (k : κ) :
    xs.filter (fun x => key x = k) = ys.filter fun x => key x = k := by
  refine h.filter_eq ?_
  intro x y separate own
  have own : key x = k := of_decide_eq_true own
  simpa [← own] using (keyed x y separate).symm

/-- What each element gives behind those before it is exchanged as the elements are, if elements of
different blocks have different keys and each reads no key but its own. -/
theorem flatMap_withPrior [DecidableEq κ] {key : α → Option κ} {f : List α → α → List β}
    (h : Exchanged apart xs ys) (reads : ByKey key f)
    (keyed : ∀ x y k, apart x y → key x = some k → key y ≠ some k)
    (keeps : ∀ x y seen other, apart x y → ∀ u ∈ f seen x, ∀ v ∈ f other y, apart' u v) :
    Exchanged apart' ((withPrior xs).flatMap fun p => f p.1 p.2)
      ((withPrior ys).flatMap fun p => f p.1 p.2) := by
  cases h with
  | @blocks front a b back separate =>
    have absent {c : List α} {k : κ} (others : ∀ x ∈ c, key x ≠ some k) :
        c.filter (fun y => key y = some k) = [] :=
      List.filter_eq_nil_iff.mpr fun x hx => by simpa using others x hx
    -- neither block reads the other one, and behind both of them their order is not seen
    have behindA : ((withPriorFrom (front ++ a) b).flatMap fun p => f p.1 p.2) =
        (withPriorFrom front b).flatMap fun p => f p.1 p.2 := by
      refine flatMap_withPriorFrom_congr fun before y hy => reads _ _ y fun k hk => ?_
      have foreign := absent fun x hx found => keyed x y k (separate x hx y hy) found hk
      simp [foreign]
    have behindB : ((withPriorFrom (front ++ b) a).flatMap fun p => f p.1 p.2) =
        (withPriorFrom front a).flatMap fun p => f p.1 p.2 := by
      refine flatMap_withPriorFrom_congr fun before x hx => reads _ _ x fun k hk => ?_
      have foreign := absent fun y hy => keyed x y k (separate x hx y hy) hk
      simp [foreign]
    have behindBoth : ((withPriorFrom (front ++ b ++ a) back).flatMap fun p => f p.1 p.2) =
        (withPriorFrom (front ++ a ++ b) back).flatMap fun p => f p.1 p.2 := by
      refine flatMap_withPriorFrom_congr fun before z hz => reads _ _ z fun k hk => ?_
      have shorter : Exchanged apart (front ++ (a ++ (b ++ before)))
          (front ++ (b ++ (a ++ before))) :=
        .blocks separate
      have same := shorter.filter_eq (p := fun y => key y = some k) fun x y different found => by
        simpa using keyed x y k different (of_decide_eq_true found)
      simpa using same.symm
    simp only [withPrior, withPriorFrom_append, List.flatMap_append, List.nil_append, behindA,
      behindB, behindBoth]
    refine .blocks ?_
    intro u hu v hv
    obtain ⟨⟨seen, x⟩, hx, hu⟩ := List.mem_flatMap.mp hu
    obtain ⟨⟨other, y⟩, hy, hv⟩ := List.mem_flatMap.mp hv
    obtain ⟨_, _, -, inA⟩ := mem_withPriorFrom.mp hx
    obtain ⟨_, _, -, inB⟩ := mem_withPriorFrom.mp hy
    exact keeps x y seen other (separate x (by simp [inA]) y (by simp [inB])) u hu v hv

theorem filterMap_withPrior [DecidableEq κ] {key : α → Option κ} {f : List α → α → Option β}
    (h : Exchanged apart xs ys) (reads : ByKey key f)
    (keyed : ∀ x y k, apart x y → key x = some k → key y ≠ some k)
    (keeps : ∀ x y seen other u v, apart x y → f seen x = some u → f other y = some v →
      apart' u v) :
    Exchanged apart' ((withPrior xs).filterMap fun p => f p.1 p.2)
      ((withPrior ys).filterMap fun p => f p.1 p.2) := by
  rw [List.filterMap_eq_flatMap_toList, List.filterMap_eq_flatMap_toList]
  refine h.flatMap_withPrior (f := fun seen x => (f seen x).toList) ?_ keyed ?_
  · intro seen other x same
    exact congrArg Option.toList (reads seen other x same)
  · intro x y seen other separate u hu v hv
    exact keeps x y seen other u v separate (Option.mem_toList.mp hu) (Option.mem_toList.mp hv)

theorem filterMap_withPrior_perm [DecidableEq κ] {key : α → Option κ}
    {f : List α → α → Option β} (h : Exchanged apart xs ys) (reads : ByKey key f)
    (keyed : ∀ x y k, apart x y → key x = some k → key y ≠ some k) :
    ((withPrior xs).filterMap fun p => f p.1 p.2).Perm
      ((withPrior ys).filterMap fun p => f p.1 p.2) := by
  have exchanged : Exchanged (fun _ _ : β => True) ((withPrior xs).filterMap fun p => f p.1 p.2)
      ((withPrior ys).filterMap fun p => f p.1 p.2) :=
    h.filterMap_withPrior reads keyed fun _ _ _ _ _ _ _ _ _ => trivial
  exact exchanged.perm

/-- The first ones of their keys are exchanged as the elements are, if different blocks have
different keys. -/
theorem firsts [DecidableEq κ] {key : α → κ} (h : Exchanged apart xs ys)
    (keyed : ∀ x y, apart x y → key x ≠ key y) :
    Exchanged apart (AnnotatedTests.firsts key xs) (AnnotatedTests.firsts key ys) := by
  rw [firsts_eq_filterMap, firsts_eq_filterMap]
  have reads : ByKey (fun x => some (key x))
      fun seen x => if key x ∈ seen.map key then none else some x := by
    intro seen other x same
    have occurs (zs : List α) :
        key x ∈ zs.map key ↔ zs.filter (fun y => some (key y) = some (key x)) ≠ [] := by
      simp [List.filter_eq_nil_iff]
    simp only [occurs, same (key x) rfl]
  refine h.filterMap_withPrior reads ?_ ?_
  · intro x y k separate hx hy
    exact keyed x y separate (Option.some.inj (hx.trans hy.symm))
  · intro x y seen other u v separate hu hv
    obtain ⟨-, rfl⟩ : key x ∉ seen.map key ∧ x = u := by simpa using hu
    obtain ⟨-, rfl⟩ : key y ∉ other.map key ∧ y = v := by simpa using hv
    exact separate

end Exchanged

end AnnotatedTests
