import Mathlib.Data.List.Basic
import Mathlib.Data.List.Induction
import Mathlib.Data.List.Nodup

/-! Lists that are read from the left, so that what an element means depends on those before
it. -/
namespace AnnotatedTests

variable {α β : Type}

/-- The elements of a list, each with those before it; `seen` stands before all of them. -/
def withPriorFrom (seen : List α) : List α → List (List α × α)
  | [] => []
  | a :: rest => (seen, a) :: withPriorFrom (seen ++ [a]) rest

/-- The elements of a list, each with those before it. -/
def withPrior (xs : List α) : List (List α × α) :=
  withPriorFrom [] xs

theorem withPriorFrom_append (seen xs ys : List α) :
    withPriorFrom seen (xs ++ ys) = withPriorFrom seen xs ++ withPriorFrom (seen ++ xs) ys := by
  induction xs generalizing seen with
  | nil => simp [withPriorFrom]
  | cons x xs ih => simp [withPriorFrom, ih]

@[simp]
theorem withPrior_nil : withPrior ([] : List α) = [] := rfl

@[simp]
theorem withPrior_concat (xs : List α) (x : α) :
    withPrior (xs ++ [x]) = withPrior xs ++ [(xs, x)] := by
  simp [withPrior, withPriorFrom_append, withPriorFrom]

theorem mem_withPriorFrom {seen prior xs : List α} {a : α} :
    (prior, a) ∈ withPriorFrom seen xs ↔
      ∃ before later, prior = seen ++ before ∧ xs = before ++ a :: later := by
  induction xs generalizing seen with
  | nil => simp [withPriorFrom]
  | cons x xs ih =>
    rw [withPriorFrom, List.mem_cons, ih]
    -- the element is the first one, or else the first one stands before it
    constructor
    · intro either
      rcases either with first | ⟨before, later, rfl, rfl⟩
      · obtain ⟨rfl, rfl⟩ := Prod.mk.inj first
        exact ⟨[], xs, by simp, rfl⟩
      · exact ⟨x :: before, later, by simp, rfl⟩
    · intro cut
      obtain ⟨before, later, rfl, split⟩ := cut
      cases before with
      | nil =>
        obtain ⟨rfl, rfl⟩ := List.cons.inj split
        exact Or.inl (by simp)
      | cons b before =>
        obtain ⟨rfl, rest⟩ := List.cons.inj split
        exact Or.inr ⟨before, later, by simp, rest⟩

/-- What stands before an element is where the list is cut. -/
theorem mem_withPrior {prior xs : List α} {a : α} :
    (prior, a) ∈ withPrior xs ↔ ∃ later, xs = prior ++ a :: later := by
  rw [withPrior, mem_withPriorFrom]
  constructor
  · intro cut
    obtain ⟨before, later, rfl, split⟩ := cut
    exact ⟨later, by simpa using split⟩
  · intro cut
    obtain ⟨later, split⟩ := cut
    exact ⟨prior, later, by simp, split⟩

theorem mem_of_mem_withPrior {prior xs : List α} {a : α} (h : (prior, a) ∈ withPrior xs) :
    a ∈ xs := by
  obtain ⟨later, rfl⟩ := mem_withPrior.mp h
  simp

/-- Behind a list with one more element, something holds of that element or of an earlier one. -/
theorem exists_mem_withPrior_concat {xs : List α} {x : α} {p : List α → α → Prop} :
    (∃ prior a, (prior, a) ∈ withPrior (xs ++ [x]) ∧ p prior a) ↔
      (∃ prior a, (prior, a) ∈ withPrior xs ∧ p prior a) ∨ p xs x := by
  constructor
  · intro h
    obtain ⟨prior, a, ha, holds⟩ := h
    rw [withPrior_concat, List.mem_append, List.mem_singleton] at ha
    rcases ha with earlier | last
    · exact Or.inl ⟨prior, a, earlier, holds⟩
    · obtain ⟨rfl, rfl⟩ := Prod.mk.inj last
      exact Or.inr holds
  · intro h
    rcases h with ⟨prior, a, earlier, holds⟩ | last
    · exact ⟨prior, a, by simp [earlier], holds⟩
    · exact ⟨xs, x, by simp, last⟩

theorem map_snd_withPrior (xs : List α) : (withPrior xs).map Prod.snd = xs := by
  induction xs using List.reverseRecOn with
  | nil => rfl
  | append_singleton xs x ih => simp [ih]

/-- The elements that are the first ones of their key. -/
def firsts (key : α → β) [DecidableEq β] (xs : List α) : List α :=
  ((withPrior xs).filter fun p => key p.2 ∉ p.1.map key).map Prod.snd

section Firsts
variable (key : α → β) [DecidableEq β]

@[simp]
theorem firsts_nil : firsts key [] = [] := rfl

theorem firsts_concat (xs : List α) (x : α) :
    firsts key (xs ++ [x]) = firsts key xs ++ if key x ∈ xs.map key then [] else [x] := by
  rw [firsts, withPrior_concat, List.filter_append, List.map_append]
  by_cases h : key x ∈ xs.map key
  · simp only [List.filter_cons, h, not_true_eq_false, decide_false, List.filter_nil, if_true]
    rfl
  · simp only [List.filter_cons, h, not_false_eq_true, decide_true, List.filter_nil, if_true,
      if_false]
    rfl

/-- The keys of the first elements are the first ones among all keys. -/
theorem map_firsts (xs : List α) : (firsts key xs).map key = firsts id (xs.map key) := by
  induction xs using List.reverseRecOn with
  | nil => rfl
  | append_singleton xs x ih =>
    rw [firsts_concat, List.map_append, List.map_append, List.map_singleton, firsts_concat, ih]
    by_cases known : key x ∈ xs.map key <;> simp only [known, List.map_id, id_eq, if_true,
      if_false, List.map_nil, List.map_singleton]

theorem mem_map_firsts {xs : List α} {k : β} :
    k ∈ (firsts key xs).map key ↔ k ∈ xs.map key := by
  induction xs using List.reverseRecOn with
  | nil => simp
  | append_singleton xs x ih =>
    rw [firsts_concat, List.map_append, List.mem_append, ih, List.map_append, List.mem_append]
    -- a last element whose key is not new is dropped, and so is its key
    by_cases h : key x ∈ xs.map key
    · have absorbed : k = key x → k ∈ xs.map key := fun e => e ▸ h
      simpa [h] using absorbed
    · simp [h]

theorem nodup_map_firsts (xs : List α) : ((firsts key xs).map key).Nodup := by
  induction xs using List.reverseRecOn with
  | nil => simp
  | append_singleton xs x ih =>
    rw [firsts_concat]
    by_cases h : key x ∈ xs.map key
    · simpa [h] using ih
    · rw [if_neg h, List.map_append, List.nodup_append]
      refine ⟨ih, by simp, ?_⟩
      intro a ha b hb
      rw [List.map_singleton, List.mem_singleton] at hb
      rintro rfl
      exact h (hb ▸ (mem_map_firsts key).mp ha)

theorem mem_of_mem_firsts {xs : List α} {x : α} (h : x ∈ firsts key xs) : x ∈ xs := by
  obtain ⟨p, hp, rfl⟩ := List.mem_map.mp h
  exact mem_of_mem_withPrior (List.mem_filter.mp hp).1

end Firsts

end AnnotatedTests
