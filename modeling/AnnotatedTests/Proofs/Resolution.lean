import AnnotatedTests.Proofs.Run

/-! What resolving references gives. The first reference to a function gives it its use, and what
is wrong with a reference depends on the symbols and on the references before it. -/
namespace AnnotatedTests
attribute [local irreducible] Comment.directive

/-- The use that references give to the function of a name: that of the first one. -/
def useOf (references : List Reference) (name : String) : Option Use :=
  (references.find? fun reference => reference.name == name).map fun reference =>
    ⟨reference.role, reference.place⟩

def Reference.problem? (symbols : SymbolTable) (prior : List Reference) (reference : Reference) :
    Option Problem :=
  match symbols.lookup? reference.name with
  | none => some ⟨.undeclared reference.name reference.usage, reference.place⟩
  | some s =>
    match useOf prior reference.name with
    | none => (s.misfit? reference.role).map fun cause => ⟨cause, s.place⟩
    | some use =>
      if use.role = reference.role then none
      else some ⟨.roleConflict reference.name ⟨use.role, reference.role⟩ use.place,
        reference.place⟩

/-- Symbols with the uses that references give them. -/
def SymbolTable.usedBy (symbols : SymbolTable) (references : List Reference) : SymbolTable :=
  symbols.map fun s => { s with use := useOf references s.identifier }

@[simp]
theorem useOf_nil (name : String) : useOf [] name = none := rfl

theorem useOf_concat (references : List Reference) (reference : Reference) (name : String) :
    useOf (references ++ [reference]) name =
      (useOf references name <|>
        if reference.name = name then some ⟨reference.role, reference.place⟩ else none) := by
  rw [useOf, useOf, List.find?_append]
  cases references.find? fun reference => reference.name == name with
  | some first => rfl
  | none => by_cases h : reference.name = name <;> simp [h]

theorem exists_reference_of_useOf {references : List Reference} {name : String} {use : Use}
    (h : useOf references name = some use) :
    ∃ reference ∈ references, reference.name = name ∧ reference.role = use.role := by
  obtain ⟨reference, found, rfl⟩ := Option.map_eq_some_iff.mp h
  exact ⟨reference, List.mem_of_find?_eq_some found, by simpa using List.find?_some found, rfl⟩

namespace SymbolTable

theorem identifier_of_lookup? {symbols : SymbolTable} {name : String} {s : Symbol}
    (h : symbols.lookup? name = some s) : s.identifier = name := by
  simpa using List.find?_some h

/-- Giving uses to symbols leaves all else about them as it is. -/
theorem lookup?_usedBy (symbols : SymbolTable) (references : List Reference) (name : String) :
    (symbols.usedBy references).lookup? name =
      (symbols.lookup? name).map fun s => { s with use := useOf references name } := by
  have search : (symbols.usedBy references).lookup? name =
      (symbols.lookup? name).map fun s => { s with use := useOf references s.identifier } := by
    rw [lookup?, usedBy, List.find?_map]
    rfl
  rw [search]
  cases found : symbols.lookup? name with
  | none => rfl
  | some s => rw [Option.map_some, Option.map_some, identifier_of_lookup? found]

theorem usedBy_nil {symbols : SymbolTable} (unused : ∀ s ∈ symbols, s.use = none) :
    symbols.usedBy [] = symbols := by
  rw [usedBy]
  conv_rhs => rw [← List.map_id symbols]
  apply List.map_congr_left
  intro s hs
  rw [useOf_nil, ← unused s hs]
  rfl

/-- A further reference to a function that is in use changes no use. -/
theorem usedBy_concat_of_used {symbols : SymbolTable} {references : List Reference}
    {reference : Reference} {use : Use} (h : useOf references reference.name = some use) :
    symbols.usedBy (references ++ [reference]) = symbols.usedBy references := by
  rw [usedBy, usedBy]
  apply List.map_congr_left
  intro s _
  rw [useOf_concat]
  by_cases same : reference.name = s.identifier
  · simp [← same, h]
  · simp [same]

theorem usedBy_concat_of_unused {symbols : SymbolTable} {references : List Reference}
    {reference : Reference} (h : useOf references reference.name = none) :
    symbols.usedBy (references ++ [reference]) =
      (symbols.usedBy references).change reference.name fun s =>
        { s with use := some ⟨reference.role, reference.place⟩ } := by
  rw [usedBy, usedBy, change, List.map_map]
  apply List.map_congr_left
  intro s _
  rw [useOf_concat]
  by_cases same : reference.name = s.identifier
  · simp [← same, h]
  · simp [same, Ne.symm same]

theorem use_of_mem_declare {symbols : SymbolTable} (unused : ∀ s ∈ symbols, s.use = none)
    (d : Declaration) : ∀ s ∈ symbols.declare d, s.use = none := by
  intro s hs
  unfold declare at hs
  cases found : symbols.lookup? d.identifier with
  | none =>
    simp only [found, List.mem_append, List.mem_singleton] at hs
    rcases hs with earlier | rfl
    · exact unused s earlier
    · rfl
  | some old =>
    have kept : (old.absorb d).use = none := by
      rw [Symbol.absorb]
      split
      · exact unused old (List.mem_of_find?_eq_some found)
      · split <;> exact unused old (List.mem_of_find?_eq_some found)
    simp only [found, change, List.mem_map] at hs
    obtain ⟨before, hb, rfl⟩ := hs
    split
    · exact kept
    · exact unused before hb

theorem use_of_mem_foldl_declare (declarations : List Declaration) :
    ∀ s ∈ declarations.foldl declare [], s.use = none := by
  induction declarations using List.reverseRecOn with
  | nil => simp
  | append_singleton declarations d ih =>
    rw [List.foldl_append]
    exact use_of_mem_declare ih d

end SymbolTable

theorem bind_usedBy (symbols : SymbolTable) (references : List Reference)
    (problems : List Problem) (reference : Reference) :
    Binding.bind ⟨symbols.usedBy references, problems⟩ reference =
      ⟨symbols.usedBy (references ++ [reference]),
        problems ++ (reference.problem? symbols references).toList⟩ := by
  unfold Binding.bind Reference.problem?
  rw [SymbolTable.lookup?_usedBy]
  cases found : symbols.lookup? reference.name with
  | none =>
    -- a name that no file declares has no symbol to be used
    have untouched : symbols.usedBy (references ++ [reference]) = symbols.usedBy references := by
      apply List.map_congr_left
      intro s hs
      have other : reference.name ≠ s.identifier := by
        rintro same
        have absent := List.find?_eq_none.mp found s hs
        simp [same] at absent
      simp [useOf_concat, other]
    simp [untouched]
  | some s =>
    cases first : useOf references reference.name with
    | none =>
      rw [SymbolTable.usedBy_concat_of_unused first]
      rfl
    | some use =>
      rw [SymbolTable.usedBy_concat_of_used first]
      by_cases same : use.role = reference.role
      · simp [tighten, same]
      · simp [tighten, same]

/-- Resolving references gives the symbols their uses and finds the problem of each reference in
turn. -/
theorem foldl_bind {symbols : SymbolTable} (unused : ∀ s ∈ symbols, s.use = none)
    (problems : List Problem) (references : List Reference) :
    references.foldl Binding.bind ⟨symbols, problems⟩ =
      ⟨symbols.usedBy references,
        problems ++ (withPrior references).filterMap fun p => p.2.problem? symbols p.1⟩ := by
  induction references using List.reverseRecOn with
  | nil => simp [SymbolTable.usedBy_nil unused]
  | append_singleton references reference ih =>
    rw [List.foldl_append, ih, List.foldl_cons, List.foldl_nil, bind_usedBy, withPrior_concat,
      List.filterMap_append, ← List.append_assoc]
    cases h : reference.problem? symbols references <;> simp [h]

theorem misfit?_eq_none_iff {s : Symbol} {role : Role} :
    s.misfit? role = none ↔
      s.isStatic = false ∧ s.returnKind = role.returnKind ∧ s.params = stateParams := by
  rw [Symbol.misfit?]
  cases hidden : s.isStatic with
  | true => simp
  | false => by_cases fits : s.fits role = true <;> simp_all [Declaration.fits]

/-- Where no reference makes a problem, the function of each has the role and the shape that the
reference asks for. -/
theorem of_no_problem {symbols : SymbolTable} {references : List Reference}
    (h : ∀ p ∈ withPrior references, p.2.problem? symbols p.1 = none) :
    ∀ reference ∈ references,
      (∃ s, symbols.lookup? reference.name = some s ∧ s.misfit? reference.role = none) ∧
        ∃ use, useOf references reference.name = some use ∧ use.role = reference.role := by
  induction references using List.reverseRecOn with
  | nil => simp
  | append_singleton references last ih =>
    have earlier := ih fun p hp => h p (by simp [hp])
    have sound : last.problem? symbols references = none := h (references, last) (by simp)
    intro reference hr
    rw [List.mem_append, List.mem_singleton] at hr
    rcases hr with hr | rfl
    · obtain ⟨declared, use, first, role⟩ := earlier reference hr
      exact ⟨declared, use, by simp [useOf_concat, first], role⟩
    · unfold Reference.problem? at sound
      cases found : symbols.lookup? reference.name with
      | none => simp [found] at sound
      | some s =>
        cases first : useOf references reference.name with
        | none =>
          refine ⟨⟨s, rfl, by simpa [found, first] using sound⟩,
            ⟨reference.role, reference.place⟩, by simp [useOf_concat, first], rfl⟩
        | some use =>
          have role : use.role = reference.role := by simpa [found, first] using sound
          -- the shape has been checked when the first reference was resolved
          obtain ⟨other, ho, name, same⟩ := exists_reference_of_useOf first
          obtain ⟨⟨t, symbol, fits⟩, -⟩ := earlier other ho
          rw [name, found, Option.some.injEq] at symbol
          subst symbol
          exact ⟨⟨s, rfl, role ▸ same ▸ fits⟩, use, by simp [useOf_concat, first], role⟩

/-- No reference makes a problem just when each is to a declared function of its shape, and no two
to one function ask for different roles. -/
theorem no_problem_iff {symbols : SymbolTable} {references : List Reference} :
    (∀ p ∈ withPrior references, p.2.problem? symbols p.1 = none) ↔
      (∀ reference ∈ references,
        ∃ s, symbols.lookup? reference.name = some s ∧ s.misfit? reference.role = none) ∧
      ∀ reference ∈ references, ∀ other ∈ references, reference.name = other.name →
        reference.role = other.role := by
  constructor
  · intro h
    have sound := of_no_problem h
    refine ⟨fun reference hr => (sound reference hr).1, ?_⟩
    intro reference hr other ho name
    -- both references have the role of the first one to their function
    obtain ⟨use, first, role⟩ := (sound reference hr).2
    obtain ⟨same, second, role'⟩ := (sound other ho).2
    rw [← name, first, Option.some.injEq] at second
    rw [← role, ← role', second]
  · rintro ⟨declared, oneRole⟩ ⟨prior, reference⟩ hp
    obtain ⟨later, split⟩ := mem_withPrior.mp hp
    -- a first reference is checked against the symbol, a later one against an earlier one
    have hr : reference ∈ references := mem_of_mem_withPrior hp
    obtain ⟨s, found, fits⟩ := declared reference hr
    unfold Reference.problem?
    cases first : useOf prior reference.name with
    | none => simp [found, fits]
    | some use =>
      obtain ⟨other, ho, name, role⟩ := exists_reference_of_useOf first
      have same := oneRole other (by simp [split, ho]) reference hr name
      simp [found, ← role, same]

namespace Collection

theorem use_of_mem_symbols_ofItems (conventions : Conventions) (items : List Item) :
    ∀ s ∈ (ofItems conventions items).symbols, s.use = none := by
  rw [symbols_ofItems]
  exact SymbolTable.use_of_mem_foldl_declare _

/-- A registry has the symbols that were collected, with the uses that the references give. -/
theorem symbols_registry_ofItems (conventions : Conventions) (items : List Item) :
    (ofItems conventions items).registry.symbols =
      (ofItems conventions items).symbols.usedBy (ofItems conventions items).references := by
  rw [registry, foldl_bind (use_of_mem_symbols_ofItems conventions items)]

/-- The problems of a registry are those of its items, then those of its references. -/
theorem problems_registry_ofItems (conventions : Conventions) (items : List Item) :
    (ofItems conventions items).registry.problems =
      (ofItems conventions items).problems ++
        (withPrior (ofItems conventions items).references).filterMap fun p =>
          p.2.problem? (ofItems conventions items).symbols p.1 := by
  rw [registry, foldl_bind (use_of_mem_symbols_ofItems conventions items)]

end Collection

end AnnotatedTests
