import AnnotatedTests.Proofs.Resolution

/-! The declarations of one function and the symbol that they make together. The symbol stands where
the first of them does until one of them defines the function elsewhere; the first that does moves
it there, and then it stays. A collection has for each name the symbol of the declarations that its
files record. -/
namespace AnnotatedTests
attribute [local irreducible] Comment.directive

/-- The symbol of a function after one more declaration of it. -/
def Declaration.join (before : Option Symbol) (d : Declaration) : Symbol :=
  match before with
  | none => ⟨d, none⟩
  | some s => s.absorb d

/-- The symbol that declarations of one function make together, in their order. -/
def symbolOf (declarations : List Declaration) : Option Symbol :=
  declarations.foldl (fun before d => some (d.join before)) none

/-- What one more declaration of its function makes of a symbol: nothing new on the symbol's own
line, a symbol elsewhere if it is the first definition, and otherwise a static one if it says so in
the symbol's file. -/
inductive Symbol.Takes (s : Symbol) (d : Declaration) : Symbol → Prop where
  | repeats : s.place = d.place → s.Takes d s
  | moves : s.place ≠ d.place → s.defined = false → d.defined = true →
    s.Takes d
      { s with
        place := d.place
        returnKind := d.returnKind
        params := d.params
        defined := true
        isStatic := d.isStatic || (s.isStatic && s.place.filename == d.place.filename) }
  | stays : s.place ≠ d.place → (s.defined = true ∨ d.defined = false) →
    s.Takes d
      { s with isStatic := s.isStatic || (d.isStatic && d.place.filename == s.place.filename) }

/-- Whether a declaration stands on the line where the symbol that `prior` make stands already. -/
def Declaration.Repeats (prior : List Declaration) (d : Declaration) : Prop :=
  ∃ s, symbolOf prior = some s ∧ s.place = d.place

/-- Whether what a declaration says about linkage counts where it stands behind `prior`: it repeats
no line, and it is in the file of the symbol or moves the symbol to its own. -/
def Declaration.Counts (prior : List Declaration) (d : Declaration) : Prop :=
  ∀ s, symbolOf prior = some s → s.place ≠ d.place ∧
    (s.place.filename = d.place.filename ∨ (s.defined = false ∧ d.defined = true))

theorem Symbol.takes_absorb (s : Symbol) (d : Declaration) : s.Takes d (s.absorb d) := by
  rw [absorb]
  by_cases same : s.place = d.place
  · rw [if_pos same]
    exact .repeats same
  · rw [if_neg same]
    by_cases first : s.defined = false ∧ d.defined = true
    · obtain ⟨undefined, defined⟩ := first
      -- the declaration's own word has been joined already, which makes no difference
      have linkage : (d.isStatic || ((s.isStatic || (d.isStatic &&
          d.place.filename == s.place.filename)) && s.place.filename == d.place.filename)) =
          (d.isStatic || (s.isStatic && s.place.filename == d.place.filename)) := by
        cases d.isStatic <;> simp
      simp only [undefined, defined, Bool.not_false, Bool.and_self, if_true, linkage]
      exact .moves same undefined defined
    · have stays : (d.defined && !s.defined) = false := by
        cases hd : d.defined <;> cases hs : s.defined <;> simp_all
      simp only [stays]
      refine .stays same ?_
      cases hd : d.defined <;> cases hs : s.defined <;> simp_all

theorem Symbol.identifier_absorb (s : Symbol) (d : Declaration) :
    (s.absorb d).identifier = s.identifier := by
  generalize made : s.absorb d = t
  have step := s.takes_absorb d
  rw [made] at step
  cases step <;> rfl

@[simp]
theorem symbolOf_nil : symbolOf [] = none := rfl

@[simp]
theorem symbolOf_concat (declarations : List Declaration) (d : Declaration) :
    symbolOf (declarations ++ [d]) = some (d.join (symbolOf declarations)) := by
  simp [symbolOf]

theorem symbolOf_eq_none_iff {declarations : List Declaration} :
    symbolOf declarations = none ↔ declarations = [] := by
  cases declarations using List.reverseRecOn with
  | nil => simp
  | append_singleton declarations d => simp

namespace SymbolTable

theorem lookup?_change (table : SymbolTable) {name : String} {t : Symbol}
    (named : t.identifier = name) (other : String) :
    (table.change name fun _ => t).lookup? other =
      if name = other then (table.lookup? other).map fun _ => t else table.lookup? other := by
  -- a change keeps the identifiers, so the search finds the same entry
  have same (s : Symbol) :
      ((if s.identifier = name then t else s).identifier == other) = (s.identifier == other) := by
    split
    · next h => rw [named, h]
    · rfl
  rw [change, lookup?, List.find?_map]
  simp only [Function.comp_def, same]
  rw [← lookup?]
  cases found : table.lookup? other with
  | none => simp
  | some s =>
    have own := identifier_of_lookup? found
    by_cases h : name = other
    · simp [own, h]
    · simp [own, h, Ne.symm h]

/-- Declaring a function changes the symbol of its name and no other. -/
theorem lookup?_declare (table : SymbolTable) (d : Declaration) (name : String) :
    (table.declare d).lookup? name =
      if d.identifier = name then some (d.join (table.lookup? name)) else table.lookup? name := by
  unfold declare
  cases found : table.lookup? d.identifier with
  | none =>
    by_cases same : d.identifier = name
    · subst same
      rw [if_pos rfl, found, lookup?, List.find?_append, ← lookup?, found]
      simp [Declaration.join]
    · simp [lookup?, List.find?_append, same]
  | some s =>
    have named := (s.identifier_absorb d).trans (identifier_of_lookup? found)
    rw [lookup?_change table named]
    by_cases same : d.identifier = name
    · subst same
      simp [found, Declaration.join]
    · simp [same]

/-- The symbol that a run of declarations gives a name is made by those of that name. -/
theorem lookup?_foldl_declare (declarations : List Declaration) (name : String) :
    (declarations.foldl declare []).lookup? name =
      symbolOf (declarations.filter fun d => d.identifier = name) := by
  induction declarations using List.reverseRecOn with
  | nil => rfl
  | append_singleton declarations d ih =>
    rw [List.foldl_append, List.foldl_cons, List.foldl_nil, lookup?_declare, ih,
      List.filter_append]
    by_cases same : d.identifier = name
    · simp [same]
    · simp [same]

theorem map_identifier_change (table : SymbolTable) {name : String} {t : Symbol}
    (named : t.identifier = name) :
    (table.change name fun _ => t).map (fun s => s.identifier) =
      table.map fun s => s.identifier := by
  rw [change, List.map_map]
  apply List.map_congr_left
  intro s _
  by_cases same : s.identifier = name
  · simp [same, named]
  · simp [same]

/-- A run of declarations gives each name one symbol, in the order in which the names are first
declared. -/
theorem map_identifier_foldl_declare (declarations : List Declaration) :
    (declarations.foldl declare []).map (fun s => s.identifier) =
      firsts id (declarations.map Declaration.identifier) := by
  induction declarations using List.reverseRecOn with
  | nil => rfl
  | append_singleton declarations d ih =>
    have known : d.identifier ∈ (declarations.foldl declare []).map (fun s => s.identifier) ↔
        d.identifier ∈ declarations.map Declaration.identifier := by
      have same : d.identifier ∈ (firsts id (declarations.map Declaration.identifier)).map id ↔
          d.identifier ∈ (declarations.map Declaration.identifier).map id := mem_map_firsts id
      rw [List.map_id, List.map_id] at same
      rw [ih, same]
    rw [List.foldl_append, List.foldl_cons, List.foldl_nil, List.map_append, List.map_singleton,
      firsts_concat, ← ih, List.map_id, id_eq, declare]
    cases found : (declarations.foldl declare []).lookup? d.identifier with
    | none =>
      have fresh : d.identifier ∉ declarations.map Declaration.identifier := by
        intro declared
        obtain ⟨s, hs, named⟩ := List.mem_map.mp (known.mpr declared)
        simpa [named] using List.find?_eq_none.mp found s hs
      rw [if_neg fresh, List.map_append]
      rfl
    | some s =>
      have named := identifier_of_lookup? found
      have declared : d.identifier ∈ declarations.map Declaration.identifier :=
        known.mp (List.mem_map.mpr ⟨s, List.mem_of_find?_eq_some found, named⟩)
      rw [if_pos declared, List.append_nil]
      exact map_identifier_change _ ((s.identifier_absorb d).trans named)

end SymbolTable

/-- What holds of the symbol of one declaration, and is kept when a symbol takes one more, holds of
the symbol of any declarations. -/
theorem symbolOf_induction {motive : List Declaration → Symbol → Prop}
    (first : ∀ d, motive [d] ⟨d, none⟩)
    (more : ∀ declarations s d t, symbolOf declarations = some s → motive declarations s →
      s.Takes d t → motive (declarations ++ [d]) t)
    {declarations : List Declaration} {s : Symbol} (made : symbolOf declarations = some s) :
    motive declarations s := by
  induction declarations using List.reverseRecOn generalizing s with
  | nil => simp at made
  | append_singleton declarations d ih =>
    rw [symbolOf_concat, Option.some.injEq] at made
    subst made
    cases earlier : symbolOf declarations with
    | none =>
      rw [symbolOf_eq_none_iff.mp earlier]
      exact first d
    | some t => exact more declarations t d _ earlier (ih earlier) (t.takes_absorb d)

theorem counts_iff {prior : List Declaration} {s : Symbol} (made : symbolOf prior = some s)
    {d : Declaration} :
    d.Counts prior ↔ s.place ≠ d.place ∧
      (s.place.filename = d.place.filename ∨ (s.defined = false ∧ d.defined = true)) := by
  simp [Declaration.Counts, made]

/-- A symbol that no definition has moved stands in the file of every declaration that counts. -/
theorem filename_of_counts {declarations : List Declaration} {s : Symbol}
    (made : symbolOf declarations = some s) :
    s.defined = false → ∀ prior d, (prior, d) ∈ withPrior declarations → d.Counts prior →
      d.place.filename = s.place.filename := by
  refine symbolOf_induction (motive := fun declarations s => s.defined = false → ∀ prior d,
    (prior, d) ∈ withPrior declarations → d.Counts prior → d.place.filename = s.place.filename)
    ?_ ?_ made
  · intro only _ prior d h _
    obtain ⟨-, rfl⟩ : prior = [] ∧ d = only := by simpa [withPrior, withPriorFrom] using h
    rfl
  · intro declarations s last t earlier ih step undefined prior d h counts
    rw [withPrior_concat, List.mem_append, List.mem_singleton, Prod.mk.injEq] at h
    cases step with
    | moves _ _ _ => simp at undefined
    | repeats same =>
      rcases h with h | ⟨rfl, rfl⟩
      · exact ih undefined prior d h counts
      · exact absurd same (counts s earlier).1
    | stays _ settled =>
      rcases h with h | ⟨rfl, rfl⟩
      · exact ih undefined prior d h counts
      · rcases (counts s earlier).2 with same | ⟨-, defined⟩
        · exact same.symm
        · -- a definition would have moved the symbol
          have undefined : s.defined = false := undefined
          simp [undefined, defined] at settled

/-- A symbol is static just when a declaration in its file that counts is. -/
theorem isStatic_iff_exists_counts {declarations : List Declaration} {s : Symbol}
    (made : symbolOf declarations = some s) :
    s.isStatic = true ↔
      ∃ prior d, (prior, d) ∈ withPrior declarations ∧ d.isStatic = true ∧
        d.place.filename = s.place.filename ∧ d.Counts prior := by
  refine symbolOf_induction (motive := fun declarations s => s.isStatic = true ↔
    ∃ prior d, (prior, d) ∈ withPrior declarations ∧ d.isStatic = true ∧
      d.place.filename = s.place.filename ∧ d.Counts prior) ?_ ?_ made
  · intro d
    simp [withPrior, withPriorFrom, Declaration.Counts]
  · intro declarations s last t earlier ih step
    rw [exists_mem_withPrior_concat, counts_iff earlier]
    cases step with
    | repeats same => simp [ih, same]
    | stays other settled =>
      -- the symbol is not moved, so that only its own file counts
      have inFile : (s.place.filename = last.place.filename ∨
          (s.defined = false ∧ last.defined = true)) ↔
            last.place.filename = s.place.filename := by
        rw [eq_comm]
        rcases settled with settled | settled <;> simp [settled]
      simp [ih, other, inFile]
    | moves other undefined defined =>
      -- what has counted so far was in the file that the symbol leaves
      have left := filename_of_counts earlier undefined
      by_cases same : s.place.filename = last.place.filename
      · simp [ih, other, same, undefined, defined, or_comm]
      · have none_before : ¬ ∃ prior d, (prior, d) ∈ withPrior declarations ∧
            d.isStatic = true ∧ d.place.filename = last.place.filename ∧ d.Counts prior := by
          rintro ⟨prior, d, h, -, here, counts⟩
          exact same ((left prior d h counts).symm.trans here)
        simp [other, same, undefined, defined, none_before]

/-- A symbol is defined just when a declaration that repeats no line is a definition. -/
theorem defined_iff_exists {declarations : List Declaration} {s : Symbol}
    (made : symbolOf declarations = some s) :
    s.defined = true ↔
      ∃ prior d, (prior, d) ∈ withPrior declarations ∧ d.defined = true ∧ ¬ d.Repeats prior := by
  refine symbolOf_induction (motive := fun declarations s => s.defined = true ↔
    ∃ prior d, (prior, d) ∈ withPrior declarations ∧ d.defined = true ∧ ¬ d.Repeats prior)
    ?_ ?_ made
  · intro d
    simp [withPrior, withPriorFrom, Declaration.Repeats]
  · intro declarations s last t earlier ih step
    rw [exists_mem_withPrior_concat]
    have repeats_iff : last.Repeats declarations ↔ s.place = last.place := by
      simp [Declaration.Repeats, earlier]
    rw [← ih, repeats_iff]
    cases step with
    | repeats same => simp [same]
    | moves other _ defined => simp [defined, other]
    | stays other settled =>
      rcases settled with defined | undefined
      · simp [defined]
      · simp [undefined]

/-- The declarations that a file records: the functions it defines, then those that follow
directives which can be read. -/
def Scan.declarations (marker : String) (file : Scan) : List Declaration :=
  file.definitions ++ file.sites.filterMap fun site => (site.request? marker).bind Prod.snd

/-- The declarations of a function that some files record, in order. -/
def declarationsOf (marker : String) (files : List Scan) (name : String) : List Declaration :=
  (files.flatMap (Scan.declarations marker)).filter fun d => d.identifier = name

theorem filterMap_declaration?_itemsOf (marker : String) (files : List Scan) :
    (itemsOf marker files).filterMap Item.declaration? =
      files.flatMap (Scan.declarations marker) := by
  have ofSite (current : String) (site : Site) :
      (site.item? marker current).bind Item.declaration? =
        (site.request? marker).bind Prod.snd := by
    cases read : site.comment.directive marker with
    | ok d => simp [Site.item?, Site.request?, read, Item.declaration?]
    | error failure => cases failure <;> simp [Site.item?, Site.request?, read, Item.declaration?]
  rw [itemsOf, List.filterMap_flatMap]
  apply List.flatMap_congr
  intro file _
  have read := file.filterMap_items fun current site _ => ofSite current site
  simpa [Item.declaration?, Scan.declarations] using read

/-- The symbol that is collected for a name is that of the declarations of the name. -/
theorem lookup?_symbols_itemsOf (conventions : Conventions) (files : List Scan) (name : String) :
    (Collection.ofItems conventions (itemsOf conventions.marker files)).symbols.lookup? name =
      symbolOf (declarationsOf conventions.marker files name) := by
  rw [Collection.symbols_ofItems, SymbolTable.lookup?_foldl_declare,
    filterMap_declaration?_itemsOf, declarationsOf]

end AnnotatedTests
