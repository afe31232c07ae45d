import AnnotatedTests.Proofs.Grouping
import AnnotatedTests.Proofs.Resolution

/-! What resolving tells about each function. Its first reference gives it its role for good and is
the one that its signature is checked for; the other problems are references to functions that no
file declares, and references for another role than the first. -/
namespace AnnotatedTests
attribute [local irreducible] Comment.directive

/-- The function that a problem with a reference is about. -/
def Cause.subject? : Cause → Option String
  | .undeclared name _ => some name
  | .roleConflict name _ _ => some name
  | .internal name _ => some name
  | .misshapen name _ _ => some name
  | _ => none

/-- The problems that a reference can make where it stands behind `prior` among `references`. -/
inductive Reference.Makes (symbols : SymbolTable) (references prior : List Reference)
    (reference : Reference) : Problem → Prop where
  /-- No file declares the function. -/
  | undeclared : symbols.lookup? reference.name = none →
    reference.Makes symbols references prior
      ⟨.undeclared reference.name reference.usage, reference.place⟩
  /-- The first reference to the function is for another role. -/
  | conflict {s : Symbol} {first : Reference} : symbols.lookup? reference.name = some s →
    references.find? (fun other => other.name == reference.name) = some first →
    first.role ≠ reference.role →
    reference.Makes symbols references prior
      ⟨.roleConflict reference.name ⟨first.role, reference.role⟩ first.place, reference.place⟩
  /-- It is the first reference, and the function is static. -/
  | internal {s : Symbol} : symbols.lookup? reference.name = some s →
    (∀ other ∈ prior, other.name ≠ reference.name) → s.isStatic = true →
    reference.Makes symbols references prior ⟨.internal reference.name reference.role, s.place⟩
  /-- It is the first reference, and the function has not the shape that its role asks for. -/
  | misshapen {s : Symbol} : symbols.lookup? reference.name = some s →
    (∀ other ∈ prior, other.name ≠ reference.name) → s.isStatic = false →
    s.fits reference.role = false →
    reference.Makes symbols references prior
      ⟨.misshapen reference.name reference.role s.fullSignature, s.place⟩

/-- What is reported about a function with the references to it, in order. If no file declares it,
each of them is; and else what keeps it from the role of the first one, and each later one that is
for another role. -/
def reportsOn : Option Symbol → List Reference → List Problem
  | none, references => references.map fun reference =>
    ⟨.undeclared reference.name reference.usage, reference.place⟩
  | some _, [] => []
  | some s, first :: later =>
    ((s.misfit? first.role).map fun cause => ⟨cause, s.place⟩).toList ++
      (later.filter fun reference => first.role ≠ reference.role).map fun reference =>
        ⟨.roleConflict reference.name ⟨first.role, reference.role⟩ first.place, reference.place⟩

theorem useOf_eq_head? (references : List Reference) (name : String) :
    useOf references name =
      (references.filter fun reference => reference.name = name).head?.map fun reference =>
        ⟨reference.role, reference.place⟩ := by
  rw [List.head?_filter]
  rfl

theorem useOf_eq_none_iff {references : List Reference} {name : String} :
    useOf references name = none ↔ ∀ reference ∈ references, reference.name ≠ name := by
  simp [useOf, List.find?_eq_none]

/-- The use of a function stays as its first reference has made it, whatever follows. -/
theorem useOf_append_of_some {references : List Reference} {name : String} {use : Use}
    (h : useOf references name = some use) (more : List Reference) :
    useOf (references ++ more) name = some use := by
  obtain ⟨first, found, rfl⟩ := Option.map_eq_some_iff.mp h
  rw [useOf, List.find?_append, found]
  rfl

theorem reportsOn_concat (symbols : SymbolTable) (references : List Reference)
    (last : Reference) :
    reportsOn (symbols.lookup? last.name)
        ((references.filter fun reference => reference.name = last.name) ++ [last]) =
      reportsOn (symbols.lookup? last.name)
          (references.filter fun reference => reference.name = last.name) ++
        (last.problem? symbols references).toList := by
  unfold Reference.problem?
  rw [useOf_eq_head?]
  cases symbols.lookup? last.name with
  | none => simp [reportsOn]
  | some s =>
    cases references.filter fun reference => reference.name = last.name with
    | nil => simp [reportsOn]
    | cons first later =>
      by_cases same : first.role = last.role <;> simp [reportsOn, same]

theorem misfit?_eq_some_iff {s : Symbol} {role : Role} {cause : Cause} :
    s.misfit? role = some cause ↔
      (s.isStatic = true ∧ cause = .internal s.identifier role) ∨
        (s.isStatic = false ∧ s.fits role = false ∧
          cause = .misshapen s.identifier role s.fullSignature) := by
  rw [Symbol.misfit?]
  cases s.isStatic with
  | true => simp [eq_comm (a := cause)]
  | false => cases s.fits role <;> simp [eq_comm (a := cause)]

/-- Behind references to other functions only, a reference is the first to its own. -/
theorem find?_eq_self_of_fresh {prior : List Reference} {reference : Reference}
    (fresh : ∀ other ∈ prior, other.name ≠ reference.name) (later : List Reference) :
    (prior ++ reference :: later).find? (fun other => other.name == reference.name) =
      some reference := by
  have none_before : prior.find? (fun other => other.name == reference.name) = none := by
    simpa [List.find?_eq_none] using fresh
  simp [List.find?_append, none_before]

/-- Which problem a reference makes is a matter of its symbol, of the first reference to the same
function, and of whether that is the reference itself. -/
theorem problem?_eq_some_iff {symbols : SymbolTable} {references prior later : List Reference}
    {reference : Reference} (split : references = prior ++ reference :: later)
    {problem : Problem} :
    reference.problem? symbols prior = some problem ↔
      reference.Makes symbols references prior problem := by
  unfold Reference.problem?
  -- the cases are those of resolving: no symbol, a symbol without a use, and one with its use
  cases found : symbols.lookup? reference.name with
  | none =>
    constructor
    · rintro ⟨⟩
      exact .undeclared found
    · intro made
      cases made with
      | undeclared _ => rfl
      | conflict declared _ _ => simp [found] at declared
      | internal declared _ _ => simp [found] at declared
      | misshapen declared _ _ _ => simp [found] at declared
  | some s =>
    have name := SymbolTable.identifier_of_lookup? found
    cases used : useOf prior reference.name with
    | none =>
      have fresh := useOf_eq_none_iff.mp used
      have first := find?_eq_self_of_fresh fresh later
      rw [← split] at first
      constructor
      · intro made
        obtain ⟨cause, misfit, rfl⟩ := Option.map_eq_some_iff.mp made
        rcases misfit?_eq_some_iff.mp misfit with ⟨hidden, rfl⟩ | ⟨open_, unfit, rfl⟩
        · exact name ▸ .internal found fresh hidden
        · exact name ▸ .misshapen found fresh open_ unfit
      · intro made
        cases made with
        | undeclared absent => simp [found] at absent
        | conflict _ other differs =>
          rw [first, Option.some.injEq] at other
          exact absurd (other ▸ rfl) differs
        | internal declared _ hidden =>
          obtain rfl := Option.some.inj (found.symm.trans declared)
          simp [misfit?_eq_some_iff.mpr (.inl ⟨hidden, rfl⟩), name]
        | misshapen declared _ open_ unfit =>
          obtain rfl := Option.some.inj (found.symm.trans declared)
          simp [misfit?_eq_some_iff.mpr (.inr ⟨open_, unfit, rfl⟩), name]
    | some use =>
      obtain ⟨first, earliest, rfl⟩ := Option.map_eq_some_iff.mp used
      have whole : references.find? (fun other => other.name == reference.name) = some first := by
        simp [split, List.find?_append, earliest]
      have seen : ∃ other ∈ prior, other.name = reference.name :=
        ⟨first, List.mem_of_find?_eq_some earliest, by simpa using List.find?_some earliest⟩
      obtain ⟨other, ho, same⟩ := seen
      constructor
      · intro made
        by_cases role : first.role = reference.role
        · simp [role] at made
        · simp only [role, if_false, Option.some.injEq] at made
          exact made ▸ .conflict found whole role
      · intro made
        cases made with
        | undeclared absent => simp [found] at absent
        | conflict _ earlier differs =>
          rw [whole, Option.some.injEq] at earlier
          simp [earlier, differs]
        | internal _ fresh _ => exact absurd same (fresh other ho)
        | misshapen _ fresh _ _ => exact absurd same (fresh other ho)

theorem subject?_of_problem? {symbols : SymbolTable} {prior : List Reference}
    {reference : Reference} {problem : Problem}
    (made : reference.problem? symbols prior = some problem) :
    problem.cause.subject? = some reference.name := by
  have last : prior ++ [reference] = prior ++ reference :: [] := rfl
  cases (problem?_eq_some_iff last).mp made <;> rfl

/-- The problems that references to one function make are those that are reported about it. -/
theorem filter_subject?_problems (symbols : SymbolTable) (references : List Reference)
    (name : String) :
    ((withPrior references).filterMap fun p => p.2.problem? symbols p.1).filter
        (fun problem => problem.cause.subject? = some name) =
      reportsOn (symbols.lookup? name)
        (references.filter fun reference => reference.name = name) := by
  induction references using List.reverseRecOn with
  | nil => cases symbols.lookup? name <;> rfl
  | append_singleton references last ih =>
    rw [withPrior_concat, List.filterMap_append, List.filter_append, List.filter_append, ih]
    have made (problem : Problem) (h : last.problem? symbols references = some problem) :=
      subject?_of_problem? h
    -- what the last reference makes is about its own function, and about no other
    by_cases same : last.name = name
    · subst same
      have kept : [last].filter (fun reference => reference.name = last.name) = [last] := by simp
      rw [kept, reportsOn_concat]
      cases h : last.problem? symbols references with
      | none => simp [h]
      | some problem => simp [h, made problem h]
    · have dropped : [last].filter (fun reference => reference.name = name) = [] := by simp [same]
      rw [dropped, List.append_nil]
      cases h : last.problem? symbols references with
      | none => simp [h]
      | some problem => simp [h, made problem h, same]

/-- Whatever has been collected, no function has a role before references are resolved. Resolving
gives each the role of the first reference to it, and that reference's place, and nothing changes
them afterwards. The problems that it finds stand behind those that were collected, in the order of
the references, of which each makes one at most; about each function they are those that follow from
its symbol and its first reference. -/
theorem resolution_of_reached {conventions : Conventions} {c : Collection}
    (h : Reached conventions c) :
    (∀ s ∈ c.symbols, s.use = none) ∧
      (∀ name, c.registry.symbols.lookup? name =
        (c.symbols.lookup? name).map fun s => { s with use := useOf c.references name }) ∧
      (∀ before after name use, c.references = before ++ after →
        ((before.foldl Binding.bind ⟨c.symbols, c.problems⟩).symbols.lookup? name).bind
          Symbol.use = some use →
        (c.registry.symbols.lookup? name).bind Symbol.use = some use) ∧
      ∃ found, c.registry.problems = c.problems ++ found ∧
        (found = (withPrior c.references).filterMap fun p => p.2.problem? c.symbols p.1) ∧
        (∀ prior reference later problem, c.references = prior ++ reference :: later →
          (reference.problem? c.symbols prior = some problem ↔
            reference.Makes c.symbols c.references prior problem)) ∧
        ∀ name, found.filter (fun problem => problem.cause.subject? = some name) =
          reportsOn (c.symbols.lookup? name)
            (c.references.filter fun reference => reference.name = name) := by
  obtain ⟨items, rfl⟩ := h.exists_items
  have unused := Collection.use_of_mem_symbols_ofItems conventions items
  refine ⟨unused, ?_, ?_, _, Collection.problems_registry_ofItems conventions items, rfl, ?_, ?_⟩
  · intro name
    rw [Collection.symbols_registry_ofItems, SymbolTable.lookup?_usedBy]
  · intro before after name use split early
    -- the symbols on the way are those collected, used by the references so far
    rw [foldl_bind unused, SymbolTable.lookup?_usedBy] at early
    rw [Collection.symbols_registry_ofItems, SymbolTable.lookup?_usedBy, split]
    cases declared : (Collection.ofItems conventions items).symbols.lookup? name with
    | none => simp [declared] at early
    | some s =>
      have first : useOf before name = some use := by simpa [declared] using early
      simp [useOf_append_of_some first]
  · intro prior reference later problem split
    exact problem?_eq_some_iff split
  · exact filter_subject?_problems _ _

/-- A file whose directives disagree about a function, name one that is not there, and ask for one
that is static. -/
def clashFile : Scan :=
  scan
    (textOfLines
      ["/*!cmocka setup both */",
        "/*!cmocka teardown both */ int both(void **state);",
        "/*!cmocka test lost */",
        "/*!cmocka */ static void hidden(void **state);",
        "/*!cmocka setup both */"])
    "clash.c" "cmocka"

theorem resolution_of_clashFile :
    ∃ c, Reached .standard c ∧
      c.registry.symbols.map (fun s => (s.identifier, s.use)) =
        [("both", some ⟨.setup, ⟨"clash.c", 1⟩⟩), ("hidden", some ⟨.test, ⟨"clash.c", 4⟩⟩)] ∧
      c.registry.problems =
        [⟨.roleConflict "both" ⟨.setup, .teardown⟩ ⟨"clash.c", 1⟩, ⟨"clash.c", 2⟩⟩,
          ⟨.undeclared "lost" .test, ⟨"clash.c", 3⟩⟩,
          ⟨.internal "hidden" .test, ⟨"clash.c", 4⟩⟩] ∧
      ∀ name, c.registry.symbols.lookup? name =
        (c.symbols.lookup? name).map fun s => { s with use := useOf c.references name } := by
  have reached : Reached .standard (Collection.empty.addFile .standard clashFile).1 :=
    .addFile clashFile .empty
  obtain ⟨-, roles, -⟩ := resolution_of_reached reached
  exact ⟨_, reached, by decide +kernel, by decide +kernel, roles⟩

end AnnotatedTests
