import AnnotatedTests.Proofs.Declarations
import Mathlib.Data.List.Find

/-! Which declaration of a function decides. The first definition does, or the first declaration
where none defines the function, as long as no two declarations of it share a line and differ; every
definition elsewhere causes a warning. Whether the function is static is decided by all declarations
in the file that it ends up in, less those that are overlooked. -/
namespace AnnotatedTests

/-- The declarations of one function among others. -/
def declarationsNamed (name : String) (declarations : List Declaration) : List Declaration :=
  declarations.filter fun d => d.identifier = name

/-- The first definition of a function, or its first declaration if none is a definition. -/
def deciding? (own : List Declaration) : Option Declaration :=
  own.find? Declaration.defined <|> own.head?

/-- Whether a declaration defines a function elsewhere than another declaration of it stands. -/
def Declaration.definesApart (first d : Declaration) : Bool :=
  d.defined && d.place ≠ first.place

/-- The declaration where the symbol of a function stands: the first, until a definition elsewhere
takes its place, which happens at most once. -/
def standing? : List Declaration → Option Declaration
  | [] => none
  | first :: more =>
    if first.defined then some first
    else more.find? first.definesApart <|> some first

/-- The warnings that declarations of a function should cause: one for each definition that lies
elsewhere than the first. -/
def redefinitions (own : List Declaration) : List Event :=
  match own.find? Declaration.defined with
  | none => []
  | some first =>
    (own.filter first.definesApart).map fun d => .definedAgain d.identifier d.place first.place

/-- Whether an event is a warning about a function. -/
def Event.warnsOf (name : String) : Event → Bool
  | .definedAgain other _ _ => other == name
  | _ => false

/-- Whether a symbol has the place and the signature of a declaration, and is defined if that is a
definition. -/
structure Symbol.StandsAt (s : Symbol) (d : Declaration) : Prop where
  place : s.place = d.place
  returnKind : s.returnKind = d.returnKind
  params : s.params = d.params
  defined : s.defined = d.defined

@[simp]
theorem definesApart_eq_true_iff {first d : Declaration} :
    first.definesApart d = true ↔ d.defined = true ∧ d.place ≠ first.place := by
  simp [Declaration.definesApart]

section Standing

theorem standing?_concat (own : List Declaration) (d : Declaration) :
    standing? (own ++ [d]) =
      match standing? own with
      | none => some d
      | some e => if e.defined = false ∧ e.definesApart d then some d else some e := by
  cases own with
  | nil => cases hd : d.defined <;> simp [standing?, hd]
  | cons first more =>
    rw [List.cons_append]
    cases defined : first.defined with
    | true => simp [standing?, defined]
    | false =>
      cases found : more.find? first.definesApart with
      | some e =>
        -- a definition that has taken the place stays
        have takes := definesApart_eq_true_iff.mp (List.find?_some found)
        have definition : e.defined = true := takes.1
        simp [standing?, defined, found, definition, List.find?_append]
      | none =>
        cases takes : first.definesApart d <;>
          simp [standing?, defined, found, takes, List.find?_append]

/-- The symbol of a function stands where it should. -/
theorem exists_standsAt_of_symbolOf {own : List Declaration} {s : Symbol}
    (made : symbolOf own = some s) : ∃ e, standing? own = some e ∧ s.StandsAt e := by
  refine symbolOf_induction (motive := fun own s => ∃ e, standing? own = some e ∧ s.StandsAt e)
    ?_ ?_ made
  · intro d
    exact ⟨d, by cases hd : d.defined <;> simp [standing?, hd], rfl, rfl, rfl, rfl⟩
  · intro own s d t _ ih step
    obtain ⟨e, stands, at_e⟩ := ih
    rw [standing?_concat, stands]
    cases step with
    | repeats same =>
      have here : d.place = e.place := same.symm.trans at_e.place
      exact ⟨e, by simp [here], at_e⟩
    | moves other undefined defined =>
      have away : d.place ≠ e.place := fun here => other (at_e.place.trans here.symm)
      have movable : e.defined = false := at_e.defined.symm.trans undefined
      exact ⟨d, by simp [away, movable, defined], rfl, rfl, rfl, defined.symm⟩
    | stays _ settled =>
      rw [at_e.defined] at settled
      refine ⟨e, ?_, at_e.place, at_e.returnKind, at_e.params, at_e.defined⟩
      rcases settled with closed | undefined
      · simp [closed]
      · simp [undefined]

/-- A definition where the symbol stands is never given up. -/
theorem standing?_append_of_defined {own : List Declaration} {e : Declaration}
    (stands : standing? own = some e) (defined : e.defined = true) (later : List Declaration) :
    standing? (own ++ later) = some e := by
  induction later using List.reverseRecOn with
  | nil => rwa [List.append_nil]
  | append_singleton later d ih =>
    rw [← List.append_assoc, standing?_concat, ih]
    simp [defined]

/-- Where declarations on one line are the same, the symbol stands at the first definition. -/
theorem standing?_eq_deciding? {own : List Declaration}
    (consistent : ∀ d ∈ own, ∀ e ∈ own, d.place = e.place → d = e) :
    standing? own = deciding? own := by
  cases own with
  | nil => rfl
  | cons first more =>
    cases defined : first.defined with
    | true => simp [standing?, deciding?, defined]
    | false =>
      have apart : ∀ d ∈ more, first.definesApart d = d.defined := by
        intro d hd
        rw [Bool.eq_iff_iff, definesApart_eq_true_iff, and_iff_left_iff_imp]
        intro definition here
        have same := consistent d (List.mem_cons_of_mem _ hd) first List.mem_cons_self here
        rw [same, defined] at definition
        exact Bool.false_ne_true definition
      simp [standing?, deciding?, defined, List.find?_congr apart]

end Standing

section Warnings

/-- The warning that one more declaration should cause. -/
theorem redefinitions_concat (own : List Declaration) (d : Declaration) :
    redefinitions (own ++ [d]) = redefinitions own ++
      match deciding? own with
      | none => []
      | some first =>
        if first.defined = true ∧ first.definesApart d then
          [.definedAgain d.identifier d.place first.place]
        else [] := by
  cases found : own.find? Declaration.defined with
  | some first =>
    have definition : first.defined = true := List.find?_some found
    cases apart : first.definesApart d <;>
      simp [redefinitions, deciding?, found, definition, apart, List.find?_append]
  | none =>
    have undefined : ∀ e ∈ own, e.defined = false := by simpa using found
    -- nothing is defined yet, so that the declaration cannot define it again
    have nothing : redefinitions (own ++ [d]) = [] := by
      cases defined : d.defined with
      | false => simp [redefinitions, found, defined, List.find?_append]
      | true =>
        have first : (own ++ [d]).find? Declaration.defined = some d := by
          simp [found, defined, List.find?_append]
        rw [redefinitions, first]
        simp only [List.map_eq_nil_iff, List.filter_eq_nil_iff, List.mem_append,
          List.mem_singleton, definesApart_eq_true_iff]
        rintro e (he | rfl) ⟨definition, away⟩
        · exact Bool.false_ne_true ((undefined e he).symm.trans definition)
        · exact away rfl
    rw [nothing, redefinitions, found, deciding?, found]
    cases own with
    | nil => rfl
    | cons first more => simp [undefined first List.mem_cons_self]

theorem repeated?_eq_bind (table : SymbolTable) (d : Declaration) :
    table.repeated? d = (table.lookup? d.identifier).bind fun s =>
      if s.place ≠ d.place ∧ d.defined ∧ s.defined then
        some (.definedAgain d.identifier d.place s.place)
      else none := by
  unfold SymbolTable.repeated?
  cases table.lookup? d.identifier <;> rfl

end Warnings

/-- What is collected from declarations alone. -/
def Collection.ofDeclarations (declarations : List Declaration) : Collection :=
  declarations.foldl Collection.declare .empty

section Run
variable (declarations : List Declaration) (name : String)

theorem declarationsNamed_concat (d : Declaration) :
    declarationsNamed name (declarations ++ [d]) =
      declarationsNamed name declarations ++ if d.identifier = name then [d] else [] := by
  rw [declarationsNamed, List.filter_append, ← declarationsNamed]
  by_cases own : d.identifier = name <;> simp [own]

theorem Collection.ofDeclarations_concat (d : Declaration) :
    ofDeclarations (declarations ++ [d]) = (ofDeclarations declarations).declare d := by
  simp [ofDeclarations]

theorem Collection.symbols_ofDeclarations :
    (ofDeclarations declarations).symbols = declarations.foldl SymbolTable.declare [] := by
  induction declarations using List.reverseRecOn with
  | nil => rfl
  | append_singleton declarations d ih =>
    rw [ofDeclarations_concat, List.foldl_append, ← ih]
    rfl

theorem Collection.lookup?_ofDeclarations :
    (ofDeclarations declarations).symbols.lookup? name =
      symbolOf (declarationsNamed name declarations) := by
  rw [symbols_ofDeclarations, SymbolTable.lookup?_foldl_declare, declarationsNamed]

end Run

theorem Collection.exists_standsAt {declarations : List Declaration} {name : String}
    (declared : declarationsNamed name declarations ≠ []) :
    ∃ s e, (ofDeclarations declarations).symbols.lookup? name = some s ∧
      symbolOf (declarationsNamed name declarations) = some s ∧
      standing? (declarationsNamed name declarations) = some e ∧ s.StandsAt e := by
  rw [lookup?_ofDeclarations]
  obtain ⟨s, made⟩ := Option.ne_none_iff_exists'.mp (mt symbolOf_eq_none_iff.mp declared)
  obtain ⟨e, stands, at_e⟩ := exists_standsAt_of_symbolOf made
  exact ⟨s, e, made, made, stands, at_e⟩

theorem warnsOf_of_mem_repeated? {table : SymbolTable} {d : Declaration} {event : Event}
    (h : event ∈ table.repeated? d) (name : String) :
    event.warnsOf name = decide (d.identifier = name) := by
  rw [repeated?_eq_bind] at h
  obtain ⟨s, -, warned⟩ := Option.bind_eq_some_iff.mp h
  split_ifs at warned
  obtain rfl := Option.some.inj warned
  rfl

/-- A declaration is warned of as it should be, if those of its function before it that are on one
line are the same. -/
theorem Collection.toList_repeated?_ofDeclarations {declarations : List Declaration}
    {d : Declaration}
    (consistent : ∀ e ∈ declarationsNamed d.identifier declarations,
      ∀ f ∈ declarationsNamed d.identifier declarations, e.place = f.place → e = f) :
    ((ofDeclarations declarations).symbols.repeated? d).toList =
      match deciding? (declarationsNamed d.identifier declarations) with
      | none => []
      | some first =>
        if first.defined = true ∧ first.definesApart d then
          [.definedAgain d.identifier d.place first.place]
        else [] := by
  rw [repeated?_eq_bind, lookup?_ofDeclarations, ← standing?_eq_deciding? consistent]
  cases made : symbolOf (declarationsNamed d.identifier declarations) with
  | none => rw [symbolOf_eq_none_iff.mp made]; rfl
  | some s =>
    obtain ⟨e, stands, at_e⟩ := exists_standsAt_of_symbolOf made
    have same : (e.place ≠ d.place ∧ d.defined = true ∧ s.defined = true) ↔
        (e.defined = true ∧ e.definesApart d = true) := by
      rw [at_e.defined, definesApart_eq_true_iff, ne_comm]
      tauto
    rw [stands, Option.bind_some, at_e.place]
    simp only [same]
    split_ifs <;> rfl

/-- The warnings about a function are those that its declarations should cause, if those on one line
are the same. -/
theorem Collection.filter_warnsOf_ofDeclarations {declarations : List Declaration} {name : String}
    (consistent : ∀ d ∈ declarationsNamed name declarations,
      ∀ e ∈ declarationsNamed name declarations, d.place = e.place → d = e) :
    (ofDeclarations declarations).events.filter (Event.warnsOf name) =
      redefinitions (declarationsNamed name declarations) := by
  induction declarations using List.reverseRecOn with
  | nil => rfl
  | append_singleton declarations d ih =>
    have before : ∀ d ∈ declarationsNamed name declarations,
        ∀ e ∈ declarationsNamed name declarations, d.place = e.place → d = e := by
      rw [declarationsNamed_concat] at consistent
      exact fun d hd e he =>
        consistent d (List.mem_append_left _ hd) e (List.mem_append_left _ he)
    rw [ofDeclarations_concat, declarationsNamed_concat, declare, List.filter_append, ih before]
    by_cases own : d.identifier = name
    · subst own
      rw [if_pos rfl, redefinitions_concat, ← toList_repeated?_ofDeclarations before,
        List.filter_eq_self.mpr]
      intro event he
      simpa using warnsOf_of_mem_repeated? (Option.mem_toList.mp he) d.identifier
    · rw [if_neg own, List.append_nil, List.filter_eq_nil_iff.mpr, List.append_nil]
      intro event he
      simpa [own] using warnsOf_of_mem_repeated? (Option.mem_toList.mp he) name

/-- Where declarations of a function on one line are the same, its symbol is that of the first
definition, or of the first declaration if none defines it, and each definition elsewhere causes a
warning and nothing else does. The declarations may stand among those of other functions. -/
theorem decided_of_declarations {declarations : List Declaration} {name : String}
    (declared : declarationsNamed name declarations ≠ [])
    (consistent : ∀ d ∈ declarationsNamed name declarations,
      ∀ e ∈ declarationsNamed name declarations, d.place = e.place → d = e) :
    ∃ s d, (Collection.ofDeclarations declarations).symbols.lookup? name = some s ∧
      deciding? (declarationsNamed name declarations) = some d ∧ s.place = d.place ∧
      s.returnKind = d.returnKind ∧ s.params = d.params ∧ s.defined = d.defined ∧
      (Collection.ofDeclarations declarations).events.filter (Event.warnsOf name) =
        redefinitions (declarationsNamed name declarations) := by
  obtain ⟨s, d, found, -, stands, at_d⟩ := Collection.exists_standsAt declared
  rw [standing?_eq_deciding? consistent] at stands
  have warned := Collection.filter_warnsOf_ofDeclarations consistent
  exact ⟨s, d, found, stands, at_d.place, at_d.returnKind, at_d.params, at_d.defined, warned⟩

/-- A function that is declared before its first definition and defined once more, beside another
function. -/
def repeatedDeclarations : List Declaration :=
  [⟨"t", [], "int", ⟨"a.c", 1⟩, false, false⟩, ⟨"u", ["void**"], "int", ⟨"a.c", 4⟩, true, false⟩,
    ⟨"t", ["void**"], "void", ⟨"b.c", 2⟩, true, false⟩,
    ⟨"t", ["int"], "void", ⟨"b.c", 9⟩, false, false⟩,
    ⟨"t", ["char*"], "int", ⟨"c.c", 3⟩, true, true⟩]

theorem decided_of_repeatedDeclarations :
    ∃ s d, (Collection.ofDeclarations repeatedDeclarations).symbols.lookup? "t" = some s ∧
      deciding? (declarationsNamed "t" repeatedDeclarations) = some d ∧ s.place = d.place ∧
      s.returnKind = d.returnKind ∧ s.params = d.params ∧ s.defined = d.defined ∧
      (Collection.ofDeclarations repeatedDeclarations).events.filter (Event.warnsOf "t") =
        redefinitions (declarationsNamed "t" repeatedDeclarations) := by
  have declared : declarationsNamed "t" repeatedDeclarations ≠ [] := by decide
  have consistent : ∀ d ∈ declarationsNamed "t" repeatedDeclarations,
      ∀ e ∈ declarationsNamed "t" repeatedDeclarations, d.place = e.place → d = e := by
    decide
  exact decided_of_declarations declared consistent

example : redefinitions (declarationsNamed "t" repeatedDeclarations) =
    [.definedAgain "t" ⟨"c.c", 3⟩ ⟨"b.c", 2⟩] := by
  decide

/-- Whether what a declaration says about linkage is lost where it comes behind others: it is on the
line where the function stands already, or it is a prototype in another file than the one in which
the function stands. -/
def Declaration.Overlooked (prior : List Declaration) (d : Declaration) : Prop :=
  ∃ e, standing? prior = some e ∧
    (e.place = d.place ∨ (e.place.filename ≠ d.place.filename ∧ d.defined = false))

/-- In the file that a function ends up in, what a declaration says about linkage counts unless it
is overlooked. -/
theorem counts_iff_not_overlooked {prior later : List Declaration} {d : Declaration} {s : Symbol}
    (made : symbolOf (prior ++ d :: later) = some s)
    (inFile : d.place.filename = s.place.filename) : d.Counts prior ↔ ¬ d.Overlooked prior := by
  cases earlier : symbolOf prior with
  | none =>
    rw [symbolOf_eq_none_iff.mp earlier]
    simp [Declaration.Counts, Declaration.Overlooked, standing?]
  | some t =>
    obtain ⟨e, stands, at_e⟩ := exists_standsAt_of_symbolOf earlier
    -- a definition in another file would have kept the function out of this one
    have stayed : e.defined = true → e.place.filename = d.place.filename := by
      intro definition
      obtain ⟨last, final, at_last⟩ := exists_standsAt_of_symbolOf made
      rw [standing?_append_of_defined stands definition, Option.some.injEq] at final
      rw [inFile, at_last.place, final]
    rw [counts_iff earlier, at_e.place, at_e.defined, Declaration.Overlooked, stands]
    cases closed : e.defined <;> cases defined : d.defined <;> simp_all

/-- A function is static just when a static declaration stands in the file that the function ends up
in and is not overlooked. -/
theorem isStatic_iff_exists_not_overlooked {declarations : List Declaration} {name : String}
    (declared : declarationsNamed name declarations ≠ []) :
    ∃ s, (Collection.ofDeclarations declarations).symbols.lookup? name = some s ∧
      (s.isStatic = true ↔
        ∃ prior d later, declarationsNamed name declarations = prior ++ d :: later ∧
          d.isStatic = true ∧ d.place.filename = s.place.filename ∧ ¬ d.Overlooked prior) := by
  obtain ⟨s, -, found, made, -, -⟩ := Collection.exists_standsAt declared
  refine ⟨s, found, ?_⟩
  rw [isStatic_iff_exists_counts made]
  constructor
  · rintro ⟨prior, d, h, hidden, inFile, counts⟩
    obtain ⟨later, split⟩ := mem_withPrior.mp h
    rw [split] at made
    exact ⟨prior, d, later, split, hidden, inFile,
      (counts_iff_not_overlooked made inFile).mp counts⟩
  · rintro ⟨prior, d, later, split, hidden, inFile, counts⟩
    have h := mem_withPrior.mpr ⟨later, split⟩
    rw [split] at made
    exact ⟨prior, d, h, hidden, inFile, (counts_iff_not_overlooked made inFile).mpr counts⟩

/-- A function whose definition moves it into a file where its linkage has been declared before. -/
def movedDeclarations : List Declaration :=
  [⟨"t", ["void**"], "void", ⟨"a.c", 2⟩, false, false⟩,
    ⟨"t", ["void**"], "void", ⟨"b.c", 5⟩, false, true⟩,
    ⟨"t", ["void**"], "void", ⟨"b.c", 7⟩, true, false⟩]

theorem isStatic_of_movedDeclarations :
    ∃ s, (Collection.ofDeclarations movedDeclarations).symbols.lookup? "t" = some s ∧
      (s.isStatic = true ↔
        ∃ prior d later, declarationsNamed "t" movedDeclarations = prior ++ d :: later ∧
          d.isStatic = true ∧ d.place.filename = s.place.filename ∧ ¬ d.Overlooked prior) := by
  have declared : declarationsNamed "t" movedDeclarations ≠ [] := by decide
  exact isStatic_iff_exists_not_overlooked declared

/-- A function can pass for one that is not static though a declaration in the file that it ends up
in says that it is. -/
theorem not_forall_isStatic_iff_exists :
    ¬ ∀ (declarations : List Declaration) (name : String) (s : Symbol),
      (Collection.ofDeclarations declarations).symbols.lookup? name = some s →
        (s.isStatic = true ↔ ∃ d ∈ declarationsNamed name declarations,
          d.isStatic = true ∧ d.place.filename = s.place.filename) := by
  intro all
  have found : (Collection.ofDeclarations movedDeclarations).symbols.lookup? "t" =
      some ⟨⟨"t", ["void**"], "void", ⟨"b.c", 7⟩, true, false⟩, none⟩ := by
    decide
  have hidden : ∃ d ∈ declarationsNamed "t" movedDeclarations,
      d.isStatic = true ∧ d.place.filename = "b.c" := by
    decide
  have linkage := (all movedDeclarations "t" _ found).mpr hidden
  exact Bool.false_ne_true linkage

end AnnotatedTests
