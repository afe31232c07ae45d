import AnnotatedTests.Registry.Collection

/-! Resolving references, once all files are read. The first reference to a function gives it
its role and checks its signature; a later one for another role is a conflict. -/
namespace AnnotatedTests

/-- What is wrong with the function of a symbol in a role, if something is. -/
def Symbol.misfit? (s : Symbol) (role : Role) : Option Cause :=
  if s.isStatic then some (.internal s.identifier role)
  else if s.fits role then none
  else some (.misshapen s.identifier role s.fullSignature)

/-- Symbols with the roles given so far, and the problems found so far. -/
structure Binding where
  symbols : SymbolTable
  problems : List Problem
  deriving DecidableEq, Repr

def Binding.bind (b : Binding) (reference : Reference) : Binding :=
  match b.symbols.lookup? reference.name with
  | none =>
    { b with problems :=
        b.problems ++ [⟨.undeclared reference.name reference.usage, reference.place⟩] }
  | some s =>
    match s.use with
    | none =>
      { symbols := b.symbols.change reference.name fun s =>
          { s with use := some ⟨reference.role, reference.place⟩ }
        problems := b.problems ++
          ((s.misfit? reference.role).map fun cause => ⟨cause, s.place⟩).toList }
    | some use =>
      match tighten (some use.role) (some reference.role) with
      | .ok _ => b
      | .error clash =>
        { b with problems :=
            b.problems ++ [⟨.roleConflict reference.name clash use.place, reference.place⟩] }

/-- The test of a name with the fixtures of its group where it has none of its own. -/
def Collection.finished? (c : Collection) (draft : Draft) (name : String) : Option Test :=
  (c.tests.find? fun test => test.name == name).map fun test =>
    { test with
      setup := test.setup <|> draft.setup
      teardown := test.teardown <|> draft.teardown }

def Collection.finish (c : Collection) (draft : Draft) : Group :=
  { name := draft.name
    tests := draft.tests.filterMap (c.finished? draft)
    setup := draft.setup
    teardown := draft.teardown
    place := draft.place }

def Collection.registry (c : Collection) : Registry :=
  let bound := c.references.foldl Binding.bind ⟨c.symbols, c.problems⟩
  { groups := c.drafts.map c.finish
    symbols := bound.symbols
    problems := bound.problems
    files := c.files }

def Registry.resolvedEvent (registry : Registry) : Event :=
  .resolved registry.groups.length registry.tests.length registry.files.length
    registry.problems.length

/-- The registry of some scanned files, unless a numeral is too long to be read, and the events
of building it. -/
def buildRegistry (conventions : Conventions) (files : List Scan) :
    Except Nat Registry × List Event :=
  match Collection.empty.addFiles conventions files with
  | (c, none) => (.ok c.registry, c.events ++ [c.registry.resolvedEvent])
  | (c, some digits) => (.error digits, c.events)

end AnnotatedTests
