import AnnotatedTests.Registry.Problem
import AnnotatedTests.Registry.Symbols

/-! The registry: the tests of all files in their groups, the functions that they need, and the
problems that were found. -/
namespace AnnotatedTests

structure Test where
  name : String
  group : String
  symbol : String
  setup : Option String
  teardown : Option String
  disabled : Bool
  timeout : Int
  place : Place
  deriving DecidableEq, Repr

/-- A group of tests and the fixtures that its tests have unless they name others. -/
structure Group where
  name : String
  tests : List Test
  setup : Option String
  teardown : Option String
  place : Place
  deriving DecidableEq, Repr

/-- All that is known once the directives of all files are read. -/
structure Registry where
  groups : List Group
  symbols : SymbolTable
  problems : List Problem
  files : List String
  deriving DecidableEq, Repr

def Registry.empty : Registry := ⟨[], [], [], []⟩

/-- Whether nothing keeps the runner from being generated. -/
def Registry.ok (registry : Registry) : Bool := registry.problems.isEmpty

def Registry.tests (registry : Registry) : List Test := registry.groups.flatMap Group.tests

def Registry.group? (registry : Registry) (name : String) : Option Group :=
  registry.groups.find? fun group => group.name == name

def Registry.test? (registry : Registry) (name : String) : Option Test :=
  registry.tests.find? fun test => test.name == name

end AnnotatedTests
