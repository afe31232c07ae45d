import AnnotatedTests.Event
import AnnotatedTests.Registry.Role

/-! The symbol table: each declared function once, with what its declarations say together and
the role that it has been given. -/
namespace AnnotatedTests

/-- The role of a function and the place of the directive that gave it. -/
structure Use where
  role : Role
  place : Place
  deriving DecidableEq, Repr

structure Symbol extends Declaration where
  use : Option Use
  deriving DecidableEq, Repr

def Symbol.role (s : Symbol) : Option Role := s.use.map Use.role

/-- The signature of a symbol, with the storage word that hides it if it has one. -/
def Symbol.fullSignature (s : Symbol) : String :=
  (if s.isStatic then "static " else "") ++ s.signature

/-- A symbol table: no two symbols have one name, and they stand in the order in which their
names were first declared. -/
abbrev SymbolTable := List Symbol

def SymbolTable.lookup? (table : SymbolTable) (name : String) : Option Symbol :=
  table.find? fun s => s.identifier == name

def SymbolTable.change (table : SymbolTable) (name : String) (f : Symbol → Symbol) :
    SymbolTable :=
  table.map fun s => if s.identifier = name then f s else s

/-- A symbol with one more declaration of its function in mind. A static declaration in the
symbol's file makes it static, and the first definition replaces what a prototype has said. -/
def Symbol.absorb (s : Symbol) (d : Declaration) : Symbol :=
  if s.place = d.place then s
  else
    let hidden := s.isStatic || (d.isStatic && d.place.filename == s.place.filename)
    if d.defined && !s.defined then
      { s with
        place := d.place
        returnKind := d.returnKind
        params := d.params
        defined := true
        isStatic := d.isStatic || (hidden && s.place.filename == d.place.filename) }
    else { s with isStatic := hidden }

def SymbolTable.declare (table : SymbolTable) (d : Declaration) : SymbolTable :=
  match table.lookup? d.identifier with
  | none => table ++ [⟨d, none⟩]
  | some s => table.change d.identifier fun _ => s.absorb d

/-- The warning that a declaration causes: it defines a function that is defined elsewhere. -/
def SymbolTable.repeated? (table : SymbolTable) (d : Declaration) : Option Event :=
  match table.lookup? d.identifier with
  | none => none
  | some s =>
    if s.place ≠ d.place ∧ d.defined ∧ s.defined then
      some (.definedAgain d.identifier d.place s.place)
    else none

/-- The table of some symbols, in which the last of one name stands in place of the first. -/
def SymbolTable.ofList (symbols : List Symbol) : SymbolTable :=
  symbols.foldl
    (fun table s =>
      match table.lookup? s.identifier with
      | none => table ++ [s]
      | some _ => table.change s.identifier fun _ => s)
    []

end AnnotatedTests
