import AnnotatedTests.Text.Decimal
import AnnotatedTests.Text.Quoted

/-! The values of settings, as a configuration file or a caller gives them before they are
checked. -/
namespace AnnotatedTests

inductive Value where
  | null
  | bool (truth : Bool)
  | int (n : Int)
  | real (d : Decimal)
  | text (s : String)
  | list (items : List Value)
  | map (entries : List (Value × Value))
  deriving Repr, Inhabited

def Value.typeName : Value → String
  | .null => "NoneType"
  | .bool _ => "bool"
  | .int _ => "int"
  | .real _ => "float"
  | .text _ => "str"
  | .list _ => "list"
  | .map _ => "dict"

def Value.isNull : Value → Bool
  | .null => true
  | _ => false

def truthWord (truth : Bool) : String := if truth then "True" else "False"

mutual

def Value.shown : Value → String
  | .null => "None"
  | .bool truth => truthWord truth
  | .int n => toString n
  | .real d => d.text
  | .text s => quoted s
  | .list items => "[" ++ ", ".intercalate (shownItems items) ++ "]"
  | .map entries => "\x7b" ++ ", ".intercalate (shownEntries entries) ++ "\x7d"

def shownItems : List Value → List String
  | [] => []
  | item :: rest => item.shown :: shownItems rest

def shownEntries : List (Value × Value) → List String
  | [] => []
  | (key, value) :: rest => (key.shown ++ ": " ++ value.shown) :: shownEntries rest

end

/-- A value as text: a text as it is, any other value as messages show it. -/
def Value.plain : Value → String
  | .text s => s
  | other => other.shown

/-- Entries by key. A later entry replaces the value of an earlier one of its key. -/
abbrev Entries := List (String × Value)

def Entries.value? (entries : Entries) (key : String) : Option Value :=
  (entries.find? fun entry => entry.1 == key).map Prod.snd

def Entries.put (entries : Entries) (key : String) (value : Value) : Entries :=
  if entries.any fun entry => entry.1 == key then
    entries.map fun entry => if entry.1 = key then (key, value) else entry
  else entries ++ [(key, value)]

/-- Entries with those of a second list put on top. -/
def Entries.overlay (entries more : Entries) : Entries :=
  more.foldl (fun under entry => under.put entry.1 entry.2) entries

end AnnotatedTests
