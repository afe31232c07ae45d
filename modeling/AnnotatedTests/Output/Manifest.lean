import AnnotatedTests.Output.Json
import AnnotatedTests.Registry.Basic
import AnnotatedTests.Settings.Given
import AnnotatedTests.Settings.Schema

/-! Manifests: the functions that a runner links against, in the order of the input files. -/
namespace AnnotatedTests

structure Entry where
  file : String
  symbol : String
  role : Role
  deriving DecidableEq, Repr

/-- The rank of a file: its last position among the input files. Files that are not among them
come after all that are. -/
def fileRank (files : List String) (filename : String) : Nat :=
  match (files.zipIdx.filter fun file => file.1 == filename).getLast? with
  | some file => file.2
  | none => files.eraseDups.length

/-- The order of symbols: by the rank of their file, its name, the line, and their name. -/
def symbolOrder (files : List String) : Symbol → Symbol → Ordering :=
  compareLex (compareOn fun s => fileRank files s.place.filename)
    (compareLex (compareOn fun s => s.place.filename)
      (compareLex (compareOn fun s => s.place.line) (compareOn fun s => s.identifier)))

def Registry.usedSymbols (registry : Registry) : List Symbol :=
  (registry.symbols.filter fun s => s.use.isSome).mergeSort fun a b =>
    (symbolOrder registry.files a b).isLE

def Symbol.entry? (s : Symbol) : Option Entry :=
  s.role.map fun role => ⟨s.place.filename, s.identifier, role⟩

def Registry.entries (registry : Registry) : List Entry :=
  registry.usedSymbols.filterMap Symbol.entry?

def textManifest (entries : List Entry) : String :=
  String.join (entries.map fun e => e.file ++ "\t" ++ e.symbol ++ "\t" ++ e.role.label ++ "\n")

def Entry.json (e : Entry) : Json :=
  .object [("file", .text e.file), ("symbol", .text e.symbol), ("role", .text e.role.label)]

def runnerJson : Option (Given String) → Json
  | none => .null
  | some (.value path) => .text path
  | some .emptied => .list []

def manifestJson (runner : Option (Given String)) (entries : List Entry) : Json :=
  .object [("runner", runnerJson runner), ("symbols", .list (entries.map Entry.json))]

def jsonManifest (runner : Option (Given String)) (entries : List Entry) : String :=
  String.ofList ((manifestJson runner entries).render 0 ++ ['\n'])

def manifestText (format : ManifestFormat) (runner : Option (Given String))
    (entries : List Entry) : String :=
  match format with
  | .json => jsonManifest runner entries
  | .text => textManifest entries

end AnnotatedTests
