import AnnotatedTests.Directive.Basic
import AnnotatedTests.Event
import AnnotatedTests.Settings.Value
import AnnotatedTests.Source.Scan
import AnnotatedTests.Text.Identifier

/-! The settings of a run: which there are, what each may be, and what each is where nothing
sets it. -/
namespace AnnotatedTests

inductive ManifestFormat where
  | json
  | text
  deriving DecidableEq, Repr

def ManifestFormat.word : ManifestFormat → String
  | .json => "json"
  | .text => "text"

def ManifestFormat.ofWord? : String → Option ManifestFormat
  | "json" => some .json
  | "text" => some .text
  | _ => none

/-- The settings of a run. Headers to include are not checked before they are used. -/
structure Settings where
  marker : String
  defaultTimeout : Nat
  manifestFormat : ManifestFormat
  jobs : Nat
  includes : List Value
  deriving Repr

inductive SettingKey where
  | marker
  | defaultTimeout
  | manifestFormat
  | jobs
  | includes
  deriving DecidableEq, Repr

def SettingKey.word : SettingKey → String
  | .marker => "marker"
  | .defaultTimeout => "default_timeout"
  | .manifestFormat => "manifest_format"
  | .jobs => "jobs"
  | .includes => "includes"

/-- The settings in the order in which they are checked. -/
def SettingKey.all : List SettingKey :=
  [.marker, .defaultTimeout, .manifestFormat, .jobs, .includes]

inductive InvalidSetting where
  | wrongType (expected received : String)
  | notIdentifier (text : String)
  | notPositive (shown : String)
  | tooLarge (maximum : Nat) (n : Int)
  | notAmong (shown : String)
  deriving DecidableEq, Repr

def InvalidSetting.message : InvalidSetting → String
  | .wrongType expected received =>
    s!"Expected type: <class '{expected}'> but received: <class '{received}'>"
  | .notIdentifier text => s!"'{text}' is not a valid identifier"
  | .notPositive shown => s!"Expected a positive integer, got {shown}"
  | .tooLarge maximum n => s!"Expected at most {maximum}, got {n}"
  | .notAmong shown => s!"Expected one of: ('json', 'text') but received: {shown}"

def readMarker : Value → Except InvalidSetting String
  | .text s => if isIdentifierLine s.toList then .ok s else .error (.notIdentifier s)
  | other => .error (.wrongType "str" other.typeName)

/-- A count is a positive integer, not above a maximum if there is one. A truth value is none,
though its type would pass. -/
def readCount (maximum : Option Nat) : Value → Except InvalidSetting Nat
  | .int n =>
    if n ≤ 0 then .error (.notPositive (toString n))
    else
      match maximum with
      | some most => if n.toNat ≤ most then .ok n.toNat else .error (.tooLarge most n)
      | none => .ok n.toNat
  | .bool truth => .error (.notPositive (truthWord truth))
  | other => .error (.wrongType "int" other.typeName)

def readFormat (value : Value) : Except InvalidSetting ManifestFormat :=
  match value with
  | .text s =>
    match ManifestFormat.ofWord? s with
    | some format => .ok format
    | none => .error (.notAmong value.shown)
  | other => .error (.notAmong other.shown)

def readIncludes : Value → Except InvalidSetting (List Value)
  | .list items => .ok items
  | other => .error (.wrongType "list" other.typeName)

def SettingKey.default : SettingKey → Value
  | .marker => .text defaultMarker
  | .defaultTimeout => .int 10
  | .manifestFormat => .text "json"
  | .jobs => .int 1
  | .includes => .list []

/-- The value that counts for a setting: the one that is set, or else its default. -/
def Entries.effective (entries : Entries) (key : SettingKey) : Value :=
  match entries.value? key.word with
  | none => key.default
  | some value => if value.isNull then key.default else value

structure RefusedSetting where
  key : SettingKey
  why : InvalidSetting
  deriving DecidableEq, Repr

def Entries.read {α : Type} (entries : Entries) (key : SettingKey)
    (reader : Value → Except InvalidSetting α) : Except RefusedSetting α :=
  (reader (entries.effective key)).mapError fun why => ⟨key, why⟩

/-- The settings that some entries give; the first one that is refused decides. -/
def Entries.settings (entries : Entries) : Except RefusedSetting Settings := do
  let marker ← entries.read .marker readMarker
  let defaultTimeout ← entries.read .defaultTimeout (readCount (some maxTimeout))
  let manifestFormat ← entries.read .manifestFormat readFormat
  let jobs ← entries.read .jobs (readCount none)
  let includes ← entries.read .includes readIncludes
  return { marker, defaultTimeout, manifestFormat, jobs, includes }

def Entries.unknownKeys (entries : Entries) : List String :=
  let known := SettingKey.all.map SettingKey.word
  ((entries.map Prod.fst).filter fun key => !known.contains key).mergeSort fun a b =>
    (compare a b).isLE

def Entries.warnings (entries : Entries) : List Event :=
  entries.unknownKeys.map Event.unknownSetting

def Entries.given (entries : Entries) : Entries :=
  entries.filter fun entry => !entry.2.isNull

end AnnotatedTests
