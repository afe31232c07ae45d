import AnnotatedTests.Source.Place

/-! Directives: what one comment asks for, and the ways in which a comment can fail to be a
directive. -/
namespace AnnotatedTests

/-- What a directive is about. A bare one names neither a kind nor a function. -/
inductive DirectiveKind where
  | group
  | test
  | setup
  | teardown
  | bare
  deriving DecidableEq, Repr

def DirectiveKind.label : DirectiveKind → String
  | .group => "group"
  | .test => "test"
  | .setup => "setup"
  | .teardown => "teardown"
  | .bare => "bare"

def DirectiveKind.ofWord? : String → Option DirectiveKind
  | "group" => some .group
  | "test" => some .test
  | "setup" => some .setup
  | "teardown" => some .teardown
  | _ => none

inductive AttributeKey where
  | group
  | setup
  | teardown
  | disabled
  | timeout
  deriving DecidableEq, Repr

def AttributeKey.word : AttributeKey → String
  | .group => "group"
  | .setup => "setup"
  | .teardown => "teardown"
  | .disabled => "disabled"
  | .timeout => "timeout"

def AttributeKey.ofWord? : String → Option AttributeKey
  | "group" => some .group
  | "setup" => some .setup
  | "teardown" => some .teardown
  | "disabled" => some .disabled
  | "timeout" => some .timeout
  | _ => none

theorem ofWord_word (key : AttributeKey) : AttributeKey.ofWord? key.word = some key := by
  cases key <;> rfl

/-- Whether directives of a kind can carry an attribute: groups their fixtures, tests and bare
directives all, fixtures none. -/
def DirectiveKind.allows : DirectiveKind → AttributeKey → Bool
  | .group, .setup => true
  | .group, .teardown => true
  | .group, _ => false
  | .test, _ => true
  | .bare, _ => true
  | .setup, _ => false
  | .teardown, _ => false

structure Attributes where
  group : Option String
  setup : Option String
  teardown : Option String
  disabled : Option Bool
  timeout : Option Nat
  deriving DecidableEq, Repr

def Attributes.empty : Attributes := ⟨none, none, none, none, none⟩

def Attributes.has (given : Attributes) : AttributeKey → Bool
  | .group => given.group.isSome
  | .setup => given.setup.isSome
  | .teardown => given.teardown.isSome
  | .disabled => given.disabled.isSome
  | .timeout => given.timeout.isSome

theorem has_empty (key : AttributeKey) : Attributes.empty.has key = false := by
  cases key <;> rfl

structure Directive where
  kind : DirectiveKind
  name : Option String
  attributes : Attributes
  place : Place
  deriving DecidableEq, Repr

/-- The longest timeout, the largest number of seconds that fits an alarm's 32 bits. -/
def maxTimeout : Nat := 4294967295

inductive Malformed where
  | invalidName (name : String)
  | groupWithoutName
  | unexpectedWord (word : String)
  | unknownAttribute (key : String)
  | attributeNotAllowed (key : AttributeKey) (kind : DirectiveKind)
  | attributeRepeated (key : AttributeKey)
  | valueMissing (key : AttributeKey)
  | invalidValueName (key : AttributeKey) (value : String)
  | invalidDisabled (value : String)
  | invalidTimeout (value : String)
  | timeoutTooLarge (value : String)
  deriving DecidableEq, Repr

def Malformed.message : Malformed → String
  | .invalidName name => s!"'{name}' is not a valid identifier"
  | .groupWithoutName => "group directive needs a group name"
  | .unexpectedWord word => s!"unexpected token '{word}'"
  | .unknownAttribute key => s!"unknown attribute '{key}'"
  | .attributeNotAllowed key kind =>
    s!"attribute '{key.word}' is not allowed on a {kind.label} directive"
  | .attributeRepeated key => s!"attribute '{key.word}' given more than once"
  | .valueMissing key => s!"attribute '{key.word}' needs a value"
  | .invalidValueName key value => s!"'{value}' is not a valid {key.word} name"
  | .invalidDisabled value => s!"disabled expects true or false, got '{value}'"
  | .invalidTimeout value => s!"timeout expects a positive number of seconds, got '{value}'"
  | .timeoutTooLarge value => s!"timeout {value} is larger than {maxTimeout} seconds"

/-- What keeps a comment from being read: it is malformed, or it holds a numeral of more
digits than any numeral may have, which ends the reading of the whole file. -/
inductive DirectiveFailure where
  | malformed (why : Malformed)
  | numeralTooLong (digits : Nat)
  deriving DecidableEq, Repr

end AnnotatedTests
