import AnnotatedTests.Directive.Basic
import AnnotatedTests.Directive.Body
import AnnotatedTests.Text.Numeral

/-! Reading a directive from the words of its comment: a kind, a name, then attributes. The
first thing that is wrong decides the failure. -/
namespace AnnotatedTests

/-- The attribute that can be given as a word of its own. -/
def disabledWord : String := AttributeKey.disabled.word

/-- The texts before and behind the first colon of a word, if it has one. -/
def cutAtColon? (word : String) : Option (String × String) :=
  if word.toList.contains ':' then
    some (String.ofList (word.toList.takeWhile (· ≠ ':')),
      String.ofList ((word.toList.dropWhile (· ≠ ':')).drop 1))
  else none

/-- Whether a word stands where a name can stand: it is neither an attribute with a value nor
one without. -/
def standsForName (word : String) : Bool :=
  !word.toList.contains ':' && word != disabledWord

def takeKind : List String → DirectiveKind × List String
  | [] => (.bare, [])
  | word :: rest =>
    match DirectiveKind.ofWord? word with
    | some kind => (kind, rest)
    | none => (.bare, word :: rest)

def takeName : List String → Option String × List String
  | [] => (none, [])
  | word :: rest => if standsForName word then (some word, rest) else (none, word :: rest)

/-- The kind of a directive once its name is known: a bare one that names a function is a
test. -/
def DirectiveKind.withName (kind : DirectiveKind) (name : Option String) : DirectiveKind :=
  if kind = .bare ∧ name.isSome then .test else kind

def readTimeout (value : String) : Except DirectiveFailure Nat :=
  let digits := value.toList
  if !digits.all isAsciiDigit then .error (.malformed (.invalidTimeout value))
  else if maxNumeralDigits < digits.length then .error (.numeralTooLong digits.length)
  else if decimalValue digits = 0 then .error (.malformed (.invalidTimeout value))
  else if maxTimeout < decimalValue digits then .error (.malformed (.timeoutTooLarge value))
  else .ok (decimalValue digits)

def readTruth? (value : String) : Option Bool :=
  let lowered := value.toList.map Char.toLower
  if lowered = "true".toList then some true
  else if lowered = "false".toList then some false
  else none

def readName (key : AttributeKey) (value : String) : Except DirectiveFailure String :=
  if isIdentifier value.toList then .ok value
  else .error (.malformed (.invalidValueName key value))

def Attributes.assign (given : Attributes) (key : AttributeKey) (value : String) :
    Except DirectiveFailure Attributes :=
  if value = "" then .error (.malformed (.valueMissing key))
  else
    match key with
    | .group => (readName key value).map fun name => { given with group := some name }
    | .setup => (readName key value).map fun name => { given with setup := some name }
    | .teardown => (readName key value).map fun name => { given with teardown := some name }
    | .disabled =>
      match readTruth? value with
      | some truth => .ok { given with disabled := some truth }
      | none => .error (.malformed (.invalidDisabled value))
    | .timeout => (readTimeout value).map fun seconds => { given with timeout := some seconds }

/-- The key of an attribute, if a directive of the kind can carry it and has not done so. -/
def Attributes.accept (given : Attributes) (kind : DirectiveKind) (word : String) :
    Except DirectiveFailure AttributeKey :=
  match AttributeKey.ofWord? word with
  | none => .error (.malformed (.unknownAttribute word))
  | some key =>
    if !kind.allows key then .error (.malformed (.attributeNotAllowed key kind))
    else if given.has key then .error (.malformed (.attributeRepeated key))
    else .ok key

def Attributes.add (kind : DirectiveKind) (given : Attributes) (word : String) :
    Except DirectiveFailure Attributes :=
  match cutAtColon? word with
  | some (key, value) => (given.accept kind key).bind fun key => given.assign key value
  | none =>
    if word = disabledWord then
      (given.accept kind word).map fun _ => { given with disabled := some true }
    else .error (.malformed (.unexpectedWord word))

def readAttributes (kind : DirectiveKind) (given : Attributes) :
    List String → Except DirectiveFailure Attributes
  | [] => .ok given
  | word :: rest => (given.add kind word).bind fun more => readAttributes kind more rest

def readWords (words : List String) :
    Except DirectiveFailure (DirectiveKind × Option String × Attributes) :=
  let (stated, afterKind) := takeKind words
  let (name, afterName) := takeName afterKind
  if !(name.all fun word => isIdentifier word.toList) then
    .error (.malformed (.invalidName (name.getD "")))
  else
    let kind := stated.withName name
    if kind = .group ∧ name.isNone then .error (.malformed .groupWithoutName)
    else (readAttributes kind .empty afterName).map fun attributes => (kind, name, attributes)

def Comment.directive (comment : Comment) (marker : String) :
    Except DirectiveFailure Directive :=
  (readWords (directiveWords marker comment.text.toList)).map fun (kind, name, attributes) =>
    { kind, name, attributes, place := ⟨comment.filename, comment.startLine⟩ }

end AnnotatedTests
