import AnnotatedTests.Registry.Role

/-! References: a directive's mention of a function by name, and what it mentions it for. -/
namespace AnnotatedTests

/-- A function that runs before or after a test. -/
inductive Slot where
  | setup
  | teardown
  deriving DecidableEq, Repr

def Slot.role : Slot → Role
  | .setup => .setup
  | .teardown => .teardown

def Slot.label (slot : Slot) : String := slot.role.label

/-- What a function is mentioned for. -/
inductive Usage where
  | groupFixture (slot : Slot) (group : String)
  | fixture (slot : Slot)
  | test
  | testFixture (slot : Slot) (test : String)
  deriving DecidableEq, Repr

def Usage.role : Usage → Role
  | .groupFixture slot _ => slot.role
  | .fixture slot => slot.role
  | .test => .test
  | .testFixture slot _ => slot.role

def Usage.context : Usage → String
  | .groupFixture slot owner => s!"{slot.label} of group '{owner}'"
  | .fixture slot => s!"{slot.label} fixture"
  | .test => "test"
  | .testFixture slot owner => s!"{slot.label} of test '{owner}'"

/-- A mention of a function by the directive at a place. -/
structure Reference where
  name : String
  usage : Usage
  place : Place
  deriving DecidableEq, Repr

def Reference.role (reference : Reference) : Role := reference.usage.role

end AnnotatedTests
