import AnnotatedTests.Settings.Value

/-! What the options of the command line are given. -/
namespace AnnotatedTests

/-- What an option is given: a value, or two dashes where they count as the end of the options and
not as a value, so that the option stands there with an empty list. -/
inductive Given (α : Type) where
  | value (a : α)
  | emptied
  deriving DecidableEq, Repr

/-- What an option is given by a text behind it, with or without two dashes as a value. -/
def Given.ofText (dashesAreValue : Bool) (text : String) : Given String :=
  if text = "--" ∧ dashesAreValue = false then .emptied else .value text

def Given.setting {α : Type} (f : α → Value) : Given α → Value
  | .value a => f a
  | .emptied => .list []

/-- The path that an option gives. An empty path is none. -/
def Given.path? : Given String → Option String
  | .value path => if path = "" then none else some path
  | .emptied => none

end AnnotatedTests
