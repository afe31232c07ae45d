import AnnotatedTests.Directive.Basic
import AnnotatedTests.Registry.Reference

/-! Problems: what stands between the sources and a runner. Each has a cause and the place of
the directive or declaration that it is about. -/
namespace AnnotatedTests

inductive ProblemKind where
  | general
  | directiveSyntax
  | unknownSymbol
  | signatureMismatch
  | roleConflict
  | duplicateName
  | orphanDirective
  deriving DecidableEq, Repr

def ProblemKind.label : ProblemKind → String
  | .general => "GeneratorError"
  | .directiveSyntax => "DirectiveSyntaxError"
  | .unknownSymbol => "UnknownSymbolReference"
  | .signatureMismatch => "SignatureMismatch"
  | .roleConflict => "RoleConflict"
  | .duplicateName => "DuplicateName"
  | .orphanDirective => "OrphanDirective"

def ProblemKind.all : List ProblemKind :=
  [.general, .directiveSyntax, .unknownSymbol, .signatureMismatch, .roleConflict,
    .duplicateName, .orphanDirective]

/-- The text of a report. -/
def reportText (kind : ProblemKind) (place : Place) (message : String) : String :=
  s!"{place.heading}: {kind.label}: {message}"

/-- What causes a problem. -/
inductive Cause where
  | general (message : String)
  | malformed (why : Malformed)
  /-- A directive names no function and none follows it. -/
  | orphan
  | duplicateTest (name : String) (first : Place)
  | undeclared (name : String) (usage : Usage)
  | roleConflict (name : String) (clash : RoleClash) (first : Place)
  /-- A function that the runner has to call is static. -/
  | internal (name : String) (role : Role)
  | misshapen (name : String) (role : Role) (signature : String)
  deriving DecidableEq, Repr

def Cause.kind : Cause → ProblemKind
  | .general _ => .general
  | .malformed _ => .directiveSyntax
  | .orphan => .orphanDirective
  | .duplicateTest _ _ => .duplicateName
  | .undeclared _ _ => .unknownSymbol
  | .roleConflict _ _ _ => .roleConflict
  | .internal _ _ => .signatureMismatch
  | .misshapen _ _ _ => .signatureMismatch

def Cause.message : Cause → String
  | .general message => message
  | .malformed why => why.message
  | .orphan => "directive has no associated declaration and no explicit name"
  | .duplicateTest name first => s!"test '{name}' is already defined at {first.text}"
  | .undeclared name usage =>
    s!"{usage.context} refers to '{name}', which is not declared in any input file"
  | .roleConflict name clash first =>
    s!"'{name}' is used as {clash.requested.label} here but already as {clash.current.label} at {first.text}"
  | .internal name role =>
    s!"'{name}' is used as {role.label} but is static; static functions cannot be referenced from the runner"
  | .misshapen name role signature =>
    s!"'{name}' is used as {role.label} and must look like '{expectedSignature name role}', found '{signature}'"

/-- A problem, with the place that it is about. -/
structure Problem where
  cause : Cause
  place : Place
  deriving DecidableEq, Repr

def Problem.text (problem : Problem) : String :=
  reportText problem.cause.kind problem.place problem.cause.message

end AnnotatedTests
