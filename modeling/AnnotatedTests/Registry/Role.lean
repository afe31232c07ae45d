import AnnotatedTests.Source.Declaration

/-! Roles: what a function is for. A role fixes the signature that a function must have, and a
function has one role at most. -/
namespace AnnotatedTests

/-- What a function that directives refer to is for. -/
inductive Role where
  | test
  | setup
  | teardown
  deriving DecidableEq, Repr

def Role.label : Role → String
  | .test => "test"
  | .setup => "setup"
  | .teardown => "teardown"

def roleLabel (role : Option Role) : String :=
  (role.map Role.label).getD "unknown"

/-- The role that a word states, where `some none` is the role that is not known yet. -/
def roleOfLabel? : String → Option (Option Role)
  | "unknown" => some none
  | "test" => some (some .test)
  | "setup" => some (some .setup)
  | "teardown" => some (some .teardown)
  | _ => none

theorem roleOfLabel_roleLabel (role : Option Role) : roleOfLabel? (roleLabel role) = some role := by
  rcases role with _ | role
  · rfl
  · cases role <;> rfl

structure RoleClash where
  current : Role
  requested : Role
  deriving DecidableEq, Repr

def RoleClash.message (clash : RoleClash) : String :=
  s!"{clash.current.label} cannot become {clash.requested.label}"

/-- The role of a function after one more request. An unknown role becomes any, a request for
none changes nothing, and two roles clash unless they are the same. -/
def tighten (current requested : Option Role) : Except RoleClash (Option Role) :=
  match current, requested with
  | _, none => .ok current
  | none, some role => .ok (some role)
  | some old, some new => if old = new then .ok current else .error ⟨old, new⟩

theorem tighten_unknown (role : Option Role) : tighten none role = .ok role := by
  cases role <;> rfl

theorem tighten_self (role : Option Role) : tighten role role = .ok role := by
  cases role <;> simp [tighten]

def Role.returnKind : Role → String
  | .test => "void"
  | .setup => "int"
  | .teardown => "int"

def stateParams : List String := ["void**"]

def expectedSignature (name : String) (role : Role) : String :=
  s!"{role.returnKind} {name}(void **state)"

def Declaration.fits (d : Declaration) (role : Role) : Bool :=
  d.returnKind == role.returnKind && d.params == stateParams

/-- Whether a function has the shape that its role asks for; any has if no role is known. -/
def Declaration.fitsAny (d : Declaration) (role : Option Role) : Bool :=
  role.all d.fits

end AnnotatedTests
