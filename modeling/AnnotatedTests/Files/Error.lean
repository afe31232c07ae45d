import AnnotatedTests.Text.Quoted

/-! Failures of the file system. -/
namespace AnnotatedTests

/-- Why the file system refuses something. -/
inductive Refusal where
  | missing
  | notDirectory
  | isDirectory
  | busy
  | nameTooLong
  /-- Any other reason, by the system's number and words for it. -/
  | other (code : Nat) (reason : String)
  deriving DecidableEq, Repr

def Refusal.code : Refusal → Nat
  | .missing => 2
  | .notDirectory => 20
  | .isDirectory => 21
  | .busy => 16
  | .nameTooLong => 36
  | .other code _ => code

def Refusal.reason : Refusal → String
  | .missing => "No such file or directory"
  | .notDirectory => "Not a directory"
  | .isDirectory => "Is a directory"
  | .busy => "Device or resource busy"
  | .nameTooLong => "File name too long"
  | .other _ reason => reason

/-- A refused operation, by the path or the two paths that it was about. -/
structure FileError where
  refusal : Refusal
  path : String
  target : Option String
  deriving DecidableEq, Repr

def FileError.message (e : FileError) : String :=
  let paths := match e.target with
    | none => quoted e.path
    | some target => quoted e.path ++ " -> " ++ quoted target
  s!"[Errno {e.refusal.code}] {e.refusal.reason}: {paths}"

end AnnotatedTests
