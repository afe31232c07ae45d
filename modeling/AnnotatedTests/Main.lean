import AnnotatedTests.Command.Run

/-! The program: runs on the files of the system it is called on. -/
namespace AnnotatedTests

def errorCode : IO.Error → UInt32 × String
  | .alreadyExists _ code reason => (code, reason)
  | .otherError code reason => (code, reason)
  | .resourceBusy code reason => (code, reason)
  | .resourceVanished code reason => (code, reason)
  | .unsupportedOperation code reason => (code, reason)
  | .hardwareFault code reason => (code, reason)
  | .unsatisfiedConstraints code reason => (code, reason)
  | .illegalOperation code reason => (code, reason)
  | .protocolError code reason => (code, reason)
  | .timeExpired code reason => (code, reason)
  | .interrupted _ code reason => (code, reason)
  | .noFileOrDirectory _ code reason => (code, reason)
  | .invalidArgument _ code reason => (code, reason)
  | .permissionDenied _ code reason => (code, reason)
  | .resourceExhausted _ code reason => (code, reason)
  | .inappropriateType _ code reason => (code, reason)
  | .noSuchThing _ code reason => (code, reason)
  | .unexpectedEof => (0, "end of file")
  | .userError reason => (0, reason)

def refusalOf (e : IO.Error) : Refusal :=
  let (code, reason) := errorCode e
  let number := if 0x80000000 ≤ code then (0 - code).toNat else code.toNat
  let known := [Refusal.missing, .notDirectory, .isDirectory, .busy, .nameTooLong]
  (known.find? fun refusal => refusal.code == number).getD (.other number reason)

def attempt {α : Type} (path : String) (target : Option String) (action : IO α) :
    IO (Except Failure α) := do
  if holdsNul path then return .error .nulInPath
  try
    return .ok (← action)
  catch e =>
    return .error (.file ⟨refusalOf e, path, target⟩)

def systemDisk : Disk IO where
  read path := attempt path none (IO.FS.readBinFile path)
  write path text := attempt path none (IO.FS.writeFile path text)
  move source target := attempt source (some target) (IO.FS.rename source target)
  remove path := do
    let _ ← attempt path none (IO.FS.removeFile path)

/-- The program, for given rules on options and a given loader of configuration files. A failure
that a run has no words for is told as it is. -/
def program (rules : OptionRules) (load : Loader IO) (args : List String) : IO UInt32 := do
  let outcome ← run rules load systemDisk args
  IO.print outcome.stdout
  IO.eprint outcome.stderr
  match outcome.ending with
  | .ok code => return code.toUInt32
  | .error failure =>
    IO.eprintln failure.message
    return 1

end AnnotatedTests
