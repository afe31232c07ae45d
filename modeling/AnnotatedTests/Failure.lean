import AnnotatedTests.Files.Error
import AnnotatedTests.Settings.Schema
import AnnotatedTests.Text.Numeral

/-! Failures: what ends a run before its result is known. -/
namespace AnnotatedTests

inductive SettingsFailure where
  /-- The configuration file cannot be loaded, for a reason that its loader gives. -/
  | unloadable (message : String)
  | refused (setting : RefusedSetting)
  deriving DecidableEq, Repr

def SettingsFailure.message : SettingsFailure → String
  | .unloadable message => message
  | .refused setting =>
    s!"invalid generator configuration: '{setting.key.word}': {setting.why.message}"

/-- What ends a run. -/
inductive Failure where
  | file (e : FileError)
  | nulInPath
  | settings (why : SettingsFailure)
  /-- The loader of configuration files fails in a way that is no refusal, with an error of the
  given type. -/
  | loader (typeName message : String)
  | numeralTooLong (digits : Nat)
  | headerNotText (typeName : String)
  | problemsLeft (count : Nat)
  | unknownFormat (word : String)
  deriving DecidableEq, Repr

def Failure.message : Failure → String
  | .file e => e.message
  | .nulInPath => "embedded null byte"
  | .settings why => why.message
  | .loader _ message => message
  | .numeralTooLong digits =>
    s!"Exceeds the limit ({maxNumeralDigits} digits) for integer string conversion: value has {digits} digits; use sys.set_int_max_str_digits() to increase the limit"
  | .headerNotText typeName => s!"'{typeName}' object has no attribute 'startswith'"
  | .problemsLeft count => s!"{count} error(s) prevent runner generation"
  | .unknownFormat word => s!"unknown manifest format '{word}'"

end AnnotatedTests
