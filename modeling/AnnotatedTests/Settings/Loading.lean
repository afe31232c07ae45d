import AnnotatedTests.Failure
import AnnotatedTests.Settings.Given

/-! Loading settings: those of a configuration file, with those given for one run on top. -/
namespace AnnotatedTests

/-- A configuration file that has been opened. -/
structure OpenFile where
  path : String
  bytes : ByteArray

/-- What loads configuration files: it gives the settings that an open file has, before they are
checked, or says why there are none. A file may name others that count too, so that its path matters
and more can be read on the way. -/
abbrev Loader (m : Type → Type) := Given OpenFile → m (Except Failure Entries)

/-- The settings of a run from those of a file and those given for this run, which count more;
with them the warnings about keys that no setting has. -/
def loadSettings (file given : Entries) : Except RefusedSetting Settings × List Event :=
  let entries := file.overlay given.given
  (entries.settings, entries.warnings)

end AnnotatedTests
