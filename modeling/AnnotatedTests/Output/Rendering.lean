import AnnotatedTests.Failure
import AnnotatedTests.Output.Runner

/-! Rendering: the texts that a registry gives once nothing is left to mend. -/
namespace AnnotatedTests

/-- The runner of a registry without problems, with some headers of its own. -/
def renderRunner (registry : Registry) (includes : List Value) : Except Failure String :=
  if !registry.ok then .error (.problemsLeft registry.problems.length)
  else
    match includeLines includes with
    | .ok lines => .ok (joinLines (runnerLines registry lines))
    | .error header => .error (.headerNotText header.typeName)

def renderManifest (registry : Registry) (format : String)
    (runner : Option (Given String)) : Except Failure String :=
  if !registry.ok then .error (.problemsLeft registry.problems.length)
  else
    match ManifestFormat.ofWord? format with
    | some format => .ok (manifestText format runner registry.entries)
    | none => .error (.unknownFormat format)

end AnnotatedTests
