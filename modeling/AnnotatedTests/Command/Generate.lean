import AnnotatedTests.Files.Disk
import AnnotatedTests.Output.Rendering
import AnnotatedTests.Registry.Resolution
import AnnotatedTests.Text.Utf8

/-! From sources to outputs: reading and scanning files, then building the registry and
rendering what it gives. -/
namespace AnnotatedTests

def scanBytes (bytes : ByteArray) (path marker : String) : Scan :=
  scan (unifyLineEnds (decodeLossy bytes)) path marker

def Scan.event (file : Scan) : Event :=
  .fileScanned file.filename file.sites.length file.definitions.length

/-- Scans the files at some paths, in order, up to the first that cannot be read. -/
def scanPaths {m : Type → Type} [Monad m] (disk : Disk m) (marker : String) :
    List String → m (List Scan × Option Failure)
  | [] => pure ([], none)
  | path :: rest => do
    match ← disk.read path with
    | .error failure => pure ([], some failure)
    | .ok bytes =>
      let (others, failure) ← scanPaths disk marker rest
      pure (scanBytes bytes path marker :: others, failure)

def scannedEvent (files : List Scan) : Event :=
  .filesScanned files.length (files.flatMap Scan.sites).length

/-- What a run gives: the registry, and the texts of the runner and the manifest unless the
registry has problems. -/
structure Generated where
  registry : Registry
  outputs : Option (String × String)
  deriving DecidableEq, Repr

/-- What scanned files give under some settings, and the events on the way. The manifest names
the path of the runner, if it has one. -/
def generate (settings : Settings) (files : List Scan)
    (runnerPath : Option (Given String)) : Except Failure Generated × List Event :=
  let conventions : Conventions := ⟨settings.marker, settings.defaultTimeout⟩
  let (built, events) := buildRegistry conventions files
  let result : Except Failure Generated :=
    match built with
    | .error digits => .error (.numeralTooLong digits)
    | .ok registry =>
      if !registry.ok then .ok ⟨registry, none⟩
      else do
        let runner ← renderRunner registry settings.includes
        let manifest ← renderManifest registry settings.manifestFormat.word runnerPath
        return ⟨registry, some (runner, manifest)⟩
  (result, scannedEvent files :: events)

end AnnotatedTests
