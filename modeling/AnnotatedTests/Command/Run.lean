import AnnotatedTests.Command.Generate
import AnnotatedTests.Command.Usage
import AnnotatedTests.Settings.Loading

/-! Runs of the program: from its arguments to its outputs, its messages and its exit code.
Each text goes to a file beside its target first, and targets are replaced only once all texts are
written. -/
namespace AnnotatedTests

/-- How a run ends: with an exit code, or with a failure that it has no words for. -/
structure Outcome where
  ending : Except Failure Nat
  stdout : String
  stderr : String
  deriving Repr

def stagedPath (path : String) : String := path ++ ".tmp"

/-- Writes the texts of some outputs beside their targets, up to the first that cannot be
written. The first result are the files written. -/
def stageAll {m : Type → Type} [Monad m] (disk : Disk m) :
    List (String × String) → m (List String × Option Failure)
  | [] => pure ([], none)
  | (path, text) :: rest => do
    match ← disk.write (stagedPath path) text with
    | .error failure => pure ([], some failure)
    | .ok () =>
      let (others, failure) ← stageAll disk rest
      pure (stagedPath path :: others, failure)

def removeAll {m : Type → Type} [Monad m] (disk : Disk m) : List String → m Unit
  | [] => pure ()
  | path :: rest => do
    disk.remove path
    removeAll disk rest

def moveAll {m : Type → Type} [Monad m] (disk : Disk m) :
    List (String × String) → m (List Event × Option Failure)
  | [] => pure ([], none)
  | (path, _) :: rest => do
    match ← disk.move (stagedPath path) path with
    | .error failure => pure ([], some failure)
    | .ok () =>
      let (others, failure) ← moveAll disk rest
      pure (.wrote path :: others, failure)

/-- Writes some outputs. Staged files are removed again if one cannot be staged. -/
def writeAll {m : Type → Type} [Monad m] (disk : Disk m) (outputs : List (String × String)) :
    m (List Event × Option Failure) := do
  match ← stageAll disk outputs with
  | (_, none) => moveAll disk outputs
  | (staged, some (.file e)) =>
    removeAll disk staged
    pure ([], some (.file e))
  | (_, some failure) => pure ([], some failure)

def leastLevel (verbosity : Nat) : Level :=
  match verbosity with
  | 0 => .warning
  | 1 => .info
  | _ => .debug

/-- The outputs that the options ask for. An empty path asks for none. -/
def Options.outputs (options : Options) (runner manifest : String) : List (String × String) :=
  let place := fun (given : Option (Given String)) (text : String) =>
    (given.bind Given.path?).toList.map fun path => (path, text)
  place options.output runner ++ place options.manifest manifest

def Options.printsRunner (options : Options) : Bool :=
  (options.output.bind Given.path?).isNone

def Options.entries (options : Options) : Entries :=
  let orNull := fun {α : Type} (f : α → Value) (value : Option α) => (value.map f).getD .null
  [(SettingKey.marker.word, orNull (Given.setting .text) options.marker),
    (SettingKey.defaultTimeout.word, orNull (Given.setting .int) options.timeout),
    (SettingKey.jobs.word, orNull (Given.setting .int) options.jobs),
    (SettingKey.manifestFormat.word, orNull (Given.setting .text) options.manifestFormat),
    (SettingKey.includes.word,
      orNull (fun headers => .list (headers.map (Given.setting .text))) options.includes)]

def Options.outcome (options : Options) (events : List Event) (ending : Except Failure Nat)
    (stdout : String) : Outcome :=
  ⟨ending, stdout, joinLines (logLines (leastLevel options.verbosity) events)⟩

/-- The outcome of a run whose settings are refused, or cannot be read. -/
def Options.refused (options : Options) (events : List Event) (failure : Failure) : Outcome :=
  let told := options.outcome events (.ok 2) ""
  match failure with
  | .file e => { told with stderr := told.stderr ++ joinLines [s!"error: {e.message}"] }
  | .settings why => { told with stderr := told.stderr ++ joinLines [s!"error: {why.message}"] }
  | other => { told with ending := .error other }

/-- The settings of the configuration file that the options name, if they name one. -/
def Options.readConfig {m : Type → Type} [Monad m] (options : Options) (load : Loader m)
    (disk : Disk m) : m (Except Failure Entries) := do
  match options.config with
  | none => pure (.ok [])
  | some .emptied => load .emptied
  | some (.value path) =>
    match ← disk.read path with
    | .error failure => pure (.error failure)
    | .ok bytes => load (.value ⟨path, bytes⟩)

def problemEvents (problems : List Problem) : List Event :=
  (problems.map fun problem => Event.problem problem.text) ++ [.givenUp problems.length]

def Options.deliver {m : Type → Type} [Monad m] (options : Options) (disk : Disk m)
    (events : List Event) (runner manifest : String) : m Outcome := do
  match ← writeAll disk (options.outputs runner manifest) with
  | (written, none) =>
    pure (options.outcome (events ++ written) (.ok 0)
      (if options.printsRunner then runner else ""))
  | (written, some (.file e)) =>
    pure (options.outcome (events ++ written ++ [.outputUnwritable e.message]) (.ok 1) "")
  | (written, some failure) => pure (options.outcome (events ++ written) (.error failure) "")

def Options.runWith {m : Type → Type} [Monad m] (options : Options) (disk : Disk m)
    (settings : Settings) (events : List Event) : m Outcome := do
  let (files, unread) ← scanPaths disk settings.marker options.sources
  let events := events ++ files.map Scan.event
  match unread with
  | some (.file e) =>
    pure (options.outcome (events ++ [.sourcesUnreadable e.message]) (.ok 1) "")
  | some failure => pure (options.outcome events (.error failure) "")
  | none =>
    let (result, more) := generate settings files options.output
    let events := events ++ more
    match result with
    | .error failure => pure (options.outcome events (.error failure) "")
    | .ok generated =>
      match generated.outputs with
      | none =>
        pure (options.outcome (events ++ problemEvents generated.registry.problems) (.ok 1) "")
      | some (runner, manifest) => options.deliver disk events runner manifest

def Options.run {m : Type → Type} [Monad m] (options : Options) (load : Loader m)
    (disk : Disk m) : m Outcome := do
  match ← options.readConfig load disk with
  | .error failure => pure (options.refused [] failure)
  | .ok entries =>
    let (loaded, events) := loadSettings entries options.entries
    match loaded with
    | .error refused => pure (options.refused events (.settings (.refused refused)))
    | .ok settings => options.runWith disk settings events

/-- A run with some arguments, for the rules by which its options are read, for what loads
configuration files and for a disk. -/
def run {m : Type → Type} [Monad m] (rules : OptionRules) (load : Loader m) (disk : Disk m)
    (args : List String) : m Outcome :=
  match parseArguments rules args with
  | .help => pure ⟨.ok 0, joinLines (usageLines ++ helpLines), ""⟩
  | .error e => pure ⟨.ok 2, "", joinLines (usageErrorLines e)⟩
  | .options options => options.run load disk

end AnnotatedTests
