import AnnotatedTests.Source.Place

/-! Events: what a run says about itself while it works, apart from its output. -/
namespace AnnotatedTests

inductive Level where
  | debug
  | info
  | warning
  | error
  deriving DecidableEq, Repr

def Level.label : Level → String
  | .debug => "DEBUG"
  | .info => "INFO"
  | .warning => "WARNING"
  | .error => "ERROR"

def Level.rank : Level → Nat
  | .debug => 0
  | .info => 1
  | .warning => 2
  | .error => 3

inductive Event where
  | unknownSetting (key : String)
  | fileScanned (path : String) (directives definitions : Nat)
  | filesScanned (files directives : Nat)
  | definedAgain (name : String) (again first : Place)
  | resolved (groups tests files problems : Nat)
  | wrote (path : String)
  | sourcesUnreadable (reason : String)
  | problem (report : String)
  | givenUp (problems : Nat)
  | outputUnwritable (reason : String)
  deriving DecidableEq, Repr

def Event.level : Event → Level
  | .unknownSetting _ => .warning
  | .fileScanned _ _ _ => .debug
  | .filesScanned _ _ => .info
  | .definedAgain _ _ _ => .warning
  | .resolved _ _ _ _ => .info
  | .wrote _ => .info
  | .sourcesUnreadable _ => .error
  | .problem _ => .error
  | .givenUp _ => .error
  | .outputUnwritable _ => .error

def Event.message : Event → String
  | .unknownSetting key => s!"config option '{key}': Unrecognised configuration name: {key}"
  | .fileScanned path directives definitions =>
    s!"scanned {path}: {directives} directive(s), {definitions} definition(s)"
  | .filesScanned files directives => s!"scanned {files} file(s), {directives} directive(s)"
  | .definedAgain name again first =>
    s!"{again.text}: '{name}' is also defined at {first.text}, using the first definition"
  | .resolved groups tests files problems =>
    s!"resolved {groups} group(s), {tests} test(s) from {files} file(s), {problems} error(s)"
  | .wrote path => s!"wrote {path}"
  | .sourcesUnreadable reason => s!"cannot read sources: {reason}"
  | .problem report => report
  | .givenUp problems => s!"{problems} error(s), no runner generated"
  | .outputUnwritable reason => s!"cannot write output: {reason}"

def Event.line (event : Event) : String :=
  s!"{event.level.label}: {event.message}"

/-- The lines of the events that matter at least as much as a level. -/
def logLines (least : Level) (events : List Event) : List String :=
  (events.filter fun event => least.rank ≤ event.level.rank).map Event.line

end AnnotatedTests
