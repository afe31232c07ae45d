import AnnotatedTests.Directive.Parse
import AnnotatedTests.Registry.Basic
import AnnotatedTests.Registry.GroupName

/-! Collecting directives, file by file in the order of the files. Groups, tests and references
are recorded; names that no file has declared yet are no problem at this stage. -/
namespace AnnotatedTests

/-- A group while its tests are being collected: its fixtures so far and its tests' names. -/
structure Draft where
  name : String
  place : Place
  setup : Option String
  teardown : Option String
  tests : List String
  deriving DecidableEq, Repr

structure Collection where
  files : List String
  drafts : List Draft
  tests : List Test
  symbols : SymbolTable
  references : List Reference
  problems : List Problem
  events : List Event
  deriving DecidableEq, Repr

def Collection.empty : Collection := ⟨[], [], [], [], [], [], []⟩

/-- What the reading of directives depends on: their marker, and the timeout of tests that set
none. -/
structure Conventions where
  marker : String
  defaultTimeout : Int
  deriving DecidableEq, Repr

def Conventions.standard : Conventions := ⟨defaultMarker, 10⟩

namespace Collection

def report (c : Collection) (cause : Cause) (place : Place) : Collection :=
  { c with problems := c.problems ++ [⟨cause, place⟩] }

/-- Records a declaration, with a warning if it repeats a definition. -/
def declare (c : Collection) (d : Declaration) : Collection :=
  { c with
    symbols := c.symbols.declare d
    events := c.events ++ (c.symbols.repeated? d).toList }

def refer (c : Collection) (name : String) (usage : Usage) (place : Place) : Collection :=
  { c with references := c.references ++ [⟨name, usage, place⟩] }

def referIf (c : Collection) (name : Option String) (usage : Usage) (place : Place) :
    Collection :=
  match name with
  | some name => c.refer name usage place
  | none => c

/-- Records that a group is mentioned; the first mention is the group's place. -/
def mention (c : Collection) (name : String) (place : Place) : Collection :=
  if c.drafts.any fun draft => draft.name == name then c
  else { c with drafts := c.drafts ++ [⟨name, place, none, none, []⟩] }

def changeDraft (c : Collection) (name : String) (f : Draft → Draft) : Collection :=
  { c with drafts := c.drafts.map fun draft => if draft.name = name then f draft else draft }

/-- Records a group directive: its fixtures replace earlier ones, slot by slot. -/
def defineGroup (c : Collection) (d : Directive) (name : String) : Collection :=
  let merged := (c.mention name d.place).changeDraft name fun draft =>
    { draft with
      setup := d.attributes.setup <|> draft.setup
      teardown := d.attributes.teardown <|> draft.teardown }
  (merged.referIf d.attributes.setup (.groupFixture .setup name) d.place).referIf
    d.attributes.teardown (.groupFixture .teardown name) d.place

/-- Records a test, unless there is one of its name. -/
def addTest (c : Collection) (conventions : Conventions) (d : Directive) (current name : String) :
    Collection :=
  match c.tests.find? fun test => test.name == name with
  | some previous => c.report (.duplicateTest name previous.place) d.place
  | none =>
    let group := d.attributes.group.getD current
    let test : Test :=
      { name, group, symbol := name
        setup := d.attributes.setup
        teardown := d.attributes.teardown
        disabled := d.attributes.disabled.getD false
        timeout := (d.attributes.timeout.map fun n => (n : Int)).getD conventions.defaultTimeout
        place := d.place }
    let added := ({ c with tests := c.tests ++ [test] }.mention group d.place).changeDraft group
      fun draft => { draft with tests := draft.tests ++ [name] }
    ((added.refer name .test d.place).referIf test.setup (.testFixture .setup name) d.place).referIf
      test.teardown (.testFixture .teardown name) d.place

end Collection

/-- The function that a directive is about: the one that it names, or else the one that follows
it. -/
def Directive.target? (d : Directive) (following : Option Declaration) : Option String :=
  d.name <|> following.map Declaration.identifier

/-- Whether a directive makes its function a test: it says so, it gives an attribute that only
tests have, or the function that follows looks like one. -/
def Directive.makesTest (d : Directive) (following : Option Declaration) : Bool :=
  match d.kind with
  | .test => true
  | .bare => d.attributes != .empty || following.any fun f => f.fits .test
  | _ => false

namespace Collection

/-- Does something with the function that a directive is about; without one it is an orphan. -/
def withTarget (c : Collection) (d : Directive) (following : Option Declaration)
    (f : String → Collection) : Collection :=
  match d.target? following with
  | some name => f name
  | none => c.report .orphan d.place

/-- Records what a directive asks for. `current` is the group that tests are in here. -/
def follow (c : Collection) (conventions : Conventions) (current : String) (d : Directive)
    (following : Option Declaration) : Collection :=
  match d.kind with
  | .group => c.defineGroup d (d.name.getD "")
  | .setup => c.withTarget d following fun name => c.refer name (.fixture .setup) d.place
  | .teardown => c.withTarget d following fun name => c.refer name (.fixture .teardown) d.place
  | _ =>
    if d.makesTest following then
      c.withTarget d following fun name => c.addTest conventions d current name
    else if following.isNone then c.report .orphan d.place
    else c

def declareIf (c : Collection) (d : Option Declaration) : Collection :=
  match d with
  | some d => c.declare d
  | none => c

end Collection

def Directive.groupAfter (d : Directive) (current : String) : String :=
  if d.kind = .group then d.name.getD current else current

namespace Collection

/-- Records the directives of a file. A numeral that is too long to be read ends the file where
it stands; its number of digits is the second result. -/
def addSites (c : Collection) (conventions : Conventions) (current : String) :
    List Site → Collection × Option Nat
  | [] => (c, none)
  | site :: rest =>
    match site.comment.directive conventions.marker with
    | .error (.malformed why) =>
      addSites
        (c.report (.malformed why) ⟨site.comment.filename, site.comment.startLine⟩)
        conventions current rest
    | .error (.numeralTooLong digits) => (c, some digits)
    | .ok d =>
      addSites ((c.declareIf site.following).follow conventions current d site.following)
        conventions (d.groupAfter current) rest

def addFile (c : Collection) (conventions : Conventions) (file : Scan) :
    Collection × Option Nat :=
  let opened := { c with files := c.files ++ [file.filename] }
  (file.definitions.foldl declare opened).addSites conventions (defaultGroupName file.filename)
    file.sites

/-- Records files in order, up to the first that cannot be read to its end. -/
def addFiles (c : Collection) (conventions : Conventions) :
    List Scan → Collection × Option Nat
  | [] => (c, none)
  | file :: rest =>
    match c.addFile conventions file with
    | (after, none) => after.addFiles conventions rest
    | (after, some digits) => (after, some digits)

end Collection

end AnnotatedTests
