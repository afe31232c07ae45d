import AnnotatedTests.Output.Manifest
import AnnotatedTests.Output.Template

/-! Runners: C programs that run the tests of a registry. A runner consists of lines; it
declares every function it calls, then lists the tests of each group in a table, then the
groups. -/
namespace AnnotatedTests

/-- The line that includes a header. A header that opens with a quote or an angle bracket is
taken as it is, any other is put in quotes. -/
def includeLine (header : String) : String :=
  match header.toList with
  | '<' :: _ => "#include " ++ header
  | '"' :: _ => "#include " ++ header
  | _ => "#include \"" ++ header ++ "\""

def Entry.prototype (e : Entry) : String :=
  e.role.returnKind ++ " " ++ e.symbol ++ "(void **state);"

/-- The prototypes of some functions behind those of `current`, under a comment for each
file, and with an empty line between two files. -/
def declarationLines (current : Option String) : List Entry → List String
  | [] => []
  | e :: rest =>
    let heading := "/* " ++ e.file ++ " */"
    let opening :=
      if current = some e.file then []
      else if current.isNone then [heading]
      else ["", heading]
    opening ++ e.prototype :: declarationLines (some e.file) rest

def fixtureCell (fixture : Option String) : String :=
  match fixture with
  | none => "NULL"
  | some name => if name = "" then "NULL" else name

def Test.row (test : Test) : String :=
  "  \x7b \"" ++ test.name ++ "\", " ++ test.symbol ++ ", " ++ fixtureCell test.setup ++ ", " ++
    fixtureCell test.teardown ++ ", " ++ (if test.disabled then "1" else "0") ++ ", " ++
    toString test.timeout ++ " \x7d,"

/-- The table of a group's tests; a group without tests has none. -/
def Group.tableLines (group : Group) : List String :=
  if group.tests.isEmpty then []
  else
    ["static const struct runner_test runner_group_" ++ group.name ++ "[] = \x7b"] ++
      group.tests.map Test.row ++ ["\x7d;", ""]

def Group.row (group : Group) : String :=
  if group.tests.isEmpty then "  \x7b \"" ++ group.name ++ "\", NULL, 0 \x7d,"
  else
    "  \x7b \"" ++ group.name ++ "\", runner_group_" ++ group.name ++ ", " ++
      toString group.tests.length ++ " \x7d,"

def tableLines (groups : List Group) : List String :=
  groups.flatMap Group.tableLines ++
    ["static const struct runner_group runner_groups[] = \x7b"] ++ groups.map Group.row ++
    ["  \x7b NULL, NULL, 0 \x7d", "\x7d;"]

def openingLines (files : List String) : List String :=
  ["/*", " * Test runner generated by cmocka-runner-gen. Do not edit.", " *"] ++
    (if files.isEmpty then [" * Sources: none"]
      else " * Sources:" :: files.map fun file => " *   " ++ file) ++
    [" */"]

def runnerLines (registry : Registry) (includes : List String) : List String :=
  let declarations := declarationLines none registry.entries
  openingLines registry.files ++
    systemHeaders.map (fun header => includeLine ("<" ++ header ++ ">")) ++ includes ++ [""] ++
    (if declarations.isEmpty then [] else declarations ++ [""]) ++
    runnerTypes ++ [""] ++ tableLines registry.groups ++ [""] ++ runnerProgram

def joinLines (lines : List String) : String :=
  String.join (lines.map fun line => line ++ "\n")

def includeLines : List Value → Except Value (List String)
  | [] => .ok []
  | .text header :: rest => (includeLines rest).map fun lines => includeLine header :: lines
  | other :: _ => .error other

end AnnotatedTests
