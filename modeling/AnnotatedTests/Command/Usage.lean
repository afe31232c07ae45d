import AnnotatedTests.Command.Options

/-! What the command line says about itself. -/
namespace AnnotatedTests

def programName : String := "cmocka-runner-gen"

def usageLines : List String :=
  ["usage: cmocka-runner-gen [-h] [-o OUTPUT] [-m MANIFEST] [-c CONFIG]",
    "                         [--marker MARKER] [--timeout TIMEOUT] [--jobs JOBS]",
    "                         [--manifest-format \x7bjson,text\x7d] [--include INCLUDE]",
    "                         [-v]",
    "                         sources [sources ...]"]

def helpLines : List String :=
  ["",
    "Generate a cmocka test runner from /*!cmocka */ annotated sources",
    "",
    "positional arguments:",
    "  sources               Annotated C source files, in order",
    "",
    "options:",
    "  -h, --help            show this help message and exit",
    "  -o OUTPUT, --output OUTPUT",
    "                        Runner source to write (default: stdout)",
    "  -m MANIFEST, --manifest MANIFEST",
    "                        Manifest file to write",
    "  -c CONFIG, --config CONFIG",
    "                        YAML configuration file",
    "  --marker MARKER       Directive marker (default: cmocka)",
    "  --timeout TIMEOUT     Default test timeout in seconds (default: 10)",
    "  --jobs JOBS           Parallel scanner workers (default: 1)",
    "  --manifest-format \x7bjson,text\x7d",
    "                        Manifest format",
    "  --include INCLUDE     Extra header to include in the runner (repeatable)",
    "  -v, --verbose         More output"]

def usageErrorLines (e : UsageError) : List String :=
  usageLines ++ [s!"{programName}: error: {e.message}"]

end AnnotatedTests
