import AnnotatedTests.Source.Declaration
import AnnotatedTests.Source.Skeleton
import AnnotatedTests.Text.Line

/-! Scanning a source: its directive comments, each with the declaration that follows it, and
its function definitions at file scope. -/
namespace AnnotatedTests

/-- The text of a comment and the lines on which it begins and ends. -/
structure Comment where
  filename : String
  startLine : Int
  endLine : Int
  text : String
  deriving DecidableEq, Repr

structure Site where
  comment : Comment
  following : Option Declaration
  deriving DecidableEq, Repr

/-- What a source says about tests: its directive comments and the functions it defines. -/
structure Scan where
  filename : String
  sites : List Site
  definitions : List Declaration
  deriving DecidableEq, Repr

def defaultMarker : String := "cmocka"

def directiveOpening (marker : String) : List Char :=
  "/*!".toList ++ marker.toList

/-- Whether a text opens as a directive comment: the marker, then a blank or the comment's
end. -/
def isDirective (marker : String) (text : List Char) : Bool :=
  (directiveOpening marker).isPrefixOf text &&
    match text.drop (directiveOpening marker).length with
    | [] => false
    | '*' :: '/' :: _ => true
    | c :: _ => isBlank c

/-- The declaration that begins with the first character of the skeleton that is not blank, at
or behind an offset. -/
def declarationAfter? (source code : List Char) (filename : String) (offset : Nat) :
    Option Declaration :=
  let behind := code.drop offset
  let start := offset + (behind.takeWhile isBlank).length
  (shapeAt? (behind.dropWhile isBlank)).bind fun shape =>
    shape.declaration? ⟨filename, lineAt source start⟩

def sitesOf (source code : List Char) (filename marker : String) : List Site :=
  ((comments source).filter fun span => isDirective marker (span.slice source)).map fun span =>
    { comment :=
        { filename
          startLine := lineAt source span.start
          endLine := lineAt source ((span.stop : Int) - 1)
          text := String.ofList (span.slice source) }
      following := declarationAfter? source code filename span.stop }

/-- The functions that a skeleton defines where no brace is open. -/
def definitionsOf (source code : List Char) (filename : String) : List Declaration :=
  ((shapes code).filter fun found => found.depth == 0 && found.shape.defined).filterMap
    fun found => found.shape.declaration? ⟨filename, lineAt source found.offset⟩

def scan (source : List Char) (filename marker : String) : Scan :=
  let code := skeleton source
  { filename
    sites := sitesOf source code filename marker
    definitions := definitionsOf source code filename }

end AnnotatedTests
