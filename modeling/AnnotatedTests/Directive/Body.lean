import AnnotatedTests.Source.Scan

/-! The body of a directive comment: what it says once the delimiters, the marker and the
stars that continue it from line to line are gone. -/
namespace AnnotatedTests

/-- The text behind a directive's opening, or the whole text if it does not open so. -/
def dropOpening (marker : String) (text : List Char) : List Char :=
  if (directiveOpening marker).isPrefixOf text then text.drop (directiveOpening marker).length
  else text

def dropClosing (text : List Char) : List Char :=
  match text.reverse with
  | '/' :: '*' :: before => before.reverse
  | _ => text

/-- One line of a comment without the blanks around it and one star before its words. -/
def continuedLine (line : List Char) : List Char :=
  match strip line with
  | '*' :: rest => rest
  | other => other

def directiveBody (marker : String) (text : List Char) : List Char :=
  let inner := dropClosing (dropOpening marker text)
  strip ([' '].intercalate ((inner.splitOn '\n').map continuedLine))

def directiveWords (marker : String) (text : List Char) : List String :=
  (words (directiveBody marker text)).map String.ofList

end AnnotatedTests
