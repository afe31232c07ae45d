/-! Places: a line of a file. -/
namespace AnnotatedTests

/-- A line of a file. Line zero stands for a file as a whole. -/
structure Place where
  filename : String
  line : Int
  deriving DecidableEq, Repr

def Place.text (place : Place) : String :=
  place.filename ++ ":" ++ toString place.line

/-- A place at the head of a report, which leaves out what is not known. -/
def Place.heading (place : Place) : String :=
  let file := if place.filename = "" then "<unknown>" else place.filename
  if place.line = 0 then file else file ++ ":" ++ toString place.line

theorem heading_eq_text {place : Place} (file : place.filename ≠ "") (line : place.line ≠ 0) :
    place.heading = place.text := by
  simp [Place.heading, Place.text, file, line]

end AnnotatedTests
