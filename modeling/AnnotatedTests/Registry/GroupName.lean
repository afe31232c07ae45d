import AnnotatedTests.Text.Digit

/-! The name of the group that a file's tests are in before any directive says otherwise. -/
namespace AnnotatedTests

def isNameChar (c : Char) : Bool :=
  let n := c.toNat
  (48 ≤ n && n ≤ 57) || (65 ≤ n && n ≤ 90) || (97 ≤ n && n ≤ 122) || c == '_'

def baseName (path : List Char) : List Char :=
  (path.reverse.takeWhile (· ≠ '/')).reverse

/-- The base name of a file up to its first dot, with an underscore for each character that
cannot stand in a C identifier, and one before it if it is empty or begins with a digit. -/
def defaultGroupName (filename : String) : String :=
  let stem := (baseName filename.toList).takeWhile (· ≠ '.')
  let name := stem.map fun c => if isNameChar c then c else '_'
  match name with
  | [] => "_"
  | c :: _ => String.ofList (if isAsciiDigit c then '_' :: name else name)

end AnnotatedTests
