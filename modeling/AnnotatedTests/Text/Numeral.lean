import AnnotatedTests.Text.Blank
import AnnotatedTests.Text.Digit

/-! Integers as they are written in an argument: blanks around, one sign, then digits of any
script with single underscores between them. -/
namespace AnnotatedTests

/-- No numeral of more digits than this is read. -/
def maxNumeralDigits : Nat := 4300

/-- The blanks that may stand around a numeral: all but the information separators. -/
def surroundsNumeral (c : Char) : Bool :=
  isBlank c && !(28 ≤ c.toNat && c.toNat ≤ 31)

/-- Reads digits and single underscores between them. The flag says whether a digit has just
been read, so that an underscore or the end may follow. -/
def unsignedFrom? (afterDigit : Bool) (value : Nat) : List Char → Option Nat
  | [] => if afterDigit then some value else none
  | c :: rest =>
    if c = '_' then if afterDigit then unsignedFrom? false value rest else none
    else (digitValue? c).bind fun digit => unsignedFrom? true (10 * value + digit) rest

/-- The number that an unsigned numeral denotes, if it is one of an admitted length. -/
def unsigned? (text : List Char) : Option Nat :=
  if maxNumeralDigits < text.countP (fun c => (digitValue? c).isSome) then none
  else unsignedFrom? false 0 text

def integer? (text : List Char) : Option Int :=
  let core := ((text.dropWhile surroundsNumeral).reverse.dropWhile surroundsNumeral).reverse
  match core with
  | '-' :: digits => (unsigned? digits).map fun n => -(n : Int)
  | '+' :: digits => (unsigned? digits).map fun n => (n : Int)
  | digits => (unsigned? digits).map fun n => (n : Int)

end AnnotatedTests
