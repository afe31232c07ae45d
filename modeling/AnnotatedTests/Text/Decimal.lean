/-! Numbers with a fraction, as messages show them. Such a number is held in binary with 53
significant bits; its text has the fewest decimal digits that read back as the same number,
and of those the nearest. -/
namespace AnnotatedTests

/-- A number as it is written: its digits as one number, and the power of ten to multiply it
with. -/
structure Decimal where
  negative : Bool
  digits : Nat
  exponent : Int
  deriving DecidableEq, Repr

structure Quotient where
  num : Nat
  den : Nat

/-- A power with an exponent of either sign, as a quotient. -/
def signedPower (base : Nat) (exponent : Int) : Quotient :=
  ⟨base.pow exponent.toNat, base.pow (-exponent).toNat⟩

def Quotient.mul (a b : Quotient) : Quotient := ⟨a.num * b.num, a.den * b.den⟩

/-- The quotient rounded to an integer; a half goes to the even neighbour. -/
def Quotient.round (a : Quotient) : Nat :=
  let whole := a.num / a.den
  let twice := 2 * (a.num % a.den)
  if twice < a.den then whole
  else if a.den < twice then whole + 1
  else whole + whole % 2

structure Binary where
  multiple : Nat
  exponent : Int
  deriving DecidableEq, Repr

/-- The exponent for which a quotient has 53 bits before the point, or the smallest exponent
there is. -/
def binaryExponent (a : Quotient) : Int :=
  let low : Int := (a.num.log2 : Int) - a.den.log2 - 53
  let scaled := a.mul (signedPower 2 (-low))
  max (if scaled.num / scaled.den < Nat.pow 2 53 then low else low + 1) (-1074)

/-- The number with 53 significant bits that is nearest to a quotient. -/
def nearestBinary (a : Quotient) : Binary :=
  let exponent := binaryExponent a
  let multiple := (a.mul (signedPower 2 (-exponent))).round
  if multiple = Nat.pow 2 53 then ⟨Nat.pow 2 52, exponent + 1⟩ else ⟨multiple, exponent⟩

def Binary.quotient (b : Binary) : Quotient :=
  (signedPower 2 b.exponent).mul ⟨b.multiple, 1⟩

def digitCount (n : Nat) : Nat := (Nat.toDigits 10 n).length

/-- The place of the first digit of a quotient: one less than the number of digits before its
point, negative where it begins behind the point. -/
def leadingPlace (a : Quotient) : Int :=
  let guess : Int := (digitCount a.num : Int) - digitCount a.den
  let scaled := a.mul (signedPower 10 (-guess))
  if scaled.num < scaled.den then guess - 1 else guess

/-- The neighbours of a binary number among those with `count` decimal digits, the nearer one
first, each with the place of its last digit. -/
def decimalNeighbours (b : Binary) (count : Nat) : List (Nat × Int) :=
  let last : Int := leadingPlace b.quotient - (count : Int) + 1
  let scaled := b.quotient.mul (signedPower 10 (-last))
  let below := scaled.num / scaled.den
  if scaled.round = below then [(below, last), (below + 1, last)]
  else [(below + 1, last), (below, last)]

/-- The fewest digits that read back as a binary number, with the place of the last. -/
def shortestDigits (b : Binary) : Nat × Int :=
  let counts := (List.range 17).map (· + 1)
  let readsBack := fun (digits : Nat × Int) =>
    nearestBinary ((signedPower 10 digits.2).mul ⟨digits.1, 1⟩) == b
  ((counts.flatMap (decimalNeighbours b)).find? readsBack).getD (0, 0)

def trimZeros (digits : List Char) : List Char :=
  (digits.reverse.dropWhile (· == '0')).reverse

/-- A row of digits whose first stands at the given place, with a point and at least one digit
on either side of it, or with an exponent if the place is far from the point. -/
def placeDigits (digits : List Char) (place : Int) : List Char :=
  if -4 ≤ place ∧ place < 16 then
    if place < 0 then
      "0.".toList ++ List.replicate (-place - 1).toNat '0' ++ digits
    else
      let whole := digits.take (place + 1).toNat
      let fraction := digits.drop (place + 1).toNat
      whole ++ List.replicate ((place + 1).toNat - whole.length) '0' ++ ['.'] ++
        (if fraction.isEmpty then ['0'] else fraction)
  else
    let sign := if place < 0 then '-' else '+'
    let power := Nat.toDigits 10 place.natAbs
    let mantissa := match digits with
      | first :: second :: rest => first :: '.' :: second :: rest
      | few => few
    mantissa ++ ['e', sign] ++ (if power.length < 2 then '0' :: power else power)

/-- The number with 53 significant bits that a number is held as, unless it is too large. What is
far too large or too small is told by the place of its first digit. -/
def Decimal.nearest? (d : Decimal) : Option Binary :=
  let place := d.exponent + digitCount d.digits
  if d.digits = 0 ∨ place < -330 then some ⟨0, 0⟩
  else if 310 < place then none
  else
    let b := nearestBinary ((signedPower 10 d.exponent).mul ⟨d.digits, 1⟩)
    if 971 < b.exponent then none else some b

def Decimal.text (d : Decimal) : String :=
  let body := match d.nearest? with
    | none => "inf".toList
    | some b =>
      if b.multiple = 0 then "0.0".toList
      else
        let (n, last) := shortestDigits b
        let digits := Nat.toDigits 10 n
        placeDigits (trimZeros digits) (last + (digits.length : Int) - 1)
  String.ofList (if d.negative then '-' :: body else body)

end AnnotatedTests
