/-! Hexadecimal digits of a fixed width, as escapes write them. -/
namespace AnnotatedTests

def hexDigit (n : Nat) : Char :=
  Char.ofNat (if n < 10 then 48 + n else 87 + n)

/-- The lowest digits of a number in base sixteen, as many as `width` says. -/
def hexPadded (width n : Nat) : List Char :=
  (List.range width).reverse.map fun place => hexDigit (n / Nat.pow 16 place % 16)

theorem length_hexPadded (width n : Nat) : (hexPadded width n).length = width := by
  simp [hexPadded]

end AnnotatedTests
