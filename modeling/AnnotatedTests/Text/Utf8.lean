/-! UTF-8 with damage. Each longest beginning of a character that the next byte cannot
continue counts as one damaged place, which a reader shows as a replacement character. -/
namespace AnnotatedTests

/-- A character of which the first bytes have been read: the bits so far, and the ranges in
which the bytes still to come must lie. Nothing is pending when no byte is to come. -/
structure PendingChar where
  bits : Nat
  expected : List (Nat × Nat)

def PendingChar.none : PendingChar := ⟨0, []⟩

/-- What the first byte of a character gives: a character, a damaged place, or a character of
which more bytes have to come. Overlong forms and surrogates have no range to lie in. -/
def utf8First (byte : Nat) : List (Option Char) × PendingChar :=
  let rest : Nat × Nat := (0x80, 0xBF)
  if byte < 0x80 then ([some (Char.ofNat byte)], .none)
  else if byte < 0xC2 then ([Option.none], .none)
  else if byte < 0xE0 then ([], ⟨byte - 0xC0, [rest]⟩)
  else if byte = 0xE0 then ([], ⟨0, [(0xA0, 0xBF), rest]⟩)
  else if byte = 0xED then ([], ⟨0xD, [(0x80, 0x9F), rest]⟩)
  else if byte < 0xF0 then ([], ⟨byte - 0xE0, [rest, rest]⟩)
  else if byte = 0xF0 then ([], ⟨0, [(0x90, 0xBF), rest, rest]⟩)
  else if byte < 0xF4 then ([], ⟨byte - 0xF0, [rest, rest, rest]⟩)
  else if byte = 0xF4 then ([], ⟨4, [(0x80, 0x8F), rest, rest]⟩)
  else ([Option.none], .none)

/-- What one more byte gives after what is pending. -/
def utf8Next (pending : PendingChar) (byte : Nat) : List (Option Char) × PendingChar :=
  match pending.expected with
  | [] => utf8First byte
  | (low, high) :: others =>
    if low ≤ byte ∧ byte ≤ high then
      let bits := 64 * pending.bits + (byte - 0x80)
      if others.isEmpty then ([some (Char.ofNat bits)], .none) else ([], ⟨bits, others⟩)
    else
      let (found, after) := utf8First byte
      (Option.none :: found, after)

/-- The characters and damaged places of a row of bytes, in order. -/
def utf8Chars (pending : PendingChar) : List UInt8 → List (Option Char)
  | [] => if pending.expected.isEmpty then [] else [Option.none]
  | byte :: bytes =>
    let (found, after) := utf8Next pending byte.toNat
    found ++ utf8Chars after bytes

/-- The text of some bytes, with a replacement character for each damaged place. -/
def decodeLossy (bytes : ByteArray) : List Char :=
  (utf8Chars .none bytes.toList).map fun c => c.getD '\uFFFD'

end AnnotatedTests
