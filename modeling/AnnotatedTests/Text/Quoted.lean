import AnnotatedTests.Text.Hex
import AnnotatedTests.Text.Printable

/-! Texts in quotes, as messages show file names and rejected values. Apostrophes enclose the
text unless it holds some and no quotation mark; what cannot be shown as it is gets a
backslash. -/
namespace AnnotatedTests

/-- The character that encloses a quoted text. -/
def enclosingQuote (text : List Char) : Char :=
  if text.contains '\'' && !text.contains '"' then '"' else '\''

def quotedChar (quote c : Char) : List Char :=
  if c = quote ∨ c = '\\' then ['\\', c]
  else if c = '\t' then ['\\', 't']
  else if c = '\n' then ['\\', 'n']
  else if c = '\r' then ['\\', 'r']
  else if isPrintable c then [c]
  else if c.toNat < 0x100 then '\\' :: 'x' :: hexPadded 2 c.toNat
  else if c.toNat < 0x10000 then '\\' :: 'u' :: hexPadded 4 c.toNat
  else '\\' :: 'U' :: hexPadded 8 c.toNat

def quoted (text : String) : String :=
  let quote := enclosingQuote text.toList
  String.ofList ([quote] ++ text.toList.flatMap (quotedChar quote) ++ [quote])

end AnnotatedTests
