/-! Blank characters, and what they separate: a text is stripped of the blanks at its ends
and cut into its words, the longest pieces that hold no blank. -/
namespace AnnotatedTests

/-- The characters that separate words: the controls from tab to carriage return, the four
information separators, and every space of Unicode that is not of zero width. -/
def isBlank (c : Char) : Bool :=
  let n := c.toNat
  (9 ≤ n && n ≤ 13) || (28 ≤ n && n ≤ 32) || n == 0x85 || n == 0xA0 || n == 0x1680 ||
    (0x2000 ≤ n && n ≤ 0x200A) || n == 0x2028 || n == 0x2029 || n == 0x202F || n == 0x205F ||
    n == 0x3000

def strip (text : List Char) : List Char :=
  ((text.dropWhile isBlank).reverse.dropWhile isBlank).reverse

def words (text : List Char) : List (List Char) :=
  (text.splitOnP isBlank).filter fun word => !word.isEmpty

theorem isBlank_newline : isBlank '\n' = true := by decide

theorem isBlank_space : isBlank ' ' = true := by decide

theorem strip_nil : strip [] = [] := rfl

theorem words_nil : words [] = [] := rfl

end AnnotatedTests
