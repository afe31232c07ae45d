import AnnotatedTests.Text.Hex

/-! JSON text: two spaces of indentation for each level, ASCII only, and an empty list on one
line. -/
namespace AnnotatedTests

inductive Json where
  | null
  | text (s : String)
  | list (items : List Json)
  | object (fields : List (String × Json))
  deriving Repr

def unitEscape (unit : Nat) : List Char :=
  '\\' :: 'u' :: hexPadded 4 unit

/-- How a character stands inside a JSON text: ASCII as it is but for quotes, backslashes and
controls, and any other by its one or two UTF-16 units. -/
def jsonChar (c : Char) : List Char :=
  let n := c.toNat
  if c = '"' then ['\\', '"']
  else if c = '\\' then ['\\', '\\']
  else if c = '\n' then ['\\', 'n']
  else if c = '\r' then ['\\', 'r']
  else if c = '\t' then ['\\', 't']
  else if n = 8 then ['\\', 'b']
  else if n = 12 then ['\\', 'f']
  else if 32 ≤ n ∧ n < 127 then [c]
  else if n < 0x10000 then unitEscape n
  else unitEscape (0xD800 + (n - 0x10000) / 0x400) ++ unitEscape (0xDC00 + (n - 0x10000) % 0x400)

def jsonText (text : List Char) : List Char :=
  '"' :: text.flatMap jsonChar ++ ['"']

/-- A line end, and the indentation of a level. -/
def newLine (level : Nat) : List Char :=
  '\n' :: List.replicate (2 * level) ' '

mutual

/-- The text of a value whose items are one level deeper than `level`. -/
def Json.render (level : Nat) : Json → List Char
  | .null => "null".toList
  | .text s => jsonText s.toList
  | .list [] => "[]".toList
  | .list (item :: rest) =>
    '[' :: newLine (level + 1) ++ item.render (level + 1) ++ renderItems (level + 1) rest ++
      newLine level ++ [']']
  | .object [] => "\x7b\x7d".toList
  | .object ((key, value) :: rest) =>
    '\x7b' :: newLine (level + 1) ++ jsonText key.toList ++ ": ".toList ++
      value.render (level + 1) ++ renderFields (level + 1) rest ++ newLine level ++ ['\x7d']

def renderItems (level : Nat) : List Json → List Char
  | [] => []
  | item :: rest => ',' :: newLine level ++ item.render level ++ renderItems level rest

def renderFields (level : Nat) : List (String × Json) → List Char
  | [] => []
  | (key, value) :: rest =>
    ',' :: newLine level ++ jsonText key.toList ++ ": ".toList ++ value.render level ++
      renderFields level rest

end

end AnnotatedTests
