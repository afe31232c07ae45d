import AnnotatedTests.Text.Blank
import AnnotatedTests.Text.Identifier

/-! The shape of a type: its tokens, with every star a token of its own, and the one spelling
that all layouts of the same tokens share. -/
namespace AnnotatedTests

/-- Words that say how a function is stored or linked and are no part of what it returns. -/
def storageWords : List (List Char) :=
  ["static", "inline", "extern", "__inline", "__inline__"].map String.toList

/-- Words that begin a statement, so that what looks like a declaration is none. -/
def statementWords : List (List Char) :=
  ["return", "if", "else", "while", "for", "do", "switch", "case", "goto", "sizeof",
    "typedef"].map String.toList

/-- Words that belong to a type and cannot name a parameter or a function. -/
def typeWords : List (List Char) :=
  ["void", "char", "short", "int", "long", "float", "double", "signed", "unsigned", "_Bool",
    "bool", "const", "volatile", "restrict"].map String.toList

/-- Words after which the name of a type follows. -/
def tagWords : List (List Char) :=
  ["struct", "union", "enum"].map String.toList

def star : List Char := ['*']

/-- A star with a space on each side, any other character as it is. -/
def isolateStar (c : Char) : List Char :=
  if c = '*' then [' ', '*', ' '] else [c]

def typeTokens (text : List Char) : List (List Char) :=
  words (text.flatMap isolateStar)

/-- The one spelling of some tokens: a space between two of them unless one is a star. -/
def canonicalType : List (List Char) → List Char
  | [] => []
  | [token] => token
  | token :: next :: rest =>
    if token = star ∨ next = star then token ++ canonicalType (next :: rest)
    else token ++ ' ' :: canonicalType (next :: rest)

/-- Whether the last of some tokens, which follows `before`, names the parameter. -/
def namesParameter (before last : List Char) : Bool :=
  isIdentifier last && !typeWords.contains last && !tagWords.contains before

def dropParameterName (tokens : List (List Char)) : List (List Char) :=
  match tokens.reverse with
  | last :: before :: others =>
    if namesParameter before last then (before :: others).reverse else tokens
  | _ => tokens

/-- The type of a parameter in its one spelling, without the parameter's name. -/
def parameterShape (parameter : List Char) : List Char :=
  canonicalType (dropParameterName (typeTokens parameter))

end AnnotatedTests
