import AnnotatedTests.Source.Place
import AnnotatedTests.Source.TypeShape

/-! Function declarations, told by their textual shape on a skeleton: a head of names and
stars, a flat parameter list in parentheses, then a body or a semicolon. -/
namespace AnnotatedTests

/-- A declared function: what it is called, takes and returns, where its declaration begins,
and whether it has a body there. -/
structure Declaration where
  identifier : String
  params : List String
  returnKind : String
  place : Place
  defined : Bool
  isStatic : Bool
  deriving DecidableEq, Repr

/-- The parameter list of a signature; without parameters it says so. -/
def parameterList (params : List String) : String :=
  if params.isEmpty then "void" else ", ".intercalate params

def Declaration.signature (d : Declaration) : String :=
  d.returnKind ++ " " ++ d.identifier ++ "(" ++ parameterList d.params ++ ")"

/-- Text in the shape of a function declaration: the texts before and inside its parentheses,
whether a body follows, and the number of characters up to and with the brace or semicolon. -/
structure Shape where
  head : List Char
  params : List Char
  defined : Bool
  length : Nat
  deriving DecidableEq, Repr

def isHeadChar (c : Char) : Bool :=
  isWordChar c || c == ' ' || c == '\t' || c == '\n' || c == '*'

def isParameterChar (c : Char) : Bool :=
  !(c == '(' || c == ')' || c == '\x7b' || c == '\x7d' || c == ';')

/-- Whether the character behind a parameter list makes it that of a declaration, and if so,
whether of one with a body. -/
def closesDeclaration? (c : Char) : Option Bool :=
  if c = '\x7b' then some true else if c = ';' then some false else none

/-- The declaration shape of a head and the text behind its opening parenthesis: the parameter
list, its closing parenthesis, and a body's brace or a semicolon after any blanks. -/
def shapeWithHead? (head inner : List Char) : Option Shape :=
  let params := inner.takeWhile isParameterChar
  match inner.dropWhile isParameterChar with
  | ')' :: behind =>
    let gap := behind.takeWhile isBlank
    match behind.dropWhile isBlank with
    | last :: _ => (closesDeclaration? last).map fun defined =>
        { head, params := strip params, defined,
          length := head.length + params.length + gap.length + 3 }
    | [] => none
  | _ => none

/-- The declaration shape that begins with the first character of a text, if one does. -/
def shapeAt? (text : List Char) : Option Shape :=
  match text with
  | [] => none
  | c :: _ =>
    if beginsIdentifier c then
      match text.dropWhile isHeadChar with
      | '(' :: inner => shapeWithHead? (text.takeWhile isHeadChar) inner
      | _ => none
    else none

/-- A declaration shape where it was found: its offset, and how many more braces have been
opened than closed before it. -/
structure Found where
  offset : Nat
  depth : Int
  shape : Shape
  deriving DecidableEq, Repr

def braceStep (c : Char) : Int :=
  if c = '\x7b' then 1 else if c = '\x7d' then -1 else 0

/-- The declaration shapes of a text of which the first `covered` characters belong to a shape
that has begun before it. Shapes do not overlap, and an earlier one wins. -/
def shapesFrom (offset : Nat) (depth : Int) (covered : Nat) : List Char → List Found
  | [] => []
  | c :: rest =>
    match covered with
    | left + 1 => shapesFrom (offset + 1) (depth + braceStep c) left rest
    | 0 =>
      match shapeAt? (c :: rest) with
      | some shape =>
        ⟨offset, depth, shape⟩ ::
          shapesFrom (offset + 1) (depth + braceStep c) (shape.length - 1) rest
      | none => shapesFrom (offset + 1) (depth + braceStep c) 0 rest

def shapes (text : List Char) : List Found :=
  shapesFrom 0 0 0 text

/-- The pieces of a parameter list between its commas. A list that is empty or says that there
are none has no pieces. -/
def parameterTexts (params : List Char) : List (List Char) :=
  if params = [] ∨ params = "void".toList then [] else params.splitOn ','

/-- The function that a shape declares. The last token of the head names it, and the tokens
before it, less storage words, are what it returns; a statement's words make it no
declaration. -/
def Shape.declaration? (shape : Shape) (place : Place) : Option Declaration :=
  match (typeTokens shape.head).reverse with
  | [] => none
  | name :: reversed =>
    let before := reversed.reverse
    let returned := before.filter fun token => !storageWords.contains token
    if !isIdentifier name || typeWords.contains name || statementWords.contains name then none
    else if returned.isEmpty || returned.any statementWords.contains then none
    else some
      { identifier := String.ofList name
        params := (parameterTexts shape.params).map fun text => String.ofList (parameterShape text)
        returnKind := String.ofList (canonicalType returned)
        place
        defined := shape.defined
        isStatic := before.contains "static".toList }

end AnnotatedTests
