/-! The skeleton of a C source: the same text with comments, literals and preprocessor lines
blanked out. Each character keeps its offset and each line end stays, so offsets and lines in
the skeleton are those of the source. -/
namespace AnnotatedTests

inductive TokenKind where
  | blockComment
  | lineComment
  | literal
  | preprocessorLine
  deriving DecidableEq, Repr

/-- A stretch of source to blank out, by its number of characters. -/
structure Token where
  kind : TokenKind
  length : Nat
  deriving DecidableEq, Repr

/-- The length of a block comment from behind its opening delimiter: to the first closing
delimiter, or to the end of the text if it is never closed. -/
def blockCommentRest : List Char → Nat
  | [] => 0
  | '*' :: '/' :: _ => 2
  | _ :: rest => blockCommentRest rest + 1

/-- The length of a literal from behind its opening quote, if it is closed on its line. A
backslash takes the next character with it, a line end too. -/
def literalRest? (quote : Char) : List Char → Option Nat
  | [] => none
  | '\\' :: _ :: rest => (literalRest? quote rest).map (· + 2)
  | c :: rest =>
    if c = quote then some 1
    else if c = '\n' ∨ c = '\\' then none
    else (literalRest? quote rest).map (· + 1)

/-- The length of a preprocessor line from behind its hash sign. A backslash at the end of a
line continues it on the next. -/
def preprocessorRest : List Char → Nat
  | [] => 0
  | '\\' :: '\n' :: rest => preprocessorRest rest + 2
  | '\n' :: _ => 0
  | _ :: rest => preprocessorRest rest + 1

def isIndent (c : Char) : Bool :=
  c == ' ' || c == '\t'

/-- The preprocessor line that begins here, if one does. -/
def preprocessorLine? (text : List Char) : Option Token :=
  match text.dropWhile isIndent with
  | '#' :: rest =>
    some ⟨.preprocessorLine, (text.takeWhile isIndent).length + 1 + preprocessorRest rest⟩
  | _ => none

/-- The token that begins here, if one does. A quote that is not closed on its line begins
none, and a preprocessor line begins only where a line does. -/
def tokenAt? (lineStart : Bool) (text : List Char) : Option Token :=
  match text with
  | '/' :: '*' :: rest => some ⟨.blockComment, blockCommentRest rest + 2⟩
  | '/' :: '/' :: rest => some ⟨.lineComment, (rest.takeWhile (· ≠ '\n')).length + 2⟩
  | '"' :: rest => (literalRest? '"' rest).map fun n => ⟨.literal, n + 1⟩
  | '\'' :: rest => (literalRest? '\'' rest).map fun n => ⟨.literal, n + 1⟩
  | _ => if lineStart then preprocessorLine? text else none

/-- What one character of a source is: code, the first character of a token, or a later
character of one. -/
inductive Mark where
  | code
  | opens (token : Token)
  | inside
  deriving DecidableEq, Repr

/-- The marks of a text of which the first `hidden` characters belong to a token that has
begun before it. -/
def marksFrom (hidden : Nat) (lineStart : Bool) : List Char → List Mark
  | [] => []
  | c :: rest =>
    match hidden with
    | left + 1 => .inside :: marksFrom left (c == '\n') rest
    | 0 =>
      match tokenAt? lineStart (c :: rest) with
      | some token => .opens token :: marksFrom (token.length - 1) (c == '\n') rest
      | none => .code :: marksFrom 0 (c == '\n') rest

def marks (source : List Char) : List Mark :=
  marksFrom 0 true source

/-- What the skeleton shows for a character. -/
def blankOut (c : Char) (mark : Mark) : Char :=
  if mark = .code ∨ c = '\n' then c else ' '

def skeleton (source : List Char) : List Char :=
  List.zipWith blankOut source (marks source)

/-- A stretch of text by the offsets of its first character and of the one behind it. -/
structure Span where
  start : Nat
  stop : Nat
  deriving DecidableEq, Repr

def Span.slice (span : Span) (source : List Char) : List Char :=
  (source.drop span.start).take (span.stop - span.start)

/-- The block comments among marks of which the first has the given offset. -/
def commentsFrom (offset : Nat) : List Mark → List Span
  | [] => []
  | .opens ⟨.blockComment, length⟩ :: rest =>
    ⟨offset, offset + length⟩ :: commentsFrom (offset + 1) rest
  | _ :: rest => commentsFrom (offset + 1) rest

def comments (source : List Char) : List Span :=
  commentsFrom 0 (marks source)

theorem length_marksFrom (hidden : Nat) (lineStart : Bool) (text : List Char) :
    (marksFrom hidden lineStart text).length = text.length := by
  induction text generalizing hidden lineStart with
  | nil => rfl
  | cons c rest ih =>
    unfold marksFrom
    cases hidden with
    | succ left => simp [ih]
    | zero => cases tokenAt? lineStart (c :: rest) <;> simp [ih]

theorem length_skeleton (source : List Char) : (skeleton source).length = source.length := by
  simp [skeleton, marks, length_marksFrom]

end AnnotatedTests
