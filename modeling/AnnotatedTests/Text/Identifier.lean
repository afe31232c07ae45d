import AnnotatedTests.Text.Alphanumeric

/-! Identifiers: an ASCII letter or underscore, then any letters, numbers and underscores. -/
namespace AnnotatedTests

def isIdentifier : List Char → Bool
  | [] => false
  | c :: rest => beginsIdentifier c && rest.all isWordChar

/-- Whether a text is one identifier, with or without a line end after it. -/
def isIdentifierLine (text : List Char) : Bool :=
  isIdentifier text || (text.getLast? == some '\n' && isIdentifier text.dropLast)

theorem isIdentifier_cons (c : Char) (rest : List Char) :
    isIdentifier (c :: rest) = true ↔
      beginsIdentifier c = true ∧ ∀ d ∈ rest, isWordChar d = true := by
  simp [isIdentifier]

theorem isWordChar_of_mem_identifier {text : List Char} (h : isIdentifier text = true) :
    ∀ c ∈ text, isWordChar c = true := by
  cases text with
  | nil => simp [isIdentifier] at h
  | cons c rest =>
    obtain ⟨first, others⟩ := (isIdentifier_cons c rest).mp h
    intro d hd
    rcases List.mem_cons.mp hd with rfl | hd
    · exact isWordChar_of_beginsIdentifier first
    · exact others d hd

end AnnotatedTests
