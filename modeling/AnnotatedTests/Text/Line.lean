/-! Lines of a text: the line on which an offset lies, and the one form of line ends that the
rest of the library knows. -/
namespace AnnotatedTests

/-- The line of an offset, counted from one: one more than the line ends before it. Offsets
outside the text lie on the first or on the last line. -/
def lineAt (source : List Char) (offset : Int) : Nat :=
  (source.take offset.toNat).count '\n' + 1

/-- A text in which each line ends in a line feed, whether a carriage return, a line feed or
both ended it before. -/
def unifyLineEnds : List Char → List Char
  | [] => []
  | '\r' :: '\n' :: rest => '\n' :: unifyLineEnds rest
  | c :: rest => (if c = '\r' then '\n' else c) :: unifyLineEnds rest

theorem lineAt_of_nonpos (source : List Char) {offset : Int} (h : offset ≤ 0) :
    lineAt source offset = 1 := by
  simp [lineAt, Int.toNat_of_nonpos h]

theorem lineAt_mono (source : List Char) {a b : Int} (h : a ≤ b) :
    lineAt source a ≤ lineAt source b := by
  have le : a.toNat ≤ b.toNat := Int.toNat_le_toNat h
  have cut : source.take a.toNat = (source.take b.toNat).take a.toNat := by
    rw [List.take_take, Nat.min_eq_left le]
  unfold lineAt
  rw [cut]
  exact Nat.succ_le_succ ((List.take_sublist _ _).count_le _)

end AnnotatedTests
