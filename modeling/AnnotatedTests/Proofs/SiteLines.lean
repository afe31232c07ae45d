import AnnotatedTests.Proofs.CommentSpans

/-! The directive comments that a scan finds, and their lines. A site stands for each comment that
opens with the marker, in the order of the source. Lines count the line ends before an offset, so
that a comment, the declaration behind it and the next comment follow each other in lines too. -/
namespace AnnotatedTests

/-- Whether a text opens as a directive comment: behind the marker stands a blank, or the comment
ends. -/
def OpensDirective (marker : String) (text : List Char) : Prop :=
  ∃ rest, text = '/' :: '*' :: '!' :: (marker.toList ++ rest) ∧
    ((∃ c ∈ rest.head?, isBlank c = true) ∨ ['*', '/'] <+: rest)

/-- The offsets at which the lines of a text end. -/
def lineEnds (text : List Char) : List Nat :=
  (List.range text.length).filter fun i => text[i]? = some '\n'

/-- Whether a site is what a scan records for a comment of a source: its text, the lines of its
first and of its last character, and a declaration that does not begin before that line. -/
structure Site.Records (source : List Char) (filename : String) (site : Site) (span : Span) :
    Prop where
  filename : site.comment.filename = filename
  text : site.comment.text = String.ofList (span.slice source)
  startLine : site.comment.startLine = 1 + (source.take span.start).count '\n'
  endLine : site.comment.endLine =
    site.comment.startLine + (span.slice source).dropLast.count '\n'
  following : ∀ d ∈ site.following, site.comment.endLine ≤ d.place.line

section Directives
variable {marker : String} {text rest : List Char}

theorem opensDirective_iff : isDirective marker text = true ↔ OpensDirective marker text := by
  have opening : directiveOpening marker = '/' :: '*' :: '!' :: marker.toList := rfl
  rw [isDirective, Bool.and_eq_true, List.isPrefixOf_iff_prefix, OpensDirective]
  constructor
  · rintro ⟨⟨rest, rfl⟩, behind⟩
    refine ⟨rest, by rw [opening]; rfl, ?_⟩
    rw [List.drop_left] at behind
    split at behind
    · simp at behind
    · exact .inr (by simp)
    · exact .inl ⟨_, rfl, behind⟩
  · rintro ⟨rest, rfl, behind⟩
    have split : '/' :: '*' :: '!' :: (marker.toList ++ rest) = directiveOpening marker ++ rest :=
      rfl
    rw [split, List.drop_left]
    refine ⟨List.prefix_append _ _, ?_⟩
    rcases behind with ⟨c, first, blank⟩ | ⟨after, rfl⟩
    · obtain ⟨after, rfl⟩ := List.head?_eq_some_iff.mp first
      split
      · rename_i nothing
        cases nothing
      · rfl
      · rename_i same
        rwa [← (List.cons.inj same).1]
    · rfl

instance (marker : String) : DecidablePred (OpensDirective marker) := fun _ =>
  decidable_of_iff _ opensDirective_iff

end Directives

section Lines
variable {c : Char} {text : List Char} {offset : Int}

theorem lineEnds_cons : lineEnds (c :: text) =
    (if c = '\n' then [0] else []) ++ (lineEnds text).map (· + 1) := by
  rw [lineEnds, List.length_cons, List.range_succ_eq_map, List.filter_cons, List.filter_map,
    lineEnds]
  by_cases line : c = '\n' <;> simp [line, Function.comp_def]

theorem pairwise_lineEnds (text : List Char) : (lineEnds text).Pairwise (· < ·) :=
  List.pairwise_lt_range.filter _

/-- The line of an offset is one more than the number of line ends below it. -/
theorem lineAt_eq_countP_lineEnds (text : List Char) (offset : Int) :
    lineAt text offset = 1 + (lineEnds text).countP fun i : Nat => (i : Int) < offset := by
  rw [lineAt, Nat.add_comm]
  congr 1
  induction text generalizing offset with
  | nil => simp [lineEnds]
  | cons c text ih =>
    have shifted : (fun i : Nat => decide (((i + 1 : Nat) : Int) < offset)) =
        fun i : Nat => decide ((i : Int) < offset - 1) := by
      funext i
      rw [decide_eq_decide]
      omega
    rw [lineEnds_cons, List.countP_append, List.countP_map, Function.comp_def, shifted, ← ih]
    by_cases low : offset ≤ 0
    · rw [Int.toNat_of_nonpos low, Int.toNat_of_nonpos (by omega)]
      split_ifs <;> simp [low]
    · obtain ⟨n, rfl⟩ : ∃ n : Nat, offset = n + 1 := ⟨(offset - 1).toNat, by omega⟩
      have before : ((n : Int) + 1 - 1).toNat = n := by omega
      have first : decide (((0 : Nat) : Int) < n + 1) = true := decide_eq_true (by omega)
      rw [Int.toNat_natCast_add_one, List.take_succ_cons, List.count_cons, before, Nat.add_comm]
      by_cases line : c = '\n'
      · rw [if_pos line, if_pos (beq_iff_eq.mpr line), List.countP_singleton, if_pos first]
      · rw [if_neg line, if_neg (beq_iff_eq.not.mpr line), List.countP_nil]

theorem lt_iff_lt_countP {xs : List Nat} (sorted : xs.Pairwise (· < ·)) {k n : Nat}
    (h : xs[k]? = some n) :
    (n : Int) < offset ↔ k < xs.countP fun i : Nat => (i : Int) < offset := by
  induction xs generalizing k with
  | nil => simp at h
  | cons x xs ih =>
    obtain ⟨least, sorted⟩ := List.pairwise_cons.mp sorted
    by_cases low : (x : Int) < offset
    · rw [List.countP_cons_of_pos (by simpa using low)]
      cases k with
      | zero =>
        obtain rfl : x = n := by simpa using h
        simp [low]
      | succ k => rw [ih sorted (by simpa using h), Nat.add_lt_add_iff_right]
    · -- no later number is below the offset either
      have nothing : (x :: xs).countP (fun i : Nat => decide ((i : Int) < offset)) = 0 := by
        rw [List.countP_eq_zero]
        intro i hi below
        rcases List.mem_cons.mp hi with rfl | later
        · exact low (by simpa using below)
        · have := least i later
          have := of_decide_eq_true below
          omega
      have member := List.mem_of_getElem? h
      have above : x ≤ n := by
        rcases List.mem_cons.mp member with rfl | later
        · exact le_rfl
        · exact (least n later).le
      rw [nothing]
      omega

/-- The line ends below an offset are the first ones, as many as there are lines before its line. -/
theorem lt_iff_of_getElem?_lineEnds {k n : Nat} (h : (lineEnds text)[k]? = some n) :
    (n : Int) < offset ↔ k + 1 < lineAt text offset := by
  rw [lt_iff_lt_countP (pairwise_lineEnds text) h, lineAt_eq_countP_lineEnds]
  omega

theorem lineAt_add (source : List Char) (start n : Nat) :
    lineAt source (start + n : Nat) =
      lineAt source start + ((source.drop start).take n).count '\n' := by
  rw [lineAt, lineAt, Int.toNat_natCast, Int.toNat_natCast, List.take_add, List.count_append,
    Nat.add_right_comm]

end Lines

section Sites
variable {source : List Char} {filename marker : String} {span : Span}

/-- The last character of a comment stands as many lines below its first one as lines end before
it. -/
theorem lineAt_last_of_mem_comments (h : span ∈ comments source) :
    lineAt source ((span.stop : Int) - 1) =
      lineAt source span.start + (span.slice source).dropLast.count '\n' := by
  have within := stop_le_length_of_mem_comments h
  have long := (opens_of_mem_comments h).2
  obtain ⟨n, stop⟩ : ∃ n, span.stop = span.start + (n + 1) :=
    ⟨span.stop - span.start - 1, by omega⟩
  have last : (span.stop : Int) - 1 = (span.start + n : Nat) := by omega
  have length : (span.slice source).length = n + 1 := by
    rw [Span.slice, List.length_take, List.length_drop]
    omega
  have slice : (span.slice source).dropLast = (source.drop span.start).take n := by
    rw [List.dropLast_eq_take, length, Span.slice, List.take_take, Nat.add_sub_cancel,
      Nat.min_eq_left (by omega)]
  rw [last, lineAt_add, slice]

theorem records_siteAt (h : span ∈ comments source) :
    (siteAt source filename span).Records source filename span := by
  refine ⟨rfl, rfl, ?_, ?_, ?_⟩
  · simp [siteAt, lineAt, Int.add_comm]
  · simp only [siteAt]
    rw [lineAt_last_of_mem_comments h, Int.natCast_add]
  · intro d hd
    obtain ⟨shape, -, declares⟩ := Option.bind_eq_some_iff.mp hd
    rw [(parts_of_declaration? declares).1]
    refine Int.ofNat_le.mpr (lineAt_mono source ?_)
    omega

end Sites

/-- A scan has one site for each comment that opens as a directive, in the order of the source, with
its text and its lines, and no declaration that follows begins before the line on which its comment
ends. Nor does a later site. The line of an offset is one more than the number of line ends below
it, and these are the first line ends of the source. -/
theorem records_of_scan (source : List Char) (filename marker : String) :
    List.Forall₂ (Site.Records source filename) (scan source filename marker).sites
        ((comments source).filter fun span => OpensDirective marker (span.slice source)) ∧
      ((scan source filename marker).sites.Pairwise fun site later =>
        site.comment.endLine ≤ later.comment.startLine) ∧
      ∀ offset : Int,
        lineAt source offset =
            1 + (lineEnds source).countP (fun i : Nat => (i : Int) < offset) ∧
          ∀ k n : Nat, (lineEnds source)[k]? = some n →
            ((n : Int) < offset ↔ k + 1 < lineAt source offset) := by
  have directives : directiveSpans source marker =
      (comments source).filter fun span => OpensDirective marker (span.slice source) := by
    rw [directiveSpans]
    congr 1
    funext span
    rw [Bool.eq_iff_iff, opensDirective_iff, decide_eq_true_iff]
  refine ⟨?_, ?_, fun offset =>
    ⟨lineAt_eq_countP_lineEnds source offset, fun k n => lt_iff_of_getElem?_lineEnds⟩⟩
  · rw [sites_scan, ← directives, List.forall₂_map_left_iff, List.forall₂_same]
    exact fun span hs => records_siteAt (List.mem_filter.mp hs).1
  · rw [sites_scan, List.pairwise_map]
    refine ((pairwise_comments source).filter _).imp fun apart => ?_
    refine Int.ofNat_le.mpr (lineAt_mono source ?_)
    omega

end AnnotatedTests
