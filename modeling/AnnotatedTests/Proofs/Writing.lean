import AnnotatedTests.Proofs.Trees

/-! Writing outputs. All texts are staged before any is moved onto its target, and the staged ones
are removed again if one cannot be staged. What this does to a tree is said as a change of what
stands at each spot: for all outputs if they are written, and else for those before the one that is
refused. -/
namespace AnnotatedTests

/-- An output with the spot of its file and the one at which its text is staged. -/
structure Placed where
  path : String
  text : String
  target : Spot
  staged : Spot

def Placed.output (p : Placed) : String × String := (p.path, p.text)

def Placed.file (p : Placed) : Node := .file p.text.toUTF8

section Places
variable {here : Spot}

/-- Whether the paths of an output lead to its spots, for a run in a directory of a tree. -/
structure Placed.In (tree : FileTree) (here : Spot) (p : Placed) : Prop where
  target : tree.locate here p.path = .ok p.target
  staged : tree.locate here (stagedPath p.path) = .ok p.staged

theorem Placed.In.of_sameDirectories {tree other : FileTree} (same : tree.SameDirectories other)
    {p : Placed} (h : p.In tree here) : p.In other here :=
  ⟨same.locate_eq_ok_iff.mp h.target, same.locate_eq_ok_iff.mp h.staged⟩

theorem Placed.In.spots_eq {tree : FileTree} {p : Placed} (h : p.In tree here) {path : String}
    (named : p.path = path) {spot spot' : Spot} (target : tree.locate here path = .ok spot)
    (staged : tree.locate here (stagedPath path) = .ok spot') :
    p.target = spot ∧ p.staged = spot' := by
  subst named
  exact ⟨Except.ok.inj (h.target.symm.trans target), Except.ok.inj (h.staged.symm.trans staged)⟩

end Places

namespace View
variable {view : View} {placed : List Placed}

def stage (view : View) (p : Placed) : View := Function.update view p.staged (some p.file)

def clear (view : View) (p : Placed) : View := Function.update view p.staged none

def move (view : View) (p : Placed) : View :=
  Function.update (Function.update view p.staged none) p.target (view p.staged)

theorem foldl_stage_of_notMem {spot : Spot} (away : spot ∉ placed.map Placed.staged) :
    placed.foldl stage view spot = view spot := by
  induction placed generalizing view with
  | nil => rfl
  | cons p placed ih =>
    rw [List.map_cons, List.mem_cons, not_or] at away
    rw [List.foldl_cons, ih away.2, stage, Function.update_of_ne away.1]

theorem foldl_stage_staged (once : (placed.map Placed.staged).Nodup) {p : Placed}
    (hp : p ∈ placed) : placed.foldl stage view p.staged = some p.file := by
  induction placed generalizing view with
  | nil => simp at hp
  | cons q placed ih =>
    rw [List.map_cons, List.nodup_cons] at once
    rw [List.foldl_cons]
    rcases List.mem_cons.mp hp with rfl | later
    · rw [foldl_stage_of_notMem once.1, stage, Function.update_self]
    · exact ih once.2 later

theorem exists_of_foldl_stage (view : View) {spot : Spot} (own : spot ∈ placed.map Placed.staged) :
    ∃ p ∈ placed, placed.foldl stage view spot = some p.file := by
  induction placed generalizing view with
  | nil => simp at own
  | cons p placed ih =>
    rw [List.foldl_cons]
    by_cases later : spot ∈ placed.map Placed.staged
    · obtain ⟨q, hq, last⟩ := ih (view.stage p) later
      exact ⟨q, List.mem_cons_of_mem p hq, last⟩
    · obtain rfl : spot = p.staged := by simpa [later] using own
      have last : placed.foldl stage (view.stage p) p.staged = some p.file := by
        rw [foldl_stage_of_notMem later, stage, Function.update_self]
      exact ⟨p, List.mem_cons_self, last⟩

theorem foldl_clear_apply (spot : Spot) :
    placed.foldl clear view spot =
      if spot ∈ placed.map Placed.staged then none else view spot := by
  induction placed generalizing view with
  | nil => simp
  | cons p placed ih =>
    rw [List.foldl_cons, ih, List.map_cons]
    by_cases own : spot = p.staged
    · simp [own, clear]
    · simp [own, clear]

/-- What is neither a target nor a place for a staged text stays. -/
theorem foldl_move_of_notMem {spot : Spot} (away : spot ∉ placed.map Placed.target)
    (away' : spot ∉ placed.map Placed.staged) : placed.foldl move view spot = view spot := by
  induction placed generalizing view with
  | nil => rfl
  | cons p placed ih =>
    rw [List.map_cons, List.mem_cons, not_or] at away away'
    rw [List.foldl_cons, ih away.2 away'.2, move, Function.update_of_ne away.1,
      Function.update_of_ne away'.1]

theorem foldl_move_eq_none {spot : Spot} (away : spot ∉ placed.map Placed.target)
    (empty : view spot = none) : placed.foldl move view spot = none := by
  induction placed generalizing view with
  | nil => exact empty
  | cons p placed ih =>
    rw [List.map_cons, List.mem_cons, not_or] at away
    refine ih away.2 ?_
    rw [move, Function.update_of_ne away.1]
    by_cases own : spot = p.staged
    · rw [own, Function.update_self]
    · rw [Function.update_of_ne own, empty]

/-- The place of a staged text is empty in the end, unless it is a target. -/
theorem foldl_move_staged {p : Placed} (hp : p ∈ placed)
    (away : p.staged ∉ placed.map Placed.target) : placed.foldl move view p.staged = none := by
  obtain ⟨before, behind, rfl⟩ := List.append_of_mem hp
  rw [List.map_append, List.map_cons, List.mem_append, List.mem_cons, not_or, not_or] at away
  obtain ⟨-, own, later⟩ := away
  rw [List.foldl_append, List.foldl_cons]
  apply foldl_move_eq_none later
  rw [move, Function.update_of_ne own, Function.update_self]

/-- Each target holds what was staged for it, if no text is staged where an earlier one has been
moved. -/
theorem foldl_move_target (targets : (placed.map Placed.target).Nodup)
    (once : (placed.map Placed.staged).Nodup)
    (apart : placed.Pairwise fun p q => p.target ≠ q.staged) {p : Placed} (hp : p ∈ placed) :
    placed.foldl move view p.target = view p.staged := by
  induction placed generalizing view with
  | nil => simp at hp
  | cons q placed ih =>
    rw [List.map_cons, List.nodup_cons] at targets once
    rw [List.pairwise_cons] at apart
    rw [List.foldl_cons]
    rcases List.mem_cons.mp hp with rfl | later
    · -- once it is moved, no later move goes to its target or takes a text away from there
      have staged : p.target ∉ placed.map Placed.staged := by
        intro member
        obtain ⟨r, hr, same⟩ := List.mem_map.mp member
        exact apart.1 r hr same.symm
      rw [foldl_move_of_notMem targets.1 staged, move, Function.update_self]
    · -- the move before it leaves its staged text alone
      have kept : p.staged ≠ q.staged := fun same =>
        once.1 (same ▸ List.mem_map_of_mem later)
      rw [ih targets.2 once.2 apart.2 later, move, Function.update_of_ne (apart.1 p later).symm,
        Function.update_of_ne kept]

/-- Otherwise the target of the earlier one is empty in the end. -/
theorem pairwise_of_foldl_move (targets : (placed.map Placed.target).Nodup)
    (full : ∀ p ∈ placed, placed.foldl move view p.target ≠ none) :
    placed.Pairwise fun p q => p.target ≠ q.staged := by
  induction placed generalizing view with
  | nil => exact List.Pairwise.nil
  | cons p placed ih =>
    rw [List.map_cons, List.nodup_cons] at targets
    have behind : placed.Pairwise fun p q => p.target ≠ q.staged :=
      ih targets.2 fun q hq => full q (List.mem_cons_of_mem p hq)
    refine List.pairwise_cons.mpr ⟨?_, behind⟩
    intro q hq same
    -- the later move takes the text away, and no other one goes there
    apply full p List.mem_cons_self
    rw [List.foldl_cons, same]
    exact foldl_move_staged hq (same ▸ targets.1)

end View

/-- What the staging of outputs makes of a tree. -/
structure Staged (tree : FileTree) (here : Spot) (placed : List Placed) (after : FileTree) :
    Prop where
  places : ∀ p ∈ placed, p.In tree here
  free : ∀ p ∈ placed, tree.node? p.staged ≠ some .directory
  directories : tree.SameDirectories after
  view : after.node? = placed.foldl View.stage tree.node?

/-- What the moving of staged outputs makes of a tree. -/
structure Moved (tree : FileTree) (placed : List Placed) (after : FileTree) : Prop where
  named : ∀ p ∈ placed, endsInName p.path = true ∧ endsInSlash p.path = false
  directories : tree.SameDirectories after
  view : after.node? = placed.foldl View.move tree.node?
  files : ∀ spot bytes, tree.node? spot = some (.file bytes) → spot ∉ placed.map Placed.staged →
    ∃ bytes, after.node? spot = some (.file bytes)

section Disk
variable {here : Spot}

theorem stageAll_cons (path text : String) (rest : List (String × String)) (tree : FileTree) :
    stageAll (treeDisk here) ((path, text) :: rest) tree =
      match tree.write here (stagedPath path) text.toUTF8 with
      | .error failure => (([], some failure), tree)
      | .ok after =>
        let ((paths, failure), last) := stageAll (treeDisk here) rest after
        ((stagedPath path :: paths, failure), last) := by
  simp only [stageAll, treeDisk, changeTree, bind, StateT.bind]
  cases tree.write here (stagedPath path) text.toUTF8 <;> rfl

theorem moveAll_cons (path text : String) (rest : List (String × String)) (tree : FileTree) :
    moveAll (treeDisk here) ((path, text) :: rest) tree =
      match tree.move here (stagedPath path) path with
      | .error failure => (([], some failure), tree)
      | .ok after =>
        let ((events, failure), last) := moveAll (treeDisk here) rest after
        ((.wrote path :: events, failure), last) := by
  simp only [moveAll, treeDisk, changeTree, bind, StateT.bind]
  cases tree.move here (stagedPath path) path <;> rfl

/-- Outputs are staged up to the first that is refused. -/
theorem exists_stageAll {outputs : List (String × String)}
    (given : ∀ output ∈ outputs, output.1 ≠ "") (here : Spot) (tree : FileTree) :
    ∃ placed rest failure after,
      stageAll (treeDisk here) outputs tree =
          ((placed.map fun p => stagedPath p.path, failure), after) ∧
        outputs = placed.map Placed.output ++ rest ∧ Staged tree here placed after ∧
        (failure = none ↔ rest = []) := by
  have still (tree : FileTree) : Staged tree here [] tree := ⟨by simp, by simp, .refl tree, rfl⟩
  induction outputs generalizing tree with
  | nil => exact ⟨[], [], none, tree, rfl, rfl, still tree, by simp⟩
  | cons output outputs ih =>
    obtain ⟨path, text⟩ := output
    rw [stageAll_cons]
    cases written : tree.write here (stagedPath path) text.toUTF8 with
    | error refused =>
      exact ⟨[], (path, text) :: outputs, some refused, tree, rfl, rfl, still tree, by simp⟩
    | ok next =>
      obtain ⟨placed, rest, failure, after, ran, rfl, staged, complete⟩ :=
        ih (fun output ho => given output (List.mem_cons_of_mem _ ho)) next
      obtain ⟨spot, located, free, same, view⟩ := FileTree.exists_of_write written
      obtain ⟨target, led⟩ :=
        FileTree.exists_locate_of_stagedPath (given _ List.mem_cons_self) located
      refine ⟨⟨path, text, target, spot⟩ :: placed, rest, failure, after, ?_, rfl,
        ⟨?_, ?_, same.trans staged.directories, ?_⟩, complete⟩
      · dsimp only
        rw [ran]
        rfl
      · intro p hp
        rcases List.mem_cons.mp hp with rfl | later
        · exact ⟨led, located⟩
        · exact (staged.places p later).of_sameDirectories same.symm
      · intro p hp
        rcases List.mem_cons.mp hp with rfl | later
        · exact free
        · exact fun directory => staged.free p later ((same p.staged).mp directory)
      · rw [staged.view, view]
        rfl

theorem FileTree.node?_remove {tree : FileTree} {path : String} {spot : Spot}
    (located : tree.locate here path = .ok spot) (free : tree.node? spot ≠ some .directory) :
    (tree.remove here path).node? = Function.update tree.node? spot none := by
  unfold FileTree.remove
  rw [located]
  dsimp only
  cases there : tree.node? spot with
  | none => exact (Function.update_eq_self_iff.mpr there.symm).symm
  | some node =>
    cases node with
    | directory => exact absurd there free
    | file bytes => exact FileTree.node?_erase tree (FileTree.names_ne_nil_of_node? free)

/-- Removing staged texts empties their spots. -/
theorem node?_removeAll {tree : FileTree} {placed : List Placed}
    (places : ∀ p ∈ placed, p.In tree here)
    (free : ∀ p ∈ placed, tree.node? p.staged ≠ some .directory) :
    (removeAll (treeDisk here) (placed.map fun p => stagedPath p.path) tree).2.node? =
      placed.foldl View.clear tree.node? := by
  induction placed generalizing tree with
  | nil => rfl
  | cons p placed ih =>
    obtain ⟨place, later⟩ := List.forall_mem_cons.mp places
    obtain ⟨open', free⟩ := List.forall_mem_cons.mp free
    have removed := FileTree.node?_remove place.staged open'
    have same := FileTree.sameDirectories_of_update open' (by simp) removed
    have others := ih (fun q hq => (later q hq).of_sameDirectories same) fun q hq =>
      fun directory => free q hq ((same q.staged).mpr directory)
    rw [List.foldl_cons, View.clear, ← removed, ← others]
    rfl

/-- Outputs are moved up to the first that is refused. -/
theorem exists_moveAll {tree : FileTree} {placed : List Placed}
    (places : ∀ p ∈ placed, p.In tree here) :
    ∃ moved left failure after,
      moveAll (treeDisk here) (placed.map Placed.output) tree =
          ((moved.map fun p => Event.wrote p.path, failure), after) ∧
        placed = moved ++ left ∧ Moved tree moved after ∧
        ((failure = none ∧ left = []) ∨
          ∃ p others refused, left = p :: others ∧ failure = some refused ∧
            after.move here (stagedPath p.path) p.path = .error refused) := by
  have still (tree : FileTree) : Moved tree [] tree :=
    ⟨by simp, .refl tree, rfl, fun _ bytes file _ => ⟨bytes, file⟩⟩
  induction placed generalizing tree with
  | nil => exact ⟨[], [], none, tree, rfl, rfl, still tree, .inl ⟨rfl, rfl⟩⟩
  | cons p placed ih =>
    obtain ⟨place, later⟩ := List.forall_mem_cons.mp places
    rw [List.map_cons, Placed.output, moveAll_cons]
    cases result : tree.move here (stagedPath p.path) p.path with
    | error refused =>
      exact ⟨[], p :: placed, some refused, tree, rfl, rfl, still tree,
        .inr ⟨p, placed, refused, rfl, rfl, result⟩⟩
    | ok next =>
      obtain ⟨named, plain, ⟨bytes, staged⟩, same, view⟩ :=
        FileTree.of_move result place.staged place.target
      obtain ⟨moved, left, failure, after, ran, rfl, sent, ended⟩ :=
        ih fun q hq => (later q hq).of_sameDirectories same
      refine ⟨p :: moved, left, failure, after, ?_, rfl,
        ⟨?_, same.trans sent.directories, ?_, ?_⟩, ended⟩
      · dsimp only
        rw [ran]
        rfl
      · intro q hq
        rcases List.mem_cons.mp hq with rfl | hq
        · exact ⟨named, plain⟩
        · exact sent.named q hq
      · rw [sent.view, view]
        rfl
      · intro spot old file away
        rw [List.map_cons, List.mem_cons, not_or] at away
        -- a file stays one: it is not the text that moves, and a target is a file after the move
        have kept : ∃ bytes, next.node? spot = some (.file bytes) := by
          rw [view]
          by_cases own : spot = p.target
          · exact ⟨bytes, by rw [own, Function.update_self, staged]⟩
          · exact ⟨old, by rw [Function.update_of_ne own, Function.update_of_ne away.1, file]⟩
        obtain ⟨bytes', file'⟩ := kept
        exact sent.files spot bytes' file' away.2

end Disk

/-- Whether nothing can be moved onto the file of an output once some others have been moved: its
path names no file, there is a directory, or another output has the same file, so that its text is
gone. -/
def Placed.Stuck (tree : FileTree) (moved : List Placed) (p : Placed) : Prop :=
  endsInName p.path = false ∨ endsInSlash p.path = true ∨ tree.node? p.target = some .directory ∨
    p.target ∈ moved.map Placed.target

/-- How a tree stands after the writing of some outputs has been refused. -/
inductive LeftBehind (tree : FileTree) (here : Spot) (outputs : List (String × String))
    (after : FileTree) : Prop where
  /-- One of them cannot be staged, and nothing is left where those before it were staged, though
  there was something. -/
  | unstaged {placed : List Placed} {output : String × String} {others : List (String × String)} :
    outputs = placed.map Placed.output ++ output :: others → (∀ p ∈ placed, p.In tree here) →
    (∃ p ∈ placed, tree.node? p.staged ≠ none) →
    (∀ spot, after.node? spot =
      if spot ∈ placed.map Placed.staged then none else tree.node? spot) →
    LeftBehind tree here outputs after
  /-- All of them are staged, and those before one that is stuck are moved. -/
  | unmoved {moved left : List Placed} {p : Placed} :
    outputs = (moved ++ p :: left).map Placed.output →
    (∀ q ∈ moved ++ p :: left, q.In tree here) →
    p.Stuck tree moved →
    after.node? = moved.foldl View.move ((moved ++ p :: left).foldl View.stage tree.node?) →
    LeftBehind tree here outputs after

/-- How a tree stands after some outputs have been written. -/
structure Delivered (tree : FileTree) (here : Spot) (placed : List Placed) (after : FileTree) :
    Prop where
  places : ∀ p ∈ placed, p.In tree here
  named : ∀ p ∈ placed, endsInName p.path = true ∧ endsInSlash p.path = false
  view : after.node? = placed.foldl View.move (placed.foldl View.stage tree.node?)

section Refused
variable {here : Spot}

theorem FileTree.holdsNul_of_move {tree : FileTree} {source target : String} {e : FileError}
    (refused : tree.move here source target = .error (.file e)) :
    holdsNul source = false ∧ holdsNul target = false := by
  unfold FileTree.move at refused
  split at refused
  · simp at refused
  next nul => simpa using nul

/-- An output whose move is refused is stuck. -/
theorem stuck_of_move {tree staged after : FileTree} {moved : List Placed} {p : Placed}
    (place : p.In tree here) (places : ∀ q ∈ moved, q.In tree here)
    (same : tree.SameDirectories staged) (sent : Moved staged moved after) {bytes : ByteArray}
    (file : staged.node? p.staged = some (.file bytes)) {e : FileError}
    (refused : after.move here (stagedPath p.path) p.path = .error (.file e)) :
    p.Stuck tree moved := by
  by_contra free
  simp only [Placed.Stuck, not_or, Bool.not_eq_false, Bool.not_eq_true] at free
  obtain ⟨named, plain, open', fresh⟩ := free
  obtain ⟨below, beside⟩ := FileTree.locate_stagedPath named plain place.target place.staged
  -- its own text is still staged, for another with the same staged text has the same target
  have kept : p.staged ∉ moved.map Placed.staged := by
    intro member
    obtain ⟨q, hq, staged⟩ := List.mem_map.mp member
    obtain ⟨named', plain'⟩ := sent.named q hq
    obtain ⟨below', beside'⟩ :=
      FileTree.locate_stagedPath named' plain' (places q hq).target (places q hq).staged
    have targets : q.target = p.target :=
      Spot.beside_injective below' below (by rw [← beside', ← beside, staged])
    exact fresh (targets ▸ List.mem_map_of_mem hq)
  have directories := same.trans sent.directories
  obtain ⟨last, waiting⟩ := sent.files p.staged bytes file kept
  have place' := place.of_sameDirectories directories
  have goes := FileTree.move_eq_ok_iff.mpr ⟨FileTree.holdsNul_of_move refused,
    ⟨endsInName_stagedPath p.path, named⟩, ⟨endsInSlash_stagedPath p.path, plain⟩,
    p.staged, p.target, last, place'.staged, place'.target, waiting,
    fun directory => open' ((directories p.target).mpr directory), rfl⟩
  rw [goes] at refused
  cases refused

/-- What the writing of outputs makes of a tree, if it succeeds and if the file system refuses it.
-/
theorem exists_writeAll {outputs : List (String × String)}
    (given : ∀ output ∈ outputs, output.1 ≠ "") (here : Spot) (tree : FileTree) :
    ∃ events failure after, writeAll (treeDisk here) outputs tree = ((events, failure), after) ∧
      (failure = none →
        ∃ placed, outputs = placed.map Placed.output ∧ Delivered tree here placed after) ∧
      ∀ e, failure = some (.file e) →
        after.node? = tree.node? ∨ LeftBehind tree here outputs after := by
  obtain ⟨placed, rest, failure, next, ran, rfl, staged, complete⟩ := exists_stageAll given here
    tree
  have places : ∀ p ∈ placed, p.In next here := fun p hp =>
    (staged.places p hp).of_sameDirectories staged.directories
  cases failure with
  | none =>
    -- all are staged, and what is left to be refused is a move
    obtain rfl : rest = [] := complete.mp rfl
    rw [List.append_nil] at ran ⊢
    obtain ⟨moved, left, failure, after, ran', rfl, sent, ended⟩ := exists_moveAll places
    refine ⟨moved.map fun p => .wrote p.path, failure, after, ?_, ?_, ?_⟩
    · simp only [writeAll, bind, StateT.bind, ran]
      exact ran'
    · rintro rfl
      obtain ⟨-, rfl⟩ : (none : Option Failure) = none ∧ left = [] := by simpa using ended
      rw [List.append_nil] at staged ⊢
      exact ⟨moved, rfl, staged.places, sent.named, by rw [sent.view, staged.view]⟩
    · rintro e rfl
      obtain ⟨p, others, rfl, refused⟩ : ∃ p others, left = p :: others ∧
          after.move here (stagedPath p.path) p.path = .error (.file e) := by simpa using ended
      have hp : p ∈ moved ++ p :: others := by simp
      obtain ⟨q, -, file⟩ := View.exists_of_foldl_stage tree.node?
        (List.mem_map_of_mem (f := Placed.staged) hp)
      rw [← staged.view] at file
      exact .inr (.unmoved rfl staged.places
        (stuck_of_move (staged.places p hp)
          (fun q hq => staged.places q (List.mem_append_left _ hq)) staged.directories sent file
          refused)
        (by rw [sent.view, staged.view]))
  | some refused =>
    obtain ⟨output, others, rfl⟩ : ∃ output others, rest = output :: others := by
      cases rest with
      | nil => simp at complete
      | cons output others => exact ⟨output, others, rfl⟩
    cases refused with
    | file e =>
      -- the spots of the staged texts are emptied, whatever stood there
      refine ⟨[], some (.file e),
        (removeAll (treeDisk here) (placed.map fun p => stagedPath p.path) next).2, ?_, nofun, ?_⟩
      · simp only [writeAll, bind, StateT.bind, ran]
        rfl
      · rintro - -
        have free : ∀ p ∈ placed, next.node? p.staged ≠ some .directory := fun p hp directory =>
          staged.free p hp ((staged.directories p.staged).mpr directory)
        have cleared (spot : Spot) :
            (removeAll (treeDisk here) (placed.map fun p => stagedPath p.path) next).2.node? spot =
              if spot ∈ placed.map Placed.staged then none else tree.node? spot := by
          rw [node?_removeAll places free, View.foldl_clear_apply, staged.view]
          split_ifs with own
          · rfl
          · exact View.foldl_stage_of_notMem own
        by_cases lost : ∃ p ∈ placed, tree.node? p.staged ≠ none
        · exact .inr (.unstaged rfl staged.places lost cleared)
        · -- nothing stood where the texts were staged
          refine .inl (funext fun spot => ?_)
          rw [cleared spot]
          split_ifs with own
          · obtain ⟨p, hp, rfl⟩ := List.mem_map.mp own
            by_contra occupied
            exact lost ⟨p, hp, Ne.symm occupied⟩
          · rfl
    | _ =>
      exact ⟨[], some _, next, by simp only [writeAll, bind, StateT.bind, ran]; rfl, by simp,
        by simp⟩

end Refused

/-- Whether each target of some outputs holds its text. -/
def Hold (placed : List Placed) (after : FileTree) : Prop :=
  ∀ p ∈ placed, after.node? p.target = some p.file

/-- Whether the targets of some outputs are all that is other than in an earlier tree. -/
def Spared (tree : FileTree) (placed : List Placed) (after : FileTree) : Prop :=
  ∀ spot, spot ∉ placed.map Placed.target → after.node? spot = tree.node? spot

namespace Delivered
variable {tree after : FileTree} {here : Spot} {placed : List Placed}

theorem staged_eq (d : Delivered tree here placed after) {p : Placed} (hp : p ∈ placed) :
    p.target.names ≠ [] ∧ p.staged = p.target.beside :=
  FileTree.locate_stagedPath (d.named p hp).1 (d.named p hp).2 (d.places p hp).target
    (d.places p hp).staged

/-- Texts for different files are staged at different spots. -/
theorem nodup_staged (d : Delivered tree here placed after)
    (targets : (placed.map Placed.target).Nodup) : (placed.map Placed.staged).Nodup := by
  refine List.Nodup.map_on ?_ (List.Nodup.of_map _ targets)
  intro p hp q hq same
  obtain ⟨below, beside⟩ := d.staged_eq hp
  obtain ⟨below', beside'⟩ := d.staged_eq hq
  have spots : p.target = q.target :=
    Spot.beside_injective below below' (by rw [← beside, ← beside', same])
  exact List.inj_on_of_nodup_map targets hp hq spots

theorem node?_eq (d : Delivered tree here placed after) {spot : Spot}
    (away : spot ∉ placed.map Placed.target) (away' : spot ∉ placed.map Placed.staged) :
    after.node? spot = tree.node? spot := by
  rw [d.view, View.foldl_move_of_notMem away away', View.foldl_stage_of_notMem away']

/-- Where a text was staged nothing is left, unless a text was moved there. -/
theorem node?_staged (d : Delivered tree here placed after) {p : Placed} (hp : p ∈ placed)
    (away : p.staged ∉ placed.map Placed.target) : after.node? p.staged = none := by
  rw [d.view, View.foldl_move_staged hp away]

/-- The targets hold their texts just when none of them is where a later text is staged. -/
theorem hold_iff (d : Delivered tree here placed after)
    (targets : (placed.map Placed.target).Nodup) :
    Hold placed after ↔ placed.Pairwise fun p q => p.target ≠ q.staged := by
  have once := d.nodup_staged targets
  unfold Hold
  rw [d.view]
  constructor
  · intro full
    exact View.pairwise_of_foldl_move targets fun p hp => by rw [full p hp]; simp
  · intro apart p hp
    rw [View.foldl_move_target targets once apart hp, View.foldl_stage_staged once hp]

/-- Nothing but the targets is changed just when nothing stood where the texts were staged. -/
theorem spared_iff (d : Delivered tree here placed after) :
    Spared tree placed after ↔
      ∀ p ∈ placed, p.staged ∉ placed.map Placed.target → tree.node? p.staged = none := by
  constructor
  · intro spared p hp away
    rw [← spared p.staged away, d.node?_staged hp away]
  · intro free spot away
    by_cases own : spot ∈ placed.map Placed.staged
    · obtain ⟨p, hp, rfl⟩ := List.mem_map.mp own
      rw [d.node?_staged hp away, free p hp away]
    · exact d.node?_eq away own

end Delivered

end AnnotatedTests
