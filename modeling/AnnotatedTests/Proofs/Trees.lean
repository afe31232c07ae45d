import AnnotatedTests.Command.Run
import Mathlib

/-! File trees spot by spot: what stands at each spot after a file is written, moved or removed. No
such change makes or removes a directory, so a path leads to the same spot before and after it. A
file that is staged stands beside its target, and no other target is staged at its spot. -/
namespace AnnotatedTests

/-- What stands at each spot. -/
abbrev View := Spot → Option Node

namespace FileTree
variable {tree : FileTree} {here : Spot}

theorem names_ne_nil_of_node? {spot : Spot} (h : tree.node? spot ≠ some .directory) :
    spot.names ≠ [] := by
  intro empty
  exact h (by simp [node?, empty])

theorem node?_put (tree : FileTree) {spot : Spot} (below : spot.names ≠ []) (node : Node) :
    (tree.put spot node).node? = Function.update tree.node? spot (some node) := by
  funext other
  by_cases same : other = spot
  · -- the node that stood here is filtered out, so the new one at the end is found
    subst same
    have gone : (tree.nodes.filter fun entry => entry.1 != other).find?
        (fun entry => entry.1 == other) = none := by
      rw [List.find?_eq_none]
      intro entry he
      simpa using (List.mem_filter.mp he).2
    rw [Function.update_self, node?, put, List.find?_append, gone]
    simp [below]
  · have kept : (tree.nodes.filter fun entry => entry.1 != spot).find?
        (fun entry => entry.1 == other) = tree.nodes.find? fun entry => entry.1 == other := by
      rw [List.find?_filter]
      congr 1
      funext entry
      by_cases own : entry.1 = other <;> simp [own, same]
    have apart : spot ≠ other := Ne.symm same
    rw [Function.update_of_ne same, node?, put, List.find?_append, kept]
    simp [node?, apart]

theorem node?_erase (tree : FileTree) {spot : Spot} (below : spot.names ≠ []) :
    (tree.erase spot).node? = Function.update tree.node? spot none := by
  funext other
  rw [node?, erase, List.find?_filter]
  by_cases same : other = spot
  · subst same
    have gone : (tree.nodes.find? fun entry =>
        decide ((entry.1 != other) = true ∧ (entry.1 == other) = true)) = none := by
      rw [List.find?_eq_none]
      intro entry _
      simp
    rw [Function.update_self, gone]
    simp [below]
  · have kept : (tree.nodes.find? fun entry =>
        decide ((entry.1 != spot) = true ∧ (entry.1 == other) = true)) =
          tree.nodes.find? fun entry => entry.1 == other := by
      congr 1
      funext entry
      by_cases own : entry.1 = other <;> simp [own, same]
    rw [Function.update_of_ne same, kept, node?]

/-- Whether two trees have their directories at the same spots. -/
def SameDirectories (tree other : FileTree) : Prop :=
  ∀ spot, tree.node? spot = some .directory ↔ other.node? spot = some .directory

theorem SameDirectories.refl (tree : FileTree) : tree.SameDirectories tree := fun _ => Iff.rfl

theorem SameDirectories.symm {other : FileTree} (h : tree.SameDirectories other) :
    other.SameDirectories tree := fun spot => (h spot).symm

theorem SameDirectories.trans {other third : FileTree} (h : tree.SameDirectories other)
    (h' : other.SameDirectories third) : tree.SameDirectories third :=
  fun spot => (h spot).trans (h' spot)

/-- A change of what stands at a spot that has no directory, to something that is none. -/
theorem sameDirectories_of_update {other : FileTree} {spot : Spot} {node : Option Node}
    (h : tree.node? spot ≠ some .directory) (plain : node ≠ some .directory)
    (changed : other.node? = Function.update tree.node? spot node) :
    tree.SameDirectories other := by
  intro third
  rw [changed]
  by_cases same : third = spot
  · subst same
    simp [h, plain]
  · rw [Function.update_of_ne same]

theorem walk_cons_eq_ok_iff {spot goal : Spot} {name : String} {rest : List String} :
    tree.walk spot (name :: rest) = .ok goal ↔
      tree.node? spot = some .directory ∧
        ∃ next, spot.step name = .ok next ∧ tree.walk next rest = .ok goal := by
  rw [walk]
  cases first : tree.node? spot with
  | none => simp
  | some node =>
    cases node with
    | file bytes => simp
    | directory => cases step : spot.step name <;> simp [Except.bind]

theorem walk_concat_eq_ok_iff {spot goal : Spot} {names : List String} {name : String} :
    tree.walk spot (names ++ [name]) = .ok goal ↔
      ∃ parent, tree.walk spot names = .ok parent ∧ tree.node? parent = some .directory ∧
        parent.step name = .ok goal := by
  induction names generalizing spot with
  | nil =>
    rw [List.nil_append, walk_cons_eq_ok_iff]
    simp [walk]
  | cons first names ih =>
    simp only [List.cons_append, walk_cons_eq_ok_iff, ih]
    constructor
    · rintro ⟨directory, next, step, parent, walked, rest⟩
      exact ⟨parent, ⟨directory, next, step, walked⟩, rest⟩
    · rintro ⟨parent, ⟨directory, next, step, walked⟩, rest⟩
      exact ⟨directory, next, step, parent, walked, rest⟩

theorem SameDirectories.walk_eq_ok_iff {other : FileTree} (h : tree.SameDirectories other)
    {spot goal : Spot} {names : List String} :
    tree.walk spot names = .ok goal ↔ other.walk spot names = .ok goal := by
  induction names generalizing spot with
  | nil => rfl
  | cons name rest ih => simp only [walk_cons_eq_ok_iff, h spot, ih]

theorem locate_eq_ok_iff {path : String} {spot : Spot} :
    tree.locate here path = .ok spot ↔
      path ≠ "" ∧ path.utf8ByteSize ≤ maxPathBytes ∧
        tree.walk (pathStart here path) (pathSteps path) = .ok spot := by
  rw [locate]
  split_ifs with empty long
  · simp [empty]
  · simp [Nat.not_le.mpr long]
  · have short := Nat.not_lt.mp long
    simp [empty, short]

/-- A path leads to the same spot as long as the directories stay. -/
theorem SameDirectories.locate_eq_ok_iff {other : FileTree} (h : tree.SameDirectories other)
    {path : String} {spot : Spot} :
    tree.locate here path = .ok spot ↔ other.locate here path = .ok spot := by
  rw [FileTree.locate_eq_ok_iff, FileTree.locate_eq_ok_iff, h.walk_eq_ok_iff]

/-- A write succeeds at a spot without a directory, for a path that can mean a file. -/
theorem write_eq_ok_iff {path : String} {bytes : ByteArray} {after : FileTree} :
    tree.write here path bytes = .ok after ↔
      holdsNul path = false ∧ endsInSlash path = false ∧
        ∃ spot, tree.locate here path = .ok spot ∧ tree.node? spot ≠ some .directory ∧
          after = tree.put spot (.file bytes) := by
  rw [write]
  cases nul : holdsNul path with
  | true => simp
  | false =>
    cases located : tree.locate here path with
    | error refusal => simp [refuseAt]
    | ok spot =>
      cases there : tree.node? spot with
      | none => cases slash : endsInSlash path <;> simp [refuseAt, there, eq_comm]
      | some node =>
        cases node with
        | directory => simp [refuseAt, there]
        | file old => cases slash : endsInSlash path <;> simp [refuseAt, there, eq_comm]

/-- A move takes a file to a spot without a directory, for two paths that can mean files. -/
theorem move_eq_ok_iff {source target : String} {after : FileTree} :
    tree.move here source target = .ok after ↔
      (holdsNul source = false ∧ holdsNul target = false) ∧
        (endsInName source = true ∧ endsInName target = true) ∧
        (endsInSlash source = false ∧ endsInSlash target = false) ∧
        ∃ start goal bytes, tree.locate here source = .ok start ∧
          tree.locate here target = .ok goal ∧ tree.node? start = some (.file bytes) ∧
          tree.node? goal ≠ some .directory ∧
          after = (tree.erase start).put goal (.file bytes) := by
  constructor
  · -- every check that refuses is one branch, in the order of the checks
    intro moved
    unfold move at moved
    split at moved
    · simp at moved
    next nul =>
    split at moved
    · simp [refuseMove] at moved
    · simp [refuseMove] at moved
    next start goal located located' =>
    split at moved
    · simp [refuseMove] at moved
    next named =>
    split at moved
    · simp [refuseMove] at moved
    · simp [refuseMove] at moved
    next bytes there =>
    split at moved
    · simp [refuseMove] at moved
    next slash =>
    split at moved
    · simp [refuseMove] at moved
    next occupied =>
    have free : tree.node? goal ≠ some .directory := by
      intro directory
      exact occupied (by simp [directory, Node.isDirectory])
    exact ⟨by simpa using nul, by simpa using named, by simpa using slash, start, goal, bytes,
      located, located', there, free, (Except.ok.inj moved).symm⟩
  · rintro ⟨noNul, named, plain, start, goal, bytes, located, located', there, free, rfl⟩
    have open' : (tree.node? goal).any Node.isDirectory = false := by
      cases occupant : tree.node? goal with
      | none => rfl
      | some node =>
        cases node with
        | file old => rfl
        | directory => exact absurd occupant free
    simp [move, noNul, named, plain, located, located', there, open']

/-- What a write makes of a tree. -/
theorem exists_of_write {path : String} {bytes : ByteArray} {after : FileTree}
    (written : tree.write here path bytes = .ok after) :
    ∃ spot, tree.locate here path = .ok spot ∧ tree.node? spot ≠ some .directory ∧
      tree.SameDirectories after ∧
      after.node? = Function.update tree.node? spot (some (.file bytes)) := by
  obtain ⟨-, -, spot, located, free, rfl⟩ := write_eq_ok_iff.mp written
  have view := node?_put tree (names_ne_nil_of_node? free) (.file bytes)
  exact ⟨spot, located, free, sameDirectories_of_update free (by simp) view, view⟩

/-- What a move makes of a tree. -/
theorem of_move {source target : String} {after : FileTree}
    (moved : tree.move here source target = .ok after) {start goal : Spot}
    (located : tree.locate here source = .ok start)
    (located' : tree.locate here target = .ok goal) :
    endsInName target = true ∧ endsInSlash target = false ∧
      (∃ bytes, tree.node? start = some (.file bytes)) ∧ tree.SameDirectories after ∧
      after.node? =
        Function.update (Function.update tree.node? start none) goal (tree.node? start) := by
  obtain ⟨-, ⟨-, named⟩, ⟨-, plain⟩, start', goal', bytes, led, led', there, free, rfl⟩ :=
    move_eq_ok_iff.mp moved
  obtain rfl : start' = start := Except.ok.inj (led.symm.trans located)
  obtain rfl : goal' = goal := Except.ok.inj (led'.symm.trans located')
  -- a move is a removal and then a write, and neither has to do with a directory
  have file : tree.node? start' ≠ some .directory := by simp [there]
  have erased := node?_erase tree (names_ne_nil_of_node? file)
  have same := sameDirectories_of_update file (by simp) erased
  have open' : (tree.erase start').node? goal' ≠ some .directory :=
    fun directory => free ((same goal').mpr directory)
  have view := node?_put (tree.erase start') (names_ne_nil_of_node? free) (.file bytes)
  have same' := sameDirectories_of_update open' (by simp) view
  exact ⟨named, plain, ⟨bytes, there⟩, same.trans same', by rw [view, erased, there]⟩

end FileTree

section Paths

/-- The steps of a text behind a slash come after those of the text before it. -/
theorem pathSteps_append_slash (before behind : List Char) :
    pathSteps (String.ofList (before ++ '/' :: behind)) =
      pathSteps (String.ofList before) ++ pathSteps (String.ofList behind) := by
  simp only [pathSteps, String.toList_ofList, List.splitOn_append_cons_self, List.filter_append,
    List.map_append]

theorem pathSteps_of_notMem {name : List Char} (plain : '/' ∉ name) :
    pathSteps (String.ofList name) = if name = [] then [] else [String.ofList name] := by
  rw [pathSteps, String.toList_ofList, List.splitOn_eq_singleton plain]
  cases name <;> simp

theorem toList_stagedPath (path : String) :
    (stagedPath path).toList = path.toList ++ ".tmp".toList := by
  rw [stagedPath, String.toList_append]

/-- A path and the path at which it is staged part in their last step only, which the first lacks if
it ends in a slash. -/
theorem exists_lastStep (path : String) :
    ∃ (parents : List String) (name : String),
      pathSteps path = parents ++ (if name = "" then [] else [name]) ∧
        pathSteps (stagedPath path) = parents ++ [stagedPath name] ∧
        (endsInSlash path = false → path ≠ "" → name ≠ "") := by
  have extended (name : List Char) (plain : '/' ∉ name) :
      pathSteps (String.ofList (name ++ ".tmp".toList)) = [stagedPath (String.ofList name)] := by
    have still : '/' ∉ name ++ ".tmp".toList := by
      rw [List.mem_append, not_or]
      exact ⟨plain, by decide⟩
    have text : stagedPath (String.ofList name) = String.ofList (name ++ ".tmp".toList) :=
      String.toList_inj.mp (by simp [toList_stagedPath])
    rw [pathSteps_of_notMem still, text]
    simp
  have own : path = String.ofList path.toList := String.ofList_toList.symm
  have staged : stagedPath path = String.ofList (path.toList ++ ".tmp".toList) :=
    String.toList_inj.mp (by simp [toList_stagedPath])
  by_cases slash : '/' ∈ path.toList
  · -- the last slash of a text is the first one of its reverse
    obtain ⟨behind, before, cut, plain⟩ :=
      List.eq_append_cons_of_mem (List.mem_reverse.mpr slash)
    have text : path.toList = before.reverse ++ '/' :: behind.reverse := by
      rw [← List.reverse_reverse path.toList, cut]
      simp
    have plain' : '/' ∉ behind.reverse := by simpa using plain
    refine ⟨pathSteps (String.ofList before.reverse), String.ofList behind.reverse, ?_, ?_, ?_⟩
    · rw [own, text, pathSteps_append_slash, pathSteps_of_notMem plain']
      simp
    · rw [staged, text, List.append_assoc, List.cons_append, pathSteps_append_slash,
        extended _ plain']
    · intro open' _ empty
      have none : behind = [] := by simpa using empty
      rw [endsInSlash, text, none] at open'
      simp at open'
  · refine ⟨[], path, ?_, ?_, fun _ proper => proper⟩
    · rw [own, pathSteps_of_notMem slash]
      simp
    · have last := extended _ slash
      rwa [← staged, String.ofList_toList] at last

theorem endsInSlash_stagedPath (path : String) : endsInSlash (stagedPath path) = false := by
  rw [endsInSlash, toList_stagedPath, List.getLast?_append]
  rfl

theorem stagedPath_ne_dots (name : String) : stagedPath name ≠ "." ∧ stagedPath name ≠ ".." := by
  have long : 4 ≤ (stagedPath name).toList.length := by
    rw [toList_stagedPath, List.length_append]
    exact Nat.le_add_left 4 _
  constructor
  · intro same
    exact absurd (same ▸ long) (by decide)
  · intro same
    exact absurd (same ▸ long) (by decide)

theorem endsInName_stagedPath (path : String) : endsInName (stagedPath path) = true := by
  obtain ⟨parents, name, -, steps, -⟩ := exists_lastStep path
  simp [endsInName, steps, stagedPath_ne_dots]

/-- A text is staged in the directory of its file, so both paths begin at the same spot. -/
theorem pathStart_stagedPath (here : Spot) {path : String} (given : path ≠ "") :
    pathStart here (stagedPath path) = pathStart here path := by
  have first : (stagedPath path).toList.head? = path.toList.head? := by
    cases text : path.toList with
    | nil => exact absurd (String.toList_eq_nil_iff.mp text) given
    | cons c rest => simp [toList_stagedPath, text]
  rw [pathStart, pathStart, first]

/-- The spot beside a file at which a new text for it is staged. -/
def Spot.beside (spot : Spot) : Spot :=
  ⟨spot.names.dropLast ++ [stagedPath (spot.names.getLast?.getD "")]⟩

theorem stagedPath_injective {name other : String} (same : stagedPath name = stagedPath other) :
    name = other :=
  (String.append_left_inj _).mp same

theorem Spot.beside_concat (parents : List String) (name : String) :
    Spot.beside ⟨parents ++ [name]⟩ = ⟨parents ++ [stagedPath name]⟩ := by
  simp [Spot.beside]

theorem Spot.exists_eq_concat {spot : Spot} (below : spot.names ≠ []) :
    ∃ parents name, spot = ⟨parents ++ [name]⟩ := by
  obtain ⟨names⟩ := spot
  rcases List.eq_nil_or_concat names with rfl | ⟨parents, name, rfl⟩
  · exact absurd rfl below
  · exact ⟨parents, name, by rw [List.concat_eq_append]⟩

theorem Spot.beside_injective {spot other : Spot} (below : spot.names ≠ [])
    (below' : other.names ≠ []) (same : spot.beside = other.beside) : spot = other := by
  obtain ⟨parents, name, rfl⟩ := Spot.exists_eq_concat below
  obtain ⟨parents', name', rfl⟩ := Spot.exists_eq_concat below'
  rw [Spot.beside_concat, Spot.beside_concat, Spot.mk.injEq] at same
  obtain ⟨rfl, last⟩ := List.append_inj' same rfl
  obtain rfl := stagedPath_injective (List.singleton_inj.mp last)
  rfl

theorem Spot.step_eq_ok_iff {spot next : Spot} {name : String} (named : name ≠ "." ∧ name ≠ "..") :
    spot.step name = .ok next ↔
      name.utf8ByteSize ≤ maxNameBytes ∧ next = ⟨spot.names ++ [name]⟩ := by
  rw [Spot.step, if_neg named.1, if_neg named.2]
  split_ifs with long
  · simp [Nat.not_le.mpr long]
  · simp [Nat.not_lt.mp long, eq_comm]

theorem Spot.exists_step (spot : Spot) {name : String} (fits : name.utf8ByteSize ≤ maxNameBytes) :
    ∃ next, spot.step name = .ok next := by
  unfold Spot.step
  split_ifs with stay up long
  · exact ⟨_, rfl⟩
  · exact ⟨_, rfl⟩
  · omega
  · exact ⟨_, rfl⟩

namespace FileTree
variable {tree : FileTree} {here : Spot}

/-- A path that names a file leads to a spot below the root, and its text is staged beside it. -/
theorem locate_stagedPath {path : String} (named : endsInName path = true)
    (plain : endsInSlash path = false) {spot staged : Spot}
    (located : tree.locate here path = .ok spot)
    (located' : tree.locate here (stagedPath path) = .ok staged) :
    spot.names ≠ [] ∧ staged = spot.beside := by
  obtain ⟨given, -, walked⟩ := locate_eq_ok_iff.mp located
  obtain ⟨-, -, walked'⟩ := locate_eq_ok_iff.mp located'
  obtain ⟨parents, name, steps, steps', proper⟩ := exists_lastStep path
  rw [if_neg (proper plain given)] at steps
  have dots : name ≠ "." ∧ name ≠ ".." := by simpa [endsInName, steps] using named
  -- both walks come to the same parent and differ in the last step
  rw [steps, walk_concat_eq_ok_iff] at walked
  rw [pathStart_stagedPath here given, steps', walk_concat_eq_ok_iff] at walked'
  obtain ⟨parent, front, -, step⟩ := walked
  obtain ⟨parent', front', -, step'⟩ := walked'
  obtain rfl : parent = parent' := Except.ok.inj (front.symm.trans front')
  obtain ⟨-, rfl⟩ := (Spot.step_eq_ok_iff dots).mp step
  obtain ⟨-, rfl⟩ := (Spot.step_eq_ok_iff (stagedPath_ne_dots name)).mp step'
  exact ⟨by simp, (Spot.beside_concat _ _).symm⟩

/-- Where a text can be staged its path leads somewhere. -/
theorem exists_locate_of_stagedPath {path : String} (given : path ≠ "") {staged : Spot}
    (located : tree.locate here (stagedPath path) = .ok staged) :
    ∃ spot, tree.locate here path = .ok spot := by
  obtain ⟨-, short, walked⟩ := locate_eq_ok_iff.mp located
  obtain ⟨parents, name, steps, steps', -⟩ := exists_lastStep path
  rw [pathStart_stagedPath here given, steps', walk_concat_eq_ok_iff] at walked
  obtain ⟨parent, front, below, step⟩ := walked
  have smaller (text : String) : text.utf8ByteSize ≤ (stagedPath text).utf8ByteSize := by
    rw [stagedPath, String.utf8ByteSize_append]
    exact Nat.le_add_right _ _
  have walk : ∃ spot, tree.walk (pathStart here path) (pathSteps path) = .ok spot := by
    rw [steps]
    split_ifs with empty
    · exact ⟨parent, by rw [List.append_nil, front]⟩
    · -- the last step is no longer than the one to the staged text
      have fits := ((Spot.step_eq_ok_iff (stagedPath_ne_dots name)).mp step).1
      obtain ⟨spot, last⟩ := parent.exists_step ((smaller name).trans fits)
      exact ⟨spot, walk_concat_eq_ok_iff.mpr ⟨parent, front, below, last⟩⟩
  obtain ⟨spot, walked⟩ := walk
  exact ⟨spot, locate_eq_ok_iff.mpr ⟨given, (smaller path).trans short, walked⟩⟩

end FileTree

end Paths
end AnnotatedTests
