import AnnotatedTests.Failure

/-! File trees: the files and directories that a run can see, and what the file system does with
a path. A path that begins with a slash leads down from the root, any other from the directory in
which the run takes place. -/
namespace AnnotatedTests

inductive Node where
  | file (bytes : ByteArray)
  | directory

def Node.isDirectory : Node → Bool
  | .file _ => false
  | .directory => true

/-- A spot: the names that lead down to it from the root. -/
structure Spot where
  names : List String
  deriving DecidableEq, Repr

def Spot.root : Spot := ⟨[]⟩

/-- A tree, as the spots at which something stands. The root is a directory. -/
structure FileTree where
  nodes : List (Spot × Node)

def FileTree.empty : FileTree := ⟨[]⟩

def FileTree.node? (tree : FileTree) (spot : Spot) : Option Node :=
  if spot.names.isEmpty then some .directory
  else (tree.nodes.find? fun node => node.1 == spot).map Prod.snd

def FileTree.put (tree : FileTree) (spot : Spot) (node : Node) : FileTree :=
  ⟨(tree.nodes.filter fun other => other.1 != spot) ++ [(spot, node)]⟩

def FileTree.erase (tree : FileTree) (spot : Spot) : FileTree :=
  ⟨tree.nodes.filter fun other => other.1 != spot⟩

def maxNameBytes : Nat := 255

def maxPathBytes : Nat := 4095

/-- One step of a path. The root is its own parent. -/
def Spot.step (spot : Spot) (name : String) : Except Refusal Spot :=
  if name = "." then .ok spot
  else if name = ".." then .ok ⟨spot.names.dropLast⟩
  else if maxNameBytes < name.utf8ByteSize then .error .nameTooLong
  else .ok ⟨spot.names ++ [name]⟩

/-- The spot that some steps lead to. Each begins in a directory. -/
def FileTree.walk (tree : FileTree) (spot : Spot) : List String → Except Refusal Spot
  | [] => .ok spot
  | name :: rest =>
    match tree.node? spot with
    | none => .error .missing
    | some (.file _) => .error .notDirectory
    | some .directory => (spot.step name).bind fun next => tree.walk next rest

def pathSteps (path : String) : List String :=
  ((path.toList.splitOn '/').filter fun name => !name.isEmpty).map String.ofList

/-- The spot at which the steps of a path begin: the root if the path begins with a slash, and
otherwise the directory of the run. -/
def pathStart (here : Spot) (path : String) : Spot :=
  if path.toList.head? == some '/' then .root else here

/-- Whether a path ends in a slash, so that it can only mean a directory. -/
def endsInSlash (path : String) : Bool := path.toList.getLast? == some '/'

/-- Whether the last step of a path names something, and does not merely stay or go up. -/
def endsInName (path : String) : Bool :=
  (pathSteps path).getLast?.any fun name => name != "." && name != ".."

def FileTree.locate (tree : FileTree) (here : Spot) (path : String) : Except Refusal Spot :=
  if path = "" then .error .missing
  else if maxPathBytes < path.utf8ByteSize then .error .nameTooLong
  else tree.walk (pathStart here path) (pathSteps path)

/-- Whether a path holds the character that ends paths. -/
def holdsNul (path : String) : Bool := path.toList.contains '\x00'

def refuseAt {α : Type} (path : String) (refusal : Refusal) : Except Failure α :=
  .error (.file ⟨refusal, path, none⟩)

def refuseMove {α : Type} (source target : String) (refusal : Refusal) : Except Failure α :=
  .error (.file ⟨refusal, source, some target⟩)

def FileTree.read (tree : FileTree) (here : Spot) (path : String) : Except Failure ByteArray :=
  if holdsNul path then .error .nulInPath
  else
    match tree.locate here path with
    | .error refusal => refuseAt path refusal
    | .ok spot =>
      match tree.node? spot with
      | none => refuseAt path .missing
      | some .directory => refuseAt path .isDirectory
      | some (.file bytes) => if endsInSlash path then refuseAt path .notDirectory else .ok bytes

def FileTree.write (tree : FileTree) (here : Spot) (path : String) (bytes : ByteArray) :
    Except Failure FileTree :=
  if holdsNul path then .error .nulInPath
  else
    match tree.locate here path with
    | .error refusal => refuseAt path refusal
    | .ok spot =>
      match tree.node? spot with
      | none =>
        if endsInSlash path then refuseAt path .isDirectory else .ok (tree.put spot (.file bytes))
      | some .directory => refuseAt path .isDirectory
      | some (.file _) =>
        if endsInSlash path then refuseAt path .notDirectory else .ok (tree.put spot (.file bytes))

def FileTree.move (tree : FileTree) (here : Spot) (source target : String) :
    Except Failure FileTree :=
  if holdsNul source || holdsNul target then .error .nulInPath
  else
    match tree.locate here source, tree.locate here target with
    | .error refusal, _ => refuseMove source target refusal
    | _, .error refusal => refuseMove source target refusal
    | .ok start, .ok goal =>
      if !endsInName source || !endsInName target then refuseMove source target .busy
      else
        match tree.node? start, tree.node? goal with
        | none, _ => refuseMove source target .missing
        | some .directory, _ => refuseMove source target .isDirectory
        | some (.file bytes), occupant =>
          if endsInSlash source || endsInSlash target then refuseMove source target .notDirectory
          else if occupant.any Node.isDirectory then refuseMove source target .isDirectory
          else .ok ((tree.erase start).put goal (.file bytes))

def FileTree.remove (tree : FileTree) (here : Spot) (path : String) : FileTree :=
  match tree.locate here path with
  | .error _ => tree
  | .ok spot =>
    match tree.node? spot with
    | some (.file _) => tree.erase spot
    | _ => tree

/-- A tree with something at the end of a path, and with directories on the way there. -/
def FileTree.plant (tree : FileTree) (here : Spot) (path : String) (node : Node) : FileTree :=
  let names := (pathStart here path).names ++ (pathSteps path).filter fun name => name != "."
  let parents := (List.range names.length).map fun count => Spot.mk (names.take count)
  let grown := parents.foldl
    (fun tree spot => if (tree.node? spot).isSome then tree else tree.put spot .directory) tree
  grown.put ⟨names⟩ node

/-- The files below a directory, by their paths from there. -/
def FileTree.filesBelow (tree : FileTree) (here : Spot) : List (String × ByteArray) :=
  tree.nodes.filterMap fun node =>
    match here.names.isPrefixOf node.1.names, node.2 with
    | true, .file bytes => some ("/".intercalate (node.1.names.drop here.names.length), bytes)
    | _, _ => none

/-- The files below a directory that are new or other than in an earlier tree. -/
def FileTree.writtenSince (tree before : FileTree) (here : Spot) : List (String × ByteArray) :=
  (tree.filesBelow here).filter fun file =>
    !((before.filesBelow here).any fun old => old.1 == file.1 && old.2 == file.2)

def FileTree.removedSince (tree before : FileTree) (here : Spot) : List String :=
  ((before.filesBelow here).map Prod.fst).filter fun path =>
    !((tree.filesBelow here).any fun file => file.1 == path)

end AnnotatedTests
