import AnnotatedTests.Files.Tree

/-! Disks: what a run can do to files, in any setting that has effects of its own. File trees
are one such setting. -/
namespace AnnotatedTests

/-- The operations on files. -/
structure Disk (m : Type → Type) where
  read : String → m (Except Failure ByteArray)
  write : String → String → m (Except Failure Unit)
  move : String → String → m (Except Failure Unit)
  remove : String → m Unit

/-- Does something to a tree that may be refused, in which case the tree stays as it is. -/
def changeTree (change : FileTree → Except Failure FileTree) :
    StateM FileTree (Except Failure Unit) :=
  fun tree =>
    match change tree with
    | .ok after => (.ok (), after)
    | .error failure => (.error failure, tree)

/-- The files of a tree, for a run in one of its directories. -/
def treeDisk (here : Spot) : Disk (StateM FileTree) where
  read path := fun tree => (tree.read here path, tree)
  write path text := changeTree fun tree => tree.write here path text.toUTF8
  move source target := changeTree fun tree => tree.move here source target
  remove path := fun tree => ((), tree.remove here path)

end AnnotatedTests
