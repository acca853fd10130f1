import Lexicon.Storage

/-!
# Directory trees

A storage held in memory: a tree of directories with files at its leaves.  A path is followed one
component after another, through directories only, from the root or from a working directory.
-/

namespace Lexicon

inductive FileTree where
  | file (bytes : ByteArray)
  | directory (entries : List (String × FileTree))

namespace FileTree

/-- The tree with a file at a path, given by its components.  Missing directories are made. -/
def insert (bytes : ByteArray) : List String → FileTree → FileTree
  | [], _ => file bytes
  | name :: path, tree =>
    let entries := match tree with
      | directory entries => entries
      | file _ => []
    let old := (entries.lookup name).getD (directory [])
    directory ((name, insert bytes path old) :: entries.filter (·.1 != name))

/-- A place in a tree: the node there, and the directories above it, nearest first. -/
structure Place where
  node : FileTree
  above : List FileTree

/-- The greatest number of bytes of a name. -/
def nameLimit : Nat := 255

/-- The number of bytes that a path has to stay below. -/
def pathLimit : Nat := 4096

namespace Place

/-- Follows one component of a path.  An empty one, as between two slashes, stays where it is. -/
def step (place : Place) (component : String) : Except FileError Place :=
  match place.node with
  | file _ => .error .notDirectory
  | directory entries =>
    if component = "" ∨ component = "." then .ok place
    else if component = ".." then
      match place.above with
      | [] => .ok place
      | parent :: above => .ok ⟨parent, above⟩
    else if nameLimit < component.utf8ByteSize then .error .nameTooLong
    else
      match entries.lookup component with
      | some node => .ok ⟨node, place.node :: place.above⟩
      | none => .error .notFound

/-- The root of a place's tree. -/
def root (place : Place) : Place := ⟨(place.above.getLast?).getD place.node, []⟩

/-- Follows a path, from the root if it begins with a slash. -/
def follow (place : Place) (path : String) : Except FileError Place :=
  if path = "" then .error .notFound
  else if pathLimit ≤ path.utf8ByteSize then .error .nameTooLong
  else
    let start := if path.toList.head? = some '/' then place.root else place
    (path.splitOn "/").foldlM step start

/-- The storage that a place is the working directory of. -/
def storage (place : Place) : Storage where
  read path := do
    match (← place.follow path).node with
    | file bytes => return bytes
    | directory _ => throw .isDirectory

end Place

end FileTree

end Lexicon
