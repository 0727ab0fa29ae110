import RowDrop.Content
import RowDrop.Path

/-!
# File trees

Files, directories and symbolic links are nodes with numbers; a directory gives names to numbers.
Two names of one number are hard links. A node keeps its number for ever, so that "the same file"
has a meaning across renames.
-/

namespace RowDrop

/-- The number of a node. -/
abbrev Inode := Nat

/-- A name in a directory. -/
abbrev Name := List UInt8

/-- A node of a file tree. -/
inductive Node where
  /-- A regular file with its permission bits. -/
  | file (content : Content) (mode : Nat)
  /-- A directory: the directory above it, and its names. -/
  | directory (parent : Inode) (entries : List (Name × Inode))
  /-- A symbolic link. -/
  | link (target : Path)

/-- A file tree with a working directory. Node 0 is the root. -/
structure Tree where
  nodes : List Node
  /-- The directory from which relative paths lead. -/
  workdir : Inode

namespace Tree

/-- The root directory. -/
def root : Inode := 0

/-- The node of a number. -/
def node? (tree : Tree) (inode : Inode) : Option Node := tree.nodes[inode]?

/-- Replaces a node. -/
def setNode (tree : Tree) (inode : Inode) (node : Node) : Tree :=
  { tree with nodes := tree.nodes.set inode node }

/-- Adds a node under a new number. -/
def addNode (tree : Tree) (node : Node) : Inode × Tree :=
  (tree.nodes.length, { tree with nodes := tree.nodes ++ [node] })

/-- The directory above a directory, and the names in it. -/
def directory? (tree : Tree) (inode : Inode) : Option (Inode × List (Name × Inode)) :=
  match tree.node? inode with
  | some (.directory parent entries) => some (parent, entries)
  | _ => none

/-- The names in a directory; other nodes have none. -/
def entries (tree : Tree) (inode : Inode) : List (Name × Inode) :=
  ((tree.directory? inode).map (·.2)).getD []

/-- The contents and permission bits of a regular file. -/
def file? (tree : Tree) (inode : Inode) : Option (Content × Nat) :=
  match tree.node? inode with
  | some (.file content mode) => some (content, mode)
  | _ => none

/-- The node is a directory. -/
def isDirectory (tree : Tree) (inode : Inode) : Bool := (tree.directory? inode).isSome

/-- Gives a name of a directory another list of names to stand in. -/
def setEntries (tree : Tree) (directory : Inode) (entries : List (Name × Inode)) : Tree :=
  match tree.node? directory with
  | some (.directory parent _) => tree.setNode directory (.directory parent entries)
  | _ => tree

/-- Lets a name of a directory lead to a node; an entry of that name is replaced in its place. -/
def bind (tree : Tree) (directory : Inode) (name : Name) (inode : Inode) : Tree :=
  let entries := tree.entries directory
  tree.setEntries directory <|
    if entries.any (·.1 = name) then
      entries.map fun entry => if entry.1 = name then (name, inode) else entry
    else entries ++ [(name, inode)]

/-- Takes a name out of a directory. -/
def unbind (tree : Tree) (directory : Inode) (name : Name) : Tree :=
  tree.setEntries directory ((tree.entries directory).filter (·.1 ≠ name))

/-- The permission bits of a file that is created without a wish: `644` in octal. -/
def newFileMode : Nat := 0o644

/-- Replaces the contents of a regular file and keeps its permission bits. -/
def setContent (tree : Tree) (inode : Inode) (content : Content) : Tree :=
  match tree.file? inode with
  | some (_, mode) => tree.setNode inode (.file content mode)
  | none => tree

/-- Replaces the permission bits of a regular file and keeps its contents. -/
def setMode (tree : Tree) (inode : Inode) (mode : Nat) : Tree :=
  match tree.file? inode with
  | some (content, _) => tree.setNode inode (.file content mode)
  | none => tree

/-- A tree whose working directory is empty and lies two levels below the root. -/
def fresh : Tree where
  nodes := [
    .directory 0 [("tmp".toUTF8.toList, 1)],
    .directory 0 [("work".toUTF8.toList, 2)],
    .directory 1 []]
  workdir := 2

theorem node?_setNode (tree : Tree) (inode other : Inode) (node : Node) :
    (tree.setNode inode node).node? other =
      if inode = other then (if inode < tree.nodes.length then some node else none)
      else tree.node? other := by
  simp only [node?, setNode, List.getElem?_set]

theorem node?_setNode_of_ne (tree : Tree) {inode other : Inode} (node : Node)
    (h : inode ≠ other) : (tree.setNode inode node).node? other = tree.node? other := by
  rw [node?_setNode, if_neg h]

/-- Adding a node changes no older one. -/
theorem node?_addNode (tree : Tree) (node : Node) {other : Inode}
    (h : other < tree.nodes.length) : (tree.addNode node).2.node? other = tree.node? other := by
  simp [node?, addNode, List.getElem?_append, h]

end Tree
end RowDrop
