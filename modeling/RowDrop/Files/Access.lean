import RowDrop.Files.Resolve

/-!
# Reading and writing files

The calls by which datasets and backups are handled: open a file for reading, create or empty a
file for writing, write through an open file, copy, ask for a regular file, rename. A call that
fails leaves the tree as it was. Permission bits are kept and copied; here they never stand in the
way.
-/

namespace RowDrop

/-- What opening a path for reading gives. -/
inductive Opened where
  /-- A regular file: its node, contents and permission bits. -/
  | file (inode : Inode) (content : Content) (mode : Nat)
  /-- A directory, which opens but cannot be read. -/
  | directory

namespace Tree

/-- Opens a path for reading. -/
def openFile (tree : Tree) (path : Path) : Except IoError Opened := do
  let inode ← tree.lookup path
  match tree.node? inode with
  | some (.file content mode) => .ok (.file inode content mode)
  | _ => .ok .directory

/-- Reads all of a file. -/
def readFile (tree : Tree) (path : Path) : Except IoError Content := do
  match ← tree.openFile path with
  | .file _ content _ => .ok content
  | .directory => .error (.os .isDirectory)

/-- Opens a path for writing: an existing file is emptied and keeps its permission bits, a missing
one is created with the given bits. Gives the node that later writes go to. -/
def createFile (tree : Tree) (path : Path) (mode : Nat) : Except IoError (Inode × Tree) := do
  match ← tree.locate .create path with
  | .directory _ => .error (.os .isDirectory)
  | .entry inode _ _ =>
    if tree.isDirectory inode then .error (.os .isDirectory)
    else .ok (inode, tree.setContent inode .empty)
  | .free directory name =>
    let (inode, tree) := tree.addNode (.file .empty mode)
    .ok (inode, tree.bind directory name inode)

/-- Copies a file with its permission bits. The target is emptied before the source is read, so
where both are one file nothing is left to copy. Gives what was copied. -/
def copyFile (tree : Tree) (source target : Path) : Except IoError (Content × Tree) := do
  match ← tree.openFile source with
  | .directory => .error .notRegular
  | .file inode content mode =>
    let (copy, tree) ← tree.createFile target mode
    let copied := if copy = inode then .empty else content
    .ok (copied, (tree.setMode copy mode).setContent copy copied)

/-- The path leads to a regular file. -/
def isFile (tree : Tree) (path : Path) : Bool :=
  match tree.lookup path with
  | .ok inode => (tree.file? inode).isSome
  | .error _ => false

/-- Moves a node from one name to another, which need not be free. -/
def moveEntry (tree : Tree) (inode : Inode) (directory : Inode) (name : Name)
    (directory' : Inode) (name' : Name) : Tree :=
  let tree := (tree.unbind directory name).bind directory' name' inode
  match tree.node? inode with
  | some (.directory _ entries) => tree.setNode inode (.directory directory' entries)
  | _ => tree

/-- Renames a name; links are not followed at the end of either path. A name that already leads
to the same node leaves everything as it is, and a file takes the place of any node but a
directory. -/
def renameFile (tree : Tree) (source target : Path) : Except IoError Tree := do
  match ← tree.locate .name source, ← tree.locate .name target with
  | .directory _, _ | _, .directory _ => .error (.os .busy)
  | .free _ _, _ => .error (.os .noEntry)
  | .entry inode directory name, place =>
    let moved := tree.isDirectory inode
    if !moved ∧ (source.endsInSlash ∨ target.endsInSlash) then .error (.os .notDirectory)
    else
      match place with
      | .free directory' name' => .ok (tree.moveEntry inode directory name directory' name')
      | .entry other directory' name' =>
        if inode = other then .ok tree
        else if !moved ∧ tree.isDirectory other then .error (.os .isDirectory)
        else if moved ∧ !tree.isDirectory other then .error (.os .notDirectory)
        else .ok (tree.moveEntry inode directory name directory' name')
      | .directory _ => .error (.os .busy)

end Tree
end RowDrop
