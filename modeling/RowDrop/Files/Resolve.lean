import RowDrop.Files.SystemError
import RowDrop.Files.Tree

/-!
# Following paths

A path is followed name by name. A symbolic link on the way is replaced by its target, at most
forty times. What happens at the last name depends on what the caller wants with it: read what is
there, create what is not, or handle the name itself.
-/

namespace RowDrop

/-- What the last name of a path is wanted for. -/
inductive Purpose where
  /-- To use what is there; a link is followed. -/
  | use
  /-- To write a file, which is created if it is missing; a link is followed. -/
  | create
  /-- To handle the name itself; a link is not followed. -/
  | name
  deriving DecidableEq, Repr

/-- Where a path leads. -/
inductive Place where
  /-- To a directory that the path names by `.`, by `..` or as the root. -/
  | directory (inode : Inode)
  /-- To a node under a name in a directory. -/
  | entry (inode directory : Inode) (name : Name)
  /-- To a name that the directory does not have. -/
  | free (directory : Inode) (name : Name)
  deriving DecidableEq, Repr

namespace Place

/-- The node at a place, if there is one. -/
def inode? : Place → Option Inode
  | directory inode => some inode
  | entry inode _ _ => some inode
  | free _ _ => none

end Place

namespace Tree

/-- The largest number of bytes in a name. -/
def nameLimit : Nat := 255

/-- A path has fewer bytes than this. -/
def pathLimit : Nat := 4096

/-- How many links are followed along one path. -/
def linkLimit : Nat := 40

/-- The node from which a path leads. -/
def start (path : Path) (here : Inode) : Inode :=
  if path.isAbsolute then root else here

/-- Follows names from a node. `jump` goes on from another node with other names, after a link. -/
def descend (tree : Tree) (purpose : Purpose)
    (jump : Inode → List Name → Except Errno Place) : Inode → List Name → Except Errno Place
  | here, [] => .ok (.directory here)
  | here, name :: rest =>
    match tree.directory? here with
    | none => .error .notDirectory
    | some (parent, entries) =>
      if name = [] ∨ name = [Path.dot] then descend tree purpose jump here rest
      else if name = [Path.dot, Path.dot] then descend tree purpose jump parent rest
      else if purpose = .create ∧ rest = [[]] then .error .isDirectory
      else if nameLimit < name.length then .error .nameTooLong
      else
        let last : Bool := rest = [] ∨ purpose = .name ∧ rest = [[]]
        match entries.lookup name with
        | none => if last then .ok (.free here name) else .error .noEntry
        | some inode =>
          match tree.node? inode with
          | none => .error .noEntry
          | some (.link target) =>
            if last ∧ purpose = .name then .ok (.entry inode here name)
            else jump (start target here) (target.names ++ rest)
          | some _ =>
            if last then .ok (.entry inode here name) else descend tree purpose jump inode rest

/-- Follows names from a node, through at most the given number of links. -/
def walk (tree : Tree) (purpose : Purpose) : Nat → Inode → List Name → Except Errno Place
  | 0 => tree.descend purpose fun _ _ => .error .linkLoop
  | links + 1 => tree.descend purpose (tree.walk purpose links)

/-- The path can be handed to the system: it has no zero byte, is not empty and not too long. -/
def checkPath (path : Path) : Except IoError Unit :=
  if 0 ∈ path.bytes then .error .nulInPath
  else if path.bytes = [] then .error (.os .noEntry)
  else if pathLimit ≤ path.bytes.length then .error (.os .nameTooLong)
  else .ok ()

/-- Where a path leads, for a purpose. -/
def locate (tree : Tree) (purpose : Purpose) (path : Path) : Except IoError Place := do
  checkPath path
  match tree.walk purpose linkLimit (start path tree.workdir) path.names with
  | .ok place => .ok place
  | .error errno => .error (.os errno)

/-- The node to which a path leads through all links. -/
def lookup (tree : Tree) (path : Path) : Except IoError Inode := do
  match (← tree.locate .use path).inode? with
  | some inode => .ok inode
  | none => .error (.os .noEntry)

end Tree
end RowDrop
