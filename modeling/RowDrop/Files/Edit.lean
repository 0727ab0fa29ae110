import RowDrop.Files.Access

/-!
# Preparing and listing a tree

Edits by which a tree gets its files, directories and links, and the list of everything below the
working directory. An edit that cannot be made leaves the tree as it is.
-/

namespace RowDrop

/-- What stands under a path of a listing. -/
inductive Listed where
  | file (content : Content) (mode : Nat)
  | directory
  | link (target : Path)

namespace Tree

/-- Writes a file, which is created if it is missing. -/
def put (tree : Tree) (path : Path) (content : Content) : Tree :=
  match tree.createFile path newFileMode with
  | .ok (inode, tree) => tree.setContent inode content
  | .error _ => tree

/-- Puts bytes behind a file. -/
def appendTo (tree : Tree) (path : Path) (bytes : List UInt8) : Tree :=
  match tree.openFile path with
  | .ok (.file inode content _) => tree.setContent inode (content.append bytes)
  | .ok .directory => tree
  | .error _ => tree.put path (.raw bytes)

/-- Adds a node under a path that is free. -/
def addAt (tree : Tree) (path : Path) (node : Inode → Node) : Tree :=
  match tree.locate .name path with
  | .ok (.free directory name) =>
    let (inode, tree) := tree.addNode (node directory)
    tree.bind directory name inode
  | _ => tree

/-- The paths of the directories along a path, from the outermost on. -/
def prefixes (path : Path) : List Path :=
  let lead : List UInt8 := if path.isAbsolute then [Path.slash] else []
  let names := path.names.filter (· ≠ [])
  (List.range names.length).map fun i =>
    ⟨lead ++ List.intercalate [Path.slash] (names.take (i + 1))⟩

/-- Makes a directory and the missing ones above it. -/
def makeDirectories (tree : Tree) (path : Path) : Tree :=
  (prefixes path).foldl (fun tree path => tree.addAt path fun parent => .directory parent []) tree

/-- Makes a symbolic link. -/
def makeLink (tree : Tree) (target path : Path) : Tree :=
  tree.addAt path fun _ => .link target

/-- Gives a node, which may be a symbolic link, one more name. -/
def makeHardLink (tree : Tree) (target path : Path) : Tree :=
  match tree.locate .name target, tree.locate .name path with
  | .ok (.entry inode _ _), .ok (.free directory name) => tree.bind directory name inode
  | _, _ => tree

/-- Renames, if it can be done. -/
def move (tree : Tree) (source target : Path) : Tree :=
  match tree.renameFile source target with
  | .ok tree => tree
  | .error _ => tree

/-- Sets the permission bits of a file. -/
def changeMode (tree : Tree) (path : Path) (mode : Nat) : Tree :=
  match tree.lookup path with
  | .ok inode => tree.setMode inode mode
  | .error _ => tree

/-- Takes a name away, with everything below it. -/
def remove (tree : Tree) (path : Path) : Tree :=
  match tree.locate .name path with
  | .ok (.entry _ directory name) => tree.unbind directory name
  | _ => tree

/-- The edits, as what is to be done. -/
inductive Edit where
  | put (path : Path) (content : Content)
  | appendTo (path : Path) (bytes : List UInt8)
  | makeDirectories (path : Path)
  | makeLink (target path : Path)
  | makeHardLink (target path : Path)
  | move (source target : Path)
  | changeMode (path : Path) (mode : Nat)
  | remove (path : Path)

/-- Makes an edit. -/
def edit (tree : Tree) : Edit → Tree
  | .put path content => tree.put path content
  | .appendTo path bytes => tree.appendTo path bytes
  | .makeDirectories path => tree.makeDirectories path
  | .makeLink target path => tree.makeLink target path
  | .makeHardLink target path => tree.makeHardLink target path
  | .move source target => tree.move source target
  | .changeMode path mode => tree.changeMode path mode
  | .remove path => tree.remove path

/-- Everything below a directory, down to a depth, with paths that begin with `lead`. -/
def listBelow (tree : Tree) : (depth : Nat) → (lead : List UInt8) → Inode → List (Path × Listed)
  | 0, _, _ => []
  | depth + 1, lead, directory =>
    (tree.entries directory).flatMap fun (name, inode) =>
      let path : Path := ⟨lead ++ name⟩
      match tree.node? inode with
      | some (.file content mode) => [(path, .file content mode)]
      | some (.link target) => [(path, .link target)]
      | some (.directory _ _) =>
        (path, .directory) :: tree.listBelow depth (lead ++ name ++ [Path.slash]) inode
      | none => []

/-- Everything below the working directory. No chain of directories is longer than there are
nodes. -/
def listing (tree : Tree) : List (Path × Listed) :=
  tree.listBelow tree.nodes.length [] tree.workdir

/-- What can be read at a path. -/
def content? (tree : Tree) (path : Path) : Option Content := (tree.readFile path).toOption

end Tree
end RowDrop
