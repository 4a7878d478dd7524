import MessagingConsole.Text.Numeral
import MessagingConsole.Text.Pieces
import MessagingConsole.Text.Utf8

/-!
# File trees

A working directory and what lies below it, and reading a file by its path.  Paths are
octet strings; their components are cut at slashes.  Above the working directory there
is nothing but directories without entries.

## Main Definitions

- `FileTree` - the entries below the working directory.
- `FileTree.ofNames` - the tree of entries that are made by their paths.
- `FileTree.walk` - where a path leads, through links and `..`.
- `FileTree.read` - the content of the file that a path leads to.
-/

namespace MessagingConsole

/-- Why a file cannot be read. -/
inductive FileFault where
  | notFound
  | permissionDenied
  /-- Any other reason, as the operating system words it. -/
  | other (reason : String)
  deriving DecidableEq, Repr

namespace FileFault

/-- A directory has no content. -/
def isADirectory : FileFault := .other (Text.systemError "Is a directory" 21)

/-- A path goes on below something that is no directory. -/
def notADirectory : FileFault := .other (Text.systemError "Not a directory" 20)

/-- A path or one of its components is too long. -/
def nameTooLong : FileFault := .other (Text.systemError "File name too long" 36)

/-- A path leads through too many links. -/
def tooManyLinks : FileFault :=
  .other (Text.systemError "Too many levels of symbolic links" 40)

/-- A path has a zero octet. -/
def nulInName : FileFault := .other "file name contained an unexpected NUL byte"

end FileFault

/-- What an entry of a directory is. -/
inductive Node where
  | file (content : Bytes)
  /-- A file that the reader has no permission to read. -/
  | unreadable (content : Bytes)
  | directory
  /-- A link to another path. -/
  | link (target : Bytes)
  deriving DecidableEq, Repr

namespace Path

/-- The octet between components. -/
def slash : UInt8 := 47

/-- The component that stays where it is. -/
def here : Bytes := [46]

/-- The component that goes to the directory above. -/
def above : Bytes := [46, 46]

/-- The longest path is one octet shorter than this. -/
def maxLength : Nat := 4096

/-- The longest component. -/
def maxComponent : Nat := 255

/-- How many links a path may lead through. -/
def maxLinks : Nat := 40

/-- What lies between the slashes of a path, empty parts included. -/
def parts (path : Bytes) : List Bytes := Text.pieces slash path

/-- The components of a path.  A slash at the end asks for a directory, as a last
component `.` does. -/
def components (path : Bytes) : List Bytes :=
  let named := (parts path).filter (· ≠ [])
  if path.getLast? = some slash then named ++ [here] else named

end Path

/-- The entries below the working directory, each with the components of its path. -/
structure FileTree where
  entries : List (List Bytes × Node)
  deriving DecidableEq, Repr

namespace FileTree

/-- A directory: one of the tree, by its components from the last to the first, or one
above the working directory. -/
inductive Place where
  | inside (reversed : List Bytes)
  | outside
  deriving DecidableEq, Repr

/-- The directory above. -/
def Place.above : Place → Place
  | .inside (_ :: parent) => .inside parent
  | .inside [] | .outside => .outside

/-- A directory in this one. -/
def Place.child (name : Bytes) : Place → Place
  | .inside reversed => .inside (name :: reversed)
  | .outside => .outside

/-- Where a path starts that is met in this directory. -/
def Place.start (path : Bytes) (place : Place) : Place :=
  if path.head? = some Path.slash then .outside else place

/-- The node at a path from the working directory.  What lies above an entry is a
directory. -/
def node? (tree : FileTree) (path : List Bytes) : Option Node :=
  match tree.entries.find? (·.1 = path) with
  | some (_, node) => some node
  | none => if tree.entries.any (path.isPrefixOf ·.1) then some .directory else none

/-- The node of a name in a directory. -/
def entry? (tree : FileTree) (name : Bytes) : Place → Option Node
  | .inside reversed => tree.node? (name :: reversed).reverse
  | .outside => none

/-- How far components lead before they meet a link. -/
inductive Reached where
  | node (node : Node)
  /-- A link, with the directory and the components to go on from. -/
  | link (place : Place) (path : List Bytes)

/-- Where components lead from a directory, up to the first link.  What comes before
another component has to be a directory. -/
def follow (tree : FileTree) (place : Place) : List Bytes → Except FileFault Reached
  | [] => .ok (.node .directory)
  | name :: rest =>
    if name = Path.here then tree.follow place rest
    else if name = Path.above then tree.follow place.above rest
    else if Path.maxComponent < name.length then .error .nameTooLong
    else match tree.entry? name place with
      | none => .error .notFound
      | some .directory => tree.follow (place.child name) rest
      | some (.link target) =>
        .ok (.link (place.start target) (Path.components target ++ rest))
      | some node => if rest.isEmpty then .ok (.node node) else .error .notADirectory

/-- Where components lead from a directory, by way of at most `links` links. -/
def walk (tree : FileTree) (links : Nat) (place : Place) (path : List Bytes) :
    Except FileFault Node :=
  match tree.follow place path with
  | .error fault => .error fault
  | .ok (.node node) => .ok node
  | .ok (.link place path) =>
    match links with
    | 0 => .error .tooManyLinks
    | links + 1 => tree.walk links place path

/-- Puts a node at a path from the working directory, in place of what is there.  The
directories above it need no entries of their own. -/
def put (tree : FileTree) (path : List Bytes) (node : Node) : FileTree :=
  ⟨(path, node) :: tree.entries.filter fun (above, _) => ! above.isPrefixOf path⟩

/-- Puts a node in a directory.  Nothing is put above the working directory. -/
def putIn (tree : FileTree) (name : Bytes) (node : Node) : Place → FileTree
  | .inside reversed => tree.put (name :: reversed).reverse node
  | .outside => tree

/-- Puts a node where components lead from a directory, up to the first link: the tree,
and with a link the directory and the components to go on from.  Missing directories are
made on the way.  Nothing goes below a file, and a directory stays the one that it is. -/
def build (tree : FileTree) (node : Node) (place : Place) :
    List Bytes → FileTree × Option (Place × List Bytes)
  | [] => (tree, none)
  | name :: rest =>
    if name = Path.here then tree.build node place rest
    else if name = Path.above then tree.build node place.above rest
    else match tree.entry? name place, rest with
      | some .directory, _ => tree.build node (place.child name) rest
      | some (.link target), _ =>
        (tree, some (place.start target, Path.components target ++ rest))
      | _, [] => (tree.putIn name node place, none)
      | none, _ => (tree.putIn name .directory place).build node (place.child name) rest
      | some _, _ => (tree, none)

/-- Puts a node where components lead from a directory, by way of at most `links`
links. -/
def make (tree : FileTree) (node : Node) (links : Nat) (place : Place) (path : List Bytes) :
    FileTree :=
  match tree.build node place path, links with
  | (tree, none), _ | (tree, some _), 0 => tree
  | (tree, some (place, path)), links + 1 => tree.make node links place path

/-- The tree of named entries, made one after the other. -/
def ofNames (named : List (Bytes × Node)) : FileTree :=
  named.foldl
    (fun tree (name, node) =>
      tree.make node Path.maxLinks ((Place.inside []).start name) (Path.components name))
    ⟨[]⟩

/-- The content of the file that a path leads to. -/
def read (tree : FileTree) (path : Bytes) : Except FileFault Bytes :=
  if path.contains 0 then .error .nulInName
  else if path.isEmpty then .error .notFound
  else if Path.maxLength ≤ path.length then .error .nameTooLong
  else do
    match ← tree.walk Path.maxLinks ((Place.inside []).start path) (Path.components path) with
    | .file content => .ok content
    | .unreadable _ => .error .permissionDenied
    | .directory => .error .isADirectory
    | .link _ => .error .tooManyLinks

end FileTree

end MessagingConsole
