import Brainfuck.FailureKind

/-!
# File trees

A tree of files and directories, seen from a working directory.  Places are
named by paths: names between slashes, where a dot stands for the directory
itself and two dots for the one above.  Every name on the way has to be that of
a directory.

Of the directories outside the working directory only those above it exist, and
they are empty.
-/

namespace Brainfuck

inductive FileNode where
  | directory
  | file (content : ByteArray)

/-- A file tree: the places below the working directory, by their names.  Names
above it begin with two dots, and absolute ones with a slash. -/
structure FileTree where
  nodes : List (List String × FileNode) := []

namespace FileTree

def node? (tree : FileTree) (place : List String) : Option FileNode :=
  if place.all (· = "..") || place = ["/"] then some .directory else tree.nodes.lookup place

def set (tree : FileTree) (place : List String) (node : FileNode) : FileTree :=
  ⟨tree.nodes.filter (fun entry => entry.1 ≠ place) ++ [(place, node)]⟩

def above (place : List String) : List String :=
  match place.getLast? with
  | none => [".."]
  | some ".." => place ++ [".."]
  | some "/" => place
  | some _ => place.dropLast

/-- The names of a path and the place where it begins. -/
def splitPath (path : String) : List String × List String :=
  let names := path.splitOn "/"
  if names.head? = some "" && 1 < names.length then (["/"], names.tail) else ([], names)

/-- The place one name further.  The place before it has to be a directory. -/
def enter (tree : FileTree) (place : List String) (name : String) :
    Except FailureKind (List String) :=
  match tree.node? place with
  | none => .error .notFound
  | some .directory =>
      if 255 < name.utf8ByteSize then .error .invalidFilename
      else if name = "" || name = "." then .ok place
      else if name = ".." then .ok (above place)
      else .ok (place ++ [name])
  | some _ => .error .notADirectory

/-- The place that names lead to, which need not exist. -/
def follow (tree : FileTree) (start names : List String) : Except FailureKind (List String) :=
  names.foldlM tree.enter start

/-- A path is not empty, holds no NUL and has at most 4095 bytes. -/
def checkPath (path : String) : Except FailureKind Unit :=
  if path.toList.contains '\x00' then .error .invalidInput
  else if path = "" then .error .notFound
  else if 4095 < path.utf8ByteSize then .error .invalidFilename
  else .ok ()

def read (tree : FileTree) (path : String) : Except FailureKind ByteArray := do
  checkPath path
  let (start, names) := splitPath path
  match tree.node? (← tree.follow start names) with
  | none => throw .notFound
  | some .directory => throw .isADirectory
  | some (.file content) => return content

/-- The directory that names lead to but for the last one, and the last one.
Slashes behind it do not count; there is none if there is nothing else. -/
def followToLast (tree : FileTree) (start names : List String) :
    Except FailureKind (List String × Option String) :=
  match names.reverse.dropWhile (· = "") with
  | [] => .ok (start, none)
  | last :: above => do
      let directory ← tree.follow start above.reverse
      return (← tree.enter directory ".", some last)

/-- The place of a path at which a file can be put.  Dots, and slashes at the
end, are those of a directory. -/
def resolveNew (tree : FileTree) (path : String) : Except FailureKind (List String) := do
  checkPath path
  let (start, names) := splitPath path
  match ← tree.followToLast start names with
  | (_, none) => throw .isADirectory
  | (directory, some last) =>
      if last = "." || last = ".." || path.endsWith "/" then throw .isADirectory
      let place ← tree.enter directory last
      match tree.node? place with
      | some .directory => throw .isADirectory
      | _ => return place

def write (tree : FileTree) (path : String) (content : ByteArray) :
    Except FailureKind FileTree := do
  return tree.set (← tree.resolveNew path) (.file content)

def append (tree : FileTree) (path : String) (content : ByteArray) :
    Except FailureKind FileTree := do
  tree.write path ((← tree.read path) ++ content)

/-- Make a single directory, where nothing may exist yet. -/
def makeDirectory (tree : FileTree) (start names : List String) :
    Except FailureKind FileTree := do
  match ← tree.followToLast start names with
  | (_, none) => throw .alreadyExists
  | (directory, some last) =>
      if last = "." || last = ".." then throw .alreadyExists
      let place ← tree.enter directory last
      match tree.node? place with
      | none => return tree.set place .directory
      | some _ => throw .alreadyExists

/-- Make a single directory unless it exists. -/
def ensureDirectory (tree : FileTree) (start names : List String) :
    Except FailureKind FileTree :=
  match tree.makeDirectory start names with
  | .ok changed => .ok changed
  | .error kind =>
      match (tree.follow start names).map tree.node? with
      | .ok (some .directory) => .ok tree
      | _ => .error kind

/-- Make a directory unless it exists.  If a directory on the way to it is
missing, `makeWay` is called first. -/
def ensureBehind (makeWay : FileTree → Except FailureKind FileTree) (tree : FileTree)
    (start names : List String) : Except FailureKind FileTree := do
  match tree.makeDirectory start names with
  | .error .notFound => (← makeWay tree).ensureDirectory start names
  | _ => tree.ensureDirectory start names

/-- Make a directory, whose names are given last first, and those on the way to
it. -/
def ensureAll (tree : FileTree) (start : List String) :
    (backwards : List String) → Except FailureKind FileTree
  | [] => .ok tree
  | last :: above =>
      tree.ensureBehind (fun tree => tree.ensureAll start above) start (last :: above).reverse

/-- Make a directory and those on the way to it.  A dot at the end of a path
does not make the directory in front of it. -/
def makeDirectories (tree : FileTree) (path : String) : Except FailureKind FileTree :=
  if path = "" then .ok tree
  else do
    checkPath path
    let (start, names) := splitPath path
    let proper := names.filter fun name => name ≠ "" && name ≠ "."
    tree.ensureBehind (fun tree => tree.ensureAll start proper.reverse.tail) start names

/-- Put a file or, if the path ends in a slash, a directory into the tree, with
the directories on the way. -/
def place (tree : FileTree) (path : String) (content : ByteArray) : FileTree :=
  let names := (path.splitOn "/").filter fun name => name ≠ "" && name ≠ "."
  let ways := (List.range names.length).map fun count => names.take (count + 1)
  let directories := if path.endsWith "/" then ways else ways.dropLast
  let tree := directories.foldl (fun tree way => tree.set way .directory) tree
  if path.endsWith "/" then tree else tree.set names (.file content)

/-- The files below the working directory that are new or differ from those in
`before`, with their text. -/
def changes (before after : FileTree) : List (String × String) :=
  after.nodes.filterMap fun (place, node) =>
    if place.head? = some ".." || place.head? = some "/" then none
    else
      let path := String.intercalate "/" place
      match node, before.nodes.lookup place with
      | .directory, _ => none
      | .file content, some (.file old) =>
          if content.data = old.data then none else some (path, textOf content)
      | .file content, _ => some (path, textOf content)
where
  textOf (content : ByteArray) : String :=
    (String.fromUTF8? content).getD ""

end FileTree

end Brainfuck
