import HookFlow.Files.Path
import HookFlow.Files.Tree
/-!
A file system as a value: one tree and a current directory.

Paths are followed component by component, and `..` leads to the directory above. There are no links,
so the place that a path leads to has one list of names from the root.
-/

namespace HookFlow

open Text (Bytes)

/-- a tree of files and the names that lead from its root to the current directory -/
structure FileSystem where
  root : FileTree := .directory []
  current : List String := []

namespace FileTree

/-- the tree at the end of some names -/
def follow (t : FileTree) : List String → Except OsFault FileTree
  | [] => .ok t
  | name :: rest => do (← t.child name).follow rest

/-- the entries with `t` under `name`, in its place or at the end -/
def setEntry (name : String) (t : FileTree) : List (String × FileTree) → List (String × FileTree)
  | [] => [(name, t)]
  | e :: rest => if e.1 = name then (name, t) :: rest else e :: setEntry name t rest

/-- the tree with `new` at the end of some names; all but the last name must lead to directories -/
def put (new : FileTree) (t : FileTree) : List String → Except OsFault FileTree
  | [] => .ok new
  | name :: rest =>
    match t with
    | .file _ => .error .notDirectory
    | .directory entries =>
      match rest, entries.lookup name with
      | [], _ => .ok (.directory (setEntry name new entries))
      | _ :: _, some below => do
        return .directory (setEntry name (← put new below rest) entries)
      | _ :: _, none => .error .notFound

end FileTree

namespace FileSystem

/-- the names from the root to the place of a path, one component after another; every component but
the last must lead to a directory, and `here` is where the next one starts -/
def namesFrom (fs : FileSystem) (here : List String) : List String → Except OsFault (List String)
  | [] => .ok here
  | c :: rest => do
    let t ← fs.root.follow here
    if !t.isDirectory then throw .notDirectory
    namesFrom fs (if c = ".." then here.dropLast else here ++ [c]) rest

/-- the names from the root to the place of a path -/
def names (fs : FileSystem) (p : String) : Except OsFault (List String) :=
  if p.isEmpty then .error .notFound
  else fs.namesFrom (if Path.isAbsolute p then [] else fs.current) (Path.components p)

/-- whether a path asks for a directory by a slash at its end -/
def wantsDirectory (p : String) : Bool := p.toList.getLast? == some '/'

/-- what a path leads to -/
def look (fs : FileSystem) (p : String) : Except OsFault FileTree := do
  let t ← fs.root.follow (← fs.names p)
  if wantsDirectory p && !t.isDirectory then throw .notDirectory
  return t

/-- whether a path leads anywhere -/
def has (fs : FileSystem) (p : String) : Bool := (fs.look p).toBool

/-- the bytes of a file -/
def read (fs : FileSystem) (p : String) : Except OsFault Bytes := do
  (← fs.look p).bytes

/-- the file system with a file at a path, in place of a file that is there -/
def write (fs : FileSystem) (p : String) (bytes : Bytes) : Except OsFault FileSystem := do
  let names ← fs.names p
  match fs.root.follow names with
  | .ok (.directory _) => throw .isDirectory
  | _ => pure ()
  if wantsDirectory p then throw .isDirectory
  return { fs with root := ← FileTree.put (.file bytes) fs.root names }

/-- the bytes of a file with more behind them; a file that is not there starts empty -/
def append (fs : FileSystem) (p : String) (bytes : Bytes) : Except OsFault FileSystem :=
  match fs.read p with
  | .ok old => fs.write p (old ++ bytes)
  | .error .notFound => fs.write p bytes
  | .error fault => .error fault

/-- the file system with a directory at the place of each component, where none is yet -/
def createFrom (fs : FileSystem) (here : List String) :
    List String → Except OsFault FileSystem
  | [] => .ok fs
  | c :: rest =>
    let here := if c = ".." then here.dropLast else here ++ [c]
    match fs.root.follow here with
    | .ok t =>
      if t.isDirectory then fs.createFrom here rest
      else .error (if rest.isEmpty then .exists else .notDirectory)
    | .error .notFound => do
      let root ← FileTree.put (.directory []) fs.root here
      createFrom { fs with root } here rest
    | .error fault => .error fault

/-- the file system with a directory at a path, and with all directories above it -/
def createDirectories (fs : FileSystem) (p : String) : Except OsFault FileSystem :=
  fs.createFrom (if Path.isAbsolute p then [] else fs.current) (Path.components p)

end FileSystem

end HookFlow
