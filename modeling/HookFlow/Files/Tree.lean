import HookFlow.Text.Utf8
/-!
File trees: the files and directories below a place.

A directory lists its entries in no particular order. `FileTree.files` gives all files of a tree in
ascending order of their paths, component by component, whatever the order of the listings.
-/

namespace HookFlow

open Text (Bytes)

/-- a file or a directory -/
inductive FileTree where
  | file (bytes : Bytes)
  | directory (entries : List (String × FileTree))
  deriving Repr

namespace FileTree

/-- whether a tree is a directory -/
def isDirectory : FileTree → Bool
  | .file _ => false
  | .directory _ => true

mutual

/-- the files of a tree that lies at `path`, in the order of the listings -/
def gather (path : List String) : FileTree → List (List String × Bytes)
  | .file bytes => [(path, bytes)]
  | .directory entries => gatherEntries path entries

/-- the files of the entries of a directory at `path` -/
def gatherEntries (path : List String) : List (String × FileTree) → List (List String × Bytes)
  | [] => []
  | (name, tree) :: rest => gather (path ++ [name]) tree ++ gatherEntries path rest

end

/-- the order of paths: component by component, and a path before its extensions -/
def pathLE : List String → List String → Bool
  | [], _ => true
  | _ :: _, [] => false
  | x :: xs, y :: ys => x < y || (x == y && pathLE xs ys)

/-- the files of a tree that lies at `path`, in ascending order of paths -/
def files (path : List String) (t : FileTree) : List (List String × Bytes) :=
  (gather path t).mergeSort fun a b => pathLE a.1 b.1

end FileTree

/-- why an operation on files is refused -/
inductive OsFault where
  | notFound
  | exists
  | notDirectory
  | isDirectory
  | notText
  | other (text : String)
  deriving DecidableEq, Repr

/-- the wording of a fault -/
def OsFault.message : OsFault → String
  | .notFound => "No such file or directory (os error 2)"
  | .exists => "File exists (os error 17)"
  | .notDirectory => "Not a directory (os error 20)"
  | .isDirectory => "Is a directory (os error 21)"
  | .notText => "stream did not contain valid UTF-8"
  | .other text => text

namespace FileTree

/-- the entry of a directory -/
def child (name : String) : FileTree → Except OsFault FileTree
  | .file _ => .error .notDirectory
  | .directory entries =>
    match entries.lookup name with
    | some t => .ok t
    | none => .error .notFound

/-- the bytes of a file -/
def bytes : FileTree → Except OsFault Bytes
  | .file bytes => .ok bytes
  | .directory _ => .error .isDirectory

end FileTree

end HookFlow
