import HookFlow.Files.System
/-!
Disks: file systems that are acted on.
-/

namespace HookFlow

open Text (Bytes)

/-- what can be done with files; paths are followed from the current directory -/
structure Disk (m : Type → Type) where
  /-- what a path leads to -/
  look (path : String) : m (Except OsFault FileTree)
  /-- the bytes of a file -/
  read (path : String) : m (Except OsFault Bytes)
  /-- puts a file at a path, in place of one that is there -/
  write (path : String) (bytes : Bytes) : m (Except OsFault Unit)
  /-- puts bytes at the end of a file, and makes the file if need be -/
  append (path : String) (bytes : Bytes) : m (Except OsFault Unit)
  /-- makes a directory and all directories above it, as far as they are not there -/
  createDirectories (path : String) : m (Except OsFault Unit)

/-- a disk that is kept as a part of a state -/
def FileSystem.disk {σ : Type} (get : σ → FileSystem) (set : FileSystem → σ → σ) :
    Disk (StateM σ) where
  look path := fun s => ((get s).look path, s)
  read path := fun s => ((get s).read path, s)
  write path bytes := update fun fs => fs.write path bytes
  append path bytes := update fun fs => fs.append path bytes
  createDirectories path := update fun fs => fs.createDirectories path
where
  /-- a change of the file system; a fault leaves it as it is -/
  update (change : FileSystem → Except OsFault FileSystem) : StateM σ (Except OsFault Unit) :=
    fun s =>
      match change (get s) with
      | .ok fs => (.ok (), set fs s)
      | .error fault => (.error fault, s)

end HookFlow
