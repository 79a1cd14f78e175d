import HookFlow.Hash.Crc32
import HookFlow.Package.Archive
/-!
Archives as zip files.

Every entry is stored as it is, behind a header of its own; a directory at the end lists the entries
again with the places of their headers, and a last record says where the directory is. Numbers are
written with the lowest byte first. Entries bear the first date that the format can write.
-/

namespace HookFlow.Archive

open Text (Bytes encode decode)

/-- a number in some bytes, lowest first -/
def little : Nat → Nat → Bytes
  | 0, _ => []
  | width + 1, n => UInt8.ofNat n :: little width (n / 256)

/-- numbers one after another, each with the count of its bytes -/
def fields (fs : List (Nat × Nat)) : Bytes := fs.flatMap fun f => little f.1 f.2

/-- What the header of an entry and its line of the directory have in common: the version of the format,
a flag for names in UTF-8, the method, time and date, the check, both sizes, and the length of the name. -/
def description (name : String) (bytes : Bytes) : List (Nat × Nat) :=
  [(2, 20), (2, 0x800), (2, 0), (2, 0), (2, 0x21), (4, (Hash.crc32 bytes).toNat),
    (4, bytes.length), (4, bytes.length), (2, name.utf8ByteSize)]

/-- an entry with its header -/
def storedEntry (name : String) (bytes : Bytes) : Bytes :=
  fields ((4, 0x04034b50) :: description name bytes ++ [(2, 0)]) ++ encode name ++ bytes

/-- the line of an entry in the directory; `place` is where its header starts -/
def directoryLine (place : Nat) (name : String) (bytes : Bytes) : Bytes :=
  fields ([(4, 0x02014b50), (2, 0x314)] ++ description name bytes ++
    [(2, 0), (2, 0), (2, 0), (2, 0), (4, 0x81A40000), (4, place)]) ++ encode name

/-- how many bytes an entry takes with its header -/
def storedSize (name : String) (bytes : Bytes) : Nat := 30 + name.utf8ByteSize + bytes.length

/-- the lines of some entries whose headers start at `place` -/
def directory (place : Nat) : List (String × Bytes) → Bytes
  | [] => []
  | e :: rest => directoryLine place e.1 e.2 ++ directory (place + storedSize e.1 e.2) rest

/-- the record at the end -/
def ending (count size place : Nat) : Bytes :=
  fields [(4, 0x06054b50), (2, 0), (2, 0), (2, count), (2, count), (4, size), (4, place), (2, 0)]

/-- an archive as a zip file -/
def toZip (a : Archive) : Bytes :=
  let stored := a.entries.flatMap fun e => storedEntry e.1 e.2
  let lines := directory 0 a.entries
  stored ++ lines ++ ending a.entries.length lines.length stored.length

/-- how many bytes an archive takes as a zip file -/
def zipSize (a : Archive) : Nat :=
  a.entries.foldr (fun e size => storedSize e.1 e.2 + 46 + e.1.utf8ByteSize + size) 22

/-- the number that some bytes write, lowest first -/
def ofLittle : Bytes → Nat
  | [] => 0
  | b :: rest => b.toNat + 256 * ofLittle rest

/-- the number in `width` bytes from a place on -/
def numberAt (bytes : Bytes) (place width : Nat) : Nat := ofLittle ((bytes.drop place).take width)

/-- The entry that a zip file starts with, and what is behind it; none at the directory. Only stored
entries are read. -/
def firstStored? (bytes : Bytes) : Option ((String × Bytes) × Bytes) :=
  let nameLength := numberAt bytes 26 2
  let size := numberAt bytes 18 4
  let rest := bytes.drop (30 + numberAt bytes 28 2)
  if bytes.length < 30 || numberAt bytes 0 4 ≠ 0x04034b50 || numberAt bytes 8 2 ≠ 0 then none
  else
    match decode (rest.take nameLength) with
    | .ok name => some ((name, (rest.drop nameLength).take size), rest.drop (nameLength + size))
    | .error _ => none

/-- What is behind an entry is shorter than the whole. -/
theorem length_of_firstStored? {bytes rest : Bytes} {e : String × Bytes}
    (h : firstStored? bytes = some (e, rest)) : rest.length < bytes.length := by
  unfold firstStored? at h
  simp only [] at h
  split at h
  · cases h
  · rename_i hlong
    split at h
    · cases h
      simp only [Bool.or_eq_true, decide_eq_true_eq, not_or, Nat.not_lt] at hlong
      simp only [List.length_drop]
      omega
    · cases h

/-- the stored entries that a zip file starts with -/
def storedEntries (bytes : Bytes) : List (String × Bytes) :=
  match h : firstStored? bytes with
  | some (e, rest) =>
    have := length_of_firstStored? h
    e :: storedEntries rest
  | none => []
termination_by bytes.length

/-- the archive that a zip file of stored entries holds -/
def ofZip (bytes : Bytes) : Archive := ⟨storedEntries bytes⟩

end HookFlow.Archive
