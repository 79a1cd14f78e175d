import HookFlow.Http.Wire
import HookFlow.Program
import Std.Async.DNS
import Std.Async.TCP
import Std.Time.DateTime.Timestamp
/-!
The command line: the program in the files, the clock and the network of a machine.

Requests are carried over plain connections. A host that asks for a secure one is not reached.
-/

namespace HookFlow.Machine

open Text (Bytes)

/-! ## Files -/

/-- the variables that the program looks at -/
def variableNames : List String := [
  "GITHUB_TOKEN", "FSB_GITHUB_API_URL", "FSB_WEBHOOK_SECRET", "FSB_IGNORED_ACTORS",
  "AZ_SUBSCRIPTION", "AZ_RESOURCE_GROUP", "AZURE_ACCESS_TOKEN", "FSB_RUNTIME_DIR",
  "FSB_LOG_LEVEL", "FSB_LOG_DIR", "RUST_LOG", "HOME"]

/-- the variables that are set -/
def environment : IO Config.Environment := do
  let values ← variableNames.mapM fun name => do return (name, ← IO.getEnv name)
  return values.filterMap fun e => e.2.map fun value => (e.1, value)

/-- what a failed action of the machine amounts to -/
def faultOf : IO.Error → OsFault
  | .noFileOrDirectory .. | .noSuchThing .. => .notFound
  | .alreadyExists .. => .exists
  | .inappropriateType _ 20 _ => .notDirectory
  | .inappropriateType _ 21 _ => .isDirectory
  | e => .other (toString e)

/-- what an action of the machine gives, or its fault -/
def attempt {α : Type} (action : IO α) : IO (Except OsFault α) := do
  try return .ok (← action)
  catch e => return .error (faultOf e)

/-- the tree at a path -/
partial def readTree (path : String) : IO FileTree := do
  let place := (← IO.currentDir) / path
  match (← place.metadata).type with
  | .dir =>
    let entries ← (← place.readDir).toList.mapM fun e => do
      return (e.fileName, ← readTree (Path.join path e.fileName))
    return .directory entries
  | _ => return .file (← IO.FS.readBinFile place).toList

/-- the bytes of a list, packed -/
def packed (bytes : Bytes) : ByteArray := ⟨bytes.toArray⟩

/-- the files of the machine -/
def disk : Disk IO where
  look path := attempt (readTree path)
  read path := attempt do return (← IO.FS.readBinFile path).toList
  write path bytes := attempt (IO.FS.writeBinFile path (packed bytes))
  append path bytes := attempt do
    let handle ← IO.FS.Handle.mk path .append
    handle.write (packed bytes)
    handle.flush
  createDirectories path := attempt do
    if !path.isEmpty then IO.FS.createDirAll path

/-! ## Clock -/

/-- the time in seconds and the rest of it in billionths -/
def clock : IO (Int × Nat) := do
  let t ← Std.Time.Timestamp.now
  return (t.val.second.val, t.val.nano.val.toNat)

/-- the time with its millionths -/
def stamp : IO String := do
  let (seconds, nanos) ← clock
  let whole := (Instant.render ⟨seconds⟩).toList.dropLast
  return String.ofList whole ++ "." ++ Instant.padded 6 (nanos / 1000) ++ "Z"

/-! ## Network -/

open Std.Async in
/-- everything that comes over a connection -/
partial def receiveAll (client : TCP.Socket.Client) (got : ByteArray) : Async ByteArray := do
  match ← client.recv? 65536 with
  | some more => receiveAll client (got ++ more)
  | none => return got

/-- the places where a host listens -/
def addresses (host : Url.Host) (port : UInt16) : IO (List Std.Net.SocketAddress) := do
  let found ← (Std.Async.DNS.getAddrInfo (Http.hostText host) (toString port)).block
  return found.toList.map fun a =>
    match a with
    | .v4 addr => .v4 ⟨addr, port⟩
    | .v6 addr => .v6 ⟨addr, port⟩

/-- the bytes that a place answers some bytes with -/
def exchange (place : Std.Net.SocketAddress) (sent : Bytes) : IO Bytes := do
  let client ← Std.Async.TCP.Socket.Client.mk
  let got ← Std.Async.Async.block do
    client.connect place
    client.send (packed sent)
    receiveAll client .empty
  return got.toList

/-- the answer to a request -/
def carry (r : Http.Request) : IO (Except Http.Fault Http.Response) := do
  match r.url.scheme, r.url.host with
  | "http", some host =>
    try
      let port := UInt16.ofNat (r.url.port.getD 80)
      match ← addresses host port with
      | [] => return .error (.unanswered "unknown host")
      | place :: _ =>
        match Http.Response.ofWire? (← exchange place r.wire) with
        | some answer => return .ok answer
        | none => return .error (.unanswered "connection closed before message completed")
    catch e => return .error (.unanswered (toString e))
  | _, _ => return .error (.unanswered "no secure connections")

/-! ## The program -/

/-- the program on this machine -/
def program : IO (Program IO) := do
  return {
    environment := ← environment
    workspace := (← IO.currentDir).toString
    disk
    transport := ⟨carry⟩
    cancelled := return false
    print := fun s => do
      let out ← IO.getStdout
      out.putStr s
      out.flush
    complain := fun s => do (← IO.getStderr).putStr s
    sleep := fun ms => IO.sleep (UInt32.ofNat (min ms.toNat 0xFFFFFFFF))
    now := return ⟨(← clock).1⟩
    stamp }

end HookFlow.Machine

/-- runs the program -/
def main (words : List String) : IO UInt32 := do
  (← HookFlow.Machine.program).follow words
