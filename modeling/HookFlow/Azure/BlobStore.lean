import HookFlow.Azure.Client
import HookFlow.Azure.Sas
/-!
Storing blobs.

A blob is put with a link that grants writing, and what is handed out is a link that grants reading
alone. Both expire together, a fixed number of hours after the upload. A lifetime or an expiry that no
clock can express stops the program; that is no failure of a deployment.
-/

namespace HookFlow.Azure

/-- how an upload ends badly -/
inductive UploadFault where
  | failure (f : Failure)
  /-- the expiry cannot be expressed -/
  | overflow
  deriving DecidableEq, Repr

/-- the seconds of a lifetime in hours; the number of hours is taken as a signed word, and the lifetime
must fit into a signed word of milliseconds -/
def lifetime? (hours : UInt64) : Option Int :=
  let signed := hours.toInt64.toInt
  if signed.natAbs ≤ 2562047788015 then some (signed * 3600) else none

/-- the instant that lies a lifetime ahead -/
def expiry? (now : Instant) (lifetime : Int) : Option Instant :=
  some (now.add lifetime) |>.filter Instant.isExpressible

/-- a store of blobs -/
structure BlobStore (m : Type → Type) where
  client : Client m
  /-- tells the time -/
  now : m Instant
  /-- the lifetime of links in seconds -/
  lifetime : Int
  /-- the address of the store, with `{account}` where the account goes -/
  endpoint : String := "https://\x7baccount\x7d.blob.core.windows.net"

namespace BlobStore

variable {m : Type → Type} [Monad m] (s : BlobStore m)

/-- the endpoint with an account in the places that are kept for it -/
def fillAccount (account : List Char) : List Char → List Char
  | '\x7b' :: 'a' :: 'c' :: 'c' :: 'o' :: 'u' :: 'n' :: 't' :: '\x7d' :: rest =>
    account ++ fillAccount account rest
  | c :: rest => c :: fillAccount account rest
  | [] => []

/-- the address of a blob -/
def blobUrl (c : Container) (blob : String) : String :=
  String.ofList (fillAccount c.account.toList s.endpoint.toList) ++ "/" ++ c.name ++ "/" ++ blob

/-- what an answer to a put says -/
def storedOf (r : Http.Response) : Except Failure Unit :=
  if Http.isSuccess r.status then .ok ()
  else .error (.deployment s!"uploading zip: status {Http.statusText r.status}")

/-- puts bytes at an address that carries a signed query -/
def put (url : String) (bytes : Text.Bytes) (contentType : String) : m (Except Failure Unit) := do
  let headers := [("x-ms-blob-type", "BlockBlob"), ("x-ms-version", Sas.version),
    ("content-type", contentType), ("accept", "*/*")]
  match ← s.client.transport.carry (Http.Request.build .put url [] headers bytes) with
  | .error f => return .error (.deployment s!"uploading zip: {f.message}")
  | .ok r => return storedOf r

/-- uploads a blob that expires at `expiry`, given the account's key; the answer is a link to read it -/
def uploadWith (c : Container) (blob : String) (bytes : Text.Bytes) (contentType key : String)
    (expiry : Instant) : m (Except Failure String) := do
  let url := s.blobUrl c blob
  match Sas.query c blob key "cw" expiry with
  | .error f => return .error f
  | .ok write =>
    s.client.note "uploading blob" [("blob_url", .bare url)]
    match ← s.put (url ++ "?" ++ write) bytes contentType with
    | .error f => return .error f
    | .ok () => return (Sas.query c blob key "r" expiry).map fun read => url ++ "?" ++ read

/-- uploads a blob; the answer is a link to read it -/
def upload (c : Container) (blob : String) (bytes : Text.Bytes) (contentType : String) :
    m (Except UploadFault String) := do
  match ← s.client.storageKey c.account with
  | .error f => return .error (.failure f)
  | .ok key =>
    match expiry? (← s.now) s.lifetime with
    | none => return .error .overflow
    | some expiry =>
      return (← s.uploadWith c blob bytes contentType key expiry).mapError .failure

end BlobStore

end HookFlow.Azure
