import HookFlow.Failure
import HookFlow.Hash.Hmac
import HookFlow.Instant
import HookFlow.Text.Base64
import HookFlow.Text.Percent
/-!
Signed links to blobs.

A link carries a query that grants permissions on one blob until it expires. The query is signed with
the key of the storage account: the signed text names the permissions, the expiry, the blob and the
protocol, one on each of fifteen lines, and lines that do not apply are empty.
-/

namespace HookFlow.Azure

/-- a container of a storage account -/
structure Container where
  account : String
  name : String
  deriving DecidableEq, Repr

namespace Sas

open HookFlow.Text

/-- the version of the signing scheme -/
def version : String := "2019-12-12"

/-- the protocol that links are good for -/
def protocol : String := "https"

/-- what is signed for: a single blob -/
def resourceKind : String := "b"

/-- the path by which a signature names a blob -/
def resource (c : Container) (blob : String) : String :=
  "/blob/" ++ c.account ++ "/" ++ c.name ++ "/" ++ blob

/-- the text that is signed -/
def signedText (c : Container) (blob permissions expiry : String) : String :=
  "\n".intercalate [permissions, "", expiry, resource c blob, "", "", protocol, version,
    resourceKind, "", "", "", "", "", ""]

/-- a value of a query with everything escaped but letters, digits and `-._~` -/
def escaped (s : String) : String :=
  String.ofList (percentEncode isUnreserved s.toList)

/-- the signature of a text under a key -/
def signature (key : Bytes) (text : String) : String :=
  String.ofList (encode64 (Hash.hmacSha256 key (encode text)))

/-- the query that grants `permissions` on a blob until `expiry` -/
def queryWith (key : Bytes) (c : Container) (blob permissions : String) (expiry : Instant) :
    String :=
  let time := expiry.render
  "&".intercalate ["sv=" ++ version, "spr=" ++ protocol, "se=" ++ escaped time,
    "sr=" ++ resourceKind, "sp=" ++ permissions,
    "sig=" ++ escaped (signature key (signedText c blob permissions time))]

/-- The query that grants `permissions` on a blob until `expiry`, signed with the account's key as it
is handed out, in base 64. -/
def query (c : Container) (blob accountKey permissions : String) (expiry : Instant) :
    Except Failure String :=
  match decode64? accountKey.toList with
  | some key => .ok (queryWith key c blob permissions expiry)
  | none => .error (.deployment "storage key is not base64: malformed text")

end Sas

end HookFlow.Azure
