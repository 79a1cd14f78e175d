/-!
Names of deployments.

A flow is deployed under a name that is also the name of its storage account, so it consists of small
ASCII letters and digits and is at most 24 characters long. Flows with different names can get the same
deployment name.
-/

namespace HookFlow.Deployment

/-- what every deployment name starts with -/
def nameLead : String := "dsp"

/-- how long the name of a storage account may be -/
def maxNameLength : Nat := 24

/-- an ASCII letter or digit -/
def isNameChar (c : Char) : Bool := c.isAlphanum

/-- the letters and digits of a flow's name, in small letters -/
def cleaned (flow : String) : List Char :=
  (flow.toList.filter isNameChar).map Char.toLower

/-- the deployment name of a flow -/
def name (flow : String) : String :=
  String.ofList ((nameLead.toList ++ cleaned flow).take maxNameLength)

end HookFlow.Deployment
