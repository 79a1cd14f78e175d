import HookFlow.Text.Blank
/-!
Expressions in step inputs.

A workflow may put expressions of the form `${{ … }}` into inputs. One of them, the placeholder, stands
for the access token and is substituted; it is recognised whatever blanks are in it. All others would
need an evaluator and make a workflow unfit for conversion.
-/

namespace HookFlow.Placeholder

/-- what opens an expression -/
def marker : String := "$\x7b\x7b"

/-- whether a value is the placeholder, blanks aside -/
def isToken (value placeholder : String) : Bool :=
  Text.collapse value == Text.collapse placeholder

/-- whether a value holds an expression that is not the placeholder -/
def isUnsupported (value placeholder : String) : Bool :=
  Text.contains value marker && !isToken value placeholder

end HookFlow.Placeholder
