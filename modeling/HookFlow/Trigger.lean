/-!
Triggers: which deliveries of a webhook start a workflow.

A trigger names an event and may list actions. Without a list it takes every action of its event, and
also a delivery that names none.
-/

namespace HookFlow

/-- an event with the actions that count; an empty list takes all of them -/
structure Trigger where
  event : String
  actions : List String := []
  deriving DecidableEq, Repr

/-- whether a trigger takes a delivery of an event with an action, if the delivery names one -/
def Trigger.accepts (t : Trigger) (event : String) (action : Option String) : Bool :=
  t.event == event &&
    (t.actions.isEmpty || match action with
      | some a => t.actions.contains a
      | none => false)

end HookFlow
