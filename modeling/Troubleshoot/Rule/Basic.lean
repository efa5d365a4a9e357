import Troubleshoot.Rule.Operator

namespace Troubleshoot

structure Condition where
  fact : String
  operator : String
  value : Json

structure Event where
  type : String
  params : Table Json

def Event.param? (e : Event) (key : String) : Option String := do
  (← e.params.find? key).string?

structure Rule where
  name : String
  priority : Int64
  conditions : List Condition
  event : Event

-- A condition that was looked at. The value of its fact is absent if that could not be had.
structure Check where
  fact : String
  operator : String
  value : Json
  factValue : Option Json
  result : Bool

-- The conditions that were looked at, up to the first that did not hold.
structure Verdict where
  name : String
  priority : Int64
  result : Bool
  checks : List Check
  event : Event
  error : Option String

structure Report where
  events : List Event
  failureEvents : List Event
  verdicts : List Verdict
  facts : Table Json

def Report.empty : Report :=
  ⟨[], [], [], ∅⟩

end Troubleshoot
