import Troubleshoot.Record.Fields
import Troubleshoot.Rule.Basic
import Troubleshoot.Session.Memory

namespace Troubleshoot

-- A confirmed solution removes the symptom, one that is only proposed leaves the memory alone, and a
-- root cause adds the symptom that it names.
inductive Effect where
  | solved | deferred | addSymptom
deriving DecidableEq, Repr

namespace Effect

def name : Effect → String
  | solved => "solved"
  | deferred => "deferred"
  | addSymptom => "addSymptom"

def all : List (String × Effect) :=
  [("solved", solved), ("deferred", deferred), ("addSymptom", addSymptom)]

def ofName? (s : String) : Option Effect :=
  all.lookup s

theorem ofName?_name (e : Effect) : ofName? e.name = some e := by
  cases e <;> rfl

-- The error of a name that no effect has.
def unknown (s : String) : String :=
  s!"Unknown event type: {s}"

def format : Format Effect :=
  .choice all name

end Effect

structure Firing where
  effect : Effect
  rule : String
  symptomId : String
  solutionId : Option String
  causeId : Option String
  message : String
deriving DecidableEq, Repr

namespace Firing

def format : Format Firing :=
  .record "FiredEvent"
    (.cons (.required "kind" Effect.format) <|
      .cons (.required "rule" .string) <|
      .cons (.required "symptomId" .string) <|
      .cons (.nullable "solutionId" .string) <|
      .cons (.nullable "causeId" .string) <|
      .cons (.required "message" .string) .nil)
    (fun (effect, rule, symptomId, solutionId, causeId, message, ()) =>
      ⟨effect, rule, symptomId, solutionId, causeId, message⟩)
    fun f => (f.effect, f.rule, f.symptomId, f.solutionId, f.causeId, f.message, ())

def ofEvent? (event : Event) (rule : String) : Option Firing := do
  let effect ← Effect.ofName? event.type
  let symptomId ← event.param? "symptomId"
  return {
    effect, rule, symptomId
    solutionId := event.param? "solutionId"
    causeId := event.param? "causeId"
    message := (event.param? "message").getD "" }

-- The memory after a firing, and whether it changed.
def apply (f : Firing) (m : Memory) : Memory × Bool :=
  match f.effect, f.causeId with
  | .solved, _ => m.solve f.symptomId
  | .addSymptom, some cause => m.add cause
  | .addSymptom, none | .deferred, _ => (m, false)

end Firing
end Troubleshoot
