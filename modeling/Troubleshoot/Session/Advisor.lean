import Troubleshoot.Failure
import Troubleshoot.Session.Compiled

namespace Troubleshoot

variable {υ : Type}

structure Prepared (υ : Type) where
  bindings : Bindings υ
  ruleSet : RuleSet (World υ)

structure Advisor (υ : Type) where
  settings : Settings
  prepared : Option (Prepared υ)

-- What a session comes to.
structure Diagnosis where
  firings : List Firing
  verdicts : List Verdict
  facts : Table Json
  activeSymptoms : Memory

namespace Diagnosis

def ofEffect (d : Diagnosis) (effect : Effect) : List Firing :=
  d.firings.filter (·.effect = effect)

end Diagnosis

namespace World

-- Takes in verdicts: what the event of a matching rule does to the memory.
def hear : Listener (World υ) where
  onSuccess event v w :=
    let w := w.note (.verdict v)
    match Firing.ofEvent? event v.name with
    | some f =>
      let (memory, changed) := f.apply w.memory
      let w := { w with memory, firings := w.firings ++ [f] }
      let w := if changed then w.note (.memoryChanged memory) else w
      w.note (.firing f)
    | none => w
  onFailure _ v w := w.note (.verdict v)

end World

namespace Prepared

def ofBindings (b : Bindings υ) (lenient : Bool) (rules : List Rule) :
    Except RuleError (Prepared υ) := do
  let start : RuleSet (World υ) := (RuleSet.empty lenient).addOperator "containsOneOf" .containsOneOf
  return ⟨b, ← rules.foldlM RuleSet.addRule (b.definitions.foldl RuleSet.addFact start)⟩

-- Answers a fact beforehand.
def preset (p : Prepared υ) (id : String) (value : Json) : Prepared υ :=
  let bindings := p.bindings.preset id value
  match bindings.fact? id with
  | some fact => ⟨bindings, p.ruleSet.addFact fact⟩
  | none => ⟨bindings, p.ruleSet⟩

-- Each rule that matches fires before the next one is looked at, so a symptom that a root cause brings in
-- is seen by the rules that are still to come, and by no other.
def run (p : Prepared υ) (symptoms systemTypes : List String) (user : υ) : Diagnosis × World υ :=
  let (report, w) :=
    p.ruleSet.run (p.bindings.sessionFacts systemTypes) World.hear (.start user symptoms)
  (⟨w.firings, report.verdicts, report.facts, w.memory⟩, w)

end Prepared

namespace Advisor

def new (settings : Settings) : Advisor υ :=
  ⟨settings, none⟩

-- A step of an advisor leaves one behind, whether it fails or not. Only an overflow leaves none.
abbrev Step (υ ε α : Type) := ExceptT ε (StateT (Advisor υ) (Except Overflow)) α

-- What comes of a step, and the advisor after it.
def take {ε α : Type} (a : Advisor υ) (step : Step υ ε α) : Except Overflow (Except ε α × Advisor υ) :=
  step.run.run a

-- Takes a knowledge base and whom to ask, once, if the settings are valid.
def prepare (kb : KnowledgeBase) (respondent : Respondent υ) : Step υ Failure Unit := do
  let a ← get
  if a.prepared.isSome then
    throw (.lifecycle .alreadyInitialized)
  if let .error message := a.settings.validate then
    throw (.configuration message)
  let bindings ← (Bindings.empty kb respondent a.settings).compile
  match Prepared.ofBindings bindings a.settings.allowUndefinedFacts kb.rules with
  | .ok prepared => set { a with prepared := some prepared }
  | .error e => throw (.rule e)

-- Answers a fact beforehand, for all sessions to come.
def setFact (id : String) (value : Json) : Step υ LifecycleError Unit := do
  let a ← get
  match a.prepared with
  | some p => set { a with prepared := some (p.preset id value) }
  | none => throw .notInitialized

-- Takes a knowledge base, and then some answers beforehand.
def brief (kb : KnowledgeBase) (respondent : Respondent υ) (presets : List (String × Json)) :
    Step υ Failure Unit := do
  prepare kb respondent
  presets.forM fun (id, value) => (setFact id value).adapt .lifecycle

def isPrepared (a : Advisor υ) : Bool :=
  a.prepared.isSome

def rules (a : Advisor υ) : List Rule :=
  match a.prepared with
  | some p => p.ruleSet.rules
  | none => []

def knowledge? (a : Advisor υ) : Option KnowledgeBase :=
  a.prepared.map (·.bindings.knowledge)

-- Runs a session from the symptoms and system types of the caller.
def run (a : Advisor υ) (symptoms systemTypes : List String) (user : υ) :
    Except LifecycleError (Diagnosis × World υ) :=
  match a.prepared with
  | some p => .ok (p.run symptoms systemTypes user)
  | none => .error .notInitialized

end Advisor
end Troubleshoot
