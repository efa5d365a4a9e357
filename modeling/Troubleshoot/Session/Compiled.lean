import Troubleshoot.Session.Bindings

namespace Troubleshoot

variable {υ : Type}

namespace Guard

-- The conditions of a link, confirmations aside.
def conditions (g : Guard) (symptomId : String) : List Condition :=
  ⟨Bindings.symptomsFact, "contains", .string symptomId⟩ ::
    (if g.systemTypes = [] then []
      else [⟨Bindings.systemTypesFact, "containsOneOf", .ofStrings g.systemTypes⟩]) ++
    g.mustBeYes.map (⟨·, "equal", .string "yes"⟩) ++
    g.mustBeNo.map (⟨·, "equal", .string "no"⟩)

end Guard

namespace Solution

-- The confirmations that a solution asks for, in their order.
def confirmations (s : Solution) : List Confirmation :=
  (if s.askAreYouAble then [.areYouAble] else []) ++ if s.askDidItWork then [.didItWork] else []

def effect (s : Solution) : Effect :=
  if s.askDidItWork then .solved else .deferred

def event (s : Solution) (symptomId : String) : Event where
  type := s.effect.name
  params := .ofList [
    ("symptomId", .string symptomId), ("solutionId", .string s.id), ("message", .string s.name)]

end Solution

-- The event of finding that `root` causes a symptom.
def Symptom.causeEvent (root : Symptom) (symptomId : String) : Event where
  type := Effect.addSymptom.name
  params := .ofList [
    ("symptomId", .string symptomId), ("causeId", .string root.id), ("message", .string root.name)]

namespace Rule

def nameOf (s : Symptom) (target : String) : String :=
  s.name ++ ": " ++ target

-- The rule of a candidate; its priority is given out at the end.
def ofCandidate (s : Symptom) (c : Candidate) (k : Solution) : Rule where
  name := nameOf s k.name
  priority := 1
  conditions := c.guard.conditions s.id ++
    k.confirmations.map fun confirmation => ⟨confirmation.factId k.id, "equal", .string "yes"⟩
  event := k.event s.id

-- The rule of a cause; its priority is given out at the end.
def ofCause (s : Symptom) (c : Cause) (root : Symptom) : Rule where
  name := nameOf s root.name
  priority := 1
  conditions := c.guard.conditions s.id
  event := root.causeEvent s.id

-- Gives out priorities, from the number of rules plus one down to two.
def prioritized (rules : List Rule) : List Rule :=
  go (rules.length + 1) rules
where
  go (priority : Nat) : List Rule → List Rule
    | [] => []
    | r :: rs => { r with priority := .ofNat priority } :: go (priority - 1) rs

end Rule

-- A link of a symptom whose target exists.
inductive Link where
  | candidate (s : Symptom) (c : Candidate) (k : Solution)
  | cause (s : Symptom) (c : Cause) (root : Symptom)

namespace Link

def guard : Link → Guard
  | candidate _ c _ => c.guard
  | cause _ c _ => c.guard

def rule : Link → Rule
  | candidate s c k => .ofCandidate s c k
  | cause s c root => .ofCause s c root

-- Binds the facts that the rule of a link needs.
def bind (b : Bindings υ) : Link → Except Overflow (Bindings υ)
  | candidate _ c k => do k.confirmations.foldlM (·.confirmation k) (← b.questions c.guard.questions)
  | cause _ c _ => b.questions c.guard.questions

end Link

namespace KnowledgeBase

def linksOf (kb : KnowledgeBase) (s : Symptom) : List Link :=
  (s.candidates.filterMap fun c => (kb.solution? c.solutionId).map (.candidate s c)) ++
    s.causes.filterMap fun c => (kb.symptom? c.symptomId).map (.cause s c)

def links (kb : KnowledgeBase) : List Link :=
  kb.symptoms.flatMap kb.linksOf

def rules (kb : KnowledgeBase) : List Rule :=
  Rule.prioritized (kb.links.map Link.rule)

end KnowledgeBase

-- Binds the facts that the rules of the knowledge base need.
def Bindings.compile (b : Bindings υ) : Except Overflow (Bindings υ) :=
  b.knowledge.links.foldlM Link.bind b

end Troubleshoot
