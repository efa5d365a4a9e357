import Troubleshoot.Fact.Crew
import Troubleshoot.Rule.Basic
import Troubleshoot.Rule.Ranking

namespace Troubleshoot

inductive RuleError where
  | unknownOperator (rule operator : String)
  | invalid (message : String)
deriving DecidableEq, Repr

def RuleError.message : RuleError → String
  | unknownOperator rule operator => s!"Unknown operator '{operator}' in rule '{rule}'"
  | invalid message => s!"Invalid rule: {message}"

structure RuleSet (σ : Type) where
  rules : List Rule
  facts : Facts σ
  operators : Operators
  lenient : Bool

namespace Condition

-- Whether an outcome for the fact satisfies the condition.
def holds (operators : Operators) (c : Condition) : Outcome → Bool
  | .ok value => match operators.find? c.operator with
    | some operator => operator value c.value
    | none => false
  | .error _ => false

end Condition

namespace Rule

-- The conditions in the order in which they are looked at.
def ordered (rule : Rule) (priorityOf : String → Int64) : List Condition :=
  Ranking.sort (fun c => priorityOf c.fact) rule.conditions

def task (operators : Operators) (conditions : List Condition) : Task :=
  .ofQueries (conditions.map fun c => ⟨c.fact, c.holds operators⟩)

-- What is known of a rule while its conditions are looked at.
structure Tally where
  checks : List Check
  matched : Bool
  error : Option String

-- Goes through conditions and their outcomes, up to the first outcome that is an error or does not
-- satisfy its condition.
def tally (operators : Operators) : List Condition → List Outcome → Tally → Tally
  | c :: conditions, outcome :: outcomes, t =>
    match outcome with
    | .error e =>
      { checks := t.checks ++ [⟨c.fact, c.operator, c.value, none, false⟩]
        matched := false
        error := some e.message }
    | .ok value =>
      let (passed, error) := match operators.find? c.operator with
        | some operator => (operator value c.value, t.error)
        | none => (false, some s!"Unknown operator '{c.operator}'")
      let t := { t with
        checks := t.checks ++ [⟨c.fact, c.operator, c.value, some value, passed⟩]
        error }
      if passed then tally operators conditions outcomes t else { t with matched := false }
  | _, _, t => t

-- The verdict once outcomes are known for the conditions that were looked at.
def verdict (rule : Rule) (operators : Operators) (conditions : List Condition)
    (outcomes : List Outcome) : Verdict :=
  let t := tally operators conditions outcomes ⟨[], true, none⟩
  ⟨rule.name, rule.priority, t.matched, t.checks, rule.event, t.error⟩

end Rule

-- Hears of the rules that matched and of those that did not, and may change the world.
structure Listener (σ : Type) where
  onSuccess : Event → Verdict → σ → σ := fun _ _ w => w
  onFailure : Event → Verdict → σ → σ := fun _ _ w => w

namespace RuleSet

variable {σ : Type}

def empty (lenient : Bool) : RuleSet σ :=
  ⟨[], ∅, .builtIn, lenient⟩

-- Adds a rule that has a name and only conditions whose operators are known.
def addRule (s : RuleSet σ) (rule : Rule) : Except RuleError (RuleSet σ) :=
  if rule.name = "" then
    .error (.invalid "rule name is required")
  else
    match rule.conditions.find? fun c => !s.operators.contains c.operator with
    | some c => .error (.unknownOperator rule.name c.operator)
    | none => .ok { s with rules := s.rules ++ [rule] }

def addFact (s : RuleSet σ) (fact : Fact σ) : RuleSet σ :=
  { s with facts := s.facts.add fact }

def addOperator (s : RuleSet σ) (name : String) (operator : Operator) : RuleSet σ :=
  { s with operators := s.operators.insert name operator }

-- Evaluates rules side by side.
def evaluate (s : RuleSet σ) (rules : List Rule) (store : Store σ) : List Verdict × Store σ :=
  let orders := rules.map (·.ordered store.facts.priorityOf)
  let (outcomes, store) := Task.runAll (orders.map (Rule.task s.operators)) store
  let verdicts := (rules.zip (orders.zip outcomes)).map fun (rule, conditions, outcomes) =>
    rule.verdict s.operators conditions outcomes
  (verdicts, store)

-- Lets a verdict be heard, and then enters it in the report.
def conclude (listener : Listener σ) : Report × Store σ → Verdict → Report × Store σ
  | (report, store), v =>
    let (report, world) :=
      if v.result then
        ({ report with events := report.events ++ [v.event] }, listener.onSuccess v.event v store.world)
      else
        ({ report with failureEvents := report.failureEvents ++ [v.event] },
          listener.onFailure v.event v store.world)
    ({ report with verdicts := report.verdicts ++ [v] }, { store with world })

-- No verdict of a group is heard before all its rules are evaluated.
def runGroup (s : RuleSet σ) (listener : Listener σ) :
    Report × Store σ → List Rule → Report × Store σ
  | (report, store), group =>
    let (verdicts, store) := s.evaluate group store
    verdicts.foldl (conclude listener) (report, store)

-- Rules in the order of their verdicts.
def ordered (s : RuleSet σ) : List Rule :=
  Ranking.sort (·.priority) s.rules

-- Runs every rule once. The facts given for the run shadow those of the rule set.
def run (s : RuleSet σ) (facts : List (Fact σ)) (listener : Listener σ) (world : σ) : Report × σ :=
  let start := Store.start (s.facts.addAll facts) s.lenient world
  let groups := Ranking.groups (·.priority) s.ordered
  let (report, store) := groups.foldl (s.runGroup listener) (.empty, start)
  ({ report with facts := store.observed }, store.world)

end RuleSet
end Troubleshoot
