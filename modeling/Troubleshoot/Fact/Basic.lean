import Troubleshoot.Json.Basic

namespace Troubleshoot

inductive FactError where
  | undefined (fact : String)
  | rejected (fact message : String)
  | missingCallback (fact : String)
deriving DecidableEq, Repr

def FactError.message : FactError → String
  | undefined fact => s!"Undefined fact: {fact}"
  | rejected fact message => s!"Fact '{fact}' could not be resolved: {message}"
  | missingCallback fact => s!"No callback registered to resolve fact '{fact}'"

-- What asking for a fact comes to.
abbrev Outcome := Except FactError Json

-- What a provider answers, and in how many turns of the one who asks that will be there.
structure Reply where
  outcome : Outcome
  delay : Nat

inductive Source (σ : Type) where
  | constant (value : Json)
  | provider (call : σ → Reply × σ)

-- Of a cached fact the provider is called once in a run, and its outcome, good or bad, is kept.
structure Fact (σ : Type) where
  id : String
  source : Source σ
  cached : Bool
  priority : Int64

namespace Fact

variable {σ : Type}

def constant (id : String) (value : Json) (priority : Int64) : Fact σ :=
  ⟨id, .constant value, true, priority⟩

-- The priority of a fact that is not known.
def defaultPriority : Int64 := 1

end Fact

-- Facts by their id.
abbrev Facts (σ : Type) := Table (Fact σ)

namespace Facts

variable {σ : Type}

-- Adds a fact, in place of one with its id.
def add (facts : Facts σ) (fact : Fact σ) : Facts σ :=
  facts.insert fact.id fact

def addAll (facts : Facts σ) (more : List (Fact σ)) : Facts σ :=
  more.foldl add facts

def priorityOf (facts : Facts σ) (id : String) : Int64 :=
  match facts.find? id with
  | some fact => fact.priority
  | none => Fact.defaultPriority

-- Facts that are related by something that keeps priorities rank alike.
theorem priorityOf_eq_of_rel {τ : Type} {facts : Facts σ} {facts' : Facts τ} {R : Fact σ → Fact τ → Prop}
    (hR : ∀ f g, R f g → f.priority = g.priority) (h : ∀ id, Option.Rel R (facts.find? id) (facts'.find? id)) :
    facts.priorityOf = facts'.priorityOf := by
  funext id
  simp only [priorityOf]
  cases hs : facts.find? id <;> cases ht : facts'.find? id <;> cases hs ▸ ht ▸ h id
  case none.none => rfl
  case some.some hr => exact hR _ _ hr

end Facts
end Troubleshoot
