import Troubleshoot.Fact.Basic

namespace Troubleshoot

-- The one call of a cached fact's provider.
inductive Cell where
  | underWay
  | settled (outcome : Outcome)

structure Store (σ : Type) where
  facts : Facts σ
  lenient : Bool
  cells : Table Cell
  observed : Table Json
  world : σ

-- What a store says when it is asked for a fact: its outcome, or that a call was made that takes
-- some turns, or that the fact's one call is still under way.
inductive Response where
  | ready (outcome : Outcome)
  | called (reply : Reply)
  | blocked

namespace Store

variable {σ : Type}

def start (facts : Facts σ) (lenient : Bool) (world : σ) : Store σ :=
  ⟨facts, lenient, ∅, ∅, world⟩

-- Notes the value that somebody got for a fact.
def observe (s : Store σ) (id : String) : Outcome → Store σ
  | .ok value => { s with observed := s.observed.insert id value }
  | .error _ => s

def isUnderWay (s : Store σ) (id : String) : Bool :=
  match s.cells.find? id with
  | some .underWay => true
  | _ => false

def setCell (s : Store σ) (id : String) (cell : Cell) : Store σ :=
  match s.facts.find? id with
  | some { cached := true, .. } => { s with cells := s.cells.insert id cell }
  | _ => s

-- The call for a fact is over.
def settle (s : Store σ) (id : String) (outcome : Outcome) : Store σ :=
  (s.setCell id (.settled outcome)).observe id outcome

def call (s : Store σ) (id : String) (provider : σ → Reply × σ) : Response × Store σ :=
  let (reply, world) := provider s.world
  let s := { s with world }
  if reply.delay = 0 then (.ready reply.outcome, s.settle id reply.outcome)
  else (.called reply, s.setCell id .underWay)

-- Asks for a fact. One that is not known reads as null if the store is lenient.
def request (s : Store σ) (id : String) : Response × Store σ :=
  match s.facts.find? id with
  | none => (.ready (if s.lenient then .ok .null else .error (.undefined id)), s)
  | some { source := .constant value, .. } => (.ready (.ok value), s.observe id (.ok value))
  | some { source := .provider provider, cached := true, .. } =>
    match s.cells.find? id with
    | some (.settled outcome) => (.ready outcome, s.observe id outcome)
    | some .underWay => (.blocked, s)
    | none => s.call id provider
  | some { source := .provider provider, cached := false, .. } => s.call id provider

end Store
end Troubleshoot
