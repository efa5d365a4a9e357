import Troubleshoot.Fact.Store

namespace Troubleshoot

-- A fact to ask for, and the outcomes with which the task goes on.
structure Query where
  fact : String
  passes : Outcome → Bool

-- A task asks for facts one after the other, as long as their outcomes pass. It does so in turns, which
-- last until it has to wait: a call with a delay of `n` is over in the `n`-th turn after it, and a task
-- that is blocked by the call of another asks again in its next turn. It has the queries still to be
-- answered, the outcomes so far in order, and its own call for the first query, if one is under way.
structure Task where
  queries : List Query
  outcomes : List Outcome
  waiting : Option Reply

namespace Task

variable {σ : Type}

def ofQueries (queries : List Query) : Task :=
  ⟨queries, [], none⟩

def isFinished (t : Task) : Bool :=
  t.queries.isEmpty

-- Whether the task can do nothing until another's call is over.
def isBlocked (t : Task) (s : Store σ) : Bool :=
  match t.queries, t.waiting with
  | q :: _, none => s.isUnderWay q.fact
  | _, _ => false

-- Queries that no call has been made for.
def unasked (t : Task) : Nat :=
  t.queries.length - if t.waiting.isSome then 1 else 0

def remainingDelay (t : Task) : Nat :=
  (t.waiting.map (·.delay)).getD 0

-- Asks for facts until one has to be waited for.
def advance (outcomes : List Outcome) : List Query → Store σ → Task × Store σ
  | [], s => (⟨[], outcomes, none⟩, s)
  | q :: qs, s =>
    match s.request q.fact with
    | (.ready outcome, s) =>
      if q.passes outcome then advance (outcomes ++ [outcome]) qs s
      else (⟨[], outcomes ++ [outcome], none⟩, s)
    | (.called reply, s) => (⟨q :: qs, outcomes, some reply⟩, s)
    | (.blocked, s) => (⟨q :: qs, outcomes, none⟩, s)

-- The task's turn.
def run (t : Task) (s : Store σ) : Task × Store σ :=
  match t with
  | ⟨q :: qs, outcomes, some reply⟩ =>
    if reply.delay ≤ 1 then
      let s := s.settle q.fact reply.outcome
      if q.passes reply.outcome then advance (outcomes ++ [reply.outcome]) qs s
      else (⟨[], outcomes ++ [reply.outcome], none⟩, s)
    else
      (⟨q :: qs, outcomes, some { reply with delay := reply.delay - 1 }⟩, s)
  | ⟨qs, outcomes, _⟩ => advance outcomes qs s

end Task
end Troubleshoot
