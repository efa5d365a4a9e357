import Troubleshoot.Fact.Task

namespace Troubleshoot

-- Tasks that run at the same time, with the store that they ask, and by their positions: those in line,
-- those put off, the last of them first, and those who stand aside.
structure Crew (σ : Type) where
  tasks : List Task
  store : Store σ
  line : List Nat
  putOff : List Nat
  aside : List Nat

namespace Crew

variable {σ : Type}

-- A crew of more tasks stands in line.
def smallSize : Nat := 30

def ofTasks (tasks : List Task) (store : Store σ) : Crew σ :=
  ⟨tasks, store, List.range tasks.length, [], []⟩

def allFinished (c : Crew σ) : Bool :=
  c.tasks.all Task.isFinished

def isFinished (c : Crew σ) (i : Nat) : Bool :=
  c.tasks[i]?.all Task.isFinished

def isBlocked (c : Crew σ) (i : Nat) : Bool :=
  c.tasks[i]?.any (·.isBlocked c.store)

-- A task's turn.
def turn (c : Crew σ) (i : Nat) : Crew σ :=
  match c.tasks[i]? with
  | none => c
  | some t =>
    let (t, store) := t.run c.store
    { c with tasks := c.tasks.set i t, store }

-- A turn for each task, in order.
def round (c : Crew σ) : Crew σ :=
  (List.range c.tasks.length).foldl turn c

-- A turn for a task that has left the line.
def serve (c : Crew σ) (i : Nat) : Crew σ :=
  let c := c.turn i
  let (aside, freed) := (if c.isBlocked i then c.aside ++ [i] else c.aside).partition c.isBlocked
  let putOff := if c.isFinished i || c.isBlocked i then c.putOff else i :: c.putOff
  { c with line := c.line ++ freed, putOff, aside }

-- Serves the line until a task is finished, with a number of turns at the most; whether one was.
def serveUntilFinished : Nat → Crew σ → Bool × Crew σ
  | 0, c => (false, c)
  | turns + 1, c =>
    match c.line with
    | [] => (false, c)
    | i :: line =>
      let c := { c with line }.serve i
      if c.isFinished i then (true, c) else serveUntilFinished turns c

-- Serves the line until the pass ends, if a number of tasks is in line or stands aside.
def serveLine : (waiting : Nat) → Crew σ → Crew σ
  | 0, c => c
  | n + 1, c =>
    match c.serveUntilFinished (n + 1) with
    | (true, c) => c.serveLine n
    | (false, c) => c

def rejoin (c : Crew σ) : Crew σ :=
  { c with line := c.line ++ c.putOff, putOff := [] }

-- A small crew is passed through in order: each task has one turn. A large one stands in line. A task
-- that waits for a call of its own is put off until the pass ends, and one that is blocked by the call of
-- another stands aside until that call is over. The pass ends when nobody is left in line, or when as many
-- turns in a row as there are tasks still in the crew have not finished one.
def pass (c : Crew σ) : Crew σ :=
  if c.tasks.length ≤ smallSize then c.round
  else (c.serveLine (c.line.length + c.aside.length)).rejoin

def unasked (c : Crew σ) : Nat :=
  c.tasks.foldr (fun t n => t.unasked + n) 0

def remainingDelay (c : Crew σ) : Nat :=
  c.tasks.foldr (fun t n => t.remainingDelay + n) 0

-- Passes until a new query is made, `fuel` at the most.
def passesUntilAsked : (fuel : Nat) → Crew σ → Crew σ
  | 0, c => c
  | fuel + 1, c =>
    let d := c.pass
    if d.unasked < c.unasked then d else passesUntilAsked fuel d

-- Passes until all tasks are finished. While no new query is made the delays run down, and there are
-- only so many queries to make.
def passes : (fuel : Nat) → Crew σ → Crew σ
  | 0, c => c
  | fuel + 1, c =>
    if c.allFinished then c else passes fuel (c.passesUntilAsked (c.remainingDelay + 1))

-- Runs the tasks to their end.
def run (c : Crew σ) : Crew σ :=
  c.passes (c.unasked + 1)

end Crew

namespace Task

variable {σ : Type}

-- Runs tasks at the same time; the outcomes that each got.
def runAll (ts : List Task) (s : Store σ) : List (List Outcome) × Store σ :=
  let c := (Crew.ofTasks ts s).run
  (c.tasks.map (·.outcomes), c.store)

end Task

namespace Store

variable {σ : Type}

-- Asks for several facts at the same time.
def get (s : Store σ) (ids : List String) : List Outcome × Store σ :=
  let (outcomes, s) := Task.runAll (ids.map fun id => .ofQueries [⟨id, fun _ => true⟩]) s
  (outcomes.flatten, s)

end Store
end Troubleshoot
