import Troubleshoot.Catalogue.KnowledgeBase
import Troubleshoot.Fact.Basic
import Troubleshoot.Rule.Basic
import Troubleshoot.Session.Firing
import Troubleshoot.Session.Respondent
import Troubleshoot.Settings

namespace Troubleshoot

-- What happens in a session, for whoever watches it.
inductive Notice where
  | question (q : Question)
  | asked (q : Question) (answer : Except String Answer)
  | confirmation (s : Solution) (c : Confirmation)
  | confirmed (s : Solution) (c : Confirmation) (answer : Except String Answer)
  | verdict (v : Verdict)
  | memoryChanged (m : Memory)
  | firing (f : Firing)

-- What the facts and the listener of a session work in: the respondent's state, the working memory,
-- and what happened so far.
structure World (υ : Type) where
  user : υ
  memory : Memory
  firings : List Firing
  trace : List Notice

namespace World

variable {υ : Type}

def start (user : υ) (symptoms : List String) : World υ :=
  ⟨user, symptoms, [], []⟩

def note (w : World υ) (n : Notice) : World υ :=
  { w with trace := w.trace ++ [n] }

end World

variable {υ : Type}

-- The reply of a fact whose respondent reacted so.
def Reaction.reply (r : Reaction) (fact : String) : Reply where
  outcome := match r.answer with
    | .ok answer => .ok answer.toJson
    | .error message => .error (.rejected fact message)
  delay := r.delay

-- Asks the question that a fact is about.
def Question.provider (kb : KnowledgeBase) (r : Respondent υ) (id : String) (w : World υ) :
    Reply × World υ :=
  match r.question, kb.question? id with
  | none, _ => (⟨.error (.missingCallback id), 0⟩, w)
  | some _, none => (⟨.error (.rejected id "no such diagnostic question"), 0⟩, w)
  | some ask, some q =>
    let (reaction, user) := ask q w.user
    let w := (w.note (.question q)).note (.asked q reaction.answer)
    (reaction.reply id, { w with user })

-- Asks to confirm a solution.
def Confirmation.provider (r : Respondent υ) (s : Solution) (c : Confirmation) (w : World υ) :
    Reply × World υ :=
  match r.confirmation with
  | none => (⟨.error (.missingCallback (c.factId s.id)), 0⟩, w)
  | some confirm =>
    let (reaction, user) := confirm s c w.user
    let w := (w.note (.confirmation s c)).note (.confirmed s c reaction.answer)
    (reaction.reply (c.factId s.id), { w with user })

-- What a fact is bound to.
inductive Binding.Kind where
  | preset (value : Json)
  | question
  | confirmation (s : Solution) (c : Confirmation)

structure Binding where
  kind : Binding.Kind
  priority : Int64

def Binding.fact (kb : KnowledgeBase) (r : Respondent υ) (id : String) (b : Binding) :
    Fact (World υ) :=
  match b.kind with
  | .preset value => .constant id value b.priority
  | .question => ⟨id, .provider (Question.provider kb r id), true, b.priority⟩
  | .confirmation s c => ⟨id, .provider (c.provider r s), false, b.priority⟩

-- What ends the program: a number that 64 bits do not hold.
inductive Overflow where
  | priority
deriving DecidableEq, Repr

structure Bindings (υ : Type) where
  knowledge : KnowledgeBase
  respondent : Respondent υ
  table : Table Binding
  -- The priority of the next question or confirmation.
  next : Int64
  sessionPriority : Int64

namespace Bindings

def empty (kb : KnowledgeBase) (respondent : Respondent υ) (settings : Settings) : Bindings υ :=
  ⟨kb, respondent, ∅, settings.factPriorityStart, settings.sessionFactPriority⟩

def fact? (b : Bindings υ) (id : String) : Option (Fact (World υ)) :=
  (b.table.find? id).map (·.fact b.knowledge b.respondent id)

def facts (b : Bindings υ) : Facts (World υ) :=
  b.table.map fun id binding => binding.fact b.knowledge b.respondent id

theorem find?_facts {b : Bindings υ} {id : String} : b.facts.find? id = b.fact? id :=
  Table.find?_map

-- The facts that are bound, in no order that matters.
def definitions (b : Bindings υ) : List (Fact (World υ)) :=
  b.facts.entries.map Prod.snd

-- Binds a value, whatever was bound before.
def preset (b : Bindings υ) (id : String) (value : Json) : Bindings υ :=
  { b with table := b.table.insert id ⟨.preset value, b.sessionPriority⟩ }

-- Binds an id under the priority that is next, if there is one after it.
def rank (b : Bindings υ) (id : String) (kind : Binding.Kind) : Except Overflow (Bindings υ) :=
  if b.next = Int64.minValue then .error .priority
  else .ok { b with table := b.table.insert id ⟨kind, b.next⟩, next := b.next - 1 }

-- Binds a question, and says whether it did: not if its id is bound already.
def question (b : Bindings υ) (id : String) : Except Overflow (Bindings υ × Bool) := do
  if b.table.contains id then
    return (b, false)
  return (← b.rank id .question, true)

-- Binds a confirmation, whatever was bound before.
def confirmation (b : Bindings υ) (s : Solution) (c : Confirmation) : Except Overflow (Bindings υ) :=
  b.rank (c.factId s.id) (.confirmation s c)

def questions (b : Bindings υ) (ids : List String) : Except Overflow (Bindings υ) :=
  ids.foldlM (fun b id => return (← b.question id).1) b

def symptomsFact : String := "symptoms"

def systemTypesFact : String := "systemTypes"

-- The facts of one session: the working memory as it is whenever it is asked for, and the types of
-- the system.
def sessionFacts (b : Bindings υ) (systemTypes : List String) : List (Fact (World υ)) :=
  [⟨symptomsFact, .provider fun w => (⟨.ok w.memory.toJson, 0⟩, w), false, b.sessionPriority⟩,
    .constant systemTypesFact (.ofStrings systemTypes) b.sessionPriority]

end Bindings
end Troubleshoot
