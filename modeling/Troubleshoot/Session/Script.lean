import Troubleshoot.Session.Respondent

namespace Troubleshoot

-- The answers for each id: one for each time that it is asked for, and the last one once all are used up.
structure Script where
  default : Except String Answer
  answers : Table (List (Except String Answer))

namespace Script

-- The answer when `calls` were made for the id before.
def answer (s : Script) (id : String) (calls : Nat) : Except String Answer :=
  match s.answers.find? id with
  | some answers => (answers[min calls (answers.length - 1)]?).getD s.default
  | none => s.default

-- How often each question and each confirmation was asked for.
structure Calls where
  questions : Table Nat
  confirmations : Table Nat

def Calls.none : Calls := ⟨∅, ∅⟩

def question (s : Script) (q : Question) (calls : Calls) : Reaction × Calls :=
  let n := (calls.questions.find? q.id).getD 0
  (⟨s.answer q.id n, 0⟩, { calls with questions := calls.questions.insert q.id (n + 1) })

def confirmation (s : Script) (k : Solution) (c : Confirmation) (calls : Calls) :
    Reaction × Calls :=
  let id := c.factId k.id
  let n := (calls.confirmations.find? id).getD 0
  (⟨s.answer id n, 0⟩, { calls with confirmations := calls.confirmations.insert id (n + 1) })

def respondent (questions confirmations : Option Script) : Respondent Calls :=
  ⟨questions.map question, confirmations.map confirmation⟩

end Script
end Troubleshoot
