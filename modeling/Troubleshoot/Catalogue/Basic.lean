namespace Troubleshoot

-- When a link from a symptom applies. No system types means any.
structure Guard where
  systemTypes : List String
  mustBeYes : List String
  mustBeNo : List String
deriving DecidableEq, Repr

-- A solution that may help against a symptom.
structure Candidate where
  solutionId : String
  guard : Guard
deriving DecidableEq, Repr

-- A symptom that may be the cause of another.
structure Cause where
  symptomId : String
  guard : Guard
deriving DecidableEq, Repr

structure Symptom where
  id : String
  name : String
  description : Option String
  candidates : List Candidate
  causes : List Cause
deriving DecidableEq, Repr

structure Solution where
  id : String
  name : String
  symptomId : Option String
  description : Option String
  instructions : Option String
  askDidItWork : Bool
  askAreYouAble : Bool
deriving DecidableEq, Repr

-- The kind of answer that a question asks for.
inductive Question.Kind where
  | yesNo | chooseOne | number
deriving DecidableEq, Repr

structure Question where
  id : String
  name : String
  symptomId : Option String
  kind : Question.Kind
  text : Option String
deriving DecidableEq, Repr

-- What the user is shown.
def Question.prompt (q : Question) : String :=
  q.text.getD q.name

-- All guards of a symptom, those of its candidates first.
def Symptom.guards (s : Symptom) : List Guard :=
  s.candidates.map (·.guard) ++ s.causes.map (·.guard)

-- The questions that a guard needs an answer to, in the order in which it names them.
def Guard.questions (g : Guard) : List String :=
  g.mustBeYes ++ g.mustBeNo

end Troubleshoot
