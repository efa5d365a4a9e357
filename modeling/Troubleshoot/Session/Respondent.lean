import Troubleshoot.Catalogue.Basic
import Troubleshoot.Session.Answer

namespace Troubleshoot

-- What a solution is confirmed for: that the user can try it, or that it helped.
inductive Confirmation where
  | areYouAble | didItWork
deriving DecidableEq, Repr

namespace Confirmation

-- The fact that holds the confirmation of a solution.
def factId (c : Confirmation) (solutionId : String) : String :=
  match c with
  | didItWork => solutionId
  | areYouAble => solutionId ++ ":able"

def name : Confirmation → String
  | areYouAble => "are_you_able"
  | didItWork => "did_it_work"

def format : Format Confirmation :=
  .choice [("are_you_able", areYouAble), ("did_it_work", didItWork)] name

end Confirmation

-- An answer or the reason of a refusal, and the turns until it is there.
structure Reaction where
  answer : Except String Answer
  delay : Nat

-- Either callback may be missing. What it says may depend on all that it was asked before, which is what
-- the state `υ` is for.
structure Respondent (υ : Type) where
  question : Option (Question → υ → Reaction × υ)
  confirmation : Option (Solution → Confirmation → υ → Reaction × υ)

end Troubleshoot
