import Troubleshoot.Proofs.Fact.Turns
import Troubleshoot.Rule.RuleSet

namespace Troubleshoot

namespace Condition

variable {operators : Operators} {c : Condition} {outcome : Outcome}

def query (operators : Operators) (c : Condition) : Query :=
  ⟨c.fact, c.holds operators⟩

def check (operators : Operators) (c : Condition) (outcome : Outcome) : Check where
  fact := c.fact
  operator := c.operator
  value := c.value
  factValue := outcome.toOption
  result := c.holds operators outcome

-- Why the condition could not be decided, if it could not.
def error? (operators : Operators) (c : Condition) : Outcome → Option String
  | .ok _ => if operators.contains c.operator then none else some s!"Unknown operator '{c.operator}'"
  | .error e => some e.message

theorem error?_of_holds (h : c.holds operators outcome) : c.error? operators outcome = none := by
  simp only [holds] at h
  split at h
  case _ =>
    split at h
    case _ hf => simp [error?, Table.contains, hf]
    case _ => cases h
  case _ => cases h

end Condition

-- Nothing is looked at after a condition that could not be decided, so there is one reason at most.
theorem Query.Answered.findSome?_error? {operators : Operators} {cs : List Condition} {outcomes : List Outcome}
    (h : Answered (cs.map (·.query operators)) outcomes []) {c : Condition} {outcome : Outcome} {reason : String}
    (hm : (c, outcome) ∈ cs.zip outcomes) (he : c.error? operators outcome = some reason) :
    ((cs.zip outcomes).findSome? fun l => l.1.error? operators l.2) = some reason := by
  induction cs generalizing outcomes
  case nil => cases hm
  case cons d cs ih =>
    match outcomes with
    | [] => cases hm
    | o :: outcomes =>
      simp only [List.map_cons, Answered, Condition.query] at h
      rw [List.zip_cons_cons, List.mem_cons] at hm
      rw [List.zip_cons_cons, List.findSome?_cons]
      split at h
      case isTrue hh =>
        rw [Condition.error?_of_holds hh]
        rcases hm with hd | hd
        · cases hd
          cases he.symm.trans (Condition.error?_of_holds hh)
        · exact ih h hd
      case isFalse =>
        obtain ⟨rfl, _⟩ := h
        rcases hm with hd | hd
        · cases hd
          rw [he]
        · simp at hd

namespace Rule

variable {operators : Operators} {cs : List Condition} {outcomes : List Outcome}

-- Each outcome adds a check, and only one that satisfies its condition lets the rest be looked at.
theorem tally_cons (operators : Operators) (c : Condition) (cs : List Condition) (outcome : Outcome)
    (outcomes : List Outcome) (t : Tally) :
    tally operators (c :: cs) (outcome :: outcomes) t =
      let t := ⟨t.checks ++ [c.check operators outcome], t.matched, (c.error? operators outcome).or t.error⟩
      if c.holds operators outcome then tally operators cs outcomes t else { t with matched := false } := by
  cases outcome
  case error e => simp [tally, Condition.check, Condition.holds, Condition.error?, Except.toOption]
  case ok value =>
    cases ho : operators.find? c.operator <;>
      simp [tally, Condition.check, Condition.holds, Condition.error?, Table.contains, ho, Except.toOption]

-- The verdict if the outcomes for conditions are taken all together.
def verdictOf (rule : Rule) (operators : Operators) (conditions : List Condition)
    (outcomes : List Outcome) : Verdict :=
  let looked := conditions.zip outcomes
  { name := rule.name
    priority := rule.priority
    result := looked.length = conditions.length ∧ looked.all fun (c, o) => c.holds operators o
    checks := looked.map fun (c, o) => c.check operators o
    event := rule.event
    error := looked.findSome? fun (c, o) => c.error? operators o }

-- As long as nothing has failed, what is still to be looked at decides.
theorem tally_eq (h : Query.Answered (cs.map (·.query operators)) outcomes []) (checks : List Check) :
    tally operators cs outcomes ⟨checks, true, none⟩ =
      ⟨checks ++ (cs.zip outcomes).map fun l => l.1.check operators l.2,
        (cs.zip outcomes).length = cs.length ∧ (cs.zip outcomes).all fun l => l.1.holds operators l.2,
        (cs.zip outcomes).findSome? fun l => l.1.error? operators l.2⟩ := by
  induction cs generalizing outcomes checks
  case nil =>
    cases outcomes
    case nil => simp [tally]
    case cons => cases h
  case cons c cs ih =>
    match outcomes with
    | [] => cases h
    | o :: outcomes =>
      simp only [List.map_cons, Query.Answered, Condition.query] at h
      rw [tally_cons]
      split at h
      case isTrue hh =>
        simp only [hh, if_true, Condition.error?_of_holds hh, Option.none_or, ih h, List.append_assoc,
          List.singleton_append, List.zip_cons_cons, List.map_cons, List.length_cons, Nat.add_right_cancel_iff,
          List.all_cons, Bool.true_and, List.findSome?_cons]
      case isFalse hh =>
        obtain ⟨rfl, _⟩ := h
        cases he : c.error? operators o <;> simp [hh, he]

theorem verdict_eq (rule : Rule) (h : Query.Answered (cs.map (·.query operators)) outcomes []) :
    rule.verdict operators cs outcomes = rule.verdictOf operators cs outcomes := by
  simp only [verdict, tally_eq h, List.nil_append]
  rfl

end Rule
end Troubleshoot
