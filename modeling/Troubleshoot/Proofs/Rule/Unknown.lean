import Troubleshoot.Proofs.Record.Shown
import Troubleshoot.Proofs.Rule.Shape

namespace Troubleshoot

variable {σ : Type}

namespace Json

theorem null_same_iff {j : Json} : same .null j ↔ j = .null := by
  cases j <;> simp [same]

theorem has_null_iff {items : List Json} : has items .null ↔ .null ∈ items := by
  simp [has, null_same_iff]

end Json

namespace Operator

-- The built-in operators that `null` can satisfy, with the values for which it does.
inductive AdmitsNull : String → Json → Prop
  | equal : AdmitsNull "equal" .null
  | notEqual {value : Json} : value ≠ .null → AdmitsNull "notEqual" value
  | isIn {items : List Json} : .null ∈ items → AdmitsNull "in" (.array items)
  | notIn {items : List Json} : .null ∉ items → AdmitsNull "notIn" (.array items)

variable {value : Json}

theorem onList_iff {p : List Json → Bool} : onList value p ↔ ∃ items, value = .array items ∧ p items := by
  cases value <;> simp [onList, Json.array?]

theorem notEqual_null_iff : notEqual .null value ↔ value ≠ .null := by
  simp only [notEqual, Bool.not_eq_true', ← Bool.not_eq_true, Json.null_same_iff, ne_eq]

theorem isIn_null_iff : isIn .null value ↔ ∃ items, value = .array items ∧ .null ∈ items := by
  simp only [isIn, onList_iff, Json.has_null_iff]

theorem notIn_null_iff : notIn .null value ↔ ∃ items, value = .array items ∧ .null ∉ items := by
  simp only [notIn, onList_iff, Bool.not_eq_true', ← Bool.not_eq_true, Json.has_null_iff]

end Operator

-- The other built-in operators want a list or a number of the fact.
theorem Operators.builtIn_null_iff {name : String} {value : Json} :
    (∃ operator, builtIn.find? name = some operator ∧ operator .null value) ↔ Operator.AdmitsNull name value := by
  have hb {operator : Operator} : builtIn.find? name = some operator ↔ _ := Table.find?_ofList_iff (by decide)
  simp only [List.mem_cons, Prod.mk.injEq, List.not_mem_nil, or_false] at hb
  constructor
  case mp =>
    intro ⟨operator, hf, ho⟩
    rcases hb.mp hf with ⟨rfl, rfl⟩ | ⟨rfl, rfl⟩ | ⟨rfl, rfl⟩ | ⟨rfl, rfl⟩ | ⟨rfl, rfl⟩ | ⟨rfl, rfl⟩ |
      ⟨rfl, rfl⟩ | ⟨rfl, rfl⟩ | ⟨rfl, rfl⟩ | ⟨rfl, rfl⟩
    · exact Json.null_same_iff.mp ho ▸ .equal
    · exact .notEqual (Operator.notEqual_null_iff.mp ho)
    · obtain ⟨items, rfl, hi⟩ := Operator.isIn_null_iff.mp ho
      exact .isIn hi
    · obtain ⟨items, rfl, hi⟩ := Operator.notIn_null_iff.mp ho
      exact .notIn hi
    all_goals cases ho
  case mpr =>
    intro h
    cases h
    case equal => exact ⟨.equal, hb.mpr (by simp), Json.null_same_iff.mpr rfl⟩
    case notEqual hv => exact ⟨.notEqual, hb.mpr (by simp), Operator.notEqual_null_iff.mpr hv⟩
    case isIn hi => exact ⟨.isIn, hb.mpr (by simp), Operator.isIn_null_iff.mpr ⟨_, rfl, hi⟩⟩
    case notIn hi => exact ⟨.notIn, hb.mpr (by simp), Operator.notIn_null_iff.mpr ⟨_, rfl, hi⟩⟩

namespace Condition

-- The name of the operator stands for what it stands for in an empty rule set.
def Plain (operators : Operators) (c : Condition) : Prop :=
  operators.find? c.operator = Operators.builtIn.find? c.operator

theorem Plain.holds_null_iff {operators : Operators} {c : Condition} (h : c.Plain operators) :
    c.holds operators (.ok .null) ↔ Operator.AdmitsNull c.operator c.value := by
  rw [← Operators.builtIn_null_iff, ← h, holds]
  cases operators.find? c.operator <;> simp

end Condition

-- The verdict on a rule tells of all its conditions if it is good.
theorem Verdict.Settles.exists_check {priorityOf : String → Int64} {rule : Rule} {v : Verdict}
    (h : v.Settles priorityOf rule) (hr : v.result) {c : Condition} (hc : c ∈ rule.conditions) :
    ∃ d ∈ v.checks, d.condition = c := by
  have hp := Ranking.sort_perm (fun c : Condition => priorityOf c.fact) rule.conditions
  have hl : (v.checks.map Check.condition).length = (rule.ordered priorityOf).length := by
    rw [List.length_map, (h.result.mp hr).1, ← hp.length_eq, Rule.ordered]
  have hc : c ∈ v.checks.map Check.condition := h.checks.eq_of_length hl ▸ hp.mem_iff.mpr hc
  exact List.mem_map.mp hc

-- What becomes of the conditions on unknown facts, in the verdict on their rule.
structure Verdict.TakesUnknown (operators : Operators) (facts : Facts σ) (lenient : Bool) (rule : Rule)
    (v : Verdict) : Prop where
  -- A strict run fails the rule.
  strict : ¬lenient → ∀ c ∈ rule.conditions, facts.find? c.fact = none → ¬v.result
  refused : ¬lenient → ∀ d ∈ v.checks, facts.find? d.fact = none →
    d.factValue = none ∧ ¬d.result ∧ v.error = some (FactError.undefined d.fact).message
  -- A lenient one asks the operator about `null`.
  taken : lenient → ∀ d ∈ v.checks, facts.find? d.fact = none →
    d.factValue = some .null ∧ d.result = d.condition.holds operators (.ok .null)
  admitted : ∀ c ∈ rule.conditions, facts.find? c.fact = none → c.Plain operators → v.result →
    lenient ∧ Operator.AdmitsNull c.operator c.value
  -- So the rule is good if its operators admit that and its conditions on known facts hold.
  result_iff : v.result ↔
    (∀ c ∈ rule.conditions, facts.find? c.fact = none → lenient ∧ c.holds operators (.ok .null)) ∧
    ∀ d ∈ v.checks, facts.contains d.fact → d.result

namespace Trial

variable {operators : Operators} {facts : Facts σ} {lenient : Bool} {t : Trial} {d : Check}

-- Whatever the world is like, each check of an unknown fact tells of the same.
theorem Complete.told_of_unknown (h : t.Complete operators facts.priorityOf)
    (ho : ∀ r ∈ t.readings facts.priorityOf, ∃ world, r.2 = facts.outcome lenient world r.1)
    (hd : d ∈ (t.verdict operators facts.priorityOf).checks) (hf : facts.find? d.fact = none) :
    let outcome := if lenient then .ok .null else .error (.undefined d.fact)
    d = d.condition.check operators outcome ∧ (t.verdict operators facts.priorityOf).Says d outcome := by
  obtain ⟨world, ht⟩ := h.told ho d hd
  rwa [Facts.outcome_of_unknown hf] at ht

theorem Complete.refused (h : t.Complete operators facts.priorityOf)
    (ho : ∀ r ∈ t.readings facts.priorityOf, ∃ world, r.2 = facts.outcome lenient world r.1) (hl : ¬lenient)
    (hd : d ∈ (t.verdict operators facts.priorityOf).checks) (hf : facts.find? d.fact = none) :
    d.factValue = none ∧ ¬d.result ∧
      (t.verdict operators facts.priorityOf).error = some (FactError.undefined d.fact).message := by
  obtain ⟨he, hs⟩ := h.told_of_unknown ho hd hf
  rw [if_neg hl] at he hs
  have hr : d.result = false := congrArg Check.result he
  exact ⟨hs.1, Bool.not_eq_true _ ▸ hr, hs.2 _ rfl⟩

theorem Complete.taken (h : t.Complete operators facts.priorityOf)
    (ho : ∀ r ∈ t.readings facts.priorityOf, ∃ world, r.2 = facts.outcome lenient world r.1) (hl : lenient)
    (hd : d ∈ (t.verdict operators facts.priorityOf).checks) (hf : facts.find? d.fact = none) :
    d.factValue = some .null ∧ d.result = d.condition.holds operators (.ok .null) := by
  obtain ⟨he, hs⟩ := h.told_of_unknown ho hd hf
  rw [if_pos hl] at he hs
  exact ⟨hs.1, congrArg Check.result he⟩

-- A good verdict has looked at every condition, and so found each that is on an unknown fact to hold.
theorem Complete.holds_null (h : t.Complete operators facts.priorityOf)
    (ho : ∀ r ∈ t.readings facts.priorityOf, ∃ world, r.2 = facts.outcome lenient world r.1)
    (hr : (t.verdict operators facts.priorityOf).result) {c : Condition} (hc : c ∈ t.rule.conditions)
    (hf : facts.find? c.fact = none) : lenient ∧ c.holds operators (.ok .null) := by
  obtain ⟨d, hd, rfl⟩ := t.settles.exists_check hr hc
  have hh : d.result := (t.settles.result.mp hr).2 d hd
  by_cases hl : lenient
  case pos => exact ⟨hl, (h.taken ho hl hd hf).2 ▸ hh⟩
  case neg => exact absurd hh (h.refused ho hl hd hf).2.1

theorem Complete.takesUnknown (h : t.Complete operators facts.priorityOf)
    (ho : ∀ r ∈ t.readings facts.priorityOf, ∃ world, r.2 = facts.outcome lenient world r.1) :
    (t.verdict operators facts.priorityOf).TakesUnknown operators facts lenient t.rule where
  strict hl c hc hf hr := hl (h.holds_null ho hr hc hf).1
  refused hl d hd hf := h.refused ho hl hd hf
  taken hl d hd hf := h.taken ho hl hd hf
  admitted c hc hf hp hr :=
    ⟨(h.holds_null ho hr hc hf).1, hp.holds_null_iff.mp (h.holds_null ho hr hc hf).2⟩
  result_iff := by
    refine ⟨fun hr => ⟨fun c hc hf => h.holds_null ho hr hc hf, fun d hd _ => (t.settles.result.mp hr).2 d hd⟩,
      fun hall => ?_⟩
    -- The last check of a bad verdict failed, but if its fact is not known it holds as all of them do.
    by_contra hr
    obtain ⟨l, hl, hn⟩ := h.failed hr
    let d := l.1.check operators l.2
    have hd : d ∈ (t.verdict operators facts.priorityOf).checks :=
      List.mem_map_of_mem (List.mem_of_getLast? hl)
    cases hf : facts.find? d.fact
    case some => exact hn (hall.2 d hd (by simp [Table.contains, hf]))
    case none =>
      have hc : d.condition ∈ t.rule.conditions :=
        (Ranking.mem_sort _).mp (t.settles.checks.subset (List.mem_map_of_mem hd))
      have hh := hall.1 _ hc hf
      exact hn ((h.taken ho hh.1 hd hf).2.trans hh.2)

end Trial

-- Every verdict of a run makes that of the conditions of its rule.
theorem RuleSet.run_takesUnknown (s : RuleSet σ) (given : List (Fact σ)) (notify : Listener σ) (world : σ) :
    List.Forall₂ (Verdict.TakesUnknown s.operators (s.facts.addAll given) s.lenient) s.ordered
      (s.run given notify world).1.verdicts :=
  s.run_forall₂ given notify world fun _ _ hc ho => hc.takesUnknown ho

-- A lenient run takes a fact that nobody knows to be different from anything else.
example :
    let rule : Rule := ⟨"r", 1, [⟨"missing", "notEqual", .string "yes"⟩], ⟨"e", ∅⟩⟩
    let s : RuleSet Unit := ⟨[rule], ∅, .builtIn, true⟩
    (s.run [] .noop ()).1.verdicts.map (·.result) = [true] :=
  rfl

end Troubleshoot
