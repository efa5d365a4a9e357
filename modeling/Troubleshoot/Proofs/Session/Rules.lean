import Troubleshoot.Session.Advisor

namespace Troubleshoot

namespace Rule.prioritized

theorem getElem?_go (rules : List Rule) (n i : Nat) :
    (go n rules)[i]? = rules[i]?.map fun r => { r with priority := .ofNat (n - i) } := by
  induction rules generalizing n i
  case nil => rfl
  case cons r rs ih =>
    cases i
    case zero => rfl
    case succ i => simp [go, ih, Nat.sub_sub, Nat.add_comm]

theorem length_go (rules : List Rule) (n : Nat) : (go n rules).length = rules.length := by
  induction rules generalizing n
  case nil => rfl
  case cons _ _ ih => exact congrArg (· + 1) (ih _)

theorem priority_of_mem_go {rules : List Rule} {n : Nat} {r : Rule} (h : r ∈ go n rules) :
    ∃ m ≤ n, r.priority = .ofNat m := by
  induction rules generalizing n
  case nil => cases h
  case cons r' rs ih =>
    rcases List.mem_cons.mp h with rfl | h
    case inl => exact ⟨n, Nat.le_refl n, rfl⟩
    case inr =>
      have ⟨m, hm, he⟩ := ih h
      exact ⟨m, by omega, he⟩

theorem go_falling {rules : List Rule} {n : Nat} (hl : rules.length ≤ n) (hn : (n : Int) ≤ Int64.maxValue.toInt) :
    (go n rules).Pairwise (·.priority > ·.priority) := by
  induction rules generalizing n
  case nil => exact .nil
  case cons r rs ih =>
    rw [List.length_cons] at hl
    refine List.pairwise_cons.mpr ⟨fun r' hr => ?_, ih (by omega) (by omega)⟩
    have ⟨m, hm, he⟩ := priority_of_mem_go hr
    have hx : Int64.maxValue.toInt = 9223372036854775807 := rfl
    rw [he]
    exact (Int64.ofNat_lt_iff_lt (by omega) (by omega)).mpr (by omega)

end Rule.prioritized

namespace Link

def symptom : Link → Symptom
  | candidate s _ _ => s
  | cause s _ _ => s

-- What is asked about the link's solution, if it has one.
def confirmations : Link → List (Solution × Confirmation)
  | candidate _ _ k => k.confirmations.map (k, ·)
  | cause _ _ _ => []

theorem name_rule_ne_empty (l : Link) : l.rule.name ≠ "" := by
  intro h
  have := congrArg String.length h
  cases l <;> simp [rule, Rule.ofCandidate, Rule.ofCause, Rule.nameOf] at this

theorem conditions_rule (l : Link) :
    l.rule.conditions = l.guard.conditions l.symptom.id ++
      l.confirmations.map fun (k, c) => ⟨c.factId k.id, "equal", .string "yes"⟩ := by
  cases l <;> simp [rule, Rule.ofCandidate, Rule.ofCause, guard, symptom, confirmations]

theorem mem_conditions_rule {l : Link} {d : Condition} :
    d ∈ l.rule.conditions ↔
      d = ⟨Bindings.symptomsFact, "contains", .string l.symptom.id⟩ ∨
      (l.guard.systemTypes ≠ [] ∧
        d = ⟨Bindings.systemTypesFact, "containsOneOf", .ofStrings l.guard.systemTypes⟩) ∨
      (∃ id ∈ l.guard.mustBeYes, d = ⟨id, "equal", .string "yes"⟩) ∨
      (∃ id ∈ l.guard.mustBeNo, d = ⟨id, "equal", .string "no"⟩) ∨
      ∃ e ∈ l.confirmations, d = ⟨e.2.factId e.1.id, "equal", .string "yes"⟩ := by
  simp only [conditions_rule, Guard.conditions, List.cons_append, List.append_assoc, List.mem_cons,
    List.mem_append, List.mem_map]
  by_cases hs : l.guard.systemTypes = [] <;> simp [hs, eq_comm]

end Link

namespace Json

theorem same_string_iff {a : String} {j : Json} : j.same (.string a) ↔ j = .string a := by
  cases j <;> simp [same]

theorem has_map_string_iff {a : String} {ss : List String} : has (ss.map .string) (.string a) ↔ a ∈ ss := by
  have hs : ∀ s, same (.string a) (.string s) ↔ s = a := fun s => by simp [same, eq_comm]
  simp [has, hs]

end Json

-- The operators of a session: the built-in ones and that for system types.
def Operators.session : Operators :=
  Operators.builtIn.insert "containsOneOf" .containsOneOf

namespace Operators

theorem session_equal : session.find? "equal" = some .equal := by
  simp [session, builtIn, Table.ofList, Table.find?_insert]

theorem session_contains : session.find? "contains" = some .contains := by
  simp [session, builtIn, Table.ofList, Table.find?_insert]

theorem session_containsOneOf : session.find? "containsOneOf" = some .containsOneOf := by
  simp [session, Table.find?_insert]

end Operators

namespace Condition

theorem holds_equal_iff {id answer : String} {outcome : Outcome} :
    (⟨id, "equal", .string answer⟩ : Condition).holds .session outcome ↔ outcome = .ok (.string answer) := by
  cases outcome
  case error e => simp [holds]
  case ok value => simp [holds, Operators.session_equal, Operator.equal, Json.same_string_iff]

theorem holds_contains_iff {id a : String} {ss : List String} :
    (⟨id, "contains", .string a⟩ : Condition).holds .session (.ok (.ofStrings ss)) ↔ a ∈ ss := by
  simp [holds, Operators.session_contains, Operator.contains, Operator.onList, Json.ofStrings,
    Json.array?, Json.has_map_string_iff]

theorem holds_containsOneOf_iff {id : String} {ss ts : List String} :
    (⟨id, "containsOneOf", .ofStrings ts⟩ : Condition).holds .session (.ok (.ofStrings ss)) ↔
      ∃ t ∈ ts, t ∈ ss := by
  simp [holds, Operators.session_containsOneOf, Operator.containsOneOf_eq, Operator.onList, Json.ofStrings,
    Json.array?, Json.has_map_string_iff]

end Condition

theorem Link.operators_known {l : Link} {c : Condition} (h : c ∈ l.rule.conditions) :
    Operators.session.contains c.operator := by
  have he := Operators.session_equal
  have hc := Operators.session_contains
  have ho := Operators.session_containsOneOf
  rcases mem_conditions_rule.mp h with rfl | ⟨_, rfl⟩ | ⟨_, _, rfl⟩ | ⟨_, _, rfl⟩ | ⟨_, _, rfl⟩
  all_goals simp_all [Table.contains]

theorem RuleSet.foldl_addFact {σ : Type} (fs : List (Fact σ)) (s : RuleSet σ) :
    fs.foldl RuleSet.addFact s = { s with facts := s.facts.addAll fs } := by
  induction fs generalizing s
  case nil => rfl
  case cons f fs ih => exact ih (s.addFact f)

theorem RuleSet.foldlM_addRule {σ : Type} {rules : List Rule} (s : RuleSet σ)
    (hn : ∀ r ∈ rules, r.name ≠ "") (hc : ∀ r ∈ rules, ∀ c ∈ r.conditions, s.operators.contains c.operator) :
    rules.foldlM addRule s = .ok { s with rules := s.rules ++ rules } := by
  induction rules generalizing s
  case nil => simp [pure, Except.pure]
  case cons r rs ih =>
    have hf : (r.conditions.find? fun c => !s.operators.contains c.operator) = none := by
      simpa using hc r (List.mem_cons_self ..)
    have ha : s.addRule r = .ok { s with rules := s.rules ++ [r] } := by
      simp [addRule, hn r (List.mem_cons_self ..), hf]
    rw [List.foldlM_cons, ha]
    have := ih { s with rules := s.rules ++ [r] } (fun r hr => hn r (List.mem_cons_of_mem _ hr))
      (fun r hr => hc r (List.mem_cons_of_mem _ hr))
    simpa [bind, Except.bind] using this

namespace KnowledgeBase

variable {kb : KnowledgeBase}

-- The rules can be numbered in 64 bits. No list that fits into memory is as long as the numbers go.
def Numbered (kb : KnowledgeBase) : Prop :=
  kb.links.length + 1 ≤ Int64.maxValue.toInt

instance (kb : KnowledgeBase) : Decidable kb.Numbered :=
  inferInstanceAs (Decidable (_ ≤ _))

theorem getElem?_rules (kb : KnowledgeBase) (i : Nat) :
    kb.rules[i]? = kb.links[i]?.map fun l =>
      { l.rule with priority := .ofNat (kb.links.length + 1 - i) } := by
  simp [rules, Rule.prioritized, Rule.prioritized.getElem?_go, Function.comp_def]

theorem exists_link_of_mem_rules {r : Rule} (h : r ∈ kb.rules) :
    ∃ l ∈ kb.links, ∃ priority, r = { l.rule with priority } := by
  have ⟨i, hi⟩ := List.mem_iff_getElem?.mp h
  have ⟨l, hl, he⟩ := Option.map_eq_some_iff.mp (kb.getElem?_rules i ▸ hi)
  exact ⟨l, List.mem_of_getElem? hl, _, he.symm⟩

theorem length_rules (kb : KnowledgeBase) : kb.rules.length = kb.links.length := by
  simp [rules, Rule.prioritized, Rule.prioritized.length_go]

theorem rules_falling (h : kb.Numbered) : kb.rules.Pairwise (·.priority > ·.priority) :=
  Rule.prioritized.go_falling (Nat.le_succ _) (by simpa [Numbered] using h)

end KnowledgeBase
end Troubleshoot
