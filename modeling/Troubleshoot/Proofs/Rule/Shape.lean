import Troubleshoot.Proofs.Fact.Foretold
import Troubleshoot.Proofs.Rule.Order

namespace Troubleshoot

variable {σ : Type}

-- The elements by falling rank, those that share one in the order in which they stood.
structure Ranking.Sorted {α : Type} (rank : α → Int64) (as bs : List α) : Prop where
  perm : bs.Perm as
  falling : bs.Pairwise (rank · ≥ rank ·)
  stable : ∀ r, bs.filter (rank · = r) = as.filter (rank · = r)

theorem Ranking.sorted_sort {α : Type} (rank : α → Int64) (as : List α) : Sorted rank as (sort rank as) :=
  ⟨sort_perm rank as, sort_sorted rank as, sort_filter rank as⟩

-- The verdict on a rule, of a run in which facts have these sources.
structure Verdict.Shaped (operators : Operators) (facts : Facts σ) (lenient : Bool) (rule : Rule) (v : Verdict) :
    Prop where
  settles : v.Settles facts.priorityOf rule
  sorted : Ranking.Sorted (fun c : Condition => facts.priorityOf c.fact) rule.conditions
    (rule.ordered facts.priorityOf)
  unregistered : ∀ id, facts.find? id = none → facts.priorityOf id = 1
  known : ∀ c ∈ rule.conditions, operators.contains c.operator
  told : ∀ d ∈ v.checks, ∃ world, d = d.condition.check operators (facts.outcome lenient world d.fact) ∧
    v.Says d (facts.outcome lenient world d.fact)
  held : ∀ d ∈ v.checks.dropLast, d.result ∧ d.factValue.isSome
  failed : ¬v.result → ∃ d, v.checks.getLast? = some d ∧ ¬d.result
  error : v.error.isSome ↔ ∃ d, v.checks.getLast? = some d ∧ d.factValue = none

namespace Condition

variable {operators : Operators} {c : Condition} {outcome : Outcome}

theorem isSome_of_holds (h : c.holds operators outcome) : outcome.toOption.isSome := by
  cases outcome
  case ok => rfl
  case error => cases h

-- Only an outcome that is an error leaves a condition with a known operator undecided.
theorem isSome_error?_iff (hc : operators.contains c.operator) :
    (c.error? operators outcome).isSome ↔ outcome.toOption = none := by
  cases outcome
  case ok value => simp [error?, hc, Except.toOption]
  case error e => simp [error?, Except.toOption]

end Condition

-- Either all conditions were looked at and hold, or all but the last that was looked at.
theorem Query.Answered.split {operators : Operators} {cs : List Condition} {outcomes : List Outcome}
    (h : Answered (cs.map (·.query operators)) outcomes []) :
    ((cs.zip outcomes).length = cs.length ∧ ∀ l ∈ cs.zip outcomes, l.1.holds operators l.2) ∨
    ∃ before last, cs.zip outcomes = before ++ [last] ∧ (∀ l ∈ before, l.1.holds operators l.2) ∧
      ¬last.1.holds operators last.2 := by
  induction cs generalizing outcomes
  case nil =>
    cases outcomes
    case nil => exact .inl ⟨rfl, nofun⟩
    case cons => cases h
  case cons c cs ih =>
    cases outcomes
    case nil => cases h
    case cons o outcomes =>
      simp only [List.map_cons, Answered, Condition.query] at h
      rw [List.zip_cons_cons]
      split at h
      case isTrue hh =>
        rcases ih h with ha | ⟨before, last, hz, hb, hn⟩
        case inl => exact .inl ⟨congrArg (· + 1) ha.1, List.forall_mem_cons.mpr ⟨hh, ha.2⟩⟩
        case inr => exact .inr ⟨(c, o) :: before, last, congrArg _ hz, List.forall_mem_cons.mpr ⟨hh, hb⟩, hn⟩
      case isFalse hh =>
        obtain ⟨rfl, _⟩ := h
        exact .inr ⟨[], (c, o), by simp, List.forall_mem_nil _, hh⟩

namespace Trial

variable {operators : Operators} {priorityOf : String → Int64} {t : Trial}

theorem Complete.split (h : t.Complete operators priorityOf) :
    ((t.looked priorityOf).length = (t.rule.ordered priorityOf).length ∧
      ∀ l ∈ t.looked priorityOf, l.1.holds operators l.2) ∨
    ∃ before last, t.looked priorityOf = before ++ [last] ∧ (∀ l ∈ before, l.1.holds operators l.2) ∧
      ¬last.1.holds operators last.2 :=
  Query.Answered.split h

theorem Complete.held (h : t.Complete operators priorityOf) :
    ∀ l ∈ (t.looked priorityOf).dropLast, l.1.holds operators l.2 := by
  intro l hl
  cases h.split
  case inl ha => exact ha.2 l (List.dropLast_subset _ hl)
  case inr hn =>
    have ⟨before, last, hz, hb, _⟩ := hn
    rw [hz, List.dropLast_concat] at hl
    exact hb l hl

theorem Complete.failed (h : t.Complete operators priorityOf) (hr : ¬(t.verdict operators priorityOf).result) :
    ∃ l, (t.looked priorityOf).getLast? = some l ∧ ¬l.1.holds operators l.2 := by
  rcases h.split with ha | ⟨before, last, hz, _, hl⟩
  case inl =>
    refine absurd ?_ hr
    simp only [verdict, Rule.verdictOf, decide_eq_true_eq, List.all_eq_true]
    exact ha
  case inr =>
    exact ⟨last, by rw [hz, List.getLast?_concat], hl⟩

theorem Complete.error_iff (h : t.Complete operators priorityOf)
    (hk : ∀ c ∈ t.rule.conditions, operators.contains c.operator) :
    (t.verdict operators priorityOf).error.isSome ↔
      ∃ l, (t.looked priorityOf).getLast? = some l ∧ l.2.toOption = none := by
  have he : (t.verdict operators priorityOf).error =
    (t.looked priorityOf).findSome? fun l => l.1.error? operators l.2 := rfl
  have undisputed {ls : List (Condition × Outcome)} (hh : ∀ l ∈ ls, l.1.holds operators l.2) :
      (ls.findSome? fun l => l.1.error? operators l.2) = none :=
    List.findSome?_eq_none_iff.mpr fun l hl => Condition.error?_of_holds (hh l hl)
  rw [he]
  cases h.split
  case inl ha =>
    rw [undisputed ha.2]
    refine ⟨nofun, fun ⟨l, hl, ho⟩ => ?_⟩
    have hs := Condition.isSome_of_holds (ha.2 l (List.mem_of_getLast? hl))
    rw [ho] at hs
    cases hs
  case inr hn =>
    have ⟨before, last, hz, hb, _⟩ := hn
    have hl : last ∈ t.looked priorityOf := hz ▸ List.mem_append_right _ (List.mem_singleton_self last)
    have hm : last.1 ∈ t.rule.ordered priorityOf := (List.of_mem_zip hl).1
    rw [hz, List.findSome?_append, undisputed hb, List.getLast?_concat]
    simpa using Condition.isSome_error?_iff (hk _ ((Ranking.mem_sort _).mp hm))

-- Each check tells what asking for its fact comes to in some world.
theorem Complete.told {facts : Facts σ} {lenient : Bool} (h : t.Complete operators facts.priorityOf)
    (ho : ∀ r ∈ t.readings facts.priorityOf, ∃ world, r.2 = facts.outcome lenient world r.1) :
    ∀ d ∈ (t.verdict operators facts.priorityOf).checks,
      ∃ world, d = d.condition.check operators (facts.outcome lenient world d.fact) ∧
        (t.verdict operators facts.priorityOf).Says d (facts.outcome lenient world d.fact) := by
  intro d hd
  have ⟨l, hl, he⟩ := List.mem_map.mp hd
  have ⟨world, hw⟩ := ho _ (List.mem_map_of_mem hl)
  rw [← he]
  exact ⟨world, hw ▸ rfl, hw ▸ h.says hl⟩

theorem Complete.shaped {facts : Facts σ} {lenient : Bool} (h : t.Complete operators facts.priorityOf)
    (hk : ∀ c ∈ t.rule.conditions, operators.contains c.operator)
    (ho : ∀ r ∈ t.readings facts.priorityOf, ∃ world, r.2 = facts.outcome lenient world r.1) :
    (t.verdict operators facts.priorityOf).Shaped operators facts lenient t.rule := by
  let checked (l : Condition × Outcome) : Check := l.1.check operators l.2
  have hc : (t.verdict operators facts.priorityOf).checks = (t.looked facts.priorityOf).map checked := rfl
  have hlast : (t.verdict operators facts.priorityOf).checks.getLast? =
      (t.looked facts.priorityOf).getLast?.map checked := by rw [hc, List.getLast?_map]
  refine ⟨t.settles, Ranking.sorted_sort _ _, fun id hf => ?unregistered, hk, h.told ho, fun d hd => ?held,
    fun hr => ?failed, ?error⟩
  case unregistered => simp only [Facts.priorityOf, hf, Fact.defaultPriority]
  case held =>
    rw [hc, ← List.map_dropLast] at hd
    obtain ⟨l, hl, rfl⟩ := List.mem_map.mp hd
    exact ⟨h.held l hl, Condition.isSome_of_holds (h.held l hl)⟩
  case failed =>
    obtain ⟨l, hl, hh⟩ := h.failed hr
    exact ⟨checked l, by rw [hlast, hl]; rfl, hh⟩
  case error =>
    rw [h.error_iff hk, hlast]
    simp [checked, Condition.check]

end Trial

namespace Store

-- Every outcome is one that asking for the fact comes to in some world.
structure Sourced (facts : Facts σ) (lenient : Bool) (s : Store σ) (taken pending : List Reading) : Prop where
  facts_eq : s.facts = facts
  lenient_eq : s.lenient = lenient
  read : ∀ r ∈ taken ++ pending, ∃ world, r.2 = facts.outcome lenient world r.1
  kept : ∀ id outcome, s.cells.find? id = some (.settled outcome) → ∃ world, outcome = facts.outcome lenient world id

variable {facts : Facts σ} {lenient : Bool} {s t : Store σ} {taken pending : List Reading} {id : String}
  {outcome : Outcome} {reply : Reply}

namespace Sourced

theorem start (facts : Facts σ) (lenient : Bool) (world : σ) :
    (Store.start facts lenient world).Sourced facts lenient [] [] :=
  ⟨rfl, rfl, nofun, fun _ _ h => by simp [Store.start, Table.find?_empty] at h⟩

theorem exists_world_of_reads (h : s.Sourced facts lenient taken pending) (hr : s.Reads id outcome t) :
    ∃ world, outcome = facts.outcome lenient world id := by
  cases hr
  case unknown hf => exact ⟨s.world, by rw [h.lenient_eq, Facts.outcome_of_unknown (h.facts_eq ▸ hf)]⟩
  case constant hf hs => exact ⟨s.world, (Facts.outcome_of_constant (h.facts_eq ▸ hf) hs).symm⟩
  case remembered ho => exact h.kept id _ ho

theorem reads (h : s.Sourced facts lenient taken pending) (hr : s.Reads id outcome t) :
    t.Sourced facts lenient ((id, outcome) :: taken) pending where
  facts_eq := hr.facts.trans h.facts_eq
  lenient_eq := hr.lenient.trans h.lenient_eq
  read := List.forall_mem_cons.mpr ⟨h.exists_world_of_reads hr, h.read⟩
  kept i o hc := h.kept i o (hr.cells ▸ hc)

theorem called (h : s.Sourced facts lenient taken pending) (hr : s.Calls id reply t) :
    t.Sourced facts lenient taken ((id, reply.outcome) :: pending) := by
  obtain @⟨f, provider, hf, hp, _⟩ := hr
  have ho : facts.outcome lenient s.world id = (provider s.world).1.outcome :=
    Facts.outcome_of_provider (h.facts_eq ▸ hf) hp
  refine ⟨setCell_facts.trans h.facts_eq, setCell_lenient.trans h.lenient_eq, fun r hr => ?read, fun i o hi => ?kept⟩
  case read =>
    cases List.mem_cons.mp (List.perm_middle.mem_iff.mp hr)
    case inl he => exact ⟨s.world, he ▸ ho.symm⟩
    case inr hr => exact h.read r hr
  case kept =>
    cases find?_cells_of_setCell hi
    case inl hi => cases hi.2.1
    case inr hi => exact h.kept i o hi.2

theorem settle (h : s.Sourced facts lenient taken ((id, outcome) :: pending)) :
    (s.settle id outcome).Sourced facts lenient ((id, outcome) :: taken) pending := by
  have hr : ∀ r ∈ (id, outcome) :: (taken ++ pending), ∃ world, r.2 = facts.outcome lenient world r.1 :=
    fun r hr => h.read r (List.perm_middle.mem_iff.mpr hr)
  refine ⟨settle_facts.trans h.facts_eq, settle_lenient.trans h.lenient_eq, hr, fun i o hi => ?_⟩
  rw [Store.settle, observe_cells] at hi
  cases find?_cells_of_setCell hi
  case inl hi =>
    obtain ⟨rfl, he, _⟩ := hi
    cases he
    exact hr _ (List.mem_cons_self ..)
  case inr hi => exact h.kept i o hi.2

end Sourced

theorem lasting_sourced (facts : Facts σ) (lenient : Bool) : Lasting (Sourced facts lenient) where
  perm h ht hp := { h with read := fun r hr => h.read r ((ht.append hp).mem_iff.mpr hr) }
  read h hr := h.reads hr
  called h hr := h.called hr
  settled h := h.settle

end Store

namespace RuleSet

-- A run is a trial of each rule in its order, and its outcomes are those of the facts.
theorem run_trials (s : RuleSet σ) (given : List (Fact σ)) (notify : Listener σ) (world : σ) :
    ∃ trials : List Trial, trials.map (·.rule) = s.ordered ∧
      (s.run given notify world).1.verdicts = trials.map (·.verdict s.operators (s.facts.addAll given).priorityOf) ∧
      ∀ t ∈ trials, t.Complete s.operators (s.facts.addAll given).priorityOf ∧
        ∀ r ∈ t.readings (s.facts.addAll given).priorityOf,
          ∃ world, r.2 = (s.facts.addAll given).outcome s.lenient world r.1 := by
  let facts := s.facts.addAll given
  have ⟨trials, hr, hv, hc, hi⟩ := s.runGroups_lasting notify (Store.lasting_sourced facts s.lenient)
    (fun _ _ _ h => { h with }) (Store.idle_start facts s.lenient world) (Store.Sourced.start facts s.lenient world)
    (Ranking.groups (·.priority) s.ordered)
  rw [Ranking.flatten_groups] at hr
  rw [run_eq]
  refine ⟨trials, hr, hv, fun t ht => ⟨hc t ht, fun r hread => hi.read r ?_⟩⟩
  rw [List.append_nil, List.append_nil]
  exact List.mem_flatMap.mpr ⟨t, ht, hread⟩

-- What is true of every trial and its rule is true of the verdicts of a run.
theorem run_forall₂ {Q : Rule → Verdict → Prop} (s : RuleSet σ) (given : List (Fact σ)) (notify : Listener σ)
    (world : σ)
    (h : ∀ t : Trial, t.rule ∈ s.ordered → t.Complete s.operators (s.facts.addAll given).priorityOf →
      (∀ r ∈ t.readings (s.facts.addAll given).priorityOf,
        ∃ world, r.2 = (s.facts.addAll given).outcome s.lenient world r.1) →
      Q t.rule (t.verdict s.operators (s.facts.addAll given).priorityOf)) :
    List.Forall₂ Q s.ordered (s.run given notify world).1.verdicts := by
  have ⟨trials, hr, hv, ht⟩ := s.run_trials given notify world
  rw [hv, ← hr, List.forall₂_map_left_iff, List.forall₂_map_right_iff]
  refine List.forall₂_same.mpr fun t hm => h t ?_ (ht t hm).1 (ht t hm).2
  exact hr ▸ List.mem_map_of_mem hm

-- The operators of all conditions are known.
def Versed (s : RuleSet σ) : Prop :=
  ∀ rule ∈ s.rules, ∀ c ∈ rule.conditions, s.operators.contains c.operator

-- The verdicts of a run are those on the rules, in their order.
theorem Versed.run_shaped {s : RuleSet σ} (h : s.Versed) (given : List (Fact σ)) (notify : Listener σ) (world : σ) :
    List.Forall₂ (Verdict.Shaped s.operators (s.facts.addAll given) s.lenient) s.ordered
      (s.run given notify world).1.verdicts :=
  s.run_forall₂ given notify world fun _ hm hc ho => hc.shaped (h _ ((Ranking.mem_sort _).mp hm)) ho

-- An addition to a rule set.
inductive Change (σ : Type) where
  | rule (rule : Rule)
  | fact (fact : Fact σ)
  | operator (name : String) (operator : Operator)

-- A rule that is refused leaves the rule set as it is.
def change (s : RuleSet σ) : Change σ → RuleSet σ
  | .rule rule => (s.addRule rule).toOption.getD s
  | .fact fact => s.addFact fact
  | .operator name operator => s.addOperator name operator

-- The rule set that comes of additions to an empty one.
def built (lenient : Bool) (changes : List (Change σ)) : RuleSet σ :=
  changes.foldl change (empty lenient)

theorem Versed.addRule {s s' : RuleSet σ} {rule : Rule} (h : s.Versed) (hs : s.addRule rule = .ok s') : s'.Versed := by
  simp only [RuleSet.addRule] at hs
  split at hs
  case isTrue => cases hs
  case isFalse =>
    split at hs
    case _ => cases hs
    case _ hf =>
      cases hs
      refine List.forall_mem_append.mpr ⟨h, List.forall_mem_singleton.mpr fun c hc => ?_⟩
      simpa using List.find?_eq_none.mp hf c hc

-- No operator is ever lost, and a rule is only added once its operators are known.
theorem Versed.change {s : RuleSet σ} (h : s.Versed) (c : Change σ) : (s.change c).Versed := by
  cases c
  case rule rule =>
    rw [RuleSet.change]
    cases hs : s.addRule rule
    case error => exact h
    case ok => exact h.addRule hs
  case fact => exact h
  case operator name operator =>
    intro rule hr c hc
    have hk := h rule hr c hc
    simp only [RuleSet.change, addOperator, Table.contains, Table.find?_insert] at hk ⊢
    split
    · rfl
    · exact hk

theorem built_versed (lenient : Bool) (changes : List (Change σ)) : (built lenient changes).Versed := by
  have hf (s : RuleSet σ) (h : s.Versed) : (changes.foldl change s).Versed := by
    induction changes generalizing s
    case nil => exact h
    case cons c changes ih => exact ih _ (h.change c)
  exact hf _ nofun

-- However a rule set was built, a run of it has a verdict of that shape for each rule.
theorem run_built_shaped (lenient : Bool) (changes : List (Change σ)) (given : List (Fact σ)) (notify : Listener σ)
    (world : σ) :
    List.Forall₂ (Verdict.Shaped (built lenient changes).operators ((built lenient changes).facts.addAll given)
      (built lenient changes).lenient) (built lenient changes).ordered
      ((built lenient changes).run given notify world).1.verdicts :=
  (built_versed lenient changes).run_shaped given notify world

end RuleSet
end Troubleshoot
