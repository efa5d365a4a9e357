import Troubleshoot.Proofs.Fact.Finish
import Troubleshoot.Proofs.Rule.Run
import Troubleshoot.Proofs.Rule.Verdict

namespace Troubleshoot

variable {σ : Type}

namespace Verdict

-- The ids of the facts that were asked for.
def asked (v : Verdict) : List String :=
  v.checks.map (·.fact)

-- The verdict says what came of asking for the fact of one of its checks.
def Says (v : Verdict) (d : Check) (outcome : Outcome) : Prop :=
  d.factValue = outcome.toOption ∧ ∀ e, outcome = .error e → v.error = some e.message

-- It says so of all checks.
def Tells (v : Verdict) (readings : List Reading) : Prop :=
  readings.map Prod.fst = v.asked ∧ ∀ p ∈ v.checks.zip readings, v.Says p.1 p.2.2

end Verdict

-- A rule with the outcomes that were there for its conditions.
structure Trial where
  rule : Rule
  outcomes : List Outcome

namespace Trial

-- The conditions that were looked at, with their outcomes.
def looked (priorityOf : String → Int64) (t : Trial) : List (Condition × Outcome) :=
  (t.rule.ordered priorityOf).zip t.outcomes

def readings (priorityOf : String → Int64) (t : Trial) : List Reading :=
  (t.looked priorityOf).map fun l => (l.1.fact, l.2)

def verdict (operators : Operators) (priorityOf : String → Int64) (t : Trial) : Verdict :=
  t.rule.verdictOf operators (t.rule.ordered priorityOf) t.outcomes

-- The conditions were looked at up to the first that did not hold.
def Complete (operators : Operators) (priorityOf : String → Int64) (t : Trial) : Prop :=
  Query.Answered ((t.rule.ordered priorityOf).map (·.query operators)) t.outcomes []

theorem readings_queries {operators : Operators} {priorityOf : String → Int64} {t : Trial} :
    Query.readings ((t.rule.ordered priorityOf).map (·.query operators)) t.outcomes = t.readings priorityOf := by
  rw [Query.readings, List.map_map, List.zip_map_left]
  rfl

theorem exists_of_length {rules : List Rule} {outcomes : List (List Outcome)}
    (h : outcomes.length = rules.length) :
    ∃ trials : List Trial, trials.map (·.rule) = rules ∧ trials.map (·.outcomes) = outcomes := by
  induction rules generalizing outcomes
  case nil =>
    cases List.eq_nil_of_length_eq_zero h
    exact ⟨[], rfl, rfl⟩
  case cons rule rules ih =>
    match outcomes with
    | [] => cases h
    | os :: outcomes =>
      obtain ⟨trials, rfl, rfl⟩ := ih (Nat.succ.inj h)
      exact ⟨⟨rule, os⟩ :: trials, rfl, rfl⟩

-- The verdict says what came of each condition that was looked at.
theorem Complete.says {operators : Operators} {priorityOf : String → Int64} {t : Trial}
    (h : t.Complete operators priorityOf) {l : Condition × Outcome} (hl : l ∈ t.looked priorityOf) :
    (t.verdict operators priorityOf).Says (l.1.check operators l.2) l.2 :=
  ⟨rfl, fun _ he => Query.Answered.findSome?_error? h hl (he ▸ rfl)⟩

-- The verdict tells of what was read.
theorem Complete.tells {operators : Operators} {priorityOf : String → Int64} {t : Trial}
    (h : t.Complete operators priorityOf) : (t.verdict operators priorityOf).Tells (t.readings priorityOf) := by
  have hc : (t.verdict operators priorityOf).checks =
      (t.looked priorityOf).map fun l => l.1.check operators l.2 := rfl
  refine ⟨by simp [readings, Verdict.asked, hc, Condition.check, Function.comp_def], fun p hp => ?_⟩
  rw [hc, readings, List.zip_map'] at hp
  obtain ⟨l, hl, he⟩ := List.mem_map.mp hp
  exact he ▸ h.says hl

end Trial

namespace RuleSet

variable {I : Store σ → List Reading → List Reading → Prop} {s : RuleSet σ} {store : Store σ}
  {before : List Reading}

-- Evaluating rules side by side is a trial of each, and leaves behind what lasts.
theorem evaluate_lasting (hI : Store.Lasting I) (hs : store.Idle) (h : I store before []) (rules : List Rule) :
    ∃ trials : List Trial, trials.map (·.rule) = rules ∧
      (s.evaluate rules store).1 = trials.map (·.verdict s.operators store.facts.priorityOf) ∧
      (∀ t ∈ trials, t.Complete s.operators store.facts.priorityOf) ∧
      I (s.evaluate rules store).2 (trials.flatMap (·.readings store.facts.priorityOf) ++ before) [] := by
  let p := store.facts.priorityOf
  let queries (rule : Rule) : List Query := (rule.ordered p).map (·.query s.operators)
  have he : (rules.map (·.ordered p)).map (Rule.task s.operators) = (rules.map queries).map Task.ofQueries := by
    rw [List.map_map, List.map_map]
    rfl
  have ⟨hl, ha, hi⟩ := Task.runAll_lasting hI hs h (rules.map queries)
  obtain ⟨trials, rfl, ho⟩ := Trial.exists_of_length (hl.trans (List.length_map ..))
  have hz : ((trials.map (·.rule)).map queries).zip (trials.map (·.outcomes)) =
      trials.map fun t => (queries t.rule, t.outcomes) := by
    rw [List.map_map, List.zip_map']
    rfl
  rw [← ho, hz] at ha hi
  have hc (t : Trial) (ht : t ∈ trials) : t.Complete s.operators p := ha _ (List.mem_map_of_mem ht)
  refine ⟨trials, rfl, ?_, hc, ?_⟩
  · simp only [evaluate]
    rw [he, ← ho, List.map_map, List.zip_map', List.zip_map', List.map_map]
    exact List.map_congr_left fun t ht => t.rule.verdict_eq (hc t ht)
  · simp only [evaluate]
    rw [he]
    have hr (t : Trial) : Query.readings (queries t.rule) t.outcomes = t.readings p := Trial.readings_queries
    simpa only [List.flatMap_map, hr] using hi

theorem evaluate_idle (hs : store.Idle) (rules : List Rule) : (s.evaluate rules store).2.Idle := by
  have h : store.Owned [] [] := Store.owned_nil_iff.mpr hs
  have ⟨_, _, _, _, ho⟩ := s.evaluate_lasting Store.lasting_owned hs h rules
  exact Store.owned_nil_iff.mp ho

theorem evaluate_facts (hs : store.Idle) (rules : List Rule) :
    (s.evaluate rules store).2.facts = store.facts := by
  have h : Store.Holds store.facts store [] [] := rfl
  have ⟨_, _, _, _, hf⟩ := s.evaluate_lasting (Store.lasting_holds store.facts) hs h rules
  exact hf

-- Whoever hears of verdicts may change the world, but not what lasts.
theorem notifyAll_lasting (notify : Listener σ)
    (hn : ∀ store taken v, I store taken [] → I { store with world := notify v store.world } taken [])
    (h : I store before []) (verdicts : List Verdict) : I (notifyAll notify verdicts store) before [] := by
  induction verdicts generalizing store
  case nil => exact h
  case cons v verdicts ih => exact ih (hn store before v h)

-- A run is a trial of each rule, and leaves behind what lasts.
theorem runGroups_lasting (notify : Listener σ) (hI : Store.Lasting I)
    (hn : ∀ store taken v, I store taken [] → I { store with world := notify v store.world } taken [])
    (hs : store.Idle) (h : I store before []) (groups : List (List Rule)) :
    ∃ trials : List Trial, trials.map (·.rule) = groups.flatten ∧
      (s.runGroups notify groups store).1 = trials.map (·.verdict s.operators store.facts.priorityOf) ∧
      (∀ t ∈ trials, t.Complete s.operators store.facts.priorityOf) ∧
      I (s.runGroups notify groups store).2 (trials.flatMap (·.readings store.facts.priorityOf) ++ before) [] := by
  induction groups generalizing store before
  case nil => exact ⟨[], rfl, rfl, nofun, h⟩
  case cons group groups ih =>
    have ⟨trials, hr, hv, hc, hi⟩ := s.evaluate_lasting hI hs h group
    let after := notifyAll notify (s.evaluate group store).1 (s.evaluate group store).2
    have hf : after.facts = store.facts := evaluate_facts hs group
    have ⟨later, hr', hv', hc', hi'⟩ := @ih after _ (evaluate_idle hs group) (notifyAll_lasting notify hn hi _)
    rw [hf] at hv' hc' hi'
    refine ⟨trials ++ later, by simp [hr, hr'], ?_, ?_, ?_⟩
    · rw [List.map_append, ← hv, ← hv']
      rfl
    · exact fun t ht => (List.mem_append.mp ht).elim (hc t) (hc' t)
    · rw [List.flatMap_append, List.append_assoc]
      exact hI.perm hi' (List.perm_append_comm_assoc ..) (.refl _)

theorem runGroups_facts (notify : Listener σ) (hs : store.Idle) (groups : List (List Rule)) :
    (s.runGroups notify groups store).2.facts = store.facts := by
  have h : Store.Holds store.facts store [] [] := rfl
  have ⟨_, _, _, _, hf⟩ :=
    s.runGroups_lasting notify (Store.lasting_holds store.facts) (fun _ _ _ h => h) hs h groups
  exact hf

end RuleSet
end Troubleshoot
