import Troubleshoot.Proofs.Rule.Observed
import Troubleshoot.Proofs.Session.Lenience

namespace Troubleshoot

variable {σ υ : Type}

namespace RuleSet

-- Nothing is checked but conditions of the rules.
theorem exists_rule_of_mem_checks {s : RuleSet σ} {given : List (Fact σ)} {notify : Listener σ} {world : σ}
    {v : Verdict} (hv : v ∈ (s.run given notify world).1.verdicts) {d : Check} (hd : d ∈ v.checks) :
    ∃ rule ∈ s.rules, d.condition ∈ rule.conditions := by
  have ⟨trials, hr, he, _⟩ := s.run_trials given notify world
  rw [he] at hv
  obtain ⟨t, ht, rfl⟩ := List.mem_map.mp hv
  have hm : t.rule ∈ s.ordered := hr ▸ List.mem_map_of_mem ht
  have hc := t.settles.checks.subset (List.mem_map_of_mem hd)
  exact ⟨t.rule, (Ranking.mem_sort _).mp hm, (Ranking.mem_sort _).mp hc⟩

end RuleSet

namespace Consultation

variable {c : Consultation υ}

-- A session knows all facts that it checks, so all values that it found count.
theorem find?_facts_run (hn : c.knowledge.Numbered) (seed : List String) (user : υ) (id : String) :
    (c.prepared.run seed c.systemTypes user).1.facts.find? id =
      latest? ((c.prepared.run seed c.systemTypes user).1.verdicts.flatMap Verdict.values) id := by
  have ho := c.ruleSet.run_observed (c.bindings.sessionFacts c.systemTypes) World.hear (.start user seed)
  have hd : c.ruleSet.rules.Pairwise (·.priority ≠ ·.priority) :=
    RuleSet.distinct_of_falling (KnowledgeBase.rules_falling hn)
  by_cases hk : c.facts.contains id
  case pos => exact ho.last hd id hk
  case neg =>
    have hf : (c.prepared.run seed c.systemTypes user).1.facts.find? id = none := by
      refine Option.not_isSome_iff_eq_none.mp fun h => hk ?_
      exact ((ho.contains_iff id).mp h).1
    rw [hf, eq_comm, Option.eq_none_iff_forall_not_mem]
    intro value hm
    have ⟨v, hv, hm⟩ := List.mem_flatMap.mp (mem_of_latest? hm)
    obtain ⟨d, hd, rfl, _⟩ := Verdict.mem_values.mp hm
    have ⟨rule, hr, hc⟩ := RuleSet.exists_rule_of_mem_checks hv hd
    exact hk (known_of_mem_rules (c := c) (d := d.condition) hr hc)

end Consultation

-- What is noted of facts is what the checks tell of them.
theorem facts_observed :
    (∀ (s : RuleSet σ) (given : List (Fact σ)) (notify : Listener σ) (world : σ), s.RunObserved given notify world) ∧
    ∀ c : Consultation υ, c.settings.Valid → c.knowledge.Numbered → ∀ (seed : List String) (user : υ),
      c.Ends seed user fun d _ => ∀ id, d.facts.find? id = latest? (d.verdicts.flatMap Verdict.values) id :=
  ⟨fun s given notify world => s.run_observed given notify world,
    fun _ hv hn seed user => .of_prepared hv fun _ => Consultation.find?_facts_run hn seed user⟩

theorem facts_observed_water :
    ((Consultation.water Nat.succ).settings.Valid ∧ (Consultation.water Nat.succ).knowledge.Numbered) ∧
    ∃ d w, (Consultation.water Nat.succ).run ["Symptom1"] 0 = .ok (.ok (d, w)) ∧
      ∀ id, d.facts.find? id = latest? (d.verdicts.flatMap Verdict.values) id := by
  have hv : (Consultation.water Nat.succ).settings.Valid := by decide
  have hn : (Consultation.water Nat.succ).knowledge.Numbered := by decide
  have he := (@facts_observed Unit Nat).2 (Consultation.water Nat.succ) hv hn ["Symptom1"] 0
  exact ⟨⟨hv, hn⟩, he.held (by decide +kernel)⟩

end Troubleshoot
