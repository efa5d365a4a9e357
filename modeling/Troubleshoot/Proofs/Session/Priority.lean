import Troubleshoot.Proofs.Session.Course

namespace Troubleshoot

variable {υ : Type}

namespace KnowledgeBase

variable {kb : KnowledgeBase} {l : Link} {d : Condition}

-- Whatever the rule of a link asks for was bound for it, or belongs to the session itself.
theorem named_of_mem_conditions (hl : l ∈ kb.links) (hd : d ∈ l.rule.conditions) :
    d.fact = Bindings.symptomsFact ∨ d.fact = Bindings.systemTypesFact ∨ d.fact ∈ kb.asked ∨
      ∃ p, (d.fact, p) ∈ kb.confirmations := by
  have hg : ∀ id ∈ l.guard.questions, id ∈ kb.asked := fun id h => List.mem_flatMap.mpr ⟨l, hl, h⟩
  rcases Link.mem_conditions_rule.mp hd with
    rfl | ⟨_, rfl⟩ | ⟨id, hi, rfl⟩ | ⟨id, hi, rfl⟩ | ⟨⟨k, p⟩, he, rfl⟩
  case inl => exact .inl rfl
  case inr.inl => exact .inr (.inl rfl)
  case inr.inr.inl => exact .inr (.inr (.inl (hg id (List.mem_append_left _ hi))))
  case inr.inr.inr.inl => exact .inr (.inr (.inl (hg id (List.mem_append_right _ hi))))
  case inr.inr.inr.inr =>
    refine .inr (.inr (.inr ⟨(k, p), List.mem_flatMap.mpr ⟨l, hl, ?_⟩⟩))
    exact List.mem_map.mpr ⟨(k, p), he, rfl⟩

end KnowledgeBase

namespace Consultation

variable {c : Consultation υ} {id : String} {l : Link} {d : Condition}

-- No rule asks for a fact that nobody knows.
theorem holder_ne_nobody (hl : l ∈ c.knowledge.links) (hd : d ∈ l.rule.conditions) :
    c.holder d.fact ≠ .nobody := by
  have hn := KnowledgeBase.named_of_mem_conditions hl hd
  have hc := fun p => @isSome_latest?_of_mem _ c.knowledge.confirmations d.fact p
  simp only [holder, KnowledgeBase.confirmation?]
  grind

theorem ranked_bindings (hv : c.settings.Valid) (hc : c.Counted) : c.bindings.Ranked 0 := by
  refine @Bindings.Ranked.enterAll _ _ _ [] ⟨hc, Int64.le_of_lt hv, ?_⟩ ?_
  · simp [Bindings.empty]
  · simp [Bindings.empty, Bindings.kind?]

theorem priorityOf_symptomsFact (c : Consultation υ) :
    c.facts.priorityOf Bindings.symptomsFact = c.settings.sessionFactPriority := by
  simp [Facts.priorityOf, find?_facts_memory]

-- No fact that is bound outranks the session's own.
theorem priorityOf_le (hv : c.settings.Valid) (hc : c.Counted) (hn : c.holder id ≠ .nobody) :
    c.facts.priorityOf id ≤ c.settings.sessionFactPriority := by
  by_cases hm : id = Bindings.symptomsFact
  case pos => rw [hm, priorityOf_symptomsFact]; exact Int64.le_refl _
  case neg =>
    by_cases ht : id = Bindings.systemTypesFact
    case pos =>
      simp [Facts.priorityOf, ht, find?_facts_systemTypes, Fact.constant]
    case neg =>
      have hk : (c.bindings.kind? id).isSome := by
        rw [← kind?_holder hm ht]
        simp only [holder] at hn ⊢
        grind [Holder.kind?]
      obtain ⟨b, hb⟩ := Option.isSome_iff_exists.mp (Option.isSome_map ▸ hk)
      have hp := (ranked_bindings hv hc).priority_le id b hb
      rw [c.bindings_keeps.2.2] at hp
      rw [Facts.priorityOf, find?_facts_of_ne hm ht, hb]
      obtain ⟨kind, priority⟩ := b
      cases kind <;> exact hp

-- Nothing that a rule asks for outranks its symptom, so that is what is looked at first.
theorem conditions_eq_cons (hv : c.settings.Valid) (hc : c.Counted) (hl : l ∈ c.knowledge.links) :
    ∃ later, c.conditions l = ⟨Bindings.symptomsFact, "contains", .string l.symptom.id⟩ :: later := by
  have ⟨later, hr⟩ : ∃ later, l.rule.conditions =
      ⟨Bindings.symptomsFact, "contains", .string l.symptom.id⟩ :: later := ⟨_, l.conditions_rule⟩
  rw [conditions, Rule.ordered, hr]
  refine ⟨_, Ranking.sort_cons _ fun d hd => ?_⟩
  rw [priorityOf_symptomsFact]
  exact priorityOf_le hv hc (holder_ne_nobody hl (hr ▸ List.mem_cons_of_mem _ hd))

end Consultation
end Troubleshoot
