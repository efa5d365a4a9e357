import Troubleshoot.Proofs.Session.Calls

namespace Troubleshoot

variable {υ : Type}

theorem Reaction.answer_of_reply {r : Reaction} {id : String} {value : Json}
    (h : (r.reply id).outcome = .ok value) : ∃ a, r.answer = .ok a ∧ value = a.toJson := by
  simp only [reply] at h
  cases ha : r.answer <;> simp only [ha] at h <;> cases h
  exact ⟨_, rfl, rfl⟩

namespace Consultation

variable {c : Consultation υ} {s t : Store (World υ)} {id : String} {outcome : Outcome} {l : Link}

-- What stands behind the value of a fact: an answer that the respondent gave, if the fact is theirs.
def Backed (c : Consultation υ) (exchanges : List Exchange) (id : String) (value : Json) : Prop :=
  match c.holder id with
  | .memory | .systemTypes => ∃ ss, value = .ofStrings ss
  | .preset v => value = v
  | .nobody => value = .null
  | .question => ∃ q a, c.knowledge.question? id = some q ∧ (.question q, .ok a) ∈ exchanges ∧ value = a.toJson
  | .confirmation k p => ∃ a, (.confirmation k p, .ok a) ∈ exchanges ∧ value = a.toJson

theorem Backed.mono {exchanges more : List Exchange} {value : Json} (h : c.Backed exchanges id value)
    (hm : exchanges ⊆ more) : c.Backed more id value := by
  simp only [Backed] at h ⊢
  split at h
  case _ => exact h
  case _ => exact h
  case _ => exact h
  case _ => exact h
  case _ =>
    obtain ⟨q, a, hq, ha, hv⟩ := h
    exact ⟨q, a, hq, hm ha, hv⟩
  case _ =>
    obtain ⟨a, ha, hv⟩ := h
    exact ⟨a, hm ha, hv⟩

-- The outcomes that are remembered are those that the respondent gave.
def Honest (c : Consultation υ) (s : Store (World υ)) : Prop :=
  ∀ id value, c.holder id = .question → s.settled? id = some (.ok value) →
    c.Backed s.world.exchanges id value

theorem Resolves.exchanges_subset (h : c.Resolves s id outcome t) : s.world.exchanges ⊆ t.world.exchanges := by
  cases h <;> simp

theorem Resolves.backed (h : c.Resolves s id outcome t) (hs : c.Honest s) {value : Json}
    (ho : outcome = .ok value) : c.Backed t.world.exchanges id value := by
  cases h
  case remembered hh hv =>
    subst ho
    exact (hs id value hh hv).mono (by simp)
  case confirmed hh hr =>
    have ⟨a, ha, hv⟩ := Reaction.answer_of_reply ho
    simp only [Backed, hh]
    exact ⟨a, by simp [ha], hv⟩
  case asked q _ hh _ _ hq =>
    have ⟨a, ha, hv⟩ := Reaction.answer_of_reply ho
    simp only [Backed, hh]
    exact ⟨q, a, hq, by simp [ha], hv⟩
  case memory hh =>
    cases ho
    simp only [Backed, hh]
    exact ⟨_, rfl⟩
  case systemTypes hh =>
    cases ho
    simp only [Backed, hh]
    exact ⟨_, rfl⟩
  case preset hh =>
    cases ho
    simp [Backed, hh]
  case nobody hh =>
    split at ho <;> cases ho
    simp [Backed, hh]
  all_goals cases ho

theorem Resolves.honest (h : c.Resolves s id outcome t) (hs : c.Honest s) (hf : s.facts = c.facts) :
    c.Honest t := by
  intro i value hi hv
  by_cases he : i = id
  case pos =>
    subst he
    have ho := (h.settled?_self hf hi).symm.trans hv
    exact h.backed hs (Option.some.inj ho)
  case neg =>
    rw [h.settled?_of_ne he] at hv
    exact (hs i value hi hv).mono h.exchanges_subset

theorem looked_honest (hs : c.Honest s) (hf : s.facts = c.facts) (l : Link) :
    c.Honest (c.looked l s).2 ∧ s.world.exchanges ⊆ (c.looked l s).2.world.exchanges ∧
    ∀ d value, (d, .ok value) ∈ (c.looked l s).1 →
      c.Backed (c.looked l s).2.world.exchanges d.fact value := by
  refine (looked_induction (P := fun done t => c.Honest t ∧ s.world.exchanges ⊆ t.world.exchanges ∧
    ∀ d value, (d, .ok value) ∈ done → c.Backed t.world.exchanges d.fact value) ?_ hf ?_).1
  case refine_2 => exact ⟨hs, List.Subset.refl _, fun _ _ h => nomatch h⟩
  case refine_1 =>
    intro done t t' d _ outcome ht h ⟨hs, hm, hd⟩
    refine ⟨h.honest hs ht, List.Subset.trans hm h.exchanges_subset, fun d' value hd' => ?_⟩
    rcases List.mem_append.mp hd' with hd' | hd'
    · exact (hd d' value hd').mono h.exchanges_subset
    · cases List.mem_singleton.mp hd'
      exact h.backed hs rfl

-- A rule that matches has a value for each of its conditions that somebody stands behind.
def Grounded (c : Consultation υ) (exchanges : List Exchange) (verdicts : List Verdict) : Prop :=
  ∀ (i : Nat) (l : Link) (v : Verdict), c.knowledge.links[i]? = some l → verdicts[i]? = some v → v.result →
    ∀ d ∈ l.rule.conditions, ∃ value, d.holds .session (.ok value) ∧ c.Backed exchanges d.fact value

theorem course_grounded (c : Consultation υ) (symptoms : List String) (user : υ) :
    c.Grounded (c.course symptoms user).2.world.exchanges (c.course symptoms user).1 := by
  refine (course_induction (P := fun verdicts s =>
    c.Honest s ∧ c.Grounded s.world.exchanges verdicts) ?_ ?_).1.2
  case refine_2 =>
    refine ⟨fun id value _ hv => ?_, fun _ _ _ _ h => by simp at h⟩
    simp [start, Store.start, Store.settled?] at hv
  case refine_1 =>
    rintro done s l priority hl hf ⟨hs, hg⟩
    obtain ⟨hh, hm, hd⟩ := looked_honest hs hf l
    have he : (c.hear l priority s).world.exchanges = (c.looked l s).2.world.exchanges := by
      rw [(c.hears l priority s).exchanges, judge_snd hf]
    rw [← judge_snd hf priority] at hh
    rw [he]
    refine ⟨fun id value hi hv => ?_, fun i l' v hi hv hr d hd' => ?_⟩
    · rw [(c.hears l priority s).exchanges]
      exact hh id value hi hv
    rcases getElem?_concat hv with ⟨_, hv⟩ | ⟨rfl, rfl⟩
    case inl =>
      obtain ⟨value, hd, hb⟩ := hg i l' v hi hv hr d hd'
      exact ⟨value, hd, hb.mono hm⟩
    case inr =>
      cases hl.symm.trans hi
      obtain ⟨ha, ho⟩ := (result_judge_iff hf).mp hr
      have hx : d ∈ (c.looked l s).1.map Prod.fst := ha ▸ mem_conditions.mpr hd'
      obtain ⟨⟨e, outcome⟩, hm, he⟩ := List.mem_map.mp hx
      subst he
      have hoe := ho _ hm
      cases outcome
      case error => cases hoe
      case ok value => exact ⟨value, hoe, hd e value hm⟩

end Consultation
end Troubleshoot
