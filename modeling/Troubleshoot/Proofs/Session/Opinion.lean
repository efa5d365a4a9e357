import Troubleshoot.Proofs.Session.Calls
import Troubleshoot.Proofs.Session.Priority

namespace Troubleshoot

variable {υ : Type}

-- What somebody says to each call, if the callback for it is there, no matter what was called before.
abbrev Opinion := Call → Option (Except String Answer)

namespace Opinion

def answer? (o : Opinion) (call : Call) : Option Answer :=
  (o call).bind Except.toOption

end Opinion

-- The respondent always sticks to an opinion.
def Respondent.Holds (r : Respondent υ) (o : Opinion) : Prop :=
  ∀ call user, (r.react user call).map (·.1.answer) = o call

theorem Reaction.toOption_reply (r : Reaction) (id : String) :
    (r.reply id).outcome.toOption = r.answer.toOption.map Answer.toJson := by
  simp only [reply]
  cases r.answer <;> rfl

namespace Consultation

variable {c : Consultation υ} {s t : Store (World υ)} {id : String} {outcome : Outcome} {l : Link}
  {o : Opinion}

-- The value that a fact has in a session with somebody of an opinion.
def told (c : Consultation υ) (o : Opinion) (m : Memory) (id : String) : Option Json :=
  match c.holder id with
  | .memory => some m.toJson
  | .systemTypes => some (.ofStrings c.systemTypes)
  | .preset value => some value
  | .confirmation k p => (o.answer? (.confirmation k p)).map Answer.toJson
  | .question => ((c.knowledge.question? id).bind fun q => o.answer? (.question q)).map Answer.toJson
  | .nobody => none

-- The outcomes that are remembered are those that the opinion leads to.
def Settled (c : Consultation υ) (o : Opinion) (s : Store (World υ)) : Prop :=
  ∀ id outcome, c.holder id = .question → s.settled? id = some outcome →
    ∀ m, outcome.toOption = c.told o m id

theorem Resolves.told (h : c.Resolves s id outcome t) (ho : c.respondent.Holds o) (hs : c.Settled o s)
    (hn : c.holder id ≠ .nobody) : outcome.toOption = c.told o s.world.memory id := by
  cases h
  case memory hh => simp [Consultation.told, hh, Except.toOption]
  case systemTypes hh => simp [Consultation.told, hh, Except.toOption]
  case preset hh => simp [Consultation.told, hh, Except.toOption]
  case nobody hh => exact absurd hh hn
  case remembered hh hv => exact hs id outcome hh hv s.world.memory
  case unconfirmed k p hh hr =>
    have hc := ho (.confirmation k p) s.world.user
    simp only [Respondent.react, hr, Option.map_none] at hc
    simp [Consultation.told, hh, Opinion.answer?, ← hc, Except.toOption]
  case confirmed k p confirm hh hr =>
    have hc := ho (.confirmation k p) s.world.user
    simp only [Respondent.react, hr, Option.map_some] at hc
    simp [Consultation.told, hh, Opinion.answer?, ← hc, Reaction.toOption_reply]
  case unanswerable e hh hv hr =>
    cases hq : c.knowledge.question? id
    case none => simp [Consultation.told, hh, hq, Except.toOption]
    case some q =>
      have hc := ho (.question q) s.world.user
      simp only [hq, reduceCtorEq, or_false] at hr
      simp only [Respondent.react, hr, Option.map_none] at hc
      simp [Consultation.told, hh, hq, Opinion.answer?, ← hc, Except.toOption]
  case asked q ask hh hv hr hq =>
    have hc := ho (.question q) s.world.user
    simp only [Respondent.react, hr, Option.map_some] at hc
    simp [Consultation.told, hh, hq, Opinion.answer?, ← hc, Reaction.toOption_reply]

theorem Resolves.settled (h : c.Resolves s id outcome t) (ho : c.respondent.Holds o) (hs : c.Settled o s)
    (hf : s.facts = c.facts) : c.Settled o t := by
  intro i outcome' hi hv m
  by_cases he : i = id
  case pos =>
    subst he
    have hv' := (h.settled?_self hf hi).symm.trans hv
    have ht := h.told ho hs (by simp [hi])
    rw [← Option.some.inj hv', ht]
    simp only [Consultation.told, hi]
  case neg =>
    rw [h.settled?_of_ne he] at hv
    exact hs i outcome' hi hv m

theorem looked_told (ho : c.respondent.Holds o) (hs : c.Settled o s) (hf : s.facts = c.facts)
    (hl : l ∈ c.knowledge.links) :
    c.Settled o (c.looked l s).2 ∧
    ∀ d outcome, (d, outcome) ∈ (c.looked l s).1 → outcome.toOption = c.told o s.world.memory d.fact := by
  refine (looked_induction (P := fun done t => t.world.memory = s.world.memory ∧ c.Settled o t ∧
    ∀ d outcome, (d, outcome) ∈ done → outcome.toOption = c.told o s.world.memory d.fact) ?_ hf ?_).1.2
  case refine_2 => exact ⟨rfl, hs, fun _ _ h => nomatch h⟩
  case refine_1 =>
    intro done t t' d hd outcome ht h ⟨hm, hs, hl'⟩
    refine ⟨h.memory_eq.trans hm, h.settled ho hs ht, fun d' outcome' hd' => ?_⟩
    rcases List.mem_append.mp hd' with hd' | hd'
    · exact hl' d' outcome' hd'
    · cases List.mem_singleton.mp hd'
      exact hm ▸ h.told ho hs (holder_ne_nobody hl hd)

-- With what is told, a condition holds.
def Satisfied (c : Consultation υ) (o : Opinion) (m : Memory) (d : Condition) : Prop :=
  ∃ value, c.told o m d.fact = some value ∧ d.holds .session (.ok value)

theorem holds_iff_satisfied {m : Memory} {d : Condition} (h : outcome.toOption = c.told o m d.fact) :
    d.holds .session outcome ↔ c.Satisfied o m d := by
  simp only [Satisfied]
  rw [← h]
  cases outcome <;> simp [Except.toOption, Condition.holds]

-- A rule matches if all of its conditions are satisfied, in whatever order they are looked at.
theorem result_judge_iff_satisfied (ho : c.respondent.Holds o) (hs : c.Settled o s) (hf : s.facts = c.facts)
    (hl : l ∈ c.knowledge.links) (priority : Int64) :
    (c.judge l priority s).1.result ↔ ∀ d ∈ l.rule.conditions, c.Satisfied o s.world.memory d := by
  have ⟨_, ht⟩ := looked_told ho hs hf hl
  have hp := s.map_fst_look_prefix .session (c.conditions l)
  rw [result_judge_iff hf]
  constructor
  case mp =>
    intro ⟨he, hh⟩ d hd
    have hx : d ∈ (c.looked l s).1.map Prod.fst := he ▸ mem_conditions.mpr hd
    have ⟨⟨d', outcome⟩, hm, he⟩ := List.mem_map.mp hx
    subst he
    exact (holds_iff_satisfied (ht _ _ hm)).mp (hh _ hm)
  case mpr =>
    intro h
    have hh : ∀ d ∈ (c.looked l s).1, d.1.holds .session d.2 := by
      intro ⟨d, outcome⟩ hd
      have hc : d ∈ c.conditions l := hp.subset (List.mem_map_of_mem hd)
      exact (holds_iff_satisfied (ht d outcome hd)).mpr (h d (mem_conditions.mp hc))
    exact ⟨Store.map_fst_look_of_holds hh, hh⟩

end Consultation
end Troubleshoot
