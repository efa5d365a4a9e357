import Troubleshoot.Proofs.Session.Replay

namespace Troubleshoot

variable {υ : Type}

-- Whether the notice is about a call of one of the respondent's callbacks.
def Notice.isCall : Notice → Bool
  | question _ | asked _ _ | confirmation _ _ | confirmed _ _ _ => true
  | verdict _ | memoryChanged _ | firing _ => false

theorem Call.isCall_notices {call : Call} {answer : Except String Answer} {n : Notice}
    (h : n ∈ call.notices answer) : n.isCall := by
  cases call <;> simp only [notices, List.mem_cons, List.not_mem_nil, or_false] at h <;>
    rcases h with rfl | rfl <;> rfl

theorem Firing.not_isCall_notices {f : Firing} {m : Memory} {n : Notice} (h : n ∈ f.notices m) : ¬n.isCall := by
  by_cases hc : (f.apply m).2 <;> simp [notices, hc] at h
  case pos => rcases h with rfl | rfl <;> exact Bool.false_ne_true
  case neg => subst h; exact Bool.false_ne_true

-- What is noted of one rule: what its evaluation took of the respondent, the verdict, and what the
-- verdict led to.
structure Episode where
  evaluation : List Notice
  verdict : Verdict
  aftermath : List Notice

def Episode.notices (e : Episode) : List Notice :=
  e.evaluation ++ .verdict e.verdict :: e.aftermath

namespace Link

-- The guard of a link lets systems of some types pass.
def Suits (l : Link) (types : List String) : Prop :=
  l.guard.systemTypes = [] ∨ ∃ t ∈ l.guard.systemTypes, t ∈ types

instance (l : Link) (types : List String) : Decidable (l.Suits types) :=
  inferInstanceAs (Decidable (_ ∨ _))

-- The check that a system is of a type that the guard of a link names.
def typesCheck (l : Link) (types : List String) : Check where
  fact := "systemTypes"
  operator := "containsOneOf"
  value := .ofStrings l.guard.systemTypes
  factValue := some (.ofStrings types)
  result := ∃ t ∈ l.guard.systemTypes, t ∈ types

def symptomCondition (l : Link) : Condition :=
  ⟨Bindings.symptomsFact, "contains", .string l.symptom.id⟩

def typesCondition (l : Link) : Condition :=
  ⟨Bindings.systemTypesFact, "containsOneOf", .ofStrings l.guard.systemTypes⟩

theorem holds_symptomCondition_iff {l : Link} {m : Memory} :
    l.symptomCondition.holds .session (.ok m.toJson) ↔ l.symptom.id ∈ m :=
  Condition.holds_contains_iff

theorem holds_typesCondition_iff {l : Link} {types : List String} :
    l.typesCondition.holds .session (.ok (.ofStrings types)) ↔ ∃ t ∈ l.guard.systemTypes, t ∈ types :=
  Condition.holds_containsOneOf_iff

theorem check_types (l : Link) (types : List String) :
    l.typesCondition.check .session (.ok (.ofStrings types)) = l.typesCheck types := by
  have hr : l.typesCondition.holds .session (.ok (.ofStrings types)) =
      decide (∃ t ∈ l.guard.systemTypes, t ∈ types) :=
    Bool.eq_iff_iff.mpr (holds_typesCondition_iff.trans decide_eq_true_iff.symm)
  simp only [Condition.check, hr]
  rfl

end Link

namespace World

variable {w : World υ} {v : Verdict}

-- A verdict is noted, and after it only what comes of it.
theorem trace_hear (v : Verdict) (w : World υ) :
    ∃ after : List Notice, (hear v w).trace = w.trace ++ .verdict v :: after ∧ ∀ n ∈ after, ¬n.isCall := by
  cases h : v.firing?
  case none => exact ⟨[], by rw [hear_of_none h]; rfl, List.forall_mem_nil _⟩
  case some f => exact ⟨f.notices w.memory, by rw [hear_of_some h], fun n => Firing.not_isCall_notices⟩

end World

namespace Consultation

variable {c : Consultation υ} {s t : Store (World υ)} {id : String} {outcome : Outcome} {l : Link}
  {seed : List String}

-- Nothing is noted while a fact is asked for but calls.
theorem Resolves.trace (h : c.Resolves s id outcome t) :
    ∃ ns : List Notice, t.world.trace = s.world.trace ++ ns ∧ ∀ n ∈ ns, n.isCall := by
  cases h
  case confirmed => exact ⟨_, by rw [Store.observe_world]; rfl, fun n => Call.isCall_notices⟩
  case asked => exact ⟨_, by rw [Store.settle_world]; rfl, fun n => Call.isCall_notices⟩
  all_goals exact ⟨[], by simp, List.forall_mem_nil _⟩

theorem trace_looked (hs : s.facts = c.facts) (l : Link) :
    ∃ ns : List Notice, (c.looked l s).2.world.trace = s.world.trace ++ ns ∧ ∀ n ∈ ns, n.isCall := by
  refine (@looked_induction _ c s l (fun _ t => ∃ ns : List Notice,
    t.world.trace = s.world.trace ++ ns ∧ ∀ n ∈ ns, n.isCall) ?_ hs ⟨[], by simp, List.forall_mem_nil _⟩).1
  intro _ t t' _ _ _ _ h ⟨ns, ht, hn⟩
  have ⟨ms, ht', hm⟩ := h.trace
  exact ⟨ns ++ ms, by rw [ht', ht, List.append_assoc], fun n h => (List.mem_append.mp h).elim (hn n) (hm n)⟩

theorem resolve_symptoms (hs : s.facts = c.facts) :
    s.resolve Bindings.symptomsFact =
      (.ok s.world.memory.toJson, s.observe Bindings.symptomsFact (.ok s.world.memory.toJson)) := by
  rw [Store.resolve_of_uncached (by rw [hs, c.find?_facts_memory])]

theorem resolve_systemTypes (hs : s.facts = c.facts) :
    s.resolve Bindings.systemTypesFact =
      (.ok (.ofStrings c.systemTypes),
        s.observe Bindings.systemTypesFact (.ok (.ofStrings c.systemTypes))) := by
  rw [Store.resolve_of_constant (by rw [hs, c.find?_facts_systemTypes, Fact.constant])]

-- If the guard names system types, those are what is looked at next after the symptom.
theorem conditions_eq_cons_types (hv : c.settings.Valid) (hc : c.Counted) (hl : l ∈ c.knowledge.links)
    (ht : l.guard.systemTypes ≠ []) :
    ∃ later, c.conditions l = l.symptomCondition :: l.typesCondition :: later := by
  have ⟨later, hr⟩ : ∃ later, l.rule.conditions = l.symptomCondition :: l.typesCondition :: later :=
    ⟨_, by simp only [l.conditions_rule, Guard.conditions, if_neg ht]; rfl⟩
  have hp : ∀ d ∈ l.rule.conditions, c.facts.priorityOf d.fact ≤ c.settings.sessionFactPriority :=
    fun d hd => priorityOf_le hv hc (holder_ne_nobody hl hd)
  rw [hr] at hp
  have htp : c.facts.priorityOf l.typesCondition.fact = c.settings.sessionFactPriority := by
    simp [Facts.priorityOf, Link.typesCondition, find?_facts_systemTypes, Fact.constant]
  rw [conditions, Rule.ordered, hr, Ranking.sort_cons _ fun d hd => ?first,
    Ranking.sort_cons _ fun d hd => ?second]
  case first =>
    rw [Link.symptomCondition, priorityOf_symptomsFact]
    exact hp d (List.mem_cons_of_mem _ hd)
  case second =>
    rw [htp]
    exact hp d (List.mem_cons_of_mem _ (List.mem_cons_of_mem _ hd))
  exact ⟨_, rfl⟩

-- A rule whose symptom is not active is settled by that.
theorem looked_of_inactive (hv : c.settings.Valid) (hc : c.Counted) (hl : l ∈ c.knowledge.links)
    (hs : s.facts = c.facts) (hm : l.symptom.id ∉ s.world.memory) :
    (c.looked l s).1.map (fun d => d.1.check .session d.2) = [l.symptomCheck s.world.memory] ∧
    (c.looked l s).2.world = s.world := by
  have ⟨later, he⟩ := conditions_eq_cons hv hc hl
  have hf := mt Link.holds_symptomCondition_iff.mp hm
  rw [looked, he, ← Link.symptomCondition, Store.look, Link.symptomCondition, resolve_symptoms hs,
    ← Link.symptomCondition]
  dsimp only
  rw [if_neg hf]
  exact ⟨by rw [← l.check_symptom]; rfl, Store.observe_world⟩

-- One whose symptom is active but that is not for systems of these types is settled by both.
theorem looked_of_unsuited (hv : c.settings.Valid) (hc : c.Counted) (hl : l ∈ c.knowledge.links)
    (hs : s.facts = c.facts) (hm : l.symptom.id ∈ s.world.memory) (ht : ¬l.Suits c.systemTypes) :
    (c.looked l s).1.map (fun d => d.1.check .session d.2) =
      [l.symptomCheck s.world.memory, l.typesCheck c.systemTypes] ∧
    (c.looked l s).2.world = s.world := by
  have ⟨hn, hd⟩ := not_or.mp ht
  have ⟨later, he⟩ := conditions_eq_cons_types hv hc hl hn
  have hh := Link.holds_symptomCondition_iff.mpr hm
  have hf := mt Link.holds_typesCondition_iff.mp hd
  rw [looked, he, Store.look, Link.symptomCondition, resolve_symptoms hs, ← Link.symptomCondition]
  dsimp only
  rw [if_pos hh, Store.look, Link.typesCondition, resolve_systemTypes (Store.observe_facts.trans hs),
    ← Link.typesCondition]
  dsimp only
  rw [if_neg hf]
  exact ⟨by rw [← l.check_symptom, ← l.check_types]; rfl, by simp⟩

-- What is noted of the rule of a link, if some symptoms are active when it is evaluated. Nobody is
-- called unless the symptom is one of them and the guard lets the system's types pass.
structure Occasioned (c : Consultation υ) (l : Link) (active : List String) (e : Episode) : Prop where
  name : e.verdict.name = l.rule.name
  evaluation : ∀ n ∈ e.evaluation, n.isCall
  aftermath : ∀ n ∈ e.aftermath, ¬n.isCall
  cause : e.evaluation ≠ [] → l.symptom.id ∈ active ∧ l.Suits c.systemTypes
  inactive : l.symptom.id ∉ active → e.verdict.checks = [l.symptomCheck active]
  unsuited : l.symptom.id ∈ active → ¬l.Suits c.systemTypes →
    e.verdict.checks = [l.symptomCheck active, l.typesCheck c.systemTypes]

theorem occasioned_judge (hv : c.settings.Valid) (hc : c.Counted) (hl : l ∈ c.knowledge.links)
    (hs : s.facts = c.facts) (priority : Int64) :
    ∃ e : Episode, e.verdict = (c.judge l priority s).1 ∧ c.Occasioned l s.world.memory e ∧
      (c.hear l priority s).world.trace = s.world.trace ++ e.notices := by
  have ⟨evaluation, ht, he⟩ := trace_looked hs l
  have ⟨aftermath, ht', ha⟩ := World.trace_hear (c.judge l priority s).1 (c.judge l priority s).2.world
  have hi := fun hm => looked_of_inactive hv hc hl hs (hm : l.symptom.id ∉ s.world.memory)
  have hu := fun hm hn => looked_of_unsuited hv hc hl hs hm (hn : ¬l.Suits c.systemTypes)
  refine ⟨⟨evaluation, (c.judge l priority s).1, aftermath⟩, rfl, ⟨rfl, he, ha, fun hn => ?_,
    fun hm => (checks_judge hs).trans (hi hm).1, fun hm hn => (checks_judge hs).trans (hu hm hn).1⟩, ?_⟩
  case refine_1 =>
    have hw : (c.looked l s).2.world ≠ s.world := fun hw => hn (by simpa [hw] using ht)
    have hm : l.symptom.id ∈ s.world.memory := Decidable.not_not.mp fun hm => hw (hi hm).2
    exact ⟨hm, Decidable.not_not.mp fun hn => hw (hu hm hn).2⟩
  case refine_2 =>
    rw [hear, ht', judge_snd hs, ht, Episode.notices, List.append_assoc]

-- The notices of a session are told rule by rule, and each rule had the occasion that it needed.
structure Recounts (c : Consultation υ) (seed : List String) (verdicts : List Verdict)
    (trace : List Notice) (episodes : List Episode) : Prop where
  notices : trace = episodes.flatMap Episode.notices
  heard : episodes.map (·.verdict) = verdicts
  occasioned : ∀ (i : Nat) (l : Link) (e : Episode), c.knowledge.links[i]? = some l →
    episodes[i]? = some e → c.Occasioned l (Verdict.replayAll seed (verdicts.take i)) e

theorem Recounts.hear {done : List Verdict} {trace : List Notice} {episodes : List Episode} {e : Episode}
    (h : c.Recounts seed done trace episodes) (hl : c.knowledge.links[done.length]? = some l)
    (he : c.Occasioned l (Verdict.replayAll seed done) e) :
    c.Recounts seed (done ++ [e.verdict]) (trace ++ e.notices) (episodes ++ [e]) where
  notices := by simp [h.notices]
  heard := by simp [h.heard]
  occasioned := by
    intro i l' e' hi hd
    have hn : episodes.length = done.length := by rw [← h.heard, List.length_map]
    rcases getElem?_concat hd with ⟨hlt, hd⟩ | ⟨rfl, rfl⟩
    case inl =>
      rw [List.take_append_of_le_length (by omega)]
      exact h.occasioned i l' e' hi hd
    case inr =>
      rw [hn, hl] at hi
      cases hi
      rw [hn, List.take_left]
      exact he

-- Nobody is called for a rule without cause.
theorem run_occasioned (hv : c.settings.Valid) (hn : c.knowledge.Numbered) (seed : List String) (user : υ) :
    c.Ends seed user fun d w => ∃ episodes, episodes.length = c.knowledge.links.length ∧
      c.Recounts seed d.verdicts w.trace episodes := by
  refine .of_course hv hn fun hc => ?_
  have ⟨⟨_, episodes, he⟩, hl⟩ := @course_induction _ c
    (fun verdicts s => c.Replays seed verdicts s.world.firings s.world.memory ∧
      ∃ episodes, c.Recounts seed verdicts s.world.trace episodes) seed user
    (fun done s l priority hl hs ⟨hr, episodes, h⟩ => by
      have ⟨e, hd, ho, ht⟩ := occasioned_judge hv hc (List.mem_of_getElem? hl) hs priority
      rw [hr.memory] at ho
      exact ⟨replays_judge hv hc hl hs priority hr, episodes ++ [e], hd ▸ ht ▸ h.hear hl ho⟩)
    ⟨⟨fun _ _ _ _ h => (by simp at h), rfl, rfl⟩, [], rfl, rfl, fun _ _ _ _ h => (by simp at h)⟩
  exact ⟨episodes, by rw [← hl, ← he.heard, List.length_map], he⟩

theorem run_occasioned_water :
    ((water Nat.succ).settings.Valid ∧ (water Nat.succ).knowledge.Numbered ∧ (water Nat.succ).Counted) ∧
    ∃ d w, (water Nat.succ).run ["Symptom2"] 0 = .ok (.ok (d, w)) ∧ ∃ episodes, episodes.length = 3 ∧
      (water Nat.succ).Recounts ["Symptom2"] d.verdicts w.trace episodes := by
  have hv : (water Nat.succ).settings.Valid := by decide
  have hn : (water Nat.succ).knowledge.Numbered := by decide
  have hc : (water Nat.succ).Counted := by decide +kernel
  exact ⟨⟨hv, hn, hc⟩, (run_occasioned hv hn ["Symptom2"] 0).held hc⟩

end Consultation
end Troubleshoot
