import Troubleshoot.Proofs.Rule.View
import Troubleshoot.Proofs.Session.Opinion

namespace Troubleshoot

variable {υ : Type}

-- What a session has found so far.
def World.findings (w : World υ) : Memory × List Firing :=
  (w.memory, w.firings)

theorem World.findings_hear {v v' : Verdict} {w x : World υ} (hv : v.Agrees v') (h : w.findings = x.findings) :
    (hear v w).findings = (hear v' x).findings := by
  have hf : v.firing? = v'.firing? := Verdict.firing?_congr hv.name hv.result hv.event
  have hm : w.memory = x.memory := congrArg Prod.fst h
  have hs : w.firings = x.firings := congrArg Prod.snd h
  cases hw : v.firing?
  case none =>
    rw [hear_of_none hw, hear_of_none (hf ▸ hw)]
    exact h
  case some f =>
    rw [hear_of_some hw, hear_of_some (hf ▸ hw)]
    simp only [findings, hm, hs]

section Holds

variable {kb : KnowledgeBase} {r : Respondent υ} {o : Opinion} {id : String} {a : Answer}

-- Somebody who sticks to an opinion says the same whatever has been found, and finds nothing.
theorem Respondent.Provides.sees (ho : r.Holds o) {p : World υ → Reply × World υ} (hp : r.Provides id p)
    (w : World υ) : (p w).2.findings = w.findings ∧ ∀ x, (p w).1.outcome = (p x).1.outcome := by
  cases hp
  case fails => exact ⟨rfl, fun _ => rfl⟩
  case calls call react hr =>
    refine ⟨rfl, fun x => ?_⟩
    have ha : some (react w.user).1.answer = some (react x.user).1.answer := by
      have he := (ho call w.user).trans (ho call x.user).symm
      rwa [hr, hr] at he
    simp only [Reaction.reply, Option.some.inj ha]

theorem Binding.sees (ho : r.Holds o) (kb : KnowledgeBase) (id : String) (b : Binding) :
    (b.fact kb r id).Sees World.findings := by
  obtain ⟨kind, priority⟩ := b
  intro provider hp w
  cases kind
  case preset => cases hp
  case question =>
    cases hp
    exact ((Question.provides kb r id).sees ho w).imp_right fun he x _ => he x
  case confirmation s k =>
    cases hp
    exact ((Confirmation.provides r s k).sees ho w).imp_right fun he x _ => he x

theorem Respondent.Holds.exists_reply (ho : r.Holds o) {call : Call} (ha : o.answer? call = some a) (user : υ)
    (id : String) : ∃ reaction, r.react user call = some reaction ∧ (reaction.1.reply id).outcome = .ok a.toJson := by
  have hc := ho call user
  cases hr : r.react user call
  case none => simp [Opinion.answer?, ← hc, hr] at ha
  case some reaction =>
    rw [hr, Option.map_some] at hc
    simp only [Opinion.answer?, ← hc, Option.bind_some] at ha
    refine ⟨reaction, rfl, ?_⟩
    cases he : reaction.1.answer <;> simp_all [Reaction.reply, Except.toOption]

theorem Question.outcome_provider (ho : r.Holds o) {q : Question} (hq : kb.question? id = some q)
    (ha : o.answer? (.question q) = some a) (w : World υ) : (provider kb r id w).1.outcome = .ok a.toJson := by
  have ⟨reaction, hr, hv⟩ := ho.exists_reply ha w.user id
  have ⟨ask, hask, he⟩ := Option.map_eq_some_iff.mp hr
  rw [provider_eq_called hask hq, he, hv]

theorem Confirmation.outcome_provider (ho : r.Holds o) {s : Solution} {k : Confirmation}
    (ha : o.answer? (.confirmation s k) = some a) (w : World υ) : (provider r s k w).1.outcome = .ok a.toJson := by
  have ⟨reaction, hr, hv⟩ := ho.exists_reply ha w.user (k.factId s.id)
  have ⟨confirm, hconfirm, he⟩ := Option.map_eq_some_iff.mp hr
  rw [provider_eq_called hconfirm, he, hv]

end Holds

namespace Facts

variable {σ : Type}

-- Facts that give the same answers do so with more facts added to them.
theorem answer?_addAll {facts facts' : Facts σ} (h : ∀ w id, facts.answer? w id = facts'.answer? w id)
    (more : List (Fact σ)) (w : σ) (id : String) :
    (facts.addAll more).answer? w id = (facts'.addAll more).answer? w id := by
  induction more generalizing facts facts'
  case nil => exact h w id
  case cons f more ih =>
    refine @ih (facts.add f) (facts'.add f) fun w id => ?_
    have hw := h w id
    simp only [answer?, add, Table.find?_insert] at hw ⊢
    split
    · rfl
    · exact hw

end Facts

namespace Bindings

theorem answer?_preset (b : Bindings υ) (id : String) (value : Json) (w : World υ) (i : String) :
    (b.preset id value).facts.answer? w i = if i = id then some (.ok value) else b.facts.answer? w i := by
  rw [Prepared.facts_preset, Facts.answer?, Table.find?_insert]
  split <;> rfl

-- To bind what would be answered anyway changes no answer.
theorem answer?_enterAll {more : List (String × Json)} {b : Bindings υ}
    (h : ∀ e ∈ more, ∀ w, b.facts.answer? w e.1 = some (.ok e.2)) (w : World υ) (id : String) :
    (b.enterAll (more.map fun (id, value) => .preset id value)).facts.answer? w id = b.facts.answer? w id := by
  induction more generalizing b
  case nil => rfl
  case cons e more ih =>
    have ⟨he, hm⟩ := List.forall_mem_cons.mp h
    have hp (w : World υ) (i : String) : (b.preset e.1 e.2).facts.answer? w i = b.facts.answer? w i := by
      rw [answer?_preset]
      split
      case isTrue hi => rw [hi, he]
      case isFalse => rfl
    have hr := @ih (b.preset e.1 e.2) fun d hd w => (hp w d.1).trans (hm d hd w)
    exact hr.trans (hp w id)

end Bindings

namespace Consultation

variable {c : Consultation υ} {o : Opinion} {more : List (String × Json)} {id : String} {value : Json}

-- The answer that the callback of a bound question or confirmation would give.
def foreseen? (c : Consultation υ) (o : Opinion) (id : String) : Option Json :=
  match c.bindings.kind? id with
  | some .question => ((c.knowledge.question? id).bind fun q => o.answer? (.question q)).map Answer.toJson
  | some (.confirmation s k) => (o.answer? (.confirmation s k)).map Answer.toJson
  | _ => none

-- The same consultation with more answers given beforehand.
def informed (c : Consultation υ) (more : List (String × Json)) : Consultation υ :=
  { c with presets := c.presets ++ more }

theorem answer?_of_foreseen (ho : c.respondent.Holds o) (h : c.foreseen? o id = some value) (w : World υ) :
    c.bindings.facts.answer? w id = some (.ok value) := by
  have ⟨hk, hr, _⟩ := c.bindings_keeps
  rw [Facts.answer?, Bindings.find?_facts, Bindings.fact?, hk, hr]
  simp only [foreseen?, Bindings.kind?] at h
  cases hb : c.bindings.table.find? id
  case none => simp [hb] at h
  case some b =>
    obtain ⟨kind, priority⟩ := b
    simp only [hb, Option.map_some] at h
    cases kind
    case preset => cases h
    case question =>
      obtain ⟨a, ha, hv⟩ := Option.map_eq_some_iff.mp h
      obtain ⟨q, hq, ha⟩ := Option.bind_eq_some_iff.mp ha
      exact congrArg some (hv ▸ Question.outcome_provider ho hq ha w)
    case confirmation s k =>
      obtain ⟨a, ha, hv⟩ := Option.map_eq_some_iff.mp h
      exact congrArg some (hv ▸ Confirmation.outcome_provider ho ha w)

-- No fact is answered in another way if answers are given beforehand that would be given anyway.
theorem answer?_informed (ho : c.respondent.Holds o) (hm : ∀ e ∈ more, c.foreseen? o e.1 = some e.2)
    (w : World υ) (id : String) : (c.informed more).facts.answer? w id = c.facts.answer? w id := by
  have hb : (c.informed more).bindings =
      c.bindings.enterAll (more.map fun (id, value) => .preset id value) := by
    simp [bindings, informed, registrations, Bindings.enterAll, List.foldl_append]
  have hs : (c.informed more).bindings.sessionFacts c.systemTypes = c.bindings.sessionFacts c.systemTypes := by
    rw [Bindings.sessionFacts, Bindings.sessionFacts, (c.informed more).bindings_keeps.2.2, c.bindings_keeps.2.2]
    rfl
  have ht : (c.informed more).systemTypes = c.systemTypes := rfl
  rw [facts, facts, ht, hs]
  refine Facts.answer?_addAll (fun w id => ?_) _ w id
  rw [hb]
  exact Bindings.answer?_enterAll (fun e he w => answer?_of_foreseen ho (hm e he) w) w id

theorem sees_facts (ho : c.respondent.Holds o) : c.facts.Sees World.findings := by
  have hb : c.bindings.facts.Sees World.findings := by
    intro id f hf
    rw [Bindings.find?_facts] at hf
    obtain ⟨b, _, rfl⟩ := Option.map_eq_some_iff.mp hf
    exact b.sees (c.bindings_keeps.2.1 ▸ ho) _ id
  have hm : Fact.Sees World.findings (⟨Bindings.symptomsFact,
      .provider fun w => (⟨.ok w.memory.toJson, 0⟩, w), false, c.bindings.sessionPriority⟩ : Fact (World υ)) := by
    intro provider hp w
    cases hp
    refine ⟨rfl, fun x hv => ?_⟩
    cases hv
    case inl hv =>
      have hm : w.memory = x.memory := congrArg Prod.fst hv
      simp only [hm]
    case inr hv => cases hv
  exact (hb.add hm).add nofun

theorem session_informed (ho : c.respondent.Holds o) (hm : ∀ e ∈ more, c.foreseen? o e.1 = some e.2)
    (seed : List String) (user user' : υ) :
    List.Forall₂ Verdict.Agrees (c.session seed user).1 ((c.informed more).session seed user').1 ∧
    (c.session seed user).2.world.findings = ((c.informed more).session seed user').2.world.findings := by
  have hf : c.facts.Sees World.findings := sees_facts ho
  have hf' : (c.informed more).facts.Sees World.findings := sees_facts ho
  have hs : (c.start seed user).Shows World.findings c.facts c.settings.allowUndefinedFacts
      (c.start seed user).world [] [] := .start ..
  have hs' : ((c.informed more).start seed user').Shows World.findings (c.informed more).facts
      c.settings.allowUndefinedFacts ((c.informed more).start seed user').world [] [] := .start ..
  have hv : (c.start seed user).world.findings = ((c.informed more).start seed user').world.findings := by
    simp only [start, Store.start, World.start, World.findings]
  have ha (w : World υ) (id : String) : c.facts.answer? w id = (c.informed more).facts.answer? w id :=
    (answer?_informed ho hm w id).symm
  have ho : c.ruleSet.operators = (c.informed more).ruleSet.operators := rfl
  exact RuleSet.runGroups_agrees hf hf' ha ho (fun _ _ _ _ hv hw => World.findings_hear hv hw)
    (Store.idle_start _ _ _) (Store.idle_start _ _ _) hs hs' hv _

-- To answer beforehand what would be answered anyway changes nothing about what a session comes to.
theorem run_informed (h : c.settings.Valid) (ho : c.respondent.Holds o)
    (hm : ∀ e ∈ more, c.foreseen? o e.1 = some e.2) (seed : List String) (user user' : υ) :
    c.Ends seed user fun d _ => ∃ d' w', (c.informed more).run seed user' = .ok (.ok (d', w')) ∧
      d.firings = d'.firings ∧ d.activeSymptoms = d'.activeSymptoms ∧
      d.verdicts.map (fun v => (v.name, v.result)) = d'.verdicts.map fun v => (v.name, v.result) := by
  refine .of_prepared h fun hc => ?_
  have hl := counted_iff.mp hc
  have hc' : (c.informed more).Counted := counted_iff.mpr hl
  have ⟨hv, hw⟩ := session_informed ho hm seed user user'
  have hfirings : (c.session seed user).2.world.firings = ((c.informed more).session seed user').2.world.firings :=
    congrArg Prod.snd hw
  have hmemory : (c.session seed user).2.world.memory = ((c.informed more).session seed user').2.world.memory :=
    congrArg Prod.fst hw
  have hresults := map_eq_of_forall₂ (fun _ _ h => congr (congrArg Prod.mk h.name) h.result) hv
  rw [run_prepared_eq_session]
  exact ⟨_, _, @run_eq_session _ (c.informed more) h hc' seed user', hfirings, hmemory, hresults⟩

-- Nobody has to be asked for the filters, or whether they can be changed.
theorem run_informed_water :
    let o : Opinion
      | .question q => some (if q.id = "Question1" then .ok .yes else .error "no thermometer")
      | .confirmation _ _ => some (.ok .yes)
    let more : List (String × Json) := [("Question1", .string "yes"), ("Solution1:able", .string "yes")]
    ((water Nat.succ).settings.Valid ∧ (water Nat.succ).respondent.Holds o ∧
      ∀ e ∈ more, (water Nat.succ).foreseen? o e.1 = some e.2) ∧
    ∃ d w, (water Nat.succ).run ["Symptom1"] 0 = .ok (.ok (d, w)) ∧ ∃ d' w',
      ((water Nat.succ).informed more).run ["Symptom1"] 0 = .ok (.ok (d', w')) ∧
      d.firings = d'.firings ∧ d.activeSymptoms = d'.activeSymptoms ∧
      d.verdicts.map (fun v => (v.name, v.result)) = d'.verdicts.map fun v => (v.name, v.result) := by
  intro o more
  have h : (water Nat.succ).settings.Valid := by decide
  have ho : (water Nat.succ).respondent.Holds o := by
    intro call user
    cases call <;> rfl
  have hq : (water Nat.succ).foreseen? o "Question1" = some (.string "yes") := by
    rw [foreseen?, kind?_bindings]
    rfl
  have hk : (water Nat.succ).foreseen? o "Solution1:able" = some (.string "yes") := by
    rw [foreseen?, kind?_bindings]
    rfl
  have hm : ∀ e ∈ more, (water Nat.succ).foreseen? o e.1 = some e.2 := by
    intro e he
    have he : e = ("Question1", .string "yes") ∨ e = ("Solution1:able", .string "yes") := by simpa [more] using he
    rcases he with rfl | rfl
    · exact hq
    · exact hk
  exact ⟨⟨h, ho, hm⟩, (run_informed h ho hm ["Symptom1"] 0 0).held (by decide +kernel)⟩

end Consultation
end Troubleshoot
