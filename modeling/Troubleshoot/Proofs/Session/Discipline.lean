import Troubleshoot.Proofs.Rule.Crews
import Troubleshoot.Proofs.Session.Agreement

namespace Troubleshoot.Consultation

variable {υ υ' : Type} {c : Consultation υ}

-- The crews that evaluate the rules of a session.
def crews (c : Consultation υ) (symptoms : List String) (user : υ) : List (Crew (World υ)) :=
  c.ruleSet.runCrews (c.bindings.sessionFacts c.systemTypes) World.hear (.start user symptoms)

-- How the respondent is treated in a session.
structure Disciplined (c : Consultation υ) (symptoms : List String) (user : υ) (d : Diagnosis)
    (w : World υ) : Prop where
  asked_once : (w.calls.filterMap Call.questionId?).Nodup
  same_outcome : ∀ id, c.holder id = .question →
    ∃ outcome, ∀ v ∈ d.verdicts, ∀ check ∈ v.checks, check.fact = id → v.Says check outcome
  confirmed_each_time : c.respondent.confirmation.isSome →
    w.calls.filterMap Call.confirmation? =
      (d.verdicts.flatMap Verdict.asked).filterMap fun id => (c.holder id).confirmation?
  in_order : w.calls = c.callsFor [] (d.verdicts.flatMap Verdict.asked)
  user_after : w.user = c.respondent.after w.calls user
  one_at_a_time : ∀ crew ∈ c.crews symptoms user, crew.OneAtATime

theorem course_disciplined (hn : c.knowledge.Numbered) (symptoms : List String) (user : υ) :
    c.Disciplined symptoms user (c.diagnosis symptoms user) (c.course symptoms user).2.world := by
  have ⟨hr, hs⟩ := c.course_recorded symptoms user
  constructor
  case asked_once =>
    rw [hr.calls]
    exact (nodup_callsFor _ []).1
  case same_outcome =>
    intro id hh
    refine ⟨((c.course symptoms user).2.settled? id).getD (.ok .null), fun v hv d hd he => ?_⟩
    subst he
    have ⟨o, ho, hs⟩ := hs v hv d hd hh
    rw [ho]
    exact hs
  case confirmed_each_time =>
    intro hc
    rw [hr.calls]
    exact confirmations_callsFor hc _ []
  case in_order => exact hr.calls
  case user_after => exact hr.user
  case one_at_a_time => exact RuleSet.runCrews_of_falling (KnowledgeBase.rules_falling hn) _ _ _

theorem run_disciplined (hv : c.settings.Valid) (hn : c.knowledge.Numbered) (symptoms : List String)
    (user : υ) :
    c.Ends symptoms user fun d w => c.Disciplined symptoms user d w ∧
      ∀ (υ' : Type) (r' : Respondent υ') (user' : υ'), c.respondent.Agrees user r' user' →
        ∃ w', (c.ask r').run symptoms user' = .ok (.ok (d, w')) ∧ w'.trace = w.trace := by
  refine .of_course hv hn fun hc => ⟨course_disciplined hn symptoms user, fun υ' r' user' h => ?_⟩
  have hw := (course_alike h symptoms).2.world
  refine ⟨((c.ask r').course symptoms user').2.world, ?_, hw.trace.symm⟩
  rw [diagnosis_ask h]
  exact @run_eq_course _ (c.ask r') hv hn hc symptoms user'

theorem run_disciplined_water :
    ((water Nat.succ).settings.Valid ∧ (water Nat.succ).knowledge.Numbered) ∧
    ∃ d w, (water Nat.succ).run ["Symptom1"] 0 = .ok (.ok (d, w)) ∧ (water Nat.succ).Disciplined ["Symptom1"] 0 d w ∧
      ∃ w', (water fun _ => 3).run ["Symptom1"] 0 = .ok (.ok (d, w')) ∧ w'.trace = w.trace := by
  have hv : (water Nat.succ).settings.Valid := by decide
  have hn : (water Nat.succ).knowledge.Numbered := by decide
  have ha : (Respondent.counting Nat.succ).Agrees 0 (.counting fun _ => 3) 0 := by
    intro calls call
    cases call <;> rfl
  have ⟨d, w, hr, hd, hw⟩ := (run_disciplined hv hn ["Symptom1"] 0).held (by decide +kernel)
  exact ⟨⟨hv, hn⟩, d, w, hr, hd, hw Nat (.counting fun _ => 3) 0 ha⟩

end Troubleshoot.Consultation
