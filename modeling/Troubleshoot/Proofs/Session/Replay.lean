import Troubleshoot.Proofs.Session.Priority

namespace Troubleshoot

variable {υ : Type}

namespace Verdict

-- What a verdict does to the active symptoms, read off its event alone.
def replay (v : Verdict) (m : List String) : List String :=
  if v.result then
    match v.event.type, v.event.param? "symptomId", v.event.param? "causeId" with
    | "solved", some symptom, _ => m.filter (· ≠ symptom)
    | "addSymptom", _, some cause => if cause ∈ m then m else m ++ [cause]
    | _, _, _ => m
  else m

def replayAll (m : List String) (verdicts : List Verdict) : List String :=
  verdicts.foldl (fun m v => v.replay m) m

theorem replay_of_link {v : Verdict} {l : Link} (he : v.event = l.rule.event) (m : List String) :
    v.replay m = if v.result then (l.firing.apply m).1 else m := by
  have hs := @Table.find?_insert Json
  simp only [replay]
  rw [he]
  cases l
  case candidate s c k =>
    cases hd : k.askDidItWork <;>
      simp [Link.rule, Rule.ofCandidate, Solution.event, Event.param?, Table.ofList, hs, Json.string?,
        Solution.effect, hd, Effect.name, Link.firing, Firing.apply, Memory.solve]
  case cause s c root =>
    by_cases hm : root.id ∈ m <;>
      simp [Link.rule, Rule.ofCause, Symptom.causeEvent, Event.param?, Table.ofList, hs, Json.string?,
        Effect.name, Link.firing, Firing.apply, Memory.add, hm]

end Verdict

namespace Link

-- The check that the symptom of a link is among those that are active.
def symptomCheck (l : Link) (m : List String) : Check where
  fact := "symptoms"
  operator := "contains"
  value := .string l.symptom.id
  factValue := some (.ofStrings m)
  result := l.symptom.id ∈ m

theorem check_symptom (l : Link) (m : Memory) :
    (⟨Bindings.symptomsFact, "contains", .string l.symptom.id⟩ : Condition).check .session
      (.ok m.toJson) = l.symptomCheck m := by
  have hr := Bool.eq_iff_iff.mpr ((@Condition.holds_contains_iff Bindings.symptomsFact l.symptom.id m).trans
    (decide_eq_true_iff (p := l.symptom.id ∈ m)).symm)
  simp only [Condition.check, Memory.toJson, hr]
  rfl

end Link

namespace Consultation

variable {c : Consultation υ} {s : Store (World υ)} {l : Link} {seed : List String}

-- What the verdicts on the first links have to be, if the memory is what they make of the seed.
structure Replays (c : Consultation υ) (seed : List String) (verdicts : List Verdict)
    (firings : List Firing) (memory : List String) : Prop where
  check : ∀ (i : Nat) (l : Link) (v : Verdict), c.knowledge.links[i]? = some l → verdicts[i]? = some v →
    v.name = l.rule.name ∧ v.event = l.rule.event ∧
    v.checks.head? = some (l.symptomCheck (Verdict.replayAll seed (verdicts.take i)))
  firings : (verdicts.filter (·.result)).map (fun v => Firing.ofEvent? v.event v.name) = firings.map some
  memory : memory = Verdict.replayAll seed verdicts

theorem head?_checks (hv : c.settings.Valid) (hc : c.Counted) (hl : l ∈ c.knowledge.links)
    (hs : s.facts = c.facts) (priority : Int64) :
    (c.judge l priority s).1.checks.head? = some (l.symptomCheck s.world.memory) := by
  have ⟨later, he⟩ := conditions_eq_cons hv hc hl
  have hr : (s.resolve Bindings.symptomsFact).1 = .ok s.world.memory.toJson := by
    rw [Store.resolve_of_uncached (by rw [hs, c.find?_facts_memory])]
  rw [checks_judge hs, looked, he, Store.look]
  dsimp only
  rw [hr, ← l.check_symptom]
  split <;> rfl

theorem replays_judge (hv : c.settings.Valid) (hc : c.Counted) {done : List Verdict}
    (hl : c.knowledge.links[done.length]? = some l) (hs : s.facts = c.facts) (priority : Int64)
    (h : c.Replays seed done s.world.firings s.world.memory) :
    c.Replays seed (done ++ [(c.judge l priority s).1]) (c.hear l priority s).world.firings
      (c.hear l priority s).world.memory where
  check := by
    intro i l' v hi hd
    rcases getElem?_concat hd with ⟨hlt, hd⟩ | ⟨rfl, rfl⟩
    case inl =>
      rw [List.take_append_of_le_length (Nat.le_of_lt hlt)]
      exact h.check i l' v hi hd
    case inr =>
      cases hl.symm.trans hi
      refine ⟨rfl, rfl, ?_⟩
      rw [head?_checks hv hc (List.mem_of_getElem? hl) hs, List.take_left, h.memory]
  firings := by
    have hf := (c.hears l priority s).firings
    rw [judge_snd hs, (looked_keeps hs).2] at hf
    have he : Firing.ofEvent? (c.judge l priority s).1.event (c.judge l priority s).1.name = some l.firing :=
      l.ofEvent?_rule
    rw [hf, List.filter_append, List.map_append, h.firings, List.map_append]
    cases hr : (c.judge l priority s).1.result <;> simp [hr, he]
  memory := by
    have hm := (c.hears l priority s).memory
    rw [judge_snd hs, (looked_keeps hs).1] at hm
    rw [hm, Verdict.replayAll, List.foldl_append, List.foldl_cons, List.foldl_nil,
      Verdict.replay_of_link (l := l) rfl, ← Verdict.replayAll, ← h.memory]

theorem run_replays (hv : c.settings.Valid) (hn : c.knowledge.Numbered) (seed : List String) (user : υ) :
    c.Ends seed user fun d _ => d.verdicts.length = c.knowledge.links.length ∧
      c.Replays seed d.verdicts d.firings d.activeSymptoms := by
  refine .of_course hv hn fun hc => ?_
  have ⟨hp, hl⟩ := @course_induction _ c
    (fun verdicts s => c.Replays seed verdicts s.world.firings s.world.memory) seed user
    (fun done s l priority hl hs h => replays_judge hv hc hl hs priority h)
    ⟨fun _ _ _ _ h => (by simp at h), rfl, rfl⟩
  exact ⟨hl, hp⟩

theorem run_replays_water :
    ((water Nat.succ).settings.Valid ∧ (water Nat.succ).knowledge.Numbered ∧ (water Nat.succ).Counted) ∧
    ∃ d w, (water Nat.succ).run ["Symptom1"] 0 = .ok (.ok (d, w)) ∧ d.verdicts.length = 3 ∧
      (water Nat.succ).Replays ["Symptom1"] d.verdicts d.firings d.activeSymptoms := by
  have hv : (water Nat.succ).settings.Valid := by decide
  have hn : (water Nat.succ).knowledge.Numbered := by decide
  have hc : (water Nat.succ).Counted := by decide +kernel
  exact ⟨⟨hv, hn, hc⟩, (run_replays hv hn ["Symptom1"] 0).held hc⟩

end Consultation
end Troubleshoot
