import Mathlib.Data.List.Chain
import Troubleshoot.Proofs.Session.Agreement
import Troubleshoot.Proofs.Session.Deliberation

namespace Troubleshoot

variable {υ : Type}

namespace Notice

-- The call that the notice announces.
def announced? : Notice → Option Call
  | question q => some (.question q)
  | confirmation s k => some (.confirmation s k)
  | _ => none

def verdict? : Notice → Option Verdict
  | verdict v => some v
  | _ => none

def memory? : Notice → Option Memory
  | memoryChanged m => some m
  | _ => none

def firing? : Notice → Option Firing
  | firing f => some f
  | _ => none

theorem eq_none_of_isCall {n : Notice} (h : n.isCall) : n.verdict? = none ∧ n.memory? = none ∧ n.firing? = none := by
  cases n
  case verdict | memoryChanged | firing => cases h
  all_goals exact ⟨rfl, rfl, rfl⟩

end Notice

-- Each call is announced right before it is made.
def Exchange.notices (x : Exchange) : List Notice :=
  x.1.notices x.2

-- A firing that really changes the memory either removes its symptom, with all copies, or adds its cause.
inductive Firing.Changes (f : Firing) (m : Memory) : Memory → Prop
  | solved (he : f.effect = .solved) (hm : f.symptomId ∈ m) : Changes f m (m.filter (· ≠ f.symptomId))
  | added {cause : String} (he : f.effect = .addSymptom) (hc : f.causeId = some cause) (hm : cause ∉ m) :
    Changes f m (m ++ [cause])

namespace Firing

variable {f : Firing} {m m' : Memory}

theorem Changes.apply_eq (h : f.Changes m m') : f.apply m = (m', true) := by
  cases h
  case solved he hm => simp [apply, he, Memory.solve, hm]
  case added he hc hm => simp [apply, he, hc, Memory.add, hm]

theorem changes_of_apply (h : (f.apply m).2) : f.Changes m (f.apply m).1 := by
  cases he : f.effect
  case solved =>
    have ha : f.apply m = m.solve f.symptomId := by simp only [apply, he]
    rw [ha] at h ⊢
    rw [Memory.solve_changed] at h
    exact .solved he (List.contains_iff_mem.mp h)
  case addSymptom =>
    cases hc : f.causeId
    case none => simp [apply, he, hc] at h
    case some cause =>
      have ha : f.apply m = m.add cause := by simp only [apply, he, hc]
      by_cases hm : cause ∈ m
      case pos => simp [ha, Memory.add, hm] at h
      case neg =>
        have hn : m.add cause = (m ++ [cause], true) := by simp [Memory.add, hm]
        rw [ha, hn]
        exact .added he hc hm
  case deferred => simp [apply, he] at h

theorem apply_changed_iff : (f.apply m).2 ↔ (f.apply m).1 ≠ m := by
  cases he : f.effect <;> cases hc : f.causeId <;>
    simp only [apply, he, hc, Memory.solve_changed_iff, Memory.add_changed_iff, ne_eq, not_true, Bool.false_eq_true]

-- So the memory is really another one.
theorem exists_changes_iff : (∃ m', f.Changes m m') ↔ (f.apply m).1 ≠ m := by
  refine ⟨fun ⟨m', h⟩ => apply_changed_iff.mp ?_, fun h => ⟨_, changes_of_apply (apply_changed_iff.mpr h)⟩⟩
  rw [h.apply_eq]

end Firing

namespace Exchange

-- Who only looks at what is no call sees nothing of exchanges.
theorem filterMap_notices {α : Type} {p : Notice → Option α} (hp : ∀ n, n.isCall → p n = none)
    (exchanges : List Exchange) : (exchanges.flatMap notices).filterMap p = [] := by
  refine List.filterMap_eq_nil_iff.mpr fun n hn => ?_
  have ⟨_, _, hn⟩ := List.mem_flatMap.mp hn
  exact hp n (Call.isCall_notices hn)

theorem exchange?_notices (exchanges : List Exchange) :
    (exchanges.flatMap notices).filterMap Notice.exchange? = exchanges := by
  rw [List.filterMap_flatMap]
  simp only [notices, Call.exchange?_notices, Prod.mk.eta, List.flatMap_singleton']

theorem announced?_notices (exchanges : List Exchange) :
    (exchanges.flatMap notices).filterMap Notice.announced? = exchanges.map Prod.fst := by
  have hn (x : Exchange) : x.notices.filterMap Notice.announced? = [x.1] := by
    obtain ⟨call, answer⟩ := x
    cases call <;> rfl
  rw [List.filterMap_flatMap]
  simp only [hn, List.map_eq_flatMap]

end Exchange

-- What the verdict of an episode did to the memory, and how that was noted: if it changed, what it
-- changed to is noted before the firing.
inductive Episode.Leads (e : Episode) (m : Memory) : Memory → Prop
  | unmatched (hr : ¬e.verdict.result) (ha : e.aftermath = []) : Leads e m m
  | idle {f : Firing} (hf : e.verdict.firing? = some f) (hm : ∀ m', ¬f.Changes m m')
    (ha : e.aftermath = [.firing f]) : Leads e m m
  | changed {f : Firing} {m' : Memory} (hf : e.verdict.firing? = some f) (hm : f.Changes m m')
    (ha : e.aftermath = [.memoryChanged m', .firing f]) : Leads e m m'

namespace Consultation

-- The episode of a link's rule: its calls are those that the verdict asked for, less the questions that
-- were asked before, and are noted one after the other.
structure Chapter (c : Consultation υ) (l : Link) (seen : List String) (m : Memory) (e : Episode) (m' : Memory) :
    Prop where
  name : e.verdict.name = l.rule.name
  event : e.verdict.event = l.rule.event
  evaluation : ∃ exchanges : List Exchange, e.evaluation = exchanges.flatMap Exchange.notices ∧
    exchanges.map Prod.fst = c.callsFor seen e.verdict.asked
  leads : e.Leads m m'

-- The episodes of the first rules of a session, from the seed to the memory after them.
inductive Chronicle (c : Consultation υ) (seed : Memory) : List Link → List Episode → Memory → Prop
  | start : Chronicle c seed [] [] seed
  | next {links : List Link} {episodes : List Episode} {m m' : Memory} {l : Link} {e : Episode}
    (h : Chronicle c seed links episodes m) (he : c.Chapter l (episodes.flatMap (·.verdict.asked)) m e m') :
    Chronicle c seed (links ++ [l]) (episodes ++ [e]) m'

variable {c : Consultation υ} {l : Link} {seen : List String} {seed m m' : Memory} {e : Episode}

namespace Chapter

-- Who does not look at calls sees the verdict and what it led to.
theorem filterMap_notices {α : Type} {p : Notice → Option α} (hp : ∀ n, n.isCall → p n = none)
    (h : c.Chapter l seen m e m') :
    e.notices.filterMap p = (p (.verdict e.verdict)).toList ++ e.aftermath.filterMap p := by
  obtain ⟨exchanges, he, _⟩ := h.evaluation
  rw [Episode.notices, List.filterMap_append, he, Exchange.filterMap_notices hp, List.nil_append]
  cases hv : p (.verdict e.verdict) <;> simp [hv]

theorem verdict?_notices (h : c.Chapter l seen m e m') : e.notices.filterMap Notice.verdict? = [e.verdict] := by
  rw [h.filterMap_notices fun _ hn => (Notice.eq_none_of_isCall hn).1]
  cases h.leads
  case unmatched ha => rw [ha]; rfl
  case idle ha => rw [ha]; rfl
  case changed ha => rw [ha]; rfl

theorem firing?_notices (h : c.Chapter l seen m e m') :
    e.notices.filterMap Notice.firing? = e.verdict.firing?.toList := by
  rw [h.filterMap_notices fun _ hn => (Notice.eq_none_of_isCall hn).2.2]
  cases h.leads
  case unmatched hr ha => rw [ha, Verdict.firing?, if_neg hr]; rfl
  case idle hf _ ha => rw [ha, hf]; rfl
  case changed hf _ ha => rw [ha, hf]; rfl

-- Either no memory is noted and it stays as it is, or that which the firing changed it to.
theorem memory?_notices (h : c.Chapter l seen m e m') :
    (e.notices.filterMap Notice.memory? = [] ∧ m' = m) ∨
    ∃ f, e.verdict.firing? = some f ∧ f.Changes m m' ∧ e.notices.filterMap Notice.memory? = [m'] := by
  rw [h.filterMap_notices fun _ hn => (Notice.eq_none_of_isCall hn).2.1]
  cases h.leads
  case unmatched ha => exact .inl ⟨by rw [ha]; rfl, rfl⟩
  case idle ha => exact .inl ⟨by rw [ha]; rfl, rfl⟩
  case changed hf hm ha => exact .inr ⟨_, hf, hm, by rw [ha]; rfl⟩

-- What is announced are the calls that are made.
theorem announced?_notices (h : c.Chapter l seen m e m') :
    e.notices.filterMap Notice.announced? = (e.notices.filterMap Notice.exchange?).map Prod.fst := by
  obtain ⟨exchanges, he, _⟩ := h.evaluation
  have ha : (Notice.verdict e.verdict :: e.aftermath).filterMap Notice.announced? = [] ∧
      (Notice.verdict e.verdict :: e.aftermath).filterMap Notice.exchange? = [] := by
    cases h.leads
    case unmatched ha => rw [ha]; exact ⟨rfl, rfl⟩
    case idle ha => rw [ha]; exact ⟨rfl, rfl⟩
    case changed ha => rw [ha]; exact ⟨rfl, rfl⟩
  rw [Episode.notices, List.filterMap_append, List.filterMap_append, ha.1, ha.2, he,
    Exchange.announced?_notices, Exchange.exchange?_notices, List.append_nil, List.append_nil]

end Chapter

namespace Chronicle

variable {links : List Link} {episodes : List Episode}

theorem names (h : c.Chronicle seed links episodes m) :
    episodes.map (·.verdict.name) = links.map (·.rule.name) := by
  induction h
  case start => rfl
  case next he ih => rw [List.map_append, List.map_append, ih, List.map_singleton, he.name, List.map_singleton]

theorem verdicts (h : c.Chronicle seed links episodes m) :
    (episodes.flatMap Episode.notices).filterMap Notice.verdict? = episodes.map (·.verdict) := by
  induction h
  case start => rfl
  case next he ih =>
    rw [List.flatMap_append, List.filterMap_append, List.flatMap_singleton, ih, he.verdict?_notices,
      List.map_append, List.map_singleton]

theorem firings (h : c.Chronicle seed links episodes m) :
    (episodes.flatMap Episode.notices).filterMap Notice.firing? = episodes.filterMap (·.verdict.firing?) := by
  induction h
  case start => rfl
  case next e _ he ih =>
    rw [List.flatMap_append, List.filterMap_append, List.flatMap_singleton, ih, he.firing?_notices,
      List.filterMap_append]
    cases hf : e.verdict.firing? <;> simp [hf]

theorem announced (h : c.Chronicle seed links episodes m) :
    (episodes.flatMap Episode.notices).filterMap Notice.announced? =
      ((episodes.flatMap Episode.notices).filterMap Notice.exchange?).map Prod.fst := by
  induction h
  case start => rfl
  case next he ih =>
    rw [List.flatMap_append, List.filterMap_append, List.filterMap_append, List.map_append,
      List.flatMap_singleton, ih, he.announced?_notices]

-- The memories that are noted, with the seed before them, lead up to the last one, and each is what some
-- firing made of the one before.
theorem memories (h : c.Chronicle seed links episodes m) :
    (seed :: (episodes.flatMap Episode.notices).filterMap Notice.memory?).getLast? = some m ∧
    (seed :: (episodes.flatMap Episode.notices).filterMap Notice.memory?).IsChain fun a b =>
      ∃ f ∈ episodes.filterMap (·.verdict.firing?), f.Changes a b := by
  induction h
  case start => exact ⟨rfl, .singleton seed⟩
  case next episodes m _ _ e _ he ih =>
    let steps (es : List Episode) (a b : Memory) : Prop := ∃ f ∈ es.filterMap (·.verdict.firing?), f.Changes a b
    have later (a b : Memory) : steps episodes a b → steps (episodes ++ [e]) a b := fun ⟨f, hf, hm⟩ =>
      ⟨f, by rw [List.filterMap_append]; exact List.mem_append_left _ hf, hm⟩
    have hl := ih.1
    have hc := ih.2.imp later
    rw [List.flatMap_append, List.filterMap_append, List.flatMap_singleton, ← List.cons_append]
    rcases he.memory?_notices with ⟨hn, hm⟩ | ⟨f, hf, hm, hn⟩
    case inl =>
      rw [hn, List.append_nil, hm]
      exact ⟨hl, hc⟩
    case inr =>
      rw [hn]
      refine ⟨List.getLast?_concat .., hc.append (.singleton _) fun a ha b hb => ?_⟩
      cases hl.symm.trans ha
      cases hb
      exact ⟨f, List.mem_filterMap.mpr ⟨e, List.mem_append_right _ (List.mem_singleton_self e), hf⟩, hm⟩

end Chronicle
end Consultation

namespace World

variable {w : World υ} {v : Verdict}

-- Hearing a verdict has the effect of its firing on the memory, and notes it.
theorem leads_hear (hf : v.result → v.firing?.isSome) (evaluation : List Notice) (w : World υ) :
    ∃ e : Episode, e.evaluation = evaluation ∧ e.verdict = v ∧ e.Leads w.memory (hear v w).memory ∧
      (hear v w).trace = w.trace ++ .verdict v :: e.aftermath := by
  cases hv : v.firing?
  case none =>
    have hr : ¬v.result := fun hr => by simpa [hv] using hf hr
    rw [hear_of_none hv]
    exact ⟨⟨evaluation, v, []⟩, rfl, rfl, .unmatched hr rfl, rfl⟩
  case some f =>
    rw [hear_of_some hv]
    refine ⟨⟨evaluation, v, f.notices w.memory⟩, rfl, rfl, ?_, rfl⟩
    by_cases hc : (f.apply w.memory).2
    case pos => exact .changed hv (Firing.changes_of_apply hc) (by rw [Firing.notices, if_pos hc]; rfl)
    case neg =>
      have hm : (f.apply w.memory).1 = w.memory := Decidable.not_not.mp (mt Firing.apply_changed_iff.mpr hc)
      rw [hm]
      exact .idle hv (fun m' h => Firing.exists_changes_iff.mp ⟨m', h⟩ hm) (by rw [Firing.notices, if_neg hc]; rfl)

theorem firings_hear (v : Verdict) (w : World υ) : (hear v w).firings = w.firings ++ v.firing?.toList := by
  cases hv : v.firing?
  case none => rw [hear_of_none hv, Option.toList_none, List.append_nil]; rfl
  case some f => rw [hear_of_some hv]; rfl

end World

-- Each answer is what the respondent says to the call after the calls before it.
def Respondent.Gives (r : Respondent υ) (user : υ) (exchanges : List Exchange) : Prop :=
  ∀ before call answer after, exchanges = before ++ (call, answer) :: after →
    r.answer? user (before.map Prod.fst) call = some answer

theorem Respondent.Gives.concat {r : Respondent υ} {user : υ} {exchanges : List Exchange} {call : Call}
    {answer : Except String Answer} (h : r.Gives user exchanges)
    (ha : r.answer? user (exchanges.map Prod.fst) call = some answer) :
    r.Gives user (exchanges ++ [(call, answer)]) := by
  intro before call' answer' after he
  rcases List.eq_nil_or_concat after with rfl | ⟨after, x, rfl⟩
  case inl =>
    obtain ⟨rfl, hx⟩ := List.append_inj' he rfl
    cases hx
    exact ha
  case inr =>
    rw [List.concat_eq_append, ← List.cons_append, ← List.append_assoc] at he
    exact h before call' answer' after (List.append_inj' he rfl).1

namespace Consultation

variable {c : Consultation υ} {s t : Store (World υ)} {id : String} {outcome : Outcome} {l : Link} {user : υ}
  {ids : List String}

-- What is noted when a fact is asked for is the call that it takes, if it takes one.
theorem Resolves.exchanged (h : c.Resolves s id outcome t) (hr : c.Recorded user ids s)
    (hg : c.respondent.Gives user s.world.exchanges) :
    (∃ exchanges : List Exchange, t.world.trace = s.world.trace ++ exchanges.flatMap Exchange.notices ∧
      exchanges.map Prod.fst = (c.call? ids id).toList) ∧ c.respondent.Gives user t.world.exchanges := by
  rcases h.called (hr.settled id) with ⟨hc, hw⟩ | ⟨call, r, hc, ha, _, _, he⟩
  case inl => exact ⟨⟨[], by simp [hw], by rw [hc]; rfl⟩, hw ▸ hg⟩
  case inr =>
    have ⟨ns, ht, hn⟩ := h.notes
    have hx : ns.filterMap Notice.exchange? = [(call, r.1.answer)] := by
      rw [World.exchanges, ht, List.filterMap_append] at he
      exact List.append_cancel_left he
    have ha : c.respondent.answer? user s.world.calls call = some r.1.answer := by
      rw [Respondent.answer?, ← hr.user, ha]
      rfl
    rw [he]
    refine ⟨⟨[(call, r.1.answer)], ?_, by rw [hc]; rfl⟩, hg.concat ha⟩
    -- What was noted is read back from the one exchange in it.
    rcases hn.call with rfl | ⟨call', answer, rfl, _⟩
    case inl => cases hx
    case inr =>
      rw [Call.exchange?_notices] at hx
      cases hx
      rw [ht, List.flatMap_singleton]
      rfl

theorem looked_exchanged (hs : s.facts = c.facts) (hr : c.Recorded user ids s)
    (hg : c.respondent.Gives user s.world.exchanges) (l : Link) :
    (∃ exchanges : List Exchange,
      (c.looked l s).2.world.trace = s.world.trace ++ exchanges.flatMap Exchange.notices ∧
      exchanges.map Prod.fst = c.callsFor ids ((c.looked l s).1.map fun d => d.1.fact)) ∧
    c.respondent.Gives user (c.looked l s).2.world.exchanges := by
  refine (@looked_induction _ c s l (fun done t => c.Recorded user (ids ++ done.map fun d => d.1.fact) t ∧
    (∃ exchanges : List Exchange, t.world.trace = s.world.trace ++ exchanges.flatMap Exchange.notices ∧
      exchanges.map Prod.fst = c.callsFor ids (done.map fun d => d.1.fact)) ∧
    c.respondent.Gives user t.world.exchanges) ?_ hs ⟨by simpa using hr, ⟨[], by simp, rfl⟩, hg⟩).1.2
  intro done t t' d _ outcome ht h ⟨hr, ⟨exchanges, hx, hc⟩, hg⟩
  have ⟨⟨more, hx', hc'⟩, hg'⟩ := h.exchanged hr hg
  refine ⟨by simpa [List.append_assoc] using hr.resolves ht h, ⟨exchanges ++ more, ?_, ?_⟩, hg'⟩
  · rw [hx', hx, List.flatMap_append, List.append_assoc]
  · rw [List.map_append, hc, hc', List.map_append, callsFor_append]
    simp only [List.map_cons, List.map_nil, callsFor, List.append_nil]
    rw [@call?_congr _ c (ids ++ _) _ fun i => List.perm_append_comm.mem_iff]

-- What can be told after some rules of a session, of the world then.
structure Told (c : Consultation υ) (seed : List String) (user : υ) (links : List Link) (done : List Verdict)
    (episodes : List Episode) (w : World υ) : Prop where
  chronicle : c.Chronicle seed links episodes w.memory
  notices : w.trace = episodes.flatMap Episode.notices
  heard : episodes.map (·.verdict) = done
  firings : w.firings = done.filterMap Verdict.firing?
  gives : c.respondent.Gives user w.exchanges

theorem Told.hear {seed : List String} {links : List Link} {done : List Verdict} {episodes : List Episode}
    (h : c.Told seed user links done episodes s.world)
    (hr : c.Recorded user (done.flatMap Verdict.asked) s) (hs : s.facts = c.facts) (l : Link) (priority : Int64) :
    ∃ e : Episode, c.Told seed user (links ++ [l]) (done ++ [(c.judge l priority s).1]) (episodes ++ [e])
      (c.hear l priority s).world := by
  let v := (c.judge l priority s).1
  have ⟨⟨exchanges, hx, hc⟩, hg⟩ := looked_exchanged hs hr h.gives l
  have hk := looked_keeps (l := l) hs
  rw [← judge_snd hs priority] at hx hg hk
  rw [← asked_judge hs priority] at hc
  -- No rule of a session that matches is without a firing.
  have hf : v.result → v.firing?.isSome := fun hm => by
    have hv : v.firing? = some l.firing := by rw [Verdict.firing?, if_pos hm]; exact l.ofEvent?_rule
    rw [hv, Option.isSome_some]
  obtain ⟨e, he, hv, hl, ht⟩ := World.leads_hear hf (exchanges.flatMap Exchange.notices)
    (c.judge l priority s).2.world
  have ha : episodes.flatMap (·.verdict.asked) = done.flatMap Verdict.asked := by
    rw [← h.heard, List.flatMap_map]
  refine ⟨e, .next h.chronicle ⟨?name, ?event, ⟨exchanges, he, ?calls⟩, hk.1 ▸ hl⟩, ?notices, ?heard, ?firings, ?gives⟩
  case name => rw [hv]; rfl
  case event => rw [hv]; rfl
  case calls => rw [hv, ha, hc]
  case notices =>
    rw [Consultation.hear, ht, hx, h.notices, List.flatMap_append, List.flatMap_singleton, Episode.notices, he, hv,
      List.append_assoc]
  case heard => rw [List.map_append, h.heard, List.map_singleton, hv]
  case firings =>
    rw [Consultation.hear, World.firings_hear, hk.2, h.firings, List.filterMap_append]
    rfl
  case gives =>
    rw [Consultation.hear, World.exchanges_hear]
    exact hg

-- What whoever watches a session can tell of it.
structure Chronicled (c : Consultation υ) (seed : List String) (user : υ) (d : Diagnosis) (w : World υ)
    (episodes : List Episode) : Prop where
  chronicle : c.Chronicle seed c.knowledge.links episodes d.activeSymptoms
  notices : w.trace = episodes.flatMap Episode.notices
  names : d.verdicts.map (·.name) = c.knowledge.links.map (·.rule.name)
  verdicts : w.trace.filterMap Notice.verdict? = d.verdicts
  firings : w.trace.filterMap Notice.firing? = d.firings
  -- Each memory that is noted is what some firing made of the one before, and the last one is left.
  memories : (seed :: w.trace.filterMap Notice.memory?).IsChain fun m m' => ∃ f ∈ d.firings, f.Changes m m'
  active : (seed :: w.trace.filterMap Notice.memory?).getLast? = some d.activeSymptoms
  -- The calls that are announced are those that are made, and the respondent does get them.
  announced : w.trace.filterMap Notice.announced? = w.calls
  calls : w.calls = c.callsFor [] (d.verdicts.flatMap Verdict.asked)
  gives : c.respondent.Gives user w.exchanges
  user_after : w.user = c.respondent.after w.calls user

-- The notices of a session tell all of it: what was called, what was found, and how the memory came about.
theorem run_chronicled (hv : c.settings.Valid) (hn : c.knowledge.Numbered) (seed : List String) (user : υ) :
    c.Ends seed user fun d w => ∃ episodes, c.Chronicled seed user d w episodes := by
  refine .of_course hv hn fun _ => ?_
  have ⟨⟨_, episodes, h⟩, hl⟩ := @course_induction _ c
    (fun done s => c.Recorded user (done.flatMap Verdict.asked) s ∧
      ∃ episodes, c.Told seed user (c.knowledge.links.take done.length) done episodes s.world) seed user
    (fun done s l priority hl hs ⟨hr, episodes, h⟩ => by
      have ⟨e, h⟩ := h.hear hr hs l priority
      refine ⟨hr.hear hs l priority, episodes ++ [e], ?_⟩
      rwa [List.length_append, List.length_singleton, List.take_add_one, hl, Option.toList_some])
    ⟨recorded_start user seed, [], .start, rfl, rfl, rfl, fun before _ _ _ he => by cases before <;> cases he⟩
  rw [hl, List.take_length] at h
  have hc := h.chronicle
  have hr := (c.course_recorded seed user).1
  have hf : episodes.filterMap (·.verdict.firing?) = (c.course seed user).2.world.firings := by
    rw [h.firings, ← h.heard, List.filterMap_map]
    rfl
  have ⟨hlast, hchain⟩ := hc.memories
  rw [← h.notices] at hlast hchain
  rw [hf] at hchain
  refine ⟨episodes, hc, h.notices, ?names, ?verdicts, ?firings, hchain, hlast,
    ?announced, hr.calls, h.gives, hr.user⟩
  case names => exact (congrArg _ h.heard.symm).trans (List.map_map.trans hc.names)
  case verdicts => exact (congrArg _ h.notices).trans (hc.verdicts.trans h.heard)
  case firings => exact (congrArg _ h.notices).trans (hc.firings.trans hf)
  case announced =>
    rw [World.calls, World.exchanges, h.notices]
    exact hc.announced

theorem run_chronicled_water :
    ((water Nat.succ).settings.Valid ∧ (water Nat.succ).knowledge.Numbered) ∧
    ∃ d w, (water Nat.succ).run ["Symptom1", "Symptom1"] 0 = .ok (.ok (d, w)) ∧ ∃ episodes,
      (water Nat.succ).Chronicled ["Symptom1", "Symptom1"] 0 d w episodes := by
  have hv : (water Nat.succ).settings.Valid := by decide
  have hn : (water Nat.succ).knowledge.Numbered := by decide
  exact ⟨⟨hv, hn⟩, (run_chronicled hv hn ["Symptom1", "Symptom1"] 0).held (by decide +kernel)⟩

end Consultation
end Troubleshoot
