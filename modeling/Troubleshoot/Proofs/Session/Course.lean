import Troubleshoot.Proofs.Session.Resolution

namespace Troubleshoot

variable {υ : Type}

namespace Link

variable {l : Link}

-- What becomes of the event when the rule of a link matches.
def firing : Link → Firing
  | candidate s _ k => ⟨k.effect, Rule.nameOf s k.name, s.id, some k.id, none, k.name⟩
  | cause s _ root => ⟨.addSymptom, Rule.nameOf s root.name, s.id, none, some root.id, root.name⟩

-- No event of a compiled rule is foreign to the session.
theorem ofEvent?_rule (l : Link) : Firing.ofEvent? l.rule.event l.rule.name = some l.firing := by
  cases l <;>
    simp [rule, Rule.ofCandidate, Rule.ofCause, Solution.event, Symptom.causeEvent, Firing.ofEvent?,
      Effect.ofName?_name, Event.param?, Table.ofList, Table.find?_insert, Json.string?, firing]

end Link

-- A call together with what was answered.
abbrev Exchange := Call × Except String Answer

def Notice.exchange? : Notice → Option Exchange
  | asked q answer => some (.question q, answer)
  | confirmed s c answer => some (.confirmation s c, answer)
  | _ => none

-- What fires when a verdict is heard.
def Verdict.firing? (v : Verdict) : Option Firing :=
  if v.result then Firing.ofEvent? v.event v.name else none

theorem Verdict.firing?_congr {v v' : Verdict} (hn : v.name = v'.name) (hr : v.result = v'.result)
    (he : v.event = v'.event) : v.firing? = v'.firing? := by
  rw [firing?, firing?, hn, hr, he]

-- Who watches is told of the new memory if it changed, and then of the firing.
def Firing.notices (f : Firing) (m : Memory) : List Notice :=
  (if (f.apply m).2 then [.memoryChanged (f.apply m).1] else []) ++ [.firing f]

theorem Call.exchange?_notices (call : Call) (answer : Except String Answer) :
    (call.notices answer).filterMap Notice.exchange? = [(call, answer)] := by
  cases call <;> rfl

theorem Firing.exchange?_notices (f : Firing) (m : Memory) :
    (f.notices m).filterMap Notice.exchange? = [] := by
  by_cases hc : (f.apply m).2 <;> simp [notices, hc, Notice.exchange?]

namespace World

variable {w : World υ} {v : Verdict} {l : Link}

def exchanges (w : World υ) : List Exchange :=
  w.trace.filterMap Notice.exchange?

@[simp] theorem exchanges_called (call : Call) (r : Reaction × υ) :
    (w.called call r).exchanges = w.exchanges ++ [(call, r.1.answer)] := by
  rw [exchanges, called, List.filterMap_append, Call.exchange?_notices, exchanges]

theorem hear_of_some {f : Firing} (h : v.firing? = some f) :
    hear v w = ⟨w.user, (f.apply w.memory).1, w.firings ++ [f],
      w.trace ++ .verdict v :: f.notices w.memory⟩ := by
  simp only [Verdict.firing?] at h
  split at h
  case isTrue hr =>
    have hw : hear v w = hear.onSuccess v.event v w := congrFun (if_pos hr) w
    rw [hw]
    by_cases hc : (f.apply w.memory).2 <;> simp [hear, h, hc, note, Firing.notices]
  case isFalse => cases h

theorem hear_of_none (h : v.firing? = none) : hear v w = w.note (.verdict v) := by
  simp only [Verdict.firing?] at h
  split at h
  case isTrue hr =>
    have hw : hear v w = hear.onSuccess v.event v w := congrFun (if_pos hr) w
    rw [hw]
    simp [hear, h]
  case isFalse hr => exact congrFun (if_neg hr) w

theorem exchanges_hear (v : Verdict) (w : World υ) : (hear v w).exchanges = w.exchanges := by
  cases h : v.firing?
  case none => simp [hear_of_none h, exchanges, note, Notice.exchange?]
  case some f =>
    simp only [hear_of_some h, exchanges, List.filterMap_append, List.filterMap_cons, Notice.exchange?,
      Firing.exchange?_notices, List.append_nil]

theorem user_hear (v : Verdict) (w : World υ) : (hear v w).user = w.user := by
  cases h : v.firing?
  case none => rw [hear_of_none h]; rfl
  case some f => rw [hear_of_some h]

-- What the verdict on a link's rule does to the world.
structure Hears (w : World υ) (l : Link) (matched : Bool) (after : World υ) : Prop where
  memory : after.memory = if matched then (l.firing.apply w.memory).1 else w.memory
  firings : after.firings = w.firings ++ if matched then [l.firing] else []
  user : after.user = w.user
  exchanges : after.exchanges = w.exchanges

theorem hears (hn : v.name = l.rule.name) (he : v.event = l.rule.event) :
    w.Hears l v.result (hear v w) := by
  cases hr : v.result
  case false =>
    have hw : hear v w = w.note (.verdict v) := hear_of_none (by simp [Verdict.firing?, hr])
    exact ⟨by rw [hw]; rfl, by rw [hw]; simp [note], user_hear v w, exchanges_hear v w⟩
  case true =>
    have hw := @hear_of_some _ w v l.firing (by rw [Verdict.firing?, if_pos hr, hn, he, l.ofEvent?_rule])
    exact ⟨by rw [hw]; rfl, by rw [hw]; rfl, user_hear v w, exchanges_hear v w⟩

end World

namespace Consultation

variable {c : Consultation υ} {s t : Store (World υ)} {id : String} {outcome : Outcome} {l : Link}

theorem Resolves.facts (h : c.Resolves s id outcome t) : t.facts = s.facts := by
  cases h <;> simp

theorem Resolves.memory_eq (h : c.Resolves s id outcome t) : t.world.memory = s.world.memory := by
  cases h <;> simp [World.called]

theorem Resolves.firings (h : c.Resolves s id outcome t) : t.world.firings = s.world.firings := by
  cases h <;> simp [World.called]

-- The conditions of a link's rule in the order in which they are looked at.
def conditions (c : Consultation υ) (l : Link) : List Condition :=
  l.rule.ordered c.facts.priorityOf

theorem mem_conditions {d : Condition} : d ∈ c.conditions l ↔ d ∈ l.rule.conditions :=
  Ranking.mem_sort _

def looked (c : Consultation υ) (l : Link) (s : Store (World υ)) :
    List (Condition × Outcome) × Store (World υ) :=
  s.look .session (c.conditions l)

-- The verdict on the rule of a link, whatever priority the rule was given.
def judge (c : Consultation υ) (l : Link) (priority : Int64) (s : Store (World υ)) :
    Verdict × Store (World υ) :=
  c.ruleSet.judge { l.rule with priority } s

theorem looked_eq (hs : s.facts = c.facts) (priority : Int64) :
    c.ruleSet.looked { l.rule with priority } s = c.looked l s := by
  simp only [RuleSet.looked, looked, conditions, hs]
  rfl

variable {priority : Int64}

theorem judge_snd (hs : s.facts = c.facts) (priority : Int64) : (c.judge l priority s).2 = (c.looked l s).2 := by
  rw [← looked_eq hs priority]
  rfl

theorem checks_judge (hs : s.facts = c.facts) :
    (c.judge l priority s).1.checks = (c.looked l s).1.map fun d => d.1.check .session d.2 := by
  rw [judge, RuleSet.checks_judge, looked_eq hs]
  rfl

theorem error_judge (hs : s.facts = c.facts) :
    (c.judge l priority s).1.error = (c.looked l s).1.findSome? fun d => d.1.error? .session d.2 := by
  rw [judge, RuleSet.error_judge, looked_eq hs]
  rfl

theorem result_judge_iff (hs : s.facts = c.facts) :
    (c.judge l priority s).1.result ↔
      (c.looked l s).1.map Prod.fst = c.conditions l ∧ ∀ d ∈ (c.looked l s).1, d.1.holds .session d.2 := by
  rw [judge, RuleSet.result_judge_iff, looked_eq hs, conditions, ← hs]
  rfl

-- The store once the verdict on the rule of a link has been heard.
def hear (c : Consultation υ) (l : Link) (priority : Int64) (s : Store (World υ)) : Store (World υ) :=
  { (c.judge l priority s).2 with
    world := World.hear (c.judge l priority s).1 (c.judge l priority s).2.world }

-- What holds of the conditions looked at so far and the store then, holds once a rule is evaluated.
theorem looked_induction {P : List (Condition × Outcome) → Store (World υ) → Prop}
    (step : ∀ done s t, ∀ d ∈ l.rule.conditions, ∀ outcome, s.facts = c.facts →
      c.Resolves s d.fact outcome t → P done s → P (done ++ [(d, outcome)]) t)
    (hs : s.facts = c.facts) (h : P [] s) :
    P (c.looked l s).1 (c.looked l s).2 ∧ (c.looked l s).2.facts = c.facts := by
  refine @Store.look_induction _ .session (c.conditions l) s
    (fun done s => P done s ∧ s.facts = c.facts) (fun done s d hd ⟨hp, hs⟩ => ?_) [] ⟨h, hs⟩
  have hr := resolves hs d.fact
  exact ⟨step done s _ d (mem_conditions.mp hd) _ hs hr hp, hr.facts.trans hs⟩

theorem looked_keeps (hs : s.facts = c.facts) :
    (c.looked l s).2.world.memory = s.world.memory ∧ (c.looked l s).2.world.firings = s.world.firings :=
  (@looked_induction _ _ _ _
    (fun _ t => t.world.memory = s.world.memory ∧ t.world.firings = s.world.firings)
    (fun _ _ _ _ _ _ _ hr hp => ⟨hr.memory_eq.trans hp.1, hr.firings.trans hp.2⟩) hs ⟨rfl, rfl⟩).1

theorem hears (c : Consultation υ) (l : Link) (priority : Int64) (s : Store (World υ)) :
    (c.judge l priority s).2.world.Hears l (c.judge l priority s).1.result (c.hear l priority s).world :=
  World.hears rfl rfl

-- What is added last comes next, and what was there before stays where it is.
theorem getElem?_concat {α : Type} {done : List α} {a b : α} {i : Nat} (h : (done ++ [a])[i]? = some b) :
    (i < done.length ∧ done[i]? = some b) ∨ (i = done.length ∧ b = a) := by
  rcases Nat.lt_trichotomy i done.length with hlt | heq | hgt
  case inl => exact .inl ⟨hlt, List.getElem?_append_left hlt ▸ h⟩
  case inr.inl =>
    subst heq
    rw [List.getElem?_concat_length] at h
    exact .inr ⟨rfl, (Option.some.inj h).symm⟩
  case inr.inr =>
    have hb := (List.getElem?_eq_some_iff.mp h).1
    rw [List.length_append, List.length_singleton] at hb
    omega

-- What holds of the verdicts so far and the store then, holds at the end of a session.
theorem course_induction {P : List Verdict → Store (World υ) → Prop} {symptoms : List String} {user : υ}
    (step : ∀ done s l priority, c.knowledge.links[done.length]? = some l → s.facts = c.facts →
      P done s → P (done ++ [(c.judge l priority s).1]) (c.hear l priority s))
    (h : P [] (c.start symptoms user)) :
    P (c.course symptoms user).1 (c.course symptoms user).2 ∧
    (c.course symptoms user).1.length = c.knowledge.links.length := by
  have ⟨⟨hp, _⟩, hl⟩ := @RuleSet.judgeAll_induction _ c.ruleSet c.knowledge.rules
    (c.start symptoms user) World.hear (fun done s => P done s ∧ s.facts = c.facts)
    (fun done s rule hr ⟨hp, hs⟩ => by
      have ⟨l, hl, he⟩ := Option.map_eq_some_iff.mp (c.knowledge.getElem?_rules _ ▸ hr)
      subst he
      refine ⟨step done s l _ hl hs hp, ?_⟩
      exact (congrArg Store.facts (judge_snd hs _)).trans (@looked_induction _ _ _ _ (fun _ _ => True)
        (fun _ _ _ _ _ _ _ _ _ => trivial) hs trivial).2)
    ⟨h, rfl⟩
  exact ⟨hp, hl.trans c.knowledge.length_rules⟩

end Consultation
end Troubleshoot
