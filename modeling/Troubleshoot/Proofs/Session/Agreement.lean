import Troubleshoot.Proofs.Rule.Alike
import Troubleshoot.Proofs.Session.Calls

namespace Troubleshoot

variable {υ υ' : Type}

namespace Respondent

variable {r : Respondent υ} {r' : Respondent υ'} {user : υ} {user' : υ'}

-- What is answered to a call that comes after some others, if the callback for it is there.
def answer? (r : Respondent υ) (user : υ) (calls : List Call) (call : Call) : Option (Except String Answer) :=
  (r.react (r.after calls user) call).map (·.1.answer)

-- Respondents who give the same answers to the same calls, in however many turns.
def Agrees (r : Respondent υ) (user : υ) (r' : Respondent υ') (user' : υ') : Prop :=
  ∀ calls call, r.answer? user calls call = r'.answer? user' calls call

theorem Agrees.isSome_question (h : r.Agrees user r' user') :
    r.question.isSome = r'.question.isSome := by
  have ha := congrArg Option.isSome (h [] (.question ⟨"", "", none, .yesNo, none⟩))
  simpa [answer?, react] using ha

theorem Agrees.isSome_confirmation (h : r.Agrees user r' user') (s : Solution) (k : Confirmation) :
    r.confirmation.isSome = r'.confirmation.isSome := by
  have ha := congrArg Option.isSome (h [] (.confirmation s k))
  simpa [answer?, react] using ha

end Respondent

-- Worlds that differ only in the state of the respondents, who were called for the same.
structure World.Alike (r : Respondent υ) (user : υ) (r' : Respondent υ') (user' : υ') (w : World υ)
    (x : World υ') : Prop where
  memory : w.memory = x.memory
  firings : w.firings = x.firings
  trace : w.trace = x.trace
  user : w.user = r.after w.calls user
  user' : x.user = r'.after x.calls user'

namespace World

variable {r : Respondent υ} {r' : Respondent υ'} {user : υ} {user' : υ'} {w : World υ} {x : World υ'}

theorem calls_called (call : Call) (a : Reaction × υ) : (w.called call a).calls = w.calls ++ [call] := by
  simp [calls]

theorem calls_hear (v : Verdict) (w : World υ) : (hear v w).calls = w.calls :=
  congrArg (List.map Prod.fst) (exchanges_hear v w)

namespace Alike

theorem calls_eq (h : w.Alike r user r' user' x) : w.calls = x.calls := by
  simp [calls, exchanges, h.trace]

-- Whatever is heard is heard in both worlds.
theorem hear (h : w.Alike r user r' user' x) (v : Verdict) :
    (World.hear v w).Alike r user r' user' (World.hear v x) := by
  have hu : (World.hear v w).user = r.after (World.hear v w).calls user := by
    rw [user_hear, calls_hear, ← h.user]
  have hu' : (World.hear v x).user = r'.after (World.hear v x).calls user' := by
    rw [user_hear, calls_hear, ← h.user']
  cases hf : v.firing?
  case none =>
    refine ⟨?_, ?_, ?_, hu, hu'⟩ <;> simp [hear_of_none hf, note, h.memory, h.firings, h.trace]
  case some f =>
    refine ⟨?_, ?_, ?_, hu, hu'⟩ <;> simp [hear_of_some hf, h.memory, h.firings, h.trace]

-- Both respondents give the same answer, and have been called for the same from then on.
theorem called (h : w.Alike r user r' user' x) (ha : r.Agrees user r' user') {call : Call}
    {a : Reaction × υ} {b : Reaction × υ'} (hr : r.react w.user call = some a)
    (hr' : r'.react x.user call = some b) :
    a.1.answer = b.1.answer ∧ (w.called call a).Alike r user r' user' (x.called call b) := by
  have he : a.1.answer = b.1.answer := by
    have hc := ha w.calls call
    rw [Respondent.answer?, Respondent.answer?, ← h.user, h.calls_eq, ← h.user', hr, hr'] at hc
    exact Option.some.inj hc
  refine ⟨he, h.memory, h.firings, by simp [World.called, h.trace, he], ?_, ?_⟩
  · rw [calls_called, Respondent.after_concat (h.user ▸ hr)]; rfl
  · rw [calls_called, Respondent.after_concat (h.user' ▸ hr')]; rfl

theorem question (h : w.Alike r user r' user' x) (ha : r.Agrees user r' user') (kb : KnowledgeBase)
    (id : String) :
    (Question.provider kb r id w).1.outcome = (Question.provider kb r' id x).1.outcome ∧
    (Question.provider kb r id w).2.Alike r user r' user' (Question.provider kb r' id x).2 := by
  have hi := ha.isSome_question
  cases hr : r.question <;> cases hr' : r'.question
  case none.none => simpa [Question.provider, hr, hr'] using h
  case some.some ask ask' =>
    cases hq : kb.question? id
    case none => simpa [Question.provider, hr, hr', hq] using h
    case some q =>
      have ha' : r.react w.user (.question q) = some (ask q w.user) := by simp [Respondent.react, hr]
      have hb' : r'.react x.user (.question q) = some (ask' q x.user) := by simp [Respondent.react, hr']
      obtain ⟨he, hc⟩ := h.called ha ha' hb'
      rw [Question.provider_eq_called hr hq, Question.provider_eq_called hr' hq]
      exact ⟨by simp [Reaction.reply, he], hc⟩
  all_goals simp [hr, hr'] at hi

theorem confirmation (h : w.Alike r user r' user' x) (ha : r.Agrees user r' user') (s : Solution)
    (k : Confirmation) :
    (Confirmation.provider r s k w).1.outcome = (Confirmation.provider r' s k x).1.outcome ∧
    (Confirmation.provider r s k w).2.Alike r user r' user' (Confirmation.provider r' s k x).2 := by
  have hi := ha.isSome_confirmation s k
  cases hr : r.confirmation <;> cases hr' : r'.confirmation
  case none.none => simpa [Confirmation.provider, hr, hr'] using h
  case some.some confirm confirm' =>
    have ha' : r.react w.user (.confirmation s k) = some (confirm s k w.user) := by
      simp [Respondent.react, hr]
    have hb' : r'.react x.user (.confirmation s k) = some (confirm' s k x.user) := by
      simp [Respondent.react, hr']
    obtain ⟨he, hc⟩ := h.called ha ha' hb'
    rw [Confirmation.provider_eq_called hr, Confirmation.provider_eq_called hr']
    exact ⟨by simp [Reaction.reply, he], hc⟩
  all_goals simp [hr, hr'] at hi

end Alike
end World

namespace Bindings

-- Who is asked has no part in what is bound.
theorem enterAll_table {b : Bindings υ} {b' : Bindings υ'} (ht : b.table = b'.table)
    (hn : b.next = b'.next) (hs : b.sessionPriority = b'.sessionPriority) (rs : List Registration) :
    (b.enterAll rs).table = (b'.enterAll rs).table := by
  induction rs generalizing b b'
  case nil => exact ht
  case cons r rs ih =>
    refine @ih (b.enter r) (b'.enter r) ?_ ?_ ?_
    case refine_3 => simpa using hs
    all_goals
      cases r
      case question id => cases hc : b'.table.contains id <;> simp [enter, lower, ht, hn, hc]
      all_goals simp [enter, preset, lower, ht, hn, hs]

end Bindings

namespace Consultation

variable {c : Consultation υ} {user : υ} {r' : Respondent υ'} {user' : υ'}

-- The same consultation with somebody else to ask.
def ask (c : Consultation υ) (r' : Respondent υ') : Consultation υ' :=
  ⟨c.settings, c.knowledge, r', c.presets, c.systemTypes⟩

theorem table_ask (c : Consultation υ) (r' : Respondent υ') : (c.ask r').bindings.table = c.bindings.table :=
  @Bindings.enterAll_table _ _ (.empty c.knowledge r' c.settings)
    (.empty c.knowledge c.respondent c.settings) rfl rfl rfl c.registrations

theorem fact_alike (h : c.respondent.Agrees user r' user') (id : String) (b : Binding) :
    (b.fact c.knowledge c.respondent id).Alike (World.Alike c.respondent user r' user')
      (b.fact c.knowledge r' id) := by
  obtain ⟨kind, priority⟩ := b
  cases kind
  case preset value => exact ⟨.constant value, rfl, rfl⟩
  case question => exact ⟨.provider fun _ _ hw => hw.question h c.knowledge id, rfl, rfl⟩
  case confirmation s k => exact ⟨.provider fun _ _ hw => hw.confirmation h s k, rfl, rfl⟩

theorem facts_alike (h : c.respondent.Agrees user r' user') (id : String) :
    Option.Rel (Fact.Alike (World.Alike c.respondent user r' user')) (c.facts.find? id)
      ((c.ask r').facts.find? id) := by
  refine facts_rel ⟨.provider fun _ _ hw => ?_, rfl, rfl⟩ ⟨.constant _, rfl, rfl⟩ (c.table_ask r').symm
    (fact_alike h) id
  exact ⟨by rw [hw.memory], hw⟩

theorem start_alike (h : c.respondent.Agrees user r' user') (symptoms : List String) :
    (c.start symptoms user).Alike (World.Alike c.respondent user r' user')
      ((c.ask r').start symptoms user') := by
  unfold start Store.start
  exact ⟨facts_alike h, rfl, rfl, rfl, ⟨rfl, rfl, rfl, rfl, rfl⟩⟩

-- A session goes the same way with whoever gives the same answers.
theorem course_alike (h : c.respondent.Agrees user r' user') (symptoms : List String) :
    (c.course symptoms user).1 = ((c.ask r').course symptoms user').1 ∧
    (c.course symptoms user).2.Alike (World.Alike c.respondent user r' user')
      ((c.ask r').course symptoms user').2 := by
  have hs := start_alike h symptoms
  exact @RuleSet.judgeAll_alike _ _ _ c.ruleSet (c.ask r').ruleSet _ _ rfl World.hear World.hear
    (fun v _ _ hw => hw.hear v) hs c.knowledge.rules

theorem diagnosis_ask (h : c.respondent.Agrees user r' user') (symptoms : List String) :
    c.diagnosis symptoms user = (c.ask r').diagnosis symptoms user' := by
  have ⟨he, hs⟩ := course_alike h symptoms
  simp only [diagnosis, he, hs.observed, hs.world.firings, hs.world.memory]

end Consultation
end Troubleshoot
