import Troubleshoot.Proofs.Session.Course

namespace Troubleshoot

variable {υ : Type}

namespace Call

def questionId? : Call → Option String
  | question q => some q.id
  | confirmation _ _ => none

def confirmation? : Call → Option (Solution × Confirmation)
  | question _ => none
  | confirmation s k => some (s, k)

end Call

def World.calls (w : World υ) : List Call :=
  w.exchanges.map Prod.fst

namespace Respondent

def react (r : Respondent υ) (user : υ) : Call → Option (Reaction × υ)
  | .question q => r.question.map (· q user)
  | .confirmation s k => r.confirmation.map (· s k user)

-- The respondent's state after some calls.
def after (r : Respondent υ) (calls : List Call) (user : υ) : υ :=
  calls.foldl (fun user call => ((r.react user call).map Prod.snd).getD user) user

theorem after_concat {r : Respondent υ} {calls : List Call} {call : Call} {user : υ} {reaction : Reaction × υ}
    (h : r.react (r.after calls user) call = some reaction) :
    r.after (calls ++ [call]) user = reaction.2 := by
  rw [after] at h
  simp [after, h]

-- All that a provider does that asks the respondent: it always passes on the same call, or fails without one.
inductive Provides (r : Respondent υ) (id : String) : (World υ → Reply × World υ) → Prop
  | fails (e : FactError) : Provides r id fun w => (⟨.error e, 0⟩, w)
  | calls {call : Call} {react : υ → Reaction × υ} (hr : ∀ user, r.react user call = some (react user)) :
    Provides r id fun w => ((react w.user).1.reply id, w.called call (react w.user))

end Respondent

theorem Question.provides (kb : KnowledgeBase) (r : Respondent υ) (id : String) :
    r.Provides id (provider kb r id) := by
  cases hr : r.question
  case none =>
    have hp : provider kb r id = fun w => (⟨.error (.missingCallback id), 0⟩, w) := by
      funext w
      simp [provider, hr]
    exact hp ▸ .fails _
  case some ask =>
    cases hq : kb.question? id
    case none =>
      have hp : provider kb r id = fun w => (⟨.error (.rejected id "no such diagnostic question"), 0⟩, w) := by
        funext w
        simp [provider, hr, hq]
      exact hp ▸ .fails _
    case some q =>
      rw [funext (provider_eq_called hr hq)]
      exact @Respondent.Provides.calls _ r id (.question q) (ask q) fun user => by simp [Respondent.react, hr]

theorem Confirmation.provides (r : Respondent υ) (s : Solution) (k : Confirmation) :
    r.Provides (k.factId s.id) (provider r s k) := by
  cases hr : r.confirmation
  case none =>
    have hp : provider r s k = fun w => (⟨.error (.missingCallback (k.factId s.id)), 0⟩, w) := by
      funext w
      simp [provider, hr]
    exact hp ▸ .fails _
  case some confirm =>
    rw [funext (provider_eq_called hr)]
    exact @Respondent.Provides.calls _ r _ (.confirmation s k) (confirm s k) fun user => by
      simp [Respondent.react, hr]

namespace Consultation

variable {c : Consultation υ} {s t : Store (World υ)} {id : String} {outcome : Outcome} {l : Link}

-- What is called for a fact, if some facts have been asked for before. A question is only put to the
-- respondent the first time.
def call? (c : Consultation υ) (seen : List String) (id : String) : Option Call :=
  match c.holder id with
  | .question =>
    if id ∉ seen ∧ c.respondent.question.isSome then (c.knowledge.question? id).map .question else none
  | .confirmation s k => if c.respondent.confirmation.isSome then some (.confirmation s k) else none
  | _ => none

-- What is called if facts are asked for one after the other.
def callsFor (c : Consultation υ) (seen : List String) : List String → List Call
  | [] => []
  | id :: ids => (c.call? seen id).toList ++ c.callsFor (id :: seen) ids

theorem call?_congr {seen seen' : List String} (h : ∀ id, id ∈ seen ↔ id ∈ seen') (id : String) :
    c.call? seen id = c.call? seen' id := by
  simp only [call?, h]

theorem callsFor_congr {seen seen' : List String} (h : ∀ id, id ∈ seen ↔ id ∈ seen') (ids : List String) :
    c.callsFor seen ids = c.callsFor seen' ids := by
  induction ids generalizing seen seen'
  case nil => rfl
  case cons id ids ih =>
    rw [callsFor, callsFor, call?_congr h, @ih (id :: seen) (id :: seen') fun i => by simp [h]]

theorem callsFor_append (seen ids more : List String) :
    c.callsFor seen (ids ++ more) = c.callsFor seen ids ++ c.callsFor (ids ++ seen) more := by
  induction ids generalizing seen
  case nil => rfl
  case cons id ids ih =>
    rw [List.cons_append, callsFor, callsFor, ih, List.append_assoc,
      @callsFor_congr _ c (ids ++ id :: seen) (id :: ids ++ seen) (by grind)]

theorem callsFor_concat (ids : List String) (id : String) :
    c.callsFor [] (ids ++ [id]) = c.callsFor [] ids ++ (c.call? ids id).toList := by
  simp [callsFor_append, callsFor]

-- The only question that may be put for a fact is that with its id, and not a second time.
theorem questionId?_call? (seen : List String) (id : String) :
    (c.call? seen id).toList.filterMap Call.questionId? = [] ∨
    ((c.call? seen id).toList.filterMap Call.questionId? = [id] ∧ id ∉ seen) := by
  simp only [call?]
  cases c.holder id
  case question =>
    by_cases hi : id ∉ seen ∧ c.respondent.question.isSome
    case neg => simp [hi]
    case pos =>
      cases hq : c.knowledge.question? id
      case none => simp [hi]
      case some q => simp [hi, Call.questionId?, KnowledgeBase.id_of_question? hq]
  case confirmation k p => by_cases hr : c.respondent.confirmation.isSome <;> simp [hr, Call.questionId?]
  all_goals exact .inl rfl

-- No question is put to the respondent twice, whatever is asked for.
theorem nodup_callsFor (ids seen : List String) :
    ((c.callsFor seen ids).filterMap Call.questionId?).Nodup ∧
    ∀ id ∈ (c.callsFor seen ids).filterMap Call.questionId?, id ∉ seen := by
  induction ids generalizing seen
  case nil => simp [callsFor]
  case cons id ids ih =>
    have ⟨hn, hs⟩ := ih (id :: seen)
    rw [callsFor, List.filterMap_append]
    rcases questionId?_call? (c := c) seen id with hc | ⟨hc, hi⟩
    case inl =>
      rw [hc, List.nil_append]
      exact ⟨hn, fun i h hm => hs i h (List.mem_cons_of_mem _ hm)⟩
    case inr =>
      rw [hc, List.singleton_append, List.nodup_cons]
      refine ⟨⟨fun h => hs id h (List.mem_cons_self ..), hn⟩, fun i h hm => ?_⟩
      rcases List.mem_cons.mp h with rfl | h
      · exact hi hm
      · exact hs i h (List.mem_cons_of_mem _ hm)

-- Nobody is called but for a fact that the respondent has the say about.
theorem holder_of_mem_callsFor {call : Call} {ids seen : List String} (h : call ∈ c.callsFor seen ids) :
    (∀ q, call = .question q → c.holder q.id = .question) ∧
    ∀ k p, call = .confirmation k p → c.holder (p.factId k.id) = .confirmation k p := by
  induction ids generalizing seen
  case nil => cases h
  case cons id ids ih =>
    rcases List.mem_append.mp h with h | h
    case inr => exact ih h
    case inl =>
      have hc := Option.mem_toList.mp h
      simp only [call?] at hc
      cases hh : c.holder id <;> simp only [hh] at hc <;> try cases hc
      case question =>
        split at hc
        case isFalse => cases hc
        case isTrue =>
          have ⟨q, hq, he⟩ := Option.map_eq_some_iff.mp hc
          subst he
          refine ⟨fun q' hq' => ?_, nofun⟩
          cases hq'
          rw [KnowledgeBase.id_of_question? hq, hh]
      case confirmation k p =>
        split at hc <;> cases hc
        refine ⟨nofun, fun k' p' he => ?_⟩
        cases he
        rw [factId_of_holder hh, hh]

theorem confirmations_callsFor (h : c.respondent.confirmation.isSome) (ids seen : List String) :
    (c.callsFor seen ids).filterMap Call.confirmation? =
      ids.filterMap fun id => (c.holder id).confirmation? := by
  induction ids generalizing seen
  case nil => rfl
  case cons id ids ih =>
    have hi : (c.call? seen id).toList.filterMap Call.confirmation? =
        (c.holder id).confirmation?.toList := by
      simp only [call?]
      cases hh : c.holder id
      case question => cases c.knowledge.question? id <;> simp [Holder.confirmation?, Call.confirmation?]
      case confirmation k p => simp [h, Holder.confirmation?, Call.confirmation?]
      all_goals rfl
    rw [callsFor, List.filterMap_append, ih, hi]
    cases hh : (c.holder id).confirmation? <;> simp [hh]

-- What is recorded of the facts that were asked for so far: which calls that took, and which
-- questions have an outcome since.
structure Recorded (c : Consultation υ) (user : υ) (ids : List String) (s : Store (World υ)) : Prop where
  calls : s.world.calls = c.callsFor [] ids
  user : s.world.user = c.respondent.after s.world.calls user
  settled : ∀ id, c.holder id = .question → ((s.settled? id).isSome ↔ id ∈ ids)

-- Only a question's outcome is kept, and then it stays.
theorem Resolves.settled?_self (h : c.Resolves s id outcome t) (hs : s.facts = c.facts)
    (hh : c.holder id = .question) : t.settled? id = some outcome := by
  have ⟨f, hf, hc⟩ := find?_facts_of_question hh
  cases h
  case remembered hv => simpa using hv
  case unanswerable => exact Store.settled?_settle_self (hs ▸ hf) hc
  case asked => exact Store.settled?_settle_self (s := { s with world := _ }) (hs ▸ hf) hc
  all_goals simp_all

theorem Resolves.settled?_of_ne (h : c.Resolves s id outcome t) {i : String} (hi : i ≠ id) :
    t.settled? i = s.settled? i := by
  cases h
  case unanswerable => exact Store.settled?_settle_of_ne hi
  case asked => exact Store.settled?_settle_of_ne hi
  case confirmed => exact Store.settled?_observe
  all_goals simp

theorem Resolves.settled?_mono (h : c.Resolves s id outcome t) {i : String}
    {o : Outcome} (ho : s.settled? i = some o) : t.settled? i = some o := by
  by_cases hi : i = id
  case neg => rw [h.settled?_of_ne hi, ho]
  case pos =>
    subst hi
    cases h
    case confirmed => exact Store.settled?_observe.trans ho
    all_goals simp_all

-- Either nothing is called and the world stays as it is, or the outcome is what the respondent said.
theorem Resolves.called (h : c.Resolves s id outcome t) {seen : List String}
    (hq : c.holder id = .question → ((s.settled? id).isSome ↔ id ∈ seen)) :
    (c.call? seen id = none ∧ t.world = s.world) ∨
    ∃ call r, c.call? seen id = some call ∧ c.respondent.react s.world.user call = some r ∧
      outcome = (r.1.reply id).outcome ∧ t.world.user = r.2 ∧
      t.world.exchanges = s.world.exchanges ++ [(call, r.1.answer)] := by
  cases h
  case confirmed k p confirm hh hr =>
    refine .inr ⟨.confirmation k p, confirm k p s.world.user, ?_, ?_, rfl, ?_, ?_⟩
    · simp [call?, hh, hr]
    · simp [Respondent.react, hr]
    · rw [Store.observe_world]; rfl
    · rw [Store.observe_world, World.exchanges_called]
  case asked q ask hh hs hr hf =>
    have hi : id ∉ seen := by simpa [hs] using hq hh
    refine .inr ⟨.question q, ask q s.world.user, ?_, ?_, rfl, ?_, ?_⟩
    · simp [call?, hh, hr, hi, hf]
    · simp [Respondent.react, hr]
    · rw [Store.settle_world]; rfl
    · rw [Store.settle_world, World.exchanges_called]
  case remembered hh hs =>
    have hi : id ∈ seen := by simpa [hs] using hq hh
    exact .inl ⟨by simp [call?, hh, hi], Store.observe_world⟩
  case unanswerable hh hs hr =>
    refine .inl ⟨?_, Store.settle_world⟩
    rcases hr with hr | hr <;> simp [call?, hh, hr]
  case unconfirmed hh hr => exact .inl ⟨by simp [call?, hh, hr], rfl⟩
  all_goals exact .inl ⟨by simp_all [call?], by simp⟩

theorem Recorded.resolves {user : υ} {ids : List String} (hr : c.Recorded user ids s)
    (hs : s.facts = c.facts) (h : c.Resolves s id outcome t) : c.Recorded user (ids ++ [id]) t where
  calls := by
    rw [callsFor_concat, ← hr.calls]
    rcases h.called (hr.settled id) with ⟨hc, hw⟩ | ⟨call, _, hc, _, _, _, he⟩
    · rw [hc, hw, Option.toList_none, List.append_nil]
    · simp [hc, World.calls, he]
  user := by
    rcases h.called (hr.settled id) with ⟨_, hw⟩ | ⟨call, r, _, hc, _, hu, he⟩
    · rw [hw, ← hr.user]
    · have hw : t.world.calls = s.world.calls ++ [call] := by simp [World.calls, he]
      rw [hw, hu, Respondent.after_concat (hr.user ▸ hc)]
  settled := by
    intro i hi
    by_cases he : i = id
    case pos => simp [he, h.settled?_self hs (he ▸ hi)]
    case neg => simp [he, h.settled?_of_ne he, hr.settled i hi]

theorem Recorded.looked {user : υ} {ids : List String} (hr : c.Recorded user ids s) (hs : s.facts = c.facts)
    (l : Link) :
    c.Recorded user (ids ++ (c.looked l s).1.map fun d => d.1.fact) (c.looked l s).2 ∧
    (∀ i o, s.settled? i = some o → (c.looked l s).2.settled? i = some o) ∧
    ∀ d ∈ (c.looked l s).1, c.holder d.1.fact = .question →
      (c.looked l s).2.settled? d.1.fact = some d.2 := by
  refine (@looked_induction _ c s l (fun done t =>
    c.Recorded user (ids ++ done.map fun d => d.1.fact) t ∧
    (∀ i o, s.settled? i = some o → t.settled? i = some o) ∧
    ∀ d ∈ done, c.holder d.1.fact = .question → t.settled? d.1.fact = some d.2) ?_ hs ?_).1
  case refine_2 => exact ⟨by simpa using hr, fun _ _ h => h, fun _ h => nomatch h⟩
  case refine_1 =>
    intro done t t' d _ outcome ht h ⟨hr, hm, hd⟩
    refine ⟨?_, fun i o ho => h.settled?_mono (hm i o ho), fun d' hd' hh => ?_⟩
    · simpa [List.append_assoc] using hr.resolves ht h
    · rcases List.mem_append.mp hd' with hd' | hd'
      · exact h.settled?_mono (hd d' hd' hh)
      · cases List.mem_singleton.mp hd'
        exact h.settled?_self ht hh

theorem says_of_looked {d : Condition} (hs : s.facts = c.facts) (priority : Int64)
    (h : (d, outcome) ∈ (c.looked l s).1) :
    (c.judge l priority s).1.Says (d.check .session outcome) outcome := by
  refine ⟨rfl, fun e he => ?_⟩
  subst he
  rw [error_judge hs]
  exact Store.findSome?_error?_look h rfl

theorem asked_judge (hs : s.facts = c.facts) (priority : Int64) :
    (c.judge l priority s).1.asked = (c.looked l s).1.map fun d => d.1.fact := by
  rw [Verdict.asked, checks_judge hs, List.map_map]
  rfl

theorem Recorded.hear {user : υ} {done : List Verdict} (hr : c.Recorded user (done.flatMap Verdict.asked) s)
    (hs : s.facts = c.facts) (l : Link) (priority : Int64) :
    c.Recorded user ((done ++ [(c.judge l priority s).1]).flatMap Verdict.asked) (c.hear l priority s) := by
  have hr := (hr.looked hs l).1
  rw [← asked_judge hs priority, ← judge_snd hs priority] at hr
  have hw := c.hears l priority s
  rw [List.flatMap_append, List.flatMap_singleton]
  refine ⟨?_, ?_, hr.settled⟩
  · simpa [World.calls, hw.exchanges] using hr.calls
  · simpa [World.calls, hw.exchanges, hw.user] using hr.user

theorem recorded_start (user : υ) (symptoms : List String) : c.Recorded user [] (c.start symptoms user) :=
  ⟨rfl, rfl, fun id _ => by simp [start, Store.start, Store.settled?]⟩

-- At the end of a session all calls are recorded, and every question still has the outcome that was
-- seen whenever it was asked for.
theorem course_recorded (c : Consultation υ) (symptoms : List String) (user : υ) :
    c.Recorded user ((c.course symptoms user).1.flatMap Verdict.asked) (c.course symptoms user).2 ∧
    ∀ v ∈ (c.course symptoms user).1, ∀ d ∈ v.checks, c.holder d.fact = .question →
      ∃ o, (c.course symptoms user).2.settled? d.fact = some o ∧ v.Says d o := by
  refine (course_induction (P := fun verdicts s =>
    c.Recorded user (verdicts.flatMap Verdict.asked) s ∧
    ∀ v ∈ verdicts, ∀ d ∈ v.checks, c.holder d.fact = .question →
      ∃ o, s.settled? d.fact = some o ∧ v.Says d o) ?_ ?_).1
  case refine_2 => exact ⟨recorded_start user symptoms, fun _ h => nomatch h⟩
  case refine_1 =>
    rintro done s l priority _ hs ⟨hr, hd⟩
    have ⟨_, hm, hl⟩ := hr.looked hs l
    rw [← judge_snd hs priority] at hm hl
    refine ⟨hr.hear hs l priority, fun v hv d hdc hh => ?_⟩
    rcases List.mem_append.mp hv with hv | hv
    case inl =>
      obtain ⟨o, ho, hs⟩ := hd v hv d hdc hh
      exact ⟨o, hm _ _ ho, hs⟩
    case inr =>
      cases List.mem_singleton.mp hv
      rw [checks_judge hs] at hdc
      obtain ⟨⟨e, o⟩, he, hc⟩ := List.mem_map.mp hdc
      subst hc
      exact ⟨o, hl _ he hh, says_of_looked hs priority he⟩

end Consultation
end Troubleshoot
