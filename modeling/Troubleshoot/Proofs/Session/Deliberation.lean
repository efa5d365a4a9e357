import Mathlib.Data.List.Forall2
import Troubleshoot.Proofs.Session.Ledger
import Troubleshoot.Proofs.Session.Provenance

namespace Troubleshoot

variable {υ : Type}

section forall₂

variable {α β : Type} {R : α → β → Prop} {as : List α} {bs : List β}

theorem exists_of_forall₂ (h : List.Forall₂ R as bs) {a : α} (ha : a ∈ as) : ∃ b ∈ bs, R a b := by
  induction h
  case nil => cases ha
  case cons b _ bs hr _ ih =>
    rcases List.mem_cons.mp ha with rfl | ha
    case inl => exact ⟨b, List.mem_cons_self .., hr⟩
    case inr =>
      have ⟨b', hb, hr⟩ := ih ha
      exact ⟨b', List.mem_cons_of_mem _ hb, hr⟩

-- Wherever one list is cut, the other can be cut as well.
theorem split_of_forall₂ {b : β} {before after : List β}
    (h : List.Forall₂ R as (before ++ b :: after)) :
    ∃ earlier a later, as = earlier ++ a :: later ∧ List.Forall₂ R earlier before ∧ R a b := by
  induction before generalizing as
  case nil =>
    obtain ⟨a, later, hr, _, rfl⟩ := List.forall₂_cons_right_iff.mp h
    exact ⟨[], a, later, rfl, .nil, hr⟩
  case cons b' before ih =>
    obtain ⟨a', as, hr', ht, rfl⟩ := List.forall₂_cons_right_iff.mp h
    have ⟨earlier, a, later, he, hb, hr⟩ := ih ht
    exact ⟨a' :: earlier, a, later, by rw [he, List.cons_append], .cons hr' hb, hr⟩

end forall₂

namespace Registration

-- Whether a solution worked is registered right after whether the user is able to apply it.
def Paired (rs : List Registration) : Prop :=
  ∀ n k, rs[n]? = some (confirmation k .areYouAble) → k.askDidItWork → rs[n + 1]? = some (confirmation k .didItWork)

theorem Paired.append {rs qs : List Registration} (hr : Paired rs) (hq : Paired qs) : Paired (rs ++ qs) := by
  intro n k hn hk
  by_cases hl : n < rs.length
  case pos =>
    rw [List.getElem?_append_left hl] at hn
    have h := hr n k hn hk
    rwa [List.getElem?_append_left (List.getElem?_eq_some_iff.mp h).1]
  case neg =>
    rw [List.getElem?_append_right (Nat.le_of_not_lt hl)] at hn
    rw [List.getElem?_append_right (by omega), Nat.sub_add_comm (Nat.le_of_not_lt hl)]
    exact hq _ k hn hk

theorem paired_of_no_confirmation {rs : List Registration} (h : ∀ k p, confirmation k p ∉ rs) : Paired rs :=
  fun _ k hn _ => absurd (List.mem_of_getElem? hn) (h k _)

theorem paired_confirmations (k : Solution) : Paired (k.confirmations.map (confirmation k)) := by
  intro n k' hn hk
  cases ha : k.askAreYouAble <;> cases hd : k.askDidItWork <;> simp only [Solution.confirmations, ha, hd] at hn ⊢
  all_goals rcases n with _ | _ | n <;> simp_all

end Registration

theorem Link.paired_registrations (l : Link) : Registration.Paired l.registrations := by
  refine .append (Registration.paired_of_no_confirmation (by simp)) ?_
  cases l
  case candidate s cand k => simpa [confirmations, Function.comp_def] using Registration.paired_confirmations k
  case cause => exact Registration.paired_of_no_confirmation (by simp [confirmations])

namespace KnowledgeBase

variable {kb : KnowledgeBase} {l : Link}

theorem paired_registrations (kb : KnowledgeBase) : Registration.Paired kb.registrations := by
  unfold registrations
  induction kb.links
  case nil => exact Registration.paired_of_no_confirmation (by simp)
  case cons l ls ih => exact .append l.paired_registrations ih

-- What is registered for one link stands together.
theorem exists_offset (hl : l ∈ kb.links) :
    ∃ d : Nat, ∀ (n : Nat) r, l.registrations[n]? = some r → kb.registrations[d + n]? = some r := by
  have ⟨before, after, hs⟩ := List.append_of_mem hl
  refine ⟨(before.flatMap Link.registrations).length, fun n r hr => ?_⟩
  rw [registrations, hs, List.flatMap_append, List.flatMap_cons, List.getElem?_append_right (Nat.le_add_right ..),
    Nat.add_sub_cancel_left, List.getElem?_append_left (List.getElem?_eq_some_iff.mp hr).1, hr]

-- A link has its questions bound before its confirmations.
theorem exists_registered (hl : l ∈ kb.links) {id : String} (hi : id ∈ l.guard.questions) {k : Solution}
    {p : Confirmation} (hp : (k, p) ∈ l.confirmations) :
    ∃ m n : Nat, m < n ∧ kb.registrations[m]? = some (.question id) ∧ kb.registrations[n]? = some (.confirmation k p) := by
  have ⟨d, hd⟩ := exists_offset hl
  have ⟨m, hm⟩ := List.mem_iff_getElem?.mp hi
  have ⟨n, hn⟩ := List.mem_iff_getElem?.mp hp
  have hml := (List.getElem?_eq_some_iff.mp hm).1
  refine ⟨d + m, d + (l.guard.questions.length + n), by omega, hd m _ ?_, hd _ _ ?_⟩
  · rw [Link.registrations, List.getElem?_append_left (by simpa using hml), List.getElem?_map, hm, Option.map_some]
  · rw [Link.registrations, List.getElem?_append_right (by simp), List.length_map, Nat.add_sub_cancel_left,
      List.getElem?_map, hn, Option.map_some]

-- Where an id is registered for the first time.
def firstRegistered (kb : KnowledgeBase) (id : String) : Nat :=
  kb.registrations.findIdx fun r => r.id = id

end KnowledgeBase

namespace Consultation

variable {c : Consultation υ} {id i j : String} {l : Link} {k : Solution} {p : Confirmation} {m n : Nat}
  {r q : Registration}

-- The registration at a position is what a fact of a session goes back to.
structure Origin (c : Consultation υ) (id : String) (n : Nat) (r : Registration) : Prop where
  makes : Registration.Makes c.registrations n r id
  priority : c.facts.priorityOf id = r.priority c.settings (Registration.taken [] (c.registrations.take n))

theorem exists_origin {kind : Binding.Kind} (hk : (c.holder id).kind? = some kind) :
    ∃ n r, c.Origin id n r ∧ r.kind = kind := by
  obtain ⟨hm, ht⟩ := ne_of_kind? hk
  rw [kind?_holder hm ht] at hk
  obtain ⟨b, hb, he⟩ := Option.map_eq_some_iff.mp hk
  obtain ⟨n, r, hr, hp⟩ := Bindings.find?_enterAll_iff.mp hb
  subst hp
  refine ⟨n, r, ⟨hr, ?_⟩, he⟩
  rw [Facts.priorityOf, find?_facts_of_ne hm ht, hb]
  exact Binding.priority_fact ..

theorem exists_origin_question (hh : c.holder id = .question) : ∃ n, c.Origin id n (.question id) := by
  have ⟨n, r, ho, hk⟩ := exists_origin (congrArg Holder.kind? hh)
  cases r <;> cases hk
  cases ho.makes.id_eq
  exact ⟨n, ho⟩

theorem exists_origin_confirmation (hh : c.holder id = .confirmation k p) :
    ∃ n, c.Origin id n (.confirmation k p) := by
  have ⟨n, r, ho, hk⟩ := exists_origin (congrArg Holder.kind? hh)
  cases r <;> cases hk
  exact ⟨n, ho⟩

-- What goes back to a later registration ranks lower.
theorem Origin.priorityOf_lt (hc : c.Counted) (hi : c.Origin i m r) (hj : c.Origin j n q) (hr : ¬r.isPreset)
    (hq : ¬q.isPreset) (h : m < n) : c.facts.priorityOf j < c.facts.priorityOf i := by
  rw [hi.priority, hj.priority]
  exact (Registration.priority_lt_iff hc hi.makes hj.makes hr hq).mpr h

theorem getElem?_registrations (h : c.knowledge.registrations[n]? = some r) : c.registrations[n]? = some r := by
  rw [registrations, List.getElem?_append_left (List.getElem?_eq_some_iff.mp h).1, h]

theorem getElem?_knowledge_registrations (h : c.registrations[n]? = some r) (hr : ¬r.isPreset) :
    c.knowledge.registrations[n]? = some r := by
  rw [registrations, List.getElem?_append] at h
  split at h
  case isTrue => exact h
  case isFalse =>
    obtain ⟨_, _, rfl⟩ := List.mem_map.mp (List.mem_of_getElem? h)
    exact absurd rfl hr

theorem Origin.firstRegistered_eq (h : c.Origin id n (.question id)) : c.knowledge.firstRegistered id = n := by
  have ⟨hl, hn⟩ := List.getElem?_eq_some_iff.mp
    (getElem?_knowledge_registrations h.makes.found Bool.false_ne_true)
  refine (List.findIdx_eq hl).mpr ⟨by rw [hn]; exact decide_eq_true rfl, fun m hm => decide_eq_false fun hi => ?_⟩
  have hf := getElem?_registrations (List.getElem?_eq_getElem (Nat.lt_trans hm hl))
  exact Nat.not_le_of_lt hm (h.makes.le_of_question hf hi)

-- Questions rank in the order in which their ids were registered.
theorem priorityOf_lt_of_firstRegistered (hc : c.Counted) (hi : c.holder i = .question) (hj : c.holder j = .question)
    (h : c.knowledge.firstRegistered i < c.knowledge.firstRegistered j) :
    c.facts.priorityOf j < c.facts.priorityOf i := by
  have ⟨m, hm⟩ := exists_origin_question hi
  have ⟨n, hn⟩ := exists_origin_question hj
  rw [hm.firstRegistered_eq, hn.firstRegistered_eq] at h
  exact hm.priorityOf_lt hc hn Bool.false_ne_true Bool.false_ne_true h

-- The first registration of a question is not later than that for this link, and the last one of a
-- confirmation not earlier.
theorem priorityOf_confirmation_lt (hc : c.Counted) (hl : l ∈ c.knowledge.links) (hi : i ∈ l.guard.questions)
    (hp : (k, p) ∈ l.confirmations) (hq : c.holder i = .question)
    (hk : c.holder (p.factId k.id) = .confirmation k p) :
    c.facts.priorityOf (p.factId k.id) < c.facts.priorityOf i := by
  have ⟨m, hm⟩ := exists_origin_question hq
  have ⟨n, hn⟩ := exists_origin_confirmation hk
  have ⟨m', n', hlt, hm', hn'⟩ := KnowledgeBase.exists_registered hl hi hp
  refine hm.priorityOf_lt hc hn Bool.false_ne_true Bool.false_ne_true ?_
  calc m ≤ m' := hm.makes.le_of_question (getElem?_registrations hm') rfl
    _ < n' := hlt
    _ ≤ n := hn.makes.le_of_firm (getElem?_registrations hn') rfl rfl

-- Wherever it was registered last whether the user is able to apply a solution, it was registered after
-- that whether it worked.
theorem priorityOf_didItWork_lt (hc : c.Counted) (ha : c.holder (Confirmation.areYouAble.factId k.id) =
      .confirmation k .areYouAble) (hd : c.holder (Confirmation.didItWork.factId k.id) = .confirmation k .didItWork)
    (hk : k.askDidItWork) : c.facts.priorityOf (Confirmation.didItWork.factId k.id) <
      c.facts.priorityOf (Confirmation.areYouAble.factId k.id) := by
  have ⟨m, hm⟩ := exists_origin_confirmation ha
  have ⟨n, hn⟩ := exists_origin_confirmation hd
  have hf := c.knowledge.paired_registrations m k
    (getElem?_knowledge_registrations hm.makes.found Bool.false_ne_true) hk
  refine hm.priorityOf_lt hc hn Bool.false_ne_true Bool.false_ne_true ?_
  exact hn.makes.le_of_firm (getElem?_registrations hf) rfl rfl

end Consultation

-- A check together with what was noted for it.
structure Glance where
  check : Check
  notices : List Notice

-- The condition was checked, and it held.
structure Glance.Passes (g : Glance) (d : Condition) : Prop where
  fact : g.check.fact = d.fact
  operator : g.check.operator = d.operator
  value : g.check.value = d.value
  result : g.check.result

-- The conditions on questions in the rule of a link.
def Link.questionConditions (l : Link) : List Condition :=
  l.guard.mustBeYes.map (⟨·, "equal", .string "yes"⟩) ++ l.guard.mustBeNo.map (⟨·, "equal", .string "no"⟩)

theorem Link.confirmations_of_didItWork {l : Link} {k : Solution} (h : (k, .didItWork) ∈ l.confirmations)
    (ha : k.askAreYouAble) : (k, .areYouAble) ∈ l.confirmations ∧ k.askDidItWork := by
  cases l
  case candidate s cand k' =>
    obtain ⟨hp, rfl⟩ : .didItWork ∈ k'.confirmations ∧ k' = k := by simpa [confirmations] using h
    simp_all [confirmations, Solution.confirmations]
  case cause => cases h

theorem Link.mem_questionConditions {l : Link} {d : Condition} (h : d ∈ l.questionConditions) :
    d ∈ l.rule.conditions ∧ d.fact ∈ l.guard.questions := by
  rcases List.mem_append.mp h with h | h <;> obtain ⟨id, hi, rfl⟩ := List.mem_map.mp h
  · exact ⟨mem_conditions_rule.mpr (.inr (.inr (.inl ⟨id, hi, rfl⟩))), List.mem_append_left _ hi⟩
  · exact ⟨mem_conditions_rule.mpr (.inr (.inr (.inr (.inl ⟨id, hi, rfl⟩)))), List.mem_append_right _ hi⟩

namespace Consultation

variable {c : Consultation υ} {s t : Store (World υ)} {id : String} {outcome : Outcome} {l : Link} {k : Solution}
  {p : Confirmation} {d : Condition}

-- Nobody else has the say about what the link had bound.
structure Undisturbed (c : Consultation υ) (l : Link) : Prop where
  question : ∀ id ∈ l.guard.questions, c.holder id = .question
  confirmation : ∀ k p, (k, p) ∈ l.confirmations → c.holder (p.factId k.id) = .confirmation k p

theorem Undisturbed.mem_confirmations (hu : c.Undisturbed l) (hd : d ∈ l.rule.conditions)
    (hh : c.holder d.fact = .confirmation k p) : (k, p) ∈ l.confirmations := by
  rcases Link.mem_conditions_rule.mp hd with
    rfl | ⟨_, rfl⟩ | ⟨id, hi, rfl⟩ | ⟨id, hi, rfl⟩ | ⟨⟨k', p'⟩, he, rfl⟩
  case inl => simp [holder] at hh
  case inr.inl => simp [holder, Bindings.systemTypesFact, Bindings.symptomsFact] at hh
  case inr.inr.inl => cases (hu.question id (List.mem_append_left _ hi)).symm.trans hh
  case inr.inr.inr.inl => cases (hu.question id (List.mem_append_right _ hi)).symm.trans hh
  case inr.inr.inr.inr =>
    cases (hu.confirmation k' p' he).symm.trans hh
    exact he

-- What is noted when a fact is asked for.
inductive Notes (c : Consultation υ) (id : String) : Outcome → List Notice → Prop
  | nothing {outcome : Outcome} (hh : (c.holder id).confirmation? = none) : Notes c id outcome []
  | failed (e : FactError) : Notes c id (.error e) []
  | asked {q : Question} (hh : c.holder id = .question) (hq : q.id = id) (outcome : Outcome)
    (answer : Except String Answer) :
    Notes c id outcome ((Call.question q).notices answer)
  | confirmed {k : Solution} {p : Confirmation} (hh : c.holder id = .confirmation k p) (r : Reaction) :
    Notes c id (r.reply id).outcome ((Call.confirmation k p).notices r.answer)

theorem Resolves.notes (h : c.Resolves s id outcome t) :
    ∃ ns : List Notice, t.world.trace = s.world.trace ++ ns ∧ c.Notes id outcome ns := by
  cases h
  case unconfirmed => exact ⟨[], (List.append_nil _).symm, .failed _⟩
  case confirmed hh hr => exact ⟨_, by rw [Store.observe_world]; rfl, .confirmed hh _⟩
  case asked hh _ _ hq =>
    exact ⟨_, by rw [Store.settle_world]; rfl, .asked hh (KnowledgeBase.id_of_question? hq) _ _⟩
  all_goals exact ⟨[], by simp, .nothing (by simp_all [Holder.confirmation?])⟩

theorem Notes.call {ns : List Notice} (h : c.Notes id outcome ns) :
    ns = [] ∨ ∃ call answer, ns = Call.notices call answer ∧ call.factId = id := by
  cases h
  case asked _ hq _ => exact .inr ⟨_, _, rfl, hq⟩
  case confirmed hh _ => exact .inr ⟨_, _, rfl, factId_of_holder hh⟩
  all_goals exact .inl rfl

theorem Notes.holder_eq {ns : List Notice} (h : c.Notes id outcome ns) (hm : .confirmation k p ∈ ns) :
    c.holder id = .confirmation k p := by
  cases h <;> simp [Call.notices] at hm
  case confirmed hh _ =>
    obtain ⟨rfl, rfl⟩ := hm
    exact hh

-- Only the word yes confirms.
theorem Notes.eq_of_yes {ns : List Notice} (h : c.Notes id (.ok (.string "yes")) ns)
    (hh : c.holder id = .confirmation k p) : ns = (Call.confirmation k p).notices (.ok .yes) := by
  generalize ho : Except.ok (Json.string "yes") = outcome at h
  cases h
  case nothing hn => simp [hh, Holder.confirmation?] at hn
  case failed => cases ho
  case asked hh' _ _ => cases hh.symm.trans hh'
  case confirmed hh' r =>
    cases hh.symm.trans hh'
    obtain ⟨a, ha, hy⟩ := Reaction.answer_of_reply ho.symm
    rw [ha, Answer.toJson_eq_string_iff.mp hy.symm]
    rfl

-- A condition that was looked at, with its outcome, as a check with what was noted for it.
structure Shows (c : Consultation υ) (e : Condition × Outcome) (g : Glance) : Prop where
  check : g.check = e.1.check .session e.2
  notes : c.Notes e.1.fact e.2 g.notices

theorem Shows.passes {e : Condition × Outcome} {g : Glance} (h : c.Shows e g) (he : e.1.holds .session e.2) :
    g.Passes e.1 := by
  refine ⟨?_, ?_, ?_, ?_⟩ <;> rw [h.check]
  case refine_4 => exact he
  all_goals rfl

theorem looked_glances (hs : s.facts = c.facts) (l : Link) :
    ∃ glances : List Glance, (c.looked l s).2.world.trace = s.world.trace ++ glances.flatMap (·.notices) ∧
      List.Forall₂ c.Shows (c.looked l s).1 glances := by
  refine (@looked_induction _ c s l (fun done t => ∃ glances : List Glance,
    t.world.trace = s.world.trace ++ glances.flatMap (·.notices) ∧ List.Forall₂ c.Shows done glances)
    ?_ hs ⟨[], by simp, .nil⟩).1
  intro done t t' d _ outcome _ h ⟨glances, ht, hg⟩
  have ⟨ns, ht', hn⟩ := h.notes
  refine ⟨glances ++ [⟨d.check .session outcome, ns⟩], by simp [ht', ht], ?_⟩
  exact List.rel_append hg (.cons ⟨rfl, hn⟩ .nil)

-- What ranks higher was looked at before, and it held.
theorem mem_before_of_lt {before after : List (Condition × Outcome)} {e : Condition × Outcome}
    (he : (c.looked l s).1 = before ++ e :: after) (hd : d ∈ l.rule.conditions)
    (hlt : c.facts.priorityOf e.1.fact < c.facts.priorityOf d.fact) :
    ∃ b ∈ before, b.1 = d ∧ b.1.holds .session b.2 := by
  obtain ⟨rest, hr⟩ := Store.map_fst_look_prefix s .session (c.conditions l)
  have hh : (c.looked l s).1.Pairwise fun e _ => e.1.holds .session e.2 := Store.pairwise_look ..
  have hw : (c.conditions l).Pairwise fun a b => c.facts.priorityOf a.fact ≥ c.facts.priorityOf b.fact :=
    Ranking.sort_sorted _ _
  have hm : d ∈ c.conditions l := mem_conditions.mpr hd
  rw [← looked, he, List.map_append, List.map_cons, List.append_assoc, List.cons_append] at hr
  rw [he] at hh
  rw [← hr] at hw hm
  have hb : d ∈ before.map Prod.fst := by
    rcases List.mem_append.mp hm with hm | hm
    case inl => exact hm
    case inr =>
      rcases List.mem_cons.mp hm with rfl | hm
      · exact (Int64.lt_irrefl hlt).elim
      · exact absurd hlt (Int64.not_lt.mpr ((List.pairwise_cons.mp (List.pairwise_append.mp hw).2.1).1 d hm))
  obtain ⟨b, hb, hbd⟩ := List.mem_map.mp hb
  exact ⟨b, hb, hbd, (List.pairwise_append.mp hh).2.2 b hb e (List.mem_cons_self ..)⟩

-- The order of an evaluation: nobody is called but for the fact that is checked, a question is not checked
-- before those that were registered before it have passed, no confirmation is asked for before all of them
-- have, and whether a solution worked only once the user was able to apply it.
structure InOrder (c : Consultation υ) (l : Link) (glances : List Glance) : Prop where
  call : ∀ g ∈ glances, g.notices = [] ∨ ∃ call answer, g.notices = Call.notices call answer ∧
    call.factId = g.check.fact
  question : ∀ before g after, glances = before ++ g :: after → g.check.fact ∈ l.guard.questions →
    ∀ d ∈ l.questionConditions,
      c.knowledge.firstRegistered d.fact < c.knowledge.firstRegistered g.check.fact → ∃ g' ∈ before, g'.Passes d
  confirmation : ∀ before g after k p, glances = before ++ g :: after → .confirmation k p ∈ g.notices →
    (k, p) ∈ l.confirmations ∧ ∀ d ∈ l.questionConditions, ∃ g' ∈ before, g'.Passes d
  didItWork : ∀ before g after k, glances = before ++ g :: after → .confirmation k .didItWork ∈ g.notices →
    k.askAreYouAble → ∃ g' ∈ before, g'.notices = (Call.confirmation k .areYouAble).notices (.ok .yes)

-- What stands behind a glance, and what is known to have come before it.
theorem exists_behind {before after glances : List Glance} {g : Glance}
    (h : List.Forall₂ c.Shows (c.looked l s).1 glances) (hg : glances = before ++ g :: after) :
    ∃ e, c.Shows e g ∧ e.1 ∈ l.rule.conditions ∧ ∀ d ∈ l.rule.conditions,
      c.facts.priorityOf e.1.fact < c.facts.priorityOf d.fact →
        ∃ g' ∈ before, ∃ b, c.Shows b g' ∧ b.1 = d ∧ b.1.holds .session b.2 := by
  subst hg
  obtain ⟨earlier, e, later, he, hb, hr⟩ := split_of_forall₂ h
  refine ⟨e, hr, ?_, fun d hd hlt => ?_⟩
  case refine_1 =>
    refine mem_conditions.mp ((Store.map_fst_look_prefix s .session (c.conditions l)).subset ?_)
    rw [← looked, he]
    exact List.mem_map_of_mem (List.mem_append_right _ (List.mem_cons_self ..))
  case refine_2 =>
    obtain ⟨b, hm, hbd⟩ := mem_before_of_lt he hd hlt
    obtain ⟨g', hg', hs⟩ := exists_of_forall₂ hb hm
    exact ⟨g', hg', b, hs, hbd⟩

theorem inOrder_looked (hc : c.Counted) (hl : l ∈ c.knowledge.links) (hu : c.Undisturbed l) {glances : List Glance}
    (h : List.Forall₂ c.Shows (c.looked l s).1 glances) : c.InOrder l glances where
  call g hg := by
    have ⟨before, after, hg⟩ := List.append_of_mem hg
    have ⟨e, hs, _⟩ := exists_behind h hg
    rw [hs.check]
    exact hs.notes.call
  question before g after hg hm d hd hlt := by
    have ⟨e, hs, he, hb⟩ := exists_behind h hg
    rw [hs.check] at hm hlt
    have ⟨hdr, hdq⟩ := Link.mem_questionConditions hd
    have ⟨g', hg', b, hs', hbd, hh⟩ := hb d hdr
      (priorityOf_lt_of_firstRegistered hc (hu.question _ hdq) (hu.question _ hm) hlt)
    exact ⟨g', hg', hbd ▸ hs'.passes hh⟩
  confirmation before g after k p hg hm := by
    have ⟨e, hs, he, hb⟩ := exists_behind h hg
    have hh := hs.notes.holder_eq hm
    have hk := hu.mem_confirmations he hh
    refine ⟨hk, fun d hd => ?_⟩
    have ⟨hdr, hdq⟩ := Link.mem_questionConditions hd
    have ⟨g', hg', b, hs', hbd, hh⟩ := hb d hdr (by
      rw [← factId_of_holder hh]
      exact priorityOf_confirmation_lt hc hl hdq hk (hu.question _ hdq) (hu.confirmation k p hk))
    exact ⟨g', hg', hbd ▸ hs'.passes hh⟩
  didItWork before g after k hg hm ha := by
    have ⟨e, hs, he, hb⟩ := exists_behind h hg
    have hh := hs.notes.holder_eq hm
    have hk := hu.mem_confirmations he hh
    have hka := Link.confirmations_of_didItWork hk ha
    have hha := hu.confirmation k .areYouAble hka.1
    have ⟨g', hg', b, hs', hbd, hy⟩ := hb ⟨Confirmation.areYouAble.factId k.id, "equal", .string "yes"⟩
      (Link.mem_conditions_rule.mpr (.inr (.inr (.inr (.inr ⟨_, hka.1, rfl⟩))))) (by
        rw [← factId_of_holder hh]
        exact priorityOf_didItWork_lt hc hha (hu.confirmation k .didItWork hk) hka.2)
    obtain ⟨d, outcome⟩ := b
    subst hbd
    refine ⟨g', hg', Notes.eq_of_yes ?_ hha⟩
    exact Condition.holds_equal_iff.mp hy ▸ hs'.notes

-- What is noted of the rule of a link comes check by check, and nobody is called after the verdict.
structure Deliberates (c : Consultation υ) (l : Link) (e : Episode) (glances : List Glance) : Prop where
  name : e.verdict.name = l.rule.name
  event : e.verdict.event = l.rule.event
  evaluation : e.evaluation = glances.flatMap (·.notices)
  checks : e.verdict.checks = glances.map (·.check)
  aftermath : ∀ n ∈ e.aftermath, ¬n.isCall
  order : c.Undisturbed l → c.InOrder l glances

theorem map_check_of_shows {looked : List (Condition × Outcome)} {glances : List Glance}
    (h : List.Forall₂ c.Shows looked glances) :
    looked.map (fun d => d.1.check .session d.2) = glances.map (·.check) := by
  induction h
  case nil => rfl
  case cons hs _ ih => rw [List.map_cons, List.map_cons, hs.check, ih]

theorem deliberates_judge (hc : c.Counted) (hl : l ∈ c.knowledge.links) (hs : s.facts = c.facts) (priority : Int64) :
    ∃ e glances, e.verdict = (c.judge l priority s).1 ∧ c.Deliberates l e glances ∧
      (c.hear l priority s).world.trace = s.world.trace ++ e.notices := by
  have ⟨glances, ht, hg⟩ := looked_glances hs l
  have ⟨aftermath, ht', ha⟩ := World.trace_hear (c.judge l priority s).1 (c.judge l priority s).2.world
  refine ⟨⟨glances.flatMap (·.notices), (c.judge l priority s).1, aftermath⟩, glances, rfl,
    ⟨rfl, rfl, rfl, (checks_judge hs).trans (map_check_of_shows hg), ha,
      fun hu => inOrder_looked hc hl hu hg⟩, ?_⟩
  rw [hear, ht', judge_snd hs, ht, Episode.notices, List.append_assoc]

-- What is told of a session, rule by rule.
structure Narrates {α : Type} (Q : α → Episode → Prop) (about : List α) (verdicts : List Verdict)
    (trace : List Notice) (episodes : List Episode) : Prop where
  notices : trace = episodes.flatMap Episode.notices
  heard : episodes.map (·.verdict) = verdicts
  each : List.Forall₂ Q about episodes

theorem Narrates.concat {α : Type} {Q : α → Episode → Prop} {about : List α} {done : List Verdict}
    {trace : List Notice} {episodes : List Episode} {a : α} {e : Episode}
    (h : Narrates Q about done trace episodes) (he : Q a e) :
    Narrates Q (about ++ [a]) (done ++ [e.verdict]) (trace ++ e.notices) (episodes ++ [e]) where
  notices := by simp [h.notices]
  heard := by simp [h.heard]
  each := List.rel_append h.each (.cons he .nil)

-- If each rule can be told of in some way, so can the session.
theorem course_narrates {Q : Link → Episode → Prop} {seed : List String} {user : υ}
    (step : ∀ l ∈ c.knowledge.links, ∀ s priority, s.facts = c.facts → ∃ e : Episode,
      e.verdict = (c.judge l priority s).1 ∧ Q l e ∧ (c.hear l priority s).world.trace = s.world.trace ++ e.notices) :
    ∃ episodes, Narrates Q c.knowledge.links (c.course seed user).1 (c.course seed user).2.world.trace episodes := by
  have ⟨⟨episodes, h⟩, hn⟩ := @course_induction _ c
    (fun done s => ∃ episodes, Narrates Q (c.knowledge.links.take done.length) done s.world.trace episodes) seed user
    (fun done s l priority hl hs ⟨episodes, h⟩ => by
      have ⟨e, hv, hq, ht⟩ := step l (List.mem_of_getElem? hl) s priority hs
      refine ⟨episodes ++ [e], ?_⟩
      rw [List.length_append, List.length_singleton, List.take_add_one, hl, Option.toList_some, ht, ← hv]
      exact h.concat hq)
    ⟨[], rfl, rfl, .nil⟩
  rw [hn, List.take_length] at h
  exact ⟨episodes, h⟩

-- Nothing that the other links register gets into the order of an evaluation.
theorem run_inOrder (hv : c.settings.Valid) (hn : c.knowledge.Numbered) (seed : List String) (user : υ) :
    c.Ends seed user fun d w => ∃ episodes,
      Narrates (fun l e => ∃ glances, c.Deliberates l e glances) c.knowledge.links d.verdicts w.trace episodes := by
  refine .of_course hv hn fun hc => ?_
  exact @course_narrates _ c (fun l e => ∃ glances, c.Deliberates l e glances) seed user
    (fun l hl s priority hs => by
      have ⟨e, glances, hd, h, ht⟩ := deliberates_judge hc hl hs priority
      exact ⟨e, hd, ⟨glances, h⟩, ht⟩)

-- Both the question and the confirmations of the first rule are left to it.
theorem run_inOrder_water :
    ((water Nat.succ).settings.Valid ∧ (water Nat.succ).knowledge.Numbered ∧ (water Nat.succ).Counted) ∧
    (∀ l ∈ (water Nat.succ).knowledge.links, (water Nat.succ).Undisturbed l) ∧
    ∃ d w, (water Nat.succ).run ["Symptom1"] 0 = .ok (.ok (d, w)) ∧ ∃ episodes,
      Narrates (fun l e => ∃ glances, (water Nat.succ).Deliberates l e glances) (water Nat.succ).knowledge.links
        d.verdicts w.trace episodes := by
  have hv : (water Nat.succ).settings.Valid := by decide
  have hn : (water Nat.succ).knowledge.Numbered := by decide
  have hc : (water Nat.succ).Counted := by decide +kernel
  let k : Solution := ⟨"Solution1", "Change the filter", none, none, none, true, true⟩
  have hq : ∀ id ∈ ["Question1", "Question2"], (water Nat.succ).holder id = .question := by
    simp only [List.forall_mem_cons]
    exact ⟨rfl, rfl, nofun⟩
  have hk : ∀ p ∈ [(k, .areYouAble), (k, .didItWork)],
      (water Nat.succ).holder (p.2.factId p.1.id) = .confirmation p.1 p.2 := by
    simp only [List.forall_mem_cons]
    exact ⟨rfl, rfl, nofun⟩
  refine ⟨⟨hv, hn, hc⟩, fun l hl => ⟨fun id hi => hq id ?_, fun k p hp => hk (k, p) ?_⟩,
    (run_inOrder hv hn ["Symptom1"] 0).held hc⟩
  case refine_1 => exact (by decide : ∀ l ∈ KnowledgeBase.water.links, ∀ id ∈ l.guard.questions, id ∈ _) l hl id hi
  case refine_2 => exact (by decide : ∀ l ∈ KnowledgeBase.water.links, ∀ p ∈ l.confirmations, p ∈ _) l hl (k, p) hp

end Consultation
end Troubleshoot
