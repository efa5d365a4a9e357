import Troubleshoot.Proofs.Session.Consultation

namespace Troubleshoot

variable {υ : Type}

-- A call of one of the respondent's callbacks.
inductive Call where
  | question (q : Question)
  | confirmation (s : Solution) (c : Confirmation)
deriving DecidableEq

-- The fact that a call is about.
def Call.factId : Call → String
  | question q => q.id
  | confirmation s c => c.factId s.id

-- Who watches is told of a call before it is made, and again once it is answered.
def Call.notices : Call → Except String Answer → List Notice
  | question q, answer => [.question q, .asked q answer]
  | confirmation s c, answer => [.confirmation s c, .confirmed s c answer]

-- The world once the respondent has reacted to a call.
def World.called (w : World υ) (call : Call) (r : Reaction × υ) : World υ :=
  { w with user := r.2, trace := w.trace ++ call.notices r.1.answer }

theorem Question.provider_eq_called {kb : KnowledgeBase} {r : Respondent υ} {id : String} {q : Question}
    {ask : Question → υ → Reaction × υ} (hr : r.question = some ask) (hq : kb.question? id = some q)
    (w : World υ) :
    provider kb r id w = ((ask q w.user).1.reply id, w.called (.question q) (ask q w.user)) := by
  simp [provider, hr, hq, World.called, World.note, Call.notices]

theorem Confirmation.provider_eq_called {r : Respondent υ} {s : Solution} {k : Confirmation}
    {confirm : Solution → Confirmation → υ → Reaction × υ} (hr : r.confirmation = some confirm)
    (w : World υ) :
    provider r s k w =
      ((confirm s k w.user).1.reply (k.factId s.id), w.called (.confirmation s k) (confirm s k w.user)) := by
  simp [provider, hr, World.called, World.note, Call.notices]

namespace Consultation

variable {c : Consultation υ} {s : Store (World υ)} {id : String}

-- All that can come of asking for a fact in a session.
inductive Resolves (c : Consultation υ) (s : Store (World υ)) (id : String) :
    Outcome → Store (World υ) → Prop
  | memory (hh : c.holder id = .memory) :
    Resolves c s id (.ok s.world.memory.toJson) (s.observe id (.ok s.world.memory.toJson))
  | systemTypes (hh : c.holder id = .systemTypes) :
    Resolves c s id (.ok (.ofStrings c.systemTypes)) (s.observe id (.ok (.ofStrings c.systemTypes)))
  | preset {value : Json} (hh : c.holder id = .preset value) :
    Resolves c s id (.ok value) (s.observe id (.ok value))
  | nobody (hh : c.holder id = .nobody) :
    Resolves c s id (if s.lenient then .ok .null else .error (.undefined id)) s
  | unconfirmed {k : Solution} {p : Confirmation} (hh : c.holder id = .confirmation k p)
    (hr : c.respondent.confirmation = none) : Resolves c s id (.error (.missingCallback id)) s
  | confirmed {k : Solution} {p : Confirmation} {confirm : Solution → Confirmation → υ → Reaction × υ}
    (hh : c.holder id = .confirmation k p) (hr : c.respondent.confirmation = some confirm) :
    Resolves c s id ((confirm k p s.world.user).1.reply id).outcome
      ({ s with world := s.world.called (.confirmation k p) (confirm k p s.world.user) }.observe id
        ((confirm k p s.world.user).1.reply id).outcome)
  | remembered {outcome : Outcome} (hh : c.holder id = .question) (hs : s.settled? id = some outcome) :
    Resolves c s id outcome (s.observe id outcome)
  | unanswerable {e : FactError} (hh : c.holder id = .question) (hs : s.settled? id = none)
    (hr : c.respondent.question = none ∨ c.knowledge.question? id = none) :
    Resolves c s id (.error e) (s.settle id (.error e))
  | asked {q : Question} {ask : Question → υ → Reaction × υ} (hh : c.holder id = .question)
    (hs : s.settled? id = none) (hr : c.respondent.question = some ask)
    (hq : c.knowledge.question? id = some q) :
    Resolves c s id ((ask q s.world.user).1.reply id).outcome
      ({ s with world := s.world.called (.question q) (ask q s.world.user) }.settle id
        ((ask q s.world.user).1.reply id).outcome)

-- What is bound before a session starts is none of the session's own facts.
theorem ne_of_kind? {kind : Binding.Kind} (hk : (c.holder id).kind? = some kind) :
    id ≠ Bindings.symptomsFact ∧ id ≠ Bindings.systemTypesFact := by
  grind [holder, Holder.kind?]

theorem find?_facts_of_kind? {kind : Binding.Kind} (hk : (c.holder id).kind? = some kind) :
    ∃ priority, c.facts.find? id = some (Binding.fact c.knowledge c.respondent id ⟨kind, priority⟩) := by
  obtain ⟨hm, ht⟩ := ne_of_kind? hk
  rw [kind?_holder hm ht] at hk
  rw [find?_facts_of_ne hm ht]
  obtain ⟨b, hb, he⟩ := Option.map_eq_some_iff.mp hk
  exact ⟨b.priority, by rw [hb, ← he]; rfl⟩

theorem find?_facts_of_question (hh : c.holder id = .question) :
    ∃ f, c.facts.find? id = some f ∧ f.cached := by
  obtain ⟨_, hf⟩ := find?_facts_of_kind? (congrArg Holder.kind? hh)
  exact ⟨_, hf, rfl⟩

theorem resolves_confirmation {k : Solution} {p : Confirmation} (hs : s.facts = c.facts)
    (hh : c.holder id = .confirmation k p) : c.Resolves s id (s.resolve id).1 (s.resolve id).2 := by
  obtain ⟨_, hf⟩ := find?_facts_of_kind? (congrArg Holder.kind? hh)
  rw [Store.resolve_of_uncached (hs ▸ hf)]
  cases hr : c.respondent.confirmation
  case none =>
    have hp : Confirmation.provider c.respondent k p s.world =
        (⟨.error (.missingCallback id), 0⟩, s.world) := by
      simp [Confirmation.provider, hr, factId_of_holder hh]
    rw [hp]
    exact .unconfirmed hh hr
  case some confirm =>
    rw [Confirmation.provider_eq_called hr, factId_of_holder hh]
    exact .confirmed hh hr

theorem resolves_question (hs : s.facts = c.facts) (hh : c.holder id = .question) :
    c.Resolves s id (s.resolve id).1 (s.resolve id).2 := by
  obtain ⟨_, hf⟩ := find?_facts_of_kind? (congrArg Holder.kind? hh)
  cases hv : s.settled? id
  case some outcome =>
    rw [Store.resolve_of_settled (hs ▸ hf) hv]
    exact .remembered hh hv
  case none =>
    rw [Store.resolve_of_unsettled (hs ▸ hf) hv]
    cases hr : c.respondent.question
    case none =>
      have hp : Question.provider c.knowledge c.respondent id s.world =
          (⟨.error (.missingCallback id), 0⟩, s.world) := by
        simp [Question.provider, hr]
      rw [hp]
      exact .unanswerable hh hv (.inl hr)
    case some ask =>
      cases hq : c.knowledge.question? id
      case none =>
        have hp : Question.provider c.knowledge c.respondent id s.world =
            (⟨.error (.rejected id "no such diagnostic question"), 0⟩, s.world) := by
          simp [Question.provider, hr, hq]
        rw [hp]
        exact .unanswerable hh hv (.inr hq)
      case some q =>
        rw [Question.provider_eq_called hr hq]
        exact .asked hh hv hr hq

theorem resolves (hs : s.facts = c.facts) (id : String) :
    c.Resolves s id (s.resolve id).1 (s.resolve id).2 := by
  by_cases hm : id = Bindings.symptomsFact
  case pos =>
    rw [Store.resolve_of_uncached (by rw [hs, hm, c.find?_facts_memory])]
    exact .memory (by simp [holder, hm])
  case neg =>
    by_cases ht : id = Bindings.systemTypesFact
    case pos =>
      rw [Store.resolve_of_constant (by rw [hs, ht, c.find?_facts_systemTypes, Fact.constant])]
      exact .systemTypes (by simp [holder, ht, Bindings.systemTypesFact, Bindings.symptomsFact])
    case neg =>
      cases hh : c.holder id
      case memory | systemTypes =>
        simp only [holder] at hh
        grind
      case preset value =>
        obtain ⟨_, hf⟩ := find?_facts_of_kind? (congrArg Holder.kind? hh)
        rw [Store.resolve_of_constant (hs ▸ hf)]
        exact .preset hh
      case nobody =>
        have hk := Option.map_eq_none_iff.mp ((kind?_holder hm ht).symm.trans (congrArg Holder.kind? hh))
        rw [Store.resolve_of_unknown (by rw [hs, find?_facts_of_ne hm ht, hk, Option.map_none])]
        exact .nobody hh
      case confirmation k p => exact resolves_confirmation hs hh
      case question => exact resolves_question hs hh

end Consultation
end Troubleshoot
