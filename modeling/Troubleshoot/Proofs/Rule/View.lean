import Troubleshoot.Proofs.Rule.Lockstep
import Troubleshoot.Proofs.Rule.Meaning

namespace Troubleshoot

variable {σ : Type} {α : Type} {view : σ → α}

-- A fact sees no more of a world than a view, and leaves that as it is. A cached fact does not even see that.
def Fact.Sees (view : σ → α) (f : Fact σ) : Prop :=
  ∀ provider, f.source = .provider provider → ∀ w, view (provider w).2 = view w ∧
    ∀ x, view w = view x ∨ f.cached → (provider w).1.outcome = (provider x).1.outcome

def Facts.Sees (view : σ → α) (facts : Facts σ) : Prop :=
  ∀ id f, facts.find? id = some f → f.Sees view

namespace Facts.Sees

variable {facts : Facts σ} {f : Fact σ}

theorem add (h : facts.Sees view) (hf : f.Sees view) : (facts.add f).Sees view := by
  intro id g hg
  rw [Facts.add, Table.find?_insert] at hg
  split at hg
  case isTrue => exact Option.some.inj hg ▸ hf
  case isFalse => exact h id g hg

theorem outcome_eq_of_fact {id : String} {w x : σ} (hf : facts.find? id = some f) (h : f.Sees view)
    (hv : view w = view x ∨ f.cached) (lenient : Bool) : facts.outcome lenient w id = facts.outcome lenient x id := by
  cases hs : f.source
  case constant => rw [outcome_of_constant hf hs, outcome_of_constant hf hs]
  case provider provider =>
    rw [outcome_of_provider hf hs, outcome_of_provider hf hs]
    exact (h provider hs w).2 x hv

-- What facts come to depends on nothing but the view.
theorem outcome_eq (h : facts.Sees view) {w x : σ} (hv : view w = view x) (lenient : Bool) :
    facts.outcome lenient w = facts.outcome lenient x := by
  funext id
  cases hf : facts.find? id
  case none => rw [outcome_of_unknown hf, outcome_of_unknown hf]
  case some f => exact outcome_eq_of_fact hf (h id f hf) (.inl hv) lenient

end Facts.Sees

namespace Store

-- All outcomes are what the facts come to in worlds of the view of `w`, and those that are remembered are
-- that in any world.
structure Shows (view : σ → α) (facts : Facts σ) (lenient : Bool) (w : σ) (s : Store σ)
    (taken pending : List Reading) : Prop where
  facts_eq : s.facts = facts
  lenient_eq : s.lenient = lenient
  view_eq : view s.world = view w
  kept : ∀ id outcome, s.cells.find? id = some (.settled outcome) → ∀ x, outcome = facts.outcome lenient x id
  past : ∀ r ∈ taken, r.2 = facts.outcome lenient w r.1
  coming : ∀ r ∈ pending, r.2 = facts.outcome lenient w r.1

variable {facts : Facts σ} {lenient : Bool} {w : σ} {s t : Store σ} {taken pending : List Reading} {id : String}
  {outcome : Outcome} {reply : Reply}

namespace Shows

theorem outcome_of_reads (h : s.Shows view facts lenient w taken pending) (hr : s.Reads id outcome t) :
    outcome = facts.outcome lenient w id := by
  cases hr
  case unknown hf => rw [h.lenient_eq, Facts.outcome_of_unknown (h.facts_eq ▸ hf)]
  case constant hf hs => rw [Facts.outcome_of_constant (h.facts_eq ▸ hf) hs]
  case remembered ho => exact h.kept id _ ho w

theorem reads (h : s.Shows view facts lenient w taken pending) (hr : s.Reads id outcome t) :
    t.Shows view facts lenient w ((id, outcome) :: taken) pending where
  facts_eq := hr.facts.trans h.facts_eq
  lenient_eq := hr.lenient.trans h.lenient_eq
  view_eq := hr.world ▸ h.view_eq
  kept i o hc := h.kept i o (hr.cells ▸ hc)
  past := List.forall_mem_cons.mpr ⟨h.outcome_of_reads hr, h.past⟩
  coming := h.coming

theorem called (hs : facts.Sees view) (h : s.Shows view facts lenient w taken pending) (hr : s.Calls id reply t) :
    t.Shows view facts lenient w taken ((id, reply.outcome) :: pending) := by
  cases hr
  case intro f provider hf hp hc =>
    rw [h.facts_eq] at hf
    have ho : (provider s.world).1.outcome = facts.outcome lenient w id := by
      rw [← hs.outcome_eq h.view_eq, Facts.outcome_of_provider hf hp]
    refine ⟨setCell_facts.trans h.facts_eq, setCell_lenient.trans h.lenient_eq, ?view, fun i o hi => ?kept, h.past,
      List.forall_mem_cons.mpr ⟨ho, h.coming⟩⟩
    case view =>
      rw [setCell_world]
      exact (hs id f hf provider hp s.world).1.trans h.view_eq
    case kept =>
      cases find?_cells_of_setCell hi
      case inl hi => cases hi.2.1
      case inr hi => exact h.kept i o hi.2

theorem settle (hs : facts.Sees view) (h : s.Shows view facts lenient w taken ((id, outcome) :: pending)) :
    (s.settle id outcome).Shows view facts lenient w ((id, outcome) :: taken) pending := by
  have ⟨ho, hp⟩ := List.forall_mem_cons.mp h.coming
  have ho : outcome = facts.outcome lenient w id := ho
  refine ⟨settle_facts.trans h.facts_eq, settle_lenient.trans h.lenient_eq, ?view, fun i o hi => ?kept,
    List.forall_mem_cons.mpr ⟨ho, h.past⟩, hp⟩
  case view => exact (congrArg view settle_world).trans h.view_eq
  case kept =>
    rw [Store.settle, observe_cells] at hi
    rcases find?_cells_of_setCell hi with ⟨he, hc, f, hf, hcached⟩ | ⟨_, hi⟩
    case inr => exact h.kept i o hi
    case inl =>
      cases he
      cases hc
      rw [h.facts_eq] at hf
      intro x
      exact ho.trans (Facts.Sees.outcome_eq_of_fact hf (hs id f hf) (.inr hcached) lenient)

-- Once nobody is left who asks, only what is remembered counts.
theorem next (h : s.Shows view facts lenient w taken []) (x : σ) :
    Store.Shows view facts lenient x { s with world := x } [] [] :=
  ⟨h.facts_eq, h.lenient_eq, rfl, h.kept, nofun, nofun⟩

theorem start (facts : Facts σ) (lenient : Bool) (w : σ) :
    (Store.start facts lenient w).Shows view facts lenient w [] [] :=
  ⟨rfl, rfl, rfl, fun id outcome h => by simp [Store.start] at h, nofun, nofun⟩

end Shows

theorem lasting_shows (hs : facts.Sees view) (lenient : Bool) (w : σ) :
    Lasting (Shows view facts lenient w) where
  perm h ht hp := { h with
    past := fun r hr => h.past r (ht.mem_iff.mpr hr)
    coming := fun r hr => h.coming r (hp.mem_iff.mpr hr) }
  read h hr := h.reads hr
  called h hr := h.called hs hr
  settled h := h.settle hs

end Store

-- Verdicts on the same rule with the same result, whatever was looked at to reach them.
structure Verdict.Agrees (v v' : Verdict) : Prop where
  name : v.name = v'.name
  priority : v.priority = v'.priority
  result : v.result = v'.result
  event : v.event = v'.event

namespace RuleSet

variable {a b : RuleSet σ} {facts facts' : Facts σ} {lenient : Bool} {w x : σ} {s t : Store σ} {rules : List Rule}

-- Evaluating rules shows what they mean in the view that the store has of its world.
theorem evaluate_shows (a : RuleSet σ) (hf : facts.Sees view) (hs : s.Idle)
    (h : s.Shows view facts lenient w [] []) (rules : List Rule) :
    (a.evaluate rules s).1 = a.meanings rules facts lenient w ∧
    ∃ taken, (a.evaluate rules s).2.Shows view facts lenient w taken [] := by
  have ⟨trials, hr, hv, hc, hi⟩ := a.evaluate_lasting (Store.lasting_shows hf lenient w) hs h rules
  refine ⟨?_, _, hi⟩
  rw [hv, meanings, ← hr, List.map_map, h.facts_eq] at *
  refine List.map_congr_left fun t ht => (hc t ht).verdict_eq fun r hm => hi.past r ?_
  exact List.mem_append_left _ (List.mem_flatMap.mpr ⟨t, ht, hm⟩)

theorem meanings_agree (ho : a.operators = b.operators) (hw : facts.outcome lenient w = facts'.outcome lenient x) :
    List.Forall₂ Verdict.Agrees (a.meanings rules facts lenient w) (b.meanings rules facts' lenient x) := by
  refine List.forall₂_map_left_iff.mpr (List.forall₂_map_right_iff.mpr (List.forall₂_same.mpr fun r _ => ?_))
  exact ⟨rfl, rfl, by simp only [Rule.meaning, ho, hw], rfl⟩

variable {notify : Listener σ}

theorem view_notifyAll (hn : ∀ v v' w x, v.Agrees v' → view w = view x → view (notify v w) = view (notify v' x))
    {vs vs' : List Verdict} (h : List.Forall₂ Verdict.Agrees vs vs') (hv : view s.world = view t.world) :
    view (notifyAll notify vs s).world = view (notifyAll notify vs' t).world := by
  induction h generalizing s t
  case nil => exact hv
  case cons v v' _ _ h _ ih =>
    exact @ih { s with world := notify v s.world } { t with world := notify v' t.world } (hn v v' _ _ h hv)

-- Rules come to the same by other facts that give the same answers, if who hears of them sees to it that
-- the views stay the same.
theorem runGroups_agrees (hf : facts.Sees view) (hf' : facts'.Sees view)
    (ha : ∀ w id, facts.answer? w id = facts'.answer? w id) (ho : a.operators = b.operators)
    (hn : ∀ v v' w x, v.Agrees v' → view w = view x → view (notify v w) = view (notify v' x))
    (hs : s.Idle) (ht : t.Idle) (h : s.Shows view facts lenient s.world [] [])
    (h' : t.Shows view facts' lenient t.world [] []) (hv : view s.world = view t.world) (groups : List (List Rule)) :
    List.Forall₂ Verdict.Agrees (a.runGroups notify groups s).1 (b.runGroups notify groups t).1 ∧
    view (a.runGroups notify groups s).2.world = view (b.runGroups notify groups t).2.world := by
  induction groups generalizing s t
  case nil => exact ⟨.nil, hv⟩
  case cons group groups ih =>
    have hw : facts.outcome lenient s.world = facts'.outcome lenient t.world := by
      rw [hf.outcome_eq hv]
      funext id
      rw [Facts.outcome, ha, Facts.outcome]
    obtain ⟨he, _, hk⟩ := a.evaluate_shows hf hs h group
    obtain ⟨he', _, hk'⟩ := b.evaluate_shows hf' ht h' group
    have hm : List.Forall₂ Verdict.Agrees (a.evaluate group s).1 (b.evaluate group t).1 := by
      rw [he, he']
      exact meanings_agree ho hw
    have hview : view (a.evaluate group s).2.world = view (b.evaluate group t).2.world :=
      hk.view_eq.trans (hv.trans hk'.view_eq.symm)
    obtain ⟨hl, hr⟩ := @ih (notifyAll notify (a.evaluate group s).1 (a.evaluate group s).2)
      (notifyAll notify (b.evaluate group t).1 (b.evaluate group t).2) (evaluate_idle hs group)
      (evaluate_idle ht group) (hk.next _) (hk'.next _) (view_notifyAll hn hm hview)
    exact ⟨List.rel_append hm hl, hr⟩

end RuleSet
end Troubleshoot
