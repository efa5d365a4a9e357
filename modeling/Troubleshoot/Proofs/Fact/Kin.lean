import Troubleshoot.Proofs.Fact.Lockstep
import Troubleshoot.Proofs.Fact.Request

namespace Troubleshoot

variable {σ τ : Type} {J : Json → Json → Prop} {R : σ → τ → Prop}

inductive Source.Kin (J : Json → Json → Prop) (R : σ → τ → Prop) : Source σ → Source τ → Prop
  | constant {a b : Json} (h : J a b) : Kin J R (.constant a) (.constant b)
  | provider {p : σ → Reply × σ} {q : τ → Reply × τ}
    (h : ∀ w x, R w x → (p w).1.Matches J (q x).1 ∧ R (p w).2 (q x).2) : Kin J R (.provider p) (.provider q)

structure Fact.Kin (J : Json → Json → Prop) (R : σ → τ → Prop) (f : Fact σ) (g : Fact τ) : Prop where
  source : f.source.Kin J R g.source
  cached : f.cached = g.cached
  priority : f.priority = g.priority

def Facts.Kin (J : Json → Json → Prop) (R : σ → τ → Prop) (facts : Facts σ) (facts' : Facts τ) : Prop :=
  ∀ id, Option.Rel (Fact.Kin J R) (facts.find? id) (facts'.find? id)

inductive Cell.Matches (J : Json → Json → Prop) : Cell → Cell → Prop
  | underWay : Matches J .underWay .underWay
  | settled {o o' : Outcome} (h : o.Matches J o') : Matches J (.settled o) (.settled o')

-- Stores with related facts in related worlds, that differ in how they take an unknown fact only if none
-- is asked for.
structure Store.Kin (J : Json → Json → Prop) (R : σ → τ → Prop) (asked : String → Prop) (s : Store σ)
    (t : Store τ) : Prop where
  facts : s.facts.Kin J R t.facts
  known : ∀ id, asked id → s.lenient = t.lenient ∨ s.facts.contains id
  cells : ∀ id, Option.Rel (Cell.Matches J) (s.cells.find? id) (t.cells.find? id)
  observed : ∀ id, Option.Rel J (s.observed.find? id) (t.observed.find? id)
  world : R s.world t.world

theorem Facts.Kin.priorityOf_eq {facts : Facts σ} {facts' : Facts τ} (h : facts.Kin J R facts') :
    facts.priorityOf = facts'.priorityOf :=
  priorityOf_eq_of_rel (fun _ _ => Fact.Kin.priority) h

namespace Store.Kin

variable {asked : String → Prop} {s : Store σ} {t : Store τ} {id : String} {o o' : Outcome}

theorem start {facts : Facts σ} {facts' : Facts τ} (hf : facts.Kin J R facts') {lenient lenient' : Bool}
    (hk : ∀ id, asked id → lenient = lenient' ∨ facts.contains id) {w : σ} {x : τ} (hw : R w x) :
    Store.Kin J R asked (.start facts lenient w) (.start facts' lenient' x) where
  facts := hf
  known := hk
  cells id := by simp [Store.start]
  observed id := by simp [Store.start]
  world := hw

theorem with_world (h : s.Kin J R asked t) {w : σ} {x : τ} (hw : R w x) :
    Store.Kin J R asked { s with world := w } { t with world := x } :=
  { h with world := hw }

theorem isUnderWay_eq (h : s.Kin J R asked t) (id : String) : s.isUnderWay id = t.isUnderWay id := by
  have hc := h.cells id
  simp only [isUnderWay]
  cases hs : s.cells.find? id <;> cases ht : t.cells.find? id <;> cases hs ▸ ht ▸ hc
  case none.none => rfl
  case some.some hc => cases hc <;> rfl

theorem observe (h : s.Kin J R asked t) (id : String) (ho : o.Matches J o') :
    (s.observe id o).Kin J R asked (t.observe id o') := by
  cases ho
  case error => exact h
  case value hv =>
    refine { h with observed := fun i => ?_ }
    simp only [Store.observe, Table.find?_insert]
    split
    · exact .some hv
    · exact h.observed i

theorem setCell (h : s.Kin J R asked t) (id : String) {cell cell' : Cell} (hc : cell.Matches J cell') :
    (s.setCell id cell).Kin J R asked (t.setCell id cell') := by
  simp only [Store.setCell]
  cases hs : s.facts.find? id <;> cases ht : t.facts.find? id <;> cases hs ▸ ht ▸ h.facts id
  case none.none => exact h
  case some.some f g hr =>
    obtain ⟨_, _, cached, _⟩ := f
    obtain ⟨_, _, _, _⟩ := g
    cases hr.cached
    cases cached
    case false => exact h
    case true =>
      refine { h with cells := fun i => ?_ }
      simp only [Table.find?_insert]
      split
      · exact .some hc
      · exact h.cells i

theorem settle (h : s.Kin J R asked t) (id : String) (ho : o.Matches J o') :
    (s.settle id o).Kin J R asked (t.settle id o') :=
  (h.setCell id (.settled ho)).observe id ho

theorem call (h : s.Kin J R asked t) (id : String) {p : σ → Reply × σ} {q : τ → Reply × τ}
    (hp : ∀ w x, R w x → (p w).1.Matches J (q x).1 ∧ R (p w).2 (q x).2) :
    (s.call id p).1.Matches J (t.call id q).1 ∧ (s.call id p).2.Kin J R asked (t.call id q).2 := by
  have ⟨hr, hw⟩ := hp s.world t.world h.world
  have hk := h.with_world hw
  simp only [Store.call, hr.delay]
  split
  · exact ⟨.ready hr.outcome, hk.settle id hr.outcome⟩
  · exact ⟨.called hr, hk.setCell id .underWay⟩

theorem request (hJ : J .null .null) (h : s.Kin J R asked t) (ha : asked id) :
    (s.request id).1.Matches J (t.request id).1 ∧ (s.request id).2.Kin J R asked (t.request id).2 := by
  cases hs : s.facts.find? id <;> cases ht : t.facts.find? id <;> cases hs ▸ ht ▸ h.facts id
  case none.none =>
    have hl : s.lenient = t.lenient := (h.known id ha).resolve_right (by simp [Table.contains, hs])
    rw [request_of_unknown hs, request_of_unknown ht, hl]
    refine ⟨.ready ?_, h⟩
    split
    · exact .value hJ
    · exact .error _
  case some.some f g hr =>
    obtain ⟨_, source, cached, _⟩ := f
    obtain ⟨_, _, _, _⟩ := g
    cases hr.cached
    cases hr.source
    case constant hv =>
      rw [request_of_constant hs, request_of_constant ht]
      exact ⟨.ready (.value hv), h.observe id (.value hv)⟩
    case provider hp =>
      cases cached
      case false =>
        rw [request_of_uncached hs, request_of_uncached ht]
        exact h.call id hp
      case true =>
        cases hc : s.cells.find? id <;> cases hd : t.cells.find? id <;> cases hc ▸ hd ▸ h.cells id
        case none.none =>
          rw [request_of_unasked hs hc, request_of_unasked ht hd]
          exact h.call id hp
        case some.some hm =>
          cases hm
          case underWay =>
            rw [request_of_underWay hs hc, request_of_underWay ht hd]
            exact ⟨.blocked, h⟩
          case settled ho =>
            rw [request_of_settled hs hc, request_of_settled ht hd]
            exact ⟨.ready ho, h.observe id ho⟩

end Store.Kin

theorem Store.lockstep_kin (hJ : J .null .null) (R : σ → τ → Prop) (asked : String → Prop) :
    Store.Lockstep J asked (Store.Kin J R asked) where
  priorityOf h := h.facts.priorityOf_eq
  underWay h := h.isUnderWay_eq
  request h := h.request hJ
  settle h id := h.settle id

end Troubleshoot
