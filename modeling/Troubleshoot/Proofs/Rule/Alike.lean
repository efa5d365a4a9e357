import Troubleshoot.Proofs.Rule.Sequence

namespace Troubleshoot

variable {σ τ : Type} {R : σ → τ → Prop}

-- Sources that nobody who cannot see the turns can tell apart, as long as their worlds are related.
inductive Source.Alike (R : σ → τ → Prop) : Source σ → Source τ → Prop
  | constant (value : Json) : Alike R (.constant value) (.constant value)
  | provider {p : σ → Reply × σ} {q : τ → Reply × τ}
    (h : ∀ w x, R w x → (p w).1.outcome = (q x).1.outcome ∧ R (p w).2 (q x).2) :
    Alike R (.provider p) (.provider q)

structure Fact.Alike (R : σ → τ → Prop) (f : Fact σ) (g : Fact τ) : Prop where
  source : f.source.Alike R g.source
  cached : f.cached = g.cached
  priority : f.priority = g.priority

def Facts.Alike (R : σ → τ → Prop) (facts : Facts σ) (facts' : Facts τ) : Prop :=
  ∀ id, Option.Rel (Fact.Alike R) (facts.find? id) (facts'.find? id)

structure Store.Alike (R : σ → τ → Prop) (s : Store σ) (t : Store τ) : Prop where
  facts : ∀ id, Option.Rel (Fact.Alike R) (s.facts.find? id) (t.facts.find? id)
  lenient : s.lenient = t.lenient
  cells : s.cells = t.cells
  observed : s.observed = t.observed
  world : R s.world t.world

namespace Facts.Alike

variable {facts : Facts σ} {facts' : Facts τ} {id : String}

theorem contains_eq (h : facts.Alike R facts') (id : String) : facts.contains id = facts'.contains id := by
  simp only [Table.contains]
  cases hs : facts.find? id <;> cases ht : facts'.find? id <;> cases hs ▸ ht ▸ h id <;> rfl

theorem priorityOf_eq (h : facts.Alike R facts') : facts.priorityOf = facts'.priorityOf :=
  priorityOf_eq_of_rel (fun _ _ => Fact.Alike.priority) h

end Facts.Alike

namespace Store.Alike

variable {s : Store σ} {t : Store τ} {id : String} {outcome : Outcome}

theorem with_world (h : s.Alike R t) {w : σ} {x : τ} (hw : R w x) :
    Store.Alike R { s with world := w } { t with world := x } :=
  { h with world := hw }

theorem settled?_eq (h : s.Alike R t) (id : String) : s.settled? id = t.settled? id := by
  simp [settled?, h.cells]

theorem observe (h : s.Alike R t) (id : String) (outcome : Outcome) :
    (s.observe id outcome).Alike R (t.observe id outcome) := by
  cases outcome
  case error => exact h
  case ok value => exact { h with observed := by simp [Store.observe, h.observed] }

theorem settle (h : s.Alike R t) (id : String) (outcome : Outcome) :
    (s.settle id outcome).Alike R (t.settle id outcome) := by
  refine observe ?_ id outcome
  simp only [setCell]
  cases hs : s.facts.find? id <;> cases ht : t.facts.find? id <;> cases hs ▸ ht ▸ h.facts id
  case none.none => exact h
  case some.some f g hr =>
    obtain ⟨_, _, cached, _⟩ := f
    obtain ⟨_, _, _, _⟩ := g
    cases hr.cached
    cases cached
    case false => exact h
    case true => exact { h with cells := by simp [h.cells] }

-- Related stores give the same outcome, and stay related.
theorem resolve (h : s.Alike R t) (id : String) :
    (s.resolve id).1 = (t.resolve id).1 ∧ (s.resolve id).2.Alike R (t.resolve id).2 := by
  cases hs : s.facts.find? id <;> cases ht : t.facts.find? id <;> cases hs ▸ ht ▸ h.facts id
  case none.none =>
    rw [resolve_of_unknown hs, resolve_of_unknown ht, h.lenient]
    exact ⟨rfl, h⟩
  case some.some f g hr =>
    obtain ⟨_, source, cached, _⟩ := f
    obtain ⟨_, _, _, _⟩ := g
    cases hr.cached
    cases hr.source
    case constant value =>
      rw [resolve_of_constant hs, resolve_of_constant ht]
      exact ⟨rfl, h.observe id (.ok value)⟩
    case provider p q hp =>
      have ⟨ho, hw⟩ := hp s.world t.world h.world
      cases cached
      case false =>
        rw [resolve_of_uncached hs, resolve_of_uncached ht, ho]
        exact ⟨rfl, (h.with_world hw).observe id _⟩
      case true =>
        have he := h.settled?_eq id
        cases hc : s.settled? id
        case none =>
          rw [resolve_of_unsettled hs hc, resolve_of_unsettled ht (he ▸ hc), ho]
          exact ⟨rfl, (h.with_world hw).settle id _⟩
        case some outcome =>
          rw [resolve_of_settled hs hc, resolve_of_settled ht (he ▸ hc)]
          exact ⟨rfl, h.observe id _⟩

theorem look (h : s.Alike R t) (operators : Operators) (cs : List Condition) :
    (s.look operators cs).1 = (t.look operators cs).1 ∧
    (s.look operators cs).2.Alike R (t.look operators cs).2 := by
  induction cs generalizing s t
  case nil => exact ⟨rfl, h⟩
  case cons d cs ih =>
    have ⟨ho, hr⟩ := h.resolve d.fact
    have ⟨hl, ha⟩ := ih hr
    simp only [Store.look, ho]
    split
    · exact ⟨congrArg ((d, _) :: ·) hl, ha⟩
    · exact ⟨rfl, hr⟩

end Store.Alike

namespace RuleSet

variable {a : RuleSet σ} {b : RuleSet τ} {s : Store σ} {t : Store τ}

theorem judge_alike (ho : a.operators = b.operators) (h : s.Alike R t) (rule : Rule) :
    (a.judge rule s).1 = (b.judge rule t).1 ∧ (a.judge rule s).2.Alike R (b.judge rule t).2 := by
  have ⟨hl, ha⟩ := h.look b.operators (rule.ordered t.facts.priorityOf)
  simp only [judge, looked, ho, Facts.Alike.priorityOf_eq h.facts]
  exact ⟨by rw [hl], ha⟩

-- Rules have the same verdicts in worlds that are related, if those who hear of them keep them so.
theorem judgeAll_alike (ho : a.operators = b.operators) {notify : Listener σ} {notify' : Listener τ}
    (hn : ∀ v w x, R w x → R (notify v w) (notify' v x)) (h : s.Alike R t) (rules : List Rule) :
    (a.judgeAll notify rules s).1 = (b.judgeAll notify' rules t).1 ∧
    (a.judgeAll notify rules s).2.Alike R (b.judgeAll notify' rules t).2 := by
  induction rules generalizing s t
  case nil => exact ⟨rfl, h⟩
  case cons rule rules ih =>
    have ⟨hv, ha⟩ := judge_alike ho h rule
    have ⟨hl, hs⟩ := ih (ha.with_world (hn (b.judge rule t).1 _ _ ha.world))
    simp only [judgeAll, hv, hl]
    exact ⟨trivial, hs⟩

end RuleSet
end Troubleshoot
