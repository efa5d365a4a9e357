import Troubleshoot.Proofs.Fact.Foretold
import Troubleshoot.Proofs.Rule.Alike

namespace Troubleshoot

variable {σ τ : Type}

-- The elements up to the first that fails.
def upToFailing {α : Type} (holds : α → Bool) (as : List α) : List α :=
  as.takeWhile holds ++ (as.find? (!holds ·)).toList

-- Whether a condition holds by the outcome that is there for it.
def Condition.held (operators : Operators) (l : Condition × Outcome) : Bool :=
  l.1.holds operators l.2

-- The verdict of a rule if one is told what every fact comes to: whether all conditions hold, and those
-- that are looked at, which is up to the first that does not hold.
def Rule.meaning (rule : Rule) (operators : Operators) (priorityOf : String → Int64) (told : String → Outcome) :
    Verdict :=
  let known := (rule.ordered priorityOf).map fun c => (c, told c.fact)
  { name := rule.name
    priority := rule.priority
    result := rule.conditions.all fun c => c.holds operators (told c.fact)
    checks := (upToFailing (Condition.held operators) known).map fun l => l.1.check operators l.2
    event := rule.event
    error := (known.find? (!Condition.held operators ·)).bind fun l => l.1.error? operators l.2 }

section upToFailing

variable {α : Type} {holds : α → Bool} {a : α} {as : List α}

theorem upToFailing_cons_of_holds (h : holds a) : upToFailing holds (a :: as) = a :: upToFailing holds as := by
  simp [upToFailing, h]

theorem upToFailing_cons_of_fails (h : ¬holds a) : upToFailing holds (a :: as) = [a] := by
  simp [upToFailing, h]

-- One that fails is there, and none is left out otherwise.
theorem holds_upToFailing_iff :
    ((upToFailing holds as).length = as.length ∧ ∀ a ∈ upToFailing holds as, holds a) ↔ ∀ a ∈ as, holds a := by
  induction as
  case nil => simp [upToFailing]
  case cons a as ih =>
    by_cases h : holds a
    case pos => simp [upToFailing_cons_of_holds h, h, ← ih]
    case neg => simp [upToFailing_cons_of_fails h, h]

theorem findSome?_error?_upToFailing {operators : Operators} (known : List (Condition × Outcome)) :
    ((upToFailing (Condition.held operators) known).findSome? fun l => l.1.error? operators l.2) =
      (known.find? (!Condition.held operators ·)).bind fun l => l.1.error? operators l.2 := by
  induction known
  case nil => rfl
  case cons l known ih =>
    by_cases h : Condition.held operators l
    case pos =>
      rw [upToFailing_cons_of_holds h, List.findSome?_cons, Condition.error?_of_holds h, ih]
      simp [h]
    case neg =>
      rw [upToFailing_cons_of_fails h]
      simp [h]

end upToFailing

section meaning

variable {operators : Operators} {told : String → Outcome} {cs : List Condition} {outcomes : List Outcome}

-- Outcomes that are what they are said to be are there for just those conditions.
theorem Query.Answered.zip_eq (told : String → Outcome) (h : Answered (cs.map (·.query operators)) outcomes [])
    (hs : ∀ l ∈ cs.zip outcomes, l.2 = told l.1.fact) :
    cs.zip outcomes = upToFailing (Condition.held operators) (cs.map fun c => (c, told c.fact)) := by
  induction cs generalizing outcomes
  case nil => rfl
  case cons c cs ih =>
    match outcomes with
    | [] => cases h
    | o :: outcomes =>
      rw [List.zip_cons_cons] at hs ⊢
      have ⟨ho, hl⟩ := List.forall_mem_cons.mp hs
      obtain rfl : o = told c.fact := ho
      have held : Condition.held operators (c, told c.fact) = c.holds operators (told c.fact) := rfl
      by_cases hc : c.holds operators (told c.fact)
      case pos =>
        simp only [List.map_cons, Answered, Condition.query, hc, if_true] at h
        rw [List.map_cons, upToFailing_cons_of_holds (held.trans hc), ih h hl]
      case neg =>
        simp only [List.map_cons, Answered, Condition.query, hc] at h
        obtain ⟨rfl, _⟩ := h
        rw [List.map_cons, upToFailing_cons_of_fails (held ▸ hc), List.zip_nil_right]

-- A trial by what the facts are said to come to gives the verdict that the rule means.
theorem Trial.Complete.verdict_eq {priorityOf : String → Int64} {t : Trial} (h : t.Complete operators priorityOf)
    (hs : ∀ r ∈ t.readings priorityOf, r.2 = told r.1) :
    t.verdict operators priorityOf = t.rule.meaning operators priorityOf told := by
  let known := (t.rule.ordered priorityOf).map fun c => (c, told c.fact)
  have hz : (t.rule.ordered priorityOf).zip t.outcomes = upToFailing (Condition.held operators) known :=
    h.zip_eq told fun l hl => hs (l.1.fact, l.2) (List.mem_map_of_mem hl)
  have hr : ((upToFailing (Condition.held operators) known).length = (t.rule.ordered priorityOf).length ∧
      ∀ l ∈ upToFailing (Condition.held operators) known, Condition.held operators l) ↔
      ∀ c ∈ t.rule.conditions, c.holds operators (told c.fact) := by
    have hl : (t.rule.ordered priorityOf).length = known.length := (List.length_map ..).symm
    rw [hl, holds_upToFailing_iff]
    simp [known, Condition.held, Rule.ordered, Ranking.mem_sort]
  simp only [verdict, Rule.verdictOf, Rule.meaning, hz, Verdict.mk.injEq, true_and]
  refine ⟨Bool.eq_iff_iff.mpr ?_, rfl, findSome?_error?_upToFailing known⟩
  simpa [Condition.held] using hr

-- A verdict is about nothing but the facts that the conditions name.
theorem Rule.meaning_congr {rule : Rule} {priorityOf priorityOf' : String → Int64} {told' : String → Outcome}
    (hp : ∀ c ∈ rule.conditions, priorityOf c.fact = priorityOf' c.fact)
    (hs : ∀ c ∈ rule.conditions, told c.fact = told' c.fact) :
    rule.meaning operators priorityOf told = rule.meaning operators priorityOf' told' := by
  have ho : rule.ordered priorityOf = rule.ordered priorityOf' := Ranking.sort_congr hp
  have hk : ((rule.ordered priorityOf').map fun c => (c, told c.fact)) =
      (rule.ordered priorityOf').map fun c => (c, told' c.fact) :=
    List.map_congr_left fun c hc => by rw [hs c ((Ranking.mem_sort _).mp hc)]
  have hr : (rule.conditions.all fun c => c.holds operators (told c.fact)) =
      rule.conditions.all fun c => c.holds operators (told' c.fact) :=
    Bool.eq_iff_iff.mpr (by simp +contextual [hs])
  simp only [meaning, ho, hk, hr]

theorem Trial.mem_readings_iff {priorityOf : String → Int64} {t : Trial} {id : String} {value : Json} :
    (id, .ok value) ∈ t.readings priorityOf ↔
      ∃ d ∈ (t.verdict operators priorityOf).checks, d.fact = id ∧ d.factValue = some value := by
  constructor
  case mp =>
    intro h
    have ⟨l, hl, he⟩ := List.mem_map.mp h
    have ho : l.2 = .ok value := congrArg Prod.snd he
    refine ⟨l.1.check operators l.2, List.mem_map_of_mem hl, congrArg Prod.fst he, ?_⟩
    simp [Condition.check, ho, Except.toOption]
  case mpr =>
    rintro ⟨d, hd, rfl, hv⟩
    obtain ⟨⟨c, outcome⟩, hl, rfl⟩ := List.mem_map.mp hd
    cases outcome
    case error => cases hv
    case ok v =>
      cases hv
      exact List.mem_map_of_mem hl

end meaning

-- Hearing of a verdict changes nothing about what facts come to.
def Listener.Spares (notify : Listener σ) (facts : Facts σ) : Prop :=
  ∀ v w id, facts.answer? (notify v w) id = facts.answer? w id

namespace Facts.Alike

variable {R : σ → τ → Prop} {facts : Facts σ} {facts' : Facts τ} {w : σ} {x : τ}

theorem answer?_eq (h : facts.Alike R facts') (hw : R w x) (id : String) :
    facts.answer? w id = facts'.answer? x id := by
  simp only [answer?]
  cases hs : facts.find? id <;> cases ht : facts'.find? id <;> cases hs ▸ ht ▸ h id
  case none.none => rfl
  case some.some f g hr =>
    obtain ⟨_, _, _, _⟩ := f
    obtain ⟨_, _, _, _⟩ := g
    cases hr.source
    case constant => rfl
    case provider hp => simp [(hp w x hw).1]

theorem outcome_eq (h : facts.Alike R facts') (hw : R w x) (lenient : Bool) :
    facts.outcome lenient w = facts'.outcome lenient x := by
  funext id
  rw [outcome, h.answer?_eq hw, outcome]

theorem steady (h : facts.Alike R facts') (hr : ∀ x, ∃ w, R w x) (hs : facts.Steady) : facts'.Steady := by
  intro id g provider hg hp x i hi
  have ⟨w, hw⟩ := hr x
  cases hf : facts.find? id <;> cases hf ▸ hg ▸ h id
  case some f ha =>
    obtain ⟨_, source, _, _⟩ := f
    obtain ⟨_, _, _, _⟩ := g
    cases ha.cached
    cases hp
    cases ha.source
    case provider call hc =>
      rw [← h.answer?_eq hw, ← h.answer?_eq (hc w x hw).2]
      exact hs id _ call hf rfl w i hi

end Facts.Alike

theorem Listener.Spares.alike {R : σ → τ → Prop} {facts : Facts σ} {facts' : Facts τ} {notify : Listener σ}
    {notify' : Listener τ} (h : notify.Spares facts) (ha : facts.Alike R facts') (hr : ∀ x, ∃ w, R w x)
    (hn : ∀ v w x, R w x → R (notify v w) (notify' v x)) : notify'.Spares facts' := by
  intro v x id
  have ⟨w, hw⟩ := hr x
  rw [← ha.answer?_eq hw, ← ha.answer?_eq (hn v w x hw)]
  exact h v w id

namespace RuleSet

variable {s : RuleSet σ} {facts : Facts σ} {lenient : Bool} {world : σ} {notify : Listener σ}

-- The verdicts if it is known what every fact comes to.
def meanings (s : RuleSet σ) (rules : List Rule) (facts : Facts σ) (lenient : Bool) (world : σ) : List Verdict :=
  rules.map fun rule => rule.meaning s.operators facts.priorityOf (facts.outcome lenient world)

theorem meanings_alike {R : σ → τ → Prop} {s' : RuleSet τ} {facts' : Facts τ} {world' : τ}
    (ho : s.operators = s'.operators) (hf : facts.Alike R facts') (hw : R world world') (rules : List Rule)
    (lenient : Bool) : s.meanings rules facts lenient world = s'.meanings rules facts' lenient world' := by
  simp only [meanings, ho, hf.priorityOf_eq, hf.outcome_eq hw]

theorem runGroups_means (hf : facts.Steady) (hn : notify.Spares facts) (lenient : Bool) (world : σ)
    (groups : List (List Rule)) :
    let (verdicts, store) := s.runGroups notify groups (Store.start facts lenient world)
    verdicts = s.meanings groups.flatten facts lenient world ∧
    ∀ id value, store.observed.find? id = some value ↔
      facts.contains id ∧ ∃ v ∈ verdicts, ∃ d ∈ v.checks, d.fact = id ∧ d.factValue = some value := by
  have heard (store : Store σ) (taken : List Reading) (v : Verdict)
      (h : store.Foretold facts lenient world taken []) :
      Store.Foretold facts lenient world { store with world := notify v store.world } taken [] :=
    { h with ahead := fun id hc => (hn v store.world id).trans (h.ahead id hc) }
  have ⟨trials, hr, hv, hc, hi⟩ := s.runGroups_lasting notify (Store.lasting_foretold hf) heard
    (Store.idle_start facts lenient world) (Store.foretold_start ..) groups
  rw [List.append_nil] at hi
  dsimp only
  refine ⟨?_, fun id value => ?_⟩
  · rw [hv, meanings, ← hr, List.map_map]
    refine List.map_congr_left fun t ht => (hc t ht).verdict_eq fun r hr => hi.past r ?_
    exact List.mem_flatMap.mpr ⟨t, ht, hr⟩
  · rw [hi.noted, hv, List.mem_flatMap]
    refine and_congr_right fun _ => ⟨fun ⟨t, ht, hr⟩ => ?_, fun ⟨v, hm, hd⟩ => ?_⟩
    · exact ⟨_, List.mem_map_of_mem ht, Trial.mem_readings_iff.mp hr⟩
    · obtain ⟨t, ht, rfl⟩ := List.mem_map.mp hm
      exact ⟨t, ht, Trial.mem_readings_iff.mpr hd⟩

end RuleSet
end Troubleshoot
