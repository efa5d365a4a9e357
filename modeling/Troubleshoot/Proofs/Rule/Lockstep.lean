import Troubleshoot.Proofs.Fact.Kin
import Troubleshoot.Proofs.Rule.Run
import Troubleshoot.Proofs.Rule.Verdict

namespace Troubleshoot

variable {σ τ : Type} {J : Json → Json → Prop}

-- Values that may differ make no difference to the condition.
def Condition.Fits (J : Json → Json → Prop) (operators : Operators) (c : Condition) : Prop :=
  ∀ o o', Outcome.Matches J o o' → c.holds operators o = c.holds operators o'

structure Check.Matches (J : Json → Json → Prop) (d e : Check) : Prop where
  fact : d.fact = e.fact
  operator : d.operator = e.operator
  value : d.value = e.value
  factValue : Option.Rel J d.factValue e.factValue
  result : d.result = e.result

-- Verdicts that are the same but for the values that were seen, which may differ as `J` allows.
structure Verdict.Matches (J : Json → Json → Prop) (v v' : Verdict) : Prop where
  name : v.name = v'.name
  priority : v.priority = v'.priority
  result : v.result = v'.result
  checks : List.Forall₂ (Check.Matches J) v.checks v'.checks
  event : v.event = v'.event
  error : v.error = v'.error

theorem eq_of_rel {α : Type} {a b : Option α} (h : Option.Rel Eq a b) : a = b := by
  cases h
  case none => rfl
  case some h => rw [h]

theorem eq_of_forall₂ {α : Type} {R : α → α → Prop} {as bs : List α} (hR : ∀ a b, R a b → a = b)
    (h : List.Forall₂ R as bs) : as = bs := by
  rw [← List.forall₂_eq_eq_eq]
  exact h.imp hR

theorem map_eq_of_forall₂ {α β γ : Type} {R : α → β → Prop} {as : List α} {bs : List β} {f : α → γ} {g : β → γ}
    (hR : ∀ a b, R a b → f a = g b) (h : List.Forall₂ R as bs) : as.map f = bs.map g := by
  rw [← List.forall₂_eq_eq_eq]
  exact List.forall₂_map_left_iff.mpr (List.forall₂_map_right_iff.mpr (h.imp hR))

theorem Check.Matches.eq {d e : Check} (h : d.Matches Eq e) : d = e := by
  obtain ⟨_, _, _, seen, _⟩ := d
  obtain ⟨_, _, _, seen', _⟩ := e
  have ⟨hf, ho, hv, hs, hr⟩ := h
  have hs := eq_of_rel hs
  simp_all

theorem Verdict.Matches.eq {v v' : Verdict} (h : v.Matches Eq v') : v = v' := by
  obtain ⟨_, _, _, _, _, _⟩ := v
  obtain ⟨_, _, _, _, _, _⟩ := v'
  have ⟨hn, hp, hr, hc, he, hx⟩ := h
  have hc := eq_of_forall₂ (fun _ _ => Check.Matches.eq) hc
  simp_all

namespace Condition

variable {operators : Operators} {c : Condition} {o o' : Outcome}

-- Without values that may differ, every condition fits.
theorem fits_eq (c : Condition) (operators : Operators) : c.Fits Eq operators :=
  fun _ _ h => by rw [h.eq]

theorem check_matches (hc : c.Fits J operators) (h : o.Matches J o') :
    (c.check operators o).Matches J (c.check operators o') :=
  ⟨rfl, rfl, rfl, h.toOption, hc o o' h⟩

theorem error?_eq (h : o.Matches J o') : c.error? operators o = c.error? operators o' := by
  cases h <;> rfl

end Condition

structure Tally.Matches (J : Json → Json → Prop) (t t' : Rule.Tally) : Prop where
  checks : List.Forall₂ (Check.Matches J) t.checks t'.checks
  matched : t.matched = t'.matched
  error : t.error = t'.error

section verdict

variable {operators : Operators} {cs : List Condition} {outcomes outcomes' : List Outcome}

theorem Rule.tally_matches (hc : ∀ c ∈ cs, c.Fits J operators)
    (h : List.Forall₂ (Outcome.Matches J) outcomes outcomes') {t t' : Rule.Tally} (ht : Tally.Matches J t t') :
    Tally.Matches J (tally operators cs outcomes t) (tally operators cs outcomes' t') := by
  induction h generalizing cs t t'
  case nil => simpa [tally] using ht
  case cons o o' _ _ h _ ih =>
    cases cs
    case nil => simpa [tally] using ht
    case cons c cs =>
      obtain ⟨hf, hfs⟩ := List.forall_mem_cons.mp hc
      have hn : Tally.Matches J
          ⟨t.checks ++ [c.check operators o], t.matched, (c.error? operators o).or t.error⟩
          ⟨t'.checks ++ [c.check operators o'], t'.matched, (c.error? operators o').or t'.error⟩ :=
        ⟨List.rel_append ht.checks (.cons (Condition.check_matches hf h) .nil), ht.matched,
          by rw [Condition.error?_eq h, ht.error]⟩
      rw [tally_cons, tally_cons, hf o o' h]
      dsimp only
      split
      · exact ih hfs hn
      · exact { hn with matched := rfl }

theorem Rule.verdict_matches (rule : Rule) (hc : ∀ c ∈ cs, c.Fits J operators)
    (h : List.Forall₂ (Outcome.Matches J) outcomes outcomes') :
    (rule.verdict operators cs outcomes).Matches J (rule.verdict operators cs outcomes') := by
  have ht := tally_matches hc h (⟨.nil, rfl, rfl⟩ : Tally.Matches J ⟨[], true, none⟩ ⟨[], true, none⟩)
  exact ⟨rfl, rfl, ht.matched, ht.checks, rfl, ht.error⟩

end verdict

namespace RuleSet

variable {asked : String → Prop} {S : Store σ → Store τ → Prop} {a : RuleSet σ} {b : RuleSet τ} {s : Store σ}
  {t : Store τ}

theorem verdicts_match {operators : Operators} {rules : List Rule} {orderOf : Rule → List Condition}
    (hc : ∀ r ∈ rules, ∀ c ∈ orderOf r, c.Fits J operators) {outcomes outcomes' : List (List Outcome)}
    (h : List.Forall₂ (List.Forall₂ (Outcome.Matches J)) outcomes outcomes') :
    List.Forall₂ (Verdict.Matches J)
      ((rules.zip ((rules.map orderOf).zip outcomes)).map fun (r, cs, os) => r.verdict operators cs os)
      ((rules.zip ((rules.map orderOf).zip outcomes')).map fun (r, cs, os) => r.verdict operators cs os) := by
  induction h generalizing rules
  case nil => simp
  case cons h hs ih =>
    cases rules
    case nil => exact .nil
    case cons r rules =>
      have ⟨hr, hrs⟩ := List.forall_mem_cons.mp hc
      exact .cons (r.verdict_matches hr h) (ih hrs)

-- Conditions of rules that ask for nothing else, and that make nothing of values that may differ.
def Fit (J : Json → Json → Prop) (operators : Operators) (asked : String → Prop) (rules : List Rule) : Prop :=
  ∀ r ∈ rules, ∀ c ∈ r.conditions, asked c.fact ∧ c.Fits J operators

theorem evaluate_matches (hS : Store.Lockstep J asked S) (ho : a.operators = b.operators) {rules : List Rule}
    (hc : Fit J b.operators asked rules) (hs : S s t) :
    List.Forall₂ (Verdict.Matches J) (a.evaluate rules s).1 (b.evaluate rules t).1 ∧
    S (a.evaluate rules s).2 (b.evaluate rules t).2 := by
  let orderOf (r : Rule) : List Condition := r.ordered t.facts.priorityOf
  have hm {r c} (hr : r ∈ rules) (h : c ∈ orderOf r) : asked c.fact ∧ c.Fits J b.operators :=
    hc r hr c ((Ranking.mem_sort _).mp h)
  have ht : (rules.map orderOf).map (Rule.task b.operators) =
      (rules.map fun r => (orderOf r).map fun c => ⟨c.fact, c.holds b.operators⟩).map Task.ofQueries := by
    rw [List.map_map, List.map_map]
    rfl
  have hq : ∀ qs ∈ rules.map fun r => (orderOf r).map fun c => (⟨c.fact, c.holds b.operators⟩ : Query),
      ∀ q ∈ qs, asked q.fact ∧ q.Fits J :=
    List.forall_mem_map.mpr fun r hr => List.forall_mem_map.mpr fun c h => hm hr h
  have ⟨hl, hs'⟩ := Task.runAll_matches hS hq hs
  simp only [evaluate, ho, hS.priorityOf hs]
  rw [ht]
  exact ⟨verdicts_match (fun r hr c h => (hm hr h).2) hl, hs'⟩

variable {notify : Listener σ} {notify' : Listener τ}

theorem notifyAll_matches
    (hn : ∀ v v' s t, v.Matches J v' → S s t →
      S { s with world := notify v s.world } { t with world := notify' v' t.world })
    {vs vs' : List Verdict} (h : List.Forall₂ (Verdict.Matches J) vs vs') (hs : S s t) :
    S (notifyAll notify vs s) (notifyAll notify' vs' t) := by
  induction h generalizing s t
  case nil => exact hs
  case cons v v' _ _ h _ ih => exact ih (hn v v' s t h hs)

-- Both runs reach matching verdicts, if those who hear of matching verdicts keep the stores related.
theorem runGroups_matches (hS : Store.Lockstep J asked S) (ho : a.operators = b.operators)
    (hn : ∀ v v' s t, v.Matches J v' → S s t →
      S { s with world := notify v s.world } { t with world := notify' v' t.world })
    {groups : List (List Rule)} (hc : ∀ g ∈ groups, Fit J b.operators asked g) (hs : S s t) :
    List.Forall₂ (Verdict.Matches J) (a.runGroups notify groups s).1 (b.runGroups notify' groups t).1 ∧
    S (a.runGroups notify groups s).2 (b.runGroups notify' groups t).2 := by
  induction groups generalizing s t
  case nil => exact ⟨.nil, hs⟩
  case cons group groups ih =>
    have ⟨hg, hgs⟩ := List.forall_mem_cons.mp hc
    have ⟨hv, he⟩ := evaluate_matches hS ho hg hs
    have ⟨hvs, hr⟩ := ih hgs (notifyAll_matches hn hv he)
    exact ⟨List.rel_append hv hvs, hr⟩

theorem fit_of_mem_groups {operators : Operators} {rules g : List Rule} (hc : Fit J operators asked rules)
    (hg : g ∈ Ranking.groups (·.priority) (Ranking.sort (·.priority) rules)) : Fit J operators asked g := by
  intro r hr
  have hm := List.mem_flatten_of_mem hg hr
  rw [Ranking.flatten_groups] at hm
  exact hc r ((Ranking.mem_sort _).mp hm)

-- How unknown facts are taken makes no difference to rules that name none.
theorem run_eq_of_known (s : RuleSet σ) (given : List (Fact σ)) (notify : Listener σ) (world : σ)
    (hk : ∀ r ∈ s.rules, ∀ c ∈ r.conditions, (s.facts.addAll given).contains c.fact) (lenient : Bool) :
    { s with lenient }.run given notify world = s.run given notify world := by
  let facts := s.facts.addAll given
  have hf : facts.Kin Eq Eq facts := by
    intro id
    cases facts.find? id
    case none => exact .none
    case some f =>
      obtain ⟨_, source, _, _⟩ := f
      refine .some ⟨?_, rfl, rfl⟩
      cases source
      case constant => exact .constant rfl
      case provider => exact .provider fun w x hw => hw ▸ ⟨.refl (fun _ => rfl) _, rfl⟩
  have hc : Fit Eq s.operators (facts.contains · = true) s.rules := fun r hr c hc =>
    ⟨hk r hr c hc, c.fits_eq _⟩
  have hs : Store.Kin Eq Eq (facts.contains · = true) (.start facts lenient world) (.start facts s.lenient world) :=
    .start hf (fun _ h => .inr h) rfl
  have ⟨hv, hr⟩ := @runGroups_matches _ _ _ _ _ { s with lenient } s _ _ notify notify
    (Store.lockstep_kin rfl Eq _) rfl (fun v v' _ _ hv h => h.with_world (by rw [hv.eq, h.world]))
    (Ranking.groups (·.priority) s.ordered) (fun g hg => fit_of_mem_groups hc hg) hs
  have ho := Table.ext_find? fun id => eq_of_rel (hr.observed id)
  have hv := eq_of_forall₂ (fun _ _ => Verdict.Matches.eq) hv
  have he : Report.ofVerdicts _ _ = Report.ofVerdicts _ _ := congr (congrArg Report.ofVerdicts hv) ho
  rw [run_eq, run_eq]
  exact Prod.ext he hr.world

end RuleSet
end Troubleshoot
