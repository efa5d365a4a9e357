import Mathlib.Data.List.Nodup
import Troubleshoot.Proofs.Rule.Lockstep
import Troubleshoot.Proofs.Session.Priority

namespace Troubleshoot

variable {υ : Type}

-- The facts that there are in a session of a prepared advisor.
def Prepared.facts (p : Prepared υ) (systemTypes : List String) : Facts (World υ) :=
  p.ruleSet.facts.addAll (p.bindings.sessionFacts systemTypes)

-- No rule names a fact that there is not.
def Prepared.Closed (p : Prepared υ) (systemTypes : List String) : Prop :=
  ∀ r ∈ p.ruleSet.rules, ∀ d ∈ r.conditions, (p.facts systemTypes).contains d.fact

namespace Consultation

variable {c : Consultation υ} {id : String}

theorem contains_facts (h : c.holder id ≠ .nobody) : c.facts.contains id := by
  by_cases hm : id = Bindings.symptomsFact
  case pos => simp [hm, Table.contains, find?_facts_memory]
  case neg =>
    by_cases ht : id = Bindings.systemTypesFact
    case pos => simp [ht, Table.contains, find?_facts_systemTypes]
    case neg =>
      cases hk : (c.holder id).kind?
      case none => cases hh : c.holder id <;> simp_all [holder, Holder.kind?] <;> grind
      case some kind =>
        obtain ⟨_, hf⟩ := find?_facts_of_kind? hk
        simp [Table.contains, hf]

-- Whatever the knowledge base leaves open, each fact that a rule names is bound.
theorem known_of_mem_rules {r : Rule} (hr : r ∈ c.knowledge.rules) {d : Condition} (hd : d ∈ r.conditions) :
    c.facts.contains d.fact := by
  obtain ⟨l, hl, _, rfl⟩ := KnowledgeBase.exists_link_of_mem_rules hr
  exact contains_facts (holder_ne_nobody hl hd)

-- The same consultation with another setting for unknown facts.
def taking (c : Consultation υ) (lenient : Bool) : Consultation υ :=
  { c with settings := { c.settings with allowUndefinedFacts := lenient } }

-- No session meets an unknown fact, so none depends on how such a fact is taken.
structure RunDefined (c : Consultation υ) : Prop where
  closed : c.Counted → ∃ p, c.advisor = .ok (.ok (), ⟨c.settings, some p⟩) ∧ p.Closed c.systemTypes
  run_eq : ∀ lenient symptoms user, (c.taking lenient).run symptoms user = c.run symptoms user
  ends : ∀ symptoms user, c.Ends symptoms user fun d w =>
    ∀ lenient, (c.taking lenient).run symptoms user = .ok (.ok (d, w))

theorem run_taking (h : c.settings.Valid) (lenient : Bool) (symptoms : List String) (user : υ) :
    (c.taking lenient).run symptoms user = c.run symptoms user := by
  have hr : (c.taking lenient).ruleSet.run (c.bindings.sessionFacts c.systemTypes) World.hear
      (.start user symptoms) = c.ruleSet.run (c.bindings.sessionFacts c.systemTypes) World.hear
      (.start user symptoms) :=
    c.ruleSet.run_eq_of_known _ World.hear _ (fun _ hr _ hd => known_of_mem_rules hr hd) lenient
  have hp : (c.taking lenient).prepared.run symptoms c.systemTypes user =
      c.prepared.run symptoms c.systemTypes user := by
    simp only [Prepared.run, prepared, ← hr]
    rfl
  rw [run_eq h, ← hp]
  exact @run_eq _ (c.taking lenient) h symptoms user

theorem run_defined (h : c.settings.Valid) : c.RunDefined where
  closed hc := ⟨_, (advisor_eq h).trans (if_pos hc), fun _ hr _ hd => known_of_mem_rules hr hd⟩
  run_eq := run_taking h
  ends symptoms user := .of_prepared h fun hc lenient =>
    (run_taking h lenient symptoms user).trans (run_eq_prepared h hc symptoms user)

-- Water that tastes bad for reasons that nobody can look up: a question, a solution and a cause are
-- missing, and one solution goes by the id of a question.
def loose : Consultation Nat where
  settings := {}
  knowledge := .ofDistinct
    [⟨"Symptom1", "Water tastes bad", none,
      [⟨"Solution1", ⟨["osmosis"], ["Question1", "Missing"], ["Solution1"]⟩⟩, ⟨"Nowhere", ⟨[], ["Lost"], []⟩⟩],
      [⟨"Gone", ⟨[], [], ["Lost"]⟩⟩]⟩]
    [⟨"Solution1", "Change the filter", none, none, none, true, true⟩]
    [⟨"Question1", "Do you have spare filters?", none, .yesNo, none⟩]
    (by decide) (List.nodup_singleton "Solution1") (by decide)
  respondent := .counting Nat.succ
  presets := []
  systemTypes := ["osmosis"]

theorem run_defined_loose : loose.settings.Valid ∧ loose.RunDefined := by
  have h : loose.settings.Valid := by decide
  exact ⟨h, run_defined h⟩

end Consultation
end Troubleshoot
