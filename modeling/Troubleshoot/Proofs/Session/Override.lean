import Troubleshoot.Proofs.Rule.Shape
import Troubleshoot.Proofs.Session.Agreement
import Troubleshoot.Proofs.Session.Lifecycle

namespace Troubleshoot

variable {υ : Type}

namespace RuleSet

variable {σ : Type} {s t : RuleSet σ}

theorem runGroups_congr (ho : s.operators = t.operators) (notify : Listener σ) (groups : List (List Rule))
    (store : Store σ) : s.runGroups notify groups store = t.runGroups notify groups store := by
  induction groups generalizing store
  case nil => rfl
  case cons group groups ih => simp only [runGroups, evaluate, ho, ih]

-- Only the facts that there are in the end count.
theorem run_congr (hr : s.rules = t.rules) (ho : s.operators = t.operators) (hl : s.lenient = t.lenient)
    {given given' : List (Fact σ)} (hf : s.facts.addAll given = t.facts.addAll given') (notify : Listener σ)
    (world : σ) : s.run given notify world = t.run given' notify world := by
  simp only [run_eq, ordered, hr, hl, hf, runGroups_congr ho]

end RuleSet

namespace Bindings

variable {b : Bindings υ} {presets presets' : List (String × Json)}

def presetAll (b : Bindings υ) (presets : List (String × Json)) : Bindings υ :=
  b.enterAll (presets.map fun (id, value) => .preset id value)

theorem presetAll_cons (b : Bindings υ) (e : String × Json) (presets : List (String × Json)) :
    b.presetAll (e :: presets) = (b.preset e.1 e.2).presetAll presets :=
  rfl

-- No priority is given out for an answer.
theorem presetAll_eq (b : Bindings υ) (presets : List (String × Json)) :
    b.presetAll presets = { b with table := (b.presetAll presets).table } := by
  induction presets generalizing b
  case nil => rfl
  case cons e presets ih =>
    rw [presetAll_cons, ih]
    rfl

-- Whatever a fact was bound to, the last answer counts.
theorem find?_presetAll (b : Bindings υ) (presets : List (String × Json)) (id : String) :
    (b.presetAll presets).table.find? id =
      ((latest? presets id).map fun value => ⟨.preset value, b.sessionPriority⟩).or (b.table.find? id) := by
  induction presets generalizing b
  case nil => rfl
  case cons e presets ih =>
    have hs : (b.preset e.1 e.2).sessionPriority = b.sessionPriority := rfl
    rw [presetAll_cons, ih, hs, latest?_cons, preset, Table.find?_insert]
    cases latest? presets id <;> by_cases hi : id = e.1 <;> simp [hi]

theorem presetAll_congr (h : ∀ id, latest? presets id = latest? presets' id) :
    b.presetAll presets = b.presetAll presets' := by
  have ht : (b.presetAll presets).table = (b.presetAll presets').table :=
    Table.ext_find? fun id => by rw [find?_presetAll, find?_presetAll, h]
  rw [presetAll_eq, ht, ← presetAll_eq]

end Bindings

section calls

variable {w : World υ} {call : Call}

theorem Question.of_mem_calls_provider {kb : KnowledgeBase} {r : Respondent υ} {id : String}
    (h : call ∈ (provider kb r id w).2.calls) : call ∈ w.calls ∨ call.factId = id := by
  cases hr : r.question
  case none => exact .inl (by simpa [provider, hr] using h)
  case some ask =>
    cases hq : kb.question? id
    case none => exact .inl (by simpa [provider, hr, hq] using h)
    case some q =>
      rw [provider_eq_called hr hq, World.calls_called] at h
      refine (List.mem_append.mp h).imp_right fun h => ?_
      rw [List.mem_singleton.mp h]
      exact KnowledgeBase.id_of_question? hq

theorem Confirmation.of_mem_calls_provider {r : Respondent υ} {s : Solution} {k : Confirmation}
    (h : call ∈ (provider r s k w).2.calls) : call ∈ w.calls ∨ call.factId = k.factId s.id := by
  cases hr : r.confirmation
  case none => exact .inl (by simpa [provider, hr] using h)
  case some confirm =>
    rw [provider_eq_called hr, World.calls_called] at h
    refine (List.mem_append.mp h).imp_right fun h => ?_
    rw [List.mem_singleton.mp h]
    rfl

end calls

namespace Consultation

variable {c : Consultation υ} {id : String} {value : Json}

-- Whom the fact is asked of is called for no other.
theorem of_mem_calls_provider {f : Fact (World υ)} {provider : World υ → Reply × World υ}
    (hf : c.facts.find? id = some f) (hs : f.source = .provider provider) {w : World υ} {call : Call}
    (h : call ∈ (provider w).2.calls) : call ∈ w.calls ∨ call.factId = id := by
  by_cases hm : id = Bindings.symptomsFact
  case pos =>
    rw [hm, find?_facts_memory] at hf
    cases hf
    cases hs
    exact .inl h
  case neg =>
    by_cases ht : id = Bindings.systemTypesFact
    case pos =>
      rw [ht, find?_facts_systemTypes] at hf
      cases hf
      cases hs
    case neg =>
      have hk := kind?_holder (c := c) hm ht
      rw [find?_facts_of_ne hm ht] at hf
      obtain ⟨b, hb, rfl⟩ := Option.map_eq_some_iff.mp hf
      rw [Bindings.kind?, hb, Option.map_some] at hk
      cases hkind : b.kind <;> simp only [Binding.fact, hkind, Fact.constant] at hs hk <;> cases hs
      case question => exact Question.of_mem_calls_provider h
      case confirmation s k =>
        have hh : c.holder id = .confirmation s k := by
          cases hh : c.holder id <;> simp_all [Holder.kind?]
        rw [← factId_of_holder hh]
        exact Confirmation.of_mem_calls_provider h

-- Nobody has been called but for facts that have a provider.
structure Called (facts : Facts (World υ)) (s : Store (World υ)) (_ _ : List Reading) : Prop where
  facts_eq : s.facts = facts
  provided : ∀ call ∈ s.world.calls, ∃ f provider, facts.find? call.factId = some f ∧ f.source = .provider provider

theorem lasting_called (c : Consultation υ) : Store.Lasting (Called c.facts) where
  perm h _ _ := ⟨h.facts_eq, h.provided⟩
  read h hr := ⟨hr.facts.trans h.facts_eq, hr.world ▸ h.provided⟩
  called h hr := by
    refine ⟨hr.facts.trans h.facts_eq, fun call hm => ?_⟩
    obtain ⟨hf, hs, _⟩ := hr
    rw [Store.setCell_world] at hm
    rw [h.facts_eq] at hf
    rcases of_mem_calls_provider hf hs hm with hm | hi
    case inl => exact h.provided call hm
    case inr => exact ⟨_, _, hi ▸ hf, hs⟩
  settled h := ⟨Store.settle_facts.trans h.facts_eq, fun call hm => h.provided call (Store.settle_world ▸ hm)⟩

theorem exists_provider_of_mem_calls {symptoms : List String} {user : υ} {call : Call}
    (h : call ∈ (c.prepared.run symptoms c.systemTypes user).2.calls) :
    ∃ f provider, c.facts.find? call.factId = some f ∧ f.source = .provider provider := by
  have hs : Called c.facts (c.start symptoms user) [] [] := ⟨rfl, nofun⟩
  have ⟨_, _, _, _, hc⟩ := c.ruleSet.runGroups_lasting World.hear (lasting_called c)
    (fun _ _ v h => ⟨h.facts_eq, fun call hm => h.provided call (World.calls_hear v _ ▸ hm)⟩)
    (Store.idle_start _ _ _) hs (Ranking.groups (·.priority) c.ruleSet.ordered)
  rw [run_prepared_eq_session] at h
  exact hc.provided call h

theorem find?_facts_of_latest? (hm : id ≠ Bindings.symptomsFact) (ht : id ≠ Bindings.systemTypesFact)
    (hp : latest? c.presets id = some value) : ∃ f, c.facts.find? id = some f ∧ f.source = .constant value := by
  have hh : c.holder id = .preset value := by simp [holder, hm, ht, hp]
  obtain ⟨_, hf⟩ := find?_facts_of_kind? (congrArg Holder.kind? hh)
  exact ⟨_, hf, rfl⟩

theorem addAll_sessionFacts (c : Consultation υ) :
    c.ruleSet.facts.addAll (c.bindings.sessionFacts c.systemTypes) = c.facts :=
  rfl

theorem verdicts_run (c : Consultation υ) (symptoms : List String) (user : υ) :
    (c.prepared.run symptoms c.systemTypes user).1.verdicts =
      (c.ruleSet.run (c.bindings.sessionFacts c.systemTypes) World.hear (.start user symptoms)).1.verdicts :=
  rfl

-- A check of a fact that is answered beforehand sees the answer.
theorem factValue_of_latest? {symptoms : List String} {user : υ} (hm : id ≠ Bindings.symptomsFact)
    (ht : id ≠ Bindings.systemTypesFact) (hp : latest? c.presets id = some value) {v : Verdict}
    (hv : v ∈ (c.prepared.run symptoms c.systemTypes user).1.verdicts) {d : Check} (hd : d ∈ v.checks)
    (hi : d.fact = id) : d.factValue = some value := by
  have ⟨trials, _, he, ht'⟩ := c.ruleSet.run_trials (c.bindings.sessionFacts c.systemTypes) World.hear
    (.start user symptoms)
  rw [addAll_sessionFacts] at he ht'
  rw [verdicts_run, he] at hv
  obtain ⟨t, hm', rfl⟩ := List.mem_map.mp hv
  have ⟨world, _, hs, _⟩ := (ht' t hm').1.told (ht' t hm').2 d hd
  have ⟨f, hf, hv⟩ := find?_facts_of_latest? hm ht hp
  rw [hs, hi, Facts.outcome_of_constant hf hv]
  rfl

theorem ne_of_latest? {symptoms : List String} {user : υ} (hm : id ≠ Bindings.symptomsFact)
    (ht : id ≠ Bindings.systemTypesFact) (hp : latest? c.presets id = some value) {call : Call}
    (h : call ∈ (c.prepared.run symptoms c.systemTypes user).2.calls) : call.factId ≠ id := by
  rintro rfl
  have ⟨f, hf, hs⟩ := find?_facts_of_latest? hm ht hp
  have ⟨g, provider, hg, hs'⟩ := exists_provider_of_mem_calls h
  cases hf.symm.trans hg
  cases hs.symm.trans hs'

-- The same consultation with other answers beforehand.
def presetting (c : Consultation υ) (presets : List (String × Json)) : Consultation υ :=
  { c with presets }

theorem systemTypes_presetting (c : Consultation υ) (presets : List (String × Json)) :
    (c.presetting presets).systemTypes = c.systemTypes :=
  rfl

theorem bindings_eq_presetAll (c : Consultation υ) :
    c.bindings = ((Bindings.empty c.knowledge c.respondent c.settings).enterAll
      c.knowledge.registrations).presetAll c.presets :=
  c.bindings_eq_enterAll

variable {presets presets' : List (String × Json)}

theorem prepared_congr (h : ∀ id, latest? presets id = latest? presets' id) :
    (c.presetting presets).prepared = (c.presetting presets').prepared := by
  have hb : (c.presetting presets).bindings = (c.presetting presets').bindings := by
    rw [bindings_eq_presetAll, bindings_eq_presetAll]
    exact Bindings.presetAll_congr h
  simp only [prepared, ruleSet, hb]
  rfl

theorem facts_congr (h : ∀ id, id ≠ Bindings.symptomsFact → id ≠ Bindings.systemTypesFact →
    latest? presets id = latest? presets' id) : (c.presetting presets).facts = (c.presetting presets').facts := by
  refine Table.ext_find? fun id => ?_
  by_cases hm : id = Bindings.symptomsFact
  case pos => rw [hm, find?_facts_memory, find?_facts_memory]; rfl
  case neg =>
    by_cases ht : id = Bindings.systemTypesFact
    case pos => rw [ht, find?_facts_systemTypes, find?_facts_systemTypes]; rfl
    case neg =>
      rw [find?_facts_of_ne hm ht, find?_facts_of_ne hm ht, bindings_eq_presetAll, bindings_eq_presetAll,
        Bindings.find?_presetAll, Bindings.find?_presetAll]
      simp only [presetting, h id hm ht]

-- The facts that every session brings along count in place of what they were bound to before.
theorem run_congr (h : ∀ id, id ≠ Bindings.symptomsFact → id ≠ Bindings.systemTypesFact →
    latest? presets id = latest? presets' id) (symptoms : List String) (user : υ) :
    (c.presetting presets).prepared.run symptoms c.systemTypes user =
      (c.presetting presets').prepared.run symptoms c.systemTypes user := by
  have hf := facts_congr (c := c) h
  rw [← addAll_sessionFacts, ← addAll_sessionFacts, systemTypes_presetting, systemTypes_presetting] at hf
  have hr := RuleSet.run_congr (s := (c.presetting presets).ruleSet) (t := (c.presetting presets').ruleSet) rfl rfl rfl
    hf World.hear (.start user symptoms)
  simp only [Prepared.run, prepared, hr]

theorem preset_prepared (c : Consultation υ) (id : String) (value : Json) :
    c.prepared.preset id value = (c.presetting (c.presets ++ [(id, value)])).prepared := by
  have hb : c.bindings.preset id value = (c.presetting (c.presets ++ [(id, value)])).bindings := by
    simp [bindings_eq_presetAll, presetting, Bindings.presetAll, Bindings.enterAll, Bindings.enter]
  rw [← on_bindings, Prepared.preset_on, hb, ← on_bindings]
  rfl

end Consultation

namespace Advisor

def Call.preset? : Call υ → Option (String × Json)
  | .setFact id value => some (id, value)
  | .prepare .. | .run .. => none

-- The answers that calls give beforehand, in their order.
def presets (calls : List (Call υ)) : List (String × Json) :=
  calls.filterMap Call.preset?

theorem after_prepared (c : Consultation υ) (call : Call υ) :
    (⟨c.settings, some c.prepared⟩ : Advisor υ).after call =
      .ok ⟨c.settings, some (c.presetting (c.presets ++ call.preset?.toList)).prepared⟩ := by
  have hn : c.presetting (c.presets ++ []) = c := by rw [List.append_nil]; rfl
  cases call
  case prepare kb respondent =>
    rw [Call.preset?, Option.toList_none, hn, after, take_prepare]
    rfl
  case setFact id value =>
    rw [after, take_setFact, Call.preset?, Option.toList_some, ← c.preset_prepared]
    rfl
  case run =>
    rw [Call.preset?, Option.toList_none, hn]
    rfl

-- What an advisor has come to only depends on the answers that were given beforehand.
theorem afterAll_prepared (c : Consultation υ) (calls : List (Call υ)) :
    (⟨c.settings, some c.prepared⟩ : Advisor υ).afterAll calls =
      .ok ⟨c.settings, some (c.presetting (c.presets ++ presets calls)).prepared⟩ := by
  induction calls generalizing c
  case nil =>
    rw [presets, List.filterMap_nil, List.append_nil]
    rfl
  case cons call calls ih =>
    have hi := ih (c.presetting (c.presets ++ call.preset?.toList))
    have hp : presets (call :: calls) = call.preset?.toList ++ presets calls := by
      cases call <;> rfl
    rw [afterAll, List.foldlM_cons, after_prepared, hp, ← List.append_assoc]
    exact hi

-- What an advisor has come to with some calls since it took up a knowledge base.
structure Overridden (start : Advisor υ) (calls : List (Call υ)) (a : Advisor υ) : Prop where
  agree : ∃ p, a.prepared = some p ∧ ∀ id, p.ruleSet.facts.find? id = p.bindings.fact? id
  accepts : ∀ id value, ∃ b, a.take (setFact id value) = .ok (.ok (), b) ∧
    start.afterAll (calls ++ [.setFact id value]) = .ok b
  runs : ∀ symptoms systemTypes user, ∃ d w, a.run symptoms systemTypes user = .ok (d, w) ∧
    ∀ id value, latest? (presets calls) id = some value → id ≠ Bindings.symptomsFact → id ≠ Bindings.systemTypesFact →
      (∀ v ∈ d.verdicts, ∀ k ∈ v.checks, k.fact = id → k.factValue = some value) ∧
      ∀ call ∈ w.calls, call.factId ≠ id
  commute : ∀ calls', (∀ id, latest? (presets calls) id = latest? (presets calls') id) →
    start.afterAll calls' = .ok a
  inert : ∀ calls', (∀ id, id ≠ Bindings.symptomsFact → id ≠ Bindings.systemTypesFact →
      latest? (presets calls) id = latest? (presets calls') id) →
    ∃ b, start.afterAll calls' = .ok b ∧
      ∀ symptoms systemTypes user, a.run symptoms systemTypes user = b.run symptoms systemTypes user

-- The last answer that is given beforehand counts, whatever other calls there are.
theorem prepare_overrides {a b : Advisor υ} {kb : KnowledgeBase} {respondent : Respondent υ}
    (h : a.take (prepare kb respondent) = .ok (.ok (), b)) (calls : List (Call υ)) :
    ∃ x, b.afterAll calls = .ok x ∧ b.Overridden calls x := by
  let c (systemTypes : List String) : Consultation υ := ⟨a.settings, kb, respondent, [], systemTypes⟩
  have hb (systemTypes : List String) : b = ⟨a.settings, some (c systemTypes).prepared⟩ := by
    have hr : (c systemTypes).bindings = (Bindings.empty kb respondent a.settings).enterAll kb.registrations :=
      (c systemTypes).bindings_eq_enterAll
    have ho : a.Offers kb respondent (.ok (.ok (), b)) := h ▸ a.offers_prepare kb respondent
    rw [ho.eq_of_taken, ← hr, ← (c systemTypes).on_bindings]
  have ha (systemTypes : List String) (calls : List (Call υ)) :
      b.afterAll calls = .ok ⟨a.settings, some ((c systemTypes).presetting (presets calls)).prepared⟩ := by
    rw [hb systemTypes]
    exact afterAll_prepared (c systemTypes) calls
  refine ⟨_, ha [] calls, ?agree, fun id value => ?accepts, fun symptoms systemTypes user => ?runs,
    fun calls' he => ?commute, fun calls' he => ?inert⟩
  case agree => exact ⟨_, rfl, fun id => Bindings.find?_facts⟩
  case accepts =>
    let p := ((c []).presetting (presets calls)).prepared
    have hs : (⟨a.settings, some p⟩ : Advisor υ).take (setFact id value) =
        .ok (.ok (), ⟨a.settings, some (p.preset id value)⟩) := take_setFact ..
    refine ⟨_, hs, ?_⟩
    rw [afterAll_append, ha []]
    exact congrArg (· >>= pure) (after_setFact hs)
  case runs =>
    refine ⟨_, _, rfl, fun id value hp hm ht => ⟨fun v hv d hd hi => ?_, fun call hc => ?_⟩⟩
    case refine_1 =>
      exact @Consultation.factValue_of_latest? _ ((c systemTypes).presetting (presets calls)) _ _ _ _ hm ht hp v hv d hd hi
    case refine_2 =>
      exact @Consultation.ne_of_latest? _ ((c systemTypes).presetting (presets calls)) _ _ _ _ hm ht hp call hc
  case commute => rw [ha [], Consultation.prepared_congr he]
  case inert =>
    refine ⟨_, ha [] calls', fun symptoms systemTypes user => congrArg Except.ok ?_⟩
    exact Consultation.run_congr (c := c systemTypes) he symptoms user

-- A question and a confirmation that are answered beforehand, the question twice, and one of the facts that
-- a session brings along.
theorem prepare_overrides_water :
    let calls : List (Call Nat) := [.setFact "Question1" (.string "no"), .run ["Symptom1"] [] 0,
      .setFact "Solution1:able" (.string "yes"), .prepare .water (.counting Nat.succ),
      .setFact "Question1" (.string "yes"), .setFact "symptoms" .null]
    latest? (presets calls) "Question1" = some (.string "yes") ∧
    ∃ b x, (new {}).take (prepare .water (.counting Nat.succ)) = .ok (.ok (), b) ∧ b.afterAll calls = .ok x ∧
      b.Overridden calls x := by
  intro calls
  have hl : ({} : Settings).Leaves KnowledgeBase.water.demand := by decide +kernel
  have hp := take_prepare ⟨{}, none⟩ .water (Respondent.counting Nat.succ)
  rw [if_neg nofun, if_pos (by decide), if_pos hl] at hp
  have ⟨x, hx, ho⟩ := prepare_overrides hp calls
  exact ⟨rfl, _, x, hp, hx, ho⟩

end Advisor
end Troubleshoot
