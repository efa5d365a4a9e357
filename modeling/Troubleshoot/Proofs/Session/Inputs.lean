import Troubleshoot.Proofs.Rule.Lockstep
import Troubleshoot.Proofs.Session.Calls

namespace Troubleshoot

variable {υ : Type}

-- Lists that are the same set: neither order nor copies count.
def SameMembers (as bs : List String) : Prop :=
  ∀ a, a ∈ as ↔ a ∈ bs

-- Values that are equal, or lists of texts that are the same set.
def Json.SameTexts (a b : Json) : Prop :=
  a = b ∨ ∃ ss ts, a = .ofStrings ss ∧ b = .ofStrings ts ∧ SameMembers ss ts

namespace SameMembers

variable {m n : Memory}

theorem contains_eq (h : SameMembers m n) (id : String) : m.contains id = n.contains id :=
  Bool.eq_iff_iff.mpr (by simpa using h id)

-- A firing takes all copies of a symptom away, and adds none that is there.
theorem apply (h : SameMembers m n) (f : Firing) : SameMembers (f.apply m).1 (f.apply n).1 := by
  simp only [Firing.apply]
  split
  case h_1 =>
    intro a
    simp [Memory.solve, h a]
  case h_2 cause _ _ =>
    simp only [Memory.add, h.contains_eq]
    split
    · exact h
    · intro a
      simp [h a]
  all_goals exact h

end SameMembers

theorem Json.SameTexts.refl (a : Json) : a.SameTexts a :=
  .inl rfl

-- All that a condition has to make nothing of is the order of a list of texts, and its copies.
theorem Condition.fits_of_lists {d : Condition}
    (h : ∀ ss ts, SameMembers ss ts → (d.holds .session (.ok (.ofStrings ss)) ↔ d.holds .session (.ok (.ofStrings ts)))) :
    d.Fits Json.SameTexts .session := by
  intro o o' ho
  cases ho
  case error => rfl
  case value hv =>
    cases hv
    case inl he => rw [he]
    case inr hl =>
      have ⟨ss, ts, ha, hb, hm⟩ := hl
      rw [ha, hb]
      exact Bool.eq_iff_iff.mpr (h ss ts hm)

theorem Link.fits {l : Link} {d : Condition} (h : d ∈ l.rule.conditions) : d.Fits Json.SameTexts .session := by
  have equal (id answer : String) (ss ts : List String) (_ : SameMembers ss ts) :
      (⟨id, "equal", .string answer⟩ : Condition).holds .session (.ok (.ofStrings ss)) ↔
      (⟨id, "equal", .string answer⟩ : Condition).holds .session (.ok (.ofStrings ts)) := by
    rw [Condition.holds_equal_iff, Condition.holds_equal_iff]
    exact ⟨nofun, nofun⟩
  apply Condition.fits_of_lists
  rcases mem_conditions_rule.mp h with rfl | ⟨_, rfl⟩ | ⟨_, _, rfl⟩ | ⟨_, _, rfl⟩ | ⟨_, _, rfl⟩
  case inl =>
    intro ss ts hm
    rw [Condition.holds_contains_iff, Condition.holds_contains_iff]
    exact hm _
  case inr.inl =>
    intro ss ts hm
    rw [Condition.holds_containsOneOf_iff, Condition.holds_containsOneOf_iff]
    simp only [hm _]
  all_goals exact equal _ _

-- Worlds that nobody who is asked can tell apart, with the same firings and the same symptoms.
structure World.SameSet (w x : World υ) : Prop where
  memory : SameMembers w.memory x.memory
  firings : w.firings = x.firings
  user : w.user = x.user
  exchanges : w.exchanges = x.exchanges

namespace World.SameSet

variable {w x : World υ}

theorem called (h : w.SameSet x) (call : Call) (r : Reaction × υ) : (w.called call r).SameSet (x.called call r) where
  memory := h.memory
  firings := h.firings
  user := rfl
  exchanges := by rw [exchanges_called, exchanges_called, h.exchanges]

theorem provided (h : w.SameSet x) {r : Respondent υ} {id : String} {p : World υ → Reply × World υ}
    (hp : r.Provides id p) : (p w).1 = (p x).1 ∧ (p w).2.SameSet (p x).2 := by
  cases hp
  case fails => exact ⟨rfl, h⟩
  case calls call react _ =>
    dsimp only
    rw [h.user]
    exact ⟨rfl, h.called call _⟩

theorem hear (h : w.SameSet x) {v v' : Verdict} (hv : v.Matches Json.SameTexts v') :
    (World.hear v w).SameSet (World.hear v' x) := by
  have hf : v.firing? = v'.firing? := Verdict.firing?_congr hv.name hv.result hv.event
  have he : (World.hear v w).exchanges = (World.hear v' x).exchanges := by
    rw [exchanges_hear, exchanges_hear, h.exchanges]
  cases hw : v.firing?
  case none =>
    rw [hear_of_none hw, hear_of_none (hf ▸ hw)] at *
    exact ⟨h.memory, h.firings, h.user, he⟩
  case some f =>
    rw [hear_of_some hw, hear_of_some (hf ▸ hw)] at *
    exact ⟨h.memory.apply f, congrArg (· ++ [f]) h.firings, h.user, he⟩

end World.SameSet

namespace Consultation

variable {c : Consultation υ} {types seed seed' : List String}

-- The same consultation about a system of these types.
def about (c : Consultation υ) (types : List String) : Consultation υ :=
  { c with systemTypes := types }

theorem facts_about (ht : SameMembers c.systemTypes types) :
    c.facts.Kin Json.SameTexts World.SameSet (c.about types).facts := by
  refine facts_rel ⟨.provider fun w x h => ?memory, rfl, rfl⟩ ⟨.constant (.inr ⟨_, _, rfl, rfl, ht⟩), rfl, rfl⟩ rfl
    fun id b => ?bound
  case memory => exact ⟨⟨.value (.inr ⟨_, _, rfl, rfl, h.memory⟩), rfl⟩, h⟩
  case bound =>
    have kin {i : String} {p : World υ → Reply × World υ} (hp : c.respondent.Provides i p) :
        Source.Kin Json.SameTexts World.SameSet (.provider p) (.provider p) := by
      refine .provider fun w x h => ?_
      have ⟨he, hw⟩ := h.provided hp
      exact ⟨he ▸ .refl .refl _, hw⟩
    obtain ⟨kind, priority⟩ := b
    refine ⟨?_, rfl, rfl⟩
    cases kind
    case preset value => exact .constant (.refl value)
    case question => exact kin (Question.provides ..)
    case confirmation s k => exact kin (Confirmation.provides ..)

theorem session_about (ht : SameMembers c.systemTypes types) (hs : SameMembers seed seed') (user : υ) :
    List.Forall₂ (Verdict.Matches Json.SameTexts) (c.session seed user).1 ((c.about types).session seed' user).1 ∧
    (c.session seed user).2.world.SameSet ((c.about types).session seed' user).2.world := by
  have hstart : (c.start seed user).Kin Json.SameTexts World.SameSet (fun _ => True)
      ((c.about types).start seed' user) :=
    .start (facts_about ht) (fun _ _ => .inl rfl) ⟨hs, rfl, rfl, rfl⟩
  have hc : RuleSet.Fit Json.SameTexts .session (fun _ => True) c.knowledge.rules := by
    intro r hr d hd
    obtain ⟨l, _, _, rfl⟩ := KnowledgeBase.exists_link_of_mem_rules hr
    exact ⟨trivial, l.fits hd⟩
  have ⟨hv, hk⟩ := RuleSet.runGroups_matches (a := c.ruleSet) (b := (c.about types).ruleSet)
    (Store.lockstep_kin (.refl .null) World.SameSet fun _ => True) rfl
    (fun v v' _ _ hv h => h.with_world (h.world.hear hv)) (fun g hg => RuleSet.fit_of_mem_groups hc hg) hstart
  exact ⟨hv, hk.world⟩

-- Sessions in which the same is asked and answered, and the same fires; every rule comes to the same, but
-- for the order and the copies of what it saw, and so do the symptoms.
structure Agree (d d' : Diagnosis) (w w' : World υ) : Prop where
  exchanges : w.exchanges = w'.exchanges
  firings : d.firings = d'.firings
  results : d.verdicts.map (fun v => (v.name, v.result)) = d'.verdicts.map fun v => (v.name, v.result)
  verdicts : List.Forall₂ (Verdict.Matches Json.SameTexts) d.verdicts d'.verdicts
  symptoms : SameMembers d.activeSymptoms d'.activeSymptoms

-- Of the symptoms that a session starts from, and of the types of the system, only the sets matter.
theorem run_agrees (h : c.settings.Valid) (ht : SameMembers c.systemTypes types) (hs : SameMembers seed seed')
    (user : υ) :
    c.Ends seed user fun d w => ∃ d' w', (c.about types).run seed' user = .ok (.ok (d', w')) ∧ Agree d d' w w' := by
  refine .of_prepared h fun hc => ?_
  have ⟨hv, hw⟩ := session_about ht hs user
  have hr := map_eq_of_forall₂ (fun _ _ h => congr (congrArg Prod.mk h.name) h.result) hv
  rw [run_prepared_eq_session]
  exact ⟨_, _, @run_eq_session _ (c.about types) h hc seed' user, hw.exchanges, hw.firings, hr, hv, hw.memory⟩

theorem run_agrees_water :
    ((water Nat.succ).settings.Valid ∧ SameMembers ["osmosis"] ["osmosis", "osmosis"] ∧
      SameMembers ["Symptom1", "Symptom2"] ["Symptom2", "Symptom1", "Symptom2"]) ∧
    ∃ d w, (water Nat.succ).run ["Symptom1", "Symptom2"] 0 = .ok (.ok (d, w)) ∧ ∃ d' w',
      ((water Nat.succ).about ["osmosis", "osmosis"]).run ["Symptom2", "Symptom1", "Symptom2"] 0 = .ok (.ok (d', w')) ∧
      Agree d d' w w' := by
  have h : (water Nat.succ).settings.Valid := by decide
  have ht : SameMembers ["osmosis"] ["osmosis", "osmosis"] := by simp [SameMembers]
  have hs : SameMembers ["Symptom1", "Symptom2"] ["Symptom2", "Symptom1", "Symptom2"] := fun a => by
    simp only [List.mem_cons, List.not_mem_nil]
    grind
  exact ⟨⟨h, ht, hs⟩, (run_agrees h ht hs 0).held (by decide +kernel)⟩

end Consultation
end Troubleshoot
