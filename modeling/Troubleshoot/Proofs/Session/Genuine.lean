import Troubleshoot.Proofs.Session.Priority
import Troubleshoot.Proofs.Session.Provenance
import Troubleshoot.Proofs.Session.Reference

namespace Troubleshoot

variable {υ : Type}

namespace World

-- The respondent was asked a question of the knowledge base, and this is what they answered.
def Answered (w : World υ) (kb : KnowledgeBase) (id answer : String) : Prop :=
  ∃ q, kb.question? id = some q ∧ (.question q, .ok (.text answer)) ∈ w.exchanges

def Confirmed (w : World υ) (k : Solution) (p : Confirmation) (answer : String) : Prop :=
  (.confirmation k p, .ok (.text answer)) ∈ w.exchanges

-- The respondent really was asked what a link asks for, and answered as it says.
structure Genuine (w : World υ) (kb : KnowledgeBase) (l : Link) : Prop where
  yes : ∀ id ∈ l.guard.mustBeYes, w.Answered kb id "yes"
  no : ∀ id ∈ l.guard.mustBeNo, w.Answered kb id "no"
  confirmed : ∀ k p, (k, p) ∈ l.confirmations → w.Confirmed k p "yes"

-- Whoever an id belongs to in a session gave this answer.
def Vouched (w : World υ) (kb : KnowledgeBase) (id answer : String) : Prop :=
  match kb.confirmation? id with
  | some (k, p) => w.Confirmed k p answer
  | none => w.Answered kb id answer

end World

namespace Link

-- The answers that a link needs, by the ids of their facts.
def demands (l : Link) : List (String × String) :=
  l.guard.mustBeYes.map (·, "yes") ++ l.guard.mustBeNo.map (·, "no") ++
    l.confirmations.map fun (k, p) => (p.factId k.id, "yes")

theorem mem_demands {l : Link} {id answer : String} :
    (id, answer) ∈ l.demands ↔
      (id ∈ l.guard.mustBeYes ∧ answer = "yes") ∨ (id ∈ l.guard.mustBeNo ∧ answer = "no") ∨
      ∃ k p, (k, p) ∈ l.confirmations ∧ id = p.factId k.id ∧ answer = "yes" := by
  simp only [demands, List.mem_append, List.mem_map, Prod.mk.injEq]
  grind

theorem mem_conditions_of_mem_demands {l : Link} {id answer : String} (h : (id, answer) ∈ l.demands) :
    ⟨id, "equal", .string answer⟩ ∈ l.rule.conditions := by
  rw [mem_conditions_rule]
  rw [mem_demands] at h
  grind

end Link

namespace KnowledgeBase

variable {kb : KnowledgeBase}

-- Nothing else is asked for under the ids of a link.
structure Unshared (kb : KnowledgeBase) (l : Link) : Prop where
  guard : ∀ id ∈ l.guard.questions, kb.confirmation? id = none
  confirmations : ∀ k p, (k, p) ∈ l.confirmations → kb.confirmation? (p.factId k.id) = some (k, p)

theorem question?_of_mem_gaps {symptomId id : String} (h : .question symptomId id ∈ kb.gaps) :
    kb.question? id = none := by
  have ⟨s, _, h⟩ := List.mem_flatMap.mp h
  simp only [gapsOf, List.mem_append, List.mem_map] at h
  rcases h with (⟨_, _, h⟩ | ⟨_, _, h⟩) | ⟨id', hi, h⟩
  case inr =>
    cases h
    simpa using (List.mem_filter.mp (mem_firsts.mp hi)).2
  all_goals cases h

end KnowledgeBase

namespace Consultation

variable {c : Consultation υ} {l : Link} {w : World υ} {id answer : String}

theorem vouched_of_backed (hp : c.presets = []) (hn : c.holder id ≠ .nobody)
    (h : c.Backed w.exchanges id (.string answer)) : w.Vouched c.knowledge id answer := by
  simp only [Backed] at h
  simp only [World.Vouched]
  cases hh : c.holder id <;> simp only [hh] at h
  case memory | systemTypes =>
    obtain ⟨_, h⟩ := h
    cases h
  case preset => simp [holder, hp, latest?] at hh; grind
  case nobody => exact absurd hh hn
  case question =>
    obtain ⟨q, a, hq, ha, hv⟩ := h
    cases Answer.toJson_eq_string_iff.mp hv.symm
    rw [confirmation?_of_question hh]
    exact ⟨q, hq, ha⟩
  case confirmation k p =>
    obtain ⟨a, ha, hv⟩ := h
    cases Answer.toJson_eq_string_iff.mp hv.symm
    rw [confirmation?_of_holder hh]
    exact ha

-- Whoever was called had the say about the fact.
theorem holder_of_exchange (c : Consultation υ) (symptoms : List String) (user : υ) :
    let exchanges := (c.course symptoms user).2.world.exchanges
    (∀ q a, (.question q, a) ∈ exchanges → c.holder q.id = .question) ∧
    ∀ k p a, (.confirmation k p, a) ∈ exchanges → c.holder (p.factId k.id) = .confirmation k p := by
  have hc := (c.course_recorded symptoms user).1.calls
  have hm : ∀ call a, (call, a) ∈ (c.course symptoms user).2.world.exchanges →
      call ∈ c.callsFor [] ((c.course symptoms user).1.flatMap Verdict.asked) :=
    fun call a h => hc ▸ List.mem_map_of_mem h
  exact ⟨fun q a h => (holder_of_mem_callsFor (hm _ a h)).1 q rfl,
    fun k p a h => (holder_of_mem_callsFor (hm _ a h)).2 k p rfl⟩

theorem vouched_of_matched (hp : c.presets = []) {symptoms : List String} {user : υ} {i : Nat} {v : Verdict}
    (hl : c.knowledge.links[i]? = some l) (hv : (c.course symptoms user).1[i]? = some v) (hr : v.result)
    (h : (id, answer) ∈ l.demands) :
    (c.course symptoms user).2.world.Vouched c.knowledge id answer := by
  have hd := Link.mem_conditions_of_mem_demands h
  have ⟨value, hv, hb⟩ := c.course_grounded symptoms user i l v hl hv hr _ hd
  cases Condition.holds_equal_iff.mp hv
  exact vouched_of_backed hp (holder_ne_nobody (List.mem_of_getElem? hl) hd) hb

theorem genuine_iff_unshared (hp : c.presets = []) {symptoms : List String} {user : υ} {i : Nat} {v : Verdict}
    (hl : c.knowledge.links[i]? = some l) (hv : (c.course symptoms user).1[i]? = some v) (hr : v.result) :
    (c.course symptoms user).2.world.Genuine c.knowledge l ↔ c.knowledge.Unshared l := by
  have hd : ∀ id answer, (id, answer) ∈ l.demands →
      (c.course symptoms user).2.world.Vouched c.knowledge id answer :=
    fun _ _ => vouched_of_matched hp hl hv hr
  have ⟨hq, hk⟩ := c.holder_of_exchange symptoms user
  constructor
  case mp =>
    intro ⟨hy, hn, hc⟩
    have ha : ∀ id answer, (c.course symptoms user).2.world.Answered c.knowledge id answer →
        c.knowledge.confirmation? id = none := by
      intro id answer ⟨q, hf, he⟩
      exact KnowledgeBase.id_of_question? hf ▸ confirmation?_of_question (hq q _ he)
    refine ⟨fun id hi => ?_, fun k p he => confirmation?_of_holder (hk k p _ (hc k p he))⟩
    rcases List.mem_append.mp hi with hi | hi
    · exact ha id _ (hy id hi)
    · exact ha id _ (hn id hi)
  case mpr =>
    intro ⟨hg, hc⟩
    refine ⟨fun id hi => ?_, fun id hi => ?_, fun k p he => ?_⟩
    · have hw := hd id "yes" (Link.mem_demands.mpr (.inl ⟨hi, rfl⟩))
      rwa [World.Vouched, hg id (List.mem_append_left _ hi)] at hw
    · have hw := hd id "no" (Link.mem_demands.mpr (.inr (.inl ⟨hi, rfl⟩)))
      rwa [World.Vouched, hg id (List.mem_append_right _ hi)] at hw
    · have hw := hd _ "yes" (Link.mem_demands.mpr (.inr (.inr ⟨k, p, he, rfl, rfl⟩)))
      rwa [World.Vouched, hc k p he] at hw

-- A missing question lets a rule match only if its id is also that of a confirmation.
theorem isSome_confirmation?_of_gap (hp : c.presets = []) {symptoms : List String} {user : υ} {i : Nat}
    {v : Verdict} (hl : c.knowledge.links[i]? = some l) (hv : (c.course symptoms user).1[i]? = some v)
    (hr : v.result) (hi : id ∈ l.guard.questions) (hg : .question l.symptom.id id ∈ c.knowledge.gaps) :
    (c.knowledge.confirmation? id).isSome := by
  have ⟨answer, hd⟩ : ∃ answer, (id, answer) ∈ l.demands := by
    rcases List.mem_append.mp hi with hi | hi
    · exact ⟨"yes", Link.mem_demands.mpr (.inl ⟨hi, rfl⟩)⟩
    · exact ⟨"no", Link.mem_demands.mpr (.inr (.inl ⟨hi, rfl⟩))⟩
  have hw := vouched_of_matched hp hl hv hr hd
  cases hc : c.knowledge.confirmation? id
  case some => rfl
  case none =>
    rw [World.Vouched, hc] at hw
    have ⟨q, hq, _⟩ := hw
    cases (KnowledgeBase.question?_of_mem_gaps hg).symm.trans hq

-- A rule that fires does so on what the holders of its ids said. That is what its link asks for if,
-- and only if, the link shares its ids with nothing else.
theorem run_genuine_iff_unshared (hv : c.settings.Valid) (hn : c.knowledge.Numbered) (hp : c.presets = [])
    (symptoms : List String) (user : υ) :
    c.Ends symptoms user fun d w =>
      ∀ (i : Nat) (l : Link) (v : Verdict), c.knowledge.links[i]? = some l → d.verdicts[i]? = some v → v.result →
        (w.Genuine c.knowledge l ↔ c.knowledge.Unshared l) ∧
        (∀ id answer, (id, answer) ∈ l.demands → w.Vouched c.knowledge id answer) ∧
        ∀ id ∈ l.guard.questions, .question l.symptom.id id ∈ c.knowledge.gaps →
          (c.knowledge.confirmation? id).isSome :=
  .of_course hv hn fun _ _ _ _ hl hv hr =>
    ⟨genuine_iff_unshared hp hl hv hr, fun _ _ hd => vouched_of_matched hp hl hv hr hd,
      fun _ hi hg => isSome_confirmation?_of_gap hp hl hv hr hi hg⟩

-- The rule asks for a question that nobody wrote down, under the id of its own solution.
def filter : Consultation Nat where
  settings := {}
  knowledge := .ofDistinct
    [⟨"Symptom1", "Water tastes bad", none, [⟨"Solution1", ⟨[], ["Solution1"], []⟩⟩], []⟩]
    [⟨"Solution1", "Change the filter", none, none, none, true, false⟩]
    [] (by decide) (by decide) (by decide)
  respondent := .counting Nat.succ
  presets := []
  systemTypes := []

-- It fires all the same: the solution is confirmed twice, and the question is never asked.
theorem run_genuine_iff_unshared_filter :
    (filter.settings.Valid ∧ filter.knowledge.Numbered ∧ filter.presets = []) ∧
    ∃ d w v, filter.run ["Symptom1"] 0 = .ok (.ok (d, w)) ∧ d.verdicts[0]? = some v ∧ v.result ∧
      ∀ l, filter.knowledge.links[0]? = some l →
        .question l.symptom.id "Solution1" ∈ filter.knowledge.gaps ∧ ¬w.Genuine filter.knowledge l := by
  have hv : filter.settings.Valid := by decide
  have hn : filter.knowledge.Numbered := by decide
  have hc : filter.Counted := by decide +kernel
  have ⟨d, w, hr, h⟩ := (run_genuine_iff_unshared hv hn rfl ["Symptom1"] 0).held hc
  have hd : d = filter.diagnosis ["Symptom1"] 0 := by
    have he := hr.symm.trans (run_eq_course hv hn hc ["Symptom1"] 0)
    exact congrArg Prod.fst (Except.ok.inj (Except.ok.inj he))
  have hm : ((filter.diagnosis ["Symptom1"] 0).verdicts[0]?.map (·.result)) = some true := by decide +kernel
  have ⟨v, hv', hr'⟩ := Option.map_eq_some_iff.mp hm
  rw [← hd] at hv'
  refine ⟨⟨hv, hn, rfl⟩, d, w, v, hr, hv', hr', fun l hl => ?_⟩
  have hg := (h 0 l v hl hv' hr').1
  cases hl
  refine ⟨by decide, fun hw => ?_⟩
  have hu := (hg.mp hw).guard "Solution1" (by decide)
  exact absurd hu (by decide)

end Consultation
end Troubleshoot
