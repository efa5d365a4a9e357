import Mathlib.Data.List.Nodup
import Troubleshoot.Proofs.Related
import Troubleshoot.Proofs.Session.Course

namespace Troubleshoot

theorem filterMap_forall₂ {α β : Type} (f : α → Option β) (as : List α) :
    List.Forall₂ (fun a b => f a = some b) (as.filter fun a => (f a).isSome) (as.filterMap f) := by
  induction as
  case nil => exact .nil
  case cons a as ih =>
    cases h : f a
    case none => simpa [h] using ih
    case some b => simpa [h] using ih

-- A link of a symptom as it is written down.
inductive Reference where
  | candidate (s : Symptom) (c : Candidate)
  | cause (s : Symptom) (c : Cause)

namespace Reference

def symptom : Reference → Symptom
  | candidate s _ | cause s _ => s

def solutionId? : Reference → Option String
  | candidate _ c => some c.solutionId
  | cause _ _ => none

def causeId? : Reference → Option String
  | candidate _ _ => none
  | cause _ c => some c.symptomId

-- There is a record that the reference leads to.
def Met (kb : KnowledgeBase) : Reference → Prop
  | candidate _ c => ∃ k ∈ kb.solutions, k.id = c.solutionId
  | cause _ c => ∃ root ∈ kb.symptoms, root.id = c.symptomId

instance (kb : KnowledgeBase) : (r : Reference) → Decidable (r.Met kb)
  | candidate _ c => inferInstanceAs (Decidable (∃ k ∈ kb.solutions, k.id = c.solutionId))
  | cause _ c => inferInstanceAs (Decidable (∃ root ∈ kb.symptoms, root.id = c.symptomId))

def link? (kb : KnowledgeBase) : Reference → Option Link
  | candidate s c => (kb.solution? c.solutionId).map (.candidate s c)
  | cause s c => (kb.symptom? c.symptomId).map (.cause s c)

-- What is missing if the reference leads nowhere.
def gap : Reference → KnowledgeBase.Gap
  | candidate s c => .solution s.id c.solutionId
  | cause s c => .cause s.id c.symptomId

theorem isSome_link?_iff {kb : KnowledgeBase} {r : Reference} : (r.link? kb).isSome ↔ r.Met kb := by
  cases r <;> simp [link?, Met, KnowledgeBase.solution?_eq_find?, KnowledgeBase.symptom?_eq_find?, List.find?_isSome]

end Reference

-- The rule looks for the symptom of the reference first, and its event tells of where the reference leads.
structure Reference.ServedBy (ref : Reference) (r : Rule) : Prop where
  first : r.conditions.head? = some ⟨Bindings.symptomsFact, "contains", .string ref.symptom.id⟩
  firing : ∃ f, Firing.ofEvent? r.event r.name = some f ∧ f.symptomId = ref.symptom.id ∧
    f.solutionId = ref.solutionId? ∧ f.causeId = ref.causeId?

theorem KnowledgeBase.id_of_solution? {kb : KnowledgeBase} {id : String} {k : Solution} (h : kb.solution? id = some k) :
    k.id = id := by
  rw [solution?_eq_find?] at h
  simpa using List.find?_some h

theorem KnowledgeBase.id_of_symptom? {kb : KnowledgeBase} {id : String} {s : Symptom} (h : kb.symptom? id = some s) :
    s.id = id := by
  rw [symptom?_eq_find?] at h
  simpa using List.find?_some h

-- Whatever priority the rule of a link is given.
theorem Reference.servedBy {kb : KnowledgeBase} {ref : Reference} {l : Link} (h : ref.link? kb = some l)
    (priority : Int64) : ref.ServedBy { l.rule with priority } where
  first := by
    cases ref <;> obtain ⟨_, _, rfl⟩ := Option.map_eq_some_iff.mp h <;> rfl
  firing := by
    refine ⟨l.firing, l.ofEvent?_rule, ?_⟩
    cases ref <;> obtain ⟨target, ht, rfl⟩ := Option.map_eq_some_iff.mp h
    case candidate => exact ⟨rfl, congrArg some (KnowledgeBase.id_of_solution? ht), rfl⟩
    case cause => exact ⟨rfl, rfl, congrArg some (KnowledgeBase.id_of_symptom? ht)⟩

namespace KnowledgeBase

variable {kb : KnowledgeBase} {s : Symptom}

def Gap.isQuestion : Gap → Bool
  | question _ _ => true
  | solution _ _ | cause _ _ => false

def referencesOf (s : Symptom) : List Reference :=
  s.candidates.map (.candidate s) ++ s.causes.map (.cause s)

-- All that the symptoms refer to, candidates before causes.
def references (kb : KnowledgeBase) : List Reference :=
  kb.symptoms.flatMap referencesOf

-- A guard of the symptom with that id asks for a question, and there is none with its id.
def Wants (kb : KnowledgeBase) (symptomId id : String) : Prop :=
  (∃ s ∈ kb.symptoms, s.id = symptomId ∧ ∃ g ∈ s.guards, id ∈ g.questions) ∧ ∀ q ∈ kb.questions, q.id ≠ id

instance (kb : KnowledgeBase) (symptomId id : String) : Decidable (kb.Wants symptomId id) :=
  inferInstanceAs (Decidable (_ ∧ _))

theorem links_eq_filterMap (kb : KnowledgeBase) : kb.links = kb.references.filterMap (Reference.link? kb) := by
  simp only [links, references, List.filterMap_flatMap]
  congr 1
  funext s
  simp [linksOf, referencesOf, List.filterMap_append, List.filterMap_map, Function.comp_def, Reference.link?]

-- The rules stand in the order of their links, each under a priority of its own.
theorem rules_forall₂ (kb : KnowledgeBase) :
    List.Forall₂ (fun l r => ∃ priority, r = { l.rule with priority }) kb.links kb.rules := by
  refine List.forall₂_iff_get.mpr ⟨kb.length_rules.symm, fun i hl hr => ?_⟩
  have h := kb.getElem?_rules i
  rw [List.getElem?_eq_getElem hr, List.getElem?_eq_getElem hl] at h
  exact ⟨_, Option.some.inj h⟩

theorem references_servedBy (kb : KnowledgeBase) :
    List.Forall₂ Reference.ServedBy (kb.references.filter (Reference.Met kb)) kb.rules := by
  have hf : kb.references.filter (Reference.Met kb) = kb.references.filter fun ref => (ref.link? kb).isSome := by
    congr 1
    funext ref
    exact (Bool.eq_iff_iff.mpr (Reference.isSome_link?_iff.trans decide_eq_true_iff.symm)).symm
  have hl := filterMap_forall₂ (Reference.link? kb) kb.references
  rw [← links_eq_filterMap] at hl
  rw [hf]
  refine forall₂_comp (fun ref l r he hr => ?_) hl kb.rules_forall₂
  obtain ⟨priority, rfl⟩ := hr
  exact Reference.servedBy he priority

theorem map_priority_rules (kb : KnowledgeBase) :
    kb.rules.map (·.priority) = (List.range kb.rules.length).map fun i => .ofNat (kb.rules.length + 1 - i) := by
  refine List.ext_getElem? fun i => ?_
  rw [List.getElem?_map, getElem?_rules, List.getElem?_map, Option.map_map, kb.length_rules]
  by_cases hi : i < kb.links.length <;> simp [hi]

-- The references of a symptom that lead nowhere are told before the questions that are missing.
theorem filter_gapsOf (kb : KnowledgeBase) (s : Symptom) :
    (kb.gapsOf s).filter (!·.isQuestion) = ((referencesOf s).filter (¬Reference.Met kb ·)).map Reference.gap := by
  have hc (c : Candidate) : (kb.solution? c.solutionId).isNone = decide (¬Reference.Met kb (.candidate s c)) := by
    rw [Bool.eq_iff_iff]
    simp [← Reference.isSome_link?_iff, Reference.link?]
  have hr (c : Cause) : (kb.symptom? c.symptomId).isNone = decide (¬Reference.Met kb (.cause s c)) := by
    rw [Bool.eq_iff_iff]
    simp [← Reference.isSome_link?_iff, Reference.link?]
  simp only [gapsOf, referencesOf, List.filter_append, List.map_append, List.filter_map, List.map_map, hc, hr]
  simp [Function.comp_def, Gap.isQuestion, Reference.gap]

theorem filter_gaps (kb : KnowledgeBase) :
    kb.gaps.filter (!·.isQuestion) = (kb.references.filter (¬Reference.Met kb ·)).map Reference.gap := by
  simp only [gaps, references, List.filter_flatMap, List.map_flatMap, filter_gapsOf]

theorem mem_firsts {ids : List String} {id : String} : id ∈ gapsOf.firsts ids ↔ id ∈ ids := by
  induction ids
  case nil => rfl
  case cons i ids ih => by_cases h : id = i <;> simp [gapsOf.firsts, ih, h]

theorem nodup_firsts (ids : List String) : (gapsOf.firsts ids).Nodup := by
  induction ids
  case nil => exact .nil
  case cons i ids ih => exact List.nodup_cons.mpr ⟨by simp, ih.filter _⟩

theorem question_mem_gapsOf_iff {symptomId id : String} :
    .question symptomId id ∈ kb.gapsOf s ↔
      s.id = symptomId ∧ (∃ g ∈ s.guards, id ∈ g.questions) ∧ ∀ q ∈ kb.questions, q.id ≠ id := by
  simp [gapsOf, mem_firsts, question?_eq_find?, and_comm]

theorem question_mem_gaps_iff {symptomId id : String} :
    .question symptomId id ∈ kb.gaps ↔ kb.Wants symptomId id := by
  simp only [gaps, Wants, List.mem_flatMap, question_mem_gapsOf_iff]
  tauto

theorem filter_isQuestion_gapsOf (kb : KnowledgeBase) (s : Symptom) :
    ∃ ids : List String, ids.Nodup ∧ (kb.gapsOf s).filter (·.isQuestion) = ids.map (.question s.id) :=
  ⟨_, nodup_firsts ((s.guards.flatMap Guard.questions).filter fun id => (kb.question? id).isNone), by
    simp [gapsOf, List.filter_map, Function.comp_def, Gap.isQuestion]⟩

-- No symptom tells of a question twice, and no two symptoms have the same id.
theorem nodup_questions (kb : KnowledgeBase) : (kb.gaps.filter (·.isQuestion)).Nodup := by
  rw [gaps, List.filter_flatMap]
  refine List.nodup_flatMap.mpr ⟨fun s _ => ?_, ?_⟩
  case refine_1 =>
    have ⟨ids, hn, he⟩ := kb.filter_isQuestion_gapsOf s
    rw [he]
    exact hn.map fun _ _ h => by cases h; rfl
  case refine_2 =>
    refine (List.pairwise_map.mp kb.symptoms_indexed.nodup).imp fun {s t} hne => ?_
    have ⟨ids, _, hs⟩ := kb.filter_isQuestion_gapsOf s
    have ⟨ids', _, ht⟩ := kb.filter_isQuestion_gapsOf t
    simp only [Function.onFun, hs, ht]
    intro gap hg hg'
    obtain ⟨_, _, rfl⟩ := List.mem_map.mp hg
    obtain ⟨_, _, he⟩ := List.mem_map.mp hg'
    exact hne (Gap.question.inj he).1.symm

-- A question is told of once by each symptom that wants it, and by no other.
theorem count_question_gaps (kb : KnowledgeBase) (symptomId id : String) :
    kb.gaps.count (.question symptomId id) = if kb.Wants symptomId id then 1 else 0 := by
  have hc : kb.gaps.count (.question symptomId id) = (kb.gaps.filter (·.isQuestion)).count (.question symptomId id) :=
    (List.count_filter rfl).symm
  have hm : .question symptomId id ∈ kb.gaps.filter (·.isQuestion) ↔ kb.Wants symptomId id := by
    simp [question_mem_gaps_iff, Gap.isQuestion]
  rw [hc]
  split
  case isTrue h => exact List.count_eq_one_of_mem kb.nodup_questions (hm.mpr h)
  case isFalse h => exact List.count_eq_zero.mpr (mt hm.mp h)

-- The rules of a knowledge base and its gaps against what its symptoms refer to.
structure Corresponds (kb : KnowledgeBase) : Prop where
  rules : List.Forall₂ Reference.ServedBy (kb.references.filter (Reference.Met kb)) kb.rules
  priorities : kb.rules.map (·.priority) = (List.range kb.rules.length).map fun i => .ofNat (kb.rules.length + 1 - i)
  numbers : kb.Numbered →
    kb.rules.map (·.priority.toInt) = (List.range kb.rules.length).map fun i => ((kb.rules.length + 1 - i : Nat) : Int)
  gaps : kb.gaps.filter (!·.isQuestion) = (kb.references.filter (¬Reference.Met kb ·)).map Reference.gap
  total : kb.rules.length + (kb.gaps.filter (!·.isQuestion)).length = kb.references.length
  questions : ∀ symptomId id, kb.gaps.count (.question symptomId id) = if kb.Wants symptomId id then 1 else 0

theorem rules_correspond (kb : KnowledgeBase) : kb.Corresponds where
  rules := kb.references_servedBy
  priorities := kb.map_priority_rules
  numbers hn := by
    have h := congrArg (List.map Int64.toInt) kb.map_priority_rules
    rw [List.map_map, List.map_map] at h
    refine h.trans (List.map_congr_left fun i _ => Int64.toInt_ofNat_of_lt ?_)
    have hm : Int64.maxValue.toInt = 2 ^ 63 - 1 := rfl
    rw [Numbered, ← length_rules, hm] at hn
    omega
  gaps := kb.filter_gaps
  total := by
    have h := kb.references.length_eq_length_filter_add fun ref => decide (ref.Met kb)
    rw [← kb.references_servedBy.length_eq, filter_gaps, List.length_map, h]
    simp
  questions := kb.count_question_gaps

end KnowledgeBase
end Troubleshoot
