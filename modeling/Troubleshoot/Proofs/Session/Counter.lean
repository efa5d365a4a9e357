import Troubleshoot.Proofs.Session.Occasion

namespace Troubleshoot

variable {υ : Type}

theorem Registration.taken_take_le (rs : List Registration) (n : Nat) (bound : List String) :
    taken bound (rs.take n) ≤ taken bound rs := by
  induction rs generalizing n bound
  case nil => simp
  case cons r rs ih =>
    cases n
    case zero => simp [taken]
    case succ n =>
      cases r
      case preset id _ => exact ih n (id :: bound)
      case confirmation s c => exact Nat.succ_le_succ (ih n (c.factId s.id :: bound))
      case question id =>
        simp only [List.take_succ_cons, taken]
        split
        · exact ih n bound
        · exact Nat.succ_le_succ (ih n (id :: bound))

-- The number that is `n` below another is the one that 64 bits hold, unless they do not reach that far.
theorem toInt_sub_ofNat_iff {a : Int64} {n : Nat} :
    (a - .ofNat n).toInt = a.toInt - n ↔ Int64.minValue.toInt ≤ a.toInt - n := by
  have hm : Int64.minValue.toInt = -2 ^ 63 := rfl
  have hs : (a - .ofNat n).toInt = (a.toInt - n).bmod (2 ^ 64) := by
    simp [Int64.toInt_sub, Int64.toInt_ofNat']
  have ha := a.toInt_lt
  have hl := (a - .ofNat n).le_toInt
  constructor
  case mp => omega
  case mpr =>
    intro h
    rw [hs, Int.bmod_eq_of_le] <;> omega

namespace Bindings

variable {b : Bindings υ} {rs : List Registration}

-- How far the counter has come down from `first`, and what priorities were given out on the way.
structure Lowered (first : Int64) (n : Nat) (b : Bindings υ) : Prop where
  next : b.next = first - .ofNat n
  priority : ∀ id binding, b.table.find? id = some binding →
    (∃ value, binding.kind = .preset value) ∨ ∃ k < n, binding.priority = first - .ofNat k

theorem Lowered.preset {first : Int64} {n : Nat} (h : b.Lowered first n) (key : String) (value : Json) :
    (b.preset key value).Lowered first n where
  next := h.next
  priority := by
    intro id binding hf
    simp only [Bindings.preset, Table.find?_insert] at hf
    split at hf
    case isTrue => cases hf; exact .inl ⟨value, rfl⟩
    case isFalse => exact h.priority id binding hf

theorem Lowered.lower {first : Int64} {n : Nat} (h : b.Lowered first n) (key : String) (kind : Binding.Kind) :
    (b.lower key kind).Lowered first (n + 1) where
  next := by
    rw [Bindings.lower, h.next, Int64.ofNat_add]
    grind
  priority := by
    intro id binding hf
    rw [Bindings.lower, Table.find?_insert] at hf
    split at hf
    case isTrue => cases hf; exact .inr ⟨n, Nat.lt_succ_self n, h.next⟩
    case isFalse =>
      rcases h.priority id binding hf with hp | ⟨k, hk, he⟩
      · exact .inl hp
      · exact .inr ⟨k, Nat.lt_succ_of_lt hk, he⟩

theorem lowered_enterAll (ht : ∀ id, b.table.find? id = none) (rs : List Registration) :
    (b.enterAll rs).Lowered b.next (Registration.taken [] rs) := by
  have ⟨h, _⟩ := @enterAll_induction _ b rs
    (fun b' n => b'.Lowered b.next (Registration.taken [] rs - n) ∧ n ≤ Registration.taken [] rs) []
    (fun _ _ key value h => ⟨h.1.preset key value, h.2⟩)
    (fun _ n key kind ⟨h, hn⟩ => by
      have he : Registration.taken [] rs - n = Registration.taken [] rs - (n + 1) + 1 := by omega
      exact ⟨he ▸ h.lower key kind, by omega⟩)
    (by simp [kind?, ht])
    ⟨⟨by simp, by simp [ht]⟩, Nat.le_refl _⟩
  exact h

-- The counter goes down by one for each priority that is given out, and comes to each of those numbers.
def CountsDown (b : Bindings υ) (rs : List Registration) : Prop :=
  ∀ n, ∃ b', b.registerAll (rs.take n) = .ok b' ∧
    b'.next.toInt = b.next.toInt - Registration.taken [] (rs.take n)

theorem countsDown_iff (ht : ∀ id, b.table.find? id = none) :
    b.CountsDown rs ↔ Int64.minValue.toInt ≤ b.next.toInt - Registration.taken [] rs := by
  have hr (n : Nat) := @registerAll_eq _ b (rs.take n) [] (by simp [kind?, ht])
  constructor
  case mp =>
    intro h
    obtain ⟨b', hb, _⟩ := h rs.length
    rw [hr, List.take_length] at hb
    split at hb
    case isTrue hl => exact hl
    case isFalse => cases hb
  case mpr =>
    intro h n
    have hle := Registration.taken_take_le rs n []
    refine ⟨_, (hr n).trans (if_pos (by omega)), ?_⟩
    rw [(lowered_enterAll ht _).next, toInt_sub_ofNat_iff]
    omega

end Bindings

namespace KnowledgeBase

-- No answer of a caller is among what the links of a knowledge base need.
theorem kind_ne_preset (kb : KnowledgeBase) (respondent : Respondent υ) (settings : Settings) {id : String}
    {binding : Binding} {value : Json}
    (h : ((Bindings.empty kb respondent settings).enterAll kb.registrations).table.find? id = some binding) :
    binding.kind ≠ .preset value := by
  intro he
  have hk := Bindings.kind?_enterAll kb.registrations (Bindings.empty kb respondent settings) id
  have hn : (Bindings.empty kb respondent settings).kind? id = none := by
    simp [Bindings.kind?, Bindings.empty]
  have hl := latest?_map (fun p => Binding.Kind.confirmation p.1 p.2) kb.confirmations id
  rw [Bindings.kind?, h, Option.map_some, he, hn, filterMap_firm?_registrations, hl] at hk
  cases hc : latest? kb.confirmations id
  case some => simp [hc] at hk
  case none => by_cases ha : id ∈ kb.registrations.filterMap Registration.question? <;> simp [hc, ha] at hk

end KnowledgeBase

namespace Prepared

-- Whatever the rules of a knowledge base ask the respondent ranks below the session's own facts, and
-- so the symptom of a rule is looked at before anything else.
structure Ranks (p : Prepared υ) (kb : KnowledgeBase) (settings : Settings) : Prop where
  below : ∀ id fact, p.ruleSet.facts.find? id = some fact → fact.priority < settings.sessionFactPriority
  symptomFirst : ∀ l ∈ kb.links, ∀ systemTypes : List String,
    (l.rule.ordered (p.ruleSet.facts.addAll (p.bindings.sessionFacts systemTypes)).priorityOf).head? =
      some l.symptomCondition

end Prepared

@[simp] theorem Binding.priority_fact (kb : KnowledgeBase) (respondent : Respondent υ) (id : String) (b : Binding) :
    (b.fact kb respondent id).priority = b.priority := by
  cases hk : b.kind <;> simp [Binding.fact, hk, Fact.constant]

namespace Advisor

variable {settings : Settings} {kb : KnowledgeBase} {respondent : Respondent υ}

theorem prepare_ranks (hv : settings.Valid) (hl : settings.Leaves kb.demand) :
    (Prepared.on ((Bindings.empty kb respondent settings).enterAll kb.registrations)
      settings.allowUndefinedFacts).Ranks kb settings where
  below := by
    intro id fact hf
    have ⟨binding, hb, he⟩ := Option.map_eq_some_iff.mp (Bindings.find?_facts.symm.trans hf)
    have hw := Bindings.lowered_enterAll (b := Bindings.empty kb respondent settings)
      (by simp [Bindings.empty]) kb.registrations
    rcases hw.priority id binding hb with ⟨value, hk⟩ | ⟨k, hk, hp⟩
    case inl => exact absurd hk (kb.kind_ne_preset respondent settings hb)
    case inr =>
      have hv := Int64.lt_iff_toInt_lt.mp hv
      have hn : (settings.factPriorityStart - .ofNat k).toInt = settings.factPriorityStart.toInt - k :=
        toInt_sub_ofNat_iff.mpr (by simp only [Settings.Leaves, KnowledgeBase.demand] at hl; omega)
      rw [← he, Binding.priority_fact, hp, Int64.lt_iff_toInt_lt]
      simp only [Bindings.empty]
      omega
  symptomFirst := by
    intro l hm systemTypes
    let c : Consultation υ := ⟨settings, kb, respondent, [], systemTypes⟩
    have hr : c.registrations = kb.registrations := List.append_nil _
    obtain ⟨_, he⟩ := Consultation.conditions_eq_cons (c := c) hv (Consultation.counted_iff.mpr hl) hm
    have hb : c.bindings = (Bindings.empty kb respondent settings).enterAll kb.registrations := by
      rw [Consultation.bindings, hr]
    rw [Consultation.conditions, Consultation.facts, hb] at he
    exact congrArg List.head? he

-- Preparation with valid settings ends the program if they leave too few priorities below the first, and
-- only then. If they leave enough, the counter comes down to each of them, and the ranks are right.
theorem prepare_overflows_iff (hv : settings.Valid) (kb : KnowledgeBase) (respondent : Respondent υ) :
    ((new settings).take (prepare kb respondent) = .error .priority ↔ ¬settings.Leaves kb.demand) ∧
    ((Bindings.empty kb respondent settings).CountsDown kb.registrations ↔ settings.Leaves kb.demand) ∧
    (settings.Leaves kb.demand → ∃ p, (new settings).take (prepare kb respondent) = .ok (.ok (), ⟨settings, some p⟩) ∧
      p.Ranks kb settings) := by
  have hp := take_prepare ⟨settings, none⟩ kb respondent
  rw [if_neg nofun, if_pos hv] at hp
  rw [new, hp]
  refine ⟨?_, Bindings.countsDown_iff (by simp [Bindings.empty]), fun hl => ?_⟩
  case refine_1 => split <;> simp_all
  case refine_2 => exact ⟨_, if_pos hl, prepare_ranks hv hl⟩

-- With the lowest start there is, nothing is left below the first question.
theorem prepare_overflows_iff_lowest :
    let settings : Settings := { factPriorityStart := Int64.minValue }
    settings.Valid ∧ (new settings).take (prepare .water (.counting Nat.succ)) = .error .priority ∧
      ¬(Bindings.empty .water (.counting Nat.succ) settings).CountsDown KnowledgeBase.water.registrations := by
  intro settings
  have hv : settings.Valid := by decide
  have hl : ¬settings.Leaves KnowledgeBase.water.demand := by decide +kernel
  have ⟨ho, hc, _⟩ := prepare_overflows_iff hv .water (Respondent.counting Nat.succ)
  exact ⟨hv, ho.mpr hl, mt hc.mp hl⟩

end Advisor
end Troubleshoot
