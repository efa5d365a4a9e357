import Troubleshoot.Console.Configuration
import Troubleshoot.Proofs.Session.Consultation

namespace Troubleshoot

variable {υ : Type}

theorem exists_of_bind_eq_ok {ε α β : Type} {x : Except ε α} {f : α → Except ε β} {b : β} (h : x >>= f = .ok b) :
    ∃ a, x = .ok a ∧ f a = .ok b := by
  cases x
  case error => cases h
  case ok a => exact ⟨a, rfl, h⟩

namespace Advisor

-- What an advisor can be asked to do.
inductive Call (υ : Type) where
  | prepare (kb : KnowledgeBase) (respondent : Respondent υ)
  | setFact (id : String) (value : Json)
  | run (symptoms systemTypes : List String) (user : υ)

-- The advisor that a call leaves behind, whether it fails or not. A session leaves it as it is.
def after (a : Advisor υ) : Call υ → Except Overflow (Advisor υ)
  | .prepare kb respondent => return (← a.take (prepare kb respondent)).2
  | .setFact id value => return (← a.take (setFact id value)).2
  | .run .. => return a

def afterAll (a : Advisor υ) (calls : List (Call υ)) : Except Overflow (Advisor υ) :=
  calls.foldlM after a

-- One of the calls gives the advisor a knowledge base.
def TakesUp (a : Advisor υ) (calls : List (Call υ)) : Prop :=
  ∃ before kb respondent later, calls = before ++ .prepare kb respondent :: later ∧
    ∃ x y, a.afterAll before = .ok x ∧ x.take (prepare kb respondent) = .ok (.ok (), y)

section steps

variable {a b : Advisor υ} {kb : KnowledgeBase} {respondent : Respondent υ} {id : String} {value : Json}
  {call : Call υ} {calls calls' : List (Call υ)}

theorem afterAll_append (a : Advisor υ) (calls calls' : List (Call υ)) :
    a.afterAll (calls ++ calls') = (do (← a.afterAll calls).afterAll calls') :=
  List.foldlM_append

theorem after_prepare {result : Except Failure Unit} (h : a.take (prepare kb respondent) = .ok (result, b)) :
    a.after (.prepare kb respondent) = .ok b := by
  rw [after, h]
  rfl

theorem after_setFact {result : Except LifecycleError Unit} (h : a.take (setFact id value) = .ok (result, b)) :
    a.after (.setFact id value) = .ok b := by
  rw [after, h]
  rfl

-- A knowledge base that is refused, at whatever point, leaves the advisor as it was: what is made of it is
-- only kept at the very end.
theorem eq_of_prepare_error {e : Failure} (h : a.take (prepare kb respondent) = .ok (.error e, b)) : b = a := by
  rw [prepare, take_get] at h
  by_cases hp : a.prepared.isSome
  case pos =>
    rw [if_pos hp] at h
    cases h
    rfl
  case neg =>
    rw [if_neg hp] at h
    cases hv : a.settings.validate <;> rw [hv] at h
    case error message =>
      cases h
      rfl
    case ok =>
      cases hc : (Bindings.empty kb respondent a.settings).compile <;> rw [take_lift, hc] at h
      case error => cases h
      case ok bindings =>
        simp only [bind, Except.bind] at h
        split at h
        case h_1 => cases h
        case h_2 =>
          cases h
          rfl

-- What the offer of a knowledge base can come to.
inductive Offers (a : Advisor υ) (kb : KnowledgeBase) (respondent : Respondent υ) :
    Except Overflow (Except Failure Unit × Advisor υ) → Prop
  | already (hp : a.isPrepared) : Offers a kb respondent (.ok (.error (.lifecycle .alreadyInitialized), a))
  | misordered (hp : ¬a.isPrepared) (hv : ¬a.settings.Valid) :
    Offers a kb respondent (.ok (.error (.configuration a.settings.misordered), a))
  | overflow (hp : ¬a.isPrepared) (hv : a.settings.Valid) (hl : ¬a.settings.Leaves kb.demand) :
    Offers a kb respondent (.error .priority)
  | taken (hp : ¬a.isPrepared) (hv : a.settings.Valid) (hl : a.settings.Leaves kb.demand) {b : Bindings υ}
    (hb : (Bindings.empty kb respondent a.settings).compile = .ok b) :
    Offers a kb respondent (.ok (.ok (), ⟨a.settings, some (.on b a.settings.allowUndefinedFacts)⟩))

-- None of its rules is refused.
theorem offers_prepare (a : Advisor υ) (kb : KnowledgeBase) (respondent : Respondent υ) :
    a.Offers kb respondent (a.take (prepare kb respondent)) := by
  rw [take_prepare]
  split
  case isTrue hp => exact .already hp
  case isFalse hp =>
    split
    case isFalse hv => exact .misordered hp hv
    case isTrue hv =>
      split
      case isFalse hl => exact .overflow hp hv hl
      case isTrue hl => exact .taken hp hv hl ((Bindings.compile_empty ..).trans (if_pos hl))

section offers

variable {answer : Except Overflow (Except Failure Unit × Advisor υ)}

theorem Offers.alreadyInitialized_iff (h : a.Offers kb respondent answer) :
    (∃ b, answer = .ok (.error (.lifecycle .alreadyInitialized), b)) ↔ a.isPrepared := by
  cases h <;> simp_all

theorem Offers.configuration_iff (h : a.Offers kb respondent answer) :
    (∃ message b, answer = .ok (.error (.configuration message), b)) ↔ ¬a.isPrepared ∧ ¬a.settings.Valid := by
  cases h <;> simp_all

theorem Offers.overflow_iff (h : a.Offers kb respondent answer) :
    answer = .error .priority ↔ ¬a.isPrepared ∧ a.settings.Valid ∧ ¬a.settings.Leaves kb.demand := by
  cases h <;> simp_all

theorem Offers.unrefused (h : a.Offers kb respondent answer) (error : RuleError) :
    answer ≠ .ok (.error (.rule error), b) := by
  cases h <;> nofun

theorem Offers.eq_of_taken (h : a.Offers kb respondent (.ok (.ok (), b))) :
    b = ⟨a.settings, some (.on ((Bindings.empty kb respondent a.settings).enterAll kb.registrations)
      a.settings.allowUndefinedFacts)⟩ := by
  cases h
  case taken hl b hb =>
    cases hb.symm.trans ((Bindings.compile_empty ..).trans (if_pos hl))
    rfl

end offers

theorem settings_after (h : a.after call = .ok b) : b.settings = a.settings := by
  cases call
  case prepare kb respondent =>
    obtain ⟨x, hx, hb⟩ := exists_of_bind_eq_ok h
    cases hb
    have ho := hx ▸ a.offers_prepare kb respondent
    cases ho <;> rfl
  case setFact id value =>
    obtain ⟨x, hx, hb⟩ := exists_of_bind_eq_ok h
    cases hb
    rw [take_setFact] at hx
    split at hx <;> cases hx <;> rfl
  case run =>
    cases h
    rfl

theorem settings_afterAll (h : a.afterAll calls = .ok b) : b.settings = a.settings := by
  induction calls generalizing a
  case nil =>
    cases h
    rfl
  case cons call calls ih =>
    obtain ⟨x, hx, hb⟩ := exists_of_bind_eq_ok (List.foldlM_cons.symm.trans h)
    exact (ih hb).trans (settings_after hx)

-- An advisor that has a knowledge base keeps it, and gets it when it takes up an offer.
theorem isPrepared_after_iff (h : a.after call = .ok b) :
    b.isPrepared ↔ a.isPrepared ∨
      ∃ kb respondent, call = .prepare kb respondent ∧ ∃ y, a.take (prepare kb respondent) = .ok (.ok (), y) := by
  cases call
  case prepare kb respondent =>
    obtain ⟨x, hx, hb⟩ := exists_of_bind_eq_ok h
    cases hb
    have ho := hx ▸ a.offers_prepare kb respondent
    cases ho
    case already hp => simp [hp]
    case misordered hp _ => simp [hp, hx]
    case taken hp hv hl _ hb => simp [hx, isPrepared]
  case setFact id value =>
    obtain ⟨x, hx, hb⟩ := exists_of_bind_eq_ok h
    cases hb
    rw [take_setFact] at hx
    split at hx <;> cases hx <;> simp_all [isPrepared]
  case run =>
    cases h
    simp

theorem isPrepared_afterAll_iff (h : a.afterAll calls = .ok b) : b.isPrepared ↔ a.isPrepared ∨ a.TakesUp calls := by
  induction calls generalizing a
  case nil =>
    cases h
    simp [TakesUp]
  case cons call calls ih =>
    obtain ⟨x, hx, hb⟩ := exists_of_bind_eq_ok (List.foldlM_cons.symm.trans h)
    rw [ih hb, isPrepared_after_iff hx, or_assoc]
    refine or_congr_right ⟨fun h => ?_, fun h => ?_⟩
    · rcases h with ⟨kb, respondent, rfl, y, hy⟩ | ⟨before, kb, respondent, later, rfl, y, z, hy, hz⟩
      · exact ⟨[], kb, respondent, calls, rfl, a, y, rfl, hy⟩
      · refine ⟨call :: before, kb, respondent, later, rfl, y, z, ?_, hz⟩
        rw [afterAll, List.foldlM_cons, hx]
        exact hy
    · obtain ⟨before, kb, respondent, later, he, y, z, hy, hz⟩ := h
      cases before
      case nil =>
        cases he
        cases hy
        exact .inl ⟨kb, respondent, rfl, z, hz⟩
      case cons _ before =>
        cases he
        rw [afterAll, List.foldlM_cons, hx] at hy
        exact .inr ⟨before, kb, respondent, later, rfl, y, z, hy, hz⟩

end steps

-- What an advisor that has had some calls makes of the next. The counter of priorities is all that can end
-- the program.
structure Lifecycle (settings : Settings) (calls : List (Call υ)) (a : Advisor υ) : Prop where
  alreadyInitialized_iff : ∀ kb respondent,
    (∃ b, a.take (prepare kb respondent) = .ok (.error (.lifecycle .alreadyInitialized), b)) ↔
      (new settings).TakesUp calls
  configuration_iff : ¬(new settings).TakesUp calls → ∀ kb respondent,
    (∃ message b, a.take (prepare kb respondent) = .ok (.error (.configuration message), b)) ↔
      settings.factPriorityStart ≥ settings.sessionFactPriority
  prepares : ¬(new settings).TakesUp calls → ¬settings.factPriorityStart ≥ settings.sessionFactPriority →
    ∀ kb respondent, settings.Leaves kb.demand →
      ∃ b, (Bindings.empty kb respondent settings).compile = .ok b ∧
        a.take (prepare kb respondent) = .ok (.ok (), ⟨settings, some (.on b settings.allowUndefinedFacts)⟩)
  overflows_iff : ∀ kb respondent, a.take (prepare kb respondent) = .error .priority ↔
    ¬(new settings).TakesUp calls ∧ ¬settings.factPriorityStart ≥ settings.sessionFactPriority ∧
      ¬settings.Leaves kb.demand
  unrefused : ∀ kb respondent error b, a.take (prepare kb respondent) ≠ .ok (.error (.rule error), b)
  atomic : ∀ kb respondent e b, a.take (prepare kb respondent) = .ok (.error e, b) → b = a
  retried : ∀ kb respondent e b, a.take (prepare kb respondent) = .ok (.error e, b) → ∀ later,
    (new settings).afterAll (calls ++ .prepare kb respondent :: later) = (new settings).afterAll (calls ++ later)
  setFact_iff : ∀ id value,
    (∃ b, a.take (setFact id value) = .ok (.error .notInitialized, b)) ↔ ¬(new settings).TakesUp calls
  run_iff : ∀ symptoms systemTypes user,
    a.run symptoms systemTypes user = .error .notInitialized ↔ ¬(new settings).TakesUp calls

theorem lifecycle {settings : Settings} {calls : List (Call υ)} {a : Advisor υ}
    (h : (new settings).afterAll calls = .ok a) : Lifecycle settings calls a := by
  have hp : a.isPrepared ↔ (new settings).TakesUp calls := (isPrepared_afterAll_iff h).trans (or_iff_right nofun)
  have hs : a.settings = settings := settings_afterAll h
  have hv : a.settings.Valid ↔ ¬settings.factPriorityStart ≥ settings.sessionFactPriority := by
    rw [hs]
    exact Int64.not_le.symm
  refine ⟨fun kb respondent => ?already, fun hn kb respondent => ?configuration,
    fun hn hc kb respondent hl => ?prepares, fun kb respondent => ?overflows, fun kb respondent error b => ?unrefused,
    fun kb respondent e b => eq_of_prepare_error, fun kb respondent e b he later => ?retried,
    fun id value => ?setFact, fun symptoms systemTypes user => ?run⟩
  case already => rw [(a.offers_prepare kb respondent).alreadyInitialized_iff, hp]
  case configuration =>
    rw [(a.offers_prepare kb respondent).configuration_iff, hp, hv, and_iff_right hn, Decidable.not_not]
  case prepares =>
    have ho := take_prepare a kb respondent
    rw [if_neg (mt hp.mp hn), if_pos (hv.mpr hc), hs, if_pos hl] at ho
    exact ⟨_, (Bindings.compile_empty ..).trans (if_pos hl), ho⟩
  case overflows => rw [(a.offers_prepare kb respondent).overflow_iff, hp, hv, hs]
  case unrefused => exact (a.offers_prepare kb respondent).unrefused error
  case retried =>
    have ha : a.after (.prepare kb respondent) = .ok a := (after_prepare he).trans (congrArg _ (eq_of_prepare_error he))
    have hl : a.afterAll (.prepare kb respondent :: later) = a.afterAll later := by
      rw [afterAll, List.foldlM_cons, ha]
      rfl
    rw [afterAll_append, afterAll_append, h]
    exact hl
  case setFact =>
    rw [← hp, take_setFact, isPrepared]
    cases a.prepared <;> simp
  case run =>
    rw [← hp, run, isPrepared]
    split <;> simp [*]

end Advisor

theorem Settings.valid_of_validate {s : Settings} (h : s.validate = .ok ()) : s.Valid := by
  rw [validate] at h
  split at h
  case isTrue hv => exact hv
  case isFalse => cases h

-- What could not be read from the environment has its default, and is checked with the rest.
theorem Configuration.valid_of_ofEnvironment {env : Environment} {c : Configuration} (h : ofEnvironment env = .ok c) :
    c.settings.Valid := by
  rw [ofEnvironment] at h
  split at h
  all_goals
    have ⟨_, _, h⟩ := exists_of_bind_eq_ok h
    have ⟨_, hv, h⟩ := exists_of_bind_eq_ok h
    cases h
    exact Settings.valid_of_validate hv

-- An advisor is prepared once and by the first call that gives it a knowledge base, if its settings are in
-- order; those of an environment are.
theorem advisor_lifecycle :
    (∀ (settings : Settings) (calls : List (Advisor.Call υ)) (a : Advisor υ),
      (Advisor.new settings).afterAll calls = .ok a → Advisor.Lifecycle settings calls a) ∧
    ∀ (env : Environment) (c : Configuration), Configuration.ofEnvironment env = .ok c →
      ∀ (kb : KnowledgeBase) (respondent : Respondent υ),
        (∀ message a, (Advisor.new c.settings).take (Advisor.prepare kb respondent) ≠
          .ok (.error (.configuration message), a)) ∧
        (c.settings.Leaves kb.demand →
          ∃ a, (Advisor.new c.settings).take (Advisor.prepare kb respondent) = .ok (.ok (), a)) := by
  refine ⟨fun _ _ _ h => Advisor.lifecycle h, fun env c h kb respondent => ?_⟩
  have hv : c.settings.Valid := Configuration.valid_of_ofEnvironment h
  have hl := Advisor.lifecycle (rfl : (Advisor.new c.settings).afterAll [] = .ok (Advisor.new (υ := υ) c.settings))
  have hn : ¬(Advisor.new c.settings : Advisor υ).TakesUp [] := by simp [Advisor.TakesUp]
  refine ⟨fun message a he => ?_, fun hd => ?_⟩
  · exact Int64.not_le.mpr hv ((hl.configuration_iff hn kb respondent).mp ⟨message, a, he⟩)
  · have ⟨_, _, hp⟩ := hl.prepares hn (Int64.not_le.mpr hv) kb respondent hd
    exact ⟨_, hp⟩

-- An environment in which one of the two numbers cannot be read.
def garbled : Environment :=
  .ofList [("FACT_PRIORITY_START", "1e3"), ("SESSION_FACT_PRIORITY", "1001")]

theorem advisor_lifecycle_water :
    let calls : List (Advisor.Call Nat) :=
      [.setFact "Question3" (.string "yes"), .prepare .water (.counting fun _ => 0)]
    (Advisor.new {}).TakesUp calls ∧
    (∃ a b, (Advisor.new {}).afterAll calls = .ok a ∧
      a.take (Advisor.prepare .water (.counting fun _ => 0)) = .ok (.error (.lifecycle .alreadyInitialized), b)) ∧
    ∃ c, Configuration.ofEnvironment garbled = .ok c ∧
      ∃ a, (Advisor.new c.settings).take (Advisor.prepare .water (.counting fun _ => 0)) = .ok (.ok (), a) := by
  intro calls
  have ⟨hl, he⟩ := advisor_lifecycle (υ := Nat)
  have hc : Configuration.ofEnvironment garbled = .ok ⟨{ sessionFactPriority := 1001 }, "info", .pretty, none⟩ := rfl
  have ⟨_, hg⟩ := he garbled _ hc .water (.counting fun _ => 0)
  have hd : ({} : Settings).Leaves KnowledgeBase.water.demand := by decide +kernel
  have ⟨b, _, hp⟩ := (hl {} [] (Advisor.new {}) rfl).prepares (by simp [Advisor.TakesUp]) (by decide) .water
    (.counting fun _ => 0) hd
  have hs : (Advisor.new {}).after (.setFact "Question3" (.string "yes")) = .ok (Advisor.new {} : Advisor Nat) := rfl
  have ha : (Advisor.new {}).afterAll calls = .ok ⟨{}, some (.on b false)⟩ := by
    rw [Advisor.afterAll, List.foldlM_cons, hs]
    exact congrArg (· >>= pure) (Advisor.after_prepare hp)
  have ht : (Advisor.new {}).TakesUp calls :=
    ⟨[.setFact "Question3" (.string "yes")], .water, .counting fun _ => 0, [], rfl, _, _, rfl, hp⟩
  have ⟨_, hb⟩ := ((hl {} calls _ ha).alreadyInitialized_iff .water (.counting fun _ => 0)).mpr ht
  exact ⟨ht, ⟨_, _, ha, hb⟩, _, hc, hg (by decide +kernel)⟩

end Troubleshoot
