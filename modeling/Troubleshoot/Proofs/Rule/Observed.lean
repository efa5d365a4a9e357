import Troubleshoot.Proofs.Latest
import Troubleshoot.Proofs.Rule.Sequence
import Troubleshoot.Proofs.Rule.Shape

namespace Troubleshoot

variable {σ : Type}

-- The values that were found, by the ids of their facts.
def Verdict.values (v : Verdict) : List (String × Json) :=
  v.checks.filterMap fun d => d.factValue.map (d.fact, ·)

theorem Verdict.mem_values {v : Verdict} {id : String} {value : Json} :
    (id, value) ∈ v.values ↔ ∃ d ∈ v.checks, d.fact = id ∧ d.factValue = some value := by
  simp [values, and_left_comm, and_comm]

namespace Store

variable {facts : Facts σ} {s t : Store σ} {taken pending : List Reading} {id : String} {outcome : Outcome}
  {reply : Reply}

-- A value is only noted if somebody got it for a known fact, and something is noted for each known
-- fact that came to a value.
structure Noted (facts : Facts σ) (s : Store σ) (taken pending : List Reading) : Prop where
  facts_eq : s.facts = facts
  coming : ∀ r ∈ pending, facts.contains r.1
  read : ∀ id value, s.observed.find? id = some value → facts.contains id ∧ (id, .ok value) ∈ taken
  noted : ∀ id value, facts.contains id → (id, .ok value) ∈ taken → s.observed.contains id

namespace Noted

theorem start (facts : Facts σ) (lenient : Bool) (world : σ) : (Store.start facts lenient world).Noted facts [] [] where
  facts_eq := rfl
  coming := nofun
  read id value h := by simp [Store.start] at h
  noted := nofun

-- Only what became of the notes counts.
theorem of_observed (h : s.Noted facts taken pending) (hk : facts.contains id) (hf : t.facts = s.facts)
    (ho : t.observed = (s.observe id outcome).observed) : t.Noted facts ((id, outcome) :: taken) pending where
  facts_eq := hf.trans h.facts_eq
  coming := h.coming
  read i value hi := by
    rw [ho, find?_observed_observe] at hi
    rcases hi with ⟨rfl, rfl⟩ | ⟨_, hi⟩
    case inl => exact ⟨hk, List.mem_cons_self ..⟩
    case inr =>
      obtain ⟨hk, hm⟩ := h.read i value hi
      exact ⟨hk, List.mem_cons_of_mem _ hm⟩
  noted i value hk hm := by
    rw [ho]
    have hc : (s.observe id outcome).observed.contains i ↔
        (∃ value, i = id ∧ outcome = .ok value) ∨ s.observed.contains i := by
      cases outcome
      case error => simp [observe]
      case ok v => by_cases hi : i = id <;> simp [observe, Table.contains, Table.find?_insert, hi]
    rw [hc]
    rcases List.mem_cons.mp hm with he | hm
    case inl =>
      obtain ⟨rfl, rfl⟩ := Prod.mk.inj he
      exact .inl ⟨value, rfl, rfl⟩
    case inr => exact .inr (h.noted i value hk hm)

theorem reads (h : s.Noted facts taken pending) (hr : s.Reads id outcome t) :
    t.Noted facts ((id, outcome) :: taken) pending := by
  obtain rfl := h.facts_eq
  cases hr
  case constant hf hs => exact h.of_observed (by simp [Table.contains, hf]) observe_facts rfl
  case remembered hf _ _ _ => exact h.of_observed (by simp [Table.contains, hf]) observe_facts rfl
  case unknown hf =>
    refine { h with read := fun i value hi => ?_, noted := fun i value hk hm => ?_ }
    case refine_1 =>
      obtain ⟨hk, hm⟩ := h.read i value hi
      exact ⟨hk, List.mem_cons_of_mem _ hm⟩
    case refine_2 =>
      -- What is said of an unknown fact is not noted.
      have hi : i ≠ id := by
        rintro rfl
        simp [Table.contains, hf] at hk
      rcases List.mem_cons.mp hm with he | hm
      case inl => exact absurd (Prod.mk.inj he).1 hi
      case inr => exact h.noted i value hk hm

theorem called (h : s.Noted facts taken pending) (hr : s.Calls id reply t) :
    t.Noted facts taken ((id, reply.outcome) :: pending) := by
  obtain rfl := h.facts_eq
  cases hr
  case intro hf _ _ =>
    refine ⟨setCell_facts, List.forall_mem_cons.mpr ⟨by simp [Table.contains, hf], h.coming⟩, ?_, ?_⟩
    · rw [setCell_observed]; exact h.read
    · rw [setCell_observed]; exact h.noted

theorem settle (h : s.Noted facts taken ((id, outcome) :: pending)) :
    (s.settle id outcome).Noted facts ((id, outcome) :: taken) pending := by
  have ⟨hk, hp⟩ := List.forall_mem_cons.mp h.coming
  have h : s.Noted facts taken pending := { h with coming := hp }
  exact h.of_observed hk settle_facts settle_observed

end Noted

theorem lasting_noted (facts : Facts σ) : Lasting (Noted facts) where
  perm h ht hp := { h with
    coming := fun r hr => h.coming r (hp.mem_iff.mpr hr)
    read := fun id value hi => ⟨(h.read id value hi).1, ht.mem_iff.mp (h.read id value hi).2⟩
    noted := fun id value hk hm => h.noted id value hk (ht.mem_iff.mpr hm) }
  read h hr := h.reads hr
  called h hr := h.called hr
  settled h := h.settle

-- Whoever asks alone has the value of a known fact noted.
theorem resolve_observed (s : Store σ) (id : String) :
    (s.resolve id).2.facts = s.facts ∧ (s.resolve id).2.observed =
      if s.facts.contains id then (s.observe id (s.resolve id).1).observed else s.observed := by
  have hw (w : σ) (outcome : Outcome) : ({ s with world := w }.settle id outcome).observed =
      (s.observe id outcome).observed := by
    rw [settle_observed]
    cases outcome <;> rfl
  cases hf : s.facts.find? id
  case none => simp [resolve, hf, Table.contains]
  case some f =>
    obtain ⟨_, source, cached, _⟩ := f
    cases source
    case constant => simp [resolve, hf, Table.contains]
    case provider provider =>
      cases cached
      case false => simp [resolve, hf, Table.contains, await, hw]
      case true => cases hs : s.settled? id <;> simp [resolve, hf, Table.contains, hs, await, hw]

-- The last value that was found for a known fact is the one that is noted.
def NotesLast (facts : Facts σ) (s : Store σ) (values : List (String × Json)) : Prop :=
  s.facts = facts ∧ ∀ id, facts.contains id → s.observed.find? id = latest? values id

theorem NotesLast.resolve {values : List (String × Json)} (h : s.NotesLast facts values) (id : String) :
    (s.resolve id).2.NotesLast facts (values ++ ((s.resolve id).1.toOption.map (id, ·)).toList) := by
  have ⟨hf, ho⟩ := s.resolve_observed id
  refine ⟨hf.trans h.1, fun i hi => ?_⟩
  rw [ho, latest?_append, ← h.2 i hi, h.1]
  by_cases hk : facts.contains id
  case pos =>
    rw [if_pos hk]
    cases (s.resolve id).1
    case error => rfl
    case ok value =>
      simp only [observe, Table.find?_insert, Except.toOption, Option.map_some, Option.toList_some,
        latest?_singleton]
      split <;> rfl
  case neg =>
    have hn : i ≠ id := fun he => hk (he ▸ hi)
    rw [if_neg hk]
    cases (s.resolve id).1
    case error => rfl
    case ok value =>
      simp only [Except.toOption, Option.map_some, Option.toList_some, latest?_singleton, hn, if_false, Option.none_or]

end Store

namespace Trial

variable {operators : Operators} {priorityOf : String → Int64} {t : Trial}

theorem mem_readings_ok {id : String} {value : Json} :
    (id, .ok value) ∈ t.readings priorityOf ↔ (id, value) ∈ (t.verdict operators priorityOf).values := by
  have hc : (t.verdict operators priorityOf).checks =
      (t.looked priorityOf).map fun l => l.1.check operators l.2 := rfl
  have ho (o : Outcome) : o = .ok value ↔ o.toOption = some value := by cases o <;> simp [Except.toOption]
  rw [Verdict.mem_values, hc]
  simp [readings, Condition.check, ho]

end Trial

namespace RuleSet

-- The facts of a report are those that its checks found to have a value, and are known.
structure RunObserved (s : RuleSet σ) (given : List (Fact σ)) (notify : Listener σ) (world : σ) : Prop where
  contains_iff : ∀ id, (s.run given notify world).1.facts.contains id ↔
    (s.facts.addAll given).contains id ∧
      ∃ v ∈ (s.run given notify world).1.verdicts, ∃ d ∈ v.checks, d.fact = id ∧ d.factValue.isSome
  value : ∀ id value, (s.run given notify world).1.facts.find? id = some value →
    ∃ v ∈ (s.run given notify world).1.verdicts, ∃ d ∈ v.checks, d.fact = id ∧ d.factValue = some value
  last : s.rules.Pairwise (·.priority ≠ ·.priority) → ∀ id, (s.facts.addAll given).contains id →
    (s.run given notify world).1.facts.find? id =
      latest? ((s.run given notify world).1.verdicts.flatMap Verdict.values) id

variable {s : RuleSet σ} {facts : Facts σ} {store : Store σ} {values : List (String × Json)}

theorem judge_notesLast (h : store.NotesLast facts values) (rule : Rule) :
    (s.judge rule store).2.NotesLast facts (values ++ (s.judge rule store).1.values) := by
  have hl := @Store.look_induction _ s.operators (rule.ordered store.facts.priorityOf) store
    (fun looked t => t.NotesLast facts (values ++ looked.filterMap fun l => l.2.toOption.map (l.1.fact, ·)))
    (fun looked t c _ ht => by
      have hr := ht.resolve c.fact
      rw [List.append_assoc] at hr
      rw [List.filterMap_append, List.filterMap_cons, List.filterMap_nil]
      cases ho : (t.resolve c.fact).1.toOption <;> simpa [ho] using hr)
    [] (by simpa using h)
  rw [Verdict.values, checks_judge, List.filterMap_map]
  exact hl

theorem run_observed (s : RuleSet σ) (given : List (Fact σ)) (notify : Listener σ) (world : σ) :
    s.RunObserved given notify world := by
  let facts := s.facts.addAll given
  have ⟨trials, hr, hv, _, hn⟩ := s.runGroups_lasting notify (Store.lasting_noted facts)
    (fun _ _ _ h => { h with }) (Store.idle_start facts s.lenient world) (Store.Noted.start facts s.lenient world)
    (Ranking.groups (·.priority) s.ordered)
  have hrun := s.run_eq given notify world
  have hm (id : String) (value : Json) :
      (id, .ok value) ∈ trials.flatMap (·.readings facts.priorityOf) ++ [] ↔
        ∃ v ∈ (s.run given notify world).1.verdicts, ∃ d ∈ v.checks, d.fact = id ∧ d.factValue = some value := by
    have he : (s.run given notify world).1.verdicts = trials.map (·.verdict s.operators facts.priorityOf) := by
      rw [hrun]
      exact hv
    simp only [he, List.append_nil, List.mem_flatMap, List.mem_map, exists_exists_and_eq_and, ← Verdict.mem_values]
    exact exists_congr fun t => and_congr_right fun _ => Trial.mem_readings_ok
  refine ⟨fun id => ⟨fun h => ?_, fun ⟨hk, v, hv, d, hd, hi, hs⟩ => ?_⟩, fun id value h => ?_, fun hp => ?last⟩
  case refine_1 =>
    rw [hrun] at h
    have ⟨value, h⟩ := Option.isSome_iff_exists.mp h
    have ⟨hk, ht⟩ := hn.read id value h
    have ⟨v, hv, d, hd, hi, hs⟩ := (hm id value).mp ht
    exact ⟨hk, v, hv, d, hd, hi, by rw [hs]; rfl⟩
  case refine_2 =>
    have ⟨value, hs⟩ := Option.isSome_iff_exists.mp hs
    rw [hrun]
    exact hn.noted id value hk ((hm id value).mpr ⟨v, hv, d, hd, hi, hs⟩)
  case refine_3 =>
    rw [hrun] at h
    exact (hm id value).mp (hn.read id value h).2
  case last =>
    have ⟨⟨_, hl⟩, _⟩ := @judgeAll_induction _ s s.ordered (Store.start facts s.lenient world) notify
      (fun done store => store.NotesLast facts (done.flatMap Verdict.values))
      (fun done store rule _ h => by
        rw [List.flatMap_append, List.flatMap_singleton]
        exact judge_notesLast h rule)
      ⟨rfl, fun id _ => by simp [Store.start, latest?]⟩
    rw [run_of_distinct hp]
    exact hl

end RuleSet
end Troubleshoot
