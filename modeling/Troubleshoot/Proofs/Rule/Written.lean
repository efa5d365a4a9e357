import Troubleshoot.Proofs.Record.ReadBack
import Troubleshoot.Proofs.Rule.Shape

namespace Troubleshoot

variable {σ : Type}

def Json.nonNull? : Json → Option Json
  | .null => none
  | j => some j

-- The check as it is read back.
def Check.reread (c : Check) : Check :=
  { c with factValue := c.factValue.bind Json.nonNull? }

def Verdict.reread (v : Verdict) : Verdict :=
  { v with checks := v.checks.map Check.reread }

def Report.reread (r : Report) : Report :=
  { r with verdicts := r.verdicts.map Verdict.reread }

open Format RecordField

-- A value that is written as null is read as none.
theorem nonNull?_reads (j : Json) : json.option.Says (json.write j) j.nonNull? := by
  cases j
  case null => exact option_reads_none _
  all_goals exact option_reads_some nofun (json_reads _)

theorem some_string_reads (s : String) : string.option.Says (string.write s) (some s) :=
  option_reads_some nofun (string_reads s)

theorem Format.list_map_reads {α : Type} {f : Format α} {g : α → α} (h : ∀ a, f.Says (f.write a) (g a))
    (as : List α) : f.list.Says (f.list.write as) (as.map g) := by
  refine list_reads ?_
  rw [List.forall₂_map_left_iff, List.forall₂_map_right_iff]
  exact List.forall₂_same.mpr fun a _ => h a

theorem Check.format_reads (c : Check) : format.Says (format.write c) c.reread :=
  record_rereads (by decide) rfl fun _ ⟨hfact, hoperator, hvalue, hfactValue, hresult, _⟩ =>
    ⟨required_reads hfact (string_reads _), required_reads hoperator (string_reads _),
      required_reads hvalue (json_reads _), nullable_reads nonNull?_reads rfl hfactValue,
      required_reads hresult (bool_reads _), trivial⟩

theorem Verdict.format_reads (v : Verdict) : format.Says (format.write v) v.reread :=
  record_rereads (by decide) rfl fun _ ⟨hname, hpriority, hresult, hchecks, hevent, herror, _⟩ =>
    ⟨required_reads hname (string_reads _), required_reads hpriority (int64_reads _),
      required_reads hresult (bool_reads _), required_reads hchecks (list_map_reads Check.format_reads _),
      required_reads hevent (Event.format_readsBack.whole _),
      nullable_reads some_string_reads (Option.bind_fun_some _) herror, trivial⟩

theorem Report.format_reads (r : Report) : format.Says (format.write r) r.reread :=
  record_rereads (by decide) rfl fun _ ⟨hevents, hfailureEvents, hverdicts, hfacts, _⟩ =>
    ⟨required_reads hevents ((list_readsBack Event.format_readsBack).whole _),
      required_reads hfailureEvents ((list_readsBack Event.format_readsBack).whole _),
      required_reads hverdicts (list_map_reads Verdict.format_reads _), required_reads hfacts (table_reads _), trivial⟩

theorem map_eq_self_iff {α : Type} {f : α → α} {as : List α} : as.map f = as ↔ ∀ a ∈ as, f a = a := by
  have h : as.map f = as.map id ↔ _ := List.map_inj_left
  rwa [List.map_id] at h

theorem Json.nonNull?_eq_some_iff {j : Json} : j.nonNull? = some j ↔ j ≠ .null := by
  cases j <;> simp [nonNull?]

theorem Check.reread_eq_iff {c : Check} : c.reread = c ↔ c.factValue ≠ some .null := by
  obtain ⟨_, _, _, factValue, _⟩ := c
  cases factValue <;> simp [reread, Json.nonNull?_eq_some_iff]

theorem Verdict.reread_eq_iff {v : Verdict} : v.reread = v ↔ ∀ c ∈ v.checks, c.factValue ≠ some .null := by
  obtain ⟨_, _, _, checks, _, _⟩ := v
  simp [reread, map_eq_self_iff, Check.reread_eq_iff]

theorem Report.reread_eq_iff {r : Report} :
    r.reread = r ↔ ∀ v ∈ r.verdicts, ∀ c ∈ v.checks, c.factValue ≠ some .null := by
  obtain ⟨_, _, verdicts, _⟩ := r
  simp [reread, map_eq_self_iff, Verdict.reread_eq_iff]

namespace RuleSet

-- The report of a run is read back as it was if no fact was found to be null.
structure RunReread (s : RuleSet σ) (given : List (Fact σ)) (notify : Listener σ) (world : σ) : Prop where
  read : ∀ d : Document, d.Shows (Report.format.write (s.run given notify world).1) →
    Report.format.read d = .ok (s.run given notify world).1.reread
  exact_iff : (s.run given notify world).1.reread = (s.run given notify world).1 ↔
    ∀ v ∈ (s.run given notify world).1.verdicts, ∀ c ∈ v.checks, c.factValue ≠ some .null
  -- So it is if no fact is ever null,
  exact_of_facts : (∀ world id, (s.facts.addAll given).outcome s.lenient world id ≠ .ok .null) →
    (s.run given notify world).1.reread = (s.run given notify world).1
  -- but not if a fact was looked at that is not known and need not be.
  inexact_of_unknown : s.lenient → ∀ v ∈ (s.run given notify world).1.verdicts, ∀ c ∈ v.checks,
    (s.facts.addAll given).find? c.fact = none →
    (s.run given notify world).1.reread ≠ (s.run given notify world).1

theorem run_factValue (s : RuleSet σ) (given : List (Fact σ)) (notify : Listener σ) (world : σ) :
    ∀ v ∈ (s.run given notify world).1.verdicts, ∀ c ∈ v.checks,
      ∃ world, c.factValue = ((s.facts.addAll given).outcome s.lenient world c.fact).toOption := by
  have ⟨trials, _, hv, ht⟩ := s.run_trials given notify world
  rw [hv, List.forall_mem_map]
  intro t hm c hc
  have ⟨world, _, hs⟩ := (ht t hm).1.told (ht t hm).2 c hc
  exact ⟨world, hs.1⟩

theorem run_reread (s : RuleSet σ) (given : List (Fact σ)) (notify : Listener σ) (world : σ) :
    s.RunReread given notify world where
  read := Report.format_reads _
  exact_iff := Report.reread_eq_iff
  exact_of_facts h := by
    refine Report.reread_eq_iff.mpr fun v hv c hc hn => ?_
    have ⟨world, ho⟩ := s.run_factValue given notify world v hv c hc
    rw [hn] at ho
    cases he : (s.facts.addAll given).outcome s.lenient world c.fact
    case error => simp [he, Except.toOption] at ho
    case ok value =>
      simp only [he, Except.toOption, Option.some.injEq] at ho
      exact h world c.fact (ho ▸ he)
  inexact_of_unknown hl v hv c hc hf he := by
    have ⟨world, ho⟩ := s.run_factValue given notify world v hv c hc
    rw [Facts.outcome_of_unknown hf, if_pos hl] at ho
    exact Report.reread_eq_iff.mp he v hv c hc ho

-- A rule on a fact that nobody knows.
def missing : RuleSet Unit where
  rules := [⟨"r", 1, [⟨"missing", "equal", .string "yes"⟩], ⟨"e", ∅⟩⟩]
  facts := ∅
  operators := .builtIn
  lenient := true

theorem run_reread_missing :
    Report.format.read (.ofJson (Report.format.write (missing.run [] .noop ()).1)) =
      .ok (missing.run [] .noop ()).1.reread ∧
    (missing.run [] .noop ()).1.reread ≠ (missing.run [] .noop ()).1 := by
  have h := run_reread missing [] .noop ()
  have hv : (missing.run [] .noop ()).1.verdicts =
      [⟨"r", 1, false, [⟨"missing", "equal", .string "yes", some .null, false⟩], ⟨"e", ∅⟩, none⟩] := rfl
  exact ⟨h.read _ (Document.shows_ofJson _), h.inexact_of_unknown rfl _ (hv ▸ List.mem_singleton_self _) _
    (List.mem_singleton_self _) Table.find?_empty⟩

end RuleSet
end Troubleshoot
