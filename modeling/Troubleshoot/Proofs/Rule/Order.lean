import Troubleshoot.Proofs.Rule.Accounts

namespace Troubleshoot

variable {σ : Type}

def Check.condition (d : Check) : Condition :=
  ⟨d.fact, d.operator, d.value⟩

-- The verdict is that on a rule: it has looked at the rule's conditions in their order, and is good if
-- all of them were looked at and hold.
structure Verdict.Settles (priorityOf : String → Int64) (rule : Rule) (v : Verdict) : Prop where
  name : v.name = rule.name
  priority : v.priority = rule.priority
  event : v.event = rule.event
  checks : v.checks.map Check.condition <+: rule.ordered priorityOf
  result : v.result ↔ v.checks.length = rule.conditions.length ∧ ∀ d ∈ v.checks, d.result

-- Rules with their verdicts, and the calls that were made to reach them.
structure Act where
  calls : List Reading
  settled : List (Rule × Verdict)

namespace Act

def rules (a : Act) : List Rule :=
  a.settled.map Prod.fst

def verdicts (a : Act) : List Verdict :=
  a.settled.map Prod.snd

-- What is written down of an act: nothing is heard before all calls are made.
def entries (a : Act) : List Entry :=
  a.calls.map .called ++ a.verdicts.map (.heard ·.hearing)

-- Each verdict is that on its rule, and each call is one that a verdict tells of.
structure Sound (priorityOf : String → Int64) (a : Act) : Prop where
  settles : ∀ p ∈ a.settled, p.2.Settles priorityOf p.1
  needed : ∀ call ∈ a.calls, ∃ v ∈ a.verdicts, ∃ d ∈ v.checks, d.fact = call.1 ∧ v.Says d call.2

end Act

-- Acts that make up a run of some rules, with what was written down and reported of them. The rules of
-- an act are all that have its priority, in the order in which they were given.
structure Stages (rules : List Rule) (priorityOf : String → Int64) (acts : List Act) (log : List Entry)
    (report : Report) : Prop where
  falling : acts.Pairwise fun a b => ∀ r ∈ a.rules, ∀ q ∈ b.rules, q.priority < r.priority
  shared : ∀ a ∈ acts, ∀ r ∈ a.rules, rules.filter (·.priority = r.priority) = a.rules
  complete : (acts.flatMap Act.rules).Perm rules
  sound : ∀ a ∈ acts, a.Sound priorityOf
  entries : log = acts.flatMap Act.entries
  heard : log.filterMap Entry.heard? = report.verdicts.map Verdict.hearing
  verdicts : report.verdicts = acts.flatMap Act.verdicts
  events : report.events = (report.verdicts.filter (·.result)).map (·.event)
  failureEvents : report.failureEvents = (report.verdicts.filter (!·.result)).map (·.event)

namespace Trial

variable {operators : Operators} {priorityOf : String → Int64} {t : Trial}

theorem map_fst_looked (t : Trial) :
    (t.looked priorityOf).map Prod.fst =
      (t.rule.ordered priorityOf).take (min (t.rule.ordered priorityOf).length t.outcomes.length) := by
  rw [looked, List.zip_eq_zip_take_min]
  exact List.map_fst_zip (by simp)

theorem settles (t : Trial) : (t.verdict operators priorityOf).Settles priorityOf t.rule where
  name := rfl
  priority := rfl
  event := rfl
  checks := by
    have hc : (t.verdict operators priorityOf).checks.map Check.condition = (t.looked priorityOf).map Prod.fst :=
      List.map_map
    rw [hc, map_fst_looked]
    exact List.take_prefix ..
  result := by
    have hl : (t.rule.ordered priorityOf).length = t.rule.conditions.length :=
      (Ranking.sort_perm ..).length_eq
    have hc : (t.verdict operators priorityOf).checks =
        (t.looked priorityOf).map fun l => l.1.check operators l.2 := rfl
    rw [hc, List.length_map, List.forall_mem_map, ← hl]
    simp only [verdict, Rule.verdictOf, looked, decide_eq_true_eq, List.all_eq_true]
    rfl

theorem Complete.needed (h : t.Complete operators priorityOf) {r : Reading} (hr : r ∈ t.readings priorityOf) :
    ∃ d ∈ (t.verdict operators priorityOf).checks, d.fact = r.1 ∧ (t.verdict operators priorityOf).Says d r.2 := by
  have ⟨l, hl, he⟩ := List.mem_map.mp hr
  exact ⟨_, List.mem_map_of_mem hl, congrArg Prod.fst he, he ▸ Complete.says h hl⟩

end Trial

namespace Store

-- Since some log was written, nothing was added to it but the calls that were made for readings.
def Charged (facts : Facts σ) (before : List Entry) (s : Store (Logged σ)) (taken pending : List Reading) : Prop :=
  s.facts = facts.logged ∧
  ∃ made : List Reading, s.world.log = before ++ made.map .called ∧ ∀ r ∈ made, r ∈ taken ++ pending

variable {facts : Facts σ} {before : List Entry} {s t : Store (Logged σ)} {taken pending : List Reading}
  {id : String} {outcome : Outcome} {reply : Reply}

theorem Charged.called (h : s.Charged facts before taken pending) (hr : s.Calls id reply t) :
    t.Charged facts before taken ((id, reply.outcome) :: pending) := by
  have ⟨hf, made, hl, hm⟩ := h
  refine ⟨hr.facts.trans hf, made ++ [(id, reply.outcome)], ?_, fun r hr => ?_⟩
  · cases hr
    case intro hk hs _ => simp [Facts.log_of_provider (hf ▸ hk) hs, hl]
  · apply List.perm_middle.mem_iff.mpr
    cases List.mem_append.mp hr
    case inl hr => exact List.mem_cons_of_mem _ (hm r hr)
    case inr hr => exact List.mem_singleton.mp hr ▸ List.mem_cons_self ..

theorem lasting_charged (facts : Facts σ) (before : List Entry) : Lasting (Charged facts before) where
  perm h ht hp := by
    have ⟨hf, made, hl, hm⟩ := h
    exact ⟨hf, made, hl, fun r hr => (ht.append hp).mem_iff.mp (hm r hr)⟩
  read h hr := by
    have ⟨hf, made, hl, hm⟩ := h
    exact ⟨hr.facts.trans hf, made, hr.world ▸ hl, fun r hr => List.mem_cons_of_mem _ (hm r hr)⟩
  called h hr := h.called hr
  settled {s id outcome _ _} h := by
    have ⟨hf, made, hl, hm⟩ := h
    refine ⟨settle_facts.trans hf, made, ?_, fun r hr => List.perm_middle.mem_iff.mp (hm r hr)⟩
    exact (congrArg Logged.log settle_world).trans hl

end Store

namespace RuleSet

variable {s : RuleSet σ} {facts : Facts σ} {notify : Listener σ} {store : Store (Logged σ)}

-- Nothing but calls is written down while rules are evaluated, and only such as one of them needs.
theorem evaluate_act (s : RuleSet σ) (hs : store.Idle) (hf : store.facts = facts.logged) (rules : List Rule) :
    ∃ a : Act, a.rules = rules ∧ a.Sound facts.priorityOf ∧
      (s.logged.evaluate rules store).1 = a.verdicts ∧
      (s.logged.evaluate rules store).2.world.log = store.world.log ++ a.calls.map .called := by
  have hp : store.facts.priorityOf = facts.priorityOf := hf ▸ Facts.priorityOf_logged facts
  have h : store.Charged facts store.world.log [] [] := ⟨hf, [], by simp, nofun⟩
  have ⟨trials, hr, hv, hc, _, made, hl, hm⟩ :=
    s.logged.evaluate_lasting (Store.lasting_charged facts store.world.log) hs h rules
  rw [hp] at hv hc hm
  let settled := trials.map fun t => (t.rule, t.verdict s.operators facts.priorityOf)
  have hrules : settled.map Prod.fst = rules := by simp [settled, ← hr, Function.comp_def]
  have hverdicts : settled.map Prod.snd = trials.map (·.verdict s.operators facts.priorityOf) := List.map_map
  refine ⟨⟨made, settled⟩, hrules, ⟨?settles, ?needed⟩, hv.trans hverdicts.symm, hl⟩
  case settles => exact List.forall_mem_map.mpr fun t _ => t.settles
  case needed =>
    intro call hcall
    have hread : call ∈ trials.flatMap (·.readings facts.priorityOf) := by simpa using hm call hcall
    have ⟨t, ht, hread⟩ := List.mem_flatMap.mp hread
    have hv : t.verdict s.operators facts.priorityOf ∈ settled.map Prod.snd := hverdicts ▸ List.mem_map_of_mem ht
    exact ⟨_, hv, (hc t ht).needed hread⟩

theorem log_notifyAll (notify : Listener σ) (verdicts : List Verdict) (store : Store (Logged σ)) :
    (notifyAll notify.logged verdicts store).world.log = store.world.log ++ verdicts.map (.heard ·.hearing) := by
  induction verdicts generalizing store
  case nil => simp [notifyAll]
  case cons v verdicts ih =>
    have hv : (notify.logged v store.world).log = store.world.log ++ [.heard v.hearing] :=
      congrArg Logged.log (notify.logged_hear v store.world)
    rw [List.map_cons, List.append_cons, ← hv]
    exact ih { store with world := notify.logged v store.world }

-- Each group is an act, and a lower one only begins when the verdicts on the higher ones have been heard.
theorem runGroups_acts (s : RuleSet σ) (notify : Listener σ) (hs : store.Idle)
    (hf : store.facts = facts.logged) (groups : List (List Rule)) :
    ∃ acts : List Act, acts.map Act.rules = groups ∧ (∀ a ∈ acts, a.Sound facts.priorityOf) ∧
      (s.logged.runGroups notify.logged groups store).1 = acts.flatMap Act.verdicts ∧
      (s.logged.runGroups notify.logged groups store).2.world.log =
        store.world.log ++ acts.flatMap Act.entries := by
  induction groups generalizing store
  case nil => exact ⟨[], rfl, nofun, rfl, (List.append_nil _).symm⟩
  case cons group groups ih =>
    have ⟨a, hr, ha, hv, hl⟩ := s.evaluate_act hs hf group
    let after := notifyAll notify.logged (s.logged.evaluate group store).1 (s.logged.evaluate group store).2
    have ⟨acts, hrs, has, hvs, hls⟩ := @ih after (evaluate_idle hs group) ((evaluate_facts hs group).trans hf)
    refine ⟨a :: acts, ?rules, List.forall_mem_cons.mpr ⟨ha, has⟩, ?verdicts, ?log⟩
    case rules => rw [List.map_cons, hr, hrs]
    case verdicts => exact congr (congrArg _ hv) hvs
    case log =>
      have hn : after.world.log = store.world.log ++ a.entries := by
        rw [log_notifyAll, hl, hv, List.append_assoc, Act.entries]
      rw [List.flatMap_cons, ← List.append_assoc, ← hn]
      exact hls

-- A log changes nothing about a run, and shows that the run takes its course in acts.
structure RunOrderly (s : RuleSet σ) (given : List (Fact σ)) (notify : Listener σ) (world : σ) : Prop where
  report_eq : (s.logged.run (given.map fun f => f.logged f.id) notify.logged ⟨world, []⟩).1 =
    (s.run given notify world).1
  world_eq : (s.logged.run (given.map fun f => f.logged f.id) notify.logged ⟨world, []⟩).2.world =
    (s.run given notify world).2
  stages : ∃ acts, Stages s.rules (s.facts.addAll given).priorityOf acts
    (s.logged.run (given.map fun f => f.logged f.id) notify.logged ⟨world, []⟩).2.log (s.run given notify world).1

end RuleSet

theorem Act.heard_entries (acts : List Act) :
    (acts.flatMap Act.entries).filterMap Entry.heard? = (acts.flatMap Act.verdicts).map Verdict.hearing := by
  rw [List.filterMap_flatMap, List.map_flatMap]
  congr 1
  funext a
  simp [entries, List.filterMap_map, Function.comp_def, Entry.heard?]

namespace RuleSet

-- Sound acts for the groups of some rules, one for each group, make up a run of the rules.
theorem stages_of_groups {rules : List Rule} {priorityOf : String → Int64} {acts : List Act}
    (hg : acts.map Act.rules = Ranking.groups (·.priority) (Ranking.sort (·.priority) rules))
    (ha : ∀ a ∈ acts, a.Sound priorityOf) (observed : Table Json) :
    Stages rules priorityOf acts (acts.flatMap Act.entries) (.ofVerdicts (acts.flatMap Act.verdicts) observed) := by
  have hsorted := Ranking.sort_sorted (·.priority) rules
  refine ⟨?falling, ?shared, ?complete, ha, rfl, Act.heard_entries acts, rfl, rfl, rfl⟩
  case falling =>
    have falls := Ranking.groups_falling _ hsorted
    rw [← hg] at falls
    exact List.pairwise_map.mp falls
  case shared =>
    intro a ham r hr
    have hm : a.rules ∈ acts.map Act.rules := List.mem_map_of_mem ham
    rw [← Ranking.sort_filter]
    exact Ranking.groups_eq_filter _ hsorted (hg ▸ hm) hr
  case complete =>
    rw [List.flatMap_def, hg, Ranking.flatten_groups]
    exact Ranking.sort_perm _ rules

-- Every rule is accounted for once, by falling priority and otherwise in the order in which the rules
-- were added, and is heard of before anything is called for a rule of a lower priority.
theorem run_orderly (s : RuleSet σ) (given : List (Fact σ)) (notify : Listener σ) (world : σ) :
    s.RunOrderly given notify world := by
  let facts := s.facts.addAll given
  let store := (Store.start facts s.lenient world).logged []
  let groups := Ranking.groups (·.priority) s.ordered
  have ⟨log, hl⟩ := s.run_logged given notify world []
  have hr := s.logged_run given notify world []
  have hs : store.Idle := Store.idle_start facts s.lenient world
  have hf : store.facts = facts.logged := rfl
  have ⟨acts, hg, ha, hv, hlog⟩ := s.runGroups_acts notify hs hf groups
  have hreport : (s.run given notify world).1 = .ofVerdicts (acts.flatMap Act.verdicts)
      (s.logged.runGroups notify.logged groups store).2.observed := by
    rw [← hv, ← congrArg Prod.fst hl, hr]
  have hlog : (s.logged.run (given.map fun f => f.logged f.id) notify.logged ⟨world, []⟩).2.log =
      acts.flatMap Act.entries := by rw [hr]; exact hlog
  refine ⟨congrArg Prod.fst hl, congrArg (Logged.world ·.2) hl, acts, ?_⟩
  rw [hlog, hreport]
  exact stages_of_groups hg ha _

end RuleSet
end Troubleshoot
