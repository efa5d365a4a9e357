import Troubleshoot.Proofs.Rule.Log
import Troubleshoot.Proofs.Rule.Trial

namespace Troubleshoot

variable {σ : Type}

theorem Accounts.of_logged {facts : Facts σ} {calls taken : List Reading}
    (h : Accounts facts.logged calls taken) : Accounts facts calls taken where
  cached id f provider hf hs hc :=
    h.cached id _ (Logged.provider id provider) (Facts.find?_logged_of_some hf)
      (by simp [Fact.logged, hs, Source.logged]) hc
  uncached id f provider hf hs hc :=
    h.uncached id _ (Logged.provider id provider) (Facts.find?_logged_of_some hf)
      (by simp [Fact.logged, hs, Source.logged]) hc
  silent id hi := by
    refine h.silent id fun f hf => ?_
    rw [Facts.find?_logged] at hf
    obtain ⟨g, hg, rfl⟩ := Option.map_eq_some_iff.mp hf
    have ⟨value, hv⟩ := hi g hg
    exact ⟨value, by simp [Fact.logged, hv, Source.logged]⟩

namespace Store

theorem balanced_start (facts : Facts σ) (lenient : Bool) (world : σ) :
    ((start facts lenient world).logged []).Balanced Logged.calls [] [] where
  recorded := facts.recorded_logged
  balances id := by
    cases hf : facts.logged.find? id
    case none => exact .silent fun f hf' => nomatch hf.symm.trans hf'
    case some f =>
      cases hs : f.source
      case constant value =>
        refine .silent fun g hg => ⟨value, ?_⟩
        cases hf.symm.trans hg
        exact hs
      case provider provider =>
        by_cases hc : f.cached
        case pos => exact .unasked hf hs hc Table.find?_empty
        case neg => exact .uncached hf hs hc (.refl _)

-- Whoever asks for facts gets an outcome each. A log changes none of them, and its calls make up for
-- them.
structure AsksAccounted (facts : Facts σ) (lenient : Bool) (world : σ) (gets : List (List String)) : Prop where
  outcomes_eq : ((start facts.logged lenient ⟨world, []⟩).getAll gets).1 =
    ((start facts lenient world).getAll gets).1
  world_eq : ((start facts.logged lenient ⟨world, []⟩).getAll gets).2.world.world =
    ((start facts lenient world).getAll gets).2.world
  answered : ((start facts lenient world).getAll gets).1.map List.length = gets.map List.length
  accounts : Accounts facts ((start facts.logged lenient ⟨world, []⟩).getAll gets).2.world.calls
    (gets.flatten.zip ((start facts lenient world).getAll gets).1.flatten)

theorem asks_accounted (facts : Facts σ) (lenient : Bool) (world : σ) (gets : List (List String)) :
    AsksAccounted facts lenient world gets := by
  let s := start facts lenient world
  have ⟨log, hl⟩ := s.getAll_logged [] gets
  have hl : (start facts.logged lenient ⟨world, []⟩).getAll gets = _ := hl
  have hs : (s.logged []).Idle := idle_start facts lenient world
  have ⟨hm, hb⟩ := getAll_lasting lasting_balanced hs (balanced_start facts lenient world) gets
  have hf : (s.getAll gets).2.facts = facts := by
    have h : Holds facts s [] [] := rfl
    exact (getAll_lasting (lasting_holds facts) (idle_start facts lenient world) h gets).2
  rw [show (s.logged []).getAll gets = _ from hl, List.append_nil] at hb
  rw [show (s.logged []).getAll gets = _ from hl] at hm
  refine ⟨by rw [hl], by rw [hl]; rfl, hm, ?_⟩
  have ha := hb.accounts
  rw [show ((s.getAll gets).2.logged log).facts = facts.logged by rw [← hf]; rfl] at ha
  rw [hl]
  exact ha.of_logged

end Store

namespace RuleSet

-- A log changes nothing about a run, and its calls make up for what the verdicts tell of.
structure RunAccounted (s : RuleSet σ) (given : List (Fact σ)) (notify : Listener σ) (world : σ) : Prop where
  report_eq : (s.logged.run (given.map fun f => f.logged f.id) notify.logged ⟨world, []⟩).1 =
    (s.run given notify world).1
  world_eq : (s.logged.run (given.map fun f => f.logged f.id) notify.logged ⟨world, []⟩).2.world =
    (s.run given notify world).2
  accounts : ∃ told : List (Verdict × List Reading),
    told.map Prod.fst = (s.run given notify world).1.verdicts ∧ (∀ t ∈ told, t.1.Tells t.2) ∧
    Accounts (s.facts.addAll given)
      (s.logged.run (given.map fun f => f.logged f.id) notify.logged ⟨world, []⟩).2.calls (told.flatMap Prod.snd)

theorem balanced_heard {notify : Listener σ} {store : Store (Logged σ)} {taken : List Reading}
    (h : store.Balanced Logged.calls taken []) (v : Verdict) :
    Store.Balanced Logged.calls { store with world := notify.logged v store.world } taken [] where
  recorded := h.recorded
  balances id := by
    have hc : (notify.logged v store.world).calls = store.world.calls := by
      simp [Logged.calls, Listener.logged_hear, Entry.called?, List.filterMap_append]
    exact hc ▸ (h.balances id).congr rfl rfl

theorem run_accounted (s : RuleSet σ) (given : List (Fact σ)) (notify : Listener σ) (world : σ) :
    s.RunAccounted given notify world := by
  let facts := s.facts.addAll given
  let store := (Store.start facts s.lenient world).logged []
  let groups := Ranking.groups (·.priority) s.ordered
  have ⟨log, hl⟩ := s.run_logged given notify world []
  have hs : store.Idle := Store.idle_start facts s.lenient world
  have hr := s.logged_run given notify world []
  have ⟨trials, _, hv, hc, hb⟩ := s.logged.runGroups_lasting notify.logged Store.lasting_balanced
    (fun _ _ v h => balanced_heard h v) hs (Store.balanced_start facts s.lenient world) groups
  have ha := hb.accounts
  rw [runGroups_facts notify.logged hs groups, List.append_nil] at ha
  refine ⟨by rw [hl], by rw [hl], trials.map fun t =>
    (t.verdict s.operators store.facts.priorityOf, t.readings store.facts.priorityOf), ?_, fun t ht => ?_, ?_⟩
  · have he : (s.logged.run (given.map fun f => f.logged f.id) notify.logged ⟨world, []⟩).1 =
        (s.run given notify world).1 := by
      rw [hl]
    rw [← he, hr]
    simp only [Report.ofVerdicts, List.map_map]
    exact hv.symm
  · obtain ⟨t, hm, rfl⟩ := List.mem_map.mp ht
    exact (hc t hm).tells
  · rw [hr, List.flatMap_map]
    exact ha.of_logged

end RuleSet

-- Whatever is asked for at the same time or in turn, and however long each call takes, a cached fact is
-- called for once for all who ask, and an uncached fact once for each.
theorem calls_accounted (world : σ) :
    (∀ (facts : Facts σ) (lenient : Bool) (gets : List (List String)),
      Store.AsksAccounted facts lenient world gets) ∧
    ∀ (s : RuleSet σ) (given : List (Fact σ)) (notify : Listener σ), s.RunAccounted given notify world :=
  ⟨fun facts lenient gets => Store.asks_accounted facts lenient world gets,
    fun s given notify => s.run_accounted given notify world⟩

end Troubleshoot
