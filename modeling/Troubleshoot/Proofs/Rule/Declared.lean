import Troubleshoot.Proofs.Rule.Log
import Troubleshoot.Proofs.Rule.Meaning

namespace Troubleshoot

variable {σ τ : Type}

theorem Facts.alike_map {R : σ → τ → Prop} {change : String → Fact σ → Fact τ}
    (h : ∀ id f, Fact.Alike R f (change id f)) (facts : Facts σ) : facts.Alike R (facts.map change) := by
  intro id
  rw [Table.find?_map]
  cases facts.find? id
  case none => exact .none
  case some f => exact .some (h id f)

-- The log is all that a world has to do with it.
theorem Facts.alike_logged (facts : Facts σ) : facts.Alike (fun w x => x.world = w) facts.logged := by
  refine facts.alike_map fun id ⟨_, source, _, _⟩ => ⟨?_, rfl, rfl⟩
  cases source
  case constant value => exact .constant value
  case provider call =>
    refine .provider fun w x hw => ?_
    subst hw
    exact ⟨rfl, rfl⟩

namespace Facts

-- No provider makes a listener hear of anything.
def Quiet (facts : Facts (Logged σ)) : Prop :=
  ∀ id f provider, facts.find? id = some f → f.source = .provider provider → ∀ w, (provider w).2.heard = w.heard

theorem quiet_logged (facts : Facts σ) : facts.logged.Quiet := by
  intro id f provider hf hs w
  rw [find?_logged] at hf
  obtain ⟨⟨_, source, _, _⟩, _, rfl⟩ := Option.map_eq_some_iff.mp hf
  cases source
  case constant => cases hs
  case provider =>
    cases hs
    simp [Logged.heard, Logged.provider, Entry.heard?, List.filterMap_append]

end Facts

namespace Store

-- Nothing has been heard of since.
def Heard (hearings : List Hearing) (s : Store (Logged σ)) (_ _ : List Reading) : Prop :=
  s.facts.Quiet ∧ s.world.heard = hearings

theorem lasting_heard (hearings : List Hearing) : Lasting (Heard (σ := σ) hearings) where
  perm h _ _ := h
  read h hr := ⟨hr.facts ▸ h.1, hr.world ▸ h.2⟩
  called h hr := by
    refine ⟨hr.facts ▸ h.1, ?_⟩
    cases hr
    case intro hf hs _ => rw [setCell_world, h.1 _ _ _ hf hs, h.2]
  settled h := by
    rw [Heard, settle_facts, settle_world]
    exact h

end Store

namespace RuleSet

theorem heard_notifyAll (notify : Listener σ) (verdicts : List Verdict) (store : Store (Logged σ)) :
    (notifyAll notify.logged verdicts store).world.heard = store.world.heard ++ verdicts.map Verdict.hearing := by
  induction verdicts generalizing store
  case nil => exact (List.append_nil _).symm
  case cons v verdicts ih =>
    have hv : (notify.logged v store.world).heard = store.world.heard ++ [v.hearing] := by
      simp [Logged.heard, Listener.logged_hear, Entry.heard?, List.filterMap_append]
    rw [List.map_cons, List.append_cons, ← hv]
    exact ih { store with world := notify.logged v store.world }

-- The listener hears of all verdicts of a run, in order.
theorem heard_runGroups {s : RuleSet (Logged σ)} {store : Store (Logged σ)} (notify : Listener σ)
    (hs : store.Idle) (hq : store.facts.Quiet) (groups : List (List Rule)) :
    (s.runGroups notify.logged groups store).2.world.heard =
      store.world.heard ++ (s.runGroups notify.logged groups store).1.map Verdict.hearing := by
  induction groups generalizing store
  case nil => exact (List.append_nil _).symm
  case cons group groups ih =>
    have h : Store.Heard store.world.heard store [] [] := ⟨hq, rfl⟩
    have ⟨_, _, _, _, hq', he⟩ := s.evaluate_lasting (Store.lasting_heard store.world.heard) hs h group
    have hr := @ih (notifyAll notify.logged (s.evaluate group store).1 (s.evaluate group store).2)
      (evaluate_idle hs group) hq'
    rw [heard_notifyAll, he, List.append_assoc, ← List.map_append] at hr
    exact hr

-- Runs all rules strictly one after the other, and lets each verdict be heard before the next rule.
def runInSequence (s : RuleSet σ) (given : List (Fact σ)) (notify : Listener σ) (world : σ) : Report × σ :=
  let (verdicts, store) := s.judgeAll notify s.ordered (Store.start (s.facts.addAll given) s.lenient world)
  (.ofVerdicts verdicts store.observed, store.world)

-- What there is to see of a run: the report, and what the listener heard, in order.
def seen (result : Report × Logged σ) : Report × List Hearing :=
  (result.1, result.2.heard)

def shown (s : RuleSet σ) (given : List (Fact σ)) (notify : Listener σ) (world : σ) : Report × List Hearing :=
  seen (s.logged.run (given.map fun f => f.logged f.id) notify.logged ⟨world, []⟩)

def shownInSequence (s : RuleSet σ) (given : List (Fact σ)) (notify : Listener σ) (world : σ) :
    Report × List Hearing :=
  seen (s.logged.runInSequence (given.map fun f => f.logged f.id) notify.logged ⟨world, []⟩)

-- All is as it is declared: every rule has the verdict that it means, in order, the listener hears of
-- each, and the report has the values that known facts were seen to have.
structure Declares (s : RuleSet σ) (given : List (Fact σ)) (world : σ) (shown : Report × List Hearing) : Prop where
  verdicts : shown.1.verdicts = s.meanings s.ordered (s.facts.addAll given) s.lenient world
  sorted : shown.1 = .ofVerdicts shown.1.verdicts shown.1.facts
  facts : ∀ id value, shown.1.facts.find? id = some value ↔ (s.facts.addAll given).contains id ∧
    ∃ v ∈ shown.1.verdicts, ∃ d ∈ v.checks, d.fact = id ∧ d.factValue = some value
  heard : shown.2 = shown.1.verdicts.map Verdict.hearing

section Declares

variable {s : RuleSet σ} {given : List (Fact σ)} {notify : Listener σ} {world : σ}
  {shown shown' : Report × List Hearing}

-- Only one thing is as it is declared.
theorem Declares.unique (h : s.Declares given world shown) (h' : s.Declares given world shown') :
    shown = shown' := by
  have hv : shown.1.verdicts = shown'.1.verdicts := h.verdicts.trans h'.verdicts.symm
  have hf : shown.1.facts = shown'.1.facts := Table.ext_find? fun id => Option.ext fun value => by
    rw [h.facts, h'.facts, hv]
  have hr : shown.1 = shown'.1 := by rw [h.sorted, h'.sorted, hv, hf]
  exact Prod.ext hr (by rw [h.heard, h'.heard, hv])

theorem declares_of_groups (hf : (s.facts.addAll given).Steady) (hn : notify.Spares (s.facts.addAll given))
    (world : σ) {groups : List (List Rule)} (hg : groups.flatten = s.ordered) :
    let (verdicts, store) := s.logged.runGroups notify.logged groups
      ((Store.start (s.facts.addAll given) s.lenient world).logged [])
    s.Declares given world (seen (.ofVerdicts verdicts store.observed, store.world)) := by
  let facts := s.facts.addAll given
  let start : Logged σ := ⟨world, []⟩
  let store := (Store.start facts s.lenient world).logged []
  have ha : facts.Alike (fun w x => x.world = w) facts.logged := facts.alike_logged
  have hw (x : Logged σ) : ∃ w, x.world = w := ⟨x.world, rfl⟩
  have hl : notify.logged.Spares facts.logged := hn.alike ha hw fun _ _ _ hx => by rw [Listener.logged_hear, hx]
  have ⟨hv, hc⟩ := s.logged.runGroups_means (ha.steady hw hf) hl s.lenient start groups
  have ho : s.operators = s.logged.operators := rfl
  have hx : start.world = world := rfl
  have hm := meanings_alike ho ha hx s.ordered s.lenient
  have hs : store.Idle := Store.idle_start facts s.lenient world
  refine ⟨?_, rfl, fun id value => ?_, heard_runGroups notify hs facts.quiet_logged groups⟩
  · exact hv.trans (hg ▸ hm.symm)
  · have hk : (s.facts.addAll given).contains id = facts.logged.contains id := ha.contains_eq id
    rw [hk]
    exact hc id value

theorem declares_shown (hf : (s.facts.addAll given).Steady) (hn : notify.Spares (s.facts.addAll given))
    (world : σ) : s.Declares given world (s.shown given notify world) := by
  have h := declares_of_groups hf hn world (Ranking.flatten_groups (·.priority) s.ordered)
  simp only [shown, run_eq, start_logged]
  exact h

theorem declares_shownInSequence (hf : (s.facts.addAll given).Steady)
    (hn : notify.Spares (s.facts.addAll given)) (world : σ) :
    s.Declares given world (s.shownInSequence given notify world) := by
  have h := declares_of_groups hf hn world (List.flatMap_singleton' s.ordered)
  let store := (Store.start (s.facts.addAll given) s.lenient world).logged []
  have hs : store.Idle := Store.idle_start _ _ _
  have hj := s.logged.runGroups_singles hs notify.logged s.ordered
  simp only [shownInSequence, runInSequence, start_logged]
  exact hj ▸ h

end Declares

end RuleSet

section paced

variable {facts : Facts σ} {notify : Listener σ} {pace : String → σ → Nat}

def Source.paced (pace : σ → Nat) : Source σ → Source σ
  | .constant value => .constant value
  | .provider call => .provider fun w => ({ (call w).1 with delay := pace w }, (call w).2)

-- The fact at another pace: only the turns that its calls take are others.
def Fact.paced (pace : σ → Nat) (f : Fact σ) : Fact σ :=
  { f with source := f.source.paced pace }

def Facts.paced (pace : String → σ → Nat) (facts : Facts σ) : Facts σ :=
  facts.map fun id f => f.paced (pace id)

def RuleSet.paced (pace : String → σ → Nat) (s : RuleSet σ) : RuleSet σ :=
  { s with facts := s.facts.paced pace }

theorem Facts.alike_paced (pace : String → σ → Nat) (facts : Facts σ) : facts.Alike Eq (facts.paced pace) := by
  refine facts.alike_map fun id ⟨_, source, _, _⟩ => ⟨?_, rfl, rfl⟩
  cases source
  case constant value => exact .constant value
  case provider call =>
    refine .provider fun w x hw => ?_
    subst hw
    exact ⟨rfl, rfl⟩

theorem Facts.addAll_paced (facts : Facts σ) (more : List (Fact σ)) :
    (facts.addAll more).paced pace = (facts.paced pace).addAll (more.map fun f => f.paced (pace f.id)) :=
  facts.map_addAll (fun id f => f.paced (pace id)) (fun _ _ => rfl) more

-- Whatever the pace, the same is declared.
theorem RuleSet.Declares.of_paced {s : RuleSet σ} {given : List (Fact σ)} {world : σ}
    {shown : Report × List Hearing}
    (h : (s.paced pace).Declares (given.map fun f => f.paced (pace f.id)) world shown) :
    s.Declares given world shown := by
  let facts := s.facts.addAll given
  have hf : (s.paced pace).facts.addAll (given.map fun f => f.paced (pace f.id)) = facts.paced pace :=
    (s.facts.addAll_paced given).symm
  have ha : facts.Alike Eq (facts.paced pace) := facts.alike_paced pace
  refine ⟨?_, h.sorted, fun id value => ?_, h.heard⟩
  · rw [h.verdicts, hf]
    exact (meanings_alike rfl ha rfl s.ordered s.lenient).symm
  · rw [h.facts, hf, ← ha.contains_eq]

end paced

namespace RuleSet

theorem runInSequence_logged (s : RuleSet σ) (given : List (Fact σ)) (notify : Listener σ) (world : σ) :
    (s.logged.runInSequence (given.map fun f => f.logged f.id) notify.logged ⟨world, []⟩).1 =
      (s.runInSequence given notify world).1 := by
  let store := Store.start (s.facts.addAll given) s.lenient world
  have hs : store.Idle := Store.idle_start _ _ _
  have hl : (store.logged []).Idle := Store.idle_start _ _ _
  have ⟨log, hr⟩ := s.runGroups_logged notify (s.ordered.map ([·])) store []
  rw [runGroups_singles hl, runGroups_singles hs] at hr
  have ho : s.logged.ordered = s.ordered := rfl
  simp only [runInSequence, start_logged, ho]
  rw [show s.logged.judgeAll notify.logged s.ordered _ = _ from hr]
  rfl

-- Neither the turns that calls take nor who takes them first shows in a run, and a rule has the verdict
-- that it has by those facts alone that its conditions name.
structure RunDeclared (s : RuleSet σ) (given : List (Fact σ)) (notify : Listener σ) (world : σ) : Prop where
  report_eq : (s.shown given notify world).1 = (s.run given notify world).1
  sequence_report_eq : (s.shownInSequence given notify world).1 = (s.runInSequence given notify world).1
  declared : s.Declares given world (s.shown given notify world)
  in_sequence : s.shown given notify world = s.shownInSequence given notify world
  at_any_pace (pace : String → σ → Nat) : s.shown given notify world =
    (s.paced pace).shown (given.map fun f => f.paced (pace f.id)) notify world
  by_named (s' : RuleSet σ) (given' : List (Fact σ)) (notify' : Listener σ) (world' : σ) (rule : Rule)
    (i j : Nat) :
    (s'.facts.addAll given').Steady → notify'.Spares (s'.facts.addAll given') → s.operators = s'.operators →
    s.ordered[i]? = some rule → s'.ordered[j]? = some rule →
    (∀ c ∈ rule.conditions,
      (s.facts.addAll given).priorityOf c.fact = (s'.facts.addAll given').priorityOf c.fact ∧
      (s.facts.addAll given).outcome s.lenient world c.fact =
        (s'.facts.addAll given').outcome s'.lenient world' c.fact) →
    (s.run given notify world).1.verdicts[i]? = (s'.run given' notify' world').1.verdicts[j]?

section RunDeclared

variable {s s' : RuleSet σ} {given given' : List (Fact σ)} {notify notify' : Listener σ}

theorem report_shown (s : RuleSet σ) (given : List (Fact σ)) (notify : Listener σ) (world : σ) :
    (s.shown given notify world).1 = (s.run given notify world).1 := by
  have ⟨log, hr⟩ := s.run_logged given notify world []
  rw [shown, hr, seen]

theorem declares_shown_paced (hf : (s.facts.addAll given).Steady) (hn : notify.Spares (s.facts.addAll given))
    (world : σ) (pace : String → σ → Nat) :
    s.Declares given world ((s.paced pace).shown (given.map fun f => f.paced (pace f.id)) notify world) := by
  have ha : (s.facts.addAll given).Alike Eq ((s.facts.addAll given).paced pace) := Facts.alike_paced pace _
  have he (w : σ) : ∃ v, v = w := ⟨w, rfl⟩
  rw [Facts.addAll_paced] at ha
  exact (declares_shown (ha.steady he hf) (hn.alike ha he fun _ _ _ hw => by rw [hw]) world).of_paced

theorem verdict_run (hf : (s.facts.addAll given).Steady) (hn : notify.Spares (s.facts.addAll given)) (world : σ)
    {rule : Rule} {i : Nat} (hi : s.ordered[i]? = some rule) :
    (s.run given notify world).1.verdicts[i]? = some (rule.meaning s.operators (s.facts.addAll given).priorityOf
      ((s.facts.addAll given).outcome s.lenient world)) := by
  rw [← report_shown, (declares_shown hf hn world).verdicts, meanings, List.getElem?_map, hi, Option.map_some]

theorem run_declared (hf : (s.facts.addAll given).Steady) (hn : notify.Spares (s.facts.addAll given)) (world : σ) :
    s.RunDeclared given notify world where
  report_eq := s.report_shown given notify world
  sequence_report_eq := s.runInSequence_logged given notify world
  declared := declares_shown hf hn world
  in_sequence := (declares_shown hf hn world).unique (declares_shownInSequence hf hn world)
  at_any_pace pace := (declares_shown hf hn world).unique (declares_shown_paced hf hn world pace)
  by_named s' given' notify' world' rule i j hf' hn' ho hi hj hr := by
    rw [verdict_run hf hn world hi, verdict_run hf' hn' world' hj, ho]
    exact congrArg some (Rule.meaning_congr (fun c hc => (hr c hc).1) fun c hc => (hr c hc).2)

end RunDeclared

-- A pump that is found running by the first call only, and a valve that nobody gets to see.
def pump : RuleSet (String → Nat) where
  rules := [
    ⟨"dry", 1, [⟨"pump", "equal", .bool true⟩, ⟨"valve", "equal", .bool false⟩], ⟨"dry", ∅⟩⟩,
    ⟨"running", 1, [⟨"pump", "equal", .bool true⟩], ⟨"running", ∅⟩⟩]
  facts := (Facts.add ∅ ⟨"pump", .scripted "pump" fun n => ⟨.ok (.bool (n = 0)), 2⟩, true, 1⟩).add
    ⟨"valve", .scripted "valve" fun _ => ⟨.error (.rejected "valve" "stuck"), 1⟩, false, 1⟩
  operators := .builtIn
  lenient := false

theorem scripted_pump : pump.facts.Scripted := by
  refine (Facts.scripted_empty.add fun _ _ => ?_).add fun _ _ => ?_
  case refine_1 => exact ⟨fun n => ⟨.ok (.bool (n = 0)), 2⟩, rfl, fun h => absurd rfl h⟩
  case refine_2 => exact ⟨fun _ => ⟨.error (.rejected "valve" "stuck"), 1⟩, rfl, fun _ _ _ => rfl⟩

theorem run_declared_pump :
    ((pump.facts.addAll []).Steady ∧ Listener.noop.Spares (pump.facts.addAll [])) ∧
    pump.RunDeclared [] .noop (fun _ => 0) ∧
    (pump.run [] .noop (fun _ => 0)).1.verdicts.map (·.result) = [false, true] := by
  have hf : (pump.facts.addAll []).Steady := scripted_pump.steady
  have hn : Listener.noop.Spares (pump.facts.addAll []) := fun _ _ _ => by rw [Listener.noop_hear]
  exact ⟨⟨hf, hn⟩, run_declared hf hn _, by decide⟩

end RuleSet
end Troubleshoot
