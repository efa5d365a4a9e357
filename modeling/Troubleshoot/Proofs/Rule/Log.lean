import Troubleshoot.Proofs.Fact.Balance
import Troubleshoot.Proofs.Rule.Lockstep

namespace Troubleshoot

variable {σ : Type}

-- A call of a listener: of what it has for rules that matched, or for those that did not.
inductive Hearing where
  | success (event : Event) (verdict : Verdict)
  | failure (event : Event) (verdict : Verdict)

-- How a listener should hear of the verdict.
def Verdict.hearing (v : Verdict) : Hearing :=
  if v.result then .success v.event v else .failure v.event v

inductive Entry where
  | called (reading : Reading)
  | heard (hearing : Hearing)

namespace Entry

def called? : Entry → Option Reading
  | called reading => some reading
  | heard _ => none

def heard? : Entry → Option Hearing
  | called _ => none
  | heard hearing => some hearing

end Entry

-- A world with what happened to it so far.
structure Logged (σ : Type) where
  world : σ
  log : List Entry

namespace Logged

def calls (w : Logged σ) : List Reading :=
  w.log.filterMap Entry.called?

def heard (w : Logged σ) : List Hearing :=
  w.log.filterMap Entry.heard?

end Logged

-- A provider that writes down what it is called for and answers.
def Logged.provider (id : String) (call : σ → Reply × σ) (w : Logged σ) : Reply × Logged σ :=
  let (reply, world) := call w.world
  (reply, ⟨world, w.log ++ [.called (id, reply.outcome)]⟩)

def Source.logged (id : String) : Source σ → Source (Logged σ)
  | .constant value => .constant value
  | .provider call => .provider (Logged.provider id call)

def Fact.logged (id : String) (f : Fact σ) : Fact (Logged σ) :=
  ⟨f.id, f.source.logged id, f.cached, f.priority⟩

def Facts.logged (facts : Facts σ) : Facts (Logged σ) :=
  facts.map Fact.logged

def Listener.logged (notify : Listener σ) : Listener (Logged σ) where
  onSuccess event v w := ⟨notify.onSuccess event v w.world, w.log ++ [.heard (.success event v)]⟩
  onFailure event v w := ⟨notify.onFailure event v w.world, w.log ++ [.heard (.failure event v)]⟩

theorem Listener.logged_hear (notify : Listener σ) (v : Verdict) (w : Logged σ) :
    notify.logged v w = ⟨notify v w.world, w.log ++ [.heard v.hearing]⟩ := by
  cases hr : v.result <;> simp [hear, logged, Verdict.hearing, hr]

def Store.logged (s : Store σ) (log : List Entry) : Store (Logged σ) :=
  ⟨s.facts.logged, s.lenient, s.cells, s.observed, ⟨s.world, log⟩⟩

def RuleSet.logged (s : RuleSet σ) : RuleSet (Logged σ) :=
  ⟨s.rules, s.facts.logged, s.operators, s.lenient⟩

namespace Facts

theorem find?_logged {facts : Facts σ} {id : String} :
    facts.logged.find? id = (facts.find? id).map (Fact.logged id) :=
  Table.find?_map

theorem find?_logged_of_some {facts : Facts σ} {id : String} {f : Fact σ} (hf : facts.find? id = some f) :
    facts.logged.find? id = some (f.logged id) := by
  rw [find?_logged, hf, Option.map_some]

theorem priorityOf_logged (facts : Facts σ) : facts.logged.priorityOf = facts.priorityOf := by
  funext id
  simp only [priorityOf, find?_logged]
  cases facts.find? id <;> rfl

-- A change that leaves the ids as they are can be made before facts are added, too.
theorem map_addAll {τ : Type} (change : String → Fact σ → Fact τ) (hc : ∀ id f, (change id f).id = f.id)
    (facts : Facts σ) (more : List (Fact σ)) :
    (facts.addAll more).map change = addAll (facts.map change) (more.map fun f => change f.id f) := by
  induction more generalizing facts
  case nil => rfl
  case cons f more ih =>
    have ha : (facts.add f).map change = add (facts.map change) (change f.id f) := by
      rw [add, add, hc]
      exact Table.map_insert
    simp only [addAll, List.foldl_cons, List.map_cons] at ih ⊢
    rw [ih, ha]

theorem addAll_logged (facts : Facts σ) (more : List (Fact σ)) :
    (facts.addAll more).logged = facts.logged.addAll (more.map fun f => f.logged f.id) :=
  facts.map_addAll Fact.logged (fun _ _ => rfl) more

-- Whatever is called writes down what it answers.
theorem log_of_provider {facts : Facts σ} {id : String} {f : Fact (Logged σ)}
    {provider : Logged σ → Reply × Logged σ} (hf : facts.logged.find? id = some f)
    (hs : f.source = .provider provider) (w : Logged σ) :
    (provider w).2.log = w.log ++ [.called (id, (provider w).1.outcome)] := by
  rw [find?_logged] at hf
  obtain ⟨⟨_, source, _, _⟩, _, rfl⟩ := Option.map_eq_some_iff.mp hf
  cases source
  case constant => cases hs
  case provider =>
    cases hs
    rfl

theorem recorded_logged (facts : Facts σ) : facts.logged.Recorded Logged.calls := by
  intro id f provider hf hs w
  simp [Logged.calls, log_of_provider hf hs, Entry.called?]

end Facts

namespace Store

variable {s : Store σ} {log : List Entry} {id : String}

@[simp] theorem observe_logged {outcome : Outcome} :
    (s.logged log).observe id outcome = (s.observe id outcome).logged log := by
  cases outcome <;> rfl

@[simp] theorem setCell_logged {cell : Cell} :
    (s.logged log).setCell id cell = (s.setCell id cell).logged log := by
  simp only [setCell, logged, Facts.find?_logged]
  cases s.facts.find? id
  case none => rfl
  case some f =>
    obtain ⟨_, _, cached, _⟩ := f
    cases cached <;> rfl

@[simp] theorem settle_logged {outcome : Outcome} :
    (s.logged log).settle id outcome = (s.settle id outcome).logged log := by
  simp [settle]

theorem call_logged (s : Store σ) (log : List Entry) (id : String) (provider : σ → Reply × σ) :
    ∃ log', (s.logged log).call id (Logged.provider id provider) =
      ((s.call id provider).1, (s.call id provider).2.logged log') := by
  let w : Logged σ := ⟨s.world, log⟩
  have hw : { s.logged log with world := (Logged.provider id provider w).2 } =
      { s with world := (provider s.world).2 }.logged (Logged.provider id provider w).2.log := rfl
  refine ⟨(Logged.provider id provider w).2.log, ?_⟩
  simp only [call]
  by_cases hd : (provider s.world).1.delay = 0
  case pos =>
    rw [if_pos hd, if_pos (show (Logged.provider id provider (s.logged log).world).1.delay = 0 from hd)]
    exact congrArg (Prod.mk _) ((congrArg (settle · id _) hw).trans settle_logged)
  case neg =>
    rw [if_neg hd, if_neg (show ¬(Logged.provider id provider (s.logged log).world).1.delay = 0 from hd)]
    exact congrArg (Prod.mk _) ((congrArg (setCell · id _) hw).trans setCell_logged)

theorem request_logged (s : Store σ) (log : List Entry) (id : String) :
    ∃ log', (s.logged log).request id = ((s.request id).1, (s.request id).2.logged log') := by
  cases hf : s.facts.find? id
  case none =>
    have hl : (s.logged log).facts.find? id = none := by simp [logged, Facts.find?_logged, hf]
    rw [request_of_unknown hf, request_of_unknown hl]
    exact ⟨log, rfl⟩
  case some f =>
    have hl : (s.logged log).facts.find? id = some (f.logged id) := Facts.find?_logged_of_some hf
    obtain ⟨_, source, cached, _⟩ := f
    cases source
    case constant value =>
      rw [request_of_constant hf, request_of_constant hl, observe_logged]
      exact ⟨log, rfl⟩
    case provider provider =>
      cases cached
      case false =>
        rw [request_of_uncached hf, request_of_uncached hl]
        exact call_logged s log id provider
      case true =>
        cases hc : s.cells.find? id
        case none =>
          rw [request_of_unasked hf hc, request_of_unasked hl hc]
          exact call_logged s log id provider
        case some cell =>
          cases cell
          case underWay =>
            rw [request_of_underWay hf hc, request_of_underWay hl hc]
            exact ⟨log, rfl⟩
          case settled outcome =>
            rw [request_of_settled hf hc, request_of_settled hl hc, observe_logged]
            exact ⟨log, rfl⟩

end Store

namespace Store

-- The same store, with a log.
def Logs (s : Store σ) (t : Store (Logged σ)) : Prop :=
  ∃ log, t = s.logged log

theorem lockstep_logs : Lockstep (σ := σ) Eq (fun _ => True) Logs where
  priorityOf := by
    rintro s _ ⟨log, rfl⟩
    exact s.facts.priorityOf_logged.symm
  underWay := by
    rintro s _ ⟨log, rfl⟩ id
    rfl
  request := by
    rintro s _ id ⟨log, rfl⟩ _
    have ⟨log', hr⟩ := s.request_logged log id
    rw [hr]
    exact ⟨.refl (fun _ => rfl) (s.request id).1, log', rfl⟩
  settle := by
    rintro s _ o o' ⟨log, rfl⟩ id ho
    exact ⟨log, by rw [ho.eq, settle_logged]⟩

theorem get_logged (s : Store σ) (log : List Entry) (ids : List String) :
    ∃ log', (s.logged log).get ids = ((s.get ids).1, (s.get ids).2.logged log') := by
  have hl : s.Logs (s.logged log) := ⟨log, rfl⟩
  have ⟨ho, log', hs⟩ := get_matches lockstep_logs hl ids fun _ _ => trivial
  exact ⟨log', Prod.ext (eq_of_forall₂ (fun _ _ => Outcome.Matches.eq) ho).symm hs⟩

-- Whatever is asked for, it is answered as if no log was kept.
theorem getAll_logged (s : Store σ) (log : List Entry) (gets : List (List String)) :
    ∃ log', (s.logged log).getAll gets = ((s.getAll gets).1, (s.getAll gets).2.logged log') := by
  induction gets generalizing s log
  case nil => exact ⟨log, rfl⟩
  case cons ids gets ih =>
    have ⟨log', hg⟩ := s.get_logged log ids
    have ⟨log'', hr⟩ := ih (s.get ids).2 log'
    exact ⟨log'', by simp only [getAll, hg, hr]⟩

end Store

namespace RuleSet

variable {s : RuleSet σ}

theorem runGroups_logged (s : RuleSet σ) (notify : Listener σ) (groups : List (List Rule)) (store : Store σ)
    (log : List Entry) :
    ∃ log', s.logged.runGroups notify.logged groups (store.logged log) =
      ((s.runGroups notify groups store).1, (s.runGroups notify groups store).2.logged log') := by
  have hn : ∀ v v' (r : Store σ) (t : Store (Logged σ)), v.Matches Eq v' → r.Logs t →
      Store.Logs { r with world := notify v r.world } { t with world := notify.logged v' t.world } := by
    rintro v v' r _ hv ⟨log, rfl⟩
    exact ⟨log ++ [.heard v'.hearing], by rw [hv.eq, Listener.logged_hear]; rfl⟩
  have hc : ∀ g ∈ groups, Fit Eq s.logged.operators (fun _ => True) g :=
    fun g _ r _ c _ => ⟨trivial, c.fits_eq _⟩
  have hl : store.Logs (store.logged log) := ⟨log, rfl⟩
  have ⟨hv, log', hs⟩ := runGroups_matches Store.lockstep_logs rfl hn hc hl
  exact ⟨log', Prod.ext (eq_of_forall₂ (fun _ _ => Verdict.Matches.eq) hv).symm hs⟩

theorem start_logged (s : RuleSet σ) (facts : List (Fact σ)) (world : σ) (log : List Entry) :
    Store.start (s.logged.facts.addAll (facts.map fun f => f.logged f.id)) s.logged.lenient ⟨world, log⟩ =
      (Store.start (s.facts.addAll facts) s.lenient world).logged log := by
  simp only [logged, ← Facts.addAll_logged]
  rfl

-- A run that keeps a log, by what its groups come to.
theorem logged_run (s : RuleSet σ) (facts : List (Fact σ)) (notify : Listener σ) (world : σ) (log : List Entry) :
    s.logged.run (facts.map fun f => f.logged f.id) notify.logged ⟨world, log⟩ =
      let result := s.logged.runGroups notify.logged (Ranking.groups (·.priority) s.ordered)
        ((Store.start (s.facts.addAll facts) s.lenient world).logged log)
      (.ofVerdicts result.1 result.2.observed, result.2.world) := by
  simp only [run_eq, start_logged]
  rfl

-- A run comes to the same with a log and without one.
theorem run_logged (s : RuleSet σ) (facts : List (Fact σ)) (notify : Listener σ) (world : σ) (log : List Entry) :
    ∃ log', s.logged.run (facts.map fun f => f.logged f.id) notify.logged ⟨world, log⟩ =
      ((s.run facts notify world).1, ⟨(s.run facts notify world).2, log'⟩) := by
  have ⟨log', hr⟩ := s.runGroups_logged notify (Ranking.groups (·.priority) s.ordered)
    (Store.start (s.facts.addAll facts) s.lenient world) log
  exact ⟨log', by rw [logged_run, hr, run_eq]; rfl⟩

end RuleSet
end Troubleshoot
