import Troubleshoot.Rule.RuleSet

namespace Troubleshoot

variable {σ : Type}

-- What a listener makes of a verdict.
def Listener.hear (listener : Listener σ) (v : Verdict) : σ → σ :=
  if v.result then listener.onSuccess v.event v else listener.onFailure v.event v

instance : CoeFun (Listener σ) fun _ => Verdict → σ → σ :=
  ⟨Listener.hear⟩

-- Ignores all verdicts.
def Listener.noop : Listener σ :=
  {}

@[simp] theorem Listener.noop_hear (v : Verdict) (w : σ) : (noop : Listener σ) v w = w := by
  simp only [hear, noop]
  split <;> rfl

-- The report of a run that reached these verdicts.
def Report.ofVerdicts (verdicts : List Verdict) (facts : Table Json) : Report where
  events := (verdicts.filter (·.result)).map (·.event)
  failureEvents := (verdicts.filter (!·.result)).map (·.event)
  verdicts := verdicts
  facts := facts

namespace RuleSet

variable {listener : Listener σ} {done verdicts : List Verdict} {facts : Table Json} {store : Store σ}

def notifyAll (listener : Listener σ) (verdicts : List Verdict) (store : Store σ) : Store σ :=
  { store with world := verdicts.foldl (fun world v => listener v world) store.world }

-- The verdicts on groups of rules, and the store after the last of them was heard.
def runGroups (s : RuleSet σ) (listener : Listener σ) :
    List (List Rule) → Store σ → List Verdict × Store σ
  | [], store => ([], store)
  | group :: groups, store =>
    let (verdicts, store) := s.evaluate group store
    let (later, store) := s.runGroups listener groups (notifyAll listener verdicts store)
    (verdicts ++ later, store)

theorem conclude_ofVerdicts (v : Verdict) :
    conclude listener (.ofVerdicts done facts, store) v =
      (.ofVerdicts (done ++ [v]) facts, { store with world := listener v store.world }) := by
  cases hr : v.result <;> simp [conclude, Report.ofVerdicts, Listener.hear, hr]

theorem foldl_conclude :
    verdicts.foldl (conclude listener) (.ofVerdicts done facts, store) =
      (.ofVerdicts (done ++ verdicts) facts, notifyAll listener verdicts store) := by
  induction verdicts generalizing done store
  case nil => simp [notifyAll]
  case cons v verdicts ih =>
    rw [List.foldl_cons, conclude_ofVerdicts, ih, List.append_assoc]
    rfl

theorem foldl_runGroup (s : RuleSet σ) (groups : List (List Rule)) :
    groups.foldl (s.runGroup listener) (.ofVerdicts done facts, store) =
      (.ofVerdicts (done ++ (s.runGroups listener groups store).1) facts, (s.runGroups listener groups store).2) := by
  induction groups generalizing done store
  case nil => simp [runGroups]
  case cons group groups ih =>
    have hg : s.runGroup listener (.ofVerdicts done facts, store) group =
        (.ofVerdicts (done ++ (s.evaluate group store).1) facts,
          notifyAll listener (s.evaluate group store).1 (s.evaluate group store).2) := foldl_conclude
    rw [List.foldl_cons, hg, ih, List.append_assoc]
    rfl

-- A run comes to the verdicts on its groups, and its report is the one of these.
theorem run_eq (s : RuleSet σ) (given : List (Fact σ)) (listener : Listener σ) (world : σ) :
    s.run given listener world =
      let (verdicts, store) := s.runGroups listener (Ranking.groups (·.priority) s.ordered)
        (Store.start (s.facts.addAll given) s.lenient world)
      (.ofVerdicts verdicts store.observed, store.world) := by
  have hempty : Report.empty = .ofVerdicts [] ∅ := rfl
  simp only [run, hempty, foldl_runGroup, List.nil_append]
  rfl

end RuleSet
end Troubleshoot
