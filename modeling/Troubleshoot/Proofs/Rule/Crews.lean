import Troubleshoot.Proofs.Rule.Sequence

namespace Troubleshoot

variable {σ : Type}

namespace Crew

variable {c : Crew σ}

theorem inFlight_of_finished (hf : c.allFinished) (hs : ∀ t ∈ c.tasks, t.Sound) : c.inFlight = 0 := by
  refine List.countP_eq_zero.mpr fun t ht hw => ?_
  have ⟨reply, hr⟩ := Option.isSome_iff_exists.mp hw
  exact (hs t ht reply hr).1 (List.all_eq_true.mp hf t ht)

-- A crew of one task, whatever turns it takes.
structure OneAtATime (c : Crew σ) : Prop where
  reaches_run : c.Reaches c.run
  inFlight_le : ∀ d, c.Reaches d → d.inFlight ≤ 1
  inFlight_run : c.run.inFlight = 0

theorem oneAtATime_ofTasks {s : Store σ} (h : s.Idle) (qs : List Query) :
    (ofTasks [.ofQueries qs] s).OneAtATime where
  reaches_run := .run _
  inFlight_le := fun _ hr => hr.inFlight_le
  inFlight_run := by
    refine inFlight_of_finished (going_ofTasks h [qs]).run ((Reaches.run _).sound fun t ht => ?_)
    cases List.mem_singleton.mp ht
    exact nofun

end Crew

namespace RuleSet

-- The crews that evaluate the groups of a run, each before its first turn.
def crews (s : RuleSet σ) (notify : Listener σ) : List (List Rule) → Store σ → List (Crew σ)
  | [], _ => []
  | group :: groups, store =>
    let (verdicts, after) := s.evaluate group store
    .ofTasks ((group.map (·.ordered store.facts.priorityOf)).map (Rule.task s.operators)) store ::
      s.crews notify groups (notifyAll notify verdicts after)

theorem crews_singles {s : RuleSet σ} {store : Store σ} (h : store.Idle) (notify : Listener σ)
    (rules : List Rule) : ∀ c ∈ s.crews notify (rules.map ([·])) store, c.OneAtATime := by
  induction rules generalizing store
  case nil => exact nofun
  case cons rule rules ih =>
    intro c hc
    simp only [List.map_cons, crews, evaluate_single h, notifyAll, List.foldl_cons, List.foldl_nil] at hc
    rcases List.mem_cons.mp hc with rfl | hc
    · exact Crew.oneAtATime_ofTasks h _
    · exact @ih { (s.judge rule store).2 with
        world := notify (s.judge rule store).1 (s.judge rule store).2.world }
        ((judge_idle h).of_cells rfl) c hc

-- The crews of a run.
def runCrews (s : RuleSet σ) (facts : List (Fact σ)) (notify : Listener σ) (world : σ) : List (Crew σ) :=
  s.crews notify (Ranking.groups (·.priority) s.ordered)
    (Store.start (s.facts.addAll facts) s.lenient world)

theorem runCrews_of_falling {s : RuleSet σ} (h : s.rules.Pairwise (·.priority > ·.priority))
    (facts : List (Fact σ)) (notify : Listener σ) (world : σ) :
    ∀ c ∈ s.runCrews facts notify world, c.OneAtATime := by
  rw [runCrews, groups_of_falling h]
  exact crews_singles (Store.idle_start _ _ _) notify s.rules

end RuleSet
end Troubleshoot
