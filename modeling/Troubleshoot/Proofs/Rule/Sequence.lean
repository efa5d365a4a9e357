import Troubleshoot.Proofs.Fact.Alone
import Troubleshoot.Proofs.Rule.Trial

namespace Troubleshoot

variable {σ τ : Type}

namespace Store

variable {operators : Operators} {cs : List Condition} {s : Store σ}

-- Looks at conditions one after the other, up to the first that does not hold.
def look (operators : Operators) : List Condition → Store σ → List (Condition × Outcome) × Store σ
  | [], s => ([], s)
  | c :: cs, s =>
    let (outcome, s) := s.resolve c.fact
    if c.holds operators outcome then
      let (looked, s) := look operators cs s
      ((c, outcome) :: looked, s)
    else ([(c, outcome)], s)

theorem look_eq_resolveAll (cs : List Condition) (s : Store σ) :
    s.look operators cs =
      let (outcomes, t) := s.resolveAll (cs.map fun c => ⟨c.fact, c.holds operators⟩)
      (cs.zip outcomes, t) := by
  induction cs generalizing s
  case nil => rfl
  case cons c cs ih =>
    simp only [look, resolveAll, List.map_cons]
    split <;> simp [ih]

theorem map_snd_look (cs : List Condition) (s : Store σ) :
    (s.look operators cs).1.map Prod.snd = (s.resolveAll (cs.map fun c => ⟨c.fact, c.holds operators⟩)).1 := by
  induction cs generalizing s
  case nil => rfl
  case cons c cs ih =>
    simp only [look, resolveAll, List.map_cons]
    split <;> simp [ih]

-- What holds of the conditions looked at so far and the store then, holds at the end.
theorem look_induction {P : List (Condition × Outcome) → Store σ → Prop}
    (step : ∀ done s, ∀ c ∈ cs, P done s →
      P (done ++ [(c, (s.resolve c.fact).1)]) (s.resolve c.fact).2)
    {done : List (Condition × Outcome)} (h : P done s) :
    P (done ++ (s.look operators cs).1) (s.look operators cs).2 := by
  induction cs generalizing s done
  case nil => simpa [look] using h
  case cons c cs ih =>
    have hc := step done s c (List.mem_cons_self ..) h
    unfold look
    dsimp only
    split
    · simpa using ih (fun done s d hd => step done s d (List.mem_cons_of_mem _ hd)) hc
    · exact hc

theorem map_fst_look_prefix (s : Store σ) (operators : Operators) (cs : List Condition) :
    (s.look operators cs).1.map Prod.fst <+: cs := by
  induction cs generalizing s
  case nil => exact List.nil_prefix
  case cons c cs ih =>
    unfold look
    dsimp only
    split
    · exact (List.prefix_cons_inj c).mpr (ih _)
    · exact (List.prefix_cons_inj c).mpr List.nil_prefix

-- Nothing but a condition that does not hold keeps the later ones from being looked at.
theorem map_fst_look_of_holds (h : ∀ l ∈ (s.look operators cs).1, l.1.holds operators l.2) :
    (s.look operators cs).1.map Prod.fst = cs := by
  induction cs generalizing s
  case nil => rfl
  case cons c cs ih =>
    unfold look at h ⊢
    dsimp only at h ⊢
    by_cases hc : c.holds operators (s.resolve c.fact).1
    case pos =>
      simp only [hc, if_true, List.forall_mem_cons] at h
      simp [hc, ih h.2]
    case neg =>
      simp only [hc] at h
      exact absurd (h _ (List.mem_singleton.mpr rfl)) hc

-- Whatever is followed by something else holds.
theorem pairwise_look (cs : List Condition) (s : Store σ) :
    (s.look operators cs).1.Pairwise fun l _ => l.1.holds operators l.2 := by
  induction cs generalizing s
  case nil => exact .nil
  case cons c cs ih =>
    unfold look
    dsimp only
    split
    case isTrue hc => exact List.pairwise_cons.mpr ⟨fun _ _ => hc, ih _⟩
    case isFalse => exact List.pairwise_singleton ..

theorem zip_look : cs.zip ((s.look operators cs).1.map Prod.snd) = (s.look operators cs).1 := by
  induction cs generalizing s
  case nil => rfl
  case cons c cs ih =>
    unfold look
    dsimp only
    split <;> simp [ih]

theorem answered_look (cs : List Condition) (s : Store σ) :
    Query.Answered (cs.map (·.query operators)) ((s.look operators cs).1.map Prod.snd) [] := by
  induction cs generalizing s
  case nil => rfl
  case cons c cs ih =>
    simp only [look]
    split
    case isTrue hc => simpa [Query.Answered, Condition.query, hc] using ih _
    case isFalse hc => simp [Query.Answered, Condition.query, hc]

theorem findSome?_error?_look {d : Condition} {outcome : Outcome} {reason : String}
    (h : (d, outcome) ∈ (s.look operators cs).1) (he : d.error? operators outcome = some reason) :
    ((s.look operators cs).1.findSome? fun l => l.1.error? operators l.2) = some reason := by
  have hz : cs.zip ((s.look operators cs).1.map Prod.snd) = (s.look operators cs).1 := zip_look
  have ha : Query.Answered (cs.map (·.query operators)) ((s.look operators cs).1.map Prod.snd) [] :=
    answered_look cs s
  exact hz ▸ ha.findSome?_error? (hz.symm ▸ h) he

end Store

namespace RuleSet

variable {s : RuleSet σ} {rule : Rule} {rules : List Rule} {store : Store σ}

-- The conditions of a rule that are looked at, with their outcomes, if it is evaluated by itself.
def looked (s : RuleSet σ) (rule : Rule) (store : Store σ) :
    List (Condition × Outcome) × Store σ :=
  store.look s.operators (rule.ordered store.facts.priorityOf)

def judge (s : RuleSet σ) (rule : Rule) (store : Store σ) : Verdict × Store σ :=
  let (looked, after) := s.looked rule store
  (rule.verdict s.operators (rule.ordered store.facts.priorityOf) (looked.map Prod.snd), after)

theorem judge_eq :
    s.judge rule store = (rule.verdictOf s.operators (rule.ordered store.facts.priorityOf)
      ((s.looked rule store).1.map Prod.snd), (s.looked rule store).2) :=
  Prod.ext (rule.verdict_eq (Store.answered_look ..)) rfl

theorem checks_judge :
    (s.judge rule store).1.checks = (s.looked rule store).1.map fun l => l.1.check s.operators l.2 := by
  simp [judge_eq, Rule.verdictOf, looked, Store.zip_look]

theorem error_judge :
    (s.judge rule store).1.error =
      (s.looked rule store).1.findSome? fun l => l.1.error? s.operators l.2 := by
  simp [judge_eq, Rule.verdictOf, looked, Store.zip_look]

theorem result_judge_iff :
    (s.judge rule store).1.result ↔
      (s.looked rule store).1.map Prod.fst = rule.ordered store.facts.priorityOf ∧
      ∀ l ∈ (s.looked rule store).1, l.1.holds s.operators l.2 := by
  have hp := store.map_fst_look_prefix s.operators (rule.ordered store.facts.priorityOf)
  simp only [judge_eq, Rule.verdictOf, looked, Store.zip_look, decide_eq_true_eq, List.all_eq_true]
  refine and_congr_left fun _ => ⟨fun hl => hp.eq_of_length ?_, fun he => ?_⟩
  · simpa using hl
  · simpa using congrArg List.length he

-- Evaluates rules by themselves, one after the other, and lets each verdict be heard.
def judgeAll (s : RuleSet σ) (notify : Listener σ) : List Rule → Store σ → List Verdict × Store σ
  | [], store => ([], store)
  | rule :: rules, store =>
    let (verdict, store) := s.judge rule store
    let (later, store) := s.judgeAll notify rules { store with world := notify verdict store.world }
    (verdict :: later, store)

theorem judge_idle (h : store.Idle) : (s.judge rule store).2.Idle := by
  simp only [judge, looked, Store.look_eq_resolveAll]
  exact h.resolveAll _

theorem evaluate_single (h : store.Idle) :
    s.evaluate [rule] store = ([(s.judge rule store).1], (s.judge rule store).2) := by
  simp only [evaluate, Rule.task, List.map_cons, List.map_nil, Task.runAll_single h, List.zip_cons_cons,
    List.zip_nil_left]
  simp only [judge, looked, Store.map_snd_look]
  rw [Store.look_eq_resolveAll]

theorem runGroups_singles (h : store.Idle) (notify : Listener σ) (rules : List Rule) :
    s.runGroups notify (rules.map ([·])) store = s.judgeAll notify rules store := by
  induction rules generalizing store
  case nil => rfl
  case cons rule rules ih =>
    simp only [List.map_cons, runGroups, evaluate_single h, judgeAll, notifyAll, List.foldl_cons,
      List.foldl_nil]
    have hn := @ih { (s.judge rule store).2 with
      world := notify (s.judge rule store).1 (s.judge rule store).2.world } ((judge_idle h).of_cells rfl)
    simp only [hn, List.singleton_append]

theorem groups_of_distinct (h : s.rules.Pairwise (·.priority ≠ ·.priority)) :
    Ranking.groups (·.priority) s.ordered = s.ordered.map ([·]) :=
  Ranking.groups_eq_map _ ((Ranking.sort_perm _ s.rules).symm.pairwise h fun hr => hr.symm)

-- Rules of different priorities run one after the other.
theorem run_of_distinct (h : s.rules.Pairwise (·.priority ≠ ·.priority)) (facts : List (Fact σ))
    (notify : Listener σ) (world : σ) :
    s.run facts notify world =
      let (verdicts, store) :=
        s.judgeAll notify s.ordered (Store.start (s.facts.addAll facts) s.lenient world)
      (.ofVerdicts verdicts store.observed, store.world) := by
  simp only [run_eq, groups_of_distinct h, runGroups_singles (Store.idle_start _ _ _)]

theorem ordered_of_falling (h : s.rules.Pairwise (·.priority > ·.priority)) : s.ordered = s.rules :=
  Ranking.sort_eq_self _ (h.imp Int64.le_of_lt)

theorem distinct_of_falling (h : s.rules.Pairwise (·.priority > ·.priority)) :
    s.rules.Pairwise (·.priority ≠ ·.priority) :=
  h.imp fun hr => (Int64.ne_of_lt hr).symm

theorem groups_of_falling (h : s.rules.Pairwise (·.priority > ·.priority)) :
    Ranking.groups (·.priority) s.ordered = s.rules.map ([·]) := by
  rw [groups_of_distinct (distinct_of_falling h), ordered_of_falling h]

-- Rules that fall in priority do so in the order in which they were added.
theorem run_of_falling (h : s.rules.Pairwise (·.priority > ·.priority)) (facts : List (Fact σ))
    (notify : Listener σ) (world : σ) :
    s.run facts notify world =
      let (verdicts, store) :=
        s.judgeAll notify s.rules (Store.start (s.facts.addAll facts) s.lenient world)
      (.ofVerdicts verdicts store.observed, store.world) := by
  rw [run_of_distinct (distinct_of_falling h), ordered_of_falling h]

-- What holds of the verdicts so far and the store then, holds at the end.
theorem judgeAll_induction {notify : Listener σ} {P : List Verdict → Store σ → Prop}
    (step : ∀ done store rule, rules[done.length]? = some rule → P done store →
      P (done ++ [(s.judge rule store).1]) { (s.judge rule store).2 with
        world := notify (s.judge rule store).1 (s.judge rule store).2.world })
    (h : P [] store) :
    P (s.judgeAll notify rules store).1 (s.judgeAll notify rules store).2 ∧
    (s.judgeAll notify rules store).1.length = rules.length := by
  suffices ∀ before later done store, rules = before ++ later → before.length = done.length →
      P done store → P (done ++ (s.judgeAll notify later store).1) (s.judgeAll notify later store).2 ∧
        (s.judgeAll notify later store).1.length = later.length by
    simpa using this [] rules [] store rfl rfl h
  intro before later done store hr hl hp
  induction later generalizing before done store
  case nil => simpa [judgeAll] using hp
  case cons rule later ih =>
    have hs := step done store rule (by simp [hr, ← hl]) hp
    have ⟨hp, hn⟩ := ih (before ++ [rule]) _ _ (by simp [hr]) (by simp [hl]) hs
    exact ⟨by simpa [judgeAll] using hp, by simpa [judgeAll] using hn⟩

end RuleSet
end Troubleshoot
