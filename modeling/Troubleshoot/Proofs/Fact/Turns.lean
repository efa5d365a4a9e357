import Troubleshoot.Fact.Crew
import Troubleshoot.Proofs.Fact.Request

namespace Troubleshoot

variable {σ : Type}

-- Only a task with a query left waits for a call, and only for one that takes a turn.
def Task.Sound (t : Task) : Prop :=
  ∀ reply, t.waiting = some reply → ¬t.isFinished ∧ reply.delay ≠ 0

-- What the task's own call will come to, if one is under way.
def Task.pending : Task → List Reading
  | ⟨q :: _, _, some reply⟩ => [(q.fact, reply.outcome)]
  | _ => []

namespace Task

theorem sound_advance (outcomes : List Outcome) (qs : List Query) (s : Store σ) :
    (advance outcomes qs s).1.Sound := by
  induction qs generalizing s outcomes
  case nil => exact nofun
  case cons q qs ih =>
    have hr := s.answers_request q.fact
    unfold advance
    split
    case _ =>
      split
      · exact ih _ _
      · exact nofun
    case _ he =>
      rw [he] at hr
      cases hr
      case called hd _ =>
        rintro _ ⟨⟩
        exact ⟨nofun, hd⟩
    case _ => exact nofun

theorem sound_run {t : Task} (h : t.Sound) (s : Store σ) : (t.run s).1.Sound := by
  unfold run
  split
  case _ =>
    split
    case isTrue =>
      dsimp only
      split
      · exact sound_advance _ _ _
      · exact nofun
    case isFalse hd =>
      rintro _ ⟨⟩
      exact ⟨nofun, by dsimp only; omega⟩
  case _ => exact sound_advance _ _ _

theorem pending_of_finished {t : Task} (h : t.isFinished) : t.pending = [] := by
  obtain ⟨_ | _, _, _⟩ := t
  case nil => rfl
  case cons => cases h

end Task

namespace Query

-- What was read by asking in order, as far as there are outcomes.
def readings (qs : List Query) (outcomes : List Outcome) : List Reading :=
  (qs.map (·.fact)).zip outcomes

-- Outcomes that leave some of the queries to be answered: all but the last of them pass.
def Answered : List Query → List Outcome → List Query → Prop
  | qs, [], left => left = qs
  | [], _ :: _, _ => False
  | q :: qs, outcome :: outcomes, left =>
    if q.passes outcome then Answered qs outcomes left else outcomes = [] ∧ left = []

-- The next query is answered.
theorem Answered.concat {qs : List Query} {outcomes : List Outcome} {q : Query} {left : List Query}
    (h : Answered qs outcomes (q :: left)) (outcome : Outcome) :
    Answered qs (outcomes ++ [outcome]) (if q.passes outcome then left else []) ∧
    readings qs (outcomes ++ [outcome]) = readings qs outcomes ++ [(q.fact, outcome)] := by
  induction outcomes generalizing qs
  case nil =>
    obtain rfl : q :: left = qs := by simpa [Answered] using h
    by_cases hp : q.passes outcome <;> simp [Answered, readings, hp]
  case cons o outcomes ih =>
    cases qs
    case nil => cases h
    case cons p qs =>
      by_cases hp : p.passes o
      case neg => simp [Answered, hp] at h
      case pos =>
        simp only [Answered, hp, if_true] at h
        have ⟨ha, hr⟩ := ih h
        exact ⟨by simpa [Answered, hp] using ha, congrArg ((p.fact, o) :: ·) hr⟩

theorem Answered.of_single {q : Query} {outcomes : List Outcome} (h : Answered [q] outcomes []) :
    ∃ outcome, outcomes = [outcome] := by
  match outcomes with
  | [] => simp [Answered] at h
  | [outcome] => exact ⟨outcome, rfl⟩
  | _ :: _ :: _ => simp [Answered] at h

end Query

-- A task with all the queries that it was made of.
structure Errand where
  queries : List Query
  task : Task

namespace Errand

def taken (e : Errand) : List Reading :=
  Query.readings e.queries e.task.outcomes

-- The outcomes so far answer the queries that the task does not have any more.
def Kept (e : Errand) : Prop :=
  Query.Answered e.queries e.task.outcomes e.task.queries

variable {I : Store σ → List Reading → List Reading → Prop} {e : Errand} {s : Store σ}
  {taken pending : List Reading}

theorem advance_keeps (hI : Store.Lasting I) {qs : List Query} {outcomes : List Outcome} {left : List Query}
    (ha : Query.Answered qs outcomes left) (h : I s (Query.readings qs outcomes ++ taken) pending) :
    let next := Task.advance outcomes left s
    Query.Answered qs next.1.outcomes next.1.queries ∧
    I next.2 (Query.readings qs next.1.outcomes ++ taken) (next.1.pending ++ pending) := by
  induction left generalizing s outcomes
  case nil => exact ⟨ha, h⟩
  case cons q left ih =>
    -- An outcome is the last of those that this task has taken, and the latest of all.
    have latest {t : Store σ} {outcome : Outcome}
        (ht : I t ((q.fact, outcome) :: (Query.readings qs outcomes ++ taken)) pending) :
        I t (Query.readings qs (outcomes ++ [outcome]) ++ taken) pending := by
      rw [(ha.concat outcome).2, List.append_assoc]
      exact hI.perm ht List.perm_middle.symm (.refl _)
    have goOn {t : Store σ} {outcome : Outcome} (hr : s.request q.fact = (.ready outcome, t))
        (ht : I t ((q.fact, outcome) :: (Query.readings qs outcomes ++ taken)) pending) :
        let next := Task.advance outcomes (q :: left) s
        Query.Answered qs next.1.outcomes next.1.queries ∧
        I next.2 (Query.readings qs next.1.outcomes ++ taken) (next.1.pending ++ pending) := by
      have hc := (ha.concat outcome).1
      simp only [Task.advance, hr]
      split
      case isTrue hp => exact ih (by simpa [hp] using hc) (latest ht)
      case isFalse hp => exact ⟨by simpa [hp] using hc, latest ht⟩
    have hr := s.answers_request q.fact
    generalize hs : s.request q.fact = r at hr
    cases hr
    case read hr => exact goOn hs (hI.read h hr)
    case answered hr _ => exact goOn hs (hI.settled (hI.called h hr))
    case called hr _ =>
      simp only [Task.advance, hs]
      exact ⟨ha, hI.called h hr⟩
    case blocked hb =>
      simp only [Task.advance, hs]
      exact ⟨ha, h⟩

-- The errand after a turn of its task.
def next (e : Errand) (s : Store σ) : Errand :=
  { e with task := (e.task.run s).1 }

theorem run_keeps (hI : Store.Lasting I) (he : e.Kept) (h : I s (e.taken ++ taken) (e.task.pending ++ pending)) :
    (e.next s).Kept ∧ I (e.task.run s).2 ((e.next s).taken ++ taken) ((e.next s).task.pending ++ pending) := by
  obtain ⟨qs, ⟨left, outcomes, waiting⟩⟩ := e
  cases left
  case nil => cases waiting <;> exact advance_keeps hI he h
  case cons q left =>
    cases waiting
    case none => exact advance_keeps hI he h
    case some reply =>
      have ⟨hc, hr⟩ := Query.Answered.concat he reply.outcome
      have hs : I (s.settle q.fact reply.outcome)
          (Query.readings qs (outcomes ++ [reply.outcome]) ++ taken) pending := by
        rw [hr, List.append_assoc]
        exact hI.perm (hI.settled h) List.perm_middle.symm (.refl _)
      simp only [next, Task.run]
      split
      case isTrue =>
        split
        case isTrue hp => exact advance_keeps hI (by simpa [hp] using hc) hs
        case isFalse hp => exact ⟨by simpa [hp, Kept] using hc, hs⟩
      case isFalse => exact ⟨he, h⟩

end Errand

namespace Crew

-- The calls that are under way.
def inFlight (c : Crew σ) : Nat :=
  c.tasks.countP (·.waiting.isSome)

-- What can become of a crew by turns of its tasks, in whatever order they are taken.
inductive Reaches (c : Crew σ) : Crew σ → Prop
  | refl : Reaches c c
  | turn {d : Crew σ} (i : Nat) : Reaches c d → Reaches c (d.turn i)
  | stand {d : Crew σ} (line putOff aside : List Nat) :
    Reaches c d → Reaches c { d with line, putOff, aside }

variable {c d e : Crew σ}

namespace Reaches

theorem trans (h : c.Reaches d) (h' : d.Reaches e) : c.Reaches e := by
  induction h'
  case refl => exact h
  case turn i _ ih => exact ih.turn i
  case stand line putOff aside _ ih => exact ih.stand line putOff aside

theorem foldl_turn (is : List Nat) (c : Crew σ) : c.Reaches (is.foldl Crew.turn c) := by
  induction is generalizing c
  case nil => exact refl
  case cons i is ih => exact (refl.turn i).trans (ih _)

theorem serve (c : Crew σ) (i : Nat) : c.Reaches (c.serve i) :=
  stand _ _ _ (refl.turn i)

theorem serveUntilFinished (turns : Nat) (c : Crew σ) : c.Reaches (c.serveUntilFinished turns).2 := by
  induction turns generalizing c
  case zero => exact refl
  case succ turns ih =>
    unfold Crew.serveUntilFinished
    split
    case _ => exact refl
    case _ i line _ =>
      have hs := (refl.stand line c.putOff c.aside).trans (serve { c with line } i)
      dsimp only
      split
      · exact hs
      · exact hs.trans (ih _)

theorem serveLine (n : Nat) (c : Crew σ) : c.Reaches (c.serveLine n) := by
  induction n generalizing c
  case zero => exact refl
  case succ n ih =>
    have hs := serveUntilFinished (n + 1) c
    simp only [Crew.serveLine]
    split
    case _ he =>
      rw [he] at hs
      exact hs.trans (ih _)
    case _ he =>
      rw [he] at hs
      exact hs

theorem pass (c : Crew σ) : c.Reaches c.pass := by
  simp only [Crew.pass]
  split
  · exact foldl_turn _ c
  · exact (serveLine _ c).stand _ _ _

theorem passesUntilAsked (fuel : Nat) (c : Crew σ) : c.Reaches (c.passesUntilAsked fuel) := by
  induction fuel generalizing c
  case zero => exact refl
  case succ fuel ih =>
    unfold Crew.passesUntilAsked
    dsimp only
    split
    · exact pass c
    · exact (pass c).trans (ih _)

theorem passes (fuel : Nat) (c : Crew σ) : c.Reaches (c.passes fuel) := by
  induction fuel generalizing c
  case zero => exact refl
  case succ fuel ih =>
    simp only [Crew.passes]
    split
    · exact refl
    · exact (passesUntilAsked _ c).trans (ih _)

-- A crew that runs to its end does nothing but take turns.
theorem run (c : Crew σ) : c.Reaches c.run :=
  passes _ c

-- What holds of the tasks and the store, and is kept by the turn of any task, holds however the turns
-- are taken.
theorem keeps {P : List Task → Store σ → Prop}
    (step : ∀ tasks s i t, tasks[i]? = some t → P tasks s → P (tasks.set i (t.run s).1) (t.run s).2)
    (h : c.Reaches d) (hc : P c.tasks c.store) : P d.tasks d.store := by
  induction h
  case refl => exact hc
  case turn d i _ ih =>
    simp only [Crew.turn]
    split
    case _ => exact ih
    case _ t ht => exact step d.tasks d.store i t ht ih
  case stand ih => exact ih

theorem length_tasks (h : c.Reaches d) : d.tasks.length = c.tasks.length :=
  h.keeps (P := fun tasks _ => tasks.length = c.tasks.length) (fun _ _ _ _ _ hl => by simpa using hl) rfl

-- What each task keeps in its turns.
theorem forall_tasks {P : Task → Prop} (step : ∀ t (s : Store σ), P t → P (t.run s).1) (h : c.Reaches d)
    (hc : ∀ t ∈ c.tasks, P t) : ∀ t ∈ d.tasks, P t := by
  refine h.keeps (P := fun tasks _ => ∀ t ∈ tasks, P t) (fun tasks s i t ht hp u hu => ?_) hc
  rcases List.mem_or_eq_of_mem_set hu with hu | rfl
  · exact hp u hu
  · exact step t s (hp t (List.mem_of_getElem? ht))

theorem sound (h : c.Reaches d) (hc : ∀ t ∈ c.tasks, t.Sound) : ∀ t ∈ d.tasks, t.Sound :=
  h.forall_tasks (fun _ s ht => Task.sound_run ht s) hc

theorem inFlight_le (h : c.Reaches d) : d.inFlight ≤ c.tasks.length :=
  h.length_tasks ▸ List.countP_le_length

end Reaches

-- The tasks are on errands for these queries, and what they have read and will read is as it must be.
def Keeps (I : Store σ → List Reading → List Reading → Prop) (queries : List (List Query))
    (tasks : List Task) (s : Store σ) : Prop :=
  ∃ errands : List Errand, errands.map (·.queries) = queries ∧ errands.map (·.task) = tasks ∧
    (∀ e ∈ errands, e.Kept) ∧ I s (errands.flatMap (·.taken)) (errands.flatMap (·.task.pending))

variable {I : Store σ → List Reading → List Reading → Prop} {queries : List (List Query)}

theorem split_of_getElem? {α : Type} {as : List α} {i : Nat} {a : α} (h : as[i]? = some a) :
    ∃ before after, as = before ++ a :: after ∧ ∀ b, as.set i b = before ++ b :: after := by
  have ⟨hi, ha⟩ := List.getElem?_eq_some_iff.mp h
  refine ⟨as.take i, as.drop (i + 1), ?_, fun b => by rw [List.set_eq_take_append_cons_drop, if_pos hi]⟩
  rw [← ha, List.getElem_cons_drop, List.take_append_drop]

theorem Reaches.keeps_errands (hI : Store.Lasting I) (h : c.Reaches d) (hc : Keeps I queries c.tasks c.store) :
    Keeps I queries d.tasks d.store := by
  refine h.keeps (fun tasks s i t ht hk => ?_) hc
  obtain ⟨errands, hq, rfl, he, hi⟩ := hk
  have ⟨e, hei, het⟩ := Option.map_eq_some_iff.mp (List.getElem?_map ▸ ht)
  obtain ⟨before, after, rfl, hs⟩ := split_of_getElem? hei
  have middle {α : Type} (f : Errand → List α) (e : Errand) :
      ((before ++ e :: after).flatMap f).Perm (f e ++ (before ++ after).flatMap f) :=
    List.perm_middle.flatMap_right f
  have ⟨hk, hr⟩ := Errand.run_keeps hI (he e (by simp)) (hI.perm hi (middle _ e) (middle _ e))
  refine ⟨before ++ e.next s :: after, ?_, ?_, fun f hf => ?_, ?_⟩
  · simpa [Errand.next] using hq
  · rw [← het, ← hs, List.map_set, Errand.next]
  · rcases List.mem_append.mp hf with hf | hf
    · exact he f (by simp [hf])
    · rcases List.mem_cons.mp hf with rfl | hf
      · exact hk
      · exact he f (by simp [hf])
  · rw [← het]
    exact hI.perm hr (middle _ _).symm (middle (·.task.pending) _).symm

theorem keeps_ofTasks {s : Store σ} (h : I s [] []) :
    Keeps I queries (ofTasks (queries.map Task.ofQueries) s).tasks s := by
  let start (qs : List Query) : Errand := ⟨qs, .ofQueries qs⟩
  have fresh {P : Errand → Prop} (hp : ∀ qs, P (start qs)) : ∀ e ∈ queries.map start, P e := by
    simpa using fun qs _ => hp qs
  have taken : (queries.map start).flatMap (·.taken) = [] :=
    List.flatMap_eq_nil_iff.mpr (fresh fun _ => List.zip_nil_right)
  have pending : (queries.map start).flatMap (·.task.pending) = [] :=
    List.flatMap_eq_nil_iff.mpr (fresh fun qs => by cases qs <;> rfl)
  refine ⟨queries.map start, ?_, ?_, fresh fun qs => by cases qs <;> rfl, by rwa [taken, pending]⟩
  · simp [start, Function.comp_def]
  · simp [start, ofTasks, Function.comp_def]

end Crew
end Troubleshoot
