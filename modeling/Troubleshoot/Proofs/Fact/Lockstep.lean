import Mathlib.Data.List.Forall2
import Troubleshoot.Fact.Crew

namespace Troubleshoot

variable {σ τ : Type} {J : Json → Json → Prop}

-- Outcomes that are the same but for values, which may differ as `J` allows.
inductive Outcome.Matches (J : Json → Json → Prop) : Outcome → Outcome → Prop
  | value {a b : Json} (h : J a b) : Matches J (.ok a) (.ok b)
  | error (e : FactError) : Matches J (.error e) (.error e)

structure Reply.Matches (J : Json → Json → Prop) (r r' : Reply) : Prop where
  outcome : r.outcome.Matches J r'.outcome
  delay : r.delay = r'.delay

inductive Response.Matches (J : Json → Json → Prop) : Response → Response → Prop
  | ready {o o' : Outcome} (h : o.Matches J o') : Matches J (.ready o) (.ready o')
  | called {r r' : Reply} (h : r.Matches J r') : Matches J (.called r) (.called r')
  | blocked : Matches J .blocked .blocked

-- Values that may differ make no difference to the query.
def Query.Fits (J : Json → Json → Prop) (q : Query) : Prop :=
  ∀ o o', Outcome.Matches J o o' → q.passes o = q.passes o'

-- A relation of stores that rank facts alike. It is kept when both are asked for the same fact, and when
-- a call for it is over in both.
structure Store.Lockstep (J : Json → Json → Prop) (asked : String → Prop) (S : Store σ → Store τ → Prop) :
    Prop where
  priorityOf {s t} : S s t → s.facts.priorityOf = t.facts.priorityOf
  underWay {s t} : S s t → ∀ id, s.isUnderWay id = t.isUnderWay id
  request {s t id} : S s t → asked id →
    (s.request id).1.Matches J (t.request id).1 ∧ S (s.request id).2 (t.request id).2
  settle {s t o o'} : S s t → ∀ id, o.Matches J o' → S (s.settle id o) (t.settle id o')

namespace Outcome.Matches

variable {o o' : Outcome}

theorem eq (h : o.Matches Eq o') : o = o' := by
  cases h
  case value h => rw [h]
  case error => rfl

theorem refl (hJ : ∀ a, J a a) (o : Outcome) : o.Matches J o := by
  cases o
  case error e => exact .error e
  case ok a => exact .value (hJ a)

theorem toOption (h : o.Matches J o') : Option.Rel J o.toOption o'.toOption := by
  cases h
  case value h => exact .some h
  case error => exact .none

end Outcome.Matches

theorem Reply.Matches.refl (hJ : ∀ a, J a a) (r : Reply) : r.Matches J r :=
  ⟨.refl hJ r.outcome, rfl⟩

theorem Response.Matches.refl (hJ : ∀ a, J a a) (r : Response) : r.Matches J r := by
  cases r
  case ready o => exact .ready (.refl hJ o)
  case called r => exact .called (.refl hJ r)
  case blocked => exact .blocked

structure Task.Matches (J : Json → Json → Prop) (asked : String → Prop) (t u : Task) : Prop where
  queries : t.queries = u.queries
  fits : ∀ q ∈ t.queries, asked q.fact ∧ q.Fits J
  outcomes : List.Forall₂ (Outcome.Matches J) t.outcomes u.outcomes
  waiting : Option.Rel (Reply.Matches J) t.waiting u.waiting

structure Crew.Matches (J : Json → Json → Prop) (asked : String → Prop) (S : Store σ → Store τ → Prop)
    (c : Crew σ) (d : Crew τ) : Prop where
  tasks : List.Forall₂ (Task.Matches J asked) c.tasks d.tasks
  store : S c.store d.store
  line : c.line = d.line
  putOff : c.putOff = d.putOff
  aside : c.aside = d.aside

section Forall₂

variable {α β : Type} {R : α → β → Prop} {as : List α} {bs : List β}

theorem getElem?_forall₂ (h : List.Forall₂ R as bs) (i : Nat) : Option.Rel R as[i]? bs[i]? := by
  induction h generalizing i
  case nil => exact .none
  case cons h _ ih =>
    cases i
    case zero => exact .some h
    case succ i => exact ih i

theorem set_forall₂ (h : List.Forall₂ R as bs) {a : α} {b : β} (hr : R a b) (i : Nat) :
    List.Forall₂ R (as.set i a) (bs.set i b) := by
  induction h generalizing i
  case nil => exact .nil
  case cons h hs ih =>
    cases i
    case zero => exact .cons hr hs
    case succ i => exact .cons h (ih i)

end Forall₂

variable {asked : String → Prop} {S : Store σ → Store τ → Prop}

namespace Task

theorem advance_matches (h : Store.Lockstep J asked S) {qs : List Query}
    (hq : ∀ q ∈ qs, asked q.fact ∧ q.Fits J) {outcomes outcomes' : List Outcome}
    (ho : List.Forall₂ (Outcome.Matches J) outcomes outcomes') {s : Store σ} {t : Store τ} (hs : S s t) :
    (advance outcomes qs s).1.Matches J asked (advance outcomes' qs t).1 ∧
    S (advance outcomes qs s).2 (advance outcomes' qs t).2 := by
  induction qs generalizing outcomes outcomes' s t
  case nil => exact ⟨⟨rfl, nofun, ho, .none⟩, hs⟩
  case cons q qs ih =>
    have ⟨⟨ha, hf⟩, hqs⟩ := List.forall_mem_cons.mp hq
    have ⟨hr, ht⟩ := h.request hs ha
    unfold advance
    generalize s.request q.fact = r at hr ht
    generalize t.request q.fact = r' at hr ht
    obtain ⟨r, s'⟩ := r
    obtain ⟨r', t'⟩ := r'
    cases hr
    case ready o o' hm =>
      have ho' : List.Forall₂ (Outcome.Matches J) (outcomes ++ [o]) (outcomes' ++ [o']) :=
        List.rel_append ho (.cons hm .nil)
      dsimp only
      rw [hf o o' hm]
      split
      · exact ih hqs ho' ht
      · exact ⟨⟨rfl, nofun, ho', .none⟩, ht⟩
    case called hm => exact ⟨⟨rfl, hq, ho, .some hm⟩, ht⟩
    case blocked => exact ⟨⟨rfl, hq, ho, .none⟩, ht⟩

variable {t u : Task} {s : Store σ} {s' : Store τ}

theorem run_matches (h : Store.Lockstep J asked S) (hm : t.Matches J asked u) (hs : S s s') :
    (t.run s).1.Matches J asked (u.run s').1 ∧ S (t.run s).2 (u.run s').2 := by
  obtain ⟨qs, outcomes, waiting⟩ := t
  obtain ⟨qs', outcomes', waiting'⟩ := u
  have ⟨hq, hf, ho, hw⟩ := hm
  dsimp only at hq hf ho hw
  subst hq
  cases qs
  case nil => cases hw <;> exact advance_matches h hf ho hs
  case cons q qs =>
    cases hw
    case none => exact advance_matches h hf ho hs
    case some r r' hr =>
      have ⟨hfq, hfs⟩ := List.forall_mem_cons.mp hf
      have ho' : List.Forall₂ (Outcome.Matches J) (outcomes ++ [r.outcome]) (outcomes' ++ [r'.outcome]) :=
        List.rel_append ho (.cons hr.outcome .nil)
      have hs' := h.settle hs q.fact hr.outcome
      simp only [run, hr.delay, hfq.2 _ _ hr.outcome]
      split
      case isTrue =>
        split
        · exact advance_matches h hfs ho' hs'
        · exact ⟨⟨rfl, nofun, ho', .none⟩, hs'⟩
      case isFalse => exact ⟨⟨rfl, hf, ho, .some ⟨hr.outcome, rfl⟩⟩, hs⟩

namespace Matches

theorem isFinished_eq (h : t.Matches J asked u) : t.isFinished = u.isFinished := by
  rw [isFinished, isFinished, h.queries]

theorem isBlocked_eq (h : t.Matches J asked u) (hu : ∀ id, s.isUnderWay id = s'.isUnderWay id) :
    t.isBlocked s = u.isBlocked s' := by
  have hw := h.waiting
  simp only [isBlocked, h.queries]
  cases u.queries <;> cases ht : t.waiting <;> cases hv : u.waiting <;> simp_all

theorem unasked_eq (h : t.Matches J asked u) : t.unasked = u.unasked := by
  have hw := h.waiting
  simp only [unasked, h.queries]
  cases ht : t.waiting <;> cases hv : u.waiting <;> simp_all

theorem remainingDelay_eq (h : t.Matches J asked u) : t.remainingDelay = u.remainingDelay := by
  have hw := h.waiting
  simp only [remainingDelay]
  cases ht : t.waiting <;> cases hv : u.waiting <;> cases ht ▸ hv ▸ hw
  case none.none => rfl
  case some.some hr => exact hr.delay

end Matches
end Task

namespace Crew

variable {c : Crew σ} {d : Crew τ}

namespace Matches

theorem isFinished_eq (h : c.Matches J asked S d) (i : Nat) : c.isFinished i = d.isFinished i := by
  have ht := getElem?_forall₂ h.tasks i
  simp only [isFinished]
  cases hc : c.tasks[i]? <;> cases hd : d.tasks[i]? <;> cases hc ▸ hd ▸ ht
  case none.none => rfl
  case some.some ht => exact ht.isFinished_eq

theorem isBlocked_eq (hS : Store.Lockstep J asked S) (h : c.Matches J asked S d) (i : Nat) :
    c.isBlocked i = d.isBlocked i := by
  have ht := getElem?_forall₂ h.tasks i
  simp only [isBlocked]
  cases hc : c.tasks[i]? <;> cases hd : d.tasks[i]? <;> cases hc ▸ hd ▸ ht
  case none.none => rfl
  case some.some ht => exact ht.isBlocked_eq (hS.underWay h.store)

-- What is summed up over the tasks.
theorem foldr_add_eq {ts us : List Task} {f : Task → Nat} (hf : ∀ t u, t.Matches J asked u → f t = f u)
    (h : List.Forall₂ (Task.Matches J asked) ts us) :
    ts.foldr (fun t n => f t + n) 0 = us.foldr (fun t n => f t + n) 0 := by
  induction h
  case nil => rfl
  case cons h _ ih => rw [List.foldr_cons, List.foldr_cons, hf _ _ h, ih]

theorem unasked_eq (h : c.Matches J asked S d) : c.unasked = d.unasked :=
  foldr_add_eq (fun _ _ => Task.Matches.unasked_eq) h.tasks

theorem remainingDelay_eq (h : c.Matches J asked S d) : c.remainingDelay = d.remainingDelay :=
  foldr_add_eq (fun _ _ => Task.Matches.remainingDelay_eq) h.tasks

theorem allFinished_eq (h : c.Matches J asked S d) : c.allFinished = d.allFinished := by
  have all {ts us : List Task} (ht : List.Forall₂ (Task.Matches J asked) ts us) :
      ts.all Task.isFinished = us.all Task.isFinished := by
    induction ht
    case nil => rfl
    case cons h _ ih => rw [List.all_cons, List.all_cons, h.isFinished_eq, ih]
  exact all h.tasks

theorem turn (hS : Store.Lockstep J asked S) (h : c.Matches J asked S d) (i : Nat) :
    (c.turn i).Matches J asked S (d.turn i) := by
  have ht := getElem?_forall₂ h.tasks i
  simp only [Crew.turn]
  cases hc : c.tasks[i]? <;> cases hd : d.tasks[i]? <;> cases hc ▸ hd ▸ ht
  case none.none => exact h
  case some.some ht =>
    have ⟨hm, hs⟩ := Task.run_matches hS ht h.store
    exact { h with tasks := set_forall₂ h.tasks hm i, store := hs }

theorem foldl_turn (hS : Store.Lockstep J asked S) (h : c.Matches J asked S d) (is : List Nat) :
    (is.foldl Crew.turn c).Matches J asked S (is.foldl Crew.turn d) := by
  induction is generalizing c d
  case nil => exact h
  case cons i is ih => exact ih (h.turn hS i)

theorem serve (hS : Store.Lockstep J asked S) (h : c.Matches J asked S d) (i : Nat) :
    (c.serve i).Matches J asked S (d.serve i) := by
  have ht := h.turn hS i
  have hb : (c.turn i).isBlocked = (d.turn i).isBlocked := funext (ht.isBlocked_eq hS)
  exact {
    tasks := ht.tasks
    store := ht.store
    line := by simp only [Crew.serve, hb, ht.line, ht.aside]
    putOff := by simp only [Crew.serve, hb, ht.isFinished_eq, ht.putOff]
    aside := by simp only [Crew.serve, hb, ht.aside] }

theorem serveUntilFinished (hS : Store.Lockstep J asked S) (h : c.Matches J asked S d) (turns : Nat) :
    (c.serveUntilFinished turns).1 = (d.serveUntilFinished turns).1 ∧
    (c.serveUntilFinished turns).2.Matches J asked S (d.serveUntilFinished turns).2 := by
  induction turns generalizing c d
  case zero => exact ⟨rfl, h⟩
  case succ turns ih =>
    simp only [Crew.serveUntilFinished, ← h.line]
    cases c.line
    case nil => exact ⟨rfl, h⟩
    case cons i line =>
      have hl : Crew.Matches J asked S { c with line } { d with line } := { h with line := rfl }
      have hs := hl.serve hS i
      dsimp only
      rw [hs.isFinished_eq]
      split
      · exact ⟨rfl, hs⟩
      · exact ih hs

theorem serveLine (hS : Store.Lockstep J asked S) (h : c.Matches J asked S d) (n : Nat) :
    (c.serveLine n).Matches J asked S (d.serveLine n) := by
  induction n generalizing c d
  case zero => exact h
  case succ n ih =>
    have ⟨he, hs⟩ := h.serveUntilFinished hS (n + 1)
    simp only [Crew.serveLine]
    generalize c.serveUntilFinished (n + 1) = r at he hs
    generalize d.serveUntilFinished (n + 1) = r' at he hs
    obtain ⟨finished, c'⟩ := r
    obtain ⟨_, d'⟩ := r'
    cases he
    cases finished
    case false => exact hs
    case true => exact ih hs

theorem pass (hS : Store.Lockstep J asked S) (h : c.Matches J asked S d) : c.pass.Matches J asked S d.pass := by
  have hl := h.tasks.length_eq
  simp only [Crew.pass, hl]
  split
  · rw [Crew.round, Crew.round, hl]
    exact h.foldl_turn hS _
  · rw [h.line, h.aside]
    have hs := h.serveLine hS (d.line.length + d.aside.length)
    exact { hs with
      line := by simp only [rejoin, hs.line, hs.putOff]
      putOff := rfl }

theorem passesUntilAsked (hS : Store.Lockstep J asked S) (h : c.Matches J asked S d) (fuel : Nat) :
    (c.passesUntilAsked fuel).Matches J asked S (d.passesUntilAsked fuel) := by
  induction fuel generalizing c d
  case zero => exact h
  case succ fuel ih =>
    have hp := h.pass hS
    simp only [Crew.passesUntilAsked, hp.unasked_eq, h.unasked_eq]
    split
    · exact hp
    · exact ih hp

theorem passes (hS : Store.Lockstep J asked S) (h : c.Matches J asked S d) (fuel : Nat) :
    (c.passes fuel).Matches J asked S (d.passes fuel) := by
  induction fuel generalizing c d
  case zero => exact h
  case succ fuel ih =>
    simp only [Crew.passes, h.allFinished_eq, h.remainingDelay_eq]
    split
    · exact h
    · exact ih (h.passesUntilAsked hS _)

theorem run (hS : Store.Lockstep J asked S) (h : c.Matches J asked S d) : c.run.Matches J asked S d.run := by
  rw [Crew.run, Crew.run, h.unasked_eq]
  exact h.passes hS _

end Matches
end Crew

-- Tasks that run at the same time get matching outcomes, whatever turns they take, and leave stores that
-- are still related.
theorem Task.runAll_matches (hS : Store.Lockstep J asked S) {queries : List (List Query)}
    (hq : ∀ qs ∈ queries, ∀ q ∈ qs, asked q.fact ∧ q.Fits J) {s : Store σ} {t : Store τ} (hs : S s t) :
    List.Forall₂ (List.Forall₂ (Outcome.Matches J)) (runAll (queries.map ofQueries) s).1
      (runAll (queries.map ofQueries) t).1 ∧
    S (runAll (queries.map ofQueries) s).2 (runAll (queries.map ofQueries) t).2 := by
  have ht : List.Forall₂ (Matches J asked) (queries.map ofQueries) (queries.map ofQueries) := by
    induction queries
    case nil => exact .nil
    case cons qs queries ih =>
      have ⟨hf, hfs⟩ := List.forall_mem_cons.mp hq
      exact .cons ⟨rfl, hf, .nil, .none⟩ (ih hfs)
  have hc : (Crew.ofTasks (queries.map ofQueries) s).Matches J asked S (.ofTasks (queries.map ofQueries) t) :=
    ⟨ht, hs, rfl, rfl, rfl⟩
  have hr := hc.run hS
  exact ⟨List.forall₂_map_left_iff.mpr (List.forall₂_map_right_iff.mpr (hr.tasks.imp fun _ _ h => h.outcomes)),
    hr.store⟩

-- So do those who ask for several facts at the same time.
theorem Store.get_matches (hS : Store.Lockstep J asked S) {s : Store σ} {t : Store τ} (hs : S s t)
    (ids : List String) (ha : ∀ id ∈ ids, asked id) :
    List.Forall₂ (Outcome.Matches J) (s.get ids).1 (t.get ids).1 ∧ S (s.get ids).2 (t.get ids).2 := by
  have hq : ∀ qs ∈ ids.map fun id => [(⟨id, fun _ => true⟩ : Query)], ∀ q ∈ qs, asked q.fact ∧ q.Fits J := by
    simpa [Query.Fits] using ha
  have ⟨ho, ht⟩ := Task.runAll_matches hS hq hs
  rw [List.map_map] at ho ht
  exact ⟨List.rel_flatten ho, ht⟩

end Troubleshoot
