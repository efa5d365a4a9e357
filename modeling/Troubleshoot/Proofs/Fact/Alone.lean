import Troubleshoot.Proofs.Fact.Finish

namespace Troubleshoot

variable {σ : Type}

namespace Store

variable {s : Store σ} {id : String} {cell : Cell} {outcome : Outcome}

def settled? (s : Store σ) (id : String) : Option Outcome :=
  match s.cells.find? id with
  | some (.settled outcome) => some outcome
  | _ => none

-- Calls a provider and waits for its reply.
def await (s : Store σ) (id : String) (provider : σ → Reply × σ) : Outcome × Store σ :=
  let (reply, world) := provider s.world
  (reply.outcome, { s with world }.settle id reply.outcome)

-- What a request comes to for somebody who asks alone. This is `request` without turns: nobody else
-- has a call under way, so one has to wait for nothing but one's own.
def resolve (s : Store σ) (id : String) : Outcome × Store σ :=
  match s.facts.find? id with
  | none => (if s.lenient then .ok .null else .error (.undefined id), s)
  | some { source := .constant value, .. } => (.ok value, s.observe id (.ok value))
  | some { source := .provider provider, cached := true, .. } =>
    match s.settled? id with
    | some outcome => (outcome, s.observe id outcome)
    | none => s.await id provider
  | some { source := .provider provider, cached := false, .. } => s.await id provider

def resolveAll : List Query → Store σ → List Outcome × Store σ
  | [], s => ([], s)
  | q :: qs, s =>
    let (outcome, s) := s.resolve q.fact
    if q.passes outcome then
      let (outcomes, s) := resolveAll qs s
      (outcome :: outcomes, s)
    else ([outcome], s)

theorem Idle.of_cells {t : Store σ} (h : s.Idle) (hc : t.cells = s.cells) : t.Idle := by
  intro id
  have := h id
  simp_all [isUnderWay]

theorem Idle.settle (h : s.Idle) (id : String) (outcome : Outcome) : (s.settle id outcome).Idle := by
  refine of_cells (s := s.setCell id (.settled outcome)) (fun i => ?_) (by simp [Store.settle])
  rw [Bool.eq_false_iff, ne_eq, isUnderWay_iff]
  intro hu
  rcases find?_cells_of_setCell hu with ⟨_, he, _⟩ | ⟨_, hi⟩
  case inl => cases he
  case inr => exact Bool.eq_false_iff.mp (h i) (isUnderWay_iff.mpr hi)

theorem settled?_eq_some_iff : s.settled? id = some outcome ↔ s.cells.find? id = some (.settled outcome) := by
  simp only [settled?]
  split <;> simp_all

@[simp] theorem settled?_observe {i : String} : (s.observe id outcome).settled? i = s.settled? i := by
  simp [settled?]

theorem settled?_settle_of_ne {i : String} (hi : i ≠ id) :
    (s.settle id outcome).settled? i = s.settled? i := by
  simp only [settled?, settle, observe_cells, find?_cells_setCell_of_ne hi]

theorem settled?_settle_self {f : Fact σ} (hf : s.facts.find? id = some f) (hc : f.cached) :
    (s.settle id outcome).settled? id = some outcome := by
  simp [settled?, settle, find?_cells_setCell_self hf hc]

theorem Idle.cell_eq_none (h : s.Idle) (hs : s.settled? id = none) : s.cells.find? id = none := by
  have hi := h id
  cases hc : s.cells.find? id
  case none => rfl
  case some cell =>
    cases cell
    case underWay => simp [isUnderWay, hc] at hi
    case settled => simp [settled?_eq_some_iff.mpr hc] at hs

-- A call either is over at once, or leaves its caller to wait for what the call comes to.
theorem Idle.call (h : s.Idle) (id : String) (provider : σ → Reply × σ) :
    s.call id provider = (.ready (s.await id provider).1, (s.await id provider).2) ∨
    ∃ reply t, s.call id provider = (.called reply, t) ∧
      s.await id provider = (reply.outcome, t.settle id reply.outcome) ∧
      ∀ outcome, (t.settle id outcome).Idle := by
  have hw : ({ s with world := (provider s.world).2 } : Store σ).Idle := h.of_cells rfl
  by_cases hd : (provider s.world).1.delay = 0
  case pos => exact .inl (by simp [Store.call, await, hd])
  case neg =>
    refine .inr ⟨_, _, by simp only [Store.call, hd, if_false]; rfl, ?_, fun outcome => ?_⟩
    · simp only [settle_setCell]; rfl
    · simp only [settle_setCell]; exact hw.settle id outcome

theorem Idle.await (h : s.Idle) (id : String) (provider : σ → Reply × σ) :
    (s.await id provider).2.Idle :=
  Idle.settle (h.of_cells rfl : ({ s with world := (provider s.world).2 } : Store σ).Idle) _ _

theorem Idle.resolve (h : s.Idle) (id : String) : (s.resolve id).2.Idle := by
  simp only [Store.resolve]
  split
  case _ => exact h
  case _ => exact h.of_cells observe_cells
  case _ =>
    split
    · exact h.of_cells observe_cells
    · exact h.await _ _
  case _ => exact h.await _ _

-- Whoever asks an idle store gets the outcome, or has to wait for nothing but a call of their own.
theorem Idle.request (h : s.Idle) (id : String) :
    s.request id = (.ready (s.resolve id).1, (s.resolve id).2) ∨
    ∃ reply t, s.request id = (.called reply, t) ∧
      s.resolve id = (reply.outcome, t.settle id reply.outcome) ∧
      ∀ outcome, (t.settle id outcome).Idle := by
  cases hf : s.facts.find? id
  case none => exact .inl (by simp [Store.request, Store.resolve, hf])
  case some f =>
    obtain ⟨_, source, cached, _⟩ := f
    cases source
    case constant => exact .inl (by simp [Store.request, Store.resolve, hf])
    case provider provider =>
      cases cached
      case false => simpa [Store.request, Store.resolve, hf] using h.call id provider
      case true =>
        cases hs : s.settled? id
        case none =>
          simpa [Store.request, Store.resolve, hf, hs, h.cell_eq_none hs] using h.call id provider
        case some =>
          have hc := settled?_eq_some_iff.mp hs
          exact .inl (by simp [Store.request, Store.resolve, hf, hs, hc])

theorem Idle.resolveAll (h : s.Idle) (qs : List Query) : (s.resolveAll qs).2.Idle := by
  induction qs generalizing s
  case nil => exact h
  case cons q qs ih =>
    unfold Store.resolveAll
    dsimp only
    split
    · exact ih (h.resolve q.fact)
    · exact h.resolve q.fact

variable {i : String} {priority : Int64} {provider : σ → Reply × σ}

theorem resolve_of_unknown (hf : s.facts.find? id = none) :
    s.resolve id = (if s.lenient then .ok .null else .error (.undefined id), s) := by
  simp [Store.resolve, hf]

theorem resolve_of_constant {value : Json} {cached : Bool}
    (hf : s.facts.find? id = some ⟨i, .constant value, cached, priority⟩) :
    s.resolve id = (.ok value, s.observe id (.ok value)) := by
  simp [Store.resolve, hf]

-- The call leaves nothing in the store but what is observed.
theorem resolve_of_uncached (hf : s.facts.find? id = some ⟨i, .provider provider, false, priority⟩) :
    s.resolve id = ((provider s.world).1.outcome,
      { s with world := (provider s.world).2 }.observe id (provider s.world).1.outcome) := by
  simp [Store.resolve, hf, Store.await, Store.settle, setCell]

theorem resolve_of_settled (hf : s.facts.find? id = some ⟨i, .provider provider, true, priority⟩)
    (hs : s.settled? id = some outcome) : s.resolve id = (outcome, s.observe id outcome) := by
  simp [Store.resolve, hf, hs]

theorem resolve_of_unsettled (hf : s.facts.find? id = some ⟨i, .provider provider, true, priority⟩)
    (hs : s.settled? id = none) :
    s.resolve id = ((provider s.world).1.outcome,
      { s with world := (provider s.world).2 }.settle id (provider s.world).1.outcome) := by
  simp [Store.resolve, hf, hs, Store.await]

end Store

namespace Task

variable {s : Store σ} {t : Task}

-- All outcomes that the task will have got, and the store at the end, if it is left alone.
def finish (t : Task) (s : Store σ) : List Outcome × Store σ :=
  match t with
  | ⟨q :: qs, outcomes, some reply⟩ =>
    let s := s.settle q.fact reply.outcome
    if q.passes reply.outcome then
      (outcomes ++ reply.outcome :: (s.resolveAll qs).1, (s.resolveAll qs).2)
    else (outcomes ++ [reply.outcome], s)
  | ⟨qs, outcomes, _⟩ => (outcomes ++ (s.resolveAll qs).1, (s.resolveAll qs).2)

-- No call is under way but one that the task made itself and waits for.
def Alone (t : Task) (s : Store σ) : Prop :=
  match t with
  | ⟨q :: _, _, some _⟩ => ∀ outcome, (s.settle q.fact outcome).Idle
  | _ => s.Idle

-- What a turn has to leave of the task: the outcomes do not depend on how many turns it takes.
structure Continues (t : Task) (s : Store σ) (next : Task × Store σ) : Prop where
  alone : next.1.Alone next.2
  finish_eq : next.1.finish next.2 = t.finish s

theorem advance_continues (h : s.Idle) (outcomes : List Outcome) (qs : List Query) :
    Continues ⟨qs, outcomes, none⟩ s (advance outcomes qs s) := by
  induction qs generalizing s outcomes
  case nil => exact ⟨h, rfl⟩
  case cons q qs ih =>
    rcases h.request q.fact with hr | ⟨reply, t, hr, he, hi⟩
    case inl =>
      by_cases hp : q.passes (s.resolve q.fact).1
      case pos =>
        have ⟨ha, hf⟩ := ih (h.resolve q.fact) (outcomes ++ [(s.resolve q.fact).1])
        simp only [advance, hr, hp, if_true]
        refine ⟨ha, hf.trans ?_⟩
        simp [finish, Store.resolveAll, hp]
      case neg =>
        simp only [advance, hr, hp]
        exact ⟨h.resolve q.fact, by simp [finish, Store.resolveAll, hp]⟩
    case inr =>
      simp only [advance, hr]
      refine ⟨hi, ?_⟩
      simp only [finish, Store.resolveAll, he]
      split <;> simp_all

theorem run_continues (h : t.Alone s) : Continues t s (t.run s) := by
  obtain ⟨_ | ⟨q, qs⟩, outcomes, _ | reply⟩ := t
  case nil.none => exact advance_continues h outcomes []
  case nil.some => exact ⟨h, rfl⟩
  case cons.none => exact advance_continues h outcomes (q :: qs)
  case cons.some =>
    unfold run
    dsimp only
    split
    case isTrue =>
      split
      case isTrue hp =>
        have ⟨ha, hf⟩ := advance_continues (h reply.outcome) (outcomes ++ [reply.outcome]) qs
        exact ⟨ha, hf.trans (by simp [finish, hp])⟩
      case isFalse hp => exact ⟨h reply.outcome, by simp [finish, hp, Store.resolveAll]⟩
    case isFalse => exact ⟨h, rfl⟩

theorem finish_ofQueries (qs : List Query) (s : Store σ) : (ofQueries qs).finish s = s.resolveAll qs := by
  cases qs <;> simp [ofQueries, finish]

theorem finish_of_finished (h : t.isFinished) : t.finish s = (t.outcomes, s) := by
  obtain ⟨_ | _, _, _⟩ := t
  case nil => simp [finish, Store.resolveAll]
  case cons => cases h

end Task

namespace Crew

variable {c : Crew σ} {result : List Outcome × Store σ}

-- One task that nobody else gets in the way of, and what comes of it.
def Solo (c : Crew σ) (result : List Outcome × Store σ) : Prop :=
  ∃ t, c.tasks = [t] ∧ t.Alone c.store ∧ t.finish c.store = result

theorem Solo.turn (h : c.Solo result) (i : Nat) : (c.turn i).Solo result := by
  obtain ⟨t, ht, ha, hf⟩ := h
  cases i
  case zero =>
    have hc := Task.run_continues ha
    simp only [Crew.turn, ht, List.getElem?_cons_zero, List.set_cons_zero]
    exact ⟨_, rfl, hc.alone, hc.finish_eq.trans hf⟩
  case succ i =>
    simp only [Crew.turn, ht, List.getElem?_cons_succ, List.getElem?_nil]
    exact ⟨t, ht, ha, hf⟩

theorem Reaches.solo {d : Crew σ} (h : c.Reaches d) (hc : c.Solo result) : d.Solo result := by
  induction h
  case refl => exact hc
  case turn i _ ih => exact ih.turn i
  case stand ih => exact ih

theorem solo_ofTasks {s : Store σ} (h : s.Idle) (qs : List Query) :
    (ofTasks [.ofQueries qs] s).Solo (s.resolveAll qs) :=
  ⟨_, rfl, by cases qs <;> exact h, Task.finish_ofQueries qs s⟩

end Crew

-- A task that runs alone asks for one fact after the other; delays come to nothing.
theorem Task.runAll_single {s : Store σ} (h : s.Idle) (qs : List Query) :
    runAll [.ofQueries qs] s = ([(s.resolveAll qs).1], (s.resolveAll qs).2) := by
  have ⟨t, ht, _, hr⟩ := (Crew.Reaches.run _).solo (Crew.solo_ofTasks h qs)
  have hf := (Crew.going_ofTasks h [qs]).run
  simp only [List.map_cons, List.map_nil, Crew.allFinished, ht, List.all_cons, List.all_nil,
    Bool.and_true] at hf
  rw [finish_of_finished hf] at hr
  simp [runAll, ht, ← hr]

end Troubleshoot
