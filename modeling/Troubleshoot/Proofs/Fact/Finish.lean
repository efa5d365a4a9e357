import Troubleshoot.Proofs.Fact.Turns

namespace Troubleshoot

variable {σ : Type}

-- No call is under way.
def Store.Idle (s : Store σ) : Prop :=
  ∀ id, s.isUnderWay id = false

-- A call is under way only for a fact that is cached, and somebody waits for it.
def Store.Owned (s : Store σ) (_ : List Reading) (pending : List Reading) : Prop :=
  ∀ id, s.isUnderWay id →
    (∃ f, s.facts.find? id = some f ∧ f.cached) ∧ ∃ outcome, (id, outcome) ∈ pending

namespace Store

theorem lasting_owned : Lasting (Owned (σ := σ)) where
  perm h _ hp id hi := (h id hi).imp_right fun ⟨outcome, ho⟩ => ⟨outcome, hp.mem_iff.mp ho⟩
  read h hr id hi := by
    rw [isUnderWay_iff, hr.cells, ← isUnderWay_iff] at hi
    exact hr.facts ▸ h id hi
  called {s t id reply _ _} h hr i hi := by
    cases hr
    rw [isUnderWay_iff] at hi
    simp only [setCell_facts]
    rcases find?_cells_of_setCell hi with ⟨rfl, _, hc⟩ | ⟨_, hi⟩
    case inl => exact ⟨hc, _, List.mem_cons_self ..⟩
    case inr => exact (h i (isUnderWay_iff.mpr hi)).imp_right fun ⟨o, ho⟩ => ⟨o, List.mem_cons_of_mem _ ho⟩
  settled {s id outcome _ _} h i hi := by
    rw [isUnderWay_iff, settle, observe_cells] at hi
    rw [settle_facts]
    rcases find?_cells_of_setCell hi with ⟨_, he, _⟩ | ⟨hn, hi⟩
    case inl => cases he
    case inr =>
      obtain ⟨⟨f, hf, hd⟩, o, ho⟩ := h i (isUnderWay_iff.mpr hi)
      refine ⟨⟨f, hf, hd⟩, o, (List.mem_cons.mp ho).resolve_left fun he => ?_⟩
      cases he
      exact hn rfl f hf hd

theorem owned_nil_iff {s : Store σ} {taken : List Reading} : s.Owned taken [] ↔ s.Idle := by
  simp [Owned, Idle]

theorem idle_start (facts : Facts σ) (lenient : Bool) (world : σ) : (start facts lenient world).Idle := by
  simp [Idle, isUnderWay, start]

end Store

namespace Task

variable {t : Task} {s : Store σ}

-- There are fewer calls to make, or as many and less to wait for.
def Nearer (t u : Task) : Prop :=
  t.unasked < u.unasked ∨ (t.unasked = u.unasked ∧ t.remainingDelay < u.remainingDelay)

theorem unasked_advance_le (outcomes : List Outcome) (qs : List Query) (s : Store σ) :
    (advance outcomes qs s).1.unasked ≤ qs.length := by
  induction qs generalizing s outcomes
  case nil => exact Nat.le_refl _
  case cons q qs ih =>
    unfold advance
    split
    case _ =>
      split
      · exact Nat.le_succ_of_le (ih _ _)
      · exact Nat.zero_le _
    case _ => exact Nat.sub_le ..
    case _ => exact Nat.sub_le ..

theorem advance_nearer (outcomes : List Outcome) (q : Query) (qs : List Query) (s : Store σ) :
    (advance outcomes (q :: qs) s).1.unasked ≤ qs.length ∨
    (advance outcomes (q :: qs) s = (⟨q :: qs, outcomes, none⟩, s) ∧ s.isUnderWay q.fact) := by
  have hr := s.answers_request q.fact
  unfold advance
  split
  case _ =>
    refine .inl ?_
    split
    · exact unasked_advance_le _ qs _
    · exact Nat.zero_le _
  case _ => exact .inl (Nat.le_refl _)
  case _ he =>
    rw [he] at hr
    cases hr
    case blocked hb => exact .inr ⟨rfl, hb⟩

-- Once the call is over, no turn of it is left.
theorem nearer_of_over {u : Task} {q : Query} {qs : List Query} {outcomes : List Outcome} {reply : Reply}
    (hd : reply.delay ≠ 0) (hu : u.unasked ≤ qs.length) (hr : u.unasked = qs.length → u.remainingDelay = 0) :
    u.Nearer ⟨q :: qs, outcomes, some reply⟩ := by
  rcases Nat.lt_or_eq_of_le hu with hl | he
  · exact .inl hl
  · exact .inr ⟨he, by rw [hr he]; exact Nat.pos_of_ne_zero hd⟩

-- A turn brings the task nearer to its end, unless there is nothing that it can do.
theorem run_nearer (h : t.Sound) (s : Store σ) :
    (t.run s).1.Nearer t ∨ (t.run s = (t, s) ∧ (t.isFinished ∨ t.isBlocked s)) := by
  obtain ⟨_ | ⟨q, qs⟩, outcomes, _ | reply⟩ := t
  case nil.none => exact .inr ⟨rfl, .inl rfl⟩
  case nil.some => exact absurd rfl (h reply rfl).1
  case cons.none =>
    exact (advance_nearer outcomes q qs s).imp (fun hl => .inl (Nat.lt_succ_of_le hl)) (.imp_right .inr)
  case cons.some =>
    have hd := (h reply rfl).2
    refine .inl ?_
    simp only [run]
    split
    case isTrue =>
      split
      case isTrue =>
        cases qs
        case nil => exact nearer_of_over hd (Nat.le_refl _) fun _ => rfl
        case cons p qs =>
          have hn := advance_nearer (outcomes ++ [reply.outcome]) p qs (s.settle q.fact reply.outcome)
          rcases hn with hl | ⟨he, _⟩
          · exact .inl (Nat.lt_succ_of_le hl)
          · rw [he]
            exact nearer_of_over hd (Nat.le_refl _) fun _ => rfl
      case isFalse => exact nearer_of_over hd (Nat.zero_le _) fun _ => rfl
    case isFalse =>
      refine .inr ⟨rfl, ?_⟩
      simp only [remainingDelay, Option.map_some, Option.getD_some]
      omega

theorem isUnderWay_of_blocked (h : t.isBlocked s) : ∃ id, s.isUnderWay id := by
  obtain ⟨_ | ⟨q, qs⟩, _, _ | _⟩ := t
  case cons.none => exact ⟨q.fact, h⟩
  all_goals cases h

theorem waiting_of_mem_pending {r : Reading} (h : r ∈ t.pending) : ∃ reply, t.waiting = some reply := by
  obtain ⟨_ | ⟨q, qs⟩, _, _ | reply⟩ := t
  case cons.some => exact ⟨reply, rfl⟩
  all_goals cases h

theorem not_blocked_of_waiting {reply : Reply} (h : t.waiting = some reply) : ¬t.isBlocked s := by
  obtain ⟨_ | ⟨q, qs⟩, _, _ | _⟩ := t
  case nil.some | cons.some => exact nofun
  all_goals cases h

theorem run_finished (h : t.isFinished) : (t.run s).1.isFinished := by
  obtain ⟨_ | _, _, _⟩ := t
  case nil => rfl
  case cons => cases h

end Task

namespace Crew

variable {c d e : Crew σ} {i j : Nat}

theorem isFinished_iff : c.isFinished i ↔ ∀ t, c.tasks[i]? = some t → t.isFinished := by
  simp only [isFinished]
  cases c.tasks[i]? <;> simp

theorem isBlocked_iff : c.isBlocked i ↔ ∃ t, c.tasks[i]? = some t ∧ t.isBlocked c.store := by
  simp only [isBlocked]
  cases c.tasks[i]? <;> simp

theorem allFinished_iff : c.allFinished ↔ ∀ i, c.isFinished i := by
  simp only [allFinished, List.all_eq_true, isFinished_iff]
  exact ⟨fun h i t ht => h t (List.mem_of_getElem? ht),
    fun h t ht => have ⟨i, hi⟩ := List.mem_iff_getElem?.mp ht; h i t hi⟩

-- The task can do something in its turn.
def Free (c : Crew σ) (i : Nat) : Prop :=
  ¬c.isFinished i ∧ ¬c.isBlocked i

def Nearer (c d : Crew σ) : Prop :=
  c.unasked < d.unasked ∨ (c.unasked = d.unasked ∧ c.remainingDelay < d.remainingDelay)

-- All that happened in between is that some stood elsewhere.
def Alike (c d : Crew σ) : Prop :=
  c.tasks = d.tasks ∧ c.store = d.store

theorem Nearer.trans (h : e.Nearer d) (h' : d.Nearer c) : e.Nearer c := by
  unfold Nearer at *
  omega

theorem Nearer.congr_left (h : d.Nearer c) (ha : e.Alike d) : e.Nearer c := by
  simpa only [Nearer, unasked, remainingDelay, ha.1] using h

theorem Nearer.congr_right (h : d.Nearer c) (ha : c.Alike e) : d.Nearer e := by
  simpa only [Nearer, unasked, remainingDelay, ha.1] using h

theorem Alike.trans (h : e.Alike d) (h' : d.Alike c) : e.Alike c :=
  ⟨h.1.trans h'.1, h.2.trans h'.2⟩

theorem Alike.isFinished_eq (h : c.Alike d) (i : Nat) : c.isFinished i = d.isFinished i := by
  rw [isFinished, isFinished, h.1]

theorem Alike.isBlocked_eq (h : c.Alike d) (i : Nat) : c.isBlocked i = d.isBlocked i := by
  rw [isBlocked, isBlocked, h.1, h.2]

theorem Alike.free (h : c.Alike d) (hd : d.Free i) : c.Free i := by
  rwa [Free, h.isFinished_eq, h.isBlocked_eq]

-- What is summed up over tasks of which one changes.
theorem foldr_add_middle (f : Task → Nat) (before after : List Task) (t : Task) :
    (before ++ t :: after).foldr (fun t n => f t + n) 0 =
      f t + (before ++ after).foldr (fun t n => f t + n) 0 := by
  induction before
  case nil => rfl
  case cons u before ih =>
    simp only [List.cons_append, List.foldr_cons, ih]
    omega

theorem turn_nearer (h : ∀ t ∈ c.tasks, t.Sound) (i : Nat) :
    (c.turn i).Nearer c ∨ ((c.turn i).Alike c ∧ ¬c.Free i) := by
  simp only [Crew.turn]
  cases hi : c.tasks[i]?
  case none => exact .inr ⟨⟨rfl, rfl⟩, fun hf => hf.1 (by simp [isFinished, hi])⟩
  case some t =>
    obtain ⟨before, after, hs, hset⟩ := split_of_getElem? hi
    rcases Task.run_nearer (h t (List.mem_of_getElem? hi)) c.store with hn | ⟨he, hn⟩
    case inl =>
      refine .inl ?_
      simp only [Nearer, unasked, remainingDelay, hset]
      rw [hs, foldr_add_middle, foldr_add_middle, foldr_add_middle, foldr_add_middle]
      unfold Task.Nearer at hn
      omega
    case inr =>
      refine .inr ⟨⟨?_, ?_⟩, fun hf => ?_⟩
      · dsimp only
        rw [he, hset, hs]
      · dsimp only
        rw [he]
      · rcases hn with hn | hn
        · exact hf.1 (by simpa [isFinished, hi] using hn)
        · exact hf.2 (by simpa [isBlocked, hi] using hn)

-- Turns bring the crew nearer to its end, unless all are taken by those who can do nothing.
theorem Reaches.nearer (h : c.Reaches d) (hc : ∀ t ∈ c.tasks, t.Sound) : d.Nearer c ∨ d.Alike c := by
  induction h
  case refl => exact .inr ⟨rfl, rfl⟩
  case turn d i hd ih =>
    rcases turn_nearer (hd.sound hc) i with ht | ⟨ht, _⟩
    · exact .inl (ih.elim ht.trans (ht.congr_right ·))
    · exact ih.imp (·.congr_left ht) ht.trans
  case stand ih => exact ih

-- Once a task that can do something has had its turn the crew is nearer to its end.
theorem Reaches.nearer_of_turn (h : c.Reaches d) (hj : c.Free j) (he : (d.turn j).Reaches e)
    (hc : ∀ t ∈ c.tasks, t.Sound) : e.Nearer c := by
  have hd : (d.turn j).Nearer c := by
    rcases h.nearer hc with hn | ha
    · rcases turn_nearer (h.sound hc) j with ht | ⟨ht, _⟩
      · exact ht.trans hn
      · exact hn.congr_left ht
    · exact ((turn_nearer (h.sound hc) j).resolve_right fun ht => ht.2 (ha.free hj)).congr_right ha
  rcases he.nearer ((h.turn j).sound hc) with hn | ha
  · exact hn.trans hd
  · exact hd.congr_left ha

theorem Reaches.allFinished (h : c.Reaches d) (hc : c.allFinished) : d.allFinished :=
  List.all_eq_true.mpr (h.forall_tasks (fun _ _ ht => Task.run_finished ht) (List.all_eq_true.mp hc))

theorem round_nearer (hj : c.Free j) (hc : ∀ t ∈ c.tasks, t.Sound) : c.round.Nearer c := by
  have hl : j < c.tasks.length := by
    refine Nat.lt_of_not_le fun hl => hj.1 ?_
    simp [isFinished, List.getElem?_eq_none hl]
  obtain ⟨before, after, hr⟩ := List.append_of_mem (List.mem_range.mpr hl)
  rw [round, hr, List.foldl_append, List.foldl_cons]
  exact (Reaches.foldl_turn before c).nearer_of_turn hj (.foldl_turn after _) hc

@[simp] theorem turn_line : (c.turn i).line = c.line := by
  simp only [turn]
  split <;> rfl

@[simp] theorem turn_putOff : (c.turn i).putOff = c.putOff := by
  simp only [turn]
  split <;> rfl

@[simp] theorem turn_aside : (c.turn i).aside = c.aside := by
  simp only [turn]
  split <;> rfl

theorem line_serve (c : Crew σ) (i : Nat) : ∃ freed, (c.serve i).line = c.line ++ freed :=
  ⟨_, by simp only [serve, turn_line]; rfl⟩

-- A task that can do something gets its turn before the line ends, or another has gone on before.
theorem serveUntilFinished_nearer {turns : Nat} {before after : List Nat} (hj : c.Free j)
    (hc : ∀ t ∈ c.tasks, t.Sound) (hl : c.line = before ++ j :: after) (ht : before.length < turns) :
    let served := c.serveUntilFinished turns
    served.2.Nearer c ∨ (served.1 ∧ served.2.Alike c ∧
      ∃ before' after', served.2.line = before' ++ j :: after' ∧ before'.length < before.length) := by
  induction turns generalizing c before after
  case zero => omega
  case succ turns ih =>
    cases before
    case nil =>
      refine .inl (Reaches.nearer_of_turn (Reaches.refl.stand after c.putOff c.aside) hj ?_ hc)
      simp only [Crew.serveUntilFinished, hl, List.nil_append]
      split
      · exact Reaches.refl.stand _ _ _
      · exact (Reaches.refl.stand _ _ _).trans (.serveUntilFinished _ _)
    case cons i before =>
      let d := { c with line := before ++ j :: after }.serve i
      have hd : c.Reaches d := (Reaches.refl.stand _ c.putOff c.aside).trans (.serve _ i)
      have he : c.serveUntilFinished (turns + 1) =
          if d.isFinished i then (true, d) else d.serveUntilFinished turns := by
        simp only [Crew.serveUntilFinished, hl, List.cons_append]
        rfl
      rw [he]
      rcases hd.nearer hc with hn | ha
      case inl =>
        refine .inl ?_
        split
        · exact hn
        · exact ((Reaches.serveUntilFinished turns d).nearer (hd.sound hc)).elim (·.trans hn) hn.congr_left
      case inr =>
        have ⟨freed, hf⟩ := line_serve { c with line := before ++ j :: after } i
        have hline : d.line = before ++ j :: (after ++ freed) := by simp [d, hf]
        split
        · exact .inr ⟨rfl, ha, _, _, hline, Nat.lt_succ_self _⟩
        · rcases ih (ha.free hj) (hd.sound hc) hline (by simpa using ht) with hn | ⟨hb, ha', _, _, hl', hlt⟩
          · exact .inl (hn.congr_right ha)
          · exact .inr ⟨hb, ha'.trans ha, _, _, hl', by simp; omega⟩

theorem serveLine_nearer {n : Nat} {before after : List Nat} (hj : c.Free j) (hc : ∀ t ∈ c.tasks, t.Sound)
    (hl : c.line = before ++ j :: after) (hn : before.length < n) : (c.serveLine n).Nearer c := by
  induction n generalizing c before after
  case zero => omega
  case succ n ih =>
    have hs := Reaches.serveUntilFinished (n + 1) c
    have hp := serveUntilFinished_nearer hj hc hl hn
    simp only [Crew.serveLine]
    split
    case _ d he =>
      simp only [he] at hs hp
      rcases hp with hp | ⟨_, ha, _, _, hl', hlt⟩
      · exact ((Reaches.serveLine n d).nearer (hs.sound hc)).elim (·.trans hp) hp.congr_left
      · exact (ih (ha.free hj) (hs.sound hc) hl' (by omega)).congr_right ha
    case _ d he =>
      simp only [he] at hp
      exact hp.resolve_right fun hp => Bool.false_ne_true hp.1

-- Whoever is not finished has a place, and those who stand aside can do nothing.
structure Lined (c : Crew σ) : Prop where
  placed : ∀ i, ¬c.isFinished i → i ∈ c.line ∨ i ∈ c.putOff ∨ i ∈ c.aside
  blocked : ∀ i ∈ c.aside, c.isBlocked i

theorem isFinished_turn_of_ne (hj : j ≠ i) : (c.turn i).isFinished j = c.isFinished j := by
  simp only [turn, isFinished]
  split
  · rfl
  · simp [hj.symm]

-- Whoever has left the line is put off or stands aside, if not finished.
theorem Lined.serve {line : List Nat} (h : c.Lined) (hl : c.line = i :: line) :
    ({ c with line }.serve i).Lined := by
  let d := { c with line }.turn i
  have he : ({ c with line }.serve i).Alike d := ⟨rfl, rfl⟩
  constructor
  case blocked =>
    intro j hj
    simp only [Crew.serve, List.partition_eq_filter_filter] at hj
    rw [he.isBlocked_eq]
    exact (List.mem_filter.mp hj).2
  case placed =>
    intro j hj
    rw [he.isFinished_eq] at hj
    have hp (hij : j ≠ i) : j ∈ line ∨ j ∈ c.putOff ∨ j ∈ c.aside := by
      have hp := h.placed j (by rwa [isFinished_turn_of_ne hij] at hj)
      simpa [hl, hij] using hp
    simp only [Crew.serve, List.partition_eq_filter_filter, turn_line, turn_putOff, turn_aside]
    by_cases hij : j = i <;> grind

-- What a pass leaves as it is until those who were put off join the line.
theorem Lined.serveUntilFinished (h : c.Lined) (turns : Nat) : (c.serveUntilFinished turns).2.Lined := by
  induction turns generalizing c
  case zero => exact h
  case succ turns ih =>
    unfold Crew.serveUntilFinished
    split
    case _ => exact h
    case _ i line hl =>
      dsimp only
      split
      · exact h.serve hl
      · exact ih (h.serve hl)

theorem Lined.serveLine (h : c.Lined) (n : Nat) : (c.serveLine n).Lined := by
  induction n generalizing c
  case zero => exact h
  case succ n ih =>
    have hs := h.serveUntilFinished (n + 1)
    simp only [Crew.serveLine]
    split
    case _ he => exact ih (by simpa only [he] using hs)
    case _ he => simpa only [he] using hs

theorem Lined.rejoin (h : c.Lined) : c.rejoin.Lined where
  placed i hi := by
    rcases h.placed i hi with h | h | h
    · exact .inl (List.mem_append_left _ h)
    · exact .inl (List.mem_append_right _ h)
    · exact .inr (.inr h)
  blocked := h.blocked

-- What a crew is between two passes: whoever has to wait waits for a call that is under way.
structure Going (c : Crew σ) : Prop where
  sound : ∀ t ∈ c.tasks, t.Sound
  owned : ∃ queries, Keeps Store.Owned queries c.tasks c.store
  lined : c.tasks.length ≤ smallSize ∨ (c.Lined ∧ c.putOff = [])

theorem Going.pass (h : c.Going) : c.pass.Going where
  sound := (Reaches.pass c).sound h.sound
  owned := h.owned.imp fun _ => (Reaches.pass c).keeps_errands Store.lasting_owned
  lined := by
    rw [(Reaches.pass c).length_tasks]
    by_cases hs : c.tasks.length ≤ smallSize
    case pos => exact .inl hs
    case neg =>
      simp only [Crew.pass, if_neg hs]
      exact .inr ⟨((h.lined.resolve_left hs).1.serveLine _).rejoin, rfl⟩

-- A task that is blocked waits for one that is not.
theorem Going.exists_free (h : c.Going) (hf : ¬c.allFinished) : ∃ j, c.Free j := by
  have ⟨i, hi⟩ := Classical.not_forall.mp (mt allFinished_iff.mpr hf)
  by_cases hb : c.isBlocked i
  case neg => exact ⟨i, hi, hb⟩
  case pos =>
    have ⟨t, _, ht⟩ := isBlocked_iff.mp hb
    have ⟨id, hu⟩ := Task.isUnderWay_of_blocked ht
    have ⟨_, errands, _, he, _, ho⟩ := h.owned
    have ⟨_, outcome, hp⟩ := ho id hu
    have ⟨e, hm, hp⟩ := List.mem_flatMap.mp hp
    have ⟨reply, hw⟩ := Task.waiting_of_mem_pending hp
    have hm : e.task ∈ c.tasks := he ▸ List.mem_map_of_mem hm
    have ⟨j, hj⟩ := List.mem_iff_getElem?.mp hm
    refine ⟨j, fun hf => (h.sound e.task hm reply hw).1 (isFinished_iff.mp hf e.task hj), fun hb => ?_⟩
    have ⟨u, hu, hb⟩ := isBlocked_iff.mp hb
    cases hj.symm.trans hu
    exact Task.not_blocked_of_waiting hw hb

theorem Going.pass_nearer (h : c.Going) (hf : ¬c.allFinished) : c.pass.Nearer c := by
  have ⟨j, hj⟩ := h.exists_free hf
  by_cases hs : c.tasks.length ≤ smallSize
  case pos =>
    simp only [Crew.pass, if_pos hs]
    exact round_nearer hj h.sound
  case neg =>
    obtain ⟨hl, hp⟩ := h.lined.resolve_left hs
    have hm : j ∈ c.line := (hl.placed j hj.1).resolve_right fun hm => by
      rcases hm with hm | hm
      · simp [hp] at hm
      · exact hj.2 (hl.blocked j hm)
    obtain ⟨before, after, hline⟩ := List.append_of_mem hm
    simp only [Crew.pass, if_neg hs]
    refine Nearer.congr_left (serveLine_nearer hj h.sound hline ?_) ⟨rfl, rfl⟩
    simp only [hline, List.length_append, List.length_cons]
    omega

theorem Going.passesUntilAsked (h : c.Going) (fuel : Nat) : (c.passesUntilAsked fuel).Going := by
  induction fuel generalizing c
  case zero => exact h
  case succ _ ih =>
    unfold Crew.passesUntilAsked
    dsimp only
    split
    · exact h.pass
    · exact ih h.pass

-- The delay that remains is fuel enough to get to the next call.
theorem Going.unasked_passesUntilAsked_lt {fuel : Nat} (h : c.Going) (hd : c.remainingDelay < fuel) :
    (c.passesUntilAsked fuel).allFinished ∨ (c.passesUntilAsked fuel).unasked < c.unasked := by
  induction fuel generalizing c
  case zero => omega
  case succ fuel ih =>
    by_cases hf : c.allFinished
    case pos => exact .inl ((Reaches.passesUntilAsked _ c).allFinished hf)
    case neg =>
      unfold Crew.passesUntilAsked
      dsimp only
      split
      case isTrue hu => exact .inr hu
      case isFalse hu =>
        obtain ⟨he, hl⟩ := (h.pass_nearer hf).resolve_left hu
        exact he ▸ ih h.pass (by omega)

theorem Going.passes {fuel : Nat} (h : c.Going) (hu : c.unasked < fuel) : (c.passes fuel).allFinished := by
  induction fuel generalizing c
  case zero => omega
  case succ fuel ih =>
    simp only [Crew.passes]
    split
    case isTrue hf => exact hf
    case isFalse hf =>
      rcases h.unasked_passesUntilAsked_lt (Nat.lt_add_one c.remainingDelay) with hp | hp
      case inl => exact (Reaches.passes fuel _).allFinished hp
      case inr => exact ih (h.passesUntilAsked _) (by omega)

-- Every crew runs to its end, whatever the delays are.
theorem Going.run (h : c.Going) : c.run.allFinished :=
  h.passes (Nat.lt_add_one _)

theorem going_ofTasks {s : Store σ} (h : s.Idle) (queries : List (List Query)) :
    (ofTasks (queries.map Task.ofQueries) s).Going where
  sound t ht := by
    obtain ⟨qs, _, rfl⟩ := List.mem_map.mp ht
    exact nofun
  owned := ⟨queries, keeps_ofTasks (Store.owned_nil_iff.mpr h)⟩
  lined := by
    refine .inr ⟨⟨fun i hi => .inl (List.mem_range.mpr (Nat.lt_of_not_le fun hl => hi ?_)), nofun⟩, rfl⟩
    exact isFinished_iff.mpr fun t ht => nomatch (List.getElem?_eq_none hl).symm.trans ht

end Crew

namespace Task

variable {I : Store σ → List Reading → List Reading → Prop} {s : Store σ} {before : List Reading}

-- Tasks that run at the same time get an outcome for each query until one does not pass, and leave
-- behind what lasts.
theorem runAll_lasting (hI : Store.Lasting I) (hs : s.Idle) (h : I s before []) (queries : List (List Query)) :
    let result := runAll (queries.map ofQueries) s
    result.1.length = queries.length ∧ (∀ p ∈ queries.zip result.1, Query.Answered p.1 p.2 []) ∧
    I result.2 ((queries.zip result.1).flatMap (fun p => Query.readings p.1 p.2) ++ before) [] := by
  let c := Crew.ofTasks (queries.map ofQueries) s
  have hf : c.run.allFinished := (Crew.going_ofTasks hs queries).run
  have ⟨errands, hq, ht, he, hi⟩ := (Crew.Reaches.run c).keeps_errands (hI.after before) (Crew.keeps_ofTasks h)
  have hf : ∀ e ∈ errands, e.task.isFinished := fun e hm =>
    List.all_eq_true.mp hf e.task (ht ▸ List.mem_map_of_mem hm)
  have hp : errands.flatMap (·.task.pending) = [] :=
    List.flatMap_eq_nil_iff.mpr fun e hm => pending_of_finished (hf e hm)
  have hz : queries.zip (runAll (queries.map ofQueries) s).1 =
      errands.map fun e => (e.queries, e.task.outcomes) := by
    rw [runAll, ← ht, ← hq, List.map_map, List.zip_map']
    rfl
  refine ⟨?_, fun p hm => ?_, ?_⟩
  · rw [runAll, ← ht, ← hq]
    simp
  · obtain ⟨e, he', rfl⟩ := List.mem_map.mp (hz ▸ hm)
    exact List.isEmpty_iff.mp (hf e he') ▸ he e he'
  · rw [hz, List.flatMap_map]
    rw [hp] at hi
    exact hi

end Task
end Troubleshoot
