import Troubleshoot.Proofs.Fact.Finish

namespace Troubleshoot

variable {σ : Type} {calls : σ → List Reading}

-- What was read of one fact.
def outcomesOf (id : String) (readings : List Reading) : List Outcome :=
  readings.filterMap fun r => if r.1 = id then some r.2 else none

section outcomesOf

variable {id i : String} {outcome : Outcome} {rs rs' : List Reading}

@[simp] theorem outcomesOf_nil : outcomesOf id [] = [] := rfl

@[simp] theorem outcomesOf_cons_self : outcomesOf id ((id, outcome) :: rs) = outcome :: outcomesOf id rs := by
  simp [outcomesOf]

theorem outcomesOf_cons_of_ne (h : i ≠ id) : outcomesOf i ((id, outcome) :: rs) = outcomesOf i rs := by
  simp [outcomesOf, h.symm]

@[simp] theorem outcomesOf_append : outcomesOf id (rs ++ rs') = outcomesOf id rs ++ outcomesOf id rs' :=
  List.filterMap_append

theorem mem_outcomesOf : outcome ∈ outcomesOf id rs ↔ (id, outcome) ∈ rs := by
  simp [outcomesOf, List.mem_filterMap]

end outcomesOf

-- Every call of a provider is recorded in the world.
def Facts.Recorded (facts : Facts σ) (calls : σ → List Reading) : Prop :=
  ∀ id f provider, facts.find? id = some f → f.source = .provider provider →
    ∀ w, calls (provider w).2 = calls w ++ [(id, (provider w).1.outcome)]

namespace Store

variable {s t : Store σ} {id i : String} {outcome : Outcome} {reply : Reply}
  {made taken taken' pending pending' : List Outcome}

-- How the calls for a fact, the outcomes that were taken, and those that calls under way will come to
-- make up for each other.
inductive Balances (s : Store σ) (id : String) : List Outcome → List Outcome → List Outcome → Prop
  | silent {taken : List Outcome} (h : ∀ f, s.facts.find? id = some f → ∃ value, f.source = .constant value) :
    Balances s id [] taken []
  | uncached {f : Fact σ} {provider : σ → Reply × σ} {made taken pending : List Outcome}
    (hf : s.facts.find? id = some f) (hs : f.source = .provider provider) (hc : ¬f.cached)
    (h : made.Perm (taken ++ pending)) : Balances s id made taken pending
  | unasked {f : Fact σ} {provider : σ → Reply × σ} (hf : s.facts.find? id = some f)
    (hs : f.source = .provider provider) (hc : f.cached) (ho : s.cells.find? id = none) :
    Balances s id [] [] []
  | underWay {f : Fact σ} {provider : σ → Reply × σ} {outcome : Outcome} (hf : s.facts.find? id = some f)
    (hs : f.source = .provider provider) (hc : f.cached) (ho : s.cells.find? id = some .underWay) :
    Balances s id [outcome] [] [outcome]
  | settled {f : Fact σ} {provider : σ → Reply × σ} {outcome : Outcome} {n : Nat}
    (hf : s.facts.find? id = some f) (hs : f.source = .provider provider) (hc : f.cached)
    (ho : s.cells.find? id = some (.settled outcome)) :
    Balances s id [outcome] (List.replicate (n + 1) outcome) []

namespace Balances

theorem perm (h : s.Balances id made taken pending) (ht : taken.Perm taken') (hp : pending.Perm pending') :
    s.Balances id made taken' pending' := by
  cases h
  case silent h =>
    rw [List.nil_perm.mp hp]
    exact .silent h
  case uncached hf hs hc h => exact .uncached hf hs hc (h.trans (ht.append hp))
  case unasked hf hs hc ho =>
    rw [List.nil_perm.mp ht, List.nil_perm.mp hp]
    exact .unasked hf hs hc ho
  case underWay hf hs hc ho =>
    rw [List.nil_perm.mp ht, ← List.singleton_perm.mp hp]
    exact .underWay hf hs hc ho
  case settled hf hs hc ho =>
    rw [← List.replicate_perm.mp ht, List.nil_perm.mp hp]
    exact .settled hf hs hc ho

theorem congr (h : s.Balances id made taken pending) (hf : t.facts = s.facts)
    (hc : t.cells.find? id = s.cells.find? id) : t.Balances id made taken pending := by
  cases h
  case silent h => exact .silent (hf ▸ h)
  case uncached hf' hs hc' h => exact .uncached (hf ▸ hf') hs hc' h
  case unasked hf' hs hc' ho => exact .unasked (hf ▸ hf') hs hc' (hc ▸ ho)
  case underWay hf' hs hc' ho => exact .underWay (hf ▸ hf') hs hc' (hc ▸ ho)
  case settled hf' hs hc' ho => exact .settled (hf ▸ hf') hs hc' (hc ▸ ho)

theorem read (h : s.Balances id made taken pending) (hr : s.Reads id outcome t) :
    t.Balances id made (outcome :: taken) pending := by
  refine congr ?_ hr.facts (by rw [hr.cells])
  cases h
  case silent h => exact .silent h
  case settled hf hs hc ho =>
    cases hr
    case remembered ho' =>
      cases ho.symm.trans ho'
      exact .settled (n := _ + 1) hf hs hc ho
    all_goals simp_all
  all_goals cases hr <;> simp_all

theorem called (h : s.Balances id made taken pending) (hr : s.Calls id reply t) :
    t.Balances id (made ++ [reply.outcome]) taken (reply.outcome :: pending) := by
  obtain ⟨hf, hs, hc⟩ := hr
  cases h
  case silent h =>
    have ⟨_, hv⟩ := h _ hf
    cases hs.symm.trans hv
  case uncached hf hs hc h =>
    refine .uncached (by simpa using hf) hs hc ?_
    exact (List.perm_append_singleton ..).trans ((h.cons _).trans List.perm_middle.symm)
  case unasked hf hs hc _ => exact .underWay (by simpa using hf) hs hc (find?_cells_setCell_self hf hc)
  case underWay hf' _ hc' ho | settled hf' _ hc' ho =>
    cases hf.symm.trans hf'
    cases (hc hc').symm.trans ho

theorem settle (h : s.Balances id made taken (outcome :: pending)) :
    (s.settle id outcome).Balances id made (outcome :: taken) pending := by
  cases h
  case uncached hf hs hc h => exact .uncached (by simpa using hf) hs hc (h.trans List.perm_middle)
  case underWay hf hs hc ho =>
    refine .settled (n := 0) (by simpa using hf) hs hc ?_
    simpa [Store.settle] using find?_cells_setCell_self hf hc

end Balances

structure Balanced (calls : σ → List Reading) (s : Store σ) (taken pending : List Reading) : Prop where
  recorded : s.facts.Recorded calls
  balances : ∀ id, s.Balances id (outcomesOf id (calls s.world)) (outcomesOf id taken) (outcomesOf id pending)

namespace Balanced

variable {taken pending : List Reading}

theorem reads (h : s.Balanced calls taken pending) (hr : s.Reads id outcome t) :
    t.Balanced calls ((id, outcome) :: taken) pending := by
  refine ⟨hr.facts ▸ h.recorded, fun i => ?_⟩
  rw [hr.world]
  by_cases hi : i = id
  case pos =>
    subst hi
    simpa using (h.balances i).read hr
  case neg =>
    rw [outcomesOf_cons_of_ne hi]
    exact (h.balances i).congr hr.facts (by rw [hr.cells])

theorem calls_world (h : s.Balanced calls taken pending) (hr : s.Calls id reply t) :
    calls t.world = calls s.world ++ [(id, reply.outcome)] := by
  cases hr
  case intro hf hs _ => rw [setCell_world, h.recorded _ _ _ hf hs]

theorem called (h : s.Balanced calls taken pending) (hr : s.Calls id reply t) :
    t.Balanced calls taken ((id, reply.outcome) :: pending) := by
  refine ⟨hr.facts ▸ h.recorded, fun i => ?_⟩
  rw [h.calls_world hr, outcomesOf_append]
  by_cases hi : i = id
  case pos =>
    subst hi
    simpa using (h.balances i).called hr
  case neg =>
    rw [outcomesOf_cons_of_ne hi, outcomesOf_cons_of_ne hi, outcomesOf_nil, List.append_nil]
    refine (h.balances i).congr hr.facts ?_
    cases hr
    rw [find?_cells_setCell_of_ne hi]

theorem settle (h : s.Balanced calls taken ((id, outcome) :: pending)) :
    (s.settle id outcome).Balanced calls ((id, outcome) :: taken) pending := by
  refine ⟨by simpa using h.recorded, fun i => ?_⟩
  rw [settle_world]
  by_cases hi : i = id
  case pos =>
    subst hi
    rw [outcomesOf_cons_self]
    exact (outcomesOf_cons_self ▸ h.balances i).settle
  case neg =>
    rw [outcomesOf_cons_of_ne hi]
    exact (outcomesOf_cons_of_ne hi ▸ h.balances i).congr settle_facts
      (by simp [Store.settle, find?_cells_setCell_of_ne hi])

end Balanced

theorem lasting_balanced : Lasting (Balanced calls) where
  perm h ht hp := ⟨h.recorded, fun id => (h.balances id).perm (ht.filterMap _) (hp.filterMap _)⟩
  read h hr := h.reads hr
  called h hr := h.called hr
  settled h := h.settle

end Store

-- One call for all who asked, if anybody did.
structure SharesCall (id : String) (calls taken : List Reading) : Prop where
  once : (outcomesOf id calls).length ≤ 1
  once_iff : (outcomesOf id calls).length = 1 ↔ id ∈ taken.map Prod.fst
  shared : ∀ outcome, (id, outcome) ∈ taken → outcomesOf id calls = [outcome]

-- How the calls make up for the readings that were taken.
structure Accounts (facts : Facts σ) (calls taken : List Reading) : Prop where
  cached : ∀ id f provider, facts.find? id = some f → f.source = .provider provider → f.cached →
    SharesCall id calls taken
  uncached : ∀ id f provider, facts.find? id = some f → f.source = .provider provider → ¬f.cached →
    (outcomesOf id calls).Perm (outcomesOf id taken)
  silent : ∀ id, (∀ f, facts.find? id = some f → ∃ value, f.source = .constant value) →
    outcomesOf id calls = []

namespace Store

variable {s : Store σ} {id : String} {f : Fact σ} {provider : σ → Reply × σ} {taken : List Reading}

theorem Balances.of_silent {made taken pending : List Outcome} (h : s.Balances id made taken pending)
    (hi : ∀ f, s.facts.find? id = some f → ∃ value, f.source = .constant value) : made = [] := by
  cases h
  case silent => rfl
  case unasked => rfl
  case uncached hf hs _ _ | underWay hf hs _ _ | settled hf hs _ _ =>
    have ⟨_, hv⟩ := hi _ hf
    cases hs.symm.trans hv

theorem Balances.of_uncached {made taken pending : List Outcome} (h : s.Balances id made taken pending)
    (hf : s.facts.find? id = some f) (hs : f.source = .provider provider) (hc : ¬f.cached) :
    made.Perm (taken ++ pending) := by
  cases h
  case silent hi =>
    have ⟨_, hv⟩ := hi _ hf
    cases hs.symm.trans hv
  case uncached h => exact h
  case unasked hf' _ hc' _ | underWay hf' _ hc' _ | settled hf' _ hc' _ =>
    cases hf.symm.trans hf'
    exact absurd hc' hc

theorem Balances.of_cached {made taken : List Outcome} (h : s.Balances id made taken [])
    (hf : s.facts.find? id = some f) (hs : f.source = .provider provider) (hc : f.cached) :
    (made = [] ∧ taken = []) ∨ ∃ outcome n, made = [outcome] ∧ taken = List.replicate (n + 1) outcome := by
  cases h
  case silent hi =>
    have ⟨_, hv⟩ := hi _ hf
    cases hs.symm.trans hv
  case uncached hf' _ hc' _ =>
    cases hf.symm.trans hf'
    exact absurd hc hc'
  case unasked => exact .inl ⟨rfl, rfl⟩
  case settled => exact .inr ⟨_, _, rfl, rfl⟩

theorem Balanced.accounts (h : s.Balanced calls taken []) : Accounts s.facts (calls s.world) taken where
  silent id hi := (h.balances id).of_silent hi
  uncached id f provider hf hs hc := by simpa using (h.balances id).of_uncached hf hs hc
  cached id f provider hf hs hc := by
    have mem : id ∈ taken.map Prod.fst ↔ outcomesOf id taken ≠ [] := by
      simp [outcomesOf, List.filterMap_eq_nil_iff]
    rcases (h.balances id).of_cached hf hs hc with ⟨hm, ht⟩ | ⟨outcome, n, hm, ht⟩
    case inl =>
      refine ⟨by simp [hm], by simp [mem, hm, ht], fun o ho => ?_⟩
      simp [← mem_outcomesOf, ht] at ho
    case inr =>
      refine ⟨by simp [hm], by simp [mem, hm, ht, List.replicate_succ], fun o ho => ?_⟩
      have ho := mem_outcomesOf.mpr ho
      rw [ht] at ho
      rw [hm, List.eq_of_mem_replicate ho]

-- Asks for several facts at the same time, again and again.
def getAll : List (List String) → Store σ → List (List Outcome) × Store σ
  | [], s => ([], s)
  | ids :: gets, s =>
    let (outcomes, s) := s.get ids
    let (later, s) := getAll gets s
    (outcomes :: later, s)

-- What is read if each asks for one fact.
theorem readings_singles {queries : List Query} {outcomes : List (List Outcome)}
    (hl : outcomes.length = queries.length)
    (ha : ∀ p ∈ (queries.map ([·])).zip outcomes, Query.Answered p.1 p.2 []) :
    outcomes.flatten.length = queries.length ∧
    ((queries.map ([·])).zip outcomes).flatMap (fun p => Query.readings p.1 p.2) =
      Query.readings queries outcomes.flatten := by
  induction queries generalizing outcomes
  case nil =>
    cases List.eq_nil_of_length_eq_zero hl
    exact ⟨rfl, rfl⟩
  case cons q queries ih =>
    match outcomes with
    | [] => cases hl
    | os :: outcomes =>
      simp only [List.map_cons, List.zip_cons_cons, List.forall_mem_cons] at ha
      obtain ⟨outcome, rfl⟩ := Query.Answered.of_single ha.1
      have ⟨hl, hr⟩ := ih (Nat.succ.inj hl) ha.2
      refine ⟨by simp [hl], ?_⟩
      simp only [List.map_cons, List.zip_cons_cons, List.flatMap_cons, hr]
      rfl

variable {I : Store σ → List Reading → List Reading → Prop} {before : List Reading}

-- Everybody who asks for one fact gets one outcome.
theorem get_lasting (hI : Lasting I) (hs : s.Idle) (h : I s before []) (ids : List String) :
    (s.get ids).1.length = ids.length ∧ I (s.get ids).2 (ids.zip (s.get ids).1 ++ before) [] := by
  let queries : List Query := ids.map fun id => ⟨id, fun _ => true⟩
  have hg : s.get ids = let result := Task.runAll ((queries.map ([·])).map Task.ofQueries) s
      (result.1.flatten, result.2) := by
    simp [get, queries, Function.comp_def]
  have ⟨hl, ha, hi⟩ := Task.runAll_lasting hI hs h (queries.map ([·]))
  have ⟨hn, hr⟩ := readings_singles (by simpa using hl) ha
  rw [hr, Query.readings] at hi
  simp only [hg]
  exact ⟨by simpa [queries] using hn, by simpa [queries, Function.comp_def] using hi⟩

theorem get_idle (hs : s.Idle) (ids : List String) : (s.get ids).2.Idle :=
  have h : s.Owned [] [] := owned_nil_iff.mpr hs
  owned_nil_iff.mp (get_lasting lasting_owned hs h ids).2

theorem getAll_lasting (hI : Lasting I) (hs : s.Idle) (h : I s before []) (gets : List (List String)) :
    (s.getAll gets).1.map List.length = gets.map List.length ∧
    I (s.getAll gets).2 (gets.flatten.zip (s.getAll gets).1.flatten ++ before) [] := by
  induction gets generalizing s before
  case nil => exact ⟨rfl, h⟩
  case cons ids gets ih =>
    have ⟨hl, hg⟩ := get_lasting hI hs h ids
    have ⟨hm, hr⟩ := ih (get_idle hs ids) hg
    refine ⟨by simp [getAll, hl, hm], ?_⟩
    simp only [getAll, List.flatten_cons]
    rw [List.zip_append hl.symm, List.append_assoc]
    exact hI.perm hr (List.perm_append_comm_assoc ..) (.refl _)

end Store
end Troubleshoot
