import Troubleshoot.Proofs.Fact.Finish

namespace Troubleshoot

variable {σ : Type}

namespace Facts

-- What asking for a known fact comes to in a world.
def answer? (facts : Facts σ) (world : σ) (id : String) : Option Outcome :=
  (facts.find? id).map fun f => match f.source with
    | .constant value => .ok value
    | .provider provider => (provider world).1.outcome

-- What asking for any fact comes to.
def outcome (facts : Facts σ) (lenient : Bool) (world : σ) (id : String) : Outcome :=
  (facts.answer? world id).getD (if lenient then .ok .null else .error (.undefined id))

-- A call changes nothing about what other facts come to, and nothing about the fact itself if that is
-- not cached.
def Steady (facts : Facts σ) : Prop :=
  ∀ id f provider, facts.find? id = some f → f.source = .provider provider →
    ∀ w i, (i = id → ¬f.cached) → facts.answer? (provider w).2 i = facts.answer? w i

variable {facts : Facts σ} {lenient : Bool} {world : σ} {id : String} {f : Fact σ}

theorem outcome_of_unknown (hf : facts.find? id = none) :
    facts.outcome lenient world id = if lenient then .ok .null else .error (.undefined id) := by
  simp [outcome, answer?, hf]

theorem outcome_of_constant {value : Json} (hf : facts.find? id = some f) (hs : f.source = .constant value) :
    facts.outcome lenient world id = .ok value := by
  simp [outcome, answer?, hf, hs]

theorem outcome_of_provider {provider : σ → Reply × σ} (hf : facts.find? id = some f)
    (hs : f.source = .provider provider) : facts.outcome lenient world id = (provider world).1.outcome := by
  simp [outcome, answer?, hf, hs]

end Facts

-- A provider that replies by a script. All that it knows of the world is how often it was called.
def Source.scripted (id : String) (script : Nat → Reply) : Source (String → Nat) :=
  .provider fun calls => (script (calls id), fun i => if i = id then calls i + 1 else calls i)

-- A provider, if there is one, replies by a script, and comes to the same each time unless it is cached.
def Fact.Scripted (id : String) (f : Fact (String → Nat)) : Prop :=
  ∀ provider, f.source = .provider provider →
    ∃ script, f.source = .scripted id script ∧ (¬f.cached → ∀ m n, (script m).outcome = (script n).outcome)

namespace Facts

def Scripted (facts : Facts (String → Nat)) : Prop :=
  ∀ id f, facts.find? id = some f → f.Scripted id

theorem scripted_empty : Scripted ∅ := by
  intro id f hf
  simp at hf

theorem Scripted.add {facts : Facts (String → Nat)} {f : Fact (String → Nat)} (h : facts.Scripted)
    (hf : f.Scripted f.id) : (facts.add f).Scripted := by
  intro id g hg
  rw [Facts.add, Table.find?_insert] at hg
  split at hg
  case isTrue hi =>
    cases hg
    exact hi ▸ hf
  case isFalse => exact h id g hg

theorem Scripted.steady {facts : Facts (String → Nat)} (h : facts.Scripted) : facts.Steady := by
  intro id f provider hf hs calls i hi
  have ⟨script, he, _⟩ := h id f hf provider hs
  cases hs.symm.trans he
  simp only [answer?]
  cases hg : facts.find? i
  case none => rfl
  case some g =>
    obtain ⟨_, source, cached, _⟩ := g
    cases source
    case constant => rfl
    case provider call =>
      have ⟨script', he', hc⟩ := h i _ hg call rfl
      cases he'
      by_cases hid : i = id
      case pos =>
        subst hid
        cases hf.symm.trans hg
        simp [hc (hi rfl) _ (calls i)]
      case neg => simp [hid]

end Facts

namespace Store

variable {s t : Store σ} {id i : String} {outcome : Outcome} {reply : Reply} {cell : Cell}

theorem find?_observed_observe {value : Json} :
    (s.observe id outcome).observed.find? i = some value ↔
      (i = id ∧ outcome = .ok value) ∨ (¬(i = id ∧ ∃ v, outcome = .ok v) ∧ s.observed.find? i = some value) := by
  cases outcome
  case error => simp [observe]
  case ok v =>
    simp only [observe, Table.find?_insert]
    by_cases hi : i = id <;> simp [hi]

-- No call was made yet that counts for all who ask for the fact.
def Unasked (s : Store σ) (id : String) : Prop :=
  ∀ f, s.facts.find? id = some f → f.cached → s.cells.find? id = none

theorem Unasked.of_cells (h : t.Unasked id) (hf : t.facts = s.facts) (hc : t.cells = s.cells) : s.Unasked id := by
  rwa [Unasked, hf, hc] at h

-- Who is unasked once a cell is set was so before, and if the cell is theirs they are not cached.
theorem Unasked.of_setCell (h : (s.setCell id cell).Unasked i) :
    s.Unasked i ∧ (i = id → ∀ f, s.facts.find? id = some f → ¬f.cached) := by
  rw [Unasked, setCell_facts] at h
  by_cases hi : i = id
  case pos =>
    subst hi
    have hn (f : Fact σ) (hf : s.facts.find? i = some f) : ¬f.cached := fun hc =>
      nomatch (h f hf hc).symm.trans (find?_cells_setCell_self hf hc)
    exact ⟨fun f hf hc => absurd hc (hn f hf), fun _ => hn⟩
  case neg => exact ⟨fun f hf hc => (find?_cells_setCell_of_ne hi).symm.trans (h f hf hc), fun he => absurd he hi⟩

-- All outcomes are what they would have been at the start, and the values among them that come from
-- known facts are noted.
structure Foretold (facts : Facts σ) (lenient : Bool) (start : σ) (s : Store σ) (taken pending : List Reading) :
    Prop where
  facts_eq : s.facts = facts
  lenient_eq : s.lenient = lenient
  ahead : ∀ id, s.Unasked id → facts.answer? s.world id = facts.answer? start id
  kept : ∀ id outcome, s.cells.find? id = some (.settled outcome) → outcome = facts.outcome lenient start id
  past : ∀ r ∈ taken, r.2 = facts.outcome lenient start r.1
  coming : ∀ r ∈ pending, facts.contains r.1 ∧ r.2 = facts.outcome lenient start r.1
  noted : ∀ id value, s.observed.find? id = some value ↔ facts.contains id ∧ (id, .ok value) ∈ taken

variable {facts : Facts σ} {lenient : Bool} {start : σ} {taken pending : List Reading}

namespace Foretold

-- What a known fact came to is noted.
theorem noted_observe (h : s.Foretold facts lenient start taken pending) (hf : facts.contains id)
    (ho : outcome = facts.outcome lenient start id) (i : String) (value : Json) :
    (s.observe id outcome).observed.find? i = some value ↔
      facts.contains i ∧ (i, .ok value) ∈ (id, outcome) :: taken := by
  rw [find?_observed_observe, h.noted, List.mem_cons]
  by_cases hi : i = id
  case neg => simp [hi]
  case pos =>
    subst hi
    have hp (hm : (i, .ok value) ∈ taken) : outcome = .ok value := ho.trans (h.past _ hm).symm
    cases outcome
    case error => simp
    case ok v => grind

theorem outcome_of_reads (h : s.Foretold facts lenient start taken pending) (hr : s.Reads id outcome t) :
    outcome = facts.outcome lenient start id := by
  cases hr
  case unknown hf => rw [h.lenient_eq, Facts.outcome_of_unknown (h.facts_eq ▸ hf)]
  case constant hf hs => rw [Facts.outcome_of_constant (h.facts_eq ▸ hf) hs]
  case remembered ho => exact h.kept id _ ho

theorem reads (h : s.Foretold facts lenient start taken pending) (hr : s.Reads id outcome t) :
    t.Foretold facts lenient start ((id, outcome) :: taken) pending where
  facts_eq := hr.facts.trans h.facts_eq
  lenient_eq := hr.lenient.trans h.lenient_eq
  ahead i hi := hr.world ▸ h.ahead i (hi.of_cells hr.facts hr.cells)
  kept i o hc := h.kept i o (hr.cells ▸ hc)
  past := List.forall_mem_cons.mpr ⟨h.outcome_of_reads hr, h.past⟩
  coming := h.coming
  noted i value := by
    have ho := h.outcome_of_reads hr
    cases hr
    case unknown hf =>
      have hi : i ≠ id ∨ ¬facts.contains i := by
        by_cases hi : i = id
        · exact .inr (by simp [hi, Table.contains, h.facts_eq ▸ hf])
        · exact .inl hi
      rw [h.noted, List.mem_cons]
      grind
    case constant hf _ | remembered hf _ _ _ =>
      exact h.noted_observe (by simp [Table.contains, h.facts_eq ▸ hf]) ho i value

-- A cached fact was not called before, and no other changes.
theorem outcome_of_calls (h : s.Foretold facts lenient start taken pending) (hr : s.Calls id reply t) :
    facts.contains id ∧ reply.outcome = facts.outcome lenient start id := by
  obtain @⟨f, provider, hf, hp, hc⟩ := hr
  have hu : s.Unasked id := fun g hg hd => hc (Option.some.inj (hf.symm.trans hg) ▸ hd)
  rw [h.facts_eq] at hf
  have ho : facts.outcome lenient s.world id = (provider s.world).1.outcome := Facts.outcome_of_provider hf hp
  exact ⟨by simp [Table.contains, hf], by rw [← ho, Facts.outcome, h.ahead id hu, Facts.outcome]⟩

theorem called (hs : facts.Steady) (h : s.Foretold facts lenient start taken pending) (hr : s.Calls id reply t) :
    t.Foretold facts lenient start taken ((id, reply.outcome) :: pending) := by
  have hc := h.outcome_of_calls hr
  obtain @⟨f, provider, hf, hp, _⟩ := hr
  obtain rfl := h.facts_eq
  refine ⟨setCell_facts, setCell_lenient.trans h.lenient_eq, fun i hi => ?_, fun i o hi => ?_, h.past,
    List.forall_mem_cons.mpr ⟨hc, h.coming⟩, by rw [setCell_observed]; exact h.noted⟩
  · have ⟨hu, hn⟩ := hi.of_setCell
    rw [setCell_world, hs id f provider hf hp s.world i fun he => hn he f hf]
    exact h.ahead i hu
  · rcases find?_cells_of_setCell hi with ⟨_, he, _⟩ | ⟨_, hi⟩
    · cases he
    · exact h.kept i o hi

theorem settle (h : s.Foretold facts lenient start taken ((id, outcome) :: pending)) :
    (s.settle id outcome).Foretold facts lenient start ((id, outcome) :: taken) pending := by
  have ⟨⟨hf, ho⟩, hp⟩ := List.forall_mem_cons.mp h.coming
  obtain rfl := h.facts_eq
  refine ⟨settle_facts, settle_lenient.trans h.lenient_eq, fun i hi => ?_, fun i o hi => ?_,
    List.forall_mem_cons.mpr ⟨ho, h.past⟩, hp, fun i value => ?_⟩
  · rw [settle_world]
    exact h.ahead i (hi.of_cells observe_facts observe_cells).of_setCell.1
  · rw [Store.settle, observe_cells] at hi
    rcases find?_cells_of_setCell hi with ⟨rfl, he, _⟩ | ⟨_, hi⟩
    · cases he
      exact ho
    · exact h.kept i o hi
  · rw [settle_observed]
    exact h.noted_observe hf ho i value

end Foretold

theorem lasting_foretold (hs : facts.Steady) : Lasting (Foretold facts lenient start) where
  perm h ht hp := { h with
    past := fun r hr => h.past r (ht.mem_iff.mpr hr)
    coming := fun r hr => h.coming r (hp.mem_iff.mpr hr)
    noted := fun id value => by rw [h.noted, ht.mem_iff] }
  read h hr := h.reads hr
  called h hr := h.called hs hr
  settled h := h.settle

theorem foretold_start (facts : Facts σ) (lenient : Bool) (world : σ) :
    (Store.start facts lenient world).Foretold facts lenient world [] [] := by
  refine ⟨rfl, rfl, fun _ _ => rfl, fun _ _ h => ?_, List.forall_mem_nil _, List.forall_mem_nil _,
    fun id value => ?_⟩
  · simp [Store.start] at h
  · simp [Store.start]

end Store
end Troubleshoot
