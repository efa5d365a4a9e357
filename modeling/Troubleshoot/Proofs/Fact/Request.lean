import Troubleshoot.Fact.Store

namespace Troubleshoot

variable {σ : Type}

-- A fact that somebody asked for, and what that came to.
abbrev Reading := String × Outcome

namespace Store

variable {s t : Store σ} {id i : String} {cell : Cell} {outcome : Outcome} {reply : Reply}

@[simp] theorem observe_facts : (s.observe id outcome).facts = s.facts := by
  cases outcome <;> rfl

@[simp] theorem observe_lenient : (s.observe id outcome).lenient = s.lenient := by
  cases outcome <;> rfl

@[simp] theorem observe_cells : (s.observe id outcome).cells = s.cells := by
  cases outcome <;> rfl

@[simp] theorem observe_world : (s.observe id outcome).world = s.world := by
  cases outcome <;> rfl

@[simp] theorem setCell_facts : (s.setCell id cell).facts = s.facts := by
  simp only [setCell]
  split <;> rfl

@[simp] theorem setCell_lenient : (s.setCell id cell).lenient = s.lenient := by
  simp only [setCell]
  split <;> rfl

@[simp] theorem setCell_world : (s.setCell id cell).world = s.world := by
  simp only [setCell]
  split <;> rfl

@[simp] theorem setCell_observed : (s.setCell id cell).observed = s.observed := by
  simp only [setCell]
  split <;> rfl

@[simp] theorem settle_facts : (s.settle id outcome).facts = s.facts := by
  simp [settle]

@[simp] theorem settle_lenient : (s.settle id outcome).lenient = s.lenient := by
  simp [settle]

@[simp] theorem settle_world : (s.settle id outcome).world = s.world := by
  simp [settle]

theorem settle_observed : (s.settle id outcome).observed = (s.observe id outcome).observed := by
  cases outcome <;> simp [settle, observe]

theorem setCell_setCell {cell' : Cell} : (s.setCell id cell).setCell id cell' = s.setCell id cell' := by
  cases hf : s.facts.find? id
  case none => simp [setCell, hf]
  case some f =>
    obtain ⟨_, _, cached, _⟩ := f
    cases cached <;> simp [setCell, hf, Table.insert_insert]

-- That a call was under way leaves no mark once it is over.
theorem settle_setCell : (s.setCell id cell).settle id outcome = s.settle id outcome := by
  simp only [settle, setCell_setCell]

-- Nothing but the cell of the fact itself is set, and that only if the fact is cached.
theorem find?_cells_setCell_of_ne (hi : i ≠ id) : (s.setCell id cell).cells.find? i = s.cells.find? i := by
  simp only [setCell]
  split
  · simp [Table.find?_insert, hi]
  · rfl

theorem find?_cells_setCell_self {f : Fact σ} (hf : s.facts.find? id = some f) (hc : f.cached) :
    (s.setCell id cell).cells.find? id = some cell := by
  obtain ⟨_, _, cached, _⟩ := f
  cases hc
  simp [setCell, hf, Table.find?_insert]

theorem setCell_of_uncached (h : ∀ f, s.facts.find? id = some f → ¬f.cached) : s.setCell id cell = s := by
  simp only [setCell]
  split
  case _ hf => exact absurd rfl (h _ hf)
  case _ => rfl

theorem find?_cells_of_setCell {c : Cell} (h : (s.setCell id cell).cells.find? i = some c) :
    (i = id ∧ c = cell ∧ ∃ f, s.facts.find? i = some f ∧ f.cached) ∨
    ((i = id → ∀ f, s.facts.find? i = some f → ¬f.cached) ∧ s.cells.find? i = some c) := by
  by_cases hi : i = id
  case neg => exact .inr ⟨fun he => absurd he hi, find?_cells_setCell_of_ne hi ▸ h⟩
  case pos =>
    subst hi
    by_cases hc : ∃ f, s.facts.find? i = some f ∧ f.cached
    case pos =>
      obtain ⟨f, hf, hd⟩ := hc
      cases (find?_cells_setCell_self hf hd).symm.trans h
      exact .inl ⟨rfl, rfl, f, hf, hd⟩
    case neg =>
      have hn (f : Fact σ) (hf : s.facts.find? i = some f) : ¬f.cached := fun hd => hc ⟨f, hf, hd⟩
      exact .inr ⟨fun _ => hn, setCell_of_uncached hn ▸ h⟩

theorem isUnderWay_iff : s.isUnderWay id ↔ s.cells.find? id = some .underWay := by
  simp only [isUnderWay]
  split <;> simp_all

section request

variable {priority : Int64} {cached : Bool} {provider : σ → Reply × σ} {value : Json}

theorem request_of_unknown (hf : s.facts.find? id = none) :
    s.request id = (.ready (if s.lenient then .ok .null else .error (.undefined id)), s) := by
  simp [request, hf]

theorem request_of_constant (hf : s.facts.find? id = some ⟨i, .constant value, cached, priority⟩) :
    s.request id = (.ready (.ok value), s.observe id (.ok value)) := by
  simp [request, hf]

theorem request_of_uncached (hf : s.facts.find? id = some ⟨i, .provider provider, false, priority⟩) :
    s.request id = s.call id provider := by
  simp [request, hf]

theorem request_of_settled (hf : s.facts.find? id = some ⟨i, .provider provider, true, priority⟩)
    (hc : s.cells.find? id = some (.settled outcome)) : s.request id = (.ready outcome, s.observe id outcome) := by
  simp [request, hf, hc]

theorem request_of_underWay (hf : s.facts.find? id = some ⟨i, .provider provider, true, priority⟩)
    (hc : s.cells.find? id = some .underWay) : s.request id = (.blocked, s) := by
  simp [request, hf, hc]

theorem request_of_unasked (hf : s.facts.find? id = some ⟨i, .provider provider, true, priority⟩)
    (hc : s.cells.find? id = none) : s.request id = s.call id provider := by
  simp [request, hf, hc]

end request

-- An outcome can be had without a call.
inductive Reads (s : Store σ) (id : String) : Outcome → Store σ → Prop
  | unknown (hf : s.facts.find? id = none) :
    Reads s id (if s.lenient then .ok .null else .error (.undefined id)) s
  | constant {f : Fact σ} {value : Json} (hf : s.facts.find? id = some f) (hs : f.source = .constant value) :
    Reads s id (.ok value) (s.observe id (.ok value))
  | remembered {f : Fact σ} {provider : σ → Reply × σ} {outcome : Outcome}
    (hf : s.facts.find? id = some f) (hs : f.source = .provider provider) (hc : f.cached)
    (ho : s.cells.find? id = some (.settled outcome)) :
    Reads s id outcome (s.observe id outcome)

-- A call has to be made, and is under way then.
inductive Calls (s : Store σ) (id : String) : Reply → Store σ → Prop
  | intro {f : Fact σ} {provider : σ → Reply × σ} (hf : s.facts.find? id = some f)
    (hs : f.source = .provider provider) (hc : f.cached → s.cells.find? id = none) :
    Calls s id (provider s.world).1 ({ s with world := (provider s.world).2 }.setCell id .underWay)

-- What a request can come to. A call with an answer at once is over at once.
inductive Answers (s : Store σ) (id : String) : Response × Store σ → Prop
  | read {outcome : Outcome} {t : Store σ} (h : s.Reads id outcome t) : Answers s id (.ready outcome, t)
  | answered {reply : Reply} {t : Store σ} (h : s.Calls id reply t) (hd : reply.delay = 0) :
    Answers s id (.ready reply.outcome, t.settle id reply.outcome)
  | called {reply : Reply} {t : Store σ} (h : s.Calls id reply t) (hd : reply.delay ≠ 0) :
    Answers s id (.called reply, t)
  | blocked (h : s.isUnderWay id) : Answers s id (.blocked, s)

theorem Calls.answers (h : s.Calls id reply t) :
    s.Answers id (if reply.delay = 0 then (.ready reply.outcome, t.settle id reply.outcome)
      else (.called reply, t)) := by
  split
  case isTrue hd => exact .answered h hd
  case isFalse hd => exact .called h hd

theorem answers_request (s : Store σ) (id : String) : s.Answers id (s.request id) := by
  cases hf : s.facts.find? id
  case none => exact request_of_unknown hf ▸ .read (.unknown hf)
  case some f =>
    obtain ⟨_, source, cached, _⟩ := f
    cases source
    case constant => exact request_of_constant hf ▸ .read (.constant hf rfl)
    case provider provider =>
      have hcall (hc : cached → s.cells.find? id = none) : s.Answers id (s.call id provider) := by
        simpa only [call, settle_setCell] using (Calls.intro hf rfl hc).answers
      cases cached
      case false => exact request_of_uncached hf ▸ hcall nofun
      case true =>
        cases hc : s.cells.find? id
        case none => exact request_of_unasked hf hc ▸ hcall fun _ => hc
        case some cell =>
          cases cell
          case settled => exact request_of_settled hf hc ▸ .read (.remembered hf rfl rfl hc)
          case underWay => exact request_of_underWay hf hc ▸ .blocked (isUnderWay_iff.mpr hc)

theorem Reads.facts (h : s.Reads id outcome t) : t.facts = s.facts := by
  cases h <;> simp

theorem Reads.lenient (h : s.Reads id outcome t) : t.lenient = s.lenient := by
  cases h <;> simp

theorem Reads.cells (h : s.Reads id outcome t) : t.cells = s.cells := by
  cases h <;> simp

theorem Reads.world (h : s.Reads id outcome t) : t.world = s.world := by
  cases h <;> simp

theorem Calls.facts (h : s.Calls id reply t) : t.facts = s.facts := by
  cases h
  simp

-- What is known of a store, of the readings taken from it, and of the readings that the calls under
-- way will come to, and stays known whoever asks for whatever next.
structure Lasting (I : Store σ → List Reading → List Reading → Prop) : Prop where
  perm {s taken taken' pending pending'} :
    I s taken pending → taken.Perm taken' → pending.Perm pending' → I s taken' pending'
  read {s t id outcome taken pending} :
    I s taken pending → s.Reads id outcome t → I t ((id, outcome) :: taken) pending
  called {s t id reply taken pending} :
    I s taken pending → s.Calls id reply t → I t taken ((id, reply.outcome) :: pending)
  settled {s id outcome taken pending} :
    I s taken ((id, outcome) :: pending) → I (s.settle id outcome) ((id, outcome) :: taken) pending

-- What was read before counts, too.
theorem Lasting.after {I : Store σ → List Reading → List Reading → Prop} (h : Lasting I)
    (before : List Reading) : Lasting fun s taken pending => I s (taken ++ before) pending where
  perm hi ht hp := h.perm hi (ht.append_right before) hp
  read hi hr := h.read hi hr
  called hi hr := h.called hi hr
  settled hi := h.settled hi

-- Nobody who asks for facts adds any.
def Holds (facts : Facts σ) (s : Store σ) (_ _ : List Reading) : Prop :=
  s.facts = facts

theorem lasting_holds (facts : Facts σ) : Lasting (Holds facts) where
  perm h _ _ := h
  read h hr := hr.facts.trans h
  called h hr := hr.facts.trans h
  settled h := settle_facts.trans h

end Store
end Troubleshoot
