import Troubleshoot.Proofs.Latest
import Troubleshoot.Session.Compiled

namespace Troubleshoot

variable {υ : Type}

-- What is to be bound: an answer of the caller, or what a link needs.
inductive Registration where
  | preset (id : String) (value : Json)
  | question (id : String)
  | confirmation (s : Solution) (c : Confirmation)

namespace Registration

def id : Registration → String
  | preset id _ => id
  | question id => id
  | confirmation s c => c.factId s.id

-- What is bound no matter what was bound before. A question is not: it gives way.
def firm? : Registration → Option (String × Binding.Kind)
  | preset id value => some (id, .preset value)
  | question _ => none
  | confirmation s c => some (c.factId s.id, .confirmation s c)

def question? : Registration → Option String
  | question id => some id
  | _ => none

-- The number of priorities given out, if some ids are bound already.
def taken (bound : List String) : List Registration → Nat
  | [] => 0
  | preset id _ :: rs => taken (id :: bound) rs
  | question id :: rs => if id ∈ bound then taken bound rs else taken (id :: bound) rs + 1
  | confirmation s c :: rs => taken (c.factId s.id :: bound) rs + 1

-- Answers of the caller take none.
theorem taken_append_presets (rs : List Registration) (presets : List (String × Json)) (bound : List String) :
    taken bound (rs ++ presets.map fun (id, value) => preset id value) = taken bound rs := by
  induction rs generalizing bound
  case cons r rs ih => cases r <;> simp only [List.cons_append, taken, ih]
  case nil =>
    induction presets generalizing bound
    case nil => rfl
    case cons e presets ih => exact ih (e.1 :: bound)

end Registration

namespace Settings

-- So many priorities can be given out before the lowest number of 64 bits is passed.
def Leaves (s : Settings) (n : Nat) : Prop :=
  Int64.minValue.toInt ≤ s.factPriorityStart.toInt - n

instance (s : Settings) (n : Nat) : Decidable (s.Leaves n) :=
  inferInstanceAs (Decidable (_ ≤ _))

end Settings

namespace Bindings

variable {b : Bindings υ} {r : Registration} {rs : List Registration}

-- An id is bound under the priority that is next, and the one after it is next then.
def lower (b : Bindings υ) (id : String) (kind : Binding.Kind) : Bindings υ :=
  { b with table := b.table.insert id ⟨kind, b.next⟩, next := b.next - 1 }

-- What the bindings come to with a registration, as if numbers went round.
def enter (b : Bindings υ) : Registration → Bindings υ
  | .preset id value => b.preset id value
  | .question id => if b.table.contains id then b else b.lower id .question
  | .confirmation s c => b.lower (c.factId s.id) (.confirmation s c)

def enterAll (b : Bindings υ) (rs : List Registration) : Bindings υ :=
  rs.foldl enter b

def register (b : Bindings υ) : Registration → Except Overflow (Bindings υ)
  | .preset id value => return b.preset id value
  | .question id => return (← b.question id).1
  | .confirmation s c => b.confirmation s c

def registerAll (b : Bindings υ) (rs : List Registration) : Except Overflow (Bindings υ) :=
  rs.foldlM register b

def kind? (b : Bindings υ) (id : String) : Option Binding.Kind :=
  (b.table.find? id).map (·.kind)

theorem contains_eq_isSome_kind? (id : String) : b.table.contains id = (b.kind? id).isSome := by
  simp [Table.contains, kind?]

@[simp] theorem enter_knowledge : (b.enter r).knowledge = b.knowledge := by
  cases r <;> simp [enter, preset, lower, apply_ite]

@[simp] theorem enter_respondent : (b.enter r).respondent = b.respondent := by
  cases r <;> simp [enter, preset, lower, apply_ite]

@[simp] theorem enter_sessionPriority : (b.enter r).sessionPriority = b.sessionPriority := by
  cases r <;> simp [enter, preset, lower, apply_ite]

theorem kind?_preset (key : String) (value : Json) (id : String) :
    (b.preset key value).kind? id = if id = key then some (.preset value) else b.kind? id := by
  simp only [preset, kind?, Table.find?_insert]
  split <;> rfl

theorem kind?_lower (key : String) (kind : Binding.Kind) (id : String) :
    (b.lower key kind).kind? id = if id = key then some kind else b.kind? id := by
  simp only [lower, kind?, Table.find?_insert]
  split <;> rfl

theorem kind?_enter_question (key id : String) :
    (b.enter (.question key)).kind? id = (b.kind? id).or (if id = key then some .question else none) := by
  rw [enter, contains_eq_isSome_kind?]
  split
  case isTrue h => cases hk : b.kind? id <;> grind
  case isFalse h =>
    rw [kind?_lower]
    split
    case isTrue he => simp_all
    case isFalse => simp

-- The last firm registration of an id counts; a question counts where there is none.
theorem kind?_enterAll (rs : List Registration) (b : Bindings υ) (id : String) :
    (b.enterAll rs).kind? id =
      (latest? (rs.filterMap Registration.firm?) id).or ((b.kind? id).or
        (if id ∈ rs.filterMap Registration.question? then some .question else none)) := by
  induction rs generalizing b
  case nil => simp [enterAll, latest?]
  case cons r rs ih =>
    have hr := ih (b.enter r)
    simp only [enterAll] at hr ⊢
    rw [List.foldl_cons, hr]
    cases r
    case preset key value =>
      simp only [enter, kind?_preset, Registration.firm?, Registration.question?, List.filterMap_cons, latest?_cons]
      split <;> simp
    case confirmation s c =>
      simp only [enter, kind?_lower, Registration.firm?, Registration.question?, List.filterMap_cons, latest?_cons]
      split <;> simp
    case question key =>
      simp only [kind?_enter_question, Registration.firm?, Registration.question?, List.filterMap_cons, List.mem_cons]
      by_cases he : id = key <;> cases b.kind? id <;> simp [he]

-- The ids that are bound, registration by registration.
theorem bound_preset {bound : List String} (hb : ∀ id, (b.kind? id).isSome ↔ id ∈ bound) (key : String)
    (value : Json) (id : String) : ((b.preset key value).kind? id).isSome ↔ id ∈ key :: bound := by
  rw [kind?_preset, List.mem_cons, ← hb id]
  split <;> simp_all

theorem bound_lower {bound : List String} (hb : ∀ id, (b.kind? id).isSome ↔ id ∈ bound) (key : String)
    (kind : Binding.Kind) (id : String) : ((b.lower key kind).kind? id).isSome ↔ id ∈ key :: bound := by
  rw [kind?_lower, List.mem_cons, ← hb id]
  split <;> simp_all

theorem contains_iff_of_bound {bound : List String} (hb : ∀ id, (b.kind? id).isSome ↔ id ∈ bound) (id : String) :
    b.table.contains id ↔ id ∈ bound := by
  rw [contains_eq_isSome_kind?, hb]

-- What is kept whenever a value is bound, and whenever a priority is given out of so many that are left,
-- is kept until none is left.
theorem enterAll_induction {P : Bindings υ → Nat → Prop} {bound : List String}
    (preset : ∀ b n key value, P b n → P (b.preset key value) n)
    (given : ∀ b n key kind, P b (n + 1) → P (b.lower key kind) n)
    (hb : ∀ id, (b.kind? id).isSome ↔ id ∈ bound) (h : P b (Registration.taken bound rs)) :
    P (b.enterAll rs) 0 := by
  induction rs generalizing b bound
  case nil => exact h
  case cons r rs ih =>
    rw [enterAll, List.foldl_cons, ← enterAll]
    cases r
    case preset key value => exact ih (bound_preset hb key value) (preset _ _ key value h)
    case confirmation s c => exact ih (bound_lower hb _ _) (given _ _ _ _ h)
    case question key =>
      have hc := contains_iff_of_bound hb key
      simp only [Registration.taken] at h
      rw [enter]
      by_cases hk : key ∈ bound
      case pos =>
        rw [if_pos hk] at h
        rw [if_pos (hc.mpr hk)]
        exact ih hb h
      case neg =>
        rw [if_neg hk] at h
        rw [if_neg (mt hc.mp hk)]
        exact ih (bound_lower hb key .question) (given _ _ _ _ h)

theorem toInt_pred {n : Int64} (h : Int64.minValue.toInt < n.toInt) : (n - 1).toInt = n.toInt - 1 := by
  have hn := n.toInt_lt
  rw [Int64.toInt_sub, Int.bmod_eq_of_le] <;> simp at * <;> omega

-- A priority is given out before some more are.
theorem rank_bind {α : Type} {n : Nat} {x : α} {key : String} {kind : Binding.Kind}
    {next : Bindings υ → Except Overflow α}
    (h : next (b.lower key kind) =
      if Int64.minValue.toInt ≤ (b.lower key kind).next.toInt - n then .ok x else .error .priority) :
    (b.rank key kind >>= next) =
      if Int64.minValue.toInt ≤ b.next.toInt - (n + 1 : Nat) then .ok x else .error .priority := by
  rw [rank]
  split
  case isTrue he =>
    rw [if_neg (by rw [he]; omega)]
    rfl
  case isFalse hne =>
    have hm : Int64.minValue.toInt = -2 ^ 63 := rfl
    have hl := b.next.le_toInt
    have hn : b.next.toInt ≠ Int64.minValue.toInt := fun he => hne (Int64.toInt_inj.mp he)
    have hp : (b.lower key kind).next.toInt = b.next.toInt - 1 := toInt_pred (by omega)
    refine Eq.trans h ?_
    rw [hp]
    congr 1
    rw [eq_iff_iff]
    omega

-- Registrations overflow if, and only if, they take more priorities than are left.
theorem registerAll_eq {bound : List String} (hb : ∀ id, (b.kind? id).isSome ↔ id ∈ bound) :
    b.registerAll rs =
      if Int64.minValue.toInt ≤ b.next.toInt - Registration.taken bound rs then .ok (b.enterAll rs)
      else .error .priority := by
  induction rs generalizing b bound
  case nil =>
    rw [if_pos (by simpa [Registration.taken] using b.next.le_toInt)]
    rfl
  case cons r rs ih =>
    rw [registerAll, List.foldlM_cons, enterAll, List.foldl_cons, ← enterAll]
    cases r
    case preset key value => exact ih (bound_preset hb key value)
    case confirmation s c => exact rank_bind (ih (bound_lower hb _ _))
    case question key =>
      have hc := contains_iff_of_bound hb key
      simp only [register, question, Registration.taken, enter]
      by_cases hk : key ∈ bound
      case pos =>
        simp only [if_pos hk, if_pos (hc.mpr hk)]
        exact ih hb
      case neg =>
        simp only [if_neg hk, if_neg (mt hc.mp hk), bind_assoc, pure_bind]
        exact rank_bind (ih (bound_lower hb key .question))

theorem registerAll_empty (kb : KnowledgeBase) (respondent : Respondent υ) (settings : Settings)
    (rs : List Registration) :
    (empty kb respondent settings).registerAll rs =
      if settings.Leaves (Registration.taken [] rs) then .ok ((empty kb respondent settings).enterAll rs)
      else .error .priority :=
  registerAll_eq (by simp [kind?, empty])

theorem registerAll_append (b : Bindings υ) (rs rs' : List Registration) :
    b.registerAll (rs ++ rs') = (do (← b.registerAll rs).registerAll rs') :=
  List.foldlM_append

-- No binding outranks the session's own facts, and there are priorities left for so many more.
structure Ranked (b : Bindings υ) (more : Nat) : Prop where
  room : Int64.minValue.toInt ≤ b.next.toInt - more
  next_le : b.next ≤ b.sessionPriority
  priority_le : ∀ id binding, b.table.find? id = some binding → binding.priority ≤ b.sessionPriority

theorem Ranked.preset {more : Nat} (h : b.Ranked more) (key : String) (value : Json) :
    (b.preset key value).Ranked more where
  room := h.room
  next_le := h.next_le
  priority_le := by
    intro id binding hf
    simp only [Bindings.preset, Table.find?_insert] at hf ⊢
    split at hf
    case isTrue => cases hf; exact Int64.le_refl _
    case isFalse => exact h.priority_le id binding hf

-- A priority is given out, and the next one is lower.
theorem Ranked.lower {more : Nat} (h : b.Ranked (more + 1)) (key : String) (kind : Binding.Kind) :
    (b.lower key kind).Ranked more where
  room := by
    have hr := h.room
    rw [Bindings.lower, toInt_pred (by omega)]
    omega
  next_le := by
    have hr := h.room
    have hn := Int64.le_iff_toInt_le.mp h.next_le
    rw [Bindings.lower, Int64.le_iff_toInt_le, toInt_pred (by omega)]
    dsimp only
    omega
  priority_le := by
    intro id binding hf
    simp only [Bindings.lower, Table.find?_insert] at hf
    split at hf
    case isTrue => cases hf; exact h.next_le
    case isFalse => exact h.priority_le id binding hf

theorem Ranked.enterAll {bound : List String} (h : b.Ranked (Registration.taken bound rs))
    (hb : ∀ id, (b.kind? id).isSome ↔ id ∈ bound) : (b.enterAll rs).Ranked 0 :=
  enterAll_induction (fun _ _ key value h => h.preset key value) (fun _ _ key kind h => h.lower key kind)
    hb h

end Bindings
end Troubleshoot
