namespace Troubleshoot

variable {α : Type}

-- The value of the last entry with an id.
def latest? (entries : List (String × α)) (id : String) : Option α :=
  entries.reverse.lookup id

theorem latest?_append (es fs : List (String × α)) (id : String) :
    latest? (es ++ fs) id = (latest? fs id).or (latest? es id) := by
  simp [latest?, List.lookup_append]

theorem latest?_singleton (e : String × α) (id : String) :
    latest? [e] id = if id = e.1 then some e.2 else none := by
  rw [latest?, List.reverse_singleton, List.lookup_cons, List.lookup_nil]
  split <;> simp_all

theorem latest?_cons (e : String × α) (es : List (String × α)) (id : String) :
    latest? (e :: es) id = (latest? es id).or (if id = e.1 then some e.2 else none) := by
  rw [← List.singleton_append, latest?_append, latest?_singleton]

theorem latest?_map {β : Type} (f : α → β) (es : List (String × α)) (id : String) :
    latest? (es.map fun e => (e.1, f e.2)) id = (latest? es id).map f := by
  induction es
  case nil => rfl
  case cons e es ih =>
    rw [List.map_cons, latest?_cons, latest?_cons, ih]
    cases latest? es id <;> simp [apply_ite]

theorem mem_of_latest? {es : List (String × α)} {id : String} {a : α}
    (h : latest? es id = some a) : (id, a) ∈ es := by
  induction es
  case nil => cases h
  case cons e es ih =>
    rw [latest?_cons] at h
    rcases Option.or_eq_some_iff.mp h with h | ⟨_, h⟩
    case inl => exact List.mem_cons_of_mem _ (ih h)
    case inr =>
      split at h
      case isTrue he => cases h; exact he ▸ List.mem_cons_self ..
      case isFalse => cases h

theorem isSome_latest?_of_mem {es : List (String × α)} {id : String} {a : α}
    (h : (id, a) ∈ es) : (latest? es id).isSome := by
  induction es
  case nil => cases h
  case cons e es ih =>
    rw [latest?_cons]
    rcases List.mem_cons.mp h with rfl | h
    · simp
    · simp [ih h]

end Troubleshoot
