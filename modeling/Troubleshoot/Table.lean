namespace Troubleshoot

-- The keys are kept in order and the values in a function of the position. So tables with the same
-- entries are equal, and a value that holds tables of values can be taken apart by plain recursion.
structure Keys where
  list : List String
  sorted : list.Pairwise (· < ·)
deriving DecidableEq

structure Table (α : Type u) where
  keys : Keys
  value : Fin keys.list.length → α

namespace Table

variable {α : Type u} {β : Type v}

def Sorted (entries : List (String × α)) : Prop :=
  (entries.map Prod.fst).Pairwise (· < ·)

-- The keys with their values, in order.
def entries (t : Table α) : List (String × α) :=
  List.ofFn fun i => (t.keys.list.get i, t.value i)

def ofSorted (entries : List (String × α)) (sorted : Sorted entries) : Table α where
  keys := ⟨entries.map Prod.fst, sorted⟩
  value i := (entries.get (i.cast (List.length_map _))).2

theorem map_fst_entries (t : Table α) : t.entries.map Prod.fst = t.keys.list := by
  simp [entries, List.map_ofFn, Function.comp_def]

theorem sorted_entries (t : Table α) : Sorted t.entries := by
  rw [Sorted, map_fst_entries]
  exact t.keys.sorted

@[simp] theorem entries_ofSorted {entries : List (String × α)} (h : Sorted entries) :
    (ofSorted entries h).entries = entries := by
  apply List.ext_get <;> simp [Table.entries, ofSorted]

theorem ext {t u : Table α} (h : t.entries = u.entries) : t = u := by
  obtain ⟨⟨ks, hk⟩, v⟩ := t
  obtain ⟨⟨ls, hl⟩, w⟩ := u
  obtain rfl : ks = ls := by
    have := congrArg (List.map Prod.fst) h
    simpa [map_fst_entries] using this
  simp only [mk.injEq, heq_eq_eq, true_and]
  funext i
  simpa [entries] using congrArg (·[i.val]?) h

def empty : Table α :=
  ofSorted [] .nil

instance : EmptyCollection (Table α) := ⟨empty⟩

instance : Inhabited (Table α) := ⟨empty⟩

@[simp] theorem entries_empty : (empty : Table α).entries = [] :=
  entries_ofSorted _

-- The value of a key.
def find? (t : Table α) (key : String) : Option α :=
  t.entries.lookup key

def contains (t : Table α) (key : String) : Bool :=
  (t.find? key).isSome

def size (t : Table α) : Nat :=
  t.keys.list.length

-- Sets a key in a list that is in order.
def put (key : String) (value : α) : List (String × α) → List (String × α)
  | [] => [(key, value)]
  | (k, v) :: rest =>
    if key < k then (key, value) :: (k, v) :: rest
    else if key = k then (key, value) :: rest
    else (k, v) :: put key value rest

theorem mem_map_fst_put {key : String} {value : α} {es : List (String × α)} {k : String} :
    k ∈ (put key value es).map Prod.fst ↔ k = key ∨ k ∈ es.map Prod.fst := by
  induction es with
  | nil => simp [put]
  | cons e rest ih => grind [put]

theorem sorted_put {key : String} {value : α} {es : List (String × α)} (h : Sorted es) :
    Sorted (put key value es) := by
  induction es with
  | nil => simp [put, Sorted]
  | cons e rest ih =>
    obtain ⟨first, later⟩ := List.pairwise_cons.1 h
    have ih := ih later
    unfold put
    split
    case isTrue lt =>
      exact List.pairwise_cons.2 ⟨by grind [String.lt_trans], h⟩
    case isFalse ge =>
      split
      case isTrue eq => subst eq; exact h
      case isFalse ne =>
        refine List.pairwise_cons.2 ⟨fun k hk => ?_, ih⟩
        rcases mem_map_fst_put.1 hk with rfl | hk
        · exact String.not_le.1 fun le => ne (String.le_antisymm (String.not_lt.1 ge) le).symm
        · exact first k hk

theorem lookup_put {key : String} {value : α} {es : List (String × α)} {k : String} :
    (put key value es).lookup k = if k = key then some value else es.lookup k := by
  induction es with
  | nil => simp [put]; grind
  | cons e rest ih => grind [put]

-- Sets a key, in place of what it had.
def insert (t : Table α) (key : String) (value : α) : Table α :=
  ofSorted (put key value t.entries) (sorted_put t.sorted_entries)

-- Sets a key, and says what it had.
def replace (t : Table α) (key : String) (value : α) : Option α × Table α :=
  (t.find? key, t.insert key value)

theorem put_put {key : String} {value old : α} {es : List (String × α)} :
    put key value (put key old es) = put key value es := by
  induction es with
  | nil => simp [put]
  | cons e rest ih => grind [put]

theorem insert_insert {t : Table α} {key : String} {value old : α} :
    (t.insert key old).insert key value = t.insert key value := by
  apply ext
  simp [insert, put_put]

theorem find?_insert {t : Table α} {key : String} {value : α} {k : String} :
    (t.insert key value).find? k = if k = key then some value else t.find? k := by
  simp [insert, find?, lookup_put]

@[simp] theorem find?_empty {k : String} : (∅ : Table α).find? k = none := by
  simp [find?, EmptyCollection.emptyCollection]

theorem lookup_eq_none_of_lt {es : List (String × α)} {key : String}
    (h : ∀ k ∈ es.map Prod.fst, key < k) : es.lookup key = none := by
  refine List.lookup_eq_none_iff.2 fun e he => ?_
  have lt := h e.1 (List.mem_map_of_mem he)
  simp only [bne_iff_ne, ne_eq]
  rintro rfl
  exact String.lt_irrefl _ lt

-- No key with a value comes before the first.
theorem not_lt_of_lookup {es fs : List (String × α)} {k l : String} {v w : α} (hf : Sorted ((l, w) :: fs))
    (h : ((k, v) :: es).lookup k = ((l, w) :: fs).lookup k) : ¬k < l := by
  intro lt
  have none : ((l, w) :: fs).lookup k = none := lookup_eq_none_of_lt fun i hi => by
    rcases List.mem_cons.1 hi with rfl | hi
    · exact lt
    · exact String.lt_trans lt ((List.pairwise_cons.1 hf).1 i hi)
  rw [none, List.lookup_cons_self] at h
  cases h

theorem eq_of_lookup {es fs : List (String × α)} (he : Sorted es) (hf : Sorted fs)
    (h : ∀ k, es.lookup k = fs.lookup k) : es = fs := by
  induction es generalizing fs with
  | nil =>
    cases fs with
    | nil => rfl
    | cons f fs => cases (h f.1).trans List.lookup_cons_self
  | cons e es ih =>
    cases fs with
    | nil => cases (h e.1).symm.trans List.lookup_cons_self
    | cons f fs =>
      obtain ⟨k, v⟩ := e
      obtain ⟨l, w⟩ := f
      have le := String.not_lt.1 (not_lt_of_lookup he (h l).symm)
      have ge := String.not_lt.1 (not_lt_of_lookup hf (h k))
      obtain rfl : k = l := String.le_antisymm le ge
      obtain ⟨first, later⟩ := List.pairwise_cons.1 he
      obtain ⟨first', later'⟩ := List.pairwise_cons.1 hf
      have hv := h k
      rw [List.lookup_cons_self, List.lookup_cons_self] at hv
      obtain rfl := Option.some.inj hv
      refine congrArg _ (ih later later' fun i => ?_)
      by_cases hi : i = k
      · rw [hi, lookup_eq_none_of_lt first, lookup_eq_none_of_lt first']
      · simpa [List.lookup_cons, beq_false_of_ne hi] using h i

-- A table is what it answers.
theorem ext_find? {t u : Table α} (h : ∀ key, t.find? key = u.find? key) : t = u :=
  ext (eq_of_lookup t.sorted_entries u.sorted_entries h)

-- Changes every value, with a view to its key.
def map (f : String → α → β) (t : Table α) : Table β where
  keys := t.keys
  value i := f (t.keys.list.get i) (t.value i)

theorem entries_map {f : String → α → β} {t : Table α} :
    (t.map f).entries = t.entries.map fun (k, v) => (k, f k v) := by
  simp [entries, map, List.map_ofFn, Function.comp_def]

theorem find?_map {f : String → α → β} {t : Table α} {k : String} :
    (t.map f).find? k = (t.find? k).map (f k) := by
  rw [find?, find?, entries_map]
  induction t.entries with
  | nil => rfl
  | cons e rest ih => grind

theorem put_map {f : String → α → β} {key : String} {value : α} {es : List (String × α)} :
    put key (f key value) (es.map fun (k, v) => (k, f k v)) =
      (put key value es).map fun (k, v) => (k, f k v) := by
  induction es with
  | nil => rfl
  | cons e rest ih => grind [put]

theorem map_insert {f : String → α → β} {t : Table α} {key : String} {value : α} :
    (t.insert key value).map f = (t.map f).insert key (f key value) := by
  apply ext
  simp [entries_map, insert, put_map]

-- The table of a list in which a later entry replaces an earlier one.
def ofList (es : List (String × α)) : Table α :=
  es.foldl (fun t (key, value) => t.insert key value) ∅

end Table
end Troubleshoot
