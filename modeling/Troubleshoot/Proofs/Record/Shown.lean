import Mathlib.Data.List.Forall2
import Troubleshoot.Record.Format

namespace Troubleshoot

section entries

variable {α β : Type} {es : List (String × α)}

theorem lookup_eq_none_of_not_mem {key : String} (h : key ∉ es.map Prod.fst) : es.lookup key = none := by
  refine List.lookup_eq_none_iff.mpr fun e he => ?_
  simp only [bne_iff_ne, ne_eq]
  exact fun hk => h (hk ▸ List.mem_map_of_mem he)

theorem lookup_cons_of_ne {key k : String} {a : α} (h : key ≠ k) : ((k, a) :: es).lookup key = es.lookup key := by
  rw [List.lookup_cons, beq_false_of_ne h]

theorem lookup_of_mem (hn : (es.map Prod.fst).Nodup) {e : String × α} (he : e ∈ es) : es.lookup e.1 = some e.2 := by
  induction es
  case nil => cases he
  case cons f es ih =>
    have ⟨hk, hn⟩ := List.nodup_cons.mp hn
    cases he
    case head => exact List.lookup_cons_self
    case tail he =>
      have hne : e.1 ≠ f.1 := fun hf => hk (hf ▸ List.mem_map_of_mem he)
      rw [lookup_cons_of_ne hne, ih hn he]

theorem lookup_eq_some_iff_mem (hn : (es.map Prod.fst).Nodup) {key : String} {a : α} :
    es.lookup key = some a ↔ (key, a) ∈ es := by
  refine ⟨fun h => ?_, lookup_of_mem hn⟩
  obtain ⟨before, after, he, _⟩ := List.lookup_eq_some_iff.mp h
  exact he ▸ List.mem_append_right _ (List.mem_cons_self ..)

theorem lookup_map (f : String → α → β) (key : String) :
    (es.map fun e => (e.1, f e.1 e.2)).lookup key = (es.lookup key).map (f key) := by
  induction es
  case nil => rfl
  case cons e es ih =>
    rw [List.map_cons, List.lookup_cons, List.lookup_cons, ih]
    by_cases h : key = e.1
    case pos => simp [h]
    case neg => simp [beq_false_of_ne h]

namespace Table

-- Of entries with different keys none replaces another.
theorem find?_ofList (h : (es.map Prod.fst).Nodup) (key : String) : (ofList es).find? key = es.lookup key := by
  have hf (t : Table α) : (es.foldl (fun t (key, value) => t.insert key value) t).find? key =
      (es.lookup key).or (t.find? key) := by
    induction es generalizing t
    case nil => rfl
    case cons e es ih =>
      obtain ⟨k, v⟩ := e
      have ⟨hk, hn⟩ := List.nodup_cons.mp h
      rw [List.foldl_cons, ih hn, find?_insert]
      by_cases he : key = k
      case pos => simp [he, lookup_eq_none_of_not_mem hk]
      case neg => simp [he, lookup_cons_of_ne he]
  rw [ofList, hf, find?_empty, Option.or_none]

theorem find?_ofList_iff {key : String} {a : α} (h : (es.map Prod.fst).Nodup) :
    (ofList es).find? key = some a ↔ (key, a) ∈ es := by
  rw [find?_ofList h, lookup_eq_some_iff_mem h]

theorem nodup_entries (t : Table α) : (t.entries.map Prod.fst).Nodup := by
  refine t.sorted_entries.imp fun {k l} h (he : k = l) => ?_
  exact String.lt_irrefl l (he ▸ h)

end Table

end entries

namespace Document

-- The document of a text that shows a value: all is closed, and the members of an object stand in any
-- order, each of them once.
inductive Shows : Document → Json → Prop
  | null : Shows .null .null
  | bool (b : Bool) : Shows (.bool b) (.bool b)
  | number (n : Number) : Shows (.number n) (.number n)
  | string (s : String) : Shows (.string s) (.string s)
  | array {items : List Document} {values : List Json} (shown : List.Forall₂ Shows items values) :
    Shows (.array items .closed) (.array values)
  | object {members : List (String × Document)} {values : Table Json} (once : (members.map Prod.fst).Nodup)
    (shown : ∀ key, Option.Rel Shows (members.lookup key) (values.find? key)) :
    Shows (.object members .closed) (.object values)

theorem Shows.wellFormed {d : Document} {j : Json} (h : d.Shows j) : d.wellFormed := by
  cases h <;> rfl

theorem exists_value {members : List (String × Document)} {values : Table Json}
    (hn : (members.map Prod.fst).Nodup) (h : ∀ key, Option.Rel Shows (members.lookup key) (values.find? key))
    {m : String × Document} (hm : m ∈ members) : ∃ j, values.find? m.1 = some j ∧ m.2.Shows j := by
  have hr := h m.1
  rw [lookup_of_mem hn hm] at hr
  generalize values.find? m.1 = v at hr
  cases hr
  case some hj => exact ⟨_, rfl, hj⟩

-- What a document shows is what it stands for.
mutual

theorem toJson_of_shows : (d : Document) → (j : Json) → d.Shows j → d.toJson = .ok j
  | .null, _, .null => rfl
  | .bool _, _, .bool _ => rfl
  | .number _, _, .number _ => rfl
  | .string _, _, .string _ => rfl
  | .array items _, _, .array shown => by
    rw [toJson, toItems_of_shows items _ shown]
    rfl
  | .object members _, .object values, .object once shown => by
    have hm := toMembers_of_shows members values.find? fun m hm => exists_value once shown hm
    have ht : Table.ofList (members.map fun m => (m.1, (values.find? m.1).getD .null)) = values := by
      refine Table.ext_find? fun key => ?_
      rw [Table.find?_ofList (by simpa [Function.comp_def] using once),
        lookup_map fun key _ => (values.find? key).getD .null]
      have hr := shown key
      generalize members.lookup key = d, values.find? key = v at hr
      cases hr <;> rfl
    rw [toJson, hm]
    exact congrArg (fun t => Except.ok (Json.object t)) ht

theorem toItems_of_shows : (ds : List Document) → (js : List Json) → List.Forall₂ Shows ds js →
    toItems ds = .ok js
  | [], _, .nil => rfl
  | d :: ds, _, .cons shown more => by
    rw [toItems, toJson_of_shows d _ shown, toItems_of_shows ds _ more]
    rfl

theorem toMembers_of_shows : (ms : List (String × Document)) → (find : String → Option Json) →
    (∀ m ∈ ms, ∃ j, find m.1 = some j ∧ m.2.Shows j) →
    toMembers ms = .ok (ms.map fun m => (m.1, (find m.1).getD .null))
  | [], _, _ => rfl
  | (key, d) :: ms, find, h => by
    have ⟨⟨j, hf, hj⟩, hr⟩ := List.forall_mem_cons.mp h
    rw [toMembers, toJson_of_shows d j hj, toMembers_of_shows ms find hr, List.map_cons, hf]
    rfl

end

-- The members in the order of a list of them.
theorem Shows.ofMembers {members : List (String × Document)} {entries : List (String × Json)}
    (once : (entries.map Prod.fst).Nodup) (h : List.Forall₂ (fun m e => m.1 = e.1 ∧ m.2.Shows e.2) members entries) :
    (Document.object members .closed).Shows (.ofMembers entries) := by
  have hk : members.map Prod.fst = entries.map Prod.fst := by
    rw [← List.forall₂_eq_eq_eq, List.forall₂_map_left_iff, List.forall₂_map_right_iff]
    exact h.imp fun _ _ hm => hm.1
  refine .object (hk ▸ once) fun key => ?_
  rw [Table.find?_ofList once]
  clear once hk
  induction h
  case nil => exact .none
  case cons m e _ _ hm _ ih =>
    rw [List.lookup_cons, List.lookup_cons, hm.1]
    by_cases he : key = e.1
    case pos => simpa [he] using Option.Rel.some hm.2
    case neg => simpa [beq_false_of_ne he] using ih

-- The document that a value is written as shows it.
mutual

theorem shows_ofJson : (j : Json) → (ofJson j).Shows j
  | .null => .null
  | .bool b => .bool b
  | .number n => .number n
  | .string s => .string s
  | .array items => .array (shows_ofItems items)
  | .object ⟨keys, value⟩ => by
    have shown (i : Fin keys.list.length) : (ofJson (value i)).Shows (value i) := shows_ofJson (value i)
    let t : Table Json := ⟨keys, value⟩
    have hm : ofMembers t = t.entries.map fun e => (e.1, ofJson e.2) := by
      simp [t, ofMembers, Table.entries, List.map_ofFn, Function.comp_def]
    rw [ofJson, show ofMembers ⟨keys, value⟩ = _ from hm]
    refine .object (by simpa [Function.comp_def] using t.nodup_entries) fun key => ?_
    rw [lookup_map fun _ => ofJson]
    change Option.Rel Shows ((t.find? key).map ofJson) (t.find? key)
    cases hf : t.find? key
    case none => exact .none
    case some j =>
      have ⟨_, _, he, _⟩ := List.lookup_eq_some_iff.mp hf
      have hj : (key, j) ∈ t.entries := he ▸ List.mem_append_right _ (List.mem_cons_self ..)
      have ⟨i, hi⟩ := List.mem_ofFn.mp hj
      cases hi
      exact .some (shown i)

theorem shows_ofItems : (js : List Json) → List.Forall₂ Shows (ofItems js) js
  | [] => .nil
  | j :: js => .cons (shows_ofJson j) (shows_ofItems js)

end

end Document
end Troubleshoot
