import Troubleshoot.Proofs.Record.Shown
import Troubleshoot.Proofs.Related

namespace Troubleshoot

namespace Table

variable {α β : Type} {r : α → β → Prop}

theorem find?_eq_some_iff {t : Table α} {key : String} {a : α} :
    t.find? key = some a ↔ ∃ i, t.keys.list.get i = key ∧ t.value i = a := by
  rw [find?, lookup_eq_some_iff_mem t.nodup_entries]
  simp [entries, List.mem_ofFn]

theorem keys_eq_of_rel {t : Table α} {u : Table β} (h : ∀ key, Option.Rel r (t.find? key) (u.find? key)) :
    t.keys = u.keys := by
  have hm : t.map (fun _ _ => ()) = u.map (fun _ _ => ()) := ext_find? fun key => by
    rw [find?_map, find?_map]
    have hr := h key
    generalize t.find? key = a, u.find? key = b at hr
    cases hr <;> rfl
  exact congrArg keys hm

theorem rel_iff_of_keys {ks : Keys} {v : Fin ks.list.length → α} {w : Fin ks.list.length → β} :
    (∀ key, Option.Rel r (find? ⟨ks, v⟩ key) (find? ⟨ks, w⟩ key)) ↔ ∀ i, r (v i) (w i) := by
  have hv (i : Fin ks.list.length) : find? ⟨ks, v⟩ (ks.list.get i) = some (v i) := find?_eq_some_iff.mpr ⟨i, rfl, rfl⟩
  have hw (i : Fin ks.list.length) : find? ⟨ks, w⟩ (ks.list.get i) = some (w i) := find?_eq_some_iff.mpr ⟨i, rfl, rfl⟩
  constructor
  case mp =>
    intro h i
    have hr := h (ks.list.get i)
    rw [hv, hw] at hr
    cases hr
    assumption
  case mpr =>
    intro h key
    by_cases hk : ∃ i, ks.list.get i = key
    case pos =>
      obtain ⟨i, rfl⟩ := hk
      rw [hv, hw]
      exact .some (h i)
    case neg =>
      have hn {γ : Type} (x : Fin ks.list.length → γ) : find? ⟨ks, x⟩ key = none :=
        Option.eq_none_iff_forall_ne_some.mpr fun a ha => hk (let ⟨i, hi, _⟩ := find?_eq_some_iff.mp ha; ⟨i, hi⟩)
      rw [hn, hn]
      exact .none

end Table

namespace Binary64

theorem same_iff {x y : Finite64} : same x y ↔ rank x = rank y := by
  have hx := x.property.not_nan
  have hy := y.property.not_nan
  simp [same, LE.le, hx, hy, Int.le_antisymm_iff]

end Binary64

namespace Number

theorem same_equivalence : Equivalence fun a b : Number => (a.same b : Prop) where
  refl a := by cases a <;> simp [same, Binary64.same_iff]
  symm {a b} h := by
    cases a <;> cases b <;> simp_all [same, Binary64.same_iff]
  trans {a b c} hab hbc := by
    cases a <;> cases b <;> cases c <;> simp_all [same, Binary64.same_iff]

end Number

namespace Json

variable {a b c : Json} {as bs cs : List Json} {t u : Table Json}

-- What holds of a value if it holds of all that is in it, holds of every value.
@[elab_as_elim]
theorem inside {motive : Json → Prop} (null : motive .null) (bool : ∀ b, motive (.bool b))
    (number : ∀ n, motive (.number n)) (string : ∀ s, motive (.string s))
    (array : ∀ items, (∀ a ∈ items, motive a) → motive (.array items))
    (object : ∀ t : Table Json, (∀ key a, t.find? key = some a → motive a) → motive (.object t)) (j : Json) :
    motive j := by
  refine @Json.rec motive (fun items => ∀ a ∈ items, motive a)
    (fun t => ∀ key a, t.find? key = some a → motive a) null bool number string array object ?_ ?_ ?_ j
  case refine_1 => nofun
  case refine_2 => exact fun a items ha hs => List.forall_mem_cons.mpr ⟨ha, hs⟩
  case refine_3 =>
    intro ks v hv key a h
    obtain ⟨i, _, rfl⟩ := Table.find?_eq_some_iff.mp h
    exact hv i

theorem sameItems_iff : sameItems as bs ↔ List.Forall₂ (same · ·) as bs := by
  induction as generalizing bs <;> cases bs <;> simp_all [sameItems]

theorem sameMembers_iff : sameMembers t u ↔ ∀ key, Option.Rel (same · ·) (t.find? key) (u.find? key) := by
  obtain ⟨ks, v⟩ := t
  obtain ⟨ls, w⟩ := u
  rw [sameMembers]
  split
  case isTrue h =>
    subst h
    simp [Table.rel_iff_of_keys]
  case isFalse h => exact iff_of_false nofun fun hr => h (Table.keys_eq_of_rel hr)

-- Values of one form whose items and members are related.
inductive Matches (r : Json → Json → Prop) : Json → Json → Prop
  | null : Matches r .null .null
  | bool (b : Bool) : Matches r (.bool b) (.bool b)
  | number {m n : Number} (same : m.same n) : Matches r (.number m) (.number n)
  | string (s : String) : Matches r (.string s) (.string s)
  | array {as bs : List Json} (items : List.Forall₂ r as bs) : Matches r (.array as) (.array bs)
  | object {t u : Table Json} (members : ∀ key, Option.Rel r (t.find? key) (u.find? key)) :
    Matches r (.object t) (.object u)

theorem same_iff : same a b ↔ Matches (same · ·) a b := by
  constructor
  case mp =>
    intro h
    cases a <;> cases b <;> first | cases h | skip
    case null.null => exact .null
    case bool.bool b c => exact (of_decide_eq_true h : b = c) ▸ .bool b
    case number.number => exact .number h
    case string.string s t => exact (of_decide_eq_true h : s = t) ▸ .string s
    case array.array => exact .array (sameItems_iff.mp h)
    case object.object => exact .object (sameMembers_iff.mp h)
  case mpr =>
    intro h
    cases h
    case null => rfl
    case bool => exact decide_eq_true rfl
    case number h => exact h
    case string => exact decide_eq_true rfl
    case array h => exact sameItems_iff.mpr h
    case object h => exact sameMembers_iff.mpr h

theorem same_refl (a : Json) : same a a := by
  rw [same_iff]
  induction a using inside
  case null => exact .null
  case bool b => exact .bool b
  case number n => exact .number (Number.same_equivalence.refl n)
  case string s => exact .string s
  case array ih => exact .array (List.forall₂_same.mpr fun a ha => same_iff.mpr (ih a ha))
  case object t ih =>
    refine .object fun key => ?_
    cases h : t.find? key
    case none => exact .none
    case some a => exact .some (same_iff.mpr (ih key a h))

theorem same_symm (h : same a b) : same b a := by
  rw [same_iff]
  induction a using inside generalizing b <;> cases same_iff.mp h
  case null => exact .null
  case bool b => exact .bool b
  case number h => exact .number (Number.same_equivalence.symm h)
  case string s => exact .string s
  case array ih _ items =>
    exact .array (forall₂_imp_of_mem (fun a ha b h => same_iff.mpr (ih a ha h)) items).flip
  case object t ih u members =>
    exact .object fun key => rel_flip (fun a ha b h => same_iff.mpr (ih key a ha h)) (members key)

theorem same_trans (hab : same a b) (hbc : same b c) : same a c := by
  rw [same_iff]
  induction a using inside generalizing b c <;> cases same_iff.mp hab <;> cases same_iff.mp hbc
  case null => exact .null
  case bool b => exact .bool b
  case number h _ h' => exact .number (Number.same_equivalence.trans h h')
  case string s => exact .string s
  case array ih _ items _ items' =>
    have hi := forall₂_imp_of_mem (fun a ha b h c (h' : same b c) => same_iff.mpr (ih a ha h h')) items
    exact .array (forall₂_comp (fun a b c hi h' => hi c h') hi items')
  case object t ih _ members _ members' =>
    refine .object fun key => rel_comp ?_ (members key) (members' key)
    exact fun a ha b c h h' => same_iff.mpr (ih key a ha h h')

theorem same_equivalence : Equivalence fun a b : Json => (a.same b : Prop) :=
  ⟨same_refl, same_symm, same_trans⟩

theorem same_comm (a b : Json) : same a b = same b a :=
  Bool.eq_iff_iff.mpr ⟨same_symm, same_symm⟩

-- A value with a place in it, at whatever depth.
inductive Context where
  | hole
  | item (before : List Json) (inner : Context) (after : List Json)
  | member (others : Table Json) (key : String) (inner : Context)

def Context.fill : Context → Json → Json
  | hole, a => a
  | item before inner after, a => .array (before ++ inner.fill a :: after)
  | member others key inner, a => .object (others.insert key (inner.fill a))

theorem Context.fill_same (c : Context) (h : same a b) : same (c.fill a) (c.fill b) := by
  induction c
  case hole => exact h
  case item before inner after ih =>
    have hr (js : List Json) : List.Forall₂ (same · ·) js js := List.forall₂_same.mpr fun j _ => same_refl j
    exact same_iff.mpr (.array (List.rel_append (hr before) (.cons ih (hr after))))
  case member others key inner ih =>
    refine same_iff.mpr (.object fun k => ?_)
    rw [Table.find?_insert, Table.find?_insert]
    split
    case isTrue => exact .some ih
    case isFalse =>
      cases others.find? k
      case none => exact .none
      case some j => exact .some (same_refl j)

-- The members of an object may be written in any order.
theorem same_ofMembers {es fs : List (String × Json)} (hn : (es.map Prod.fst).Nodup) (hp : es.Perm fs) :
    same (.ofMembers es) (.ofMembers fs) := by
  have hn' : (fs.map Prod.fst).Nodup := (hp.map _).nodup_iff.mp hn
  have ht : Table.ofList es = Table.ofList fs := Table.ext_find? fun key => by
    refine Option.ext fun a => ?_
    rw [Table.find?_ofList_iff hn, Table.find?_ofList_iff hn', hp.mem_iff]
  rw [ofMembers, ofMembers, ht]
  exact same_refl _

theorem has_iff : has as a ↔ ∃ r ∈ as, same r a := by
  simp [has, same_comm a]

end Json

end Troubleshoot
