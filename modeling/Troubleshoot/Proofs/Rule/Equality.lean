import Troubleshoot.Proofs.Json.Same
import Troubleshoot.Proofs.Session.Rules

namespace Troubleshoot

namespace Operator

-- Lists that hold the same values, in whatever order and however often.
structure SameItems (equal : Operator) (as bs : List Json) : Prop where
  left : ∀ a ∈ as, ∃ b ∈ bs, equal a b
  right : ∀ b ∈ bs, ∃ a ∈ as, equal a b

-- The laws of seven operators, of which the first says when values are equal.
structure EqualityLaws (equal notEqual isIn notIn contains doesNotContain containsOneOf : Operator) : Prop where
  equivalence : Equivalence fun a b : Json => (equal a b : Prop)
  -- The members of an object may be written in any order.
  reordered : ∀ es fs, (es.map Prod.fst).Nodup → es.Perm fs → equal (.ofMembers es) (.ofMembers fs)
  -- What stands anywhere in a value may be replaced by something equal.
  replaced : ∀ (c : Json.Context) (a b : Json), equal a b → equal (c.fill a) (c.fill b)
  kinds : ∀ i x, ¬equal (.number (.int i)) (.number (.real x)) ∧ ¬equal (.number (.real x)) (.number (.int i))
  negated : ∀ a b, notEqual a b = !equal a b
  isIn_eq : ∀ a b, isIn a b = contains b a
  notIn_eq : ∀ a b, notIn a b = doesNotContain b a
  contains_iff : ∀ items a, contains (.array items) a ↔ ∃ r ∈ items, equal r a
  -- Of a list one of the two is true, of anything else neither.
  opposite : ∀ items a, doesNotContain (.array items) a = !contains (.array items) a
  neither : ∀ j a, (∀ items, j ≠ .array items) → ¬contains j a ∧ ¬doesNotContain j a
  symm : ∀ a b, containsOneOf a b = containsOneOf b a
  containsOneOf_iff : ∀ a b, containsOneOf a b ↔ ∃ items, b = .array items ∧ ∃ r ∈ items, contains a r
  sets : ∀ as as' bs bs', SameItems equal as as' → SameItems equal bs bs' →
    containsOneOf (.array as) (.array bs) = containsOneOf (.array as') (.array bs')

variable {items as as' bs bs' : List Json} {a b : Json}

theorem contains_array_iff : contains (.array items) a ↔ ∃ r ∈ items, r.same a :=
  Json.has_iff

theorem containsOneOf_iff : containsOneOf a b ↔ ∃ items, b = .array items ∧ ∃ r ∈ items, contains a r := by
  rw [containsOneOf_eq]
  cases a <;> cases b <;> simp [contains, onList, Json.array?]

theorem containsOneOf_arrays_iff :
    containsOneOf (.array as) (.array bs) ↔ ∃ a ∈ as, ∃ b ∈ bs, a.same b := by
  rw [containsOneOf_iff]
  simp only [Json.array.injEq, contains_array_iff]
  grind

theorem containsOneOf_comm (a b : Json) : containsOneOf a b = containsOneOf b a := by
  cases a <;> cases b <;> try rfl
  case array.array as bs =>
    rw [Bool.eq_iff_iff, containsOneOf_arrays_iff, containsOneOf_arrays_iff]
    constructor
    case mp => exact fun ⟨a, ha, b, hb, h⟩ => ⟨b, hb, a, ha, Json.same_symm h⟩
    case mpr => exact fun ⟨b, hb, a, ha, h⟩ => ⟨a, ha, b, hb, Json.same_symm h⟩

theorem SameItems.symm (h : SameItems Json.same as bs) : SameItems Json.same bs as where
  left b hb := let ⟨a, ha, hs⟩ := h.right b hb; ⟨a, ha, Json.same_symm hs⟩
  right a ha := let ⟨b, hb, hs⟩ := h.left a ha; ⟨b, hb, Json.same_symm hs⟩

theorem SameItems.containsOneOf_mono (ha : SameItems Json.same as as') (hb : SameItems Json.same bs bs')
    (h : containsOneOf (.array as) (.array bs)) : containsOneOf (.array as') (.array bs') := by
  rw [containsOneOf_arrays_iff] at h ⊢
  obtain ⟨a, hma, b, hmb, hab⟩ := h
  obtain ⟨a', hma', haa'⟩ := ha.left a hma
  obtain ⟨b', hmb', hbb'⟩ := hb.left b hmb
  exact ⟨a', hma', b', hmb', Json.same_trans (Json.same_symm haa') (Json.same_trans hab hbb')⟩

theorem equalityLaws : EqualityLaws equal notEqual isIn notIn contains doesNotContain containsOneOf where
  equivalence := Json.same_equivalence
  reordered _ _ := Json.same_ofMembers
  replaced c _ _ := c.fill_same
  kinds _ _ := ⟨nofun, nofun⟩
  negated _ _ := rfl
  isIn_eq _ _ := rfl
  notIn_eq _ _ := rfl
  contains_iff _ _ := contains_array_iff
  opposite _ _ := rfl
  neither j a h := by
    cases j
    case array items => exact absurd rfl (h items)
    all_goals exact ⟨nofun, nofun⟩
  symm := containsOneOf_comm
  containsOneOf_iff _ _ := containsOneOf_iff
  sets _ _ _ _ ha hb := Bool.eq_iff_iff.mpr ⟨ha.containsOneOf_mono hb, ha.symm.containsOneOf_mono hb.symm⟩

end Operator

namespace Operators

theorem session_equality : ∃ equal notEqual isIn notIn contains doesNotContain containsOneOf,
    session.find? "equal" = some equal ∧ session.find? "notEqual" = some notEqual ∧
    session.find? "in" = some isIn ∧ session.find? "notIn" = some notIn ∧
    session.find? "contains" = some contains ∧ session.find? "doesNotContain" = some doesNotContain ∧
    session.find? "containsOneOf" = some containsOneOf ∧
    Operator.EqualityLaws equal notEqual isIn notIn contains doesNotContain containsOneOf :=
  ⟨_, _, _, _, _, _, _, rfl, rfl, rfl, rfl, rfl, rfl, rfl, Operator.equalityLaws⟩

end Operators

end Troubleshoot
