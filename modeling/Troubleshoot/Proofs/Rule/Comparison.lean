import Troubleshoot.Proofs.Json.Same
import Troubleshoot.Proofs.Number.Order
import Troubleshoot.Rule.Operator

namespace Troubleshoot

-- Equality looks at numbers as they were written, and so tells more of them apart than an order does.
theorem Number.rank_eq_of_same {a b : Number} (h : a.same b) : a.rank = b.rank := by
  cases a <;> cases b <;> first | cases h | skip
  case int.int => exact congrArg (fun i => (Number.int i).rank) (of_decide_eq_true h)
  case real.real => exact Binary64.same_iff.mp h

namespace Operator

-- The laws of four comparisons, and what they have to do with equality and with exact values.
structure OrderLaws (equal lessThan lessThanInclusive greaterThan greaterThanInclusive : Operator) : Prop where
  lessThan_eq : ∀ a b, lessThan a b = greaterThan b a
  lessThan_eq_not : ∀ a b : Number,
    lessThan (.number a) (.number b) = !greaterThanInclusive (.number a) (.number b)
  lessThanInclusive_eq : ∀ a b, lessThanInclusive a b = greaterThanInclusive b a
  lessThanInclusive_eq_not : ∀ a b : Number,
    lessThanInclusive (.number a) (.number b) = !greaterThan (.number a) (.number b)
  refl : ∀ a : Number, lessThanInclusive (.number a) (.number a)
  trans : ∀ a b c : Number, lessThanInclusive (.number a) (.number b) →
    lessThanInclusive (.number b) (.number c) → lessThanInclusive (.number a) (.number c)
  total : ∀ a b : Number, lessThanInclusive (.number a) (.number b) ∨ lessThanInclusive (.number b) (.number a)
  of_equal : ∀ a b : Number, equal (.number a) (.number b) →
    lessThanInclusive (.number a) (.number b) ∧ lessThanInclusive (.number b) (.number a)
  integers : ∀ i j : Int, i ≤ j → lessThanInclusive (.int i) (.int j)
  -- No two numbers are inverted, of whatever kind they are.
  mono : ∀ a b : Number, a.value ≤ b.value → lessThanInclusive (.number a) (.number b)
  exact : ∀ a b : Number, a.IsExact → b.IsExact →
    (lessThanInclusive (.number a) (.number b) ↔ a.value ≤ b.value)
  -- Every second integer is merged with a neighbour where not all of them are exact.
  merged : ∀ i : Int, Odd i → 2 ^ 53 < |i| →
    lessThanInclusive (.int i) (.int (i - 1)) ∨ lessThanInclusive (.int (i + 1)) (.int i)
  unordered : ∀ a b : Json, a.number? = none ∨ b.number? = none →
    ¬lessThan a b ∧ ¬lessThanInclusive a b ∧ ¬greaterThan a b ∧ ¬greaterThanInclusive a b

variable {a b : Number} {r : Binary64 → Binary64 → Bool}

theorem onNumbers_swap (a b : Json) : onNumbers r a b = onNumbers (fun x y => r y x) b a := by
  unfold onNumbers
  cases a.number? <;> cases b.number? <;> rfl

theorem not_onNumbers {a b : Json} (h : a.number? = none ∨ b.number? = none) : ¬onNumbers r a b := by
  unfold onNumbers
  rcases h with h | h
  · simp [h]
  · cases a.number? <;> simp [h]

theorem lessThanInclusive_iff : lessThanInclusive (.number a) (.number b) ↔ a.rank ≤ b.rank :=
  decide_eq_true_iff.trans ⟨fun h => h.2.2, fun h => ⟨a.not_nan_toBinary64, b.not_nan_toBinary64, h⟩⟩

theorem lessThan_iff : lessThan (.number a) (.number b) ↔ a.rank < b.rank :=
  decide_eq_true_iff.trans ⟨fun h => h.2.2, fun h => ⟨a.not_nan_toBinary64, b.not_nan_toBinary64, h⟩⟩

theorem lessThan_eq (a b : Json) : lessThan a b = greaterThan b a :=
  onNumbers_swap a b

theorem lessThanInclusive_eq (a b : Json) : lessThanInclusive a b = greaterThanInclusive b a :=
  onNumbers_swap a b

theorem lessThan_eq_not_lessThanInclusive (a b : Number) :
    lessThan (.number a) (.number b) = !lessThanInclusive (.number b) (.number a) := by
  rw [Bool.eq_iff_iff, Bool.not_eq_true', ← Bool.not_eq_true, lessThan_iff, lessThanInclusive_iff, not_le]

theorem lessThanInclusive_of_value_le (h : a.value ≤ b.value) : lessThanInclusive (.number a) (.number b) :=
  lessThanInclusive_iff.mpr (a.roundedTo_rank.mono b.roundedTo_rank h)

theorem lessThanInclusive_iff_of_exact (ha : a.IsExact) (hb : b.IsExact) :
    lessThanInclusive (.number a) (.number b) ↔ a.value ≤ b.value := by
  rw [lessThanInclusive_iff, ← a.scale_rank ha, ← b.scale_rank hb, Binary64.scale_le_iff]

theorem orderLaws : OrderLaws equal lessThan lessThanInclusive greaterThan greaterThanInclusive where
  lessThan_eq := lessThan_eq
  lessThan_eq_not a b := by rw [← lessThanInclusive_eq, lessThan_eq_not_lessThanInclusive]
  lessThanInclusive_eq := lessThanInclusive_eq
  lessThanInclusive_eq_not a b := by rw [← lessThan_eq, lessThan_eq_not_lessThanInclusive, Bool.not_not]
  refl a := lessThanInclusive_iff.mpr le_rfl
  trans a b c hab hbc :=
    lessThanInclusive_iff.mpr ((lessThanInclusive_iff.mp hab).trans (lessThanInclusive_iff.mp hbc))
  total a b := (le_total a.rank b.rank).imp lessThanInclusive_iff.mpr lessThanInclusive_iff.mpr
  of_equal a b h :=
    have hr := Number.rank_eq_of_same h
    ⟨lessThanInclusive_iff.mpr hr.le, lessThanInclusive_iff.mpr hr.ge⟩
  integers i j h := lessThanInclusive_of_value_le (a := .int i) (b := .int j) (Int.cast_le.mpr h)
  mono _ _ := lessThanInclusive_of_value_le
  exact _ _ := lessThanInclusive_iff_of_exact
  merged i hi h := (Binary64.rank_ofInt_merged hi h).imp
    (fun he => lessThanInclusive_iff.mpr he.ge) (fun he => lessThanInclusive_iff.mpr he.le)
  unordered _ _ h := ⟨not_onNumbers h, not_onNumbers h, not_onNumbers h, not_onNumbers h⟩

end Operator

namespace Operators

theorem builtIn_order : ∃ equal lessThan lessThanInclusive greaterThan greaterThanInclusive,
    builtIn.find? "equal" = some equal ∧ builtIn.find? "lessThan" = some lessThan ∧
    builtIn.find? "lessThanInclusive" = some lessThanInclusive ∧
    builtIn.find? "greaterThan" = some greaterThan ∧
    builtIn.find? "greaterThanInclusive" = some greaterThanInclusive ∧
    Operator.OrderLaws equal lessThan lessThanInclusive greaterThan greaterThanInclusive :=
  ⟨_, _, _, _, _, rfl, rfl, rfl, rfl, rfl, Operator.orderLaws⟩

end Operators

-- The first integer that is no double is taken for the one before it.
example : Operator.lessThanInclusive (.int (2 ^ 53 + 1)) (.int (2 ^ 53)) := by decide +kernel

end Troubleshoot
