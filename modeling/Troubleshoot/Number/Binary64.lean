namespace Troubleshoot

-- The magnitude is the exponent and fraction fields read as one number. Magnitudes are ordered as the
-- values are, and consecutive ones are neighbours, so rounding is a division with remainder.
structure Binary64 where
  negative : Bool
  magnitude : Nat
  magnitude_lt : magnitude < Nat.pow 2 63
deriving DecidableEq

namespace Binary64

-- The magnitude of infinity; those above it are no numbers.
def infinity : Nat := 2047 * Nat.pow 2 52

def ofBits (bits : UInt64) : Binary64 where
  negative := Nat.pow 2 63 ≤ bits.toNat
  magnitude := bits.toNat % Nat.pow 2 63
  magnitude_lt := Nat.mod_lt _ (by decide)

def toBits (x : Binary64) : UInt64 :=
  .ofNat (x.magnitude + if x.negative then Nat.pow 2 63 else 0)

def IsFinite (x : Binary64) : Prop :=
  x.magnitude < infinity

instance (x : Binary64) : Decidable x.IsFinite :=
  inferInstanceAs (Decidable (_ < _))

def IsNaN (x : Binary64) : Prop :=
  infinity < x.magnitude

instance (x : Binary64) : Decidable x.IsNaN :=
  inferInstanceAs (Decidable (_ < _))

theorem IsFinite.not_nan {x : Binary64} (h : x.IsFinite) : ¬x.IsNaN :=
  Nat.lt_asymm h

-- Numbers are ordered as their ranks are; the two zeros share one.
def rank (x : Binary64) : Int :=
  if x.negative then -x.magnitude else x.magnitude

instance : LE Binary64 where
  le x y := ¬x.IsNaN ∧ ¬y.IsNaN ∧ x.rank ≤ y.rank

instance : LT Binary64 where
  lt x y := ¬x.IsNaN ∧ ¬y.IsNaN ∧ x.rank < y.rank

instance (x y : Binary64) : Decidable (x ≤ y) :=
  inferInstanceAs (Decidable (_ ∧ _))

instance (x y : Binary64) : Decidable (x < y) :=
  inferInstanceAs (Decidable (_ ∧ _))

-- Comparison of numbers: `0.0` and `-0.0` are the same, and what is no number differs from all.
def same (x y : Binary64) : Bool :=
  x ≤ y ∧ y ≤ x

-- The value of a finite magnitude, in units of 2⁻¹⁰⁷⁴.
def units (magnitude : Nat) : Nat :=
  match magnitude / Nat.pow 2 52 with
  | 0 => magnitude
  | e + 1 => (Nat.pow 2 52 + magnitude % Nat.pow 2 52) * Nat.pow 2 e

-- The magnitude nearest to `num / den` units; a tie goes to the even one.
def nearest (num den : Nat) : Nat :=
  let shift := (num / den).log2 - 52
  let unit := den * Nat.pow 2 shift
  let below := num / unit
  let rest := num % unit
  let up := unit < 2 * rest ∨ unit = 2 * rest ∧ below % 2 = 1
  min (shift * Nat.pow 2 52 + below + if up then 1 else 0) infinity

theorem nearest_le (num den : Nat) : nearest num den ≤ infinity :=
  Nat.min_le_right ..

-- The double nearest to `num / den` units.
def ofUnits (negative : Bool) (num den : Nat) : Binary64 :=
  ⟨negative, nearest num den, Nat.lt_of_le_of_lt (nearest_le ..) (by decide)⟩

-- The double nearest to a quotient.
def ofRatio (negative : Bool) (num den : Nat) : Binary64 :=
  ofUnits negative (num * Nat.pow 2 1074) den

def ofInt (i : Int) : Binary64 :=
  ofRatio (i < 0) i.natAbs 1

def zero (negative : Bool) : Binary64 :=
  ⟨negative, 0, by decide⟩

def infinite (negative : Bool) : Binary64 :=
  ⟨negative, infinity, by decide⟩

-- The rounded product of finite numbers.
def times (x y : Binary64) : Binary64 :=
  ofUnits (x.negative != y.negative) (units x.magnitude * units y.magnitude) (Nat.pow 2 1074)

-- The rounded quotient of a finite number by one that is not zero.
def dividedBy (x y : Binary64) : Binary64 :=
  ofRatio (x.negative != y.negative) (units x.magnitude) (units y.magnitude)

end Binary64

-- A double that is a number and no infinity.
abbrev Finite64 := { x : Binary64 // x.IsFinite }

def Binary64.finite? (x : Binary64) : Option Finite64 :=
  if h : x.IsFinite then some ⟨x, h⟩ else none

end Troubleshoot
