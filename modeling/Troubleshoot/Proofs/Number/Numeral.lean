import Mathlib.Data.List.TakeDrop
import Mathlib.Data.List.TakeWhile
import Mathlib.Data.Nat.Digits.Defs
import Troubleshoot.Number.Decimal
import Troubleshoot.Proofs.Number.Rounding

namespace Troubleshoot

-- What a reader that splits a text takes ends before the first character that it does not take.
theorem span_append {p : Char → Bool} {cs rest : List Char} (hcs : ∀ c ∈ cs, p c)
    (h : ∀ c ∈ rest.head?, ¬p c) : (cs ++ rest).span p = (cs, rest) := by
  have hrest : rest.takeWhile p = [] ∧ rest.dropWhile p = rest := by
    cases rest <;> simp_all
  rw [List.span_eq_takeWhile_dropWhile, List.takeWhile_append_of_pos hcs,
    List.dropWhile_append_of_pos hcs, hrest.1, hrest.2, List.append_nil]

-- The number that a row of digits is.
def spelled (ds : List Char) : Nat :=
  Nat.ofDigits 10 (ds.reverse.map Decimal.digitValue)

-- A sign, if any: whether it is a minus.
inductive SignText : Bool → List Char → Prop
  | none : SignText false []
  | plus : SignText false ['+']
  | minus : SignText true ['-']

-- Digits, with or without a point before, between or after them.
inductive MantissaText : ℚ → List Char → Prop
  | whole {ds} : ds ≠ [] → (∀ d ∈ ds, d.isDigit) → MantissaText (spelled ds) ds
  | point {whole fraction} :
    whole ++ fraction ≠ [] → (∀ d ∈ whole ++ fraction, d.isDigit) →
      MantissaText (spelled whole + spelled fraction / 10 ^ fraction.length) (whole ++ '.' :: fraction)

-- A power of ten, if any.
inductive PowerText : ℤ → List Char → Prop
  | none : PowerText 0 []
  | power {e negative sign ds} :
    e = 'e' ∨ e = 'E' → SignText negative sign → ds ≠ [] → (∀ d ∈ ds, d.isDigit) →
      PowerText (if negative then -spelled ds else spelled ds) (e :: sign ++ ds)

-- A decimal number, as its sign and its size.
inductive Numeral : Bool → ℚ → List Char → Prop
  | mk {negative mantissa power sign digits exponent} :
    SignText negative sign → MantissaText mantissa digits → PowerText power exponent →
      Numeral negative (mantissa * 10 ^ power) (sign ++ digits ++ exponent)

theorem MantissaText.exists_digit {mantissa : ℚ} {cs : List Char} (h : MantissaText mantissa cs) :
    ∃ d ∈ cs, d.isDigit := by
  cases h
  case whole hne hd =>
    obtain ⟨d, hm⟩ := List.exists_mem_of_ne_nil _ hne
    exact ⟨d, hm, hd d hm⟩
  case point hne hd =>
    obtain ⟨d, hm⟩ := List.exists_mem_of_ne_nil _ hne
    refine ⟨d, ?_, hd d hm⟩
    simp only [List.mem_append, List.mem_cons] at hm ⊢
    exact hm.imp_right .inr

theorem Numeral.exists_digit {negative : Bool} {size : ℚ} {cs : List Char}
    (h : Numeral negative size cs) : ∃ d ∈ cs, d.isDigit := by
  obtain ⟨_, hm, _⟩ := h
  obtain ⟨d, hd, h⟩ := hm.exists_digit
  exact ⟨d, by simp [hd], h⟩

namespace Decimal

-- How large a decimal is, its sign left aside.
def size (d : Decimal) : ℚ :=
  d.digits * 10 ^ d.exponent

theorem digitsValue_eq_spelled (ds : List Char) : digitsValue 0 ds = spelled ds := by
  rw [spelled, Nat.ofDigits_eq_foldr, List.foldr_map, List.foldr_reverse]
  simp [digitsValue, Nat.add_comm, Nat.mul_comm]

theorem digitsValue_append (whole fraction : List Char) :
    digitsValue (digitsValue 0 whole) fraction =
      spelled whole * 10 ^ fraction.length + spelled fraction := by
  have h : digitsValue (digitsValue 0 whole) fraction = digitsValue 0 (whole ++ fraction) := by
    simp [digitsValue]
  rw [h, digitsValue_eq_spelled, spelled, List.reverse_append, List.map_append, Nat.ofDigits_append]
  simp only [spelled, List.length_map, List.length_reverse]
  ring

variable {ds cs rest s whole after tenths : List Char} {negative : Bool} {power : ℤ} {mantissa q : ℚ} {d : Decimal}

theorem exists_span (cs : List Char) :
    ∃ ds rest, cs.span Char.isDigit = (ds, rest) ∧ cs = ds ++ rest ∧ ∀ d ∈ ds, d.isDigit :=
  ⟨_, _, List.span_eq_takeWhile_dropWhile .., List.takeWhile_append_dropWhile.symm,
    fun _ => List.mem_takeWhile_imp⟩

theorem sign_append (h : SignText negative s) (hrest : ∀ c ∈ rest.head?, c ≠ '+' ∧ c ≠ '-') :
    sign (s ++ rest) = (negative, rest) := by
  cases h
  case plus | minus => rfl
  case none =>
    unfold sign
    split <;> simp_all

theorem exists_sign (cs : List Char) :
    ∃ negative s rest, sign cs = (negative, rest) ∧ cs = s ++ rest ∧ SignText negative s := by
  unfold sign
  split
  case h_1 => exact ⟨_, _, _, rfl, rfl, .minus⟩
  case h_2 => exact ⟨_, _, _, rfl, rfl, .plus⟩
  case h_3 => exact ⟨_, _, _, rfl, rfl, .none⟩

theorem not_sign_of_digit (hd : ∀ d ∈ ds, d.isDigit) : ∀ c ∈ ds.head?, c ≠ '+' ∧ c ≠ '-' := by
  intro c hc
  have h := hd c (List.mem_of_mem_head? hc)
  constructor
  · rintro rfl; cases h
  · rintro rfl; cases h

theorem power?_eq_some_iff : power? cs = some power ↔ PowerText power cs := by
  constructor
  case mp =>
    intro h
    unfold power? at h
    split at h
    case h_1 => cases h; exact .none
    case h_2 e cs =>
      split at h
      case isFalse => cases h
      case isTrue he =>
        obtain ⟨negative, s, ds, hsign, rfl, hs⟩ := exists_sign cs
        simp only [hsign, digitsValue_eq_spelled] at h
        split at h
        case isFalse => cases h
        case isTrue hd =>
          cases h
          exact .power he hs hd.1 (List.all_eq_true.mp hd.2)
  case mpr =>
    rintro (_ | ⟨he, hs, hne, hd⟩)
    case none => rfl
    case power =>
      simp only [power?, List.cons_append, if_pos he, sign_append hs (not_sign_of_digit hd),
        digitsValue_eq_spelled]
      rw [if_pos ⟨hne, List.all_eq_true.mpr hd⟩]

theorem mantissa_of_fraction (hwhole : ∀ d ∈ whole, d.isDigit) (h : fraction after = (tenths, rest))
    (hne : ¬(whole = [] ∧ tenths = [])) :
    ∃ digits, whole ++ after = digits ++ rest ∧
      MantissaText (spelled whole + spelled tenths / 10 ^ tenths.length) digits := by
  unfold fraction at h
  split at h
  case h_1 after =>
    obtain ⟨ds, rest', hspan, rfl, hd⟩ := exists_span after
    obtain ⟨rfl, rfl⟩ := Prod.mk.inj (hspan.symm.trans h)
    refine ⟨whole ++ '.' :: ds, by simp, .point (by simpa using hne) ?_⟩
    simpa [or_imp, forall_and] using ⟨hwhole, hd⟩
  case h_2 =>
    cases h
    refine ⟨whole, rfl, ?_⟩
    simpa [spelled] using MantissaText.whole (fun h => hne ⟨h, rfl⟩) hwhole

theorem fraction_of_mantissa (h : MantissaText mantissa ds)
    (hrest : ∀ c ∈ rest.head?, ¬c.isDigit ∧ c ≠ '.') :
    ∃ whole after tenths, (ds ++ rest).span Char.isDigit = (whole, after) ∧
      fraction after = (tenths, rest) ∧ ¬(whole = [] ∧ tenths = []) ∧
        mantissa = spelled whole + spelled tenths / 10 ^ tenths.length := by
  cases h
  case whole hne hd =>
    refine ⟨ds, rest, [], span_append hd fun c hc => (hrest c hc).1, ?_, by simp [hne], by simp [spelled]⟩
    unfold fraction
    split <;> simp_all
  case point whole tenths hne hd =>
    simp only [List.mem_append, or_imp, forall_and] at hd
    refine ⟨whole, '.' :: tenths ++ rest, tenths, ?_, ?_, by simpa using hne, rfl⟩
    · rw [List.append_assoc]
      exact span_append hd.1 (by simp)
    · exact span_append hd.2 fun c hc => (hrest c hc).1

theorem size_eq (whole fraction : List Char) :
    (⟨negative, digitsValue (digitsValue 0 whole) fraction, power - fraction.length⟩ : Decimal).size =
      (spelled whole + spelled fraction / 10 ^ fraction.length) * 10 ^ power := by
  have h10 : (10 : ℚ) ^ fraction.length ≠ 0 := by positivity
  simp only [size, digitsValue_append, zpow_sub₀ (by norm_num : (10 : ℚ) ≠ 0), zpow_natCast]
  push_cast
  field_simp

theorem numeral_of_ofChars? (h : ofChars? cs = some d) : Numeral d.negative d.size cs := by
  obtain ⟨negative, s, cs, hsign, rfl, hs⟩ := exists_sign cs
  obtain ⟨whole, after, hspan, rfl, hwhole⟩ := exists_span cs
  obtain ⟨tenths, rest, hfraction⟩ : ∃ tenths rest, fraction after = (tenths, rest) := ⟨_, _, rfl⟩
  simp only [ofChars?, hsign, hspan, hfraction] at h
  split at h
  case isTrue => cases h
  case isFalse hne =>
    obtain ⟨digits, hdigits, hm⟩ := mantissa_of_fraction hwhole hfraction hne
    obtain ⟨power, hp, rfl⟩ := Option.map_eq_some_iff.mp h
    rw [hdigits, ← List.append_assoc, size_eq]
    exact .mk hs hm (power?_eq_some_iff.mp hp)

-- What ends a mantissa, if anything does, is the letter before the power.
theorem head_of_power (h : PowerText power rest) : ∀ c ∈ rest.head?, ¬c.isDigit ∧ c ≠ '.' := by
  rintro c hc
  cases h
  case none => cases hc
  case power he _ _ _ =>
    cases hc
    rcases he with rfl | rfl <;> decide

-- What follows a sign is no other sign.
theorem head_of_mantissa (h : MantissaText mantissa ds) :
    ∀ c ∈ (ds ++ rest).head?, c ≠ '+' ∧ c ≠ '-' := by
  cases h
  case whole hne hd =>
    rw [List.head?_append_of_ne_nil _ hne]
    exact not_sign_of_digit hd
  case point whole tenths hne hd =>
    cases whole
    case nil =>
      rintro c ⟨⟩
      decide
    case cons d whole =>
      rintro c ⟨⟩
      exact not_sign_of_digit hd d rfl

theorem numeral_iff : Numeral negative q cs ↔
    ∃ d, ofChars? cs = some d ∧ d.negative = negative ∧ d.size = q := by
  constructor
  case mp =>
    rintro ⟨hs, hm, hp⟩
    obtain ⟨whole, after, tenths, hspan, hfraction, hne, rfl⟩ := fraction_of_mantissa hm (head_of_power hp)
    refine ⟨_, ?_, rfl, size_eq whole tenths⟩
    rw [List.append_assoc]
    simp only [ofChars?, sign_append hs (head_of_mantissa hm), hspan, hfraction, if_neg hne,
      power?_eq_some_iff.mpr hp, Option.map_some]
  case mpr =>
    rintro ⟨d, h, rfl, rfl⟩
    exact numeral_of_ofChars? h

theorem negative_toBinary64 (d : Decimal) : d.toBinary64.negative = d.negative := by
  fun_cases toBinary64 d <;> rfl

-- A number from `10 ^ 309` on is larger than any double.
theorem ceiling_le {digits n : Nat} (h0 : digits ≠ 0) (hn : 309 ≤ n) :
    Binary64.ceiling ≤ digits * 10 ^ n := by
  have h : 2 ^ 1024 ≤ digits * 10 ^ n := calc
    2 ^ 1024 ≤ 10 ^ 309 := by decide +kernel
    _ ≤ 10 ^ n := Nat.pow_le_pow_right (by decide) hn
    _ ≤ digits * 10 ^ n := Nat.le_mul_of_pos_left _ (Nat.pos_of_ne_zero h0)
  have hq : (2 : ℚ) ^ 1024 ≤ digits * 10 ^ n := by exact_mod_cast h
  exact (sub_le_self _ (by positivity)).trans hq

-- With this many places after the point, nothing is left of the digits.
theorem le_half {digits n : Nat} (hn : digits.log2 + 1076 ≤ 3 * n) :
    2 * (digits / 10 ^ n : ℚ) ≤ 1 / 2 ^ 1074 := by
  have h : 2 * digits * 2 ^ 1074 ≤ 10 ^ n := calc
    2 * digits * 2 ^ 1074 ≤ 2 * 2 ^ (digits.log2 + 1) * 2 ^ 1074 :=
      Nat.mul_le_mul_right _ (Nat.mul_le_mul_left 2 Nat.lt_log2_self.le)
    _ = 2 ^ (digits.log2 + 1076) := by rw [← Nat.pow_succ', ← Nat.pow_add]
    _ ≤ 2 ^ (3 * n) := Nat.pow_le_pow_right (by decide) hn
    _ = 8 ^ n := Nat.pow_mul ..
    _ ≤ 10 ^ n := Nat.pow_le_pow_left (by decide) n
  rw [← mul_div_assoc, div_le_div_iff₀ (by positivity) (by positivity), one_mul]
  exact_mod_cast h

open Binary64 in
theorem rounded_toBinary64 (d : Decimal) : Rounded d.size d.toBinary64.magnitude := by
  unfold size
  fun_cases toBinary64 d
  case case1 h0 =>
    rw [h0, Nat.cast_zero, zero_mul]
    exact rounded_zero le_rfl (by rw [mul_zero]; positivity)
  case case2 h0 n he hn =>
    rw [he, Int.ofNat_eq_natCast, zpow_natCast]
    exact rounded_infinite (ceiling_le h0 hn)
  case case3 n he _ =>
    have h := rounded_ofRatio d.negative (d.digits * Nat.pow 10 n) Nat.one_pos
    rw [he, Int.ofNat_eq_natCast, zpow_natCast]
    rwa [Nat.cast_one, div_one, Nat.cast_mul, Nat.pow_eq, Nat.cast_pow] at h
  case case4 n he hn =>
    rw [he, zpow_negSucc, ← div_eq_mul_inv]
    exact rounded_zero (by positivity) (le_half hn)
  case case5 n he _ =>
    have h := rounded_ofRatio d.negative d.digits (Nat.pow_pos (by decide) : 0 < Nat.pow 10 (n + 1))
    rw [he, zpow_negSucc, ← div_eq_mul_inv]
    rwa [Nat.cast_pow] at h

-- The sign and the size of a decimal determine its double.
theorem toBinary64_eq_iff {x : Binary64} :
    d.toBinary64 = x ↔ d.negative = x.negative ∧ Binary64.Rounded d.size x.magnitude := by
  constructor
  case mp =>
    rintro rfl
    exact ⟨d.negative_toBinary64.symm, d.rounded_toBinary64⟩
  case mpr =>
    rintro ⟨hn, hr⟩
    rw [← d.negative_toBinary64] at hn
    have hm := d.rounded_toBinary64.unique hr
    generalize d.toBinary64 = y at hn hm
    cases x
    cases y
    cases hn
    cases hm
    rfl

theorem isFinite_toBinary64_iff : d.toBinary64.IsFinite ↔ d.size < Binary64.ceiling :=
  d.rounded_toBinary64.lt_infinity_iff

end Decimal
end Troubleshoot
