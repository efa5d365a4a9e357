import Mathlib.Algebra.Ring.Parity
import Troubleshoot.Json.Basic
import Troubleshoot.Proofs.Number.Rounding

namespace Troubleshoot

namespace Binary64

variable {q q' : ℚ} {r r' : Int} {m : Nat} {i : Int}

theorem rank_of_negative {x : Binary64} (h : x.negative) : x.rank = -x.magnitude :=
  if_pos h

theorem rank_of_not_negative {x : Binary64} (h : ¬x.negative) : x.rank = x.magnitude :=
  if_neg h

theorem natAbs_rank (x : Binary64) : x.rank.natAbs = x.magnitude := by
  unfold rank
  split <;> simp

-- What a rank stands for.
def scale (rank : Int) : ℚ :=
  if rank < 0 then -size rank.natAbs else size rank.natAbs

theorem scale_natCast (m : Nat) : scale m = size m := by
  simp [scale]

theorem scale_neg_natCast (m : Nat) : scale (-m) = -size m := by
  cases m
  case zero => simp [scale, size_zero]
  case succ m => rw [scale, if_pos (by omega), Int.natAbs_neg, Int.natAbs_natCast]

theorem scale_zero : scale 0 = 0 :=
  (scale_natCast 0).trans size_zero

theorem scale_lt_succ (r : Int) : scale r < scale (r + 1) := by
  cases r
  case ofNat m =>
    have h : scale (m + 1 : Nat) = size (m + 1) := scale_natCast (m + 1)
    exact ((scale_natCast m).trans_lt (size_strictMono (Nat.lt_succ_self m))).trans_eq h.symm
  case negSucc m =>
    -- below zero a step up leads to the magnitude before
    have h : Int.negSucc m + 1 = -m := by omega
    rw [h, Int.negSucc_eq, ← Nat.cast_succ, scale_neg_natCast, scale_neg_natCast]
    exact neg_lt_neg (size_strictMono (Nat.lt_succ_self m))

theorem scale_le_iff : scale r ≤ scale r' ↔ r ≤ r' :=
  (strictMono_int_of_lt_succ scale_lt_succ).le_iff_le

theorem abs_scale (r : Int) : |scale r| = size r.natAbs := by
  have h := size_nonneg r.natAbs
  unfold scale
  split
  case isTrue => rw [abs_neg, abs_of_nonneg h]
  case isFalse => exact abs_of_nonneg h

-- The rank that is nearest to a number. All numbers that are rounded to zero share one.
structure RoundedTo (q : ℚ) (r : Int) : Prop where
  rounded : Rounded |q| r.natAbs
  nonneg : 0 ≤ q → 0 ≤ r
  nonpos : q ≤ 0 → r ≤ 0

namespace RoundedTo

theorem mono (h : RoundedTo q r) (h' : RoundedTo q' r') (hq : q ≤ q') : r ≤ r' := by
  rcases le_total 0 q with h0 | h0
  case inl =>
    have hm := h.rounded.mono h'.rounded (abs_le_abs_of_nonneg h0 hq)
    have := h.nonneg h0
    have := h'.nonneg (h0.trans hq)
    omega
  case inr =>
    have hr := h.nonpos h0
    rcases le_total 0 q' with h0' | h0'
    case inl => exact hr.trans (h'.nonneg h0')
    case inr =>
      have hm := h'.rounded.mono h.rounded (abs_le_abs_of_nonpos h0' hq)
      have := h'.nonpos h0'
      omega

theorem unique (h : RoundedTo q r) (h' : RoundedTo q r') : r = r' :=
  le_antisymm (h.mono h' le_rfl) (h'.mono h le_rfl)

end RoundedTo

theorem roundedTo_scale (hr : r.natAbs ≤ infinity) : RoundedTo (scale r) r where
  rounded := abs_scale r ▸ rounded_size hr
  nonneg h := scale_le_iff.mp (scale_zero.trans_le h)
  nonpos h := scale_le_iff.mp (h.trans_eq scale_zero.symm)

theorem roundedTo_ofInt (i : Int) : RoundedTo i (ofInt i).rank where
  rounded := by
    have h := rounded_ofRatio (i < 0) i.natAbs Nat.one_pos
    rw [Nat.cast_one, div_one, Nat.cast_natAbs, Int.cast_abs] at h
    rwa [natAbs_rank]
  nonneg h := by
    have hi : ¬i < 0 := not_lt.mpr (Int.cast_nonneg_iff.mp h)
    rw [rank_of_not_negative (mt of_decide_eq_true hi)]
    exact Int.natCast_nonneg _
  nonpos h := by
    rcases (Int.cast_nonpos.mp h).lt_or_eq with hi | rfl
    case inl =>
      rw [rank_of_negative (decide_eq_true hi)]
      exact Int.neg_nonpos_of_nonneg (Int.natCast_nonneg _)
    case inr => decide +kernel

-- With zeros behind it, a number of at most 53 binary digits has 53 of them.
theorem exists_zeros {n : Nat} (h0 : n ≠ 0) (hn : n ≤ 2 ^ 53) :
    ∃ zeros ≤ 52, 2 ^ 52 ≤ n * 2 ^ zeros ∧ n * 2 ^ zeros ≤ 2 ^ 53 := by
  refine ⟨52 - n.log2, Nat.sub_le .., ?low, ?high⟩
  case low => calc
    2 ^ 52 ≤ 2 ^ (n.log2 + (52 - n.log2)) := Nat.pow_le_pow_right (by decide) (by omega)
    _ = 2 ^ n.log2 * 2 ^ (52 - n.log2) := Nat.pow_add ..
    _ ≤ n * 2 ^ (52 - n.log2) := Nat.mul_le_mul_right _ (Nat.log2_self_le h0)
  case high =>
    by_cases hl : n.log2 ≤ 52
    case pos => calc
      n * 2 ^ (52 - n.log2) ≤ 2 ^ (n.log2 + 1) * 2 ^ (52 - n.log2) := Nat.mul_le_mul_right _ Nat.lt_log2_self.le
      _ = 2 ^ (n.log2 + 1 + (52 - n.log2)) := (Nat.pow_add ..).symm
      _ = 2 ^ 53 := congrArg (2 ^ ·) (by omega)
    case neg => rwa [Nat.sub_eq_zero_of_le (by omega), Nat.pow_zero, Nat.mul_one]

theorem exists_size_eq {n : Nat} (hn : n ≤ 2 ^ 53) : ∃ m ≤ infinity, size m = n := by
  rcases eq_or_ne n 0 with rfl | h0
  case inl => exact ⟨0, Nat.zero_le _, size_zero.trans Nat.cast_zero.symm⟩
  case inr =>
    obtain ⟨zeros, hz, hlow, hhigh⟩ := exists_zeros h0 hn
    have hi : infinity = 2047 * 2 ^ 52 := rfl
    have hp : (2 : ℚ) ^ zeros * 2 ^ (1074 - zeros) = 2 ^ 1074 := by
      rw [← pow_add, Nat.add_sub_cancel' (by omega)]
    have hone : (2 : ℚ) ^ zeros * step (1074 - zeros) = 1 := by
      rw [step, ← mul_div_assoc, hp, div_self (by positivity)]
    refine ⟨(1074 - zeros) * 2 ^ 52 + n * 2 ^ zeros, by omega, ?_⟩
    rw [size_steps rfl hhigh (.inr hlow), Nat.cast_mul, Nat.cast_pow, Nat.cast_ofNat, mul_assoc, hone, mul_one]

theorem scale_rank_ofInt (hi : |i| ≤ 2 ^ 53) : scale (ofInt i).rank = i := by
  rw [Int.abs_eq_natAbs] at hi
  obtain ⟨m, hm, hs⟩ := exists_size_eq (n := i.natAbs) (by omega)
  obtain ⟨r, hr, hi⟩ : ∃ r : Int, r.natAbs = m ∧ scale r = i := by
    obtain ⟨n, rfl | rfl⟩ := i.eq_nat_or_neg
    · exact ⟨m, by simp, by simpa [scale_natCast] using hs⟩
    · exact ⟨-m, by simp, by simpa [scale_neg_natCast] using hs⟩
  have h := roundedTo_scale (hr.trans_le hm)
  rw [hi] at h
  rw [(roundedTo_ofInt i).unique h, hi]

-- Where numbers are that large, the steps are even.
theorem exists_even_of_size (h : 2 ^ 53 < size m) : ∃ n : Nat, size m = 2 * n := by
  obtain ⟨shift, below, rfl, hb, hs⟩ := exists_steps m
  rw [size_steps rfl hb.le hs] at h ⊢
  have hshift : 1075 ≤ shift := by
    by_contra! hlt
    have hstep : step shift ≤ 1 :=
      div_le_one_of_le₀ (pow_le_pow_right₀ (by norm_num) (by omega)) (by positivity)
    have hb : (below : ℚ) ≤ 2 ^ 53 := by exact_mod_cast hb.le
    have := mul_le_mul hb hstep step_pos.le (by positivity)
    linarith
  obtain ⟨e, rfl⟩ := Nat.exists_eq_add_of_le hshift
  refine ⟨below * 2 ^ e, ?_⟩
  have hstep : step (1075 + e) = 2 * 2 ^ e := by
    rw [step, div_eq_iff (by positivity), (by omega : 1075 + e = 1 + e + 1074), pow_add, pow_add, pow_one]
  rw [hstep]
  push_cast
  ring

-- No double lies between the two neighbours of a large odd integer.
theorem scale_beside (hi : Odd i) (h : 2 ^ 53 < |i|) (r : Int) :
    scale r ≤ (i - 1 : Int) ∨ (i + 1 : Int) ≤ scale r := by
  by_cases hr : 2 ^ 53 < |scale r|
  case pos =>
    obtain ⟨n, hn⟩ : ∃ n : Int, scale r = (2 * n : Int) := by
      obtain ⟨n, hn⟩ := exists_even_of_size (abs_scale r ▸ hr)
      rcases eq_or_eq_neg_of_abs_eq ((abs_scale r).trans hn) with hs | hs
      · exact ⟨n, by rw [hs]; push_cast; rfl⟩
      · exact ⟨-n, by rw [hs]; push_cast; ring⟩
    obtain ⟨k, rfl⟩ := hi
    rw [hn, Int.cast_le, Int.cast_le]
    omega
  case neg =>
    rw [not_lt, abs_le] at hr
    rcases lt_abs.mp h with h | h
    case inl =>
      have : (2 ^ 53 : ℚ) ≤ (i - 1 : Int) := by exact_mod_cast Int.le_sub_one_of_lt h
      exact .inl (hr.2.trans this)
    case inr =>
      have : (i + 1 : Int) ≤ -(2 ^ 53 : ℚ) := by exact_mod_cast (by omega : i + 1 ≤ -2 ^ 53)
      exact .inr (this.trans hr.1)

theorem rank_ofInt_merged (hi : Odd i) (h : 2 ^ 53 < |i|) :
    (ofInt (i - 1)).rank = (ofInt i).rank ∨ (ofInt (i + 1)).rank = (ofInt i).rank := by
  have hr := roundedTo_ofInt i
  have hs := roundedTo_scale hr.rounded.le
  rcases scale_beside hi h (ofInt i).rank with hle | hle
  case inl =>
    have hp := roundedTo_ofInt (i - 1)
    exact .inl (le_antisymm (hp.mono hr (Int.cast_le.mpr (by omega))) (hs.mono hp hle))
  case inr =>
    have hn := roundedTo_ofInt (i + 1)
    exact .inr (le_antisymm (hn.mono hs hle) (hr.mono hn (Int.cast_le.mpr (by omega))))

end Binary64

namespace Number

variable {a : Number}

-- The number itself, before any rounding.
def value : Number → ℚ
  | .int i => i
  | .real x => Binary64.scale x.val.rank

-- What two numbers are compared by.
def rank (a : Number) : Int :=
  a.toBinary64.rank

-- Numbers that are doubles: those written as such, and integers that are small enough.
def IsExact : Number → Prop
  | .int i => |i| ≤ 2 ^ 53
  | .real _ => True

theorem magnitude_le (a : Number) : a.toBinary64.magnitude ≤ Binary64.infinity := by
  cases a
  case int i => exact Binary64.nearest_le ..
  case real x => exact Nat.le_of_lt x.property

theorem not_nan_toBinary64 (a : Number) : ¬a.toBinary64.IsNaN :=
  Nat.not_lt_of_le a.magnitude_le

theorem roundedTo_rank (a : Number) : Binary64.RoundedTo a.value a.rank := by
  cases a
  case int i => exact Binary64.roundedTo_ofInt i
  case real x => exact Binary64.roundedTo_scale ((Binary64.natAbs_rank _).trans_le (magnitude_le (.real x)))

theorem scale_rank (h : a.IsExact) : Binary64.scale a.rank = a.value := by
  cases a
  case int i => exact Binary64.scale_rank_ofInt h
  case real x => rfl

end Number

end Troubleshoot
