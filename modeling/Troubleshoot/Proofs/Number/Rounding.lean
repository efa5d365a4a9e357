import Mathlib.Algebra.Order.Field.Rat
import Mathlib.Order.Monotone.Basic
import Mathlib.Tactic.FieldSimp
import Mathlib.Tactic.Linarith
import Mathlib.Tactic.Positivity
import Mathlib.Tactic.Ring
import Troubleshoot.Number.Binary64

namespace Troubleshoot.Binary64

variable {m k shift below : Nat} {q : ℚ}

theorem units_subnormal (h : m < 2 ^ 52) : units m = m := by
  have hd : m / Nat.pow 2 52 = 0 := Nat.div_eq_of_lt h
  simp only [units, hd]

theorem units_normal {e fraction : Nat} (hm : m = (e + 1) * 2 ^ 52 + fraction) (hf : fraction < 2 ^ 52) :
    units m = (2 ^ 52 + fraction) * 2 ^ e := by
  have hd : m / Nat.pow 2 52 = e + 1 := by rw [Nat.pow_eq]; omega
  have hr : m % Nat.pow 2 52 = fraction := by rw [Nat.pow_eq]; omega
  simp only [units, hd, hr]
  rfl

-- The steps of a binade are equally long, and its last one leads to the first number of the next.
theorem units_steps (hb : below ≤ 2 ^ 53) (hs : shift = 0 ∨ 2 ^ 52 ≤ below) :
    units (shift * 2 ^ 52 + below) = below * 2 ^ shift := by
  by_cases hl : below < 2 ^ 52
  case pos =>
    obtain rfl : shift = 0 := hs.resolve_right (Nat.not_le_of_lt hl)
    simpa using units_subnormal hl
  case neg =>
    rcases Nat.lt_or_eq_of_le hb with hb | rfl
    case inl =>
      obtain ⟨fraction, rfl⟩ := Nat.exists_eq_add_of_le (Nat.le_of_not_lt hl)
      exact units_normal (by omega) (by omega)
    case inr =>
      have hu : units (shift * 2 ^ 52 + 2 ^ 53) = (2 ^ 52 + 0) * 2 ^ (shift + 1) :=
        units_normal (by omega) (by decide)
      rw [hu]
      ring

-- Every magnitude is some steps into a binade.
theorem exists_steps (m : Nat) :
    ∃ shift below, m = shift * 2 ^ 52 + below ∧ below < 2 ^ 53 ∧ (shift = 0 ∨ 2 ^ 52 ≤ below) := by
  by_cases hm : m < 2 ^ 52
  case pos => exact ⟨0, m, by omega, by omega, .inl rfl⟩
  case neg => exact ⟨m / 2 ^ 52 - 1, 2 ^ 52 + m % 2 ^ 52, by omega, by omega, .inr (Nat.le_add_right ..)⟩

theorem units_lt_succ (m : Nat) : units m < units (m + 1) := by
  obtain ⟨shift, below, rfl, hb, hs⟩ := exists_steps m
  rw [Nat.add_assoc, units_steps hb.le hs, units_steps hb (hs.imp_right Nat.le_succ_of_le)]
  exact Nat.mul_lt_mul_of_pos_right (Nat.lt_succ_self below) (Nat.two_pow_pos shift)

theorem units_strictMono : StrictMono units :=
  strictMono_nat_of_lt_succ units_lt_succ

-- What a magnitude stands for.
def size (magnitude : Nat) : ℚ :=
  units magnitude / 2 ^ 1074

theorem size_strictMono : StrictMono size := fun _ _ h =>
  div_lt_div_of_pos_right (Nat.cast_lt.mpr (units_strictMono h)) (by positivity)

theorem size_zero : size 0 = 0 := by
  simp [size, units]

theorem size_nonneg (m : Nat) : 0 ≤ size m :=
  size_zero ▸ size_strictMono.monotone (Nat.zero_le m)

-- The magnitude that is nearest to a number, and of two that are equally near the even one.
structure Rounded (q : ℚ) (m : Nat) : Prop where
  le : m ≤ infinity
  nearest : ∀ k ≤ infinity, |size m - q| ≤ |size k - q|
  even : ∀ k ≤ infinity, |size k - q| = |size m - q| → k = m ∨ m % 2 = 0

theorem nearer_above_iff {a b : ℚ} (h : a < b) : |b - q| ≤ |a - q| ↔ a + b ≤ 2 * q := by
  rw [← sq_le_sq]
  constructor
  · intro; nlinarith
  · intro; nlinarith

theorem nearer_below_iff {a b : ℚ} (h : a < b) : |a - q| ≤ |b - q| ↔ 2 * q ≤ a + b := by
  rw [← sq_le_sq]
  constructor
  · intro; nlinarith
  · intro; nlinarith

-- A number on the near side of the middles between one magnitude and all others.
theorem rounded_of_middles {r : Nat} (hr : r ≤ infinity) (hl : ∀ k < r, size k + size r ≤ 2 * q)
    (hu : ∀ k ≤ infinity, r < k → 2 * q ≤ size r + size k)
    (he : ∀ k ≤ infinity, k ≠ r → 2 * q = size k + size r → r % 2 = 0) : Rounded q r where
  le := hr
  nearest k hk := by
    rcases Nat.lt_trichotomy k r with hlt | rfl | hgt
    case inl => exact (nearer_above_iff (size_strictMono hlt)).mpr (hl k hlt)
    case inr.inl => exact le_rfl
    case inr.inr => exact (nearer_below_iff (size_strictMono hgt)).mpr (hu k hk hgt)
  even k hk htie := by
    rcases Nat.lt_trichotomy k r with hlt | rfl | hgt
    case inl =>
      have := (nearer_below_iff (size_strictMono hlt)).mp htie.le
      exact .inr (he k hk hlt.ne (by linarith [hl k hlt]))
    case inr.inl => exact .inl rfl
    case inr.inr =>
      have := (nearer_above_iff (size_strictMono hgt)).mp htie.le
      exact .inr (he k hk hgt.ne' (by linarith [hu k hk hgt]))

-- What a magnitude stands for is rounded to no other.
theorem rounded_size (hm : m ≤ infinity) : Rounded (size m) m where
  le := hm
  nearest k _ := by
    rw [sub_self, abs_zero]
    exact abs_nonneg _
  even k _ htie := by
    rw [sub_self, abs_zero, abs_eq_zero, sub_eq_zero] at htie
    exact .inl (size_strictMono.injective htie)

-- A number in the lower half of a step.
theorem rounded_below (hm : m ≤ infinity) (hl : size m ≤ q) (h : 2 * q ≤ size m + size (m + 1))
    (he : 2 * q = size m + size (m + 1) → m % 2 = 0) : Rounded q m := by
  have hbelow {k : Nat} (hk : k < m) : size k < size m := size_strictMono hk
  have habove {k : Nat} (hk : m < k) : size (m + 1) ≤ size k := size_strictMono.monotone hk
  apply rounded_of_middles hm
  case hl => exact fun k hk => by linarith [hbelow hk]
  case hu => exact fun k _ hk => by linarith [habove hk]
  case he =>
    intro k _ hne htie
    apply he
    rcases Nat.lt_or_gt_of_ne hne with hk | hk
    · linarith [hbelow hk]
    · linarith [habove hk]

-- A number in the upper half of a step.
theorem rounded_above (hm : m < infinity) (hh : q ≤ size (m + 1)) (h : size m + size (m + 1) ≤ 2 * q)
    (he : 2 * q = size m + size (m + 1) → (m + 1) % 2 = 0) : Rounded q (m + 1) := by
  have hbelow {k : Nat} (hk : k < m + 1) : size k ≤ size m := size_strictMono.monotone (Nat.le_of_lt_succ hk)
  have habove {k : Nat} (hk : m + 1 < k) : size (m + 1) < size k := size_strictMono hk
  apply rounded_of_middles hm
  case hl => exact fun k hk => by linarith [hbelow hk]
  case hu => exact fun k _ hk => by linarith [habove hk]
  case he =>
    intro k _ hne htie
    apply he
    rcases Nat.lt_or_gt_of_ne hne with hk | hk
    · linarith [hbelow hk]
    · linarith [habove hk]

theorem rounded_infinity (h : size (infinity - 1) + size infinity ≤ 2 * q) : Rounded q infinity := by
  have hbelow {k : Nat} (hk : k < infinity) : size k ≤ size (infinity - 1) :=
    size_strictMono.monotone (Nat.le_sub_one_of_lt hk)
  apply rounded_of_middles le_rfl
  case hl => exact fun k hk => by linarith [hbelow hk]
  case hu => exact fun k hk hlt => absurd hk hlt.not_ge
  case he => exact fun _ _ _ _ => by decide

-- Divided by the length of a step, a number keeps 53 digits, unless it has fewer.
theorem steps_lt (n : Nat) : n / 2 ^ (n.log2 - 52) < 2 ^ 53 := by
  apply Nat.div_lt_of_lt_mul
  rw [← Nat.pow_add]
  calc n < 2 ^ (n.log2 + 1) := Nat.lt_log2_self
    _ ≤ 2 ^ (n.log2 - 52 + 53) := Nat.pow_le_pow_right (by decide) (by omega)

theorem le_steps (n : Nat) : n.log2 - 52 = 0 ∨ 2 ^ 52 ≤ n / 2 ^ (n.log2 - 52) := by
  by_cases hn : n.log2 ≤ 52
  case pos => exact .inl (by omega)
  case neg =>
    have h0 : n ≠ 0 := by rintro rfl; exact hn (by decide)
    have hp : n.log2 = 52 + (n.log2 - 52) := by omega
    refine .inr ((Nat.le_div_iff_mul_le (Nat.two_pow_pos _)).mpr ?_)
    rw [← Nat.pow_add, ← hp]
    exact Nat.log2_self_le h0

-- The length of the steps of a binade.
def step (shift : Nat) : ℚ :=
  2 ^ shift / 2 ^ 1074

theorem step_pos : 0 < step shift :=
  div_pos (by positivity) (by positivity)

theorem size_steps (hm : m = shift * 2 ^ 52 + below) (hb : below ≤ 2 ^ 53)
    (hs : shift = 0 ∨ 2 ^ 52 ≤ below) : size m = below * step shift := by
  rw [size, hm, units_steps hb hs, Nat.cast_mul, Nat.cast_pow, Nat.cast_ofNat, mul_div_assoc, step]

-- A number that is the part `t` of a step beyond a magnitude is rounded up if that is most of the
-- step, or half of it and the magnitude is odd.
theorem rounded_steps {t : ℚ} (hm : m = shift * 2 ^ 52 + below) (hb : below < 2 ^ 53)
    (hs : shift = 0 ∨ 2 ^ 52 ≤ below) (h0 : 0 ≤ t) (h1 : t ≤ 1) :
    Rounded ((below + t) * step shift)
      (min (m + if 1 < 2 * t ∨ 1 = 2 * t ∧ below % 2 = 1 then 1 else 0) infinity) := by
  have hu : 0 < step shift := step_pos
  have heven : m % 2 = below % 2 := by omega
  have hm1 : size (m + 1) = (below + 1 : Nat) * step shift :=
    size_steps (by omega) hb (hs.imp_right Nat.le_succ_of_le)
  have hm : size m = below * step shift := size_steps hm hb.le hs
  rw [Nat.cast_succ] at hm1
  by_cases hi : m < infinity
  case neg =>
    have hl := size_strictMono.monotone (Nat.le_of_not_lt hi)
    have hs : size (infinity - 1) < size infinity := size_strictMono (by decide)
    rw [Nat.min_eq_right (by omega)]
    exact rounded_infinity (by nlinarith)
  case pos =>
    rw [Nat.min_eq_left (by split <;> omega)]
    split
    case isTrue h =>
      have ht : 1 ≤ 2 * t := by rcases h with h | h <;> linarith
      apply rounded_above hi (by nlinarith) (by nlinarith)
      intro htie
      rcases h with h | h
      · nlinarith
      · omega
    case isFalse h =>
      have ht : 2 * t ≤ 1 := not_lt.mp (mt Or.inl h)
      apply rounded_below hi.le (by nlinarith) (by nlinarith)
      intro htie
      have heq : 1 = 2 * t := by nlinarith
      have := mt (fun ho => Or.inr (And.intro heq ho)) h
      omega

theorem nearest_rounded {num den : Nat} (hd : 0 < den) (hq : q = num / den / 2 ^ 1074) :
    Rounded q (nearest num den) := by
  set shift := (num / den).log2 - 52 with hshift
  set unit := den * 2 ^ shift with hunit
  set below := num / unit with hbelow
  set rest := num % unit with hrest
  have hsteps : below = num / den / 2 ^ shift := (Nat.div_div_eq_div_mul ..).symm
  have hu : 0 < unit := Nat.mul_pos hd (Nat.two_pow_pos _)
  have hq : q = (below + rest / unit) * step shift := by
    have hnum : (num : ℚ) = below * unit + rest := by exact_mod_cast (Nat.div_add_mod' ..).symm
    have hunit : (unit : ℚ) = den * 2 ^ shift := by rw [hunit]; push_cast; rfl
    have : (den : ℚ) ≠ 0 := by positivity
    rw [hq, hnum, step, hunit]
    field_simp
  have hr := rounded_steps (t := rest / unit) rfl (hsteps ▸ steps_lt (num / den)) (hsteps ▸ le_steps (num / den))
    (by positivity) (by rw [div_le_one (by positivity)]; exact_mod_cast (Nat.mod_lt _ hu).le)
  have hlt : (1 : ℚ) < 2 * (rest / unit) ↔ unit < 2 * rest := by
    rw [← mul_div_assoc, one_lt_div (by positivity)]
    exact_mod_cast Iff.rfl
  have heq : (1 : ℚ) = 2 * (rest / unit) ↔ unit = 2 * rest := by
    rw [← mul_div_assoc, eq_div_iff (by positivity), one_mul]
    exact_mod_cast Iff.rfl
  simp only [hlt, heq] at hr
  rw [hq]
  exact hr

namespace Rounded

variable {q' : ℚ} {m' : Nat}

-- Rounding never inverts two numbers: only the middle of two magnitudes could be rounded to both, and
-- of these, being even, neither is nearest, for there is an odd one between them.
theorem mono (h : Rounded q m) (h' : Rounded q' m') (hq : q ≤ q') : m ≤ m' := by
  by_contra! hlt
  have hs := size_strictMono hlt
  have hl : size m' + size m ≤ 2 * q := (nearer_above_iff hs).mp (h.nearest m' h'.le)
  have hu : 2 * q' ≤ size m' + size m := (nearer_below_iff hs).mp (h'.nearest m h.le)
  obtain rfl : q = q' := by linarith
  have htie : |size m' - q| = |size m - q| :=
    le_antisymm ((nearer_below_iff hs).mpr hu) ((nearer_above_iff hs).mpr hl)
  have he : m % 2 = 0 := (h.even m' h'.le htie).resolve_left hlt.ne
  have he' : m' % 2 = 0 := (h'.even m h.le htie.symm).resolve_left hlt.ne'
  have hbetween := size_strictMono (show m' + 1 < m by omega)
  have hodd := (nearer_above_iff hbetween).mp (h.nearest (m' + 1) ((show m' + 1 ≤ m by omega).trans h.le))
  linarith [size_strictMono (Nat.lt_succ_self m')]

theorem unique (h : Rounded q m) (h' : Rounded q m') : m = m' :=
  Nat.le_antisymm (h.mono h' le_rfl) (h'.mono h le_rfl)

end Rounded

-- What numbers have to be below in order to be rounded to a finite magnitude: the middle of the last
-- one and infinity.
def ceiling : ℚ :=
  2 ^ 1024 - 2 ^ 970

theorem size_add_size_infinity : size (infinity - 1) + size infinity = 2 * ceiling := by
  have hstep : step 2045 = 2 ^ 971 := by
    rw [step, div_eq_iff (by positivity), ← pow_add]
  have hl : size (infinity - 1) = (2 ^ 53 - 1 : Nat) * step 2045 :=
    size_steps (by decide) (by decide) (.inr (by decide))
  have hi : size infinity = (2 ^ 53 : Nat) * step 2045 :=
    size_steps (by decide) le_rfl (.inr (by decide))
  rw [hl, hi, hstep, ceiling, (by rw [← pow_add] : (2 : ℚ) ^ 1024 = 2 ^ 54 * 2 ^ 970),
    (by rw [← pow_succ'] : (2 : ℚ) ^ 971 = 2 * 2 ^ 970)]
  generalize (2 : ℚ) ^ 970 = half
  norm_num
  ring

theorem rounded_infinite (h : ceiling ≤ q) : Rounded q infinity :=
  rounded_infinity (by linarith [size_add_size_infinity])

theorem rounded_zero (h0 : 0 ≤ q) (h : 2 * q ≤ 1 / 2 ^ 1074) : Rounded q 0 := by
  have h1 : size 1 = 1 / 2 ^ 1074 := by rw [size, units_subnormal (by decide), Nat.cast_one]
  apply rounded_below (Nat.zero_le _)
  case hl => exact size_zero.trans_le h0
  case h => rwa [size_zero, h1, zero_add]
  case he => intro _; rfl

theorem rounded_ofRatio (negative : Bool) (num : Nat) {den : Nat} (hd : 0 < den) :
    Rounded (num / den) (ofRatio negative num den).magnitude := by
  have h2 : (2 : ℚ) ^ 1074 ≠ 0 := by positivity
  apply nearest_rounded hd
  simp only [Nat.pow_eq, Nat.cast_mul, Nat.cast_pow, Nat.cast_ofNat]
  rw [mul_div_right_comm, mul_div_cancel_right₀ _ h2]

theorem Rounded.lt_infinity_iff (h : Rounded q m) : m < infinity ↔ q < ceiling := by
  have hs : size (infinity - 1) < size infinity := size_strictMono (by decide)
  have hc := size_add_size_infinity
  constructor
  case mp =>
    intro hm
    by_contra! hq
    exact (h.unique (rounded_infinite hq)).not_lt hm
  case mpr =>
    intro hq
    apply h.le.lt_of_ne
    rintro rfl
    have := (nearer_above_iff hs).mp (h.nearest (infinity - 1) (Nat.sub_le ..))
    linarith

end Troubleshoot.Binary64
