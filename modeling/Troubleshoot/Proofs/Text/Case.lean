import Mathlib
import Troubleshoot.Text.Case

namespace Troubleshoot.Text

variable {c d : Char} {before cs ds : List Char}

-- The lower-case letters that ASCII letters alone have for their lower-case form.
def isPlain (d : Char) : Bool :=
  d.isLower && d ≠ 'i' && d ≠ 'k'

theorem isPlain_iff :
    isPlain d ↔ 97 ≤ d.toNat ∧ d.toNat ≤ 122 ∧ d.toNat ≠ 'i'.toNat ∧ d.toNat ≠ 'k'.toNat := by
  simp [isPlain, Char.isLower, UInt32.le_iff_toNat_le, and_assoc, ← Char.toNat_inj]

theorem lowerRuns_apart : ∀ run ∈ lowerRuns,
    run.first = 65 ∧ run.last = 90 ∧ run.shift = 32 ∨
      128 ≤ run.first ∧ (128 ≤ run.first + run.shift ∨
        run.first = run.last ∧ run.first + run.shift = 'k'.toNat) := by
  decide +kernel

theorem ofNat_eq_iff {n : Nat} (hd : isPlain d) : Char.ofNat n = d ↔ n = d.toNat := by
  constructor
  case mp =>
    rintro rfl
    rw [isPlain_iff, Char.toNat_ofNat] at hd
    rw [Char.toNat_ofNat]
    split at hd
    case isTrue hv => rw [if_pos hv]
    case isFalse => omega
  case mpr =>
    rintro rfl
    exact Char.ofNat_toNat d

theorem isUpper_iff : c.isUpper ↔ 65 ≤ c.toNat ∧ c.toNat ≤ 90 := by
  simp [Char.isUpper, UInt32.le_iff_toNat_le]

theorem toLower_eq_iff (hd : isPlain d) :
    c.toLower = d ↔ c.toNat = d.toNat ∨ c.toNat + 32 = d.toNat := by
  have hletter := isPlain_iff.mp hd
  by_cases hc : c.isUpper
  case pos =>
    rw [Char.toLower_eq_of_isUpper hc, ofNat_eq_iff hd]
    rw [isUpper_iff] at hc
    omega
  case neg =>
    rw [Char.toLower_eq_of_not_isUpper hc, ← Char.toNat_inj]
    rw [isUpper_iff] at hc
    omega

theorem lowerChar_eq_iff (hd : isPlain d) : lowerChar c = d ↔ c.toLower = d := by
  rw [toLower_eq_iff hd]
  unfold lowerChar
  split
  case h_1 run h =>
    have hhas : run.has c.toNat = true := List.find?_some (p := (CaseRun.has · c.toNat)) h
    have hrun := lowerRuns_apart run (List.mem_of_find?_eq_some h)
    rw [ofNat_eq_iff hd]
    rw [isPlain_iff] at hd
    simp only [CaseRun.has, Bool.and_eq_true, decide_eq_true_eq] at hhas
    simp only [Char.reduceToNat] at hd hrun
    omega
  case h_2 h =>
    have hnone := List.find?_eq_none.mp h ⟨0x41, 0x5a, 1, 32⟩ (.head _)
    rw [isPlain_iff] at hd
    simp [CaseRun.has] at hnone
    rw [← Char.toNat_inj]
    omega

-- The two letters that are not lower-cased one by one have a form that is not plain.
theorem lower_append_eq_iff {rest after : List Char} (hd : isPlain d) :
    lowerFrom.lower before c rest ++ after = d :: ds ↔ c.toLower = d ∧ after = ds := by
  unfold lowerFrom.lower
  split
  case isTrue h =>
    subst h
    refine iff_of_false (fun h => ?_) (fun h => ?_)
    · have hsigma := (List.cons.inj h).1
      split at hsigma
      all_goals subst hsigma; cases hd
    · obtain ⟨rfl, _⟩ := h
      cases hd
  case isFalse =>
    split
    case isTrue h =>
      subst h
      refine iff_of_false (fun h => ?_) (fun h => ?_)
      · obtain ⟨rfl, _⟩ := List.cons.inj h
        cases hd
      · obtain ⟨rfl, _⟩ := h
        cases hd
    case isFalse =>
      rw [List.singleton_append, List.cons.injEq, lowerChar_eq_iff hd]

theorem lowerFrom_eq_iff (h : ∀ d ∈ ds, isPlain d) :
    lowerFrom before cs = ds ↔ cs.map Char.toLower = ds := by
  induction cs generalizing before ds
  case nil => rfl
  case cons c cs ih =>
    cases ds
    case nil =>
      refine iff_of_false (fun h => ?_) nofun
      rw [lowerFrom, List.append_eq_nil_iff, lowerFrom.lower] at h
      split at h
      case isTrue => cases h.1
      case isFalse => split at h <;> cases h.1
    case cons d ds =>
      simp only [List.forall_mem_cons] at h
      rw [lowerFrom, List.map_cons, List.cons.injEq, lower_append_eq_iff h.1, ih h.2]

theorem toList_toLower (word : String) : word.toLower.toList = word.toList.map Char.toLower :=
  String.toList_map

theorem lowerCase_eq_iff {word target : String} (h : ∀ d ∈ target.toList, isPlain d) :
    lowerCase word = target ↔ word.toLower = target := by
  rw [← String.toList_inj, ← String.toList_inj, lowerCase, String.toList_ofList, toList_toLower,
    lowerFrom_eq_iff h]

end Troubleshoot.Text
