import Mathlib.Data.List.DropRight
import Troubleshoot.Text.Blank

namespace Troubleshoot.Text

variable {cs ts : List Char}

-- One text is the other between blanks, and neither starts nor ends with one.
structure Trims (cs ts : List Char) : Prop where
  exists_blanks : ∃ before after,
    cs = before ++ ts ++ after ∧ (∀ c ∈ before, isBlank c) ∧ (∀ c ∈ after, isBlank c)
  first : ∀ c ∈ ts.head?, ¬isBlank c
  last : ∀ c ∈ ts.getLast?, ¬isBlank c

theorem dropWhile_blanks {before rest : List Char} (hb : ∀ c ∈ before, isBlank c)
    (h : ∀ c ∈ rest.head?, ¬isBlank c) : (before ++ rest).dropWhile isBlank = rest := by
  rw [List.dropWhile_append_of_pos hb]
  cases rest
  case nil => rfl
  case cons c rest => exact List.dropWhile_cons_of_neg (h c rfl)

theorem not_blank_of_head? {c : Char} (h : c ∈ (cs.dropWhile isBlank).head?) : ¬isBlank c := by
  have hc := List.head?_dropWhile_not isBlank cs
  rw [Option.mem_def.mp h] at hc
  simp [hc]

theorem trimmed_eq_rdropWhile (cs : List Char) :
    trimmed cs = (cs.dropWhile isBlank).rdropWhile isBlank :=
  rfl

theorem trims_trimmed (cs : List Char) : Trims cs (trimmed cs) where
  exists_blanks := by
    refine ⟨cs.takeWhile isBlank, (cs.dropWhile isBlank).rtakeWhile isBlank, ?_, ?_, ?_⟩
    · rw [trimmed_eq_rdropWhile, List.append_assoc, List.rdropWhile_append_rtakeWhile,
        List.takeWhile_append_dropWhile]
    · exact fun _ => List.mem_takeWhile_imp
    · exact fun _ => List.mem_rtakeWhile_imp
  first c hc := by
    obtain ⟨after, h⟩ := List.rdropWhile_prefix isBlank (cs.dropWhile isBlank)
    apply not_blank_of_head?
    rw [← h, ← trimmed_eq_rdropWhile, List.head?_append, Option.mem_def.mp hc]
    rfl
  last c hc := by
    rw [trimmed, List.getLast?_reverse] at hc
    exact not_blank_of_head? hc

theorem Trims.trimmed_eq (h : Trims cs ts) : trimmed cs = ts := by
  obtain ⟨before, after, rfl, hb, ha⟩ := h.exists_blanks
  cases ts
  case nil =>
    have hnil : (before ++ [] ++ after).dropWhile isBlank = [] := by
      rw [List.append_nil, List.dropWhile_append_of_pos hb]
      exact List.dropWhile_eq_nil_iff.mpr ha
    rw [trimmed, hnil]
    rfl
  case cons c ts =>
    have hfirst : (before ++ c :: ts ++ after).dropWhile isBlank = c :: ts ++ after := by
      rw [List.append_assoc]
      exact dropWhile_blanks hb h.first
    have hlast : (after.reverse ++ (c :: ts).reverse).dropWhile isBlank = (c :: ts).reverse := by
      apply dropWhile_blanks
      · simpa using ha
      · rw [List.head?_reverse]
        exact h.last
    rw [trimmed, hfirst, List.reverse_append, hlast, List.reverse_reverse]

theorem Trims.refl (h : Trims cs ts) : Trims ts ts :=
  ⟨⟨[], [], by simp⟩, h.first, h.last⟩

theorem trim_trim (s : String) : trim (trim s) = trim s := by
  have h : trimmed (trimmed s.toList) = trimmed s.toList := (trims_trimmed _).refl.trimmed_eq
  rw [trim, toList_trim, h, trim]

end Troubleshoot.Text
