import Troubleshoot.Proofs.Number.Numeral
import Troubleshoot.Proofs.Text.Trim
import Troubleshoot.Session.Answer

namespace Troubleshoot.Answer

open Binary64 (Rounded ceiling)

variable {raw s : String} {x : Binary64} {d : Decimal}

theorem ofText_of_none (h : Decimal.ofChars? (Text.trim raw).toList = none) :
    ofText raw = .text (Text.trim raw) := by
  simp only [ofText, h, Option.map_none]

theorem ofText_of_finite (h : Decimal.ofChars? (Text.trim raw).toList = some d)
    (hf : d.toBinary64.IsFinite) : ofText raw = .number d.toBinary64 := by
  simp only [ofText, h, Option.map_some, if_pos hf]

theorem ofText_of_infinite (h : Decimal.ofChars? (Text.trim raw).toList = some d)
    (hf : ¬d.toBinary64.IsFinite) : ofText raw = .text (Text.trim raw) := by
  simp only [ofText, h, Option.map_some, if_neg hf]

theorem ofText_eq_number_iff : ofText raw = .number x ↔
    ∃ d, Decimal.ofChars? (Text.trim raw).toList = some d ∧ d.toBinary64 = x ∧ x.IsFinite := by
  constructor
  case mp =>
    intro hx
    cases h : Decimal.ofChars? (Text.trim raw).toList
    case none => cases hx.symm.trans (ofText_of_none h)
    case some d =>
      by_cases hf : d.toBinary64.IsFinite
      case pos =>
        cases hx.symm.trans (ofText_of_finite h hf)
        exact ⟨d, rfl, rfl, hf⟩
      case neg => cases hx.symm.trans (ofText_of_infinite h hf)
  case mpr =>
    rintro ⟨d, h, rfl, hf⟩
    exact ofText_of_finite h hf

theorem ofText_eq_text_iff : ofText raw = .text s ↔ s = Text.trim raw ∧
    ∀ d, Decimal.ofChars? (Text.trim raw).toList = some d → ¬d.toBinary64.IsFinite := by
  constructor
  case mp =>
    intro hs
    have hd d (h : Decimal.ofChars? (Text.trim raw).toList = some d) : ¬d.toBinary64.IsFinite := by
      intro hf
      cases hs.symm.trans (ofText_of_finite h hf)
    cases h : Decimal.ofChars? (Text.trim raw).toList
    case none =>
      cases hs.symm.trans (ofText_of_none h)
      exact ⟨rfl, nofun⟩
    case some d =>
      cases hs.symm.trans (ofText_of_infinite h (hd d h))
      exact ⟨rfl, h ▸ hd⟩
  case mpr =>
    rintro ⟨rfl, hd⟩
    cases h : Decimal.ofChars? (Text.trim raw).toList
    case none => exact ofText_of_none h
    case some d => exact ofText_of_infinite h (hd d h)

theorem ofText_of_digitless (h : ∀ c ∈ (Text.trim raw).toList, ¬c.isDigit) :
    ofText raw = .text (Text.trim raw) := by
  refine ofText_eq_text_iff.mpr ⟨rfl, fun d hd => ?_⟩
  obtain ⟨c, hc, hdigit⟩ := (Decimal.numeral_of_ofChars? hd).exists_digit
  exact absurd hdigit (h c hc)

-- How a text is read, where `trimmed` is what is left of it without the blanks around it.
structure Reads (raw trimmed : String) : Prop where
  trims : Text.Trims raw.toList trimmed.toList
  number_iff : ∀ x, ofText raw = .number x ↔
    x.IsFinite ∧ ∃ size, Numeral x.negative size trimmed.toList ∧ Rounded size x.magnitude
  text_iff : ∀ s, ofText raw = .text s ↔
    s = trimmed ∧ ∀ negative size, Numeral negative size trimmed.toList → ceiling ≤ size
  -- no digit, no number: this is so of the names of infinities and of what is no number
  digitless : (∀ c ∈ trimmed.toList, ¬c.isDigit) → ofText raw = .text trimmed
  not_null : (ofText raw).toJson ≠ .null
  again : ∀ s, ofText raw = .text s → ofText s = .text s

theorem ofText_reads (raw : String) : Reads raw (Text.trim raw) where
  trims := by
    rw [Text.toList_trim]
    exact Text.trims_trimmed _
  number_iff x := by
    simp only [ofText_eq_number_iff, Decimal.numeral_iff, Decimal.toBinary64_eq_iff]
    constructor
    case mp =>
      rintro ⟨d, h, ⟨hn, hr⟩, hf⟩
      exact ⟨hf, d.size, ⟨d, h, hn, rfl⟩, hr⟩
    case mpr =>
      rintro ⟨hf, _, ⟨d, h, hn, rfl⟩, hr⟩
      exact ⟨d, h, ⟨hn, hr⟩, hf⟩
  text_iff s := by
    simp only [ofText_eq_text_iff, Decimal.isFinite_toBinary64_iff, not_lt]
    refine and_congr_right fun _ => ⟨fun hd negative size hn => ?_, fun hn d h => ?_⟩
    · obtain ⟨d, h, rfl, rfl⟩ := Decimal.numeral_iff.mp hn
      exact hd d h
    · exact hn _ _ (Decimal.numeral_of_ofChars? h)
  digitless := ofText_of_digitless
  not_null := by
    cases h : ofText raw
    case text => exact nofun
    case number x =>
      obtain ⟨_, _, _, hf⟩ := ofText_eq_number_iff.mp h
      simp [toJson, Number.ofBinary64?, Binary64.finite?, hf]
  again s hs := by
    obtain ⟨rfl, hd⟩ := ofText_eq_text_iff.mp hs
    rw [ofText_eq_text_iff, Text.trim_trim]
    exact ⟨rfl, hd⟩

example : ofText " 1e400 " = .text "1e400" := by decide +kernel

example : ofText "+.5" = .number (.ofBits 0x3fe0000000000000) := by decide +kernel

end Troubleshoot.Answer
