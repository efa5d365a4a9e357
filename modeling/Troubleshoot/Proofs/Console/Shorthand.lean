import Troubleshoot.Console.Arguments
import Troubleshoot.Console.Terminal
import Troubleshoot.Proofs.Session.Answer
import Troubleshoot.Proofs.Text.Case

namespace Troubleshoot.Answer

variable {id value word target : String}

-- What a terminal reads as one of the two answers, in any case of its letters.
def affirmatives : List String :=
  ["y", "yes"]

def negatives : List String :=
  ["n", "no"]

def words : List String :=
  affirmatives ++ negatives

-- The words that the terminal alone reads so: all but the answers themselves.
def IsShorthand (word : String) : Prop :=
  word.toLower ∈ words ∧ word ≠ "yes" ∧ word ≠ "no"

-- An answer given on the command line, beside the same text typed at a terminal.
structure BesideTyped (id value : String) : Prop where
  read : preset (id ++ "=" ++ value) = .ok (Text.trim id, ofText value)
  same_iff : ofText value = Terminal.answer value ↔ ¬IsShorthand (Text.trim value)
  toJson_iff : (ofText value).toJson = (Terminal.answer value).toJson ↔ ¬IsShorthand (Text.trim value)
  -- Where the two differ, what is typed is one of the answers that rules look for, and what is given
  -- is neither.
  typed_yes : (Text.trim value).toLower ∈ affirmatives → Terminal.answer value = yes
  typed_no : (Text.trim value).toLower ∈ negatives → Terminal.answer value = no
  given : IsShorthand (Text.trim value) → ofText value = .text (Text.trim value) ∧
    (ofText value).toJson ≠ yes.toJson ∧ (ofText value).toJson ≠ no.toJson

theorem preset_eq (hid : '=' ∉ id.toList) (hblank : Text.trim id ≠ "") :
    preset (id ++ "=" ++ value) = .ok (Text.trim id, ofText value) := by
  have hspan : (id ++ "=" ++ value).toList.span (· ≠ '=') = (id.toList, '=' :: value.toList) := by
    rw [String.toList_append, String.toList_append, List.append_assoc]
    apply span_append
    · intro c hc
      simpa using ne_of_mem_of_not_mem hc hid
    · rintro c ⟨⟩
      decide
  have htrim : Text.trim id = .ofList (Text.trimmed id.toList) := rfl
  simp only [preset, hspan, htrim]
  split
  case h_1 h => exact absurd (by rw [htrim, h]) hblank
  case h_2 => rw [String.ofList_toList]

theorem isPlain_of_mem : ∀ u ∈ words, ∀ d ∈ u.toList, Text.isPlain d := by
  have h : words.all (·.toList.all Text.isPlain) := by decide
  simpa only [List.all_eq_true] using h

theorem lowerCase_eq_iff (h : target ∈ words) :
    Text.lowerCase word = target ↔ word.toLower = target :=
  Text.lowerCase_eq_iff (isPlain_of_mem target h)

theorem lowerCase_of_mem (h : word.toLower ∈ words) : Text.lowerCase word = word.toLower :=
  (lowerCase_eq_iff h).mpr rfl

theorem typed_yes (h : (Text.trim value).toLower ∈ affirmatives) : Terminal.answer value = yes := by
  rw [Terminal.answer, lowerCase_of_mem (List.mem_append_left _ h)]
  exact if_pos h

theorem typed_no (h : (Text.trim value).toLower ∈ negatives) : Terminal.answer value = no := by
  have hno : (Text.trim value).toLower ∉ affirmatives :=
    (by decide : ∀ u ∈ negatives, u ∉ affirmatives) _ h
  rw [Terminal.answer, lowerCase_of_mem (List.mem_append_right _ h)]
  exact (if_neg hno).trans (if_pos h)

theorem typed_of_not_mem (h : (Text.trim value).toLower ∉ words) :
    Terminal.answer value = ofText value := by
  have hlower : Text.lowerCase (Text.trim value) ∉ words := by
    intro hmem
    rw [(lowerCase_eq_iff hmem).mp rfl] at h
    exact h hmem
  have ⟨hyes, hno⟩ := not_or.mp (mt List.mem_append.mpr hlower)
  rw [Terminal.answer]
  exact (if_neg hyes).trans (if_neg hno)

-- The letters of the words are no digits, in either case.
theorem ofText_of_mem (h : (Text.trim value).toLower ∈ words) :
    ofText value = .text (Text.trim value) := by
  apply ofText_of_digitless
  intro c hc
  have hplain : Text.isPlain c.toLower := by
    apply isPlain_of_mem _ h
    rw [Text.toList_toLower]
    exact List.mem_map_of_mem hc
  have hletter := (Text.toLower_eq_iff hplain).mp rfl
  rw [Text.isPlain_iff] at hplain
  rw [Char.isDigit_iff_toNat]
  simp only [Char.reduceToNat]
  omega

theorem same_of_not_shorthand (h : ¬IsShorthand (Text.trim value)) :
    ofText value = Terminal.answer value := by
  by_cases hmem : (Text.trim value).toLower ∈ words
  case neg => exact (typed_of_not_mem hmem).symm
  case pos =>
    have hword : Text.trim value = "yes" ∨ Text.trim value = "no" := by
      simpa [IsShorthand, hmem, or_iff_not_imp_left] using h
    rw [ofText_of_mem hmem]
    rcases hword with h | h
    · rw [h, typed_yes (by rw [h]; decide +kernel)]
      rfl
    · rw [h, typed_no (by rw [h]; decide +kernel)]
      rfl

theorem given_of_shorthand (h : IsShorthand (Text.trim value)) :
    ofText value = .text (Text.trim value) ∧
      (ofText value).toJson ≠ yes.toJson ∧ (ofText value).toJson ≠ no.toJson := by
  have hgiven := ofText_of_mem h.1
  refine ⟨hgiven, ?_, ?_⟩
  · simpa [hgiven, toJson, yes] using h.2.1
  · simpa [hgiven, toJson, no] using h.2.2

theorem toJson_ne_of_shorthand (h : IsShorthand (Text.trim value)) :
    (ofText value).toJson ≠ (Terminal.answer value).toJson := by
  have ⟨_, hyes, hno⟩ := given_of_shorthand h
  rcases List.mem_append.mp h.1 with hmem | hmem
  · rwa [typed_yes hmem]
  · rwa [typed_no hmem]

theorem preset_besideTyped (hid : '=' ∉ id.toList) (hblank : Text.trim id ≠ "") :
    BesideTyped id value where
  read := preset_eq hid hblank
  same_iff := ⟨fun h hs => toJson_ne_of_shorthand hs (congrArg toJson h), same_of_not_shorthand⟩
  toJson_iff := ⟨fun h hs => toJson_ne_of_shorthand hs h, fun h => congrArg toJson (same_of_not_shorthand h)⟩
  typed_yes := typed_yes
  typed_no := typed_no
  given := given_of_shorthand

theorem preset_besideTyped_Y :
    '=' ∉ " Question1".toList ∧ Text.trim " Question1" ≠ "" ∧ IsShorthand (Text.trim "Y ") ∧
      BesideTyped " Question1" "Y " :=
  ⟨by decide, by decide, ⟨by decide +kernel, by decide, by decide⟩,
    preset_besideTyped (by decide) (by decide)⟩

end Troubleshoot.Answer
