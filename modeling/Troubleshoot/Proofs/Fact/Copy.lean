import Mathlib.Data.List.Induction
import Troubleshoot.Fact.Basic
import Troubleshoot.Proofs.Record.Shown

namespace Troubleshoot.Facts

variable {σ : Type} {facts : Facts σ} {fs : List (Fact σ)} {f : Fact σ} {id : String}

-- Each fact is there under its own id.
def Own (facts : Facts σ) : Prop :=
  ∀ e ∈ facts.entries, e.2.id = e.1

theorem find?_eq_some_iff_of_own (h : facts.Own) :
    facts.find? id = some f ↔ f ∈ facts.entries.map Prod.snd ∧ f.id = id := by
  rw [Table.find?, lookup_eq_some_iff_mem facts.nodup_entries]
  constructor
  case mp => exact fun he => ⟨List.mem_map_of_mem he, h _ he⟩
  case mpr =>
    rintro ⟨hm, rfl⟩
    obtain ⟨⟨i, g⟩, he, rfl⟩ := List.mem_map.mp hm
    obtain rfl : g.id = i := h _ he
    exact he

theorem pairwise_of_own (h : facts.Own) : (facts.entries.map Prod.snd).Pairwise (·.id ≠ ·.id) := by
  have hn : facts.entries.Pairwise (·.1 ≠ ·.1) := List.pairwise_map.mp facts.nodup_entries
  refine List.pairwise_map.mpr (hn.imp_of_mem fun {a b} ha hb hne => ?_)
  rwa [h a ha, h b hb]

-- Of facts with different ids none replaces another.
theorem find?_addAll_iff (h : fs.Pairwise (·.id ≠ ·.id)) :
    (addAll ∅ fs).find? id = some f ↔ f ∈ fs ∧ f.id = id := by
  induction fs using List.reverseRecOn
  case nil => simp [addAll]
  case append_singleton fs g ih =>
    have ⟨hfs, _, hg⟩ := List.pairwise_append.mp h
    have ha : addAll ∅ (fs ++ [g]) = (addAll ∅ fs).add g := List.foldl_concat ..
    rw [ha, add, Table.find?_insert]
    split
    case isTrue hi =>
      rw [Option.some.injEq]
      refine ⟨fun he => he ▸ ⟨List.mem_concat_self, hi.symm⟩, fun ⟨hm, he⟩ => ?_⟩
      rcases List.mem_append.mp hm with hm | hm
      · exact absurd (he.trans hi) (hg f hm g (List.mem_singleton_self g))
      · exact (List.mem_singleton.mp hm).symm
    case isFalse hi =>
      rw [ih hfs]
      refine and_congr_left fun he => ⟨List.mem_append_left _, fun hm => ?_⟩
      rcases List.mem_append.mp hm with hm | hm
      · exact hm
      · exact absurd (List.mem_singleton.mp hm ▸ he).symm hi

-- Whoever adds the same facts has the same, in whatever order they come.
theorem addAll_of_perm (h : facts.Own) (hp : fs.Perm (facts.entries.map Prod.snd)) :
    addAll ∅ fs = facts := by
  have hd : fs.Pairwise (·.id ≠ ·.id) := hp.symm.pairwise (pairwise_of_own h) fun hne => hne.symm
  refine Table.ext_find? fun id => Option.ext fun f => ?_
  rw [find?_addAll_iff hd, find?_eq_some_iff_of_own h, hp.mem_iff]

end Troubleshoot.Facts
