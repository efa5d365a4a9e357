import Mathlib.Data.List.Forall2

namespace Troubleshoot

variable {α β γ : Type} {R : α → β → Prop} {S : β → γ → Prop} {T : α → γ → Prop}

theorem forall₂_comp (hT : ∀ a b c, R a b → S b c → T a c) {as : List α} {bs : List β} {cs : List γ}
    (h : List.Forall₂ R as bs) (h' : List.Forall₂ S bs cs) : List.Forall₂ T as cs := by
  induction h generalizing cs
  case nil => cases h'; exact .nil
  case cons hr _ ih =>
    cases h'
    case cons hs hc => exact .cons (hT _ _ _ hr hs) (ih hc)

theorem forall₂_imp_of_mem {R' : α → β → Prop} {as : List α} {bs : List β}
    (hR : ∀ a ∈ as, ∀ b, R a b → R' a b) (h : List.Forall₂ R as bs) : List.Forall₂ R' as bs :=
  ((List.forall₂_and_left _ _).mpr ⟨hR, h⟩).imp fun _ b ⟨hi, hr⟩ => hi b hr

theorem rel_comp {o : Option α} {p : Option β} {q : Option γ} (hT : ∀ a, o = some a → ∀ b c, R a b → S b c → T a c)
    (h : Option.Rel R o p) (h' : Option.Rel S p q) : Option.Rel T o q := by
  cases h <;> cases h'
  case none.none => exact .none
  case some.some hr _ hs => exact .some (hT _ rfl _ _ hr hs)

theorem rel_flip {T : β → α → Prop} {o : Option α} {p : Option β} (hT : ∀ a, o = some a → ∀ b, R a b → T b a)
    (h : Option.Rel R o p) : Option.Rel T p o := by
  cases h
  case none => exact .none
  case some hr => exact .some (hT _ rfl _ hr)

end Troubleshoot
