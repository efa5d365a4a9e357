namespace Troubleshoot.Ranking

variable {α : Type u} (rank : α → Int64)

-- Puts `a` before the first element that does not outrank it.
def place (a : α) : List α → List α
  | [] => [a]
  | b :: bs => if rank b ≤ rank a then a :: b :: bs else b :: place a bs

def sort : List α → List α
  | [] => []
  | a :: as => place rank a (sort as)

-- Cuts a list wherever the rank changes.
def groups : List α → List (List α)
  | [] => []
  | a :: as =>
    match groups as with
    | (b :: bs) :: rest => if rank a = rank b then (a :: b :: bs) :: rest else [a] :: (b :: bs) :: rest
    | rest => [a] :: rest

theorem place_perm (a : α) (as : List α) : (place rank a as).Perm (a :: as) := by
  induction as with
  | nil => exact .refl _
  | cons b bs ih =>
    unfold place
    split
    · exact .refl _
    · exact (ih.cons b).trans (.swap a b bs)

theorem sort_perm (as : List α) : (sort rank as).Perm as := by
  induction as with
  | nil => exact .refl _
  | cons a as ih => exact (place_perm rank a _).trans (ih.cons a)

theorem mem_sort {a : α} {as : List α} : a ∈ sort rank as ↔ a ∈ as :=
  (sort_perm rank as).mem_iff

theorem place_sorted {a : α} {as : List α} (h : as.Pairwise (rank · ≥ rank ·)) :
    (place rank a as).Pairwise (rank · ≥ rank ·) := by
  induction as with
  | nil => simp [place]
  | cons b bs ih =>
    obtain ⟨first, rest⟩ := List.pairwise_cons.1 h
    unfold place
    split
    case isTrue le =>
      refine List.pairwise_cons.2 ⟨fun c hc => ?_, h⟩
      rcases List.mem_cons.1 hc with rfl | hc
      · exact le
      · exact Int64.le_trans (first c hc) le
    case isFalse gt =>
      refine List.pairwise_cons.2 ⟨fun c hc => ?_, ih rest⟩
      rcases List.mem_cons.1 ((place_perm rank a bs).mem_iff.1 hc) with rfl | hc
      · exact Int64.le_of_lt (Int64.not_le.1 gt)
      · exact first c hc

theorem sort_sorted (as : List α) : (sort rank as).Pairwise (rank · ≥ rank ·) := by
  induction as with
  | nil => exact .nil
  | cons a as ih => exact place_sorted rank ih

theorem place_filter (a : α) (as : List α) (r : Int64) :
    (place rank a as).filter (rank · = r) = (a :: as).filter (rank · = r) := by
  induction as with
  | nil => rfl
  | cons b bs ih =>
    unfold place
    split
    · rfl
    · grind

-- Elements of one rank stay in their order.
theorem sort_filter (as : List α) (r : Int64) :
    (sort rank as).filter (rank · = r) = as.filter (rank · = r) := by
  induction as with
  | nil => rfl
  | cons a as ih => rw [sort, place_filter]; grind

theorem place_eq_cons {a : α} {as : List α} (h : ∀ b ∈ as, rank b ≤ rank a) :
    place rank a as = a :: as := by
  cases as with
  | nil => rfl
  | cons b bs => rw [place, if_pos (h b (List.mem_cons_self ..))]

-- What nothing outranks stays in front.
theorem sort_cons {a : α} {as : List α} (h : ∀ b ∈ as, rank b ≤ rank a) :
    sort rank (a :: as) = a :: sort rank as :=
  place_eq_cons rank fun b hb => h b ((mem_sort rank).1 hb)

theorem sort_eq_self {as : List α} (h : as.Pairwise (rank · ≥ rank ·)) : sort rank as = as := by
  induction as with
  | nil => rfl
  | cons a as ih =>
    obtain ⟨first, rest⟩ := List.pairwise_cons.1 h
    rw [sort_cons rank first, ih rest]

theorem place_congr {rank rank' : α → Int64} {a : α} {as : List α} (ha : rank a = rank' a)
    (h : ∀ b ∈ as, rank b = rank' b) : place rank a as = place rank' a as := by
  induction as with
  | nil => rfl
  | cons b bs ih =>
    obtain ⟨first, rest⟩ := List.forall_mem_cons.1 h
    rw [place, place, ha, first, ih rest]

-- Only the ranks of what is there count.
theorem sort_congr {rank rank' : α → Int64} {as : List α} (h : ∀ a ∈ as, rank a = rank' a) :
    sort rank as = sort rank' as := by
  induction as with
  | nil => rfl
  | cons a as ih =>
    obtain ⟨first, rest⟩ := List.forall_mem_cons.1 h
    rw [sort, sort, ih rest]
    exact place_congr first fun b hb => rest b ((mem_sort rank').1 hb)

theorem groups_eq_map {as : List α} (h : as.Pairwise (rank · ≠ rank ·)) :
    groups rank as = as.map ([·]) := by
  induction as with
  | nil => rfl
  | cons a as ih =>
    obtain ⟨first, rest⟩ := List.pairwise_cons.1 h
    rw [groups, ih rest]
    cases as with
    | nil => rfl
    | cons b bs => exact if_neg (first b (List.mem_cons_self ..))

@[simp] theorem flatten_groups (as : List α) : (groups rank as).flatten = as := by
  induction as with
  | nil => rfl
  | cons a as ih => grind [groups]

theorem ne_nil_of_mem_groups {as g : List α} (hg : g ∈ groups rank as) : g ≠ [] := by
  induction as generalizing g with
  | nil => cases hg
  | cons a as ih => grind [groups]

-- The members of a group share a rank.
theorem rank_eq_of_mem_groups {as g : List α} {a b : α} (hg : g ∈ groups rank as) (ha : a ∈ g) (hb : b ∈ g) :
    rank a = rank b := by
  induction as generalizing g a b with
  | nil => cases hg
  | cons c as ih => grind [groups]

theorem groups_falling {as : List α} (h : as.Pairwise (rank · ≥ rank ·)) :
    (groups rank as).Pairwise fun g k => ∀ a ∈ g, ∀ b ∈ k, rank b < rank a := by
  induction as with
  | nil => exact .nil
  | cons a as ih =>
    have ⟨first, rest⟩ := List.pairwise_cons.1 h
    have later := ih rest
    cases hg : groups rank as with
    | nil => simp [groups, hg]
    | cons g gs =>
      have flat := flatten_groups rank as
      have nonempty := @ne_nil_of_mem_groups _ rank as
      have shared := @rank_eq_of_mem_groups _ rank as
      rw [hg] at later flat nonempty shared
      have ⟨below, falls⟩ := List.pairwise_cons.1 later
      cases g with
      | nil => exact absurd rfl (nonempty (List.mem_cons_self ..))
      | cons b bs =>
        have le : rank b ≤ rank a := first b (by simp [← flat])
        simp only [groups, hg]
        split
        case isTrue eq =>
          -- The new member has the rank of those that it joins.
          refine List.pairwise_cons.2 ⟨fun k hk => List.forall_mem_cons.2 ⟨?_, below k hk⟩, falls⟩
          exact eq ▸ below k hk b (List.mem_cons_self ..)
        case isFalse ne =>
          have lt : rank b < rank a := Int64.lt_of_le_of_ne le (Ne.symm ne)
          refine List.pairwise_cons.2 ⟨fun k hk => List.forall_mem_singleton.2 fun d hd => ?_, later⟩
          cases hk with
          | head => exact shared (List.mem_cons_self ..) (List.mem_cons_self ..) hd ▸ lt
          | tail _ hk => exact Int64.lt_trans (below k hk b (List.mem_cons_self ..) d hd) lt

-- A group is all that has its rank, in order.
theorem groups_eq_filter {as g : List α} {a : α} (h : as.Pairwise (rank · ≥ rank ·)) (hg : g ∈ groups rank as)
    (ha : a ∈ g) : as.filter (rank · = rank a) = g := by
  have ⟨before, after, hs⟩ := List.append_of_mem hg
  have falls := groups_falling rank h
  rw [hs, List.pairwise_append] at falls
  have ⟨_, later, earlier⟩ := falls
  have hb : before.flatten.filter (rank · = rank a) = [] := by
    refine List.filter_eq_nil_iff.2 fun b hb => ?_
    have ⟨k, hk, hb⟩ := List.mem_flatten.1 hb
    simpa using (Int64.ne_of_lt (earlier k hk g (List.mem_cons_self ..) b hb a ha)).symm
  have ht : after.flatten.filter (rank · = rank a) = [] := by
    refine List.filter_eq_nil_iff.2 fun b hb => ?_
    have ⟨k, hk, hb⟩ := List.mem_flatten.1 hb
    simpa using Int64.ne_of_lt ((List.pairwise_cons.1 later).1 k hk a ha b hb)
  have hm : g.filter (rank · = rank a) = g :=
    List.filter_eq_self.2 fun b hb => by simpa using rank_eq_of_mem_groups rank hg hb ha
  have flat := flatten_groups rank as
  rw [hs, List.flatten_append, List.flatten_cons] at flat
  rw [← flat, List.filter_append, List.filter_append, hb, hm, ht, List.nil_append, List.append_nil]

end Troubleshoot.Ranking
