import Mathlib.Data.List.Induction
import Mathlib.Data.List.Nodup
import Troubleshoot.Proofs.Latest
import Troubleshoot.Session.Memory

namespace Troubleshoot.Memory

inductive Update where
  | solve (id : String)
  | add (id : String)
deriving DecidableEq

def Update.id : Update → String
  | solve id => id
  | add id => id

-- The memory after an update, and whether that changed it.
def update (m : Memory) : Update → Memory × Bool
  | .solve id => m.solve id
  | .add id => m.add id

def updateAll (m : Memory) (us : List Update) : Memory :=
  us.foldl (fun m u => (m.update u).1) m

def lastOf? (us : List Update) (id : String) : Option Update :=
  latest? (us.map fun u => (u.id, u)) id

-- The seed without the symptoms that were ever solved.
def kept (seed : Memory) (us : List Update) : Memory :=
  seed.filter fun id => .solve id ∉ us

-- The update at a place brings a symptom in: it is an addition, and the symptom was not active then.
structure Enters (seed : Memory) (us : List Update) (n : Nat) (id : String) : Prop where
  add : us[n]? = some (.add id)
  absent : id ∉ seed.updateAll (us.take n)

structure EntersLast (seed : Memory) (us : List Update) (n : Nat) (id : String) : Prop where
  enters : Enters seed us n id
  last : ∀ k, n < k → ¬Enters seed us k id

-- The active symptoms are those that were kept, and then others, by the places that brought them in
-- last.
structure Arrivals (seed : Memory) (us : List Update) (arrivals : List (Nat × String)) : Prop where
  memory : seed.updateAll us = kept seed us ++ arrivals.map Prod.snd
  increasing : arrivals.Pairwise (·.1 < ·.1)
  mem_iff : ∀ n id, (n, id) ∈ arrivals ↔ EntersLast seed us n id ∧ id ∈ seed.updateAll us
  others : ∀ id, id ∈ arrivals.map Prod.snd ↔ id ∈ seed.updateAll us ∧ id ∉ kept seed us

structure History (seed : Memory) (us : List Update) : Prop where
  mem_iff : ∀ id, id ∈ seed.updateAll us ↔
    lastOf? us id = some (.add id) ∨ (lastOf? us id = none ∧ id ∈ seed)
  changed_iff : ∀ before u after, us = before ++ u :: after →
    (((seed.updateAll before).update u).2 ↔ ((seed.updateAll before).update u).1 ≠ seed.updateAll before)
  repeated : ∀ id, 1 < (seed.updateAll us).count id → 1 < seed.count id ∧ .solve id ∉ us
  nodup : seed.Nodup → ∀ n, (seed.updateAll (us.take n)).Nodup
  order : ∃ arrivals, Arrivals seed us arrivals
  swap : ∀ before u v after, us = before ++ u :: v :: after → u.id ≠ v.id →
    ∀ id, id ∈ seed.updateAll (before ++ v :: u :: after) ↔ id ∈ seed.updateAll us

variable {seed m : Memory} {us : List Update} {u : Update} {id : String} {n : Nat}

@[simp] theorem updateAll_nil : seed.updateAll [] = seed := rfl

@[simp] theorem updateAll_concat : seed.updateAll (us ++ [u]) = ((seed.updateAll us).update u).1 := by
  rw [updateAll, List.foldl_append]
  rfl

theorem lastOf?_concat : lastOf? (us ++ [u]) id = if id = u.id then some u else lastOf? us id := by
  rw [lastOf?, List.map_append, latest?_append, List.map_singleton, latest?_singleton]
  split <;> rfl

theorem mem_of_lastOf? (h : lastOf? us id = some u) : u ∈ us ∧ u.id = id := by
  have ⟨v, hv, he⟩ := List.mem_map.mp (mem_of_latest? h)
  obtain ⟨rfl, rfl⟩ := Prod.mk.inj he
  exact ⟨hv, rfl⟩

theorem update_changed_iff : (m.update u).2 ↔ (m.update u).1 ≠ m := by
  cases u
  case solve => exact solve_changed_iff
  case add => exact add_changed_iff

theorem mem_update_iff : id ∈ (m.update u).1 ↔ u = .add id ∨ (id ≠ u.id ∧ id ∈ m) := by
  cases u
  case solve x => simp [update, solve, Update.id, and_comm]
  case add x =>
    simp only [update, add, Update.id, Update.add.injEq]
    split <;> grind

-- The last update of a symptom decides, and the seed if there is none.
theorem mem_updateAll_iff : id ∈ seed.updateAll us ↔
    lastOf? us id = some (.add id) ∨ (lastOf? us id = none ∧ id ∈ seed) := by
  induction us using List.reverseRecOn
  case nil => simp [lastOf?, latest?]
  case append_singleton us u ih =>
    rw [updateAll_concat, mem_update_iff, ih, lastOf?_concat]
    by_cases hi : id = u.id
    case neg =>
      have hu : u ≠ .add id := fun he => hi (he ▸ rfl)
      simp [hi, hu]
    case pos => simp [hi]

-- A symptom is only there twice if it was so from the start.
theorem repeated_of_updateAll (h : 1 < (seed.updateAll us).count id) : 1 < seed.count id ∧ .solve id ∉ us := by
  induction us using List.reverseRecOn
  case nil => exact ⟨h, List.not_mem_nil⟩
  case append_singleton us u ih =>
    rw [updateAll_concat] at h
    cases u
    case solve x =>
      have hx : id ≠ x := by
        rintro rfl
        simp [update, solve, List.count_eq_zero_of_not_mem] at h
      rw [update, solve, List.count_filter (by simpa using hx)] at h
      simpa [hx] using ih h
    case add x =>
      have hc : 1 < (seed.updateAll us).count id := by
        by_cases hm : x ∈ seed.updateAll us
        case pos => simpa [update, add, hm] using h
        case neg =>
          by_cases hx : x = id
          case pos =>
            -- What was just added had not been there.
            subst hx
            simp [update, add, hm, List.count_eq_zero_of_not_mem hm] at h
          case neg => simpa [update, add, hm, List.count_singleton, hx] using h
      simpa using ih hc

theorem nodup_updateAll (h : seed.Nodup) (us : List Update) : (seed.updateAll us).Nodup := by
  refine List.nodup_iff_count_le_one.mpr fun id => Nat.le_of_not_lt fun hc => ?_
  exact Nat.lt_irrefl 1 (Nat.lt_of_lt_of_le (repeated_of_updateAll hc).1 (List.nodup_iff_count_le_one.mp h id))

theorem mem_updateAll_of_kept (h : id ∈ kept seed us) (n : Nat) : id ∈ seed.updateAll (us.take n) := by
  obtain ⟨hs, hk⟩ : id ∈ seed ∧ .solve id ∉ us := by simpa [kept] using h
  rw [mem_updateAll_iff]
  cases hl : lastOf? (us.take n) id
  case none => exact .inr ⟨rfl, hs⟩
  case some u =>
    obtain ⟨hu, rfl⟩ := mem_of_lastOf? hl
    cases u
    case solve => exact absurd (List.mem_of_mem_take hu) hk
    case add => exact .inl rfl

theorem Enters.lt_length (h : Enters seed us n id) : n < us.length :=
  (List.getElem?_eq_some_iff.mp h.add).1

theorem Enters.not_mem_kept (h : Enters seed us n id) : id ∉ kept seed us :=
  fun hk => h.absent (mem_updateAll_of_kept hk n)

-- Another update changes nothing about the places before it.
theorem enters_concat_iff : Enters seed (us ++ [u]) n id ↔
    Enters seed us n id ∨ (n = us.length ∧ u = .add id ∧ id ∉ seed.updateAll us) := by
  rcases Nat.lt_trichotomy n us.length with hlt | rfl | hgt
  case inl =>
    have ht : (us ++ [u]).take n = us.take n := List.take_append_of_le_length (Nat.le_of_lt hlt)
    have hg : (us ++ [u])[n]? = us[n]? := List.getElem?_append_left hlt
    simp only [Nat.ne_of_lt hlt, false_and, or_false]
    exact ⟨fun h => ⟨hg ▸ h.add, ht ▸ h.absent⟩, fun h => ⟨hg ▸ h.add, ht ▸ h.absent⟩⟩
  case inr.inl =>
    have hn : ¬Enters seed us us.length id := fun h => Nat.lt_irrefl _ h.lt_length
    simp only [hn, false_or, true_and]
    exact ⟨fun h => ⟨by simpa using h.add, by simpa using h.absent⟩, fun ⟨hu, hm⟩ => ⟨by simp [hu], by simpa using hm⟩⟩
  case inr.inr =>
    simp only [Nat.ne_of_gt hgt, false_and, or_false]
    refine ⟨fun h => absurd h.lt_length ?_, fun h => absurd h.lt_length (Nat.lt_asymm hgt)⟩
    rw [List.length_append, List.length_singleton]
    omega

theorem entersLast_congr {us' : List Update} (h : ∀ k, Enters seed us' k id ↔ Enters seed us k id) :
    EntersLast seed us' n id ↔ EntersLast seed us n id :=
  ⟨fun hl => ⟨(h n).mp hl.enters, fun k hk => mt (h k).mpr (hl.last k hk)⟩,
    fun hl => ⟨(h n).mpr hl.enters, fun k hk => mt (h k).mp (hl.last k hk)⟩⟩

-- An update that brings nobody in leaves the last places as they are.
theorem entersLast_concat_of_idle (h : ∀ id, u = .add id → id ∈ seed.updateAll us) :
    EntersLast seed (us ++ [u]) n id ↔ EntersLast seed us n id := by
  refine entersLast_congr fun k => ?_
  rw [enters_concat_iff]
  exact or_iff_left fun ⟨_, hu, hm⟩ => hm (h id hu)

theorem entersLast_concat_add {x : String} (hx : x ∉ seed.updateAll us) :
    EntersLast seed (us ++ [.add x]) n id ↔
      (id ≠ x ∧ EntersLast seed us n id) ∨ (id = x ∧ n = us.length) := by
  have he (k : Nat) : Enters seed (us ++ [.add x]) k id ↔ Enters seed us k id ∨ (k = us.length ∧ id = x) := by
    rw [enters_concat_iff]
    grind
  by_cases hi : id = x
  case neg =>
    simp only [ne_eq, hi, not_false_eq_true, true_and, false_and, or_false]
    exact entersLast_congr fun k => (he k).trans (or_iff_left fun h => hi h.2)
  case pos =>
    subst hi
    simp only [ne_eq, not_true_eq_false, false_and, true_and, false_or]
    refine ⟨fun h => ?last, fun hn => ⟨(he n).mpr (.inr ⟨hn, rfl⟩), fun k hk h => ?first⟩⟩
    case last =>
      rcases (he n).mp h.enters with hn | ⟨hn, _⟩
      case inl => exact absurd ((he _).mpr (.inr ⟨rfl, rfl⟩)) (h.last _ hn.lt_length)
      case inr => exact hn
    case first =>
      rcases (he k).mp h with h | ⟨hk', _⟩
      case inl => exact absurd h.lt_length (by omega)
      case inr => omega

namespace Arrivals

variable {arrivals : List (Nat × String)}

-- That the others are not among those that were kept need not be carried along.
theorem of_mem_iff (hm : seed.updateAll us = kept seed us ++ arrivals.map Prod.snd)
    (hi : arrivals.Pairwise (·.1 < ·.1))
    (ha : ∀ n id, (n, id) ∈ arrivals ↔ EntersLast seed us n id ∧ id ∈ seed.updateAll us) :
    Arrivals seed us arrivals := by
  refine ⟨hm, hi, ha, fun id => ⟨fun h => ?_, fun ⟨h, hk⟩ => ?_⟩⟩
  case refine_1 =>
    obtain ⟨⟨n, _⟩, hn, rfl⟩ := List.mem_map.mp h
    have ⟨hl, hu⟩ := (ha n _).mp hn
    exact ⟨hu, hl.enters.not_mem_kept⟩
  case refine_2 =>
    rw [hm] at h
    exact (List.mem_append.mp h).resolve_left hk

theorem solve (h : Arrivals seed us arrivals) (x : String) :
    Arrivals seed (us ++ [.solve x]) (arrivals.filter (·.2 ≠ x)) := by
  refine of_mem_iff ?_ (h.increasing.filter _) fun n id => ?_
  case refine_1 =>
    have hk : kept seed (us ++ [.solve x]) = (kept seed us).filter (· ≠ x) := by
      simp only [kept, List.filter_filter]
      refine List.filter_congr fun id _ => ?_
      simp [and_comm, not_or]
    rw [updateAll_concat, hk, update, Memory.solve, h.memory, List.filter_append, List.filter_map]
    rfl
  case refine_2 =>
    have hu : id ∈ seed.updateAll (us ++ [.solve x]) ↔ id ≠ x ∧ id ∈ seed.updateAll us := by
      rw [updateAll_concat, mem_update_iff]
      simp [Update.id]
    rw [entersLast_concat_of_idle (fun _ he => by cases he), hu, List.mem_filter, h.mem_iff]
    simp only [decide_not, Bool.not_eq_eq_eq_not, Bool.not_true, decide_eq_false_iff_not]
    tauto

theorem add (h : Arrivals seed us arrivals) (x : String) : ∃ arrivals, Arrivals seed (us ++ [.add x]) arrivals := by
  have hk : kept seed (us ++ [.add x]) = kept seed us := by simp [kept]
  by_cases hx : x ∈ seed.updateAll us
  case pos =>
    have hm : seed.updateAll (us ++ [.add x]) = seed.updateAll us := by simp [update, Memory.add, hx]
    refine ⟨arrivals, of_mem_iff (by rw [hm, hk, h.memory]) h.increasing fun n id => ?_⟩
    rw [hm, entersLast_concat_of_idle (fun _ he => by cases he; exact hx), h.mem_iff]
  case neg =>
    have hm : seed.updateAll (us ++ [.add x]) = seed.updateAll us ++ [x] := by simp [update, Memory.add, hx]
    refine ⟨arrivals ++ [(us.length, x)], of_mem_iff ?_ ?_ fun n id => ?_⟩
    case refine_1 => rw [hm, hk, h.memory, List.map_append, List.append_assoc, List.map_singleton]
    case refine_2 =>
      refine List.pairwise_append.mpr ⟨h.increasing, List.pairwise_singleton .., fun a ha b hb => ?_⟩
      rw [List.mem_singleton.mp hb]
      exact ((h.mem_iff a.1 a.2).mp ha).1.enters.lt_length
    case refine_3 =>
      rw [hm, entersLast_concat_add hx, List.mem_append, List.mem_singleton, h.mem_iff, List.mem_append,
        List.mem_singleton, Prod.mk.injEq]
      grind

end Arrivals

theorem exists_arrivals (seed : Memory) (us : List Update) : ∃ arrivals, Arrivals seed us arrivals := by
  induction us using List.reverseRecOn
  case nil =>
    refine ⟨[], .of_mem_iff ?_ .nil fun n id => ⟨nofun, fun h => ?_⟩⟩
    · simp [kept]
    · exact absurd h.1.enters.lt_length (Nat.not_lt_zero n)
  case append_singleton us u ih =>
    have ⟨arrivals, h⟩ := ih
    cases u
    case solve x => exact ⟨_, h.solve x⟩
    case add x => exact h.add x

-- Updates of different symptoms may change places.
theorem lastOf?_swap {before after : List Update} {v : Update} (h : u.id ≠ v.id) :
    lastOf? (before ++ v :: u :: after) id = lastOf? (before ++ u :: v :: after) id := by
  simp only [lastOf?, List.map_append, List.map_cons, latest?_append, latest?_cons]
  grind

theorem updateAll_history (seed : Memory) (us : List Update) : History seed us where
  mem_iff _ := mem_updateAll_iff
  changed_iff _ _ _ _ := update_changed_iff
  repeated _ h := repeated_of_updateAll h
  nodup h n := nodup_updateAll h (us.take n)
  order := exists_arrivals seed us
  swap before u v after he hn id := by
    subst he
    rw [mem_updateAll_iff, mem_updateAll_iff, lastOf?_swap hn]

example : updateAll ["A", "A", "B"] [.add "C", .add "A", .solve "A", .add "D", .add "A", .solve "C", .add "C"] =
    ["B", "D", "A", "C"] := by
  decide

end Troubleshoot.Memory
