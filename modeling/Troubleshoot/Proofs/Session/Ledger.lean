import Mathlib.Data.Finset.Card
import Mathlib.Data.List.Induction
import Troubleshoot.Proofs.Session.Counter

namespace Troubleshoot

variable {υ : Type}

namespace Registration

variable {r q : Registration} {rs : List Registration} {n : Nat} {i : String}

def kind : Registration → Binding.Kind
  | preset _ value => .preset value
  | question _ => .question
  | confirmation s c => .confirmation s c

def isPreset : Registration → Bool
  | preset _ _ => true
  | question _ | confirmation _ _ => false

-- The registration binds its id, if these are bound already.
def Binds (r : Registration) (bound : List String) : Prop :=
  r.firm?.isSome ∨ r.id ∉ bound

instance (r : Registration) (bound : List String) : Decidable (r.Binds bound) :=
  inferInstanceAs (Decidable (_ ∨ _))

-- The registration takes a priority of those that are left.
def takes (b : Bindings υ) : Registration → Bool
  | preset _ _ => false
  | question id => (b.question id).toOption.any (·.2)
  | confirmation _ _ => true

-- The registration at a position makes what an id is bound to: it binds the id, and there are only
-- questions after it that would bind it again.
structure Makes (rs : List Registration) (n : Nat) (r : Registration) (i : String) : Prop where
  found : rs[n]? = some r
  id_eq : r.id = i
  binds : r.Binds ((rs.take n).map id)
  last : ∀ q ∈ rs.drop (n + 1), q.id = i → q.firm? = none

-- The priority of a binding that is made when some have been given out.
def priority (settings : Settings) (taken : Nat) (r : Registration) : Int64 :=
  if r.isPreset then settings.sessionFactPriority else settings.factPriorityStart - .ofNat taken

theorem binds_congr {bound bound' : List String} (h : ∀ i, i ∈ bound ↔ i ∈ bound') :
    r.Binds bound ↔ r.Binds bound' := by
  rw [Binds, Binds, h]

-- The last registration counts if it is no answer of the caller and its id is not bound before.
theorem taken_concat (rs : List Registration) (r : Registration) (bound : List String) :
    taken bound (rs ++ [r]) =
      taken bound rs + if ¬r.isPreset ∧ r.Binds (rs.map Registration.id ++ bound) then 1 else 0 := by
  induction rs generalizing bound
  case nil => cases r <;> simp [taken, isPreset, Binds, firm?, Registration.id]
  case cons q rs ih =>
    have hb (i : String) : r.Binds (rs.map Registration.id ++ i :: bound) ↔
        r.Binds (i :: rs.map Registration.id ++ bound) := binds_congr fun _ => List.perm_middle.mem_iff
    cases q
    case preset i _ => simp only [List.cons_append, taken, ih, List.map_cons, Registration.id, hb]
    case confirmation s c =>
      simp only [List.cons_append, taken, ih, List.map_cons, Registration.id, hb]
      omega
    case question i =>
      simp only [List.cons_append, taken, List.map_cons, Registration.id]
      split
      case isTrue hi =>
        have hc : r.Binds (rs.map Registration.id ++ bound) ↔ r.Binds (i :: rs.map Registration.id ++ bound) :=
          binds_congr (by simp; grind)
        simp only [ih, hc, List.cons_append]
      case isFalse =>
        simp only [ih, hb, List.cons_append]
        omega

theorem taken_take_succ {rs : List Registration} (h : rs[n]? = some r) :
    taken [] (rs.take (n + 1)) =
      taken [] (rs.take n) + if ¬r.isPreset ∧ r.Binds ((rs.take n).map Registration.id) then 1 else 0 := by
  rw [List.take_add_one, h, Option.toList_some, taken_concat, List.append_nil]

-- The priorities that are given out, registration by registration.
theorem taken_eq_countP (rs : List Registration) :
    taken [] rs = (List.range rs.length).countP fun n =>
      rs[n]?.any fun r => ¬r.isPreset ∧ r.Binds ((rs.take n).map Registration.id) := by
  induction rs using List.reverseRecOn
  case nil => rfl
  case append_singleton rs r ih =>
    have hp : (List.range rs.length).countP (fun n => (rs ++ [r])[n]?.any fun q =>
          ¬q.isPreset ∧ q.Binds (((rs ++ [r]).take n).map Registration.id)) = taken [] rs := by
      rw [ih]
      refine List.countP_congr fun n hn => ?_
      have hn := List.mem_range.mp hn
      rw [List.getElem?_append_left hn, List.take_append_of_le_length (Nat.le_of_lt hn)]
    rw [taken_concat, List.append_nil, List.length_append, List.length_singleton, List.range_succ,
      List.countP_append, hp, List.countP_singleton, List.getElem?_concat_length, List.take_left, Option.any_some]
    simp only [decide_eq_true_eq]

theorem Makes.lt_length (h : Makes rs n r i) : n < rs.length :=
  (List.getElem?_eq_some_iff.mp h.found).1

-- Of the registrations before the last one, none makes a binding that the last one makes anew.
theorem makes_concat_of_lt (hn : n < rs.length) :
    Makes (rs ++ [r]) n q i ↔ Makes rs n q i ∧ (r.id = i → r.firm? = none) := by
  have hg : (rs ++ [r])[n]? = rs[n]? := List.getElem?_append_left hn
  have ht : (rs ++ [r]).take n = rs.take n := List.take_append_of_le_length (Nat.le_of_lt hn)
  have hd : (rs ++ [r]).drop (n + 1) = rs.drop (n + 1) ++ [r] := List.drop_append_of_le_length hn
  constructor
  case mp =>
    rintro ⟨hf, he, hb, hl⟩
    rw [hd] at hl
    have ⟨hl, hr⟩ := List.forall_mem_append.mp hl
    exact ⟨⟨hg ▸ hf, he, ht ▸ hb, hl⟩, hr r (List.mem_singleton_self r)⟩
  case mpr =>
    rintro ⟨⟨hf, he, hb, hl⟩, hr⟩
    refine ⟨hg ▸ hf, he, ht ▸ hb, ?_⟩
    rw [hd]
    exact List.forall_mem_append.mpr ⟨hl, List.forall_mem_singleton.mpr hr⟩

theorem makes_concat_length_iff :
    Makes (rs ++ [r]) rs.length q i ↔ q = r ∧ r.id = i ∧ r.Binds (rs.map Registration.id) := by
  have hg : (rs ++ [r])[rs.length]? = some r := List.getElem?_concat_length
  have ht : (rs ++ [r]).take rs.length = rs := List.take_left
  have hd : (rs ++ [r]).drop (rs.length + 1) = [] := List.drop_eq_nil_of_le (by simp)
  constructor
  case mp =>
    rintro ⟨hf, he, hb, _⟩
    cases hg.symm.trans hf
    exact ⟨rfl, he, ht ▸ hb⟩
  case mpr =>
    rintro ⟨rfl, he, hb⟩
    refine ⟨hg, he, ht.symm ▸ hb, ?_⟩
    rw [hd]
    exact List.forall_mem_nil _

theorem Makes.mem_ids (h : Makes rs n r i) : i ∈ rs.map Registration.id :=
  h.id_eq ▸ List.mem_map_of_mem (List.mem_of_getElem? h.found)

theorem Makes.lt_or_eq (h : Makes (rs ++ [r]) n q i) : n < rs.length ∨ n = rs.length := by
  have hl := h.lt_length
  rw [List.length_append, List.length_singleton] at hl
  omega

-- If the last registration binds the id, it alone makes what the id is bound to.
theorem makes_concat_iff_of_binds (hi : r.id = i) (hb : r.Binds (rs.map Registration.id)) :
    Makes (rs ++ [r]) n q i ↔ n = rs.length ∧ q = r := by
  constructor
  case mp =>
    intro h
    rcases h.lt_or_eq with hn | rfl
    case inl =>
      have ⟨hm, hf⟩ := (makes_concat_of_lt hn).mp h
      rcases hb with hb | hb
      · rw [hf hi] at hb
        cases hb
      · exact absurd (hi ▸ hm.mem_ids) hb
    case inr => exact ⟨rfl, (makes_concat_length_iff.mp h).1⟩
  case mpr =>
    rintro ⟨rfl, rfl⟩
    exact makes_concat_length_iff.mpr ⟨rfl, hi, hb⟩

-- If it does not, nothing changes.
theorem makes_concat_iff_of_not (hr : ¬(r.id = i ∧ r.Binds (rs.map Registration.id))) :
    Makes (rs ++ [r]) n q i ↔ Makes rs n q i := by
  constructor
  case mp =>
    intro h
    rcases h.lt_or_eq with hn | rfl
    · exact ((makes_concat_of_lt hn).mp h).1
    · exact absurd (makes_concat_length_iff.mp h).2 hr
  case mpr =>
    intro h
    refine (makes_concat_of_lt h.lt_length).mpr ⟨h, fun hi => Option.not_isSome_iff_eq_none.mp fun hf => ?_⟩
    exact hr ⟨hi, .inl hf⟩

theorem taken_take_mono (rs : List Registration) {m n : Nat} (h : m ≤ n) :
    taken [] (rs.take m) ≤ taken [] (rs.take n) := by
  have ht := taken_take_le (rs.take n) m []
  rwa [List.take_take, Nat.min_eq_left h] at ht

-- Whoever comes later finds more priorities given out.
theorem Makes.taken_lt {m : Nat} (h : Makes rs m r i) (hr : ¬r.isPreset) (hn : m < n) :
    taken [] (rs.take m) < taken [] (rs.take n) := by
  have hs := taken_take_succ h.found
  have hm : taken [] (rs.take (m + 1)) ≤ taken [] (rs.take n) := taken_take_mono rs hn
  rw [if_pos ⟨hr, h.binds⟩] at hs
  omega

-- Nobody binds an id for good before the last who does so.
theorem Makes.le_of_firm {m : Nat} (h : Makes rs n r i) (hm : rs[m]? = some q) (hq : q.id = i)
    (hf : q.firm?.isSome) : m ≤ n := by
  refine Nat.not_lt.mp fun hn => ?_
  have hd : q ∈ rs.drop (n + 1) := List.mem_of_getElem? (i := m - (n + 1)) (by
    rw [List.getElem?_drop, Nat.add_sub_cancel' hn, hm])
  rw [h.last q hd hq] at hf
  cases hf

-- A question that is bound is the first to have its id.
theorem Makes.le_of_question {m : Nat} (h : Makes rs n (question i) i) (hm : rs[m]? = some q) (hq : q.id = i) :
    n ≤ m := by
  refine Nat.not_lt.mp fun hn => ?_
  have ht : q ∈ rs.take n := List.mem_of_getElem? (i := m) (by rw [List.getElem?_take_of_lt hn, hm])
  refine h.binds.elim nofun fun hi => hi ?_
  exact List.mem_map.mpr ⟨q, ht, hq⟩

end Registration

-- The keys of a table are those that it answers.
theorem Table.mem_keys_iff {α : Type} {t : Table α} {key : String} : key ∈ t.keys.list ↔ t.contains key := by
  rw [← map_fst_entries, contains, find?, Option.isSome_iff_ne_none, ne_eq, List.lookup_eq_none_iff]
  simp

theorem Table.size_eq_card {α : Type} {t : Table α} {keys : List String} (h : ∀ key, t.contains key ↔ key ∈ keys) :
    t.size = keys.toFinset.card := by
  have hn : t.keys.list.Nodup := t.keys.sorted.imp String.ne_of_lt
  have he : t.keys.list.toFinset = keys.toFinset := by
    ext key
    rw [List.mem_toFinset, List.mem_toFinset, mem_keys_iff, h]
  rw [← he, List.toFinset_card_of_nodup hn]
  rfl

namespace Bindings

variable {b : Bindings υ} {r : Registration} {rs : List Registration}

-- Whoever does not bind its id finds it bound.
theorem enter_eq (b : Bindings υ) (r : Registration) :
    (b.enter r).table =
      if r.firm?.isSome ∨ ¬b.table.contains r.id then
        b.table.insert r.id ⟨r.kind, if r.isPreset then b.sessionPriority else b.next⟩
      else b.table := by
  cases r
  case question id =>
    by_cases hc : b.table.contains id <;>
      simp [enter, lower, hc, Registration.firm?, Registration.id, Registration.kind, Registration.isPreset]
  all_goals simp [enter, preset, lower, Registration.firm?, Registration.id, Registration.kind,
    Registration.isPreset]

theorem enterAll_concat (b : Bindings υ) (rs : List Registration) (r : Registration) :
    b.enterAll (rs ++ [r]) = (b.enterAll rs).enter r :=
  List.foldl_concat ..

section ledger

variable {settings : Settings} {kb : KnowledgeBase} {respondent : Respondent υ} {i : String}

theorem contains_enterAll_iff :
    ((empty kb respondent settings).enterAll rs).table.contains i ↔ i ∈ rs.map Registration.id := by
  induction rs using List.reverseRecOn
  case nil => simp [enterAll, empty, Table.contains]
  case append_singleton rs r ih =>
    rw [enterAll_concat, enter_eq, List.map_append, List.mem_append, List.map_singleton, List.mem_singleton]
    split
    case isTrue =>
      rw [← ih, Table.contains, Table.find?_insert, Table.contains]
      split <;> simp_all
    case isFalse h =>
      rw [ih, iff_self_or]
      rintro rfl
      exact ih.mp (Decidable.not_not.mp (not_or.mp h).2)

theorem next_enterAll (rs : List Registration) :
    ((empty kb respondent settings).enterAll rs).next =
      settings.factPriorityStart - .ofNat (Registration.taken [] rs) :=
  (lowered_enterAll (by simp [empty]) rs).next

-- An id is bound by the registration that makes its binding, under the priority that was next then.
theorem find?_enterAll_iff {binding : Binding} :
    ((empty kb respondent settings).enterAll rs).table.find? i = some binding ↔
      ∃ n r, Registration.Makes rs n r i ∧
        binding = ⟨r.kind, r.priority settings (Registration.taken [] (rs.take n))⟩ := by
  induction rs using List.reverseRecOn generalizing binding
  case nil =>
    refine ⟨fun h => ?_, fun ⟨n, r, h, _⟩ => absurd h.lt_length (Nat.not_lt_zero n)⟩
    simp [enterAll, empty] at h
  case append_singleton rs r ih =>
    have hc : r.firm?.isSome ∨ ¬((empty kb respondent settings).enterAll rs).table.contains r.id ↔
        r.Binds (rs.map Registration.id) := or_congr_right (not_congr contains_enterAll_iff)
    have hs : ((empty kb respondent settings).enterAll rs).sessionPriority = settings.sessionFactPriority :=
      (Bindings.enterAll_keeps rs _).2.2
    have ht {n : Nat} (hn : n ≤ rs.length) : (rs ++ [r]).take n = rs.take n := List.take_append_of_le_length hn
    rw [enterAll_concat, enter_eq, if_congr hc rfl rfl, hs, next_enterAll, ← Registration.priority]
    by_cases hb : r.id = i ∧ r.Binds (rs.map Registration.id)
    case pos =>
      obtain ⟨rfl, hb⟩ := hb
      simp [hb, Table.find?_insert, Registration.makes_concat_iff_of_binds rfl hb, eq_comm]
    case neg =>
      have hf : (if r.Binds (rs.map Registration.id) then
          ((empty kb respondent settings).enterAll rs).table.insert r.id
            ⟨r.kind, r.priority settings (Registration.taken [] rs)⟩
          else ((empty kb respondent settings).enterAll rs).table).find? i =
          ((empty kb respondent settings).enterAll rs).table.find? i := by
        split
        case isTrue h => rw [Table.find?_insert, if_neg fun he => hb ⟨he.symm, h⟩]
        case isFalse => rfl
      rw [hf, ih]
      refine exists_congr fun n => exists_congr fun q => ?_
      rw [Registration.makes_concat_iff_of_not hb]
      exact and_congr_right fun hm => by rw [ht (Nat.le_of_lt hm.lt_length)]

-- What a registration counts for is what it takes where it stands, as long as there is something to take.
theorem takes_registerAll_iff {n : Nat} (h : settings.Leaves (Registration.taken [] rs)) (hr : rs[n]? = some r) :
    ((empty kb respondent settings).registerAll (rs.take n)).toOption.any (Registration.takes · r) ↔
      ¬r.isPreset ∧ r.Binds ((rs.take n).map Registration.id) := by
  have hs := Registration.taken_take_succ hr
  have hle := Registration.taken_take_le rs (n + 1) []
  have hl : settings.Leaves (Registration.taken [] (rs.take n)) := by
    simp only [Settings.Leaves] at h ⊢
    omega
  rw [registerAll_empty, if_pos hl, Except.toOption, Option.any_some]
  cases r
  case question id =>
    have hc : ((empty kb respondent settings).enterAll (rs.take n)).table.contains id ↔
        id ∈ (rs.take n).map Registration.id := contains_enterAll_iff
    by_cases hi : id ∈ (rs.take n).map Registration.id
    case pos =>
      rw [Registration.takes, question, if_pos (hc.mpr hi)]
      refine iff_of_false Bool.false_ne_true fun hb => ?_
      rcases hb.2 with hf | hn
      · cases hf
      · exact hn hi
    case neg =>
      have hb : (Registration.question id).Binds ((rs.take n).map Registration.id) := .inr hi
      have hn : ((empty kb respondent settings).enterAll (rs.take n)).next ≠ Int64.minValue := fun he => by
        have ht := toInt_sub_ofNat_iff.mpr hl
        rw [← @next_enterAll _ settings kb respondent, he] at ht
        rw [if_pos ⟨Bool.false_ne_true, hb⟩] at hs
        simp only [Settings.Leaves] at h
        omega
      rw [Registration.takes, question, if_neg (mt hc.mp hi), rank, if_neg hn]
      exact iff_of_true rfl ⟨Bool.false_ne_true, hb⟩
  all_goals simp [Registration.takes, Registration.isPreset, Registration.Binds, Registration.firm?]

end ledger

-- What can be said of bindings from the list of all registrations that made them.
structure Ledger (settings : Settings) (start : Bindings υ) (rs : List Registration) (b : Bindings υ) : Prop where
  taken : Registration.taken [] rs = (List.range rs.length).countP fun n =>
    rs[n]?.any fun r => (start.registerAll (rs.take n)).toOption.any (Registration.takes · r)
  next : b.next.toInt = settings.factPriorityStart.toInt - Registration.taken [] rs
  bound_iff : ∀ i, b.table.contains i ↔ i ∈ rs.map Registration.id
  binding_iff : ∀ i kind priority, b.table.find? i = some ⟨kind, priority⟩ ↔
    ∃ n r, Registration.Makes rs n r i ∧ kind = r.kind ∧
      priority.toInt = if r.isPreset then settings.sessionFactPriority.toInt
        else settings.factPriorityStart.toInt - Registration.taken [] (rs.take n)
  falling : ∀ m n r q i j x y, Registration.Makes rs m r i → Registration.Makes rs n q j →
    ¬r.isPreset → ¬q.isPreset → b.table.find? i = some x → b.table.find? j = some y →
    (y.priority < x.priority ↔ m < n)
  size : b.table.size = (rs.map Registration.id).toFinset.card

end Bindings

namespace Registration

variable {settings : Settings} {rs : List Registration} {r q : Registration} {m n : Nat} {i j : String}

-- The number that the priority of a binding is, if the counter never gets round.
theorem toInt_priority (h : settings.Leaves (taken [] rs)) :
    (r.priority settings (taken [] (rs.take n))).toInt =
      if r.isPreset then settings.sessionFactPriority.toInt
      else settings.factPriorityStart.toInt - taken [] (rs.take n) := by
  have hle := taken_take_le rs n []
  rw [priority, apply_ite Int64.toInt, toInt_sub_ofNat_iff.mpr]
  simp only [Settings.Leaves] at h
  omega

-- Of two bindings with falling priorities, the one that is made later has the lower one.
theorem priority_lt_iff (h : settings.Leaves (taken [] rs)) (hr : Makes rs m r i) (hq : Makes rs n q j)
    (hrp : ¬r.isPreset) (hqp : ¬q.isPreset) :
    q.priority settings (taken [] (rs.take n)) < r.priority settings (taken [] (rs.take m)) ↔ m < n := by
  rw [Int64.lt_iff_toInt_lt, toInt_priority h, toInt_priority h, if_neg hqp, if_neg hrp]
  rcases Nat.lt_trichotomy m n with hn | rfl | hn
  · have := hr.taken_lt hrp hn
    omega
  · omega
  · have := hq.taken_lt hqp hn
    omega

end Registration

namespace Bindings

variable {settings : Settings} {rs : List Registration}

-- The bindings after any registrations, in any order and with any ids, if there are priorities for them.
theorem registerAll_ledger (kb : KnowledgeBase) (respondent : Respondent υ)
    (h : settings.Leaves (Registration.taken [] rs)) :
    ∃ b, (empty kb respondent settings).registerAll rs = .ok b ∧
      Ledger settings (empty kb respondent settings) rs b := by
  refine ⟨_, (registerAll_empty ..).trans (if_pos h), ?taken, ?next, fun _ => contains_enterAll_iff,
    fun i kind priority => ?binding, fun m n r q i j x y hr hq hrp hqp hx hy => ?falling,
    Table.size_eq_card fun _ => contains_enterAll_iff⟩
  case taken =>
    rw [Registration.taken_eq_countP]
    refine List.countP_congr fun n hn => ?_
    have hr := List.getElem?_eq_getElem (List.mem_range.mp hn)
    rw [hr, Option.any_some, Option.any_some, takes_registerAll_iff h hr, decide_eq_true_iff]
  case next =>
    rw [next_enterAll]
    exact toInt_sub_ofNat_iff.mpr h
  case binding =>
    rw [find?_enterAll_iff]
    refine exists_congr fun n => exists_congr fun r => and_congr_right fun _ => ?_
    rw [Binding.mk.injEq, ← Registration.toInt_priority h, Int64.toInt_inj]
  case falling =>
    cases hx.symm.trans (find?_enterAll_iff.mpr ⟨m, r, hr, rfl⟩)
    cases hy.symm.trans (find?_enterAll_iff.mpr ⟨n, q, hq, rfl⟩)
    exact Registration.priority_lt_iff h hr hq hrp hqp

-- The first question is answered beforehand later on, and the confirmation is bound twice, so that it
-- ranks below the second question.
theorem registerAll_ledger_interleaved :
    let settings : Settings := {}
    let s : Solution := ⟨"Solution1", "Change the filter", none, none, none, true, true⟩
    let rs : List Registration := [.question "Question1", .confirmation s .areYouAble, .question "Question1",
      .question "Question2", .preset "Question1" (.string "yes"), .confirmation s .areYouAble, .question "Question1"]
    let start := Bindings.empty .water (.counting Nat.succ) settings
    settings.Leaves (Registration.taken [] rs) ∧ ∃ b, start.registerAll rs = .ok b ∧ Ledger settings start rs b ∧
      b.table.entries.map (fun (i, binding) => (i, binding.priority)) =
        [("Question1", 99999), ("Question2", 998), ("Solution1:able", 997)] := by
  intro settings s rs start
  have hl : settings.Leaves (Registration.taken [] rs) := by decide +kernel
  have ⟨b, hb, h⟩ := registerAll_ledger .water (Respondent.counting Nat.succ) hl
  have he : (start.registerAll rs).toOption.map (fun b => b.table.entries.map fun (i, binding) =>
      (i, binding.priority)) = some [("Question1", 99999), ("Question2", 998), ("Solution1:able", 997)] := by
    decide +kernel
  rw [hb] at he
  exact ⟨hl, b, hb, h, Option.some.inj he⟩

end Bindings
end Troubleshoot
