import Troubleshoot.Proofs.Record.Reading

namespace Troubleshoot

namespace Json

-- The members that a record can do without, each with the value that it stands for when it is left out.
def defaults : List (String × Json) :=
  [("symptoms", .array []), ("solutions", .array []), ("diagnostics", .array []), ("rules", .array []),
    ("rootCauses", .array []), ("systemTypes", .array []), ("mustBeYes", .array []), ("mustBeNo", .array []),
    ("askDidItWork", .bool false), ("askAreYouAble", .bool false), ("questionType", .string "yes-no"),
    ("params", .object ∅)]

-- The members that may hold any value. It is no record, so there is nothing that it can do without.
def verbatim : List String :=
  ["value", "params"]

theorem not_mem_defaults {name : String} (h : name ∉ defaults.map Prod.fst) (j : Json) : (name, j) ∉ defaults :=
  fun hd => h (List.mem_map_of_mem hd)

-- A value with some members left out, at whatever depth, that have the value that they then stand for.
mutual

inductive TrimsTo : Json → Json → Prop
  | same (j : Json) : TrimsTo j j
  | array {js ks : List Json} (items : List.Forall₂ TrimsTo js ks) : TrimsTo (.array js) (.array ks)
  | object {t u : Table Json} (members : ∀ key, MemberTrimsTo key (t.find? key) (u.find? key)) :
    TrimsTo (.object t) (.object u)

inductive MemberTrimsTo : String → Option Json → Option Json → Prop
  | none {key : String} : MemberTrimsTo key none none
  | leftOut {key : String} {j : Json} (default : (key, j) ∈ defaults) : MemberTrimsTo key (some j) none
  | verbatim {key : String} {j : Json} (any : key ∈ verbatim) : MemberTrimsTo key (some j) (some j)
  | kept {key : String} {j k : Json} (record : key ∉ verbatim) (trims : TrimsTo j k) :
    MemberTrimsTo key (some j) (some k)

end

theorem MemberTrimsTo.same (key : String) (j : Option Json) : MemberTrimsTo key j j := by
  cases j
  case none => exact .none
  case some j =>
    by_cases h : key ∈ Json.verbatim
    · exact .verbatim h
    · exact .kept h (.same j)

theorem MemberTrimsTo.cons {key : String} {j k : Json} {es fs : List (String × Json)}
    (h : MemberTrimsTo key (some j) (some k))
    (hs : ∀ key, MemberTrimsTo key (es.lookup key) (fs.lookup key)) (other : String) :
    MemberTrimsTo other (((key, j) :: es).lookup other) (((key, k) :: fs).lookup other) := by
  by_cases ho : other = key
  case pos => subst ho; simpa only [List.lookup_cons_self] using h
  case neg => simpa only [lookup_cons_of_ne ho] using hs other

theorem MemberTrimsTo.drop {key : String} {j : Json} {es fs : List (String × Json)} (hd : (key, j) ∈ defaults)
    (hn : key ∉ fs.map Prod.fst) (hs : ∀ key, MemberTrimsTo key (es.lookup key) (fs.lookup key)) (other : String) :
    MemberTrimsTo other (((key, j) :: es).lookup other) (fs.lookup other) := by
  by_cases ho : other = key
  case pos =>
    subst ho
    rw [List.lookup_cons_self, lookup_eq_none_of_not_mem hn]
    exact .leftOut hd
  case neg => simpa only [lookup_cons_of_ne ho] using hs other

theorem TrimsTo.ofMembers {es fs : List (String × Json)} (he : (es.map Prod.fst).Nodup) (hf : (fs.map Prod.fst).Nodup)
    (h : ∀ key, MemberTrimsTo key (es.lookup key) (fs.lookup key)) : (Json.ofMembers es).TrimsTo (.ofMembers fs) := by
  refine .object fun key => ?_
  rw [Table.find?_ofList he, Table.find?_ofList hf]
  exact h key

theorem TrimsTo.members {t : Table Json} {k : Json} (h : TrimsTo (.object t) k) :
    ∃ u, k = .object u ∧ ∀ key, MemberTrimsTo key (t.find? key) (u.find? key) := by
  cases h
  case same => exact ⟨t, rfl, fun key => .same key _⟩
  case object u members => exact ⟨u, rfl, members⟩

end Json

open Json (TrimsTo MemberTrimsTo)

variable {α τ σ : Type}

-- What is written for a value is read as that value, with and without the members that it can do
-- without.
def Format.ReadsBack (f : Format α) : Prop :=
  ∀ a j, (f.write a).TrimsTo j → f.Says j a

namespace Format

theorem ReadsBack.whole {f : Format α} (h : f.ReadsBack) (a : α) : f.Says (f.write a) a :=
  h a _ (.same _)

theorem string_readsBack : string.ReadsBack := by
  intro s _ h
  cases h
  exact string_reads s

theorem bool_readsBack : bool.ReadsBack := by
  intro b _ h
  cases h
  exact bool_reads b

theorem int64_readsBack : int64.ReadsBack := by
  intro i _ h
  cases h
  exact int64_reads i

theorem choice_readsBack {names : List (String × α)} {name : α → String}
    (h : ∀ a, names.lookup (name a) = some a) : (choice names name).ReadsBack := by
  intro a _ ht
  cases ht
  exact choice_reads (h a)

theorem option_readsBack {f : Format α} (hw : ∀ a, f.write a ≠ .null) (hf : f.ReadsBack) :
    f.option.ReadsBack := by
  intro a j h
  cases a
  case none =>
    cases h
    exact f.option_reads_none
  case some a =>
    refine option_reads_some (fun hj => ?_) (hf a j h)
    -- Nothing but null trims to null.
    subst hj
    generalize hv : f.option.write (some a) = v at h
    cases h
    exact hw a hv

theorem list_readsBack {f : Format α} (h : f.ReadsBack) : f.list.ReadsBack := by
  intro as j ht
  have hs : List.Forall₂ TrimsTo (as.map f.write) (as.map f.write) := List.forall₂_same.mpr fun _ _ => .same _
  have reads (ks : List Json) (hi : List.Forall₂ TrimsTo (as.map f.write) ks) : f.list.Says (.array ks) as := by
    refine list_reads ?_
    rw [List.forall₂_map_left_iff] at hi
    exact (hi.imp fun a k => h a k).flip
  cases ht
  case same => exact reads _ hs
  case array ks hi => exact reads ks hi

end Format

-- The field is read as it was written, and as well if it is left out where it has its default.
structure RecordField.Tolerant (field : RecordField α) : Prop where
  hidden : ∀ a, field.hidden a → field.absent = some a
  leftOut : ∀ a, (field.name, field.format.write a) ∈ Json.defaults → field.absent = some a
  verbatim : field.name ∈ Json.verbatim → ∀ a, field.format.Says (field.format.write a) a
  kept : field.name ∉ Json.verbatim → field.format.ReadsBack

namespace RecordField

variable {name : String} {f : Format α}

theorem Tolerant.reads {field : RecordField α} (h : field.Tolerant) {a : α} {j : Option Json}
    {find : String → Option Json} (hj : j = if field.hidden a then none else some (field.format.write a))
    (ht : MemberTrimsTo field.name j (find field.name)) : field.Says find a := by
  rw [Says]
  generalize find field.name = k at ht
  split at hj
  case isTrue hh =>
    subst hj
    cases ht
    exact h.hidden a hh
  case isFalse =>
    subst hj
    cases ht
    case leftOut hd => exact h.leftOut a hd
    case verbatim hv => exact h.verbatim hv a
    case kept hv hk => exact h.kept hv a _ hk

theorem required_tolerant (h : f.ReadsBack) (hn : name ∉ Json.defaults.map Prod.fst := by decide) :
    (required name f).Tolerant where
  hidden _ hh := nomatch hh
  leftOut _ hl := absurd hl (Json.not_mem_defaults hn _)
  verbatim _ := h.whole
  kept _ := h

theorem required_json_tolerant (hn : name ∉ Json.defaults.map Prod.fst) (hv : name ∈ Json.verbatim) :
    (required name .json).Tolerant where
  hidden _ hh := nomatch hh
  leftOut _ hl := absurd hl (Json.not_mem_defaults hn _)
  verbatim _ := Format.json_reads
  kept h := absurd hv h

theorem defaulted_tolerant {default : α} (hd : ∀ a, (name, f.write a) ∈ Json.defaults → a = default)
    (h : f.ReadsBack) : (defaulted name f default).Tolerant where
  hidden _ hh := nomatch hh
  leftOut a hl := congrArg some (hd a hl).symm
  verbatim _ := h.whole
  kept _ := h

-- A list of which there is a default is empty.
theorem defaulted_list_tolerant (h : f.ReadsBack) : (defaulted name f.list []).Tolerant := by
  refine defaulted_tolerant (fun as hl => ?_) (Format.list_readsBack h)
  cases as
  case nil => rfl
  case cons => simp [Json.defaults, Format.list] at hl

theorem defaulted_table_tolerant {default : Table Json} (hv : name ∈ Json.verbatim)
    (hd : ∀ t, (name, .object t) ∈ Json.defaults → t = default) : (defaulted name .table default).Tolerant where
  hidden _ hh := nomatch hh
  leftOut t hl := congrArg some (hd t hl).symm
  verbatim _ := Format.table_reads
  kept h := absurd hv h

theorem optional_tolerant (hn : name ∉ Json.defaults.map Prod.fst) (hw : ∀ a, f.write a ≠ .null)
    (h : f.ReadsBack) : (optional name f).Tolerant where
  hidden
    | none, _ => rfl
    | some _, hh => nomatch hh
  leftOut
    | none, _ => rfl
    | some _, hl => absurd hl (Json.not_mem_defaults hn _)
  verbatim _ := (Format.option_readsBack hw h).whole
  kept _ := Format.option_readsBack hw h

theorem nullable_tolerant (hn : name ∉ Json.defaults.map Prod.fst) (hw : ∀ a, f.write a ≠ .null)
    (h : f.ReadsBack) : (nullable name f).Tolerant :=
  { optional_tolerant hn hw h with }

theorem required_string_tolerant (hn : name ∉ Json.defaults.map Prod.fst := by decide) :
    (required name .string).Tolerant :=
  required_tolerant Format.string_readsBack hn

theorem optional_string_tolerant (hn : name ∉ Json.defaults.map Prod.fst := by decide) :
    (optional name .string).Tolerant :=
  optional_tolerant hn (fun _ => nofun) Format.string_readsBack

theorem nullable_string_tolerant (hn : name ∉ Json.defaults.map Prod.fst := by decide) :
    (nullable name .string).Tolerant :=
  nullable_tolerant hn (fun _ => nofun) Format.string_readsBack

theorem flag_tolerant : (defaulted name .bool false).Tolerant := by
  refine defaulted_tolerant (fun b hl => ?_) Format.bool_readsBack
  cases b
  case false => rfl
  case true => simp [Json.defaults, Format.bool] at hl

end RecordField

namespace Fields

def Tolerant : {τ σ : Type} → Fields τ σ → Prop
  | _, _, nil => True
  | _, _, cons field rest => field.Tolerant ∧ rest.Tolerant

theorem Tolerant.reads {fields : Fields τ σ} (h : fields.Tolerant) {find find' : String → Option Json} {values : τ}
    (hw : fields.Writes find values) (ht : ∀ key, MemberTrimsTo key (find key) (find' key)) :
    fields.Says find' values := by
  induction fields
  case nil => trivial
  case cons field rest ih => exact ⟨h.1.reads hw.1 (ht field.name), ih h.2 hw.2⟩

end Fields

namespace Format

variable {name key : String} {fields : Fields τ σ}

theorem record_readsBack {pack : τ → α} {unpack : α → τ} (hn : fields.names.Nodup)
    (hp : ∀ a, pack (unpack a) = a) (h : fields.Tolerant) : (record name fields pack unpack).ReadsBack := by
  intro a j ht
  have ⟨t, hw, hf⟩ : ∃ t, (record name fields pack unpack).write a = .object t ∧ fields.Writes t.find? (unpack a) :=
    writes_record hn a
  rw [hw] at ht
  obtain ⟨u, rfl, hm⟩ := ht.members
  have hr : (record name fields pack unpack).Says (.object u) (pack (unpack a)) := record_reads hn (h.reads hf hm)
  rwa [hp] at hr

theorem extended_readsBack {pack : String × τ → α} {unpack : α → String × τ} (hn : (key :: fields.names).Nodup)
    (hd : key ∉ Json.defaults.map Prod.fst) (hp : ∀ a, pack (unpack a) = a) (h : fields.Tolerant) :
    (extended name key fields pack unpack).ReadsBack := by
  intro a j ht
  have ⟨t, hw, hk, hf⟩ : ∃ t, (extended name key fields pack unpack).write a = .object t ∧
      t.find? key = some (.string (unpack a).1) ∧ fields.Writes t.find? (unpack a).2 := writes_extended hn a
  rw [hw] at ht
  obtain ⟨u, rfl, hm⟩ := ht.members
  have hid : u.find? key = some (.string (unpack a).1) := by
    have hmk := hm key
    rw [hk] at hmk
    generalize u.find? key = k at hmk
    cases hmk
    case leftOut hl => exact absurd hl (Json.not_mem_defaults hd _)
    case verbatim => rfl
    case kept hs => cases hs; rfl
  have hr : (extended name key fields pack unpack).Says (.object u) (pack (unpack a)) :=
    extended_reads hn hid (h.reads hf hm)
  rwa [hp] at hr

end Format
end Troubleshoot
