import Troubleshoot.Proofs.Record.Shown
import Troubleshoot.Record.Fields

namespace Troubleshoot

open Document (Shows)

variable {α τ σ : Type}

-- Whatever document shows the value, the format reads `a` off it.
def Format.Says (f : Format α) (j : Json) (a : α) : Prop :=
  ∀ d : Document, d.Shows j → f.read d = .ok a

namespace Format

theorem json_reads (j : Json) : json.Says j j :=
  fun d h => d.toJson_of_shows j h

theorem string_reads (s : String) : string.Says (.string s) s := by
  intro _ h
  cases h
  rfl

theorem bool_reads (b : Bool) : bool.Says (.bool b) b := by
  intro _ h
  cases h
  rfl

theorem int64_reads (i : Int64) : int64.Says (int64.write i) i := by
  intro _ h
  cases h
  have hi : Int64.minValue.toInt ≤ i.toInt ∧ i.toInt ≤ Int64.maxValue.toInt :=
    ⟨i.minValue_le_toInt, i.toInt_le⟩
  simp only [int64, hi, and_self, if_true, Int64.ofInt_toInt]

theorem list_reads {f : Format α} {js : List Json} {as : List α} (h : List.Forall₂ f.Says js as) :
    f.list.Says (.array js) as := by
  intro _ hd
  cases hd
  case array items shown =>
    have hm : items.mapM f.read = .ok as := by
      induction h generalizing items
      case nil =>
        cases shown
        rfl
      case cons hj _ ih =>
        cases shown
        case cons hd more => rw [List.mapM_cons, hj _ hd, ih more]; rfl
    simp only [list, hm]
    rfl

theorem option_reads_none (f : Format α) : f.option.Says .null none := by
  intro _ h
  cases h
  rfl

-- A value that is written as null would be taken for none.
theorem option_reads_some {f : Format α} {j : Json} {a : α} (hj : j ≠ .null) (h : f.Says j a) :
    f.option.Says j (some a) := by
  intro d hd
  have hr := h d hd
  cases hd
  case null => exact absurd rfl hj
  all_goals
    simp only [option, hr]
    rfl

theorem table_reads (t : Table Json) : table.Says (.object t) t := by
  intro d h
  have hj := d.toJson_of_shows _ h
  cases h
  case object members _ _ =>
    simp only [Document.toJson] at hj
    cases hm : Document.toMembers members <;> rw [hm] at hj <;> cases hj
    simp only [table, hm]
    rfl

theorem choice_reads {names : List (String × α)} {name : α → String} {a : α}
    (h : names.lookup (name a) = some a) : (choice names name).Says (.string (name a)) a := by
  intro _ hd
  cases hd
  simp only [choice, choice.variant, h]

end Format

-- The field has its value and does not come up again, or it is still to get it from the members.
def RecordField.Due (field : RecordField α) (members : List (String × Document)) (slot : Option α) (a : α) : Prop :=
  match members.lookup field.name with
  | some d => slot = none ∧ field.format.read d = .ok a
  | none => (slot <|> field.absent) = some a

-- The field is read off a record whose members have these values.
def RecordField.Says (field : RecordField α) (find : String → Option Json) (a : α) : Prop :=
  match find field.name with
  | some j => field.format.Says j a
  | none => field.absent = some a

namespace RecordField

variable {name : String} {f : Format α} {a b : α} {find : String → Option Json}

theorem required_reads (hf : find name = some (f.write a)) (h : f.Says (f.write a) b) :
    (required name f).Says find b := by
  rw [Says, show find (required name f).name = _ from hf]
  exact h

theorem nullable_reads {g : α → Option α} (h : ∀ a, f.option.Says (f.write a) (g a)) {a b : Option α}
    (hb : a.bind g = b) (hf : find name = if a.isNone then none else some (f.option.write a)) :
    (nullable name f).Says find b := by
  rw [Says, show find (nullable name f).name = _ from hf, ← hb]
  cases a
  case none => rfl
  case some a => exact h a

end RecordField

namespace Fields

def Due : {τ σ : Type} → Fields τ σ → List (String × Document) → σ → τ → Prop
  | _, _, nil, _, (), () => True
  | _, _, cons field rest, members, (slot, slots), (a, as) =>
    field.Due members slot a ∧ rest.Due members slots as

def Says : {τ σ : Type} → Fields τ σ → (String → Option Json) → τ → Prop
  | _, _, nil, _, () => True
  | _, _, cons field rest, find, (a, as) => field.Says find a ∧ rest.Says find as

-- The members that are written.
def Writes : {τ σ : Type} → Fields τ σ → (String → Option Json) → τ → Prop
  | _, _, nil, _, () => True
  | _, _, cons field rest, find, (a, as) =>
    (find field.name = if field.hidden a then none else some (field.format.write a)) ∧ rest.Writes find as

variable {fields : Fields τ σ} {members : List (String × Document)} {slots : σ} {values : τ}

theorem Due.congr {others : List (String × Document)}
    (hl : ∀ name ∈ fields.names, members.lookup name = others.lookup name) (h : fields.Due members slots values) :
    fields.Due others slots values := by
  induction fields
  case nil => trivial
  case cons field rest ih =>
    have ⟨hf, hr⟩ := List.forall_mem_cons.mp hl
    refine ⟨?_, ih hr h.2⟩
    rw [RecordField.Due, ← hf]
    exact h.1

-- A member that has been read is done with.
theorem Due.next {key : String} {d : Document} (hn : fields.names.Nodup) (hk : key ∉ members.map Prod.fst)
    (h : fields.Due ((key, d) :: members) slots values) :
    match fields.fill? key d slots with
    | some filled => ∃ slots', filled = .ok slots' ∧ fields.Due members slots' values
    | none => fields.Due members slots values := by
  have passed {name : String} (hne : name ≠ key) : ((key, d) :: members).lookup name = members.lookup name :=
    lookup_cons_of_ne hne
  induction fields
  case nil => exact h
  case cons field rest ih =>
    obtain ⟨slot, slots⟩ := slots
    obtain ⟨a, as⟩ := values
    have ⟨hf, hr⟩ := h
    have ⟨hname, hn⟩ := List.nodup_cons.mp hn
    simp only [fill?]
    by_cases he : key = field.name
    case pos =>
      subst he
      simp only [RecordField.Due, List.lookup_cons_self] at hf
      obtain ⟨rfl, ha⟩ := hf
      rw [if_pos rfl]
      refine ⟨(some a, slots), by rw [ha]; rfl, ?_, hr.congr fun name hm => passed fun he => hname (he ▸ hm)⟩
      rw [RecordField.Due, lookup_eq_none_of_not_mem hk]
      rfl
    case neg =>
      rw [if_neg he]
      have hd : field.Due members slot a := by
        rw [RecordField.Due, ← passed (Ne.symm he)]
        exact hf
      have hi := ih hn hr
      cases hfill : rest.fill? key d slots
      case none => exact ⟨hd, by rwa [hfill] at hi⟩
      case some filled =>
        rw [hfill] at hi
        obtain ⟨slots', rfl, hs⟩ := hi
        exact ⟨(slot, slots'), rfl, hd, hs⟩

theorem Due.complete (h : fields.Due [] slots values) : fields.complete slots = .ok values := by
  induction fields
  case nil => rfl
  case cons field rest ih =>
    obtain ⟨slot, slots⟩ := slots
    obtain ⟨a, as⟩ := values
    have hf : (slot <|> field.absent) = some a := h.1
    simp only [Fields.complete, hf, ih h.2]
    rfl

theorem Due.readMembers (hn : fields.names.Nodup) (once : (members.map Prod.fst).Nodup)
    (hw : ∀ m ∈ members, m.2.wellFormed) (h : fields.Due members slots values) :
    ∃ slots', fields.readMembers members slots = .ok slots' ∧ fields.complete slots' = .ok values := by
  induction members generalizing slots
  case nil => exact ⟨slots, rfl, h.complete⟩
  case cons m members ih =>
    obtain ⟨key, d⟩ := m
    have ⟨hk, once⟩ := List.nodup_cons.mp once
    have ⟨hd, hw⟩ := List.forall_mem_cons.mp hw
    have hnext := h.next hn hk
    rw [Fields.readMembers]
    cases hf : fields.fill? key d slots
    case none =>
      rw [hf] at hnext
      have ⟨slots', hr, hc⟩ := ih once hw hnext
      exact ⟨slots', by simpa [hd] using hr, hc⟩
    case some filled =>
      rw [hf] at hnext
      obtain ⟨slots', rfl, hs⟩ := hnext
      exact ih once hw hs

theorem Due.ofMembers (hn : fields.names.Nodup) (once : (members.map Prod.fst).Nodup)
    (hw : ∀ m ∈ members, m.2.wellFormed) (h : fields.Due members fields.blank values) :
    fields.ofMembers members .closed = .ok values := by
  have ⟨slots', hr, hc⟩ := h.readMembers hn once hw
  rw [Fields.ofMembers, hr]
  exact hc

-- What members show is what the fields are to get.
theorem Says.due {find : String → Option Json}
    (hm : ∀ name ∈ fields.names, Option.Rel Shows (members.lookup name) (find name)) (h : fields.Says find values) :
    fields.Due members fields.blank values := by
  induction fields
  case nil => trivial
  case cons field rest ih =>
    obtain ⟨a, as⟩ := values
    have ⟨hf, hr⟩ := List.forall_mem_cons.mp hm
    refine ⟨?_, ih hr h.2⟩
    have hs := h.1
    rw [RecordField.Says] at hs
    rw [RecordField.Due]
    generalize members.lookup field.name = d, find field.name = j at hf hs
    cases hf
    case none => exact hs
    case some hj => exact ⟨rfl, hs _ hj⟩

theorem keys_write (fields : Fields τ σ) (values : τ) :
    ∀ key ∈ (fields.write values).map Prod.fst, key ∈ fields.names := by
  induction fields
  case nil => exact nofun
  case cons field rest ih =>
    obtain ⟨a, as⟩ := values
    intro key hk
    rw [write] at hk
    split at hk
    case isTrue => exact List.mem_cons_of_mem _ (ih as key hk)
    case isFalse =>
      cases hk
      case head => exact List.mem_cons_self ..
      case tail hk => exact List.mem_cons_of_mem _ (ih as key hk)

theorem nodup_write (hn : fields.names.Nodup) (values : τ) : ((fields.write values).map Prod.fst).Nodup := by
  induction fields
  case nil => exact .nil
  case cons field rest ih =>
    obtain ⟨a, as⟩ := values
    have ⟨hk, hn⟩ := List.nodup_cons.mp hn
    rw [write]
    split
    · exact ih hn as
    · exact List.nodup_cons.mpr ⟨fun h => hk (rest.keys_write as _ h), ih hn as⟩

theorem writes_of_lookup {find : String → Option Json} (hn : fields.names.Nodup)
    (hf : ∀ name ∈ fields.names, find name = (fields.write values).lookup name) : fields.Writes find values := by
  induction fields
  case nil => trivial
  case cons field rest ih =>
    obtain ⟨a, as⟩ := values
    have ⟨hk, hn⟩ := List.nodup_cons.mp hn
    have ⟨hname, hrest⟩ := List.forall_mem_cons.mp hf
    rw [write] at hname hrest
    split at hname
    case isTrue hh =>
      have hnone : (rest.write as).lookup field.name = none :=
        lookup_eq_none_of_not_mem fun h => hk (rest.keys_write as _ h)
      rw [if_pos hh] at hrest
      exact ⟨by rw [hname, hnone, if_pos hh], ih hn hrest⟩
    case isFalse hh =>
      rw [if_neg hh] at hrest
      refine ⟨by rw [hname, List.lookup_cons_self, if_neg hh], ih hn fun name hm => ?_⟩
      have hne : name ≠ field.name := fun he => hk (he ▸ hm)
      rw [hrest name hm, lookup_cons_of_ne hne]

end Fields

namespace Format

variable {name key : String} {fields : Fields τ σ} {pack : τ → α} {unpack : α → τ} {t : Table Json}

-- The object that is written has the values of the fields.
theorem writes_record (hn : fields.names.Nodup) (a : α) :
    ∃ t, (record name fields pack unpack).write a = .object t ∧ fields.Writes t.find? (unpack a) :=
  ⟨_, rfl, fields.writes_of_lookup hn fun name _ => Table.find?_ofList (fields.nodup_write hn (unpack a)) name⟩

theorem record_reads {values : τ} (hn : fields.names.Nodup) (h : fields.Says t.find? values) :
    (record name fields pack unpack).Says (.object t) (pack values) := by
  intro _ hd
  cases hd
  case object members once shown =>
    have hw : ∀ m ∈ members, m.2.wellFormed := fun m hm =>
      have ⟨_, _, hs⟩ := Document.exists_value once shown hm
      hs.wellFormed
    have hr := (h.due fun name _ => shown name).ofMembers hn once hw
    simp only [record, hr]
    rfl

-- What is written for `a` is read as `b` if that is so of the fields.
theorem record_rereads {a b : α} (hn : fields.names.Nodup) (hp : pack (unpack b) = b)
    (h : ∀ find, fields.Writes find (unpack a) → fields.Says find (unpack b)) :
    (record name fields pack unpack).Says ((record name fields pack unpack).write a) b := by
  have ⟨t, hw, hf⟩ : ∃ t, (record name fields pack unpack).write a = .object t ∧ fields.Writes t.find? (unpack a) :=
    writes_record hn a
  have hr : (record name fields pack unpack).Says (.object t) (pack (unpack b)) := record_reads hn (h _ hf)
  rw [hp] at hr
  exact hw ▸ hr

section extended

variable {pack : String × τ → α} {unpack : α → String × τ}

theorem writes_extended (hn : (key :: fields.names).Nodup) (a : α) :
    ∃ t, (extended name key fields pack unpack).write a = .object t ∧ t.find? key = some (.string (unpack a).1) ∧
      fields.Writes t.find? (unpack a).2 := by
  have ⟨hk, hn⟩ := List.nodup_cons.mp hn
  have once : (((key, Json.string (unpack a).1) :: fields.write (unpack a).2).map Prod.fst).Nodup :=
    List.nodup_cons.mpr ⟨fun h => hk (fields.keys_write _ _ h), fields.nodup_write hn _⟩
  refine ⟨_, rfl, ?_, Fields.writes_of_lookup hn fun name hm => ?_⟩
  · rw [Table.find?_ofList once, List.lookup_cons_self]
  · have hne : name ≠ key := fun he => hk (he ▸ hm)
    rw [Table.find?_ofList once, lookup_cons_of_ne hne]

theorem split_of_not_mem {members : List (String × Document)} (hk : key ∉ members.map Prod.fst)
    (hj : ∀ m ∈ members, ∃ j, m.2.toJson = .ok j) (id : Option String) :
    extended.split key id members = .ok (id, members) := by
  induction members
  case nil => rfl
  case cons m members ih =>
    have ⟨hm, hk⟩ := not_or.mp (List.mem_cons.not.mp hk)
    have ⟨⟨_, hd⟩, hj⟩ := List.forall_mem_cons.mp hj
    rw [extended.split, if_neg (Ne.symm hm), hd]
    simp only [bind, Except.bind, ih hk hj]
    rfl

-- The key's own member is taken out.
theorem split_of_lookup {members : List (String × Document)} (once : (members.map Prod.fst).Nodup)
    (hj : ∀ m ∈ members, ∃ j, m.2.toJson = .ok j) {s : String} (hs : members.lookup key = some (.string s)) :
    ∃ others, extended.split key none members = .ok (some s, others) ∧ (others.map Prod.fst).Nodup ∧
      others ⊆ members ∧ ∀ other, other ≠ key → others.lookup other = members.lookup other := by
  induction members
  case nil => cases hs
  case cons m members ih =>
    obtain ⟨k, d⟩ := m
    have ⟨hk, hn⟩ := List.nodup_cons.mp once
    have ⟨⟨_, hd⟩, hrest⟩ := List.forall_mem_cons.mp hj
    rw [extended.split]
    by_cases he : k = key
    case pos =>
      subst he
      rw [List.lookup_cons_self] at hs
      cases hs
      refine ⟨members, ?_, hn, List.subset_cons_self .., fun other ho => (lookup_cons_of_ne ho).symm⟩
      rw [if_pos rfl]
      exact split_of_not_mem hk hrest _
    case neg =>
      rw [lookup_cons_of_ne (Ne.symm he)] at hs
      have ⟨others, hr, hno, hsub, hl⟩ := ih hn hrest hs
      refine ⟨(k, d) :: others, ?_, List.nodup_cons.mpr ⟨fun hm => hk (List.map_subset _ hsub hm), hno⟩,
        List.cons_subset_cons _ hsub, fun other ho => ?_⟩
      · rw [if_neg he, hd]
        simp only [bind, Except.bind, hr]
        rfl
      · rw [List.lookup_cons, List.lookup_cons, hl other ho]

theorem extended_reads {values : τ} {id : String} (hn : (key :: fields.names).Nodup)
    (hid : t.find? key = some (.string id)) (h : fields.Says t.find? values) :
    (extended name key fields pack unpack).Says (.object t) (pack (id, values)) := by
  intro _ hd
  cases hd
  case object members once shown =>
    have ⟨hk, hn⟩ := List.nodup_cons.mp hn
    have hv (m : String × Document) (hm : m ∈ members) : ∃ j, m.2.Shows j :=
      have ⟨j, _, hs⟩ := Document.exists_value once shown hm
      ⟨j, hs⟩
    have hl : members.lookup key = some (.string id) := by
      have hr := shown key
      rw [hid] at hr
      generalize members.lookup key = d at hr
      cases hr
      case some hd => cases hd; rfl
    have ⟨others, hs, hno, hsub, hlo⟩ := split_of_lookup once
      (fun m hm => have ⟨j, hs⟩ := hv m hm; ⟨j, m.2.toJson_of_shows j hs⟩) hl
    have hw : ∀ m ∈ others, m.2.wellFormed := fun m hm => (hv m (hsub hm)).elim fun _ hs => hs.wellFormed
    have hr := (h.due fun name hm => hlo name (fun he => hk (he ▸ hm)) ▸ shown name).ofMembers hn hno hw
    simp only [extended, hs]
    change (pack <$> (id, ·) <$> fields.ofMembers others .closed) = _
    rw [hr]
    rfl

end extended

end Format
end Troubleshoot
