import Mathlib.Data.List.Induction
import Mathlib.Data.List.Nodup
import Troubleshoot.Catalogue.KnowledgeBase

namespace Troubleshoot

-- The earliest element that occurred before.
def RepeatsFirst (ids : List String) (id : String) : Prop :=
  ∃ before after, ids = before ++ id :: after ∧ before.Nodup ∧ id ∈ before

theorem RepeatsFirst.not_nodup {ids : List String} {id : String} (h : RepeatsFirst ids id) : ¬ids.Nodup := by
  obtain ⟨before, after, rfl, _, hm⟩ := h
  exact fun hn => (List.nodup_append.mp hn).2.2 id hm id (List.mem_cons_self ..) rfl

namespace KnowledgeBase

variable {ids seen : List String} {id x : String}

-- The earliest element that occurred before, or was seen even before the list.
def RepeatsAfter (seen ids : List String) (id : String) : Prop :=
  ∃ before after, ids = before ++ id :: after ∧ before.Nodup ∧ (∀ x ∈ before, x ∉ seen) ∧ (id ∈ before ∨ id ∈ seen)

theorem repeatsAfter_nil_iff : RepeatsAfter [] ids id ↔ RepeatsFirst ids id := by
  simp [RepeatsAfter, RepeatsFirst]

theorem repeatsAfter_cons_of_mem (hx : x ∈ seen) : RepeatsAfter seen (x :: ids) id ↔ x = id := by
  constructor
  case mp =>
    rintro ⟨before, after, he, _, hb, _⟩
    cases before
    case nil => exact (List.cons.inj he).1
    case cons y before =>
      cases he
      exact absurd hx (hb x (.head _))
  case mpr =>
    rintro rfl
    exact ⟨[], ids, rfl, List.nodup_nil, fun _ h => absurd h List.not_mem_nil, .inr hx⟩

theorem repeatsAfter_cons_of_not_mem (hx : x ∉ seen) :
    RepeatsAfter seen (x :: ids) id ↔ RepeatsAfter (seen ++ [x]) ids id := by
  constructor
  case mp =>
    rintro ⟨before, after, he, hn, hb, hm⟩
    cases before
    case nil =>
      cases he
      exact absurd (hm.resolve_left List.not_mem_nil) hx
    case cons y before =>
      cases he
      obtain ⟨hy, hn⟩ := List.nodup_cons.mp hn
      refine ⟨before, after, rfl, hn, fun z hz h => ?_, ?_⟩
      · rcases List.mem_append.mp h with h | h
        · exact hb z (.tail _ hz) h
        · exact hy (List.mem_singleton.mp h ▸ hz)
      · rw [List.mem_append, List.mem_singleton]
        rw [List.mem_cons] at hm
        grind
  case mpr =>
    rintro ⟨before, after, he, hn, hb, hm⟩
    refine ⟨x :: before, after, congrArg (x :: ·) he, ?_, ?_, ?_⟩
    · exact List.nodup_cons.mpr ⟨fun h => hb x h (List.mem_append_right _ (.head _)), hn⟩
    · exact List.forall_mem_cons.mpr ⟨hx, fun y hy h => hb y hy (List.mem_append_left _ h)⟩
    · rw [List.mem_append, List.mem_singleton] at hm
      grind

section indexById

variable {α : Type} {kind : RecordKind} {idOf : α → String} {records : List α} {index : Table Nat} {e : Error}

-- The loop stops at the first record whose id is among those that it has set down.
theorem indexById.go_eq_error_iff (h : Indexes index seen) :
    go kind idOf index seen.length records = .error e ↔
      ∃ id, e = .duplicateId kind id ∧ RepeatsAfter seen (records.map idOf) id := by
  induction records generalizing index seen
  case nil => simp [go, RepeatsAfter]
  case cons record records ih =>
    rw [go, List.map_cons]
    cases hf : index.find? (idOf record)
    case some place =>
      have hm : idOf record ∈ seen := Decidable.not_not.mp (mt h.find?_eq_none_iff.mpr (by simp [hf]))
      simp [Table.replace, hf, repeatsAfter_cons_of_mem hm, eq_comm]
    case none =>
      have hi := ih (h.insert hf)
      rw [List.length_append, List.length_singleton] at hi
      simp only [Table.replace, hf, repeatsAfter_cons_of_not_mem (h.find?_eq_none_iff.mp hf)]
      exact hi

theorem indexById_eq_error_iff :
    indexById kind idOf records = .error e ↔ ∃ id, e = .duplicateId kind id ∧ RepeatsFirst (records.map idOf) id := by
  simp only [← repeatsAfter_nil_iff]
  exact indexById.go_eq_error_iff .empty

-- Only one id is the first that is repeated: the one at which the loop stops.
theorem repeatsFirst_unique {id' : String} (h : RepeatsFirst ids id) (h' : RepeatsFirst ids id') : id = id' := by
  have he {x : String} (hx : RepeatsFirst ids x) : indexById .symptom (fun i => i) ids = .error (.duplicateId .symptom x) :=
    indexById_eq_error_iff.mpr ⟨x, rfl, by simpa using hx⟩
  cases (he h).symm.trans (he h')
  rfl

end indexById

-- What looking up ids among records comes to. The place that the index has for an id is that of a record,
-- and leads to the record that is found.
structure Finds {α : Type} (records : List α) (idOf : α → String) (index : Table Nat)
    (find? : String → Option α) : Prop where
  some_iff : ∀ id a, find? id = some a ↔ a ∈ records ∧ idOf a = id
  none_iff : ∀ id, find? id = none ↔ ∀ a ∈ records, idOf a ≠ id
  place_iff : ∀ id n, index.find? id = some n ↔ ∃ a, records[n]? = some a ∧ idOf a = id
  in_range : ∀ id n, index.find? id = some n → ∃ h : n < records.length, find? id = some records[n]

theorem finds_of_indexes {α : Type} {records : List α} {idOf : α → String} {index : Table Nat}
    (h : Indexes index (records.map idOf)) : Finds records idOf index (lookUp index records) := by
  have hp (id : String) (n : Nat) : index.find? id = some n ↔ ∃ a, records[n]? = some a ∧ idOf a = id := by
    rw [h id n, List.getElem?_map, Option.map_eq_some_iff]
  have hs (id : String) (a : α) : lookUp index records id = some a ↔ a ∈ records ∧ idOf a = id := by
    rw [lookUp]
    constructor
    case mp =>
      intro hl
      cases hi : index.find? id <;> rw [hi] at hl
      case none => cases hl
      case some n =>
        obtain ⟨b, hb, rfl⟩ := (hp id n).mp hi
        cases hb.symm.trans hl
        exact ⟨List.mem_of_getElem? hb, rfl⟩
    case mpr =>
      rintro ⟨ha, rfl⟩
      obtain ⟨n, hn⟩ := List.getElem?_of_mem ha
      rw [(hp _ n).mpr ⟨a, hn, rfl⟩]
      exact hn
  refine ⟨hs, fun id => ?_, hp, fun id n hi => ?_⟩
  · simp [lookUp_eq_find? h]
  · obtain ⟨a, ha, rfl⟩ := (hp id n).mp hi
    obtain ⟨hl, rfl⟩ := List.getElem?_eq_some_iff.mp ha
    exact ⟨hl, (hs _ _).mpr ⟨List.getElem_mem hl, rfl⟩⟩

-- The place of each id.
def places (ids : List String) : Table Nat :=
  .ofList ids.zipIdx

theorem indexes_places (h : ids.Nodup) : Indexes (places ids) ids := by
  induction ids using List.reverseRecOn
  case nil => exact .empty
  case append_singleton ids id ih =>
    obtain ⟨hn, _, hd⟩ := List.nodup_append.mp h
    have hi := ih hn
    have hid : id ∉ ids := fun hm => hd id hm id (.head _) rfl
    have hp : places (ids ++ [id]) = (places ids).insert id ids.length := by
      simp [places, Table.ofList, List.zipIdx_append, List.foldl_append]
    exact hp ▸ hi.insert (hi.find?_eq_none_iff.mpr hid)

-- The knowledge base of records that have ids of their own.
def ofDistinct (symptoms : List Symptom) (solutions : List Solution) (questions : List Question)
    (hs : (symptoms.map (·.id)).Nodup) (hk : (solutions.map (·.id)).Nodup) (hq : (questions.map (·.id)).Nodup) :
    KnowledgeBase :=
  ⟨symptoms, solutions, questions, places (symptoms.map (·.id)), places (solutions.map (·.id)),
    places (questions.map (·.id)), indexes_places hs, indexes_places hk, indexes_places hq⟩

end KnowledgeBase

-- The kinds that are looked at before a kind.
def RecordKind.earlier : RecordKind → List RecordKind
  | symptom => []
  | solution => [symptom]
  | diagnostic => [symptom, solution]

theorem RecordKind.eq_or_earlier (k l : RecordKind) : k = l ∨ k ∈ l.earlier ∨ l ∈ k.earlier := by
  cases k <;> cases l <;> decide

namespace KnowledgeBase

variable (symptoms : List Symptom) (solutions : List Solution) (questions : List Question)

def idsOf : RecordKind → List String
  | .symptom => symptoms.map (·.id)
  | .solution => solutions.map (·.id)
  | .diagnostic => questions.map (·.id)

-- A kind is to blame for the first repeat: those before it have none.
structure Blames (kind : RecordKind) (id : String) : Prop where
  earlier : ∀ k ∈ kind.earlier, (idsOf symptoms solutions questions k).Nodup
  first : RepeatsFirst (idsOf symptoms solutions questions kind) id

-- What an offer of records can come to.
inductive Offered : Except Error KnowledgeBase → Prop
  | taken (kb : KnowledgeBase) (symptoms_eq : kb.symptoms = symptoms) (solutions_eq : kb.solutions = solutions)
    (questions_eq : kb.questions = questions) : Offered (.ok kb)
  | refused (kind : RecordKind) {id : String} (blames : Blames symptoms solutions questions kind id) :
    Offered (.error (.duplicateId kind id))

structure Catalogued (result : Except Error KnowledgeBase) : Prop where
  ok_iff : (∃ kb, result = .ok kb) ↔ ∀ kind, (idsOf symptoms solutions questions kind).Nodup
  records : ∀ kb, result = .ok kb →
    kb.symptoms = symptoms ∧ kb.solutions = solutions ∧ kb.questions = questions
  lookups : ∀ kb, result = .ok kb → Finds symptoms (·.id) kb.symptomIndex kb.symptom? ∧
    Finds solutions (·.id) kb.solutionIndex kb.solution? ∧ Finds questions (·.id) kb.questionIndex kb.question?
  error_iff : ∀ e, result = .error e ↔
    ∃ kind id, e = .duplicateId kind id ∧ Blames symptoms solutions questions kind id

variable {symptoms solutions questions}

theorem Blames.unique {kind kind' : RecordKind} {id id' : String} (h : Blames symptoms solutions questions kind id)
    (h' : Blames symptoms solutions questions kind' id') : kind = kind' ∧ id = id' := by
  rcases kind.eq_or_earlier kind' with rfl | hk | hk
  case inr.inl => exact absurd (h'.earlier _ hk) h.first.not_nodup
  case inr.inr => exact absurd (h.earlier _ hk) h'.first.not_nodup
  exact ⟨rfl, repeatsFirst_unique h.first h'.first⟩

theorem nodup_idsOf_iff : (∀ kind, (idsOf symptoms solutions questions kind).Nodup) ↔
    (symptoms.map (·.id)).Nodup ∧ (solutions.map (·.id)).Nodup ∧ (questions.map (·.id)).Nodup :=
  ⟨fun h => ⟨h .symptom, h .solution, h .diagnostic⟩, fun ⟨hs, hk, hq⟩ kind => by cases kind <;> assumption⟩

theorem ofRecords_offered : Offered symptoms solutions questions (ofRecords symptoms solutions questions) := by
  unfold ofRecords
  split
  case h_1 e hs =>
    obtain ⟨id, rfl, hr⟩ := indexById_eq_error_iff.mp hs
    exact .refused .symptom ⟨nofun, hr⟩
  case h_2 symptomIndex hs =>
    have hs := (indexes_of_indexById hs).nodup
    split
    case h_1 e hk =>
      obtain ⟨id, rfl, hr⟩ := indexById_eq_error_iff.mp hk
      exact .refused .solution ⟨by simpa [RecordKind.earlier], hr⟩
    case h_2 solutionIndex hk =>
      have hk := (indexes_of_indexById hk).nodup
      split
      case h_1 e hq =>
        obtain ⟨id, rfl, hr⟩ := indexById_eq_error_iff.mp hq
        exact .refused .diagnostic ⟨by simpa [RecordKind.earlier] using ⟨hs, hk⟩, hr⟩
      case h_2 => exact .taken _ rfl rfl rfl

theorem Offered.catalogued {result : Except Error KnowledgeBase} (h : Offered symptoms solutions questions result) :
    Catalogued symptoms solutions questions result := by
  cases h
  case taken kb hs hk hq =>
    subst hs hk hq
    have hn := nodup_idsOf_iff.mpr ⟨kb.symptoms_indexed.nodup, kb.solutions_indexed.nodup, kb.questions_indexed.nodup⟩
    refine ⟨iff_of_true ⟨kb, rfl⟩ hn, ?_, ?_, fun e => ⟨nofun, fun ⟨kind, id, _, hb⟩ => ?_⟩⟩
    · rintro _ ⟨⟩
      exact ⟨rfl, rfl, rfl⟩
    · rintro _ ⟨⟩
      exact ⟨finds_of_indexes kb.symptoms_indexed, finds_of_indexes kb.solutions_indexed,
        finds_of_indexes kb.questions_indexed⟩
    · exact absurd (hn kind) hb.first.not_nodup
  case refused kind id hb =>
    refine ⟨iff_of_false nofun fun hn => hb.first.not_nodup (hn kind), nofun, nofun, fun e => ⟨?_, ?_⟩⟩
    · rintro ⟨⟩
      exact ⟨kind, id, rfl, hb⟩
    · rintro ⟨kind', id', rfl, hb'⟩
      obtain ⟨rfl, rfl⟩ := hb.unique hb'
      rfl

theorem ofRecords_catalogued (symptoms : List Symptom) (solutions : List Solution) (questions : List Question) :
    Catalogued symptoms solutions questions (ofRecords symptoms solutions questions) :=
  ofRecords_offered.catalogued

end KnowledgeBase

end Troubleshoot
