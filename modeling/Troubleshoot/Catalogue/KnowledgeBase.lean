import Troubleshoot.Catalogue.Format
import Troubleshoot.Text.Utf8

namespace Troubleshoot

inductive RecordKind where
  | symptom | solution | diagnostic
deriving DecidableEq, Repr

def RecordKind.name : RecordKind → String
  | symptom => "symptom"
  | solution => "solution"
  | diagnostic => "diagnostic"

-- Why no text could be read from a file.
inductive FileError where
  | notFound | isDirectory | notUtf8
deriving DecidableEq, Repr

def FileError.message : FileError → String
  | notFound => "no such file"
  | isDirectory => "it is a directory"
  | notUtf8 => "it is not valid UTF-8"

inductive KnowledgeBase.Error where
  | file (cause : FileError)
  | json (cause : DecodeError)
  | duplicateId (kind : RecordKind) (id : String)

def KnowledgeBase.Error.message : Error → String
  | file cause => s!"Failed to read knowledge base: {cause.message}"
  | json cause => s!"Malformed knowledge base: {cause.message}"
  | duplicateId kind id => s!"Duplicate {kind.name} id: {id}"

-- The table has the place of each id, and no other id.
def Indexes (index : Table Nat) (ids : List String) : Prop :=
  ∀ id place, index.find? id = some place ↔ ids[place]? = some id

-- Three lists of records, and where in them the record with an id stands. The order of the symptoms
-- counts: it is the order in which their rules are tried.
structure KnowledgeBase where
  symptoms : List Symptom
  solutions : List Solution
  questions : List Question
  symptomIndex : Table Nat
  solutionIndex : Table Nat
  questionIndex : Table Nat
  symptoms_indexed : Indexes symptomIndex (symptoms.map (·.id))
  solutions_indexed : Indexes solutionIndex (solutions.map (·.id))
  questions_indexed : Indexes questionIndex (questions.map (·.id))

namespace Indexes

variable {index : Table Nat} {ids : List String} {id : String}

theorem empty : Indexes ∅ [] := by
  simp [Indexes]

-- An id has one place at the most.
theorem nodup (h : Indexes index ids) : ids.Nodup := by
  refine List.pairwise_iff_getElem.mpr fun i j hi hj hij he => ?_
  have hp := (h ids[i] i).mpr (List.getElem?_eq_getElem hi)
  have hq := (h ids[i] j).mpr (he ▸ List.getElem?_eq_getElem hj)
  exact Nat.ne_of_lt hij (Option.some.inj (hp.symm.trans hq))

theorem find?_eq_none_iff (h : Indexes index ids) : index.find? id = none ↔ id ∉ ids := by
  rw [Option.eq_none_iff_forall_not_mem, List.mem_iff_getElem?, not_exists]
  exact forall_congr' fun place => not_congr (h id place)

-- An id that has no place yet takes the next.
theorem insert (h : Indexes index ids) (hi : index.find? id = none) :
    Indexes (index.insert id ids.length) (ids ++ [id]) := by
  have fresh (place : Nat) : ids[place]? ≠ some id := fun hp => by
    cases hi.symm.trans ((h id place).mpr hp)
  intro key place
  rw [Table.find?_insert]
  split
  case isTrue hk =>
    subst hk
    rcases Nat.lt_trichotomy place ids.length with hp | rfl | hp
    · rw [List.getElem?_append_left hp]
      exact iff_of_false (fun he => Nat.ne_of_lt hp (Option.some.inj he).symm) (fresh place)
    · simp
    · simp [Nat.ne_of_lt hp, List.getElem?_eq_none (show (ids ++ [key]).length ≤ place by simp; omega)]
  case isFalse hk =>
    rw [h key place]
    grind

end Indexes

namespace KnowledgeBase

-- Sets down the place of each record, and refuses a record whose id has a place already.
def indexById {α : Type} (kind : RecordKind) (idOf : α → String) (records : List α) : Except Error (Table Nat) :=
  go ∅ 0 records
where
  go (index : Table Nat) (place : Nat) : List α → Except Error (Table Nat)
    | [] => .ok index
    | record :: records =>
      match index.replace (idOf record) place with
      | (some _, _) => .error (.duplicateId kind (idOf record))
      | (none, index) => go index (place + 1) records

section indexById

variable {α : Type} {kind : RecordKind} {idOf : α → String} {records : List α} {index : Table Nat}

-- What has been set down is where the records stand that were seen.
theorem indexById.go_indexes {start : Table Nat} {seen : List String} (hs : Indexes start seen)
    (h : go kind idOf start seen.length records = .ok index) : Indexes index (seen ++ records.map idOf) := by
  induction records generalizing start seen
  case nil =>
    cases h
    simpa using hs
  case cons record records ih =>
    simp only [go, Table.replace] at h
    split at h
    case _ => cases h
    case _ hf =>
      obtain ⟨hn, rfl⟩ := Prod.mk.inj hf
      have hi := ih (hs.insert hn) (by simpa using h)
      simpa using hi

theorem indexes_of_indexById (h : indexById kind idOf records = .ok index) : Indexes index (records.map idOf) :=
  indexById.go_indexes .empty h

end indexById

def empty : KnowledgeBase :=
  ⟨[], [], [], ∅, ∅, ∅, .empty, .empty, .empty⟩

-- The knowledge base of three lists of records; kinds are checked for repeated ids one by one.
def ofRecords (symptoms : List Symptom) (solutions : List Solution) (questions : List Question) :
    Except Error KnowledgeBase :=
  match hs : indexById .symptom (·.id) symptoms with
  | .error e => .error e
  | .ok symptomIndex =>
    match hk : indexById .solution (·.id) solutions with
    | .error e => .error e
    | .ok solutionIndex =>
      match hq : indexById .diagnostic (·.id) questions with
      | .error e => .error e
      | .ok questionIndex =>
        .ok ⟨symptoms, solutions, questions, symptomIndex, solutionIndex, questionIndex,
          indexes_of_indexById hs, indexes_of_indexById hk, indexes_of_indexById hq⟩

def recordsFormat : Format (List Symptom × List Solution × List Question × Unit) :=
  .record "KnowledgeBaseFile"
    (.cons (.defaulted "symptoms" (.list Symptom.format) []) <|
      .cons (.defaulted "solutions" (.list Solution.format) []) <|
      .cons (.defaulted "diagnostics" (.list Question.format) []) .nil)
    id id

def ofText (text : String) : Except Error KnowledgeBase :=
  match recordsFormat.readText text with
  | .ok (symptoms, solutions, questions, ()) => ofRecords symptoms solutions questions
  | .error e => .error (.json e)

-- What stands at the path of a file.
inductive File where
  | absent
  | directory
  | bytes (content : List UInt8)

def File.text : File → Except FileError String
  | absent => .error .notFound
  | directory => .error .isDirectory
  | bytes content => (Text.Utf8.decode content).mapError fun _ => .notUtf8

def ofFile (file : File) : Except Error KnowledgeBase :=
  match file.text with
  | .ok text => ofText text
  | .error e => .error (.file e)

-- The record that stands where the index has the id.
def lookUp {α : Type} (index : Table Nat) (records : List α) (id : String) : Option α :=
  match index.find? id with
  | some place => records[place]?
  | none => none

-- A look-up finds what a search finds.
theorem lookUp_eq_find? {α : Type} {index : Table Nat} {records : List α} {idOf : α → String}
    (h : Indexes index (records.map idOf)) (id : String) :
    lookUp index records id = records.find? (idOf · = id) := by
  rw [lookUp]
  cases hi : index.find? id
  case none =>
    refine (List.find?_eq_none.mpr fun record hm he => ?_).symm
    have ⟨place, hp⟩ := List.getElem?_of_mem hm
    have hn : (records.map idOf)[place]? = some id := by
      rw [List.getElem?_map, hp, Option.map_some, of_decide_eq_true he]
    cases hi.symm.trans ((h id place).mpr hn)
  case some place =>
    have hp := (h id place).mp hi
    rw [List.getElem?_map] at hp
    obtain ⟨record, hr, hid⟩ := Option.map_eq_some_iff.mp hp
    obtain ⟨hl, hr'⟩ := List.getElem?_eq_some_iff.mp hr
    have first (other : Nat) (ho : other < place) : idOf records[other] ≠ id := fun he => by
      have hm : (records.map idOf)[other]? = some id := by
        rw [List.getElem?_map, List.getElem?_eq_getElem (Nat.lt_trans ho hl), Option.map_some, he]
      exact Nat.ne_of_lt ho (Option.some.inj (((h id other).mpr hm).symm.trans hi))
    refine hr.trans (Eq.symm ?_)
    rw [List.find?_eq_some_iff_getElem]
    exact ⟨by simpa using hid, place, hl, hr', fun other ho => by simpa using first other ho⟩

def symptom? (kb : KnowledgeBase) (id : String) : Option Symptom :=
  lookUp kb.symptomIndex kb.symptoms id

def solution? (kb : KnowledgeBase) (id : String) : Option Solution :=
  lookUp kb.solutionIndex kb.solutions id

def question? (kb : KnowledgeBase) (id : String) : Option Question :=
  lookUp kb.questionIndex kb.questions id

theorem symptom?_eq_find? (kb : KnowledgeBase) (id : String) : kb.symptom? id = kb.symptoms.find? (·.id = id) :=
  lookUp_eq_find? kb.symptoms_indexed id

theorem solution?_eq_find? (kb : KnowledgeBase) (id : String) : kb.solution? id = kb.solutions.find? (·.id = id) :=
  lookUp_eq_find? kb.solutions_indexed id

theorem question?_eq_find? (kb : KnowledgeBase) (id : String) : kb.question? id = kb.questions.find? (·.id = id) :=
  lookUp_eq_find? kb.questions_indexed id

theorem id_of_question? {kb : KnowledgeBase} {id : String} {q : Question} (h : kb.question? id = some q) :
    q.id = id := by
  rw [question?_eq_find?] at h
  simpa using List.find?_some h

-- A reference from a symptom to a record that does not exist.
inductive Gap where
  | solution (symptomId solutionId : String)
  | cause (symptomId causeId : String)
  | question (symptomId questionId : String)
deriving DecidableEq, Repr

-- The gaps of a symptom: its solutions, its causes, then each question once, where a guard first
-- names it.
def gapsOf (kb : KnowledgeBase) (s : Symptom) : List Gap :=
  let solutions := s.candidates.filter fun c => (kb.solution? c.solutionId).isNone
  let causes := s.causes.filter fun c => (kb.symptom? c.symptomId).isNone
  let questions := (s.guards.flatMap Guard.questions).filter fun id => (kb.question? id).isNone
  solutions.map (.solution s.id ·.solutionId) ++ causes.map (.cause s.id ·.symptomId) ++
    (firsts questions).map (.question s.id)
where
  -- each element where it occurs first
  firsts : List String → List String
    | [] => []
    | id :: ids => id :: (firsts ids).filter (· ≠ id)

def gaps (kb : KnowledgeBase) : List Gap :=
  kb.symptoms.flatMap kb.gapsOf

end KnowledgeBase
end Troubleshoot
