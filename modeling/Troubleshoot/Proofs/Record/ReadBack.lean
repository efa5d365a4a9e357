import Troubleshoot.Proofs.Catalogue.Lookup
import Troubleshoot.Proofs.Record.Trimmed
import Troubleshoot.Rule.Format
import Troubleshoot.Session.Answer
import Troubleshoot.Session.Firing

namespace Troubleshoot

open Format RecordField

namespace Guard

theorem fields_tolerant : fields.Tolerant :=
  ⟨defaulted_list_tolerant string_readsBack, defaulted_list_tolerant string_readsBack,
    defaulted_list_tolerant string_readsBack, trivial⟩

theorem format_readsBack : format.ReadsBack :=
  record_readsBack (by decide) (fun _ => rfl) fields_tolerant

end Guard

theorem Candidate.format_readsBack : format.ReadsBack :=
  extended_readsBack (by decide) (by decide) (fun _ => rfl) Guard.fields_tolerant

theorem Cause.format_readsBack : format.ReadsBack :=
  extended_readsBack (by decide) (by decide) (fun _ => rfl) Guard.fields_tolerant

theorem Symptom.format_readsBack : format.ReadsBack :=
  record_readsBack (by decide) (fun _ => rfl)
    ⟨required_string_tolerant, required_string_tolerant, optional_string_tolerant,
      defaulted_list_tolerant Candidate.format_readsBack, defaulted_list_tolerant Cause.format_readsBack, trivial⟩

theorem Solution.format_readsBack : format.ReadsBack :=
  record_readsBack (by decide) (fun _ => rfl)
    ⟨required_string_tolerant, required_string_tolerant, optional_string_tolerant,
      optional_string_tolerant, optional_string_tolerant, flag_tolerant, flag_tolerant, trivial⟩

namespace Question

theorem Kind.format_readsBack : Kind.format.ReadsBack :=
  choice_readsBack fun kind => by cases kind <;> rfl

theorem kind_tolerant {name : String} : (defaulted name Kind.format .yesNo).Tolerant := by
  refine defaulted_tolerant (fun kind hd => ?_) Kind.format_readsBack
  cases kind
  case yesNo => rfl
  all_goals simp [Json.defaults, Kind.format, choice, Kind.name] at hd

theorem format_readsBack : format.ReadsBack :=
  record_readsBack (by decide) (fun _ => rfl)
    ⟨required_string_tolerant, required_string_tolerant, optional_string_tolerant, kind_tolerant,
      optional_string_tolerant, trivial⟩

end Question

theorem Condition.format_readsBack : format.ReadsBack :=
  record_readsBack (by decide) (fun _ => rfl)
    ⟨required_string_tolerant, required_string_tolerant, required_json_tolerant (by decide) (by decide), trivial⟩

theorem params_tolerant : (defaulted "params" .table ∅).Tolerant := by
  refine defaulted_table_tolerant (by decide) fun t hd => ?_
  simpa [Json.defaults] using hd

theorem Event.format_readsBack : format.ReadsBack :=
  record_readsBack (by decide) (fun _ => rfl) ⟨required_string_tolerant, params_tolerant, trivial⟩

theorem Rule.format_readsBack : format.ReadsBack :=
  record_readsBack (by decide) (fun _ => rfl)
    ⟨required_string_tolerant, required_tolerant int64_readsBack,
      required_tolerant (list_readsBack Condition.format_readsBack),
      required_tolerant Event.format_readsBack, trivial⟩

theorem Effect.format_readsBack : format.ReadsBack :=
  choice_readsBack ofName?_name

theorem Firing.format_readsBack : format.ReadsBack :=
  record_readsBack (by decide) (fun _ => rfl)
    ⟨required_tolerant Effect.format_readsBack, required_string_tolerant, required_string_tolerant,
      nullable_string_tolerant, nullable_string_tolerant, required_string_tolerant, trivial⟩

-- An infinite answer, or one that is no number, is written as null, and null is no answer.
theorem Answer.format_reads {a : Answer} (h : ∀ x, a = .number x → x.IsFinite) : format.Says (format.write a) a := by
  intro d hd
  have hj := d.toJson_of_shows _ hd
  cases a
  case text s => simp only [format, hj]; rfl
  case number x =>
    have hx : x.finite? = some ⟨x, h x rfl⟩ := dif_pos (h x rfl)
    simp only [format, hj, toJson, Number.ofBinary64?, hx]
    rfl

-- The text shows the value, in whatever layout and with the members in any order.
def Json.ShownBy (j : Json) (text : String) : Prop :=
  ∃ d, Document.ofText text = (d, true) ∧ d.Shows j

theorem Format.readText_of_shownBy {α : Type} {f : Format α} {a : α} {j : Json} {text : String} (h : f.Says j a)
    (ht : j.ShownBy text) : f.readText text = .ok a := by
  have ⟨d, hd, hs⟩ := ht
  rw [readText, hd]
  simp only [h d hs]
  rfl

namespace KnowledgeBase

theorem recordsFormat_readsBack : recordsFormat.ReadsBack :=
  record_readsBack (by decide) (fun _ => rfl)
    ⟨defaulted_list_tolerant Symptom.format_readsBack, defaulted_list_tolerant Solution.format_readsBack,
      defaulted_list_tolerant Question.format_readsBack, trivial⟩

-- The document of three lists of records.
def document (symptoms : List Symptom) (solutions : List Solution) (questions : List Question) : Json :=
  .ofMembers [("symptoms", .array (symptoms.map Symptom.format.write)),
    ("solutions", .array (solutions.map Solution.format.write)),
    ("diagnostics", .array (questions.map Question.format.write))]

variable {symptoms : List Symptom} {solutions : List Solution} {questions : List Question} {kb : KnowledgeBase}

theorem ofText_of_document {j : Json} {text : String} (hj : (document symptoms solutions questions).TrimsTo j)
    (ht : j.ShownBy text) : ofText text = ofRecords symptoms solutions questions := by
  have hr : recordsFormat.Says j (symptoms, solutions, questions, ()) := recordsFormat_readsBack _ _ hj
  rw [ofText, readText_of_shownBy hr ht]

theorem records_of_ofRecords (h : ofRecords symptoms solutions questions = .ok kb) :
    kb.symptoms = symptoms ∧ kb.solutions = solutions ∧ kb.questions = questions := by
  unfold ofRecords at h
  split at h <;> try cases h
  split at h <;> try cases h
  split at h <;> cases h
  exact ⟨rfl, rfl, rfl⟩

end KnowledgeBase

-- What is written for a record is read as that record, with and without the members that have their
-- default; the document of the records of a knowledge base is read as that knowledge base.
structure RecordsReadBack : Prop where
  guard : Guard.format.ReadsBack
  candidate : Candidate.format.ReadsBack
  cause : Cause.format.ReadsBack
  symptom : Symptom.format.ReadsBack
  solution : Solution.format.ReadsBack
  question : Question.format.ReadsBack
  condition : Condition.format.ReadsBack
  event : Event.format.ReadsBack
  rule : Rule.format.ReadsBack
  firing : Firing.format.ReadsBack
  answer : ∀ a : Answer, (∀ x, a = .number x → x.IsFinite) → Answer.format.Says (Answer.format.write a) a
  knowledgeBase : ∀ (symptoms : List Symptom) (solutions : List Solution) (questions : List Question)
    (kb : KnowledgeBase), KnowledgeBase.ofRecords symptoms solutions questions = .ok kb →
    (kb.symptoms = symptoms ∧ kb.solutions = solutions ∧ kb.questions = questions) ∧
    ∀ (j : Json) (text : String), (KnowledgeBase.document symptoms solutions questions).TrimsTo j → j.ShownBy text →
      KnowledgeBase.ofText text = .ok kb

theorem records_readBack : RecordsReadBack where
  guard := Guard.format_readsBack
  candidate := Candidate.format_readsBack
  cause := Cause.format_readsBack
  symptom := Symptom.format_readsBack
  solution := Solution.format_readsBack
  question := Question.format_readsBack
  condition := Condition.format_readsBack
  event := Event.format_readsBack
  rule := Rule.format_readsBack
  firing := Firing.format_readsBack
  answer _ h := Answer.format_reads h
  knowledgeBase _ _ _ _ h :=
    ⟨KnowledgeBase.records_of_ofRecords h, fun _ _ hj ht => (KnowledgeBase.ofText_of_document hj ht).trans h⟩

section noWater

def noWater : Symptom :=
  ⟨"S", "no water", none, [⟨"K", ⟨[], [], []⟩⟩], []⟩

def noWaterBase : KnowledgeBase :=
  .ofDistinct [noWater] [] [] (by decide) List.nodup_nil List.nodup_nil

-- The document of the knowledge base, with all left out that has its default.
def noWaterJson : Json :=
  .ofMembers [("symptoms", .array [.ofMembers [("id", .string "S"), ("name", .string "no water"),
    ("rules", .array [.ofMembers [("solutionId", .string "K")]])]])]

def noWaterText : String :=
  "\x7b\"symptoms\":[\x7b\"id\":\"S\",\"name\":\"no water\",\"rules\":[\x7b\"solutionId\":\"K\"\x7d]\x7d]\x7d"

theorem noWaterJson_shownBy : noWaterJson.ShownBy noWaterText := by
  have hd : Document.ofText noWaterText = (.object [("symptoms", .array [.object [("id", .string "S"),
      ("name", .string "no water"), ("rules", .array [.object [("solutionId", .string "K")] .closed] .closed)]
      .closed] .closed)] .closed, true) := by with_unfolding_all rfl
  refine ⟨_, hd, ?_⟩
  have candidate : Document.Shows (.object [("solutionId", .string "K")] .closed)
      (.ofMembers [("solutionId", .string "K")]) := .ofMembers (by decide) (.cons ⟨rfl, .string "K"⟩ .nil)
  refine .ofMembers (by decide) (.cons ⟨rfl, .array (.cons (.ofMembers (by decide) ?_) .nil)⟩ .nil)
  exact .cons ⟨rfl, .string "S"⟩ (.cons ⟨rfl, .string "no water"⟩ (.cons ⟨rfl, .array (.cons candidate .nil)⟩ .nil))

theorem document_trimsTo_noWaterJson : (KnowledgeBase.document [noWater] [] []).TrimsTo noWaterJson := by
  have lists : ∀ key ∈ ["solutions", "diagnostics", "rootCauses", "systemTypes", "mustBeYes", "mustBeNo"],
      (key, Json.array []) ∈ Json.defaults := by simp [Json.defaults]
  have nothing (key : String) : Json.MemberTrimsTo key (List.lookup key []) (List.lookup key []) := .none
  have candidate : Json.TrimsTo (.ofMembers [("solutionId", .string "K"), ("systemTypes", .array []),
      ("mustBeYes", .array []), ("mustBeNo", .array [])]) (.ofMembers [("solutionId", .string "K")]) := by
    refine .ofMembers (by decide) (by decide) (.cons (.same ..) ?_)
    exact .drop (lists _ (by decide)) (by decide)
      (.drop (lists _ (by decide)) (by decide) (.drop (lists _ (by decide)) (by decide) nothing))
  have symptom : Json.TrimsTo (Symptom.format.write noWater) (.ofMembers [("id", .string "S"),
      ("name", .string "no water"), ("rules", .array [.ofMembers [("solutionId", .string "K")]])]) := by
    refine .ofMembers (by decide) (by decide) (.cons (.same ..) (.cons (.same ..) (.cons ?_ ?_)))
    · exact .kept (by decide) (.array (.cons candidate .nil))
    · exact .drop (lists _ (by decide)) (by decide) nothing
  refine .ofMembers (by decide) (by decide) (.cons (.kept (by decide) (.array (.cons symptom .nil))) ?_)
  exact .drop (lists _ (by decide)) (by decide) (.drop (lists _ (by decide)) (by decide) nothing)

theorem records_readBack_noWater : KnowledgeBase.ofText noWaterText = .ok noWaterBase :=
  (records_readBack.knowledgeBase [noWater] [] [] noWaterBase rfl).2 noWaterJson noWaterText
    document_trimsTo_noWaterJson noWaterJson_shownBy

end noWater

end Troubleshoot
