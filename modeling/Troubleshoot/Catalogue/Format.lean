import Troubleshoot.Catalogue.Basic
import Troubleshoot.Record.Fields

namespace Troubleshoot

open RecordField

abbrev Guard.Values := List String × List String × List String × Unit

def Guard.fields : Fields Guard.Values
    (Option (List String) × Option (List String) × Option (List String) × Unit) :=
  .cons (defaulted "systemTypes" (.list .string) []) <|
  .cons (defaulted "mustBeYes" (.list .string) []) <|
  .cons (defaulted "mustBeNo" (.list .string) []) .nil

def Guard.pack : Guard.Values → Guard
  | (systemTypes, mustBeYes, mustBeNo, ()) => ⟨systemTypes, mustBeYes, mustBeNo⟩

def Guard.unpack (g : Guard) : Guard.Values :=
  (g.systemTypes, g.mustBeYes, g.mustBeNo, ())

def Guard.format : Format Guard :=
  .record "LinkConditions" Guard.fields Guard.pack Guard.unpack

def Candidate.format : Format Candidate :=
  .extended "SolutionLink" "solutionId" Guard.fields
    (fun (id, guard) => ⟨id, .pack guard⟩) fun c => (c.solutionId, c.guard.unpack)

def Cause.format : Format Cause :=
  .extended "RootCauseLink" "symptomId" Guard.fields
    (fun (id, guard) => ⟨id, .pack guard⟩) fun c => (c.symptomId, c.guard.unpack)

def Symptom.format : Format Symptom :=
  .record "Symptom"
    (.cons (required "id" .string) <|
      .cons (required "name" .string) <|
      .cons (optional "description" .string) <|
      .cons (defaulted "rules" (.list Candidate.format) []) <|
      .cons (defaulted "rootCauses" (.list Cause.format) []) .nil)
    (fun (id, name, description, candidates, causes, ()) => ⟨id, name, description, candidates, causes⟩)
    fun s => (s.id, s.name, s.description, s.candidates, s.causes, ())

def Solution.format : Format Solution :=
  .record "Solution"
    (.cons (required "id" .string) <|
      .cons (required "name" .string) <|
      .cons (optional "symptomId" .string) <|
      .cons (optional "description" .string) <|
      .cons (optional "instructions" .string) <|
      .cons (defaulted "askDidItWork" .bool false) <|
      .cons (defaulted "askAreYouAble" .bool false) .nil)
    (fun (id, name, symptomId, description, instructions, askDidItWork, askAreYouAble, ()) =>
      ⟨id, name, symptomId, description, instructions, askDidItWork, askAreYouAble⟩)
    fun s =>
      (s.id, s.name, s.symptomId, s.description, s.instructions, s.askDidItWork, s.askAreYouAble, ())

def Question.Kind.name : Question.Kind → String
  | yesNo => "yes-no"
  | chooseOne => "choose-one"
  | number => "number"

def Question.Kind.format : Format Question.Kind :=
  .choice [("yes-no", yesNo), ("choose-one", chooseOne), ("number", number)] name

def Question.format : Format Question :=
  .record "Diagnostic"
    (.cons (required "id" .string) <|
      .cons (required "name" .string) <|
      .cons (optional "symptomId" .string) <|
      .cons (defaulted "questionType" Kind.format .yesNo) <|
      .cons (optional "questionText" .string) .nil)
    (fun (id, name, symptomId, kind, text, ()) => ⟨id, name, symptomId, kind, text⟩)
    fun q => (q.id, q.name, q.symptomId, q.kind, q.text, ())

end Troubleshoot
