import Troubleshoot.Session.Advisor

namespace Troubleshoot

-- `name { field: value, … }`
def describeRecord (name : String) (fields : List (String × String)) : String :=
  name ++ " \x7b " ++ ", ".intercalate (fields.map fun (field, value) => field ++ ": " ++ value) ++
    " \x7d"

def describeList (items : List String) : String :=
  "[" ++ ", ".intercalate items ++ "]"

def describeBool (b : Bool) : String :=
  if b then "true" else "false"

-- The text of a value, with the kind of each part.
mutual

def Json.describe : Json → String
  | .null => "Null"
  | .bool b => "Bool(" ++ describeBool b ++ ")"
  | .number n => "Number(" ++ n.text ++ ")"
  | .string s => "String(" ++ Text.quoted s ++ ")"
  | .array items => "Array " ++ describeList (Json.describeItems items)
  | .object members => "Object \x7b" ++ ", ".intercalate (Json.describeMembers members) ++ "\x7d"

def Json.describeItems : List Json → List String
  | [] => []
  | item :: items => item.describe :: Json.describeItems items

def Json.describeMembers : Table Json → List String
  | ⟨keys, value⟩ => List.ofFn fun i => Text.quoted (keys.list.get i) ++ ": " ++ (value i).describe

end

def Operators.describe (ops : Operators) : String :=
  describeRecord "OperatorRegistry" [("operators", describeList (ops.keys.list.map Text.quoted))]

def Respondent.describe {υ : Type} (r : Respondent υ) : String :=
  describeRecord "Callbacks" [
    ("diagnostic", describeBool r.question.isSome), ("solution", describeBool r.confirmation.isSome)]

def Source.describe {σ : Type} : Source σ → String
  | .constant value => "Static(" ++ value.describe ++ ")"
  | .provider _ => "Dynamic(..)"

def Settings.describe (s : Settings) : String :=
  describeRecord "EngineConfig" [
    ("allow_undefined_facts", describeBool s.allowUndefinedFacts),
    ("fact_priority_start", toString s.factPriorityStart),
    ("session_fact_priority", toString s.sessionFactPriority)]

def Advisor.describe {υ : Type} (a : Advisor υ) : String :=
  describeRecord "DiagnosticEngine" [
    ("config", a.settings.describe), ("initialized", describeBool a.isPrepared),
    ("rules", toString a.rules.length)]

end Troubleshoot
