import Troubleshoot.Number.Decimal
import Troubleshoot.Record.Fields
import Troubleshoot.Text.Blank

namespace Troubleshoot

inductive Answer where
  | text (value : String)
  | number (value : Binary64)
deriving DecidableEq

namespace Answer

def yes : Answer := .text "yes"

def no : Answer := .text "no"

-- Reads what a person typed: a finite number, or else the text without the blanks around it.
def ofText (raw : String) : Answer :=
  let trimmed := Text.trim raw
  match (Decimal.ofChars? trimmed.toList).map Decimal.toBinary64 with
  | some x => if x.IsFinite then .number x else .text trimmed
  | none => .text trimmed

-- The value of a fact that has this answer.
def toJson : Answer → Json
  | .text s => .string s
  | .number x => ((Number.ofBinary64? x).map Json.number).getD .null

theorem toJson_eq_string_iff {a : Answer} {s : String} : a.toJson = .string s ↔ a = .text s := by
  cases a
  case text => simp [toJson]
  case number x => cases h : Number.ofBinary64? x <;> simp [toJson, h]

def format : Format Answer where
  read d := do
    match ← d.toJson with
    | .string s => return .text s
    | .number n => return .number n.toBinary64
    | _ => .error (.noAlternative "Answer")
  write := toJson

end Answer
end Troubleshoot
