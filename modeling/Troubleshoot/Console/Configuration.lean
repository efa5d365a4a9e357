import Troubleshoot.Console.Environment
import Troubleshoot.Number.Decimal
import Troubleshoot.Settings
import Troubleshoot.Text.Case

namespace Troubleshoot

inductive LogFormat where
  | pretty | json
deriving DecidableEq, Repr

def LogFormat.name : LogFormat → String
  | pretty => "pretty"
  | json => "json"

structure Configuration where
  settings : Settings
  logLevel : String
  logFormat : LogFormat
  knowledgeBasePath : Option String
deriving DecidableEq, Repr

namespace Configuration

-- Reads a sign if any and ASCII digits, within 64 bits.
def int64? (s : String) : Option Int64 :=
  let (negative, ds) := Decimal.sign s.toList
  if ds ≠ [] ∧ ds.all Char.isDigit then
    let n : Int := Decimal.digitsValue 0 ds
    let i := if negative then -n else n
    if Int64.minValue.toInt ≤ i ∧ i ≤ Int64.maxValue.toInt then some (.ofInt i) else none
  else
    none

-- Reads a truth value in any case, blanks around it aside.
def bool (name raw : String) : Except String Bool :=
  let word := Text.lowerCase (Text.trim raw)
  if word ∈ ["1", "true", "yes", "on"] then .ok true
  else if word ∈ ["0", "false", "no", "off", ""] then .ok false
  else .error s!"{name} must be a boolean, got '{word}'"

def number (env : Environment) (name : String) (default : Int64) : Int64 :=
  ((env.find? name).bind int64?).getD default

-- The configuration of an environment, or what is wrong with it.
def ofEnvironment (env : Environment) : Except String Configuration := do
  let allowUndefinedFacts ← match env.find? "ALLOW_UNDEFINED_FACTS" with
    | some raw => bool "ALLOW_UNDEFINED_FACTS" raw
    | none => pure false
  let default : Settings := {}
  let settings : Settings :=
    { allowUndefinedFacts
      factPriorityStart := number env "FACT_PRIORITY_START" default.factPriorityStart
      sessionFactPriority := number env "SESSION_FACT_PRIORITY" default.sessionFactPriority }
  settings.validate
  return {
    settings
    logLevel := (env.find? "LOG_LEVEL").getD "info"
    logFormat := match env.find? "LOG_FORMAT" with
      | some raw => if Text.lowerCase raw = "json" then .json else .pretty
      | none => .pretty
    knowledgeBasePath := (env.find? "KNOWLEDGE_BASE_PATH").filter fun path => Text.trim path ≠ "" }

end Configuration
end Troubleshoot
