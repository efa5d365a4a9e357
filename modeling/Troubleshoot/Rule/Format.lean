import Troubleshoot.Record.Fields
import Troubleshoot.Rule.Basic

namespace Troubleshoot

open RecordField

def Condition.format : Format Condition :=
  .record "Condition"
    (.cons (required "fact" .string) <|
      .cons (required "operator" .string) <|
      .cons (required "value" .json) .nil)
    (fun (fact, operator, value, ()) => ⟨fact, operator, value⟩)
    fun c => (c.fact, c.operator, c.value, ())

def Event.format : Format Event :=
  .record "RuleEvent"
    (.cons (required "type" .string) <|
      .cons (defaulted "params" .table ∅) .nil)
    (fun (type, params, ()) => ⟨type, params⟩)
    fun e => (e.type, e.params, ())

def Rule.format : Format Rule :=
  .record "Rule"
    (.cons (required "name" .string) <|
      .cons (required "priority" .int64) <|
      .cons (required "conditions" (.list Condition.format)) <|
      .cons (required "event" Event.format) .nil)
    (fun (name, priority, conditions, event, ()) => ⟨name, priority, conditions, event⟩)
    fun r => (r.name, r.priority, r.conditions, r.event, ())

def Check.format : Format Check :=
  .record "ConditionResult"
    (.cons (required "fact" .string) <|
      .cons (required "operator" .string) <|
      .cons (required "value" .json) <|
      .cons (nullable "fact_value" .json) <|
      .cons (required "result" .bool) .nil)
    (fun (fact, operator, value, factValue, result, ()) => ⟨fact, operator, value, factValue, result⟩)
    fun c => (c.fact, c.operator, c.value, c.factValue, c.result, ())

def Verdict.format : Format Verdict :=
  .record "RuleResult"
    (.cons (required "name" .string) <|
      .cons (required "priority" .int64) <|
      .cons (required "result" .bool) <|
      .cons (required "conditions" (.list Check.format)) <|
      .cons (required "event" Event.format) <|
      .cons (nullable "error" .string) .nil)
    (fun (name, priority, result, checks, event, error, ()) =>
      ⟨name, priority, result, checks, event, error⟩)
    fun v => (v.name, v.priority, v.result, v.checks, v.event, v.error, ())

def Report.format : Format Report :=
  .record "RunResult"
    (.cons (required "events" (.list Event.format)) <|
      .cons (required "failure_events" (.list Event.format)) <|
      .cons (required "results" (.list Verdict.format)) <|
      .cons (required "facts" .table) .nil)
    (fun (events, failureEvents, verdicts, facts, ()) => ⟨events, failureEvents, verdicts, facts⟩)
    fun r => (r.events, r.failureEvents, r.verdicts, r.facts, ())

end Troubleshoot
