namespace Troubleshoot

structure Settings where
  -- A condition on an unknown fact reads null instead of failing its rule.
  allowUndefinedFacts : Bool := false
  -- The priority of the first question or confirmation; each later one has one less.
  factPriorityStart : Int64 := 1000
  -- The priority of the session's own facts and of preset answers.
  sessionFactPriority : Int64 := 99999
deriving DecidableEq, Repr

namespace Settings

-- Questions rank below the session's own facts, so a rule looks at its symptom before anybody is
-- asked anything.
def Valid (s : Settings) : Prop :=
  s.factPriorityStart < s.sessionFactPriority

instance (s : Settings) : Decidable s.Valid :=
  inferInstanceAs (Decidable (_ < _))

-- What is wrong with settings that are not valid.
def misordered (s : Settings) : String :=
  s!"FACT_PRIORITY_START ({s.factPriorityStart}) must be below " ++
    s!"SESSION_FACT_PRIORITY ({s.sessionFactPriority})"

def validate (s : Settings) : Except String Unit :=
  if s.Valid then .ok () else .error s.misordered

end Settings
end Troubleshoot
