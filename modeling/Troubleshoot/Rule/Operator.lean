import Troubleshoot.Json.Basic

namespace Troubleshoot

-- Takes the value of the fact first, then the value of the condition.
abbrev Operator := Json → Json → Bool

namespace Operator

-- A list satisfies `p`; what is no list satisfies nothing.
def onList (list : Json) (p : List Json → Bool) : Bool :=
  list.array?.any p

def onNumbers (r : Binary64 → Binary64 → Bool) : Operator := fun a b =>
  match a.number?, b.number? with
  | some x, some y => r x.toBinary64 y.toBinary64
  | _, _ => false

def equal : Operator := Json.same

def notEqual : Operator := fun a b => !a.same b

def isIn : Operator := fun a b => onList b (Json.has · a)

def notIn : Operator := fun a b => onList b (!Json.has · a)

def contains : Operator := fun a b => onList a (Json.has · b)

def doesNotContain : Operator := fun a b => onList a (!Json.has · b)

def lessThan : Operator := onNumbers (· < ·)

def lessThanInclusive : Operator := onNumbers (· ≤ ·)

def greaterThan : Operator := onNumbers (· > ·)

def greaterThanInclusive : Operator := onNumbers (· ≥ ·)

-- Two lists share an item.
def containsOneOf : Operator := fun a b =>
  match a.array?, b.array? with
  | some as, some bs => if as.isEmpty || bs.isEmpty then false else bs.any (Json.has as)
  | _, _ => false

-- Without items there is nothing to share.
theorem containsOneOf_eq (a b : Json) :
    containsOneOf a b = onList a fun as => onList b fun bs => bs.any (Json.has as) := by
  cases ha : a.array? <;> cases hb : b.array? <;> simp [containsOneOf, onList, ha, hb]
  case some.some as bs => cases as <;> cases bs <;> simp [Json.has]

end Operator

-- The operators that conditions can name.
abbrev Operators := Table Operator

namespace Operators

def builtIn : Operators :=
  .ofList [
    ("equal", .equal), ("notEqual", .notEqual), ("in", .isIn), ("notIn", .notIn),
    ("contains", .contains), ("doesNotContain", .doesNotContain), ("lessThan", .lessThan),
    ("lessThanInclusive", .lessThanInclusive), ("greaterThan", .greaterThan),
    ("greaterThanInclusive", .greaterThanInclusive)]

end Operators
end Troubleshoot
