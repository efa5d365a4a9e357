import Troubleshoot.Number.Binary64
import Troubleshoot.Table

namespace Troubleshoot

inductive Number where
  | int (value : Int)
  | real (value : Finite64)
deriving DecidableEq

namespace Number

def same : Number → Number → Bool
  | .int a, .int b => a = b
  | .real a, .real b => a.val.same b
  | _, _ => false

-- The double nearest to a number.
def toBinary64 : Number → Binary64
  | .int a => .ofInt a
  | .real a => a

-- A double as a number, unless it is infinite or no number.
def ofBinary64? (x : Binary64) : Option Number :=
  x.finite?.map .real

end Number

inductive Json where
  | null
  | bool (value : Bool)
  | number (value : Number)
  | string (value : String)
  | array (items : List Json)
  | object (members : Table Json)

namespace Json

instance : Inhabited Json := ⟨.null⟩

def ofStrings (ss : List String) : Json :=
  .array (ss.map .string)

def int (i : Int) : Json :=
  .number (.int i)

-- An object from its members, a later one in place of an earlier one with its key.
def ofMembers (members : List (String × Json)) : Json :=
  .object (.ofList members)

def string? : Json → Option String
  | .string s => some s
  | _ => none

def array? : Json → Option (List Json)
  | .array items => some items
  | _ => none

def number? : Json → Option Number
  | .number n => some n
  | _ => none

-- Equality of values: texts and truth values literally, numbers as `Number.same` says, arrays item by
-- item, objects key by key.
mutual

def same : Json → Json → Bool
  | .null, .null => true
  | .bool a, .bool b => a = b
  | .number a, .number b => a.same b
  | .string a, .string b => a = b
  | .array as, .array bs => sameItems as bs
  | .object t, .object u => sameMembers t u
  | _, _ => false

def sameItems : List Json → List Json → Bool
  | [], [] => true
  | a :: as, b :: bs => same a b && sameItems as bs
  | _, _ => false

def sameMembers : Table Json → Table Json → Bool
  | ⟨ks, v⟩, ⟨ls, w⟩ =>
    if h : ks = ls then (List.finRange ks.list.length).all fun i => same (v i) (w (h ▸ i)) else false

end

-- Some item is the same value as `x`.
def has (items : List Json) (x : Json) : Bool :=
  items.any (same x)

end Json
end Troubleshoot
