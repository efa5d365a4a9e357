import Troubleshoot.Record.DecodeError

namespace Troubleshoot

structure Format (α : Type) where
  read : Document → Except DecodeError α
  write : α → Json

-- The value, where a container is closed.
def Ending.guard (ending : Ending) (a : α) : Except DecodeError α :=
  if ending = .closed then .ok a else .error .malformed

namespace Document

-- The value that a document stands for.
mutual

def toJson : Document → Except DecodeError Json
  | .null => .ok .null
  | .bool b => .ok (.bool b)
  | .number n => .ok (.number n)
  | .string s => .ok (.string s)
  | .array items ending => do ending.guard (.array (← toItems items))
  | .object members ending => do ending.guard (.ofMembers (← toMembers members))
  | .unreadable | .broken => .error .malformed

def toItems : List Document → Except DecodeError (List Json)
  | [] => .ok []
  | d :: ds => do return (← toJson d) :: (← toItems ds)

def toMembers : List (String × Document) → Except DecodeError (List (String × Json))
  | [] => .ok []
  | (key, d) :: ds => do return (key, ← toJson d) :: (← toMembers ds)

end

end Document

namespace Format

variable {α : Type}

def json : Format Json where
  read := Document.toJson
  write := id

def string : Format String where
  read
    | .string s => .ok s
    | d => .error (d.mismatch "a string")
  write := .string

def bool : Format Bool where
  read
    | .bool b => .ok b
    | d => .error (d.mismatch "a boolean")
  write := .bool

def int64 : Format Int64 where
  read
    | .number (.int i) =>
      if Int64.minValue.toInt ≤ i ∧ i ≤ Int64.maxValue.toInt then .ok (.ofInt i)
      else .error (.outOfRange i "i64")
    | d => .error (d.mismatch "i64")
  write i := .int i.toInt

def list (f : Format α) : Format (List α) where
  read
    | .array items ending => do ending.guard (← items.mapM f.read)
    | d => .error (d.mismatch "a sequence")
  write as := .array (as.map f.write)

def option (f : Format α) : Format (Option α) where
  read
    | .null => .ok none
    | d => some <$> f.read d
  write
    | none => .null
    | some a => f.write a

-- Values under arbitrary keys.
def table : Format (Table Json) where
  read
    | .object members ending => do ending.guard (.ofList (← Document.toMembers members))
    | d => .error (d.mismatch "a map")
  write := .object

-- One of the named values; it may also be written as an object, with the name for its only key and
-- nothing as its value.
def choice (names : List (String × α)) (name : α → String) : Format α where
  read
    | .string s => variant s
    | .object ((key, d) :: rest) ending => do
      let a ← variant key
      match d, rest with
      | .null, [] => ending.guard a
      | .null, _ => .error .malformed
      | d, _ => .error (d.mismatch "unit")
    | _ => .error .malformed
  write a := .string (name a)
where
  variant (s : String) : Except DecodeError α :=
    match names.lookup s with
    | some a => .ok a
    | none => .error (.unknownVariant s (names.map Prod.fst))

-- Reads a whole text, with nothing behind the value.
def readText (f : Format α) (s : String) : Except DecodeError α := do
  let (d, alone) := Document.ofText s
  let a ← (f.read d).mapError DecodeError.inText
  if alone then .ok a else .error .malformed

end Format
end Troubleshoot
