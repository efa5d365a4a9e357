import Troubleshoot.Record.Format

namespace Troubleshoot

-- A field: what stands for it if an object lacks it, what if an array ends before it, and which
-- values are not written.
structure RecordField (α : Type) where
  name : String
  format : Format α
  absent : Option α
  short : Option α
  hidden : α → Bool

namespace RecordField

variable {α : Type}

def required (name : String) (format : Format α) : RecordField α :=
  ⟨name, format, none, none, fun _ => false⟩

-- A field that may be left out for a default, but is always written.
def defaulted (name : String) (format : Format α) (default : α) : RecordField α :=
  ⟨name, format, some default, some default, fun _ => false⟩

def optional (name : String) (format : Format α) : RecordField (Option α) :=
  ⟨name, format.option, some none, some none, Option.isNone⟩

-- An optional field that an array form has to hold.
def nullable (name : String) (format : Format α) : RecordField (Option α) :=
  ⟨name, format.option, some none, none, Option.isNone⟩

end RecordField

-- The fields of a record with values in `τ`; while it is read, `σ` holds those that were met.
inductive Fields : Type → Type → Type 1 where
  | nil : Fields Unit Unit
  | cons {α τ σ : Type} (field : RecordField α) (rest : Fields τ σ) : Fields (α × τ) (Option α × σ)

namespace Fields

def length : {τ σ : Type} → Fields τ σ → Nat
  | _, _, nil => 0
  | _, _, cons _ rest => rest.length + 1

def names : {τ σ : Type} → Fields τ σ → List String
  | _, _, nil => []
  | _, _, cons field rest => field.name :: rest.names

-- Nothing met yet.
def blank : {τ σ : Type} → Fields τ σ → σ
  | _, _, nil => ()
  | _, _, cons _ rest => (none, rest.blank)

-- Takes in a member, if a field has its name.
def fill? : {τ σ : Type} → Fields τ σ → String → Document → σ → Option (Except DecodeError σ)
  | _, _, nil, _, _, () => none
  | _, _, cons field rest, key, d, (slot, slots) =>
    if key = field.name then
      some <| match slot with
        | some _ => .error (.duplicateField key)
        | none => do return (some (← field.format.read d), slots)
    else
      (rest.fill? key d slots).map fun r => (slot, ·) <$> r

-- Members that no field has the name of are passed over. The first problem counts.
def readMembers {τ σ : Type} (fields : Fields τ σ) : List (String × Document) → σ → Except DecodeError σ
  | [], slots => .ok slots
  | (key, d) :: members, slots =>
    match fields.fill? key d slots with
    | some filled => do fields.readMembers members (← filled)
    | none => if d.wellFormed then fields.readMembers members slots else .error .malformed

-- The values of all fields at the end of an object.
def complete : {τ σ : Type} → Fields τ σ → σ → Except DecodeError τ
  | _, _, nil, () => .ok ()
  | _, _, cons field rest, (slot, slots) =>
    match slot <|> field.absent with
    | some a => do return (a, ← rest.complete slots)
    | none => .error (.missingField field.name)

def ofMembers {τ σ : Type} (fields : Fields τ σ) (members : List (String × Document)) (ending : Ending) :
    Except DecodeError τ := do
  fields.complete (← ending.guard (← fields.readMembers members fields.blank))

-- Reads fields off an array; `short` is the error of an array that ends before the field at a
-- position.
def ofItems (short : Nat → DecodeError) (position : Nat) :
    {τ σ : Type} → Fields τ σ → List Document → Ending → Except DecodeError τ
  | _, _, nil, [], ending => ending.guard ()
  | _, _, nil, _ :: ds, _ => .error (.surplus (position + 1 + ds.length))
  | _, _, cons field rest, d :: ds, ending => do
    return (← field.format.read d, ← rest.ofItems short (position + 1) ds ending)
  | _, _, cons field rest, [], .closed =>
    match field.short with
    | some a => do return (a, ← rest.ofItems short (position + 1) [] .closed)
    | none => .error (short position)
  | _, _, cons .., [], _ => .error .malformed

def write : {τ σ : Type} → Fields τ σ → τ → List (String × Json)
  | _, _, nil, () => []
  | _, _, cons field rest, (a, as) =>
    if field.hidden a then rest.write as
    else (field.name, field.format.write a) :: rest.write as

end Fields

variable {α τ σ : Type}

-- The format of a record with these fields.
def Format.record (name : String) (fields : Fields τ σ) (pack : τ → α) (unpack : α → τ) : Format α where
  read
    | .object members ending => pack <$> fields.ofMembers members ending
    | .array items ending =>
      pack <$> fields.ofItems (.invalidLength · name fields.length) 0 items ending
    | d => .error (d.mismatch s!"struct {name}")
  write a := .ofMembers (fields.write (unpack a))

-- The format of a record that has, beside a required field, all fields of another record among its
-- own. The object is read to its end before the fields of the other are looked at.
def Format.extended (name key : String) (fields : Fields τ σ) (pack : String × τ → α)
    (unpack : α → String × τ) : Format α where
  read
    | .object members ending => do
      let (id, others) ← split none members
      let id ← ending.guard id
      match id with
      | none => .error (.missingField key)
      | some id => pack <$> (id, ·) <$> fields.ofMembers others .closed
    | d => .error (d.mismatch s!"struct {name}")
  write a := .ofMembers ((key, .string (unpack a).1) :: fields.write (unpack a).2)
where
  -- the field of its own, and all other members
  split (id : Option String) :
      List (String × Document) → Except DecodeError (Option String × List (String × Document))
    | [] => .ok (id, [])
    | (k, d) :: members =>
      if k = key then
        if id.isSome then .error (.duplicateField key)
        else do split (some (← Format.string.read d)) members
      else do
        let _ ← d.toJson
        let (id, others) ← split id members
        return (id, (k, d) :: others)

end Troubleshoot
