import Troubleshoot.Json.Document
import Troubleshoot.Json.Printer

namespace Troubleshoot

-- The kind of value that was met.
inductive Found where
  | null
  | bool (value : Bool)
  | number (value : Number)
  | string (value : String)
  | sequence
  | map

def Found.message : Found → String
  | .null => "null"
  | .bool b => s!"boolean `{b}`"
  | .number (.int i) => s!"integer `{i}`"
  | .number n => s!"floating point `{n.text}`"
  | .string s => s!"string {Text.quoted s}"
  | .sequence => "sequence"
  | .map => "map"

inductive DecodeError where
  | malformed
  | invalidType (found : Found) (expected : String)
  | outOfRange (value : Int) (expected : String)
  | missingField (name : String)
  | duplicateField (name : String)
  | unknownVariant (name : String) (expected : List String)
  | invalidLength (length : Nat) (record : String) (fields : Nat)
  -- An array goes on after the last field of a record.
  | surplus (length : Nat)
  | noAlternative (name : String)

namespace DecodeError

def alternatives : List String → String
  | [a] => s!"`{a}`"
  | [a, b] => s!"`{a}` or `{b}`"
  | names => "one of " ++ ", ".intercalate (names.map fun a => s!"`{a}`")

def message : DecodeError → String
  | malformed => "no valid JSON"
  | invalidType found expected => s!"invalid type: {found.message}, expected {expected}"
  | outOfRange value expected => s!"invalid value: integer `{value}`, expected {expected}"
  | missingField name => s!"missing field `{name}`"
  | duplicateField name => s!"duplicate field `{name}`"
  | unknownVariant name expected => s!"unknown variant `{name}`, expected {alternatives expected}"
  | invalidLength length record fields =>
    s!"invalid length {length}, expected struct {record} with {fields} elements"
  | surplus length => s!"invalid length {length}, expected fewer elements in array"
  | noAlternative name => s!"data did not match any variant of untagged enum {name}"

-- The error as it is in a text: where an array should be closed, anything else is a flaw of the
-- text itself.
def inText : DecodeError → DecodeError
  | surplus _ => malformed
  | e => e

end DecodeError

-- The error of meeting a document where something else is expected.
def Document.mismatch (d : Document) (expected : String) : DecodeError :=
  match d with
  | .null => .invalidType .null expected
  | .bool b => .invalidType (.bool b) expected
  | .number n => .invalidType (.number n) expected
  | .string s => .invalidType (.string s) expected
  | .array .. => .invalidType .sequence expected
  | .object .. => .invalidType .map expected
  | .unreadable | .broken => .malformed

end Troubleshoot
