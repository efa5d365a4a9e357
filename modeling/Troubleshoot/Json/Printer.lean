import Troubleshoot.Json.Basic
import Troubleshoot.Number.Shortest
import Troubleshoot.Text.Quoted

namespace Troubleshoot

def Number.text : Number → String
  | .int i => toString i
  | .real x => Shortest.text x

namespace Json

def escapedChar (c : Char) : List Char :=
  if c = '"' ∨ c = '\\' then ['\\', c]
  else if c = '\x08' then ['\\', 'b']
  else if c = '\x0c' then ['\\', 'f']
  else if c = '\n' then ['\\', 'n']
  else if c = '\r' then ['\\', 'r']
  else if c = '\t' then ['\\', 't']
  else if c.toNat < 0x20 then
    ['\\', 'u', '0', '0', Text.hexDigit (c.toNat / 16), Text.hexDigit (c.toNat % 16)]
  else [c]

def stringText (s : String) : String :=
  .ofList ('"' :: s.toList.flatMap escapedChar ++ ['"'])

-- The text of a value on one line.
mutual

def compact : Json → String
  | .null => "null"
  | .bool b => if b then "true" else "false"
  | .number n => n.text
  | .string s => stringText s
  | .array items => "[" ++ ",".intercalate (compactItems items) ++ "]"
  | .object members => "\x7b" ++ ",".intercalate (compactMembers members) ++ "\x7d"

def compactItems : List Json → List String
  | [] => []
  | item :: items => compact item :: compactItems items

def compactMembers : Table Json → List String
  | ⟨keys, value⟩ => List.ofFn fun i => stringText (keys.list.get i) ++ ":" ++ compact (value i)

end

-- The parts of a container on lines of their own; an empty one has no lines.
def block (opening closing : String) (margin : String) (parts : List String) : String :=
  if parts = [] then
    opening ++ closing
  else
    opening ++ "\n" ++ ",\n".intercalate (parts.map ((margin ++ "  ") ++ ·)) ++ "\n" ++ margin ++ closing

-- The text of a value over several lines, all but the first behind a margin.
mutual

def pretty (margin : String) : Json → String
  | .array items => block "[" "]" margin (prettyItems (margin ++ "  ") items)
  | .object members => block "\x7b" "\x7d" margin (prettyMembers (margin ++ "  ") members)
  | .null => "null"
  | .bool b => if b then "true" else "false"
  | .number n => n.text
  | .string s => stringText s

def prettyItems (margin : String) : List Json → List String
  | [] => []
  | item :: items => pretty margin item :: prettyItems margin items

def prettyMembers (margin : String) : Table Json → List String
  | ⟨keys, value⟩ =>
    List.ofFn fun i => stringText (keys.list.get i) ++ ": " ++ pretty margin (value i)

end

end Json
end Troubleshoot
