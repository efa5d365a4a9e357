import Troubleshoot.Console.Assignment
import Troubleshoot.Table

namespace Troubleshoot

abbrev Environment := Table String

namespace Environment

-- The characters of a variable, none if it is not set. A variable is held as `NAME=value`, and the
-- name that is asked for ends before some equals sign of that, so it may take in a part of the value.
def look (env : Environment) (name : String) : List Char :=
  let (name, start) := name.toList.span (· ≠ '=')
  let value := ((env.find? (.ofList name)).getD "").toList
  match start with
  | [] => value
  | _ :: start => if (start ++ ['=']).isPrefixOf value then value.drop (start.length + 1) else []

-- Takes in the lines up to the first that is no assignment. A value may refer to what is set by the
-- lines before it.
def withLines (env : Environment) : List (List Char) → Environment
  | [] => env
  | line :: lines =>
    match Text.trimmed line with
    | [] | '#' :: _ => env.withLines lines
    | cs =>
      match Assignment.ofLine? env.look cs with
      | some (name, value) =>
        (if env.contains name then env else env.insert name value).withLines lines
      | none => env

-- A file of assignments adds to the variables of the process, and changes none of them.
def withFile (env : Environment) (text : String) : Environment :=
  env.withLines (Assignment.lines text)

end Environment
end Troubleshoot
