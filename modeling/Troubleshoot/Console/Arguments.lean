import Troubleshoot.Session.Answer

namespace Troubleshoot

-- What the command line asks for.
structure Arguments where
  knowledgeBase : Option String := none
  symptoms : List String := []
  systemTypes : List String := []
  answers : List (String × Answer) := []

inductive ArgumentError where
  | displayHelp | displayVersion
  | invalidValue | tooManyValues | unknownArgument | argumentConflict | missingRequiredArgument
  | valueValidation (message : String)
deriving DecidableEq, Repr

-- Reads `id=value`, where the value may itself contain an equals sign.
def Answer.preset (raw : String) : Except String (String × Answer) :=
  match raw.toList.span (· ≠ '=') with
  | (_, []) => .error s!"expected id=value, got '{raw}'"
  | (id, _ :: value) =>
    match Text.trimmed id with
    | [] => .error s!"missing fact id in '{raw}'"
    | id => .ok (.ofList id, .ofText (.ofList value))

namespace Arguments

-- The options that take a value.
inductive Valued where
  | knowledgeBase | symptom | systemType | answer
deriving DecidableEq, Repr

inductive Switch where
  | help | version
  | valued (option : Valued)

def short? : Char → Option Switch
  | 'k' => some (.valued .knowledgeBase)
  | 's' => some (.valued .symptom)
  | 't' => some (.valued .systemType)
  | 'a' => some (.valued .answer)
  | 'h' => some .help
  | 'V' => some .version
  | _ => none

def long? : String → Option Switch
  | "knowledge-base" => some (.valued .knowledgeBase)
  | "symptom" => some (.valued .symptom)
  | "system-type" => some (.valued .systemType)
  | "answer" => some (.valued .answer)
  | "help" => some .help
  | "version" => some .version
  | _ => none

-- Gives an option its value. All but the knowledge base may be given more than once.
def set (a : Arguments) (value : String) : Valued → Except ArgumentError Arguments
  | .knowledgeBase =>
    if a.knowledgeBase.isSome then .error .argumentConflict
    else if value = "" then .error .invalidValue
    else .ok { a with knowledgeBase := some value }
  | .symptom => .ok { a with symptoms := a.symptoms ++ [value] }
  | .systemType => .ok { a with systemTypes := a.systemTypes ++ [value] }
  | .answer =>
    match Answer.preset value with
    | .ok answer => .ok { a with answers := a.answers ++ [answer] }
    | .error message => .error (.valueValidation message)

-- How a word reads before it is known whether an option waits for it.
inductive Word where
  | separator
  | long (name : String) (value : Option String)
  | short (letter : Char) (rest : List Char)
  | plain

def word (s : String) : Word :=
  match s.toList with
  | ['-', '-'] => .separator
  | '-' :: '-' :: cs =>
    match cs.span (· ≠ '=') with
    | (name, []) => .long (.ofList name) none
    | (name, _ :: value) => .long (.ofList name) (some (.ofList value))
  | '-' :: c :: cs => .short c cs
  | _ => .plain

-- The value that is written onto a short option.
def attached? : List Char → Option String
  | [] => none
  | '=' :: cs => some (.ofList cs)
  | cs => some (.ofList cs)

-- What was read so far: an option that stands apart from its value, with the value once it is there,
-- and whether options have ended.
structure Reading where
  arguments : Arguments := {}
  pending : Option (Valued × Option String) := none
  closed : Bool := false

namespace Reading

-- Gives the latest option the value that stands behind it. This happens only when the next option comes or
-- the arguments end, so a word that is no option at all is noticed before a value that cannot be read.
def settle (r : Reading) : Except ArgumentError Arguments :=
  match r.pending with
  | none => .ok r.arguments
  | some (_, none) => .error .invalidValue
  | some (option, some value) => r.arguments.set value option

def option (r : Reading) (switch : Switch) (value : Option String) : Except ArgumentError Reading := do
  let arguments ← r.settle
  match switch, value with
  | .help, _ => .error .displayHelp
  | .version, _ => .error .displayVersion
  | .valued name, some value => return { arguments := ← arguments.set value name }
  | .valued name, none => return { arguments, pending := some (name, none) }

def next (r : Reading) (s : String) : Except ArgumentError Reading :=
  if r.closed then
    .error .unknownArgument
  else
    match word s with
    | .separator => .ok { r with closed := true }
    | .long name value =>
      match long? name, value with
      | none, _ => .error .unknownArgument
      | some .help, some _ | some .version, some _ => .error .tooManyValues
      | some switch, value => r.option switch value
    | .short letter rest =>
      match short? letter with
      | none => .error .unknownArgument
      | some switch => r.option switch (attached? rest)
    | .plain =>
      match r.pending with
      | some (name, none) => .ok { r with pending := some (name, some s) }
      | _ => .error .unknownArgument

end Reading

-- Reads the arguments, the name of the program not among them.
def ofList (words : List String) : Except ArgumentError Arguments := do
  let reading ← words.foldlM Reading.next {}
  let arguments ← reading.settle
  if arguments.symptoms = [] then .error .missingRequiredArgument else .ok arguments

end Arguments
end Troubleshoot
