import Troubleshoot.Session.Respondent
import Troubleshoot.Text.Case
import Troubleshoot.Text.Utf8

namespace Troubleshoot

-- The input that is left, line by line, and what was shown. Input that has not ended may still get
-- lines; a prompt that finds none then leaves the terminal starved, and nothing more is shown.
structure Terminal where
  lines : List (Except Text.Utf8Error String)
  ended : Bool
  shown : String
  starved : Bool

namespace Terminal

def start (lines : List (Except Text.Utf8Error String)) (ended : Bool) : Terminal :=
  ⟨lines, ended, "", false⟩

-- The lines of an input, each with the line feed that ends it.
def split : List UInt8 → List (List UInt8)
  | [] => []
  | b :: bs =>
    if b = 10 then
      [b] :: split bs
    else
      match split bs with
      | [] => [[b]]
      | line :: lines => (b :: line) :: lines

-- The bytes of a line without its line end.
def chomp : List UInt8 → List UInt8
  | [] | [10] | [13, 10] => []
  | b :: bs => b :: chomp bs

-- The text of a line. Its end is taken off first, so bytes that it cuts short are incomplete.
def line (bytes : List UInt8) : Except Text.Utf8Error String :=
  Text.Utf8.decode (chomp bytes)

def ofBytes (bytes : List UInt8) : Terminal :=
  start ((split bytes).map line) true

-- What a typed line means: `y` and `n`, in either case, are short for the answers that rules look
-- for.
def answer (line : String) : Answer :=
  let word := Text.lowerCase (Text.trim line)
  if word ∈ ["y", "yes"] then .yes
  else if word ∈ ["n", "no"] then .no
  else .ofText line

-- Shows a text and takes the next line.
def prompt (text : String) (t : Terminal) : Reaction × Terminal :=
  if t.starved then
    (⟨.error "input closed", 0⟩, t)
  else
    let t := { t with shown := t.shown ++ text ++ " " }
    match t.lines with
    | .ok line :: lines => (⟨.ok (answer line), 0⟩, { t with lines })
    | .error e :: lines => (⟨.error e.message, 0⟩, { t with lines })
    | [] => (⟨.error "input closed", 0⟩, { t with starved := !t.ended })

def hint : Question.Kind → String
  | .yesNo => "[yes/no]"
  | .chooseOne => "[choice]"
  | .number => "[number]"

def questionText (q : Question) : String :=
  q.prompt ++ " " ++ hint q.kind

def confirmationText (s : Solution) : Confirmation → String
  | .areYouAble => s!"Are you able to: {s.name}? [yes/no]"
  | .didItWork =>
    let steps := match s.instructions with
      | some steps => s!"\n  {steps}\n"
      | none => ""
    s!"Try: {s.name}{steps}Did it work? [yes/no]"

def respondent : Respondent Terminal where
  question := some fun q => prompt (questionText q)
  confirmation := some fun s c => prompt (confirmationText s c)

end Terminal
end Troubleshoot
