import Troubleshoot.Text.Alphanumeric
import Troubleshoot.Text.Blank

namespace Troubleshoot.Assignment

-- What a character leaves behind for the next: whether a line end would end the line, and whether
-- `#` would open a comment, which it does only after a single blank.
inductive Scan where
  | plain | blank | escape | single | singleEscape | double | doubleEscape
deriving DecidableEq, Repr

def Scan.next (s : Scan) (c : Char) : Scan :=
  match s with
  | .escape => .plain
  | .single => if c = '\\' then .singleEscape else if c = '\'' then .plain else .single
  | .singleEscape => .single
  | .double => if c = '\\' then .doubleEscape else if c = '"' then .plain else .double
  | .doubleEscape => .double
  | .plain | .blank =>
    if c = '\\' then .escape
    else if c = '"' then .double
    else if c = '\'' then .single
    else if s = .plain ∧ Text.isBlank c ∧ c ≠ '\n' ∧ c ≠ '\r' then .blank
    else .plain

-- Reads through the characters up to a line end: what comes before a comment, and where it leaves
-- the line, which a comment ends.
def Scan.through (s : Scan) : List Char → List Char × Scan
  | [] => ([], s)
  | c :: cs =>
    if s = .blank ∧ c = '#' then ([], .plain)
    else
      let (kept, s) := (s.next c).through cs
      (c :: kept, s)

-- Cuts a text behind each line feed.
def pieces : List Char → List (List Char)
  | [] => []
  | c :: cs =>
    if c = '\n' then [c] :: pieces cs
    else
      match pieces cs with
      | [] => [[c]]
      | piece :: rest => (c :: piece) :: rest

@[simp] theorem flatten_pieces (cs : List Char) : (pieces cs).flatten = cs := by
  induction cs with
  | nil => rfl
  | cons c cs ih =>
    unfold pieces
    split
    · simp [ih]
    · split <;> simp_all

def isComment (cs : List Char) : Bool :=
  (cs.dropWhile Text.isBlank).head? = some '#'

-- Joins pieces to lines, where `start` is read already. A line that nothing ends is none.
def joined (start : List Char) (s : Scan) : List (List Char) → List (List Char)
  | [] => []
  | piece :: rest =>
    if isComment (start ++ piece) then
      joined [] .plain rest
    else
      let (kept, s) := s.through piece
      if s = .plain then (start ++ kept) :: joined [] .plain rest
      else joined (start ++ kept) s rest

def lines (text : String) : List (List Char) :=
  let cs := match text.toList with
    | '\uFEFF' :: cs => cs
    | cs => cs
  joined [] .plain (pieces cs)

-- Where in a value a character stands; a name that is being read is held backwards.
inductive Place where
  | text | escape | single | behind
  | name (read : List Char)
  | braced (read : List Char)

def unescaped? (c : Char) : Option Char :=
  if c = 'n' then some '\n'
  else if c ∈ ['\\', '\'', '"', '$', ' '] then some c
  else none

-- The value that a line ends with, where `look` gives the values of names, and `quoted` says whether
-- a double quote is open. Behind the first blank outside quotes there may be a comment only. A name
-- without braces ends where no letter or number follows, and whatever follows it stands for itself.
def value? (look : String → List Char) (quoted : Bool) : Place → List Char → Option (List Char)
  | .text, [] | .escape, [] | .behind, [] => if quoted then none else some []
  | .name read, [] => if quoted then none else some (look (.ofList read.reverse))
  | .single, [] | .braced _, [] => none
  | .behind, c :: cs =>
    if c = ' ' ∨ c = '\t' then value? look quoted .behind cs
    else if c = '#' then some []
    else none
  | .escape, c :: cs => do return (← unescaped? c) :: (← value? look quoted .text cs)
  | .single, c :: cs =>
    if c = '\'' then value? look quoted .text cs else (c :: ·) <$> value? look quoted .single cs
  | .name read, c :: cs =>
    if Text.isAlphanumeric c then value? look quoted (.name (c :: read)) cs
    else if c = '{' ∧ read = [] then value? look quoted (.braced []) cs
    else
      let rest := if c = '$' then value? look quoted (.name []) cs
        else (c :: ·) <$> value? look quoted .text cs
      (look (.ofList read.reverse) ++ ·) <$> rest
  | .braced read, c :: cs =>
    if c = '}' then (look (.ofList read.reverse) ++ ·) <$> value? look quoted .text cs
    else value? look quoted (.braced (c :: read)) cs
  | .text, c :: cs =>
    if c = '$' then value? look quoted (.name []) cs
    else if c = '\\' then value? look quoted .escape cs
    else if c = '"' then value? look (!quoted) .text cs
    else if quoted then (c :: ·) <$> value? look quoted .text cs
    else if c = '\'' then value? look quoted .single cs
    else if c = ' ' ∨ c = '\t' then value? look quoted .behind cs
    else (c :: ·) <$> value? look quoted .text cs

def startsName (c : Char) : Bool :=
  c.isAlpha || c = '_'

def continuesName (c : Char) : Bool :=
  c.isAlphanum || c = '_' || c = '.'

def name? : List Char → Option (List Char × List Char)
  | [] => none
  | c :: cs => if startsName c then some ((c :: cs).span continuesName) else none

-- The rest behind an equals sign.
def equals? (cs : List Char) : Option (List Char) :=
  match cs.dropWhile Text.isBlank with
  | '=' :: cs => some cs
  | _ => none

-- The name and what is behind its equals sign.
def named? (cs : List Char) : Option (List Char × List Char) := do
  let (name, rest) ← name? cs
  return (name, ← equals? rest)

-- The assignment of a line that is not empty and no comment; it may start with `export`.
def ofLine? (look : String → List Char) (cs : List Char) : Option (String × String) := do
  let (name, rest) ← named? cs <|> exported? cs
  match rest.dropWhile Text.isBlank with
  | [] | '#' :: _ => return (.ofList name, "")
  | cs => return (.ofList name, .ofList (← value? look false .text cs))
where
  exported? (cs : List Char) : Option (List Char × List Char) := do
    let (word, rest) ← name? cs
    if word = "export".toList then named? (rest.dropWhile Text.isBlank) else none

-- All variables that the values of a text may ask for.
def mentioned : List Char → List String
  | [] => []
  | c :: cs =>
    if c = '$' then
      .ofList (cs.takeWhile Text.isAlphanumeric) ::
        .ofList ((cs.drop 1).takeWhile fun c => c ≠ '}' ∧ c ≠ '=') :: mentioned cs
    else
      mentioned cs

end Troubleshoot.Assignment
