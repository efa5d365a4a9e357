import Troubleshoot.Text.Case.Table

namespace Troubleshoot.Text

def isCased (c : Char) : Bool :=
  casedRanges.has c

def isCaseIgnorable (c : Char) : Bool :=
  caseIgnorableRanges.has c

def lowerChar (c : Char) : Char :=
  match lowerRuns.find? (·.has c.toNat) with
  | some run => .ofNat (c.toNat + run.shift).toNat
  | none => c

-- The first character that counts is a letter with case.
def startsCased (cs : List Char) : Bool :=
  match cs.dropWhile isCaseIgnorable with
  | c :: _ => isCased c
  | [] => false

-- Lower-cases the rest of a text whose start, nearest character first, is `before`. One letter becomes
-- one letter, but for `İ`, which becomes two, and `Σ`, which has a form of its own at the end of a word.
def lowerFrom (before : List Char) : List Char → List Char
  | [] => []
  | c :: rest => lower c rest ++ lowerFrom (c :: before) rest
where
  lower (c : Char) (rest : List Char) : List Char :=
    if c = 'Σ' then
      [if startsCased before && !startsCased rest then 'ς' else 'σ']
    else if c = 'İ' then
      ['i', '\u0307']
    else
      [lowerChar c]

def lowerCase (s : String) : String :=
  .ofList (lowerFrom [] s.toList)

end Troubleshoot.Text
