import Troubleshoot.Number.Binary64

namespace Troubleshoot

structure Decimal where
  negative : Bool
  digits : Nat
  exponent : Int
deriving DecidableEq, Repr

namespace Decimal

def digitValue (c : Char) : Nat :=
  c.toNat - '0'.toNat

-- The number that a row of digits spells, after those of `start`.
def digitsValue (start : Nat) (ds : List Char) : Nat :=
  ds.foldl (fun n d => n * 10 + digitValue d) start

-- The sign that a text starts with, and what follows it.
def sign : List Char → Bool × List Char
  | '-' :: cs => (true, cs)
  | '+' :: cs => (false, cs)
  | cs => (false, cs)

-- The power of ten that a text ends with: nothing at all, or an `e`, a sign if any, and digits.
def power? : List Char → Option Int
  | [] => some 0
  | c :: cs =>
    if c = 'e' ∨ c = 'E' then
      let (negative, ds) := sign cs
      if ds ≠ [] ∧ ds.all Char.isDigit then
        some (if negative then -digitsValue 0 ds else digitsValue 0 ds)
      else
        none
    else
      none

-- The digits after the point, if there is a point.
def fraction : List Char → List Char × List Char
  | '.' :: cs => cs.span Char.isDigit
  | cs => ([], cs)

-- Reads a number: a sign if any, digits with a point before, between or after them, and a power of
-- ten if any.
def ofChars? (cs : List Char) : Option Decimal :=
  let (negative, cs) := sign cs
  let (whole, cs) := cs.span Char.isDigit
  let (fraction, cs) := fraction cs
  if whole = [] ∧ fraction = [] then
    none
  else
    (power? cs).map fun power =>
      ⟨negative, digitsValue (digitsValue 0 whole) fraction, power - fraction.length⟩

-- The double nearest to a decimal. Powers of ten too large or too small to matter are not formed.
def toBinary64 (d : Decimal) : Binary64 :=
  if d.digits = 0 then
    .zero d.negative
  else
    match d.exponent with
    | .ofNat n =>
      if 309 ≤ n then .infinite d.negative else .ofRatio d.negative (d.digits * Nat.pow 10 n) 1
    | .negSucc n =>
      if d.digits.log2 + 1076 ≤ 3 * (n + 1) then .zero d.negative
      else .ofRatio d.negative d.digits (Nat.pow 10 (n + 1))

end Decimal
end Troubleshoot
