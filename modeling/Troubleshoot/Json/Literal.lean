import Troubleshoot.Json.Basic
import Troubleshoot.Number.Decimal

namespace Troubleshoot

-- A number as written.
structure Literal where
  negative : Bool
  whole : List Char
  fraction : List Char
  power : Int
  integral : Bool

namespace Literal

open Decimal (digitValue digitsValue)

-- A minus if any, then digits that start with a zero only if they are a lone zero.
def integer? (cs : List Char) : Option (Bool × List Char × List Char) :=
  let (negative, cs) := match cs with
    | '-' :: cs => (true, cs)
    | cs => (false, cs)
  let (whole, rest) := cs.span Char.isDigit
  match whole with
  | [] => none
  | ['0'] => some (negative, ['0'], rest)
  | '0' :: _ => none
  | _ => some (negative, whole, rest)

-- The fraction, absent without a point; a point needs a digit after it.
def fraction? : List Char → Option (Option (List Char) × List Char)
  | '.' :: cs =>
    match cs.span Char.isDigit with
    | ([], _) => none
    | (ds, rest) => some (some ds, rest)
  | cs => some (none, cs)

-- The exponent, absent without an `e`; an `e` needs a digit after it and its sign.
def power? : List Char → Option (Option Int × List Char)
  | [] => some (none, [])
  | c :: cs =>
    if c = 'e' ∨ c = 'E' then
      let (negative, cs) := Decimal.sign cs
      match cs.span Char.isDigit with
      | ([], _) => none
      | (ds, rest) => some (some (if negative then -digitsValue 0 ds else digitsValue 0 ds), rest)
    else
      some (none, c :: cs)

-- The literal that a text starts with, and what follows it.
def scan? (cs : List Char) : Option (Literal × List Char) := do
  let (negative, whole, cs) ← integer? cs
  let (fraction, cs) ← fraction? cs
  let (power, cs) ← power? cs
  return (⟨negative, whole, fraction.getD [], power.getD 0, fraction.isNone && power.isNone⟩, cs)

def wordLimit : Nat := Nat.pow 2 64

-- Digits before the point: those that fit into a word, and the number of those that do not.
def gatherWhole (word : Nat) : List Char → Nat × Nat
  | [] => (word, 0)
  | d :: ds =>
    let next := word * 10 + digitValue d
    if next < wordLimit then gatherWhole next ds else (word, ds.length + 1)

-- Digits after the point, as long as they fit into the word, and their number.
def gatherFraction (word : Nat) : List Char → Nat × Nat
  | [] => (word, 0)
  | d :: ds =>
    let next := word * 10 + digitValue d
    if next < wordLimit then
      let (word, used) := gatherFraction next ds
      (word, used + 1)
    else
      (word, 0)

def tenTo (n : Nat) : Binary64 :=
  .ofRatio false (Nat.pow 10 n) 1

-- `x * 10 ^ -n` for a word `x`. A power of ten that is no double is taken in two steps, and two
-- steps of `10 ^ 308` leave nothing of any word.
def shrink (x : Binary64) (n : Nat) : Binary64 :=
  if n ≤ 308 then x.dividedBy (tenTo n)
  else if n ≤ 616 then (x.dividedBy (tenTo 308)).dividedBy (tenTo (n - 308))
  else .zero x.negative

-- The double that a literal stands for, if it is finite. It is found in two roundings: the leading digits
-- that fit into a word, then their product with a power of ten.
def toFinite64? (l : Literal) : Option Finite64 :=
  let (word, dropped) := gatherWhole 0 l.whole
  let (word, used) := gatherFraction word l.fraction
  let x : Binary64 := .ofRatio l.negative word 1
  match (dropped : Int) - used + l.power with
  | .ofNat n =>
    if x.magnitude = 0 then x.finite?
    else if n ≤ 308 then (x.times (tenTo n)).finite?
    else none
  | .negSucc n => (shrink x (n + 1)).finite?

-- The number that a literal stands for, unless it is too large for a double.
def toNumber? (l : Literal) : Option Number :=
  let n := digitsValue 0 l.whole
  if l.integral && !l.negative && n < wordLimit then
    some (.int n)
  else if l.integral && l.negative && 0 < n && n ≤ Nat.pow 2 63 then
    some (.int (-n))
  else
    l.toFinite64?.map .real

end Literal
end Troubleshoot
