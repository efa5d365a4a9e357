import Troubleshoot.Number.Binary64

namespace Troubleshoot.Shortest

-- Decimal digits and the place of the point: the value is `0.digits * 10 ^ point`.
structure Digits where
  digits : List Char
  point : Int

-- The power of ten with `10 ^ (point - 1) ≤ num / den < 10 ^ point`, for a positive quotient.
def point (num den : Nat) : Int :=
  if den ≤ num then
    (Nat.toDigits 10 (num / den)).length
  else
    -(zeros 400 (num * 10) : Nat)
where
  -- zeros that follow the point
  zeros : Nat → Nat → Nat
    | 0, _ => 0
    | fuel + 1, scaled => if den ≤ scaled then 0 else 1 + zeros fuel (scaled * 10)

-- The multiple of `10 ^ place` nearest to a magnitude's value, of the two beside it that round to
-- the magnitude; `none` if neither does.
def onGrid? (magnitude : Nat) (place : Int) : Option Nat :=
  let up := Nat.pow 10 (-place).toNat
  let down := Nat.pow 10 place.toNat * Nat.pow 2 1074
  let num := Binary64.units magnitude * up
  let below := num / down
  let low := (Binary64.units (magnitude - 1) + Binary64.units magnitude) * up
  let high := (Binary64.units magnitude + Binary64.units (magnitude + 1)) * up
  let reads (n : Nat) : Bool :=
    if magnitude % 2 = 0 then low ≤ 2 * n * down && 2 * n * down ≤ high
    else low < 2 * n * down && 2 * n * down < high
  let rest := 2 * (num % down)
  let nearer := if rest < down ∨ rest = down ∧ below % 2 = 0 then below else below + 1
  let farther := if nearer = below then below + 1 else below
  if reads nearer then some nearer else if reads farther then some farther else none

-- The shortest digits of a positive finite magnitude, 17 at the most.
def digits (magnitude : Nat) : Digits :=
  let point := point (Binary64.units magnitude) (Nat.pow 2 1074)
  let places := (List.range 17).map fun n => point - (n + 1 : Nat)
  match places.findSome? fun place => (onGrid? magnitude place).map (·, place) with
  | some (found, place) =>
    let ds := Nat.toDigits 10 found
    ⟨ds, place + ds.length⟩
  | none => ⟨[], 0⟩

def dropZeros (ds : List Char) : List Char :=
  (ds.reverse.dropWhile (· = '0')).reverse

-- Positional while the point falls within sixteen digits, or at most four zeros follow it before
-- the first; with a power of ten otherwise, whose exponent always has a sign.
def layout (ds : List Char) (point : Int) : List Char :=
  let n : Int := ds.length
  if n ≤ point ∧ point ≤ 16 then
    ds ++ .replicate (point - n).toNat '0' ++ ['.', '0']
  else if 0 < point ∧ point ≤ 16 then
    ds.take point.toNat ++ '.' :: ds.drop point.toNat
  else if -5 < point ∧ point ≤ 0 then
    ['0', '.'] ++ .replicate (-point).toNat '0' ++ ds
  else
    let exponent := point - 1
    ds.take 1 ++ (if 1 < n then '.' :: ds.drop 1 else []) ++
      ['e', if exponent < 0 then '-' else '+'] ++ Nat.toDigits 10 exponent.natAbs

def text (x : Binary64) : String :=
  let magnitude :=
    if x.magnitude = 0 then "0.0".toList
    else
      let d := digits x.magnitude
      layout (dropZeros d.digits) d.point
  .ofList (if x.negative then '-' :: magnitude else magnitude)

end Troubleshoot.Shortest
