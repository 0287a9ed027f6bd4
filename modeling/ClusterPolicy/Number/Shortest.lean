import ClusterPolicy.Number.Double

/-! The shortest decimal that reads back as a given double, written without an exponent. -/

namespace ClusterPolicy.Number

/-- `digits * 10 ^ scale` -/
structure Decimal where
  digits : Nat
  scale : Int
  deriving DecidableEq, Repr

/-- Compares `a * 10 ^ i` with `b * 2 ^ j`. -/
def compareScaled (a : Nat) (i : Int) (b : Nat) (j : Int) : Ordering :=
  compare (a * .pow 10 i.toNat * .pow 2 (-j).toNat) (b * .pow 2 j.toNat * .pow 10 (-i).toNat)

namespace Double

/-- The gap to the next smaller number is half of the gap to the next greater one. -/
def narrowBelow (x : Double) : Bool := x.fractionField == 0 && 1 < x.exponentField

/-- Whether `d` lies among the reals that round to the magnitude of `x`, ends included for an even
significand. -/
def readsBack (x : Double) (d : Decimal) : Bool :=
  let low := if x.narrowBelow then 4 * x.significand - 1 else 4 * x.significand - 2
  let high := 4 * x.significand + 2
  let closed := x.significand % 2 == 0
  let below := compareScaled d.digits d.scale low (x.exponent - 2)
  let above := compareScaled d.digits d.scale high (x.exponent - 2)
  (below == .gt || (closed && below == .eq)) && (above == .lt || (closed && above == .eq))

def digitCount (n : Nat) : Nat := (Nat.toDigits 10 n).length

/-- The least `k` with the magnitude of `x` below `10 ^ k`, for `x` other than zero. -/
def magnitude (x : Double) : Int :=
  let above := x.significand * .pow 2 x.exponent.toNat
  let below : Nat := .pow 2 (-x.exponent).toNat
  let k : Int := digitCount above - digitCount below
  if compareScaled 1 k x.significand x.exponent == .gt then k else k + 1

/-- The neighbour of the magnitude of `x` on the grid of `10 ^ scale` that reads back; of two the
nearer, and on a tie the greater. -/
def onGrid? (x : Double) (scale : Int) : Option Decimal :=
  let above := x.significand * .pow 2 x.exponent.toNat * .pow 10 (-scale).toNat
  let below : Nat := .pow 2 (-x.exponent).toNat * .pow 10 scale.toNat
  let down : Decimal := ⟨above / below, scale⟩
  let up : Decimal := ⟨above / below + 1, scale⟩
  match x.readsBack down, x.readsBack up with
  | true, true => if 2 * (above % below) < below then some down else some up
  | true, false => some down
  | false, true => some up
  | false, false => none

/-- The exact value, for a magnitude that no decimal of seventeen digits identifies. -/
def exact (x : Double) : Decimal :=
  ⟨x.significand * .pow 2 x.exponent.toNat * .pow 5 (-x.exponent).toNat, -((-x.exponent).toNat : Int)⟩

def shortest (x : Double) : Decimal :=
  ((List.range 17).findSome? fun n => x.onGrid? (x.magnitude - (n + 1 : Nat))).getD x.exact

/-- Digits without their trailing zeros, which move into the scale. -/
def trimmed (digits : List Char) (scale : Int) : List Char × Int :=
  let kept := (digits.reverse.dropWhile (· == '0')).reverse
  (kept, scale + (digits.length - kept.length : Nat))

/-- Positional text: zeros fill the places up to the point on either side. -/
def positional (digits : List Char) (scale : Int) : List Char :=
  if 0 ≤ scale then digits ++ List.replicate scale.toNat '0'
  else
    let places := (-scale).toNat
    if places < digits.length then
      digits.take (digits.length - places) ++ '.' :: digits.drop (digits.length - places)
    else '0' :: '.' :: (List.replicate (places - digits.length) '0' ++ digits)

/-- The shortest text that identifies the number: `2`, `1.5`, `0.00005`, `-0`, `inf`, `NaN`. -/
def text (x : Double) : String :=
  if x.isNaN then "NaN"
  else
    let sign := if x.isNegative then "-" else ""
    if !x.isFinite then sign ++ "inf"
    else if x.significand = 0 then sign ++ "0"
    else
      let d := x.shortest
      let (digits, scale) := trimmed (Nat.toDigits 10 d.digits) d.scale
      sign ++ String.ofList (positional digits scale)

end Double

end ClusterPolicy.Number
