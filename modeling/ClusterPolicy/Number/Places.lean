import ClusterPolicy.Number.Double

namespace ClusterPolicy.Number

/-- The integer nearest to `num / den`, ties to even. -/
def roundDiv (num den : Nat) : Nat :=
  let quotient := num / den
  match compare (2 * (num % den)) den with
  | .lt => quotient
  | .gt => quotient + 1
  | .eq => if quotient % 2 = 0 then quotient else quotient + 1

/-- A finite number with exactly `places` digits behind the point, rounded from its exact value. The
sign stays even where every digit is zero. -/
def Double.fixed (x : Double) (places : Nat) : List Char :=
  let above := x.significand * .pow 2 x.exponent.toNat * .pow 10 places
  let units := roundDiv above (.pow 2 (-x.exponent).toNat)
  let fraction := Nat.toDigits 10 (units % .pow 10 places)
  (if x.isNegative then ['-'] else []) ++ Nat.toDigits 10 (units / .pow 10 places) ++
    '.' :: (List.replicate (places - fraction.length) '0' ++ fraction)

end ClusterPolicy.Number
