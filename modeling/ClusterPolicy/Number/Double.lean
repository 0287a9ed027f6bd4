/-! Double-precision numbers as their 64 bits, with exact arithmetic on what the bits stand for. -/

namespace ClusterPolicy.Number

structure Double where
  bits : UInt64
  deriving DecidableEq, Repr

namespace Double

def isNegative (x : Double) : Bool := 0x8000000000000000 ≤ x.bits.toNat

def exponentField (x : Double) : Nat := x.bits.toNat / 0x10000000000000 % 0x800

def fractionField (x : Double) : Nat := x.bits.toNat % 0x10000000000000

def isFinite (x : Double) : Bool := x.exponentField != 2047

def isNaN (x : Double) : Bool := !x.isFinite && x.fractionField != 0

def nan : Double := ⟨0x7FF8000000000000⟩

def infinity : Double := ⟨0x7FF0000000000000⟩

def negate (x : Double) : Double := ⟨x.bits ^^^ 0x8000000000000000⟩

/-- The magnitude of a finite number is `significand * 2 ^ exponent`. -/
def significand (x : Double) : Nat :=
  if x.exponentField = 0 then x.fractionField else 0x10000000000000 + x.fractionField

def exponent (x : Double) : Int := if x.exponentField = 0 then -1074 else x.exponentField - 1075

/-- Whether the magnitude of a finite number is greater than `bound`. -/
def exceeds (x : Double) (bound : Nat) : Bool :=
  bound * .pow 2 (-x.exponent).toNat < x.significand * .pow 2 x.exponent.toNat

/-- The number nearest to `digits * 10 ^ scale`, ties to even. Beyond 400 places on either side the
result no longer depends on the digits. -/
def ofDecimal (digits : Nat) (scale : Int) : Double :=
  let leading : Int := (Nat.toDigits 10 digits).length + scale
  if digits = 0 ∨ leading < -400 then ⟨0⟩
  else if 400 < leading then infinity
  else ⟨(Float.ofScientific digits (scale < 0) scale.natAbs).toBits⟩

end Double

end ClusterPolicy.Number
