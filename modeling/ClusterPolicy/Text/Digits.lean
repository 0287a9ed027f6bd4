namespace ClusterPolicy.Text

/-- The value of a digit; letters of either case count from ten. -/
def digitValue? (radix : Nat) (c : Char) : Option Nat :=
  let value :=
    if '0' ≤ c ∧ c ≤ '9' then some (c.toNat - 48)
    else if 'a' ≤ c ∧ c ≤ 'z' then some (c.toNat - 87)
    else if 'A' ≤ c ∧ c ≤ 'Z' then some (c.toNat - 55)
    else none
  value.filter (· < radix)

def isDigit (radix : Nat) (c : Char) : Bool := (digitValue? radix c).isSome

/-- The number that `digits` name, most significant first, after `high` that was read before them. -/
def ofDigits (radix : Nat) (high : Nat) : List Char → Option Nat
  | [] => some high
  | c :: rest => (digitValue? radix c).bind fun d => ofDigits radix (high * radix + d) rest

/-- At least one digit and nothing else. -/
def natural? (radix : Nat) (digits : List Char) : Option Nat :=
  if digits.isEmpty then none else ofDigits radix 0 digits

/-- The character with this code, unless the code is a surrogate or too large. -/
def scalar? (code : Nat) : Option Char :=
  if h : code.isValidChar then some (Char.ofNatAux code h) else none

end ClusterPolicy.Text
