import ClusterPolicy.Text.Digits

namespace ClusterPolicy.Text

def utf8Length : List Char → Nat
  | [] => 0
  | c :: rest => c.utf8Size + utf8Length rest

def utf8 (c : Char) : List UInt8 := String.utf8EncodeChar c

/-- For a leading byte of several: how many continuation bytes follow, and between which two the
first of them must lie. -/
def continuation? (lead : UInt8) : Option (Nat × UInt8 × UInt8) :=
  if 0xC2 ≤ lead ∧ lead ≤ 0xDF then some (1, 0x80, 0xBF)
  else if lead = 0xE0 then some (2, 0xA0, 0xBF)
  else if lead = 0xED then some (2, 0x80, 0x9F)
  else if 0xE1 ≤ lead ∧ lead ≤ 0xEF then some (2, 0x80, 0xBF)
  else if lead = 0xF0 then some (3, 0x90, 0xBF)
  else if 0xF1 ≤ lead ∧ lead ≤ 0xF3 then some (3, 0x80, 0xBF)
  else if lead = 0xF4 then some (3, 0x80, 0x8F)
  else none

/-- The longest run of at most `count` continuation bytes, the first of them between `low` and `high`. -/
def continuations (count : Nat) (low high : UInt8) : List UInt8 → List UInt8
  | [] => []
  | b :: rest =>
    match count with
    | 0 => []
    | n + 1 => if low ≤ b ∧ b ≤ high then b :: continuations n 0x80 0xBF rest else []

/-- The character that starts with `lead`, and how many of the bytes after it belong to it. A sequence
that breaks off stands for U+FFFD as far as it goes. -/
def decodeOne (lead : UInt8) (rest : List UInt8) : Char × Nat :=
  if lead < 0x80 then (Char.ofNat lead.toNat, 0)
  else
    match continuation? lead with
    | none => ('\uFFFD', 0)
    | some (count, low, high) =>
      let tail := continuations count low high rest
      let top := lead.toNat % .pow 2 (6 - count)
      let code := tail.foldl (fun code b => code * 64 + b.toNat % 64) top
      if tail.length = count then ((scalar? code).getD '\uFFFD', count) else ('\uFFFD', tail.length)

/-- Decodes after leaving out the first `skip` bytes. -/
def decodeFrom (skip : Nat) : List UInt8 → List Char
  | [] => []
  | b :: rest =>
    match skip with
    | n + 1 => decodeFrom n rest
    | 0 => let (c, used) := decodeOne b rest; c :: decodeFrom used rest

/-- Text of any bytes: each longest ill-formed beginning of a character becomes one U+FFFD. -/
def decodeLossy (bytes : List UInt8) : List Char := decodeFrom 0 bytes

end ClusterPolicy.Text
