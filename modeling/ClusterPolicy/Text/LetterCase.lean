import ClusterPolicy.Text.Digits
import ClusterPolicy.Text.LetterCase.Tables

namespace ClusterPolicy.Text

def inRanges (ranges : List (Nat × Nat)) (c : Char) : Bool :=
  ranges.any fun (first, last) => first ≤ c.toNat && c.toNat ≤ last

/-- The character that a run maps `c` to, or `c`. -/
def mapped (runs : List CaseRun) (c : Char) : Char :=
  let run? := runs.find? fun r =>
    r.first ≤ c.toNat && c.toNat ≤ r.last && (c.toNat - r.first) % r.step == 0
  ((run?.map fun r => ((c.toNat : Int) + r.shift).toNat).bind scalar?).getD c

def isCased (c : Char) : Bool := inRanges casedRanges c

def isCaseIgnorable (c : Char) : Bool := inRanges caseIgnorableRanges c

/-- Whether a cased character comes first in `s`, up to characters that are ignored. -/
def startsCased (s : List Char) : Bool := (s.dropWhile isCaseIgnorable).head?.any isCased

/-- Lower case of the text after `before`, which is given backwards. A sigma that ends a word is
written differently. -/
def lowerAfter (before : List Char) : List Char → List Char
  | [] => []
  | c :: rest =>
    let lower :=
      if c = 'Σ' then if startsCased before && !startsCased rest then ['ς'] else ['σ']
      else if c = 'İ' then ['i', '\u0307']
      else [mapped lowerRuns c]
    lower ++ lowerAfter (c :: before) rest

def lowercase (s : String) : String := String.ofList (lowerAfter [] s.toList)

/-- Upper case of one character, which may be several. -/
def uppercase (c : Char) : List Char :=
  match upperSequences.lookup c.toNat with
  | some codes => codes.filterMap scalar?
  | none => [mapped upperRuns c]

/-- The text with its first character in upper case. -/
def capitalize (s : String) : String :=
  match s.toList with
  | [] => ""
  | c :: rest => String.ofList (uppercase c ++ rest)

end ClusterPolicy.Text
