import ClusterPolicy.Text.Debug.Tables
import ClusterPolicy.Text.LetterCase

/-! Texts with everything escaped that does not show. -/

namespace ClusterPolicy.Text

def isHidden (c : Char) : Bool := inRanges hiddenRanges c

def isGraphemeExtend (c : Char) : Bool := inRanges graphemeExtendRanges c

/-- Escapes a character. Quotes among `quotes` get a backslash; a character that attaches to the one
before it is escaped where `alone`. -/
def escapeShown (quotes : List Char) (alone : Bool) (c : Char) : List Char :=
  match c with
  | '\x00' => ['\\', '0']
  | '\t' => ['\\', 't']
  | '\r' => ['\\', 'r']
  | '\n' => ['\\', 'n']
  | '\\' => ['\\', '\\']
  | c =>
    if quotes.contains c then ['\\', c]
    else if (alone && isGraphemeExtend c) || isHidden c then
      ['\\', 'u', '\x7b'] ++ Nat.toDigits 16 c.toNat ++ ['\x7d']
    else [c]

/-- The form in which the ids of policies are shown. Only at the start is there nothing for a
character to attach to. -/
def shownId (id : String) : String :=
  match id.toList with
  | [] => ""
  | c :: rest =>
    String.ofList (escapeShown ['"', '\''] true c ++ rest.flatMap (escapeShown ['"', '\''] false))

def shownString (s : String) : String :=
  String.ofList ('"' :: s.toList.flatMap (escapeShown ['"'] true) ++ ['"'])

/-- A list as it is shown in messages: `["a", "b"]`. -/
def shownList (items : List String) : String :=
  "[" ++ ", ".intercalate (items.map shownString) ++ "]"

end ClusterPolicy.Text
