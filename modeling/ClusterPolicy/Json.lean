namespace ClusterPolicy

/-- A JSON value. A number that is no integer, or is written as one with a fraction, an exponent or a
signed zero, keeps its text. An object keeps all its members in their order. -/
inductive Json
  | null
  | bool (value : Bool)
  | int (value : Int)
  | number (text : String)
  | string (value : String)
  | array (items : List Json)
  | object (members : List (String × Json))
  deriving Inhabited

namespace Json

/-- The last member under `key`. -/
def member? (key : String) : List (String × Json) → Option Json
  | [] => none
  | (k, v) :: rest => (member? key rest).or (if k = key then some v else none)

def get? (json : Json) (key : String) : Option Json :=
  match json with
  | object members => member? key members
  | _ => none

/-- The members of an object without repeated keys. -/
def distinctMembers? : Json → Option (List (String × Json))
  | object members => if (members.map (·.1)).Nodup then some members else none
  | _ => none

def string? : Json → Option String
  | string s => some s
  | _ => none

def array? : Json → Option (List Json)
  | array items => some items
  | _ => none

def object? : Json → Option (List (String × Json))
  | object members => some members
  | _ => none

end Json

end ClusterPolicy
