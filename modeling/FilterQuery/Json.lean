import FilterQuery.Number

set_option autoImplicit false
set_option relaxedAutoImplicit false

/-!
JSON values. An object that was read has its members in increasing order of their names, each name
once.
-/

namespace FilterQuery.Json

open FilterQuery.Number (Binary64)

/-- A JSON value. A number is an integer that fits 64 bits, with or without a sign, or a
floating-point number. -/
inductive Value
  | null
  | boolean (b : Bool)
  | integer (n : Int)
  | real (x : Binary64)
  | text (s : String)
  | list (items : List Value)
  | object (members : List (String × Value))

/-- The members of an object with one more; an earlier member of the same name is replaced. -/
def insertMember (name : String) (value : Value) : List (String × Value) → List (String × Value)
  | [] => [(name, value)]
  | (other, old) :: members =>
    if name < other then (name, value) :: (other, old) :: members
    else if name = other then (name, value) :: members
    else (other, old) :: insertMember name value members

/-- An object of the given members, in order of their names; the last of several with one name
counts. -/
def objectOf (members : List (String × Value)) : Value :=
  .object (members.foldl (fun sorted (name, value) => insertMember name value sorted) [])

/-- The member of a name, `none` also where the value is no object. -/
def Value.member? (name : String) : Value → Option Value
  | .object members => (members.find? (·.1 == name)).map (·.2)
  | _ => none

def Value.isNull : Value → Bool
  | .null => true
  | _ => false

end FilterQuery.Json
