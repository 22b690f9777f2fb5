import FilterQuery.Number

set_option autoImplicit false
set_option relaxedAutoImplicit false

/-!
Scalars: the storage types of attributes, the values they hold, and how raw text becomes such a
value.
-/

namespace FilterQuery.Scalar

open FilterQuery.Number (Binary64)

/-- The storage type of an attribute. -/
inductive Kind
  | text
  | integer
  | float
  | boolean
  | uuid
  | timestamp
  | json
  deriving DecidableEq

def Kind.name : Kind → String
  | .text => "text"
  | .integer => "integer"
  | .float => "float"
  | .boolean => "boolean"
  | .uuid => "uuid"
  | .timestamp => "timestamp"
  | .json => "json"

def Kind.all : List Kind :=
  [.text, .integer, .float, .boolean, .uuid, .timestamp, .json]

def Kind.ofName? (name : String) : Option Kind :=
  Kind.all.find? (·.name == name)

/-- Whether a column of the type already holds text to which patterns and case apply. -/
def Kind.isTextual : Kind → Bool
  | .text => true
  | .uuid => true
  | _ => false

/-- A value of a column. -/
inductive Value
  | text (s : String)
  | integer (n : Int)
  | float (x : Binary64)
  | boolean (b : Bool)
  deriving DecidableEq

/-- Equality as a database compares values: floating-point numbers compare by their numeric
value. -/
def Value.equals : Value → Value → Bool
  | .text s, .text t => s == t
  | .integer m, .integer n => m == n
  | .float x, .float y => x.equals y
  | .boolean a, .boolean b => a == b
  | _, _ => false

/-- A coercion of raw text to a value of a storage type, `none` where the text is no such value. -/
abbrev Coercion := String → Kind → Option Value

end FilterQuery.Scalar
