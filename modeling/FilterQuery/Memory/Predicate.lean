import FilterQuery.Like
import FilterQuery.Memory.Path
import FilterQuery.Scalar
import FilterQuery.Text.CaseFold

set_option autoImplicit false
set_option relaxedAutoImplicit false

/-!
Predicates over JSON records. A test of a path holds of a record if it holds of one of the path's
values there.
-/

namespace FilterQuery.Memory

open FilterQuery.Like (Piece)
open FilterQuery.Memory.Path
open FilterQuery.Scalar (Coercion Kind)

/-- What is asked of one value. -/
inductive Test
  | isNull
  | isNotNull
  | equal (wanted : Scalar.Value)
  | notEqual (wanted : Scalar.Value)
  | matching (pattern : List Piece) (ignoreCase : Bool)

/-- A test of a path, or a combination of such tests. -/
inductive Node
  | always
  | never
  | all (parts : List Node)
  | any (parts : List Node)
  | test (accessor : Accessor) (test : Test)

def Node.isAlways : Node → Bool
  | .always => true
  | _ => false

/-- Whether a stored value, coerced to the type of its column, equals a wanted one. One that does
not fit equals none. -/
def storedEquals (coerce : Coercion) (kind : Kind) (v : Json.Value) (wanted : Scalar.Value) :
    Bool :=
  match coerce (textOf v) kind with
  | some stored => stored.equals wanted
  | none => false

def sameChar (ignoreCase : Bool) : Char → Char → Bool :=
  if ignoreCase then Text.CaseFold.sameFold else (· == ·)

/-- Whether a test holds of a value; null passes the test for null alone. -/
def Test.holds (coerce : Coercion) (kind : Kind) : Test → Option Json.Value → Bool
  | .isNull, v => v.isNone
  | .isNotNull, v => v.isSome
  | _, none => false
  | .equal wanted, some v => storedEquals coerce kind v wanted
  | .notEqual wanted, some v => !storedEquals coerce kind v wanted
  | .matching pattern ignoreCase, some v =>
    Like.accepts (sameChar ignoreCase) pattern (textOf v).toList

def holdsAt (coerce : Coercion) (record : Json.Value) (accessor : Accessor) (test : Test) :
    Except Error Bool := do
  let values ← accessor.values record
  return values.any (test.holds coerce accessor.kind)

mutual

/-- Whether a node holds of a record. Parts are asked from left to right until the answer is known,
so a part that cannot be read does not matter after that. -/
def Node.holds (coerce : Coercion) (record : Json.Value) : Node → Except Error Bool
  | .always => .ok true
  | .never => .ok false
  | .all parts => holdAll coerce record parts
  | .any parts => holdsAny coerce record parts
  | .test accessor test => holdsAt coerce record accessor test

def holdAll (coerce : Coercion) (record : Json.Value) : List Node → Except Error Bool
  | [] => .ok true
  | part :: parts => do
    if ← part.holds coerce record then holdAll coerce record parts else return false

def holdsAny (coerce : Coercion) (record : Json.Value) : List Node → Except Error Bool
  | [] => .ok false
  | part :: parts => do
    if ← part.holds coerce record then return true else holdsAny coerce record parts

end

/-- A compiled filter with the coercion for stored values. -/
structure Predicate where
  node : Node
  coerce : Coercion

/-- Whether a predicate accepts every record without looking at it. -/
def Predicate.isUnrestricted (p : Predicate) : Bool :=
  p.node.isAlways

def Predicate.test (p : Predicate) (record : Json.Value) : Except Error Bool :=
  p.node.holds p.coerce record

/-- The records that a predicate accepts, in order; each comes with what goes along with it. -/
def Predicate.select {α : Type} (p : Predicate) (record : α → Json.Value) (items : List α) :
    Except Error (List α) :=
  items.filterM fun item => p.test (record item)

end FilterQuery.Memory
