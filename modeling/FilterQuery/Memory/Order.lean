import FilterQuery.Memory.Path
import FilterQuery.Text.Lowercase

set_option autoImplicit false
set_option relaxedAutoImplicit false

/-!
The order of JSON records under sort keys. Truth values come before numbers and numbers before
texts; where a key has no value, the record comes last in either direction.
-/

namespace FilterQuery.Memory.Order

open FilterQuery.Memory.Path
open FilterQuery.Number (Binary64)

/-- What a record is sorted by under one key. -/
inductive Key
  | boolean (b : Bool)
  | number (x : Binary64)
  | text (s : String)

def Key.rank : Key → Nat
  | .boolean _ => 0
  | .number _ => 1
  | .text _ => 2

/-- The order of keys: false before true, numbers in their total order, texts by code points. -/
def Key.compare : Key → Key → Ordering
  | .boolean a, .boolean b => Ord.compare a.toNat b.toNat
  | .number x, .number y => Ord.compare x.rank y.rank
  | .text s, .text t => compareOfLessAndEq s t
  | a, b => Ord.compare a.rank b.rank

/-- The key of a value: numbers are taken as floating point, lists and objects as their JSON
text. -/
def keyOf? (ignoreCase : Bool) : Json.Value → Option Key
  | .null => none
  | .boolean b => some (.boolean b)
  | .integer n => some (.number (.ofInt n))
  | .real x => some (.number x)
  | .text s => some (.text (if ignoreCase then Text.Lowercase.lowercase s else s))
  | v => some (.text (Json.Writer.compact v))

/-- A path to sort by. -/
structure SortKey where
  accessor : Accessor
  descending : Bool
  ignoreCase : Bool

def SortKey.compare (k : SortKey) : Option Key → Option Key → Ordering
  | none, none => .eq
  | none, some _ => .gt
  | some _, none => .lt
  | some a, some b => if k.descending then b.compare a else a.compare b

/-- What a record has under a sort key: the first of the path's values that is not null. -/
def SortKey.keyOf (k : SortKey) (record : Json.Value) : Except Error (Option Key) := do
  let values ← k.accessor.values record
  return values.findSome? fun v => v.bind (keyOf? k.ignoreCase)

def keysOf (keys : List SortKey) (record : Json.Value) : Except Error (List (Option Key)) :=
  keys.mapM (·.keyOf record)

/-- The order of two records by what they have under the sort keys; the first difference counts. -/
def compareKeys : List SortKey → List (Option Key) → List (Option Key) → Ordering
  | k :: keys, a :: as, b :: bs => (k.compare a b).then (compareKeys keys as bs)
  | _, _, _ => .eq

def compareRecords (keys : List SortKey) (a b : Json.Value) : Except Error Ordering := do
  return compareKeys keys (← keysOf keys a) (← keysOf keys b)

/-- Sorts a list in place: the outcome, and what the list holds afterwards. Equal items stay in the
order they had. Where the keys of a record cannot be read, nothing moves. -/
def sortHeld {α : Type} (keys : List SortKey) (record : α → Json.Value) (items : List α) :
    Except Error Unit × List α :=
  if keys.isEmpty then (.ok (), items)
  else
    let keyed : Except Error (List (List (Option Key) × α)) := items.mapM fun item => do
      return (← keysOf keys (record item), item)
    match keyed with
    | .ok keyed => (.ok (), (keyed.mergeSort fun a b => compareKeys keys a.1 b.1 != .gt).map (·.2))
    | .error e => (.error e, items)

def sort {α : Type} (keys : List SortKey) (record : α → Json.Value) (items : List α) :
    Except Error (List α) := do
  let (outcome, held) := sortHeld keys record items
  outcome
  return held

end FilterQuery.Memory.Order
