import FilterQuery.Memory
import FilterQuery.Proofs.Number.Rounding
import FilterQuery.Proofs.Registry.Origin

set_option autoImplicit false
set_option relaxedAutoImplicit false

/-!
The order of records by a number. Records are sorted by the floating-point numbers nearest to
theirs, with negative zero before zero. So numbers never come in the reverse of their order, but
distinct ones may tie, and zeros may be told apart.
-/

namespace FilterQuery.Memory

open FilterQuery.Memory.Order
open FilterQuery.Memory.Path (Accessor)
open FilterQuery.Number (Binary64)
open FilterQuery.Text.Split (segments)

/-- A JSON number, the number that it is, and the floating-point number that it is sorted by. -/
inductive Numeral : Json.Value → ℚ → Binary64 → Prop
  | integer (n : Int) : Numeral (.integer n) n (.ofInt n)
  | real {x : Binary64} (finite : x.isFinite = true) : Numeral (.real x) x.value x

/-- JSON numbers that floating point keeps apart: integers up to 2 ^ 53 in magnitude, and
floating-point numbers other than negative zero. -/
def Kept : Json.Value → Prop
  | .integer n => n.natAbs ≤ 2 ^ 53
  | .real x => x ≠ .zero true
  | _ => False

instance : DecidablePred Kept
  | .integer n => inferInstanceAs (Decidable (n.natAbs ≤ 2 ^ 53))
  | .real x => inferInstanceAs (Decidable (x ≠ .zero true))
  | .null | .boolean _ | .text _ | .list _ | .object _ => inferInstanceAs (Decidable False)

variable {v w : Json.Value} {q r : ℚ} {x y : Binary64}

namespace Numeral

private theorem nearest (number : Numeral v q x) : x.Nearest q := by
  cases number with
  | integer n => exact Binary64.nearest_ofInt n
  | real finite => exact Binary64.nearest_value (of_decide_eq_true finite)

private theorem keyOf_eq (number : Numeral v q x) (ignoreCase : Bool) :
    keyOf? ignoreCase v = some (.number x) := by
  cases number <;> rfl

private theorem present_eq (number : Numeral v q x) : Path.present v = some v := by
  cases number <;> rfl

private theorem value_of_kept (number : Numeral v q x) (kept : Kept v) : x.value = q := by
  cases number with
  | integer n => exact Binary64.value_ofInt kept
  | real _ => rfl

private theorem ne_of_kept (number : Numeral v q x) (kept : Kept v) : x ≠ .zero true := by
  cases number with
  | integer n =>
    intro zero
    have value := Binary64.value_ofInt kept
    have negative : decide (n < 0) = true := congrArg Binary64.negative zero
    rw [zero, Binary64.value_zero] at value
    have null : n = 0 := by exact_mod_cast value.symm
    rw [null] at negative
    cases negative
  | real _ => exact kept

end Numeral

def attributeKey (context : Context) (key : String) (field : Attribute) : SortKey where
  accessor := ⟨(sortKey key).1, [.field field.name], field.kind, false⟩
  descending := (sortKey key).2
  ignoreCase := !context.caseSensitive && field.kind.isTextual

private theorem compileSort_attribute {context : Context} {key name : String} {field : Attribute}
    (single : segments '.' (sortKey key).1 = [name])
    (found : context.root.attribute? name = some field) :
    compileSort context [key] = .ok [attributeKey context key field] := by
  have resolved : accessor? context (sortKey key).1 =
      .ok (some ⟨(sortKey key).1, [.field field.name], field.kind, false⟩) := by
    unfold accessor? Path.resolve
    rw [single, Path.walk, found]
    rfl
  have compiled : compileSortKey context key = .ok (attributeKey context key field) := by
    unfold compileSortKey
    simp only [resolved]
    rfl
  unfold compileSort
  rw [List.mapM_cons, compiled]
  rfl

private theorem keysOf_number {key : SortKey} {name : String}
    (steps : key.accessor.steps = [.field name]) {record : Json.Value}
    (held : record.member? name = some v) (number : Numeral v q x) :
    keysOf [key] record = .ok [some (.number x)] := by
  have values : key.accessor.values record = .ok [some v] := by
    have part : Path.partOf record name = some v := by
      rw [Path.partOf, held, Option.bind_some, number.present_eq]
    unfold Accessor.values
    rw [steps, ← part]
    rfl
  have extracted : key.keyOf record = .ok (some (.number x)) := by
    unfold SortKey.keyOf
    rw [values]
    change Except.ok _ = _
    simp only [List.findSome?_cons, Option.bind_some, number.keyOf_eq]
  unfold keysOf
  rw [List.mapM_cons, extracted]
  rfl

private theorem compareRecords_number {key : SortKey} {name : String}
    (steps : key.accessor.steps = [.field name]) (ascending : key.descending = false)
    {a b : Json.Value} (ha : a.member? name = some v) (hb : b.member? name = some w)
    (hv : Numeral v q x) (hw : Numeral w r y) :
    compareRecords [key] a b = .ok (compare x.rank y.rank) := by
  have ordered : key.compare (some (.number x)) (some (.number y)) = compare x.rank y.rank := by
    simp only [SortKey.compare, ascending, Bool.false_eq_true, if_false]
    rfl
  have only : compareKeys [key] [some (.number x)] [some (.number y)] = compare x.rank y.rank := by
    change (key.compare _ _).then .eq = _
    rw [ordered, Ordering.then_eq]
  unfold compareRecords
  rw [keysOf_number steps ha hv, keysOf_number steps hb hw]
  exact congrArg Except.ok only

/-- What is kept comes in the order of the numbers. -/
theorem Numeral.compare_of_kept (hv : Numeral v q x) (hw : Numeral w r y) (keptv : Kept v)
    (keptw : Kept w) :
    compare x.rank y.rank = compare q r := by
  rw [hv.nearest.compare_eq_iff hw.nearest, ← hv.value_of_kept keptv, ← hw.value_of_kept keptw]
  constructor
  · intro same
    rcases Binary64.value_eq_iff.1 same with same | ⟨hx, hy⟩
    · exact same
    · rw [Binary64.eq_zero_of_word (hv.ne_of_kept keptv) hx,
        Binary64.eq_zero_of_word (hw.ne_of_kept keptw) hy]
  · rintro rfl
    rfl

/-- Under an ascending key of one attribute of the root, records come by the floating-point numbers
nearest to what they hold there. Two never come in the reverse of the order of their numbers. They
come in that order exactly if their numbers are equal just when the nearest ones are the same, and
so wherever floating point keeps them apart. -/
theorem compareRecords_numerals {context : Context} {key name : String} {field : Attribute}
    (single : segments '.' (sortKey key).1 = [name]) (ascending : (sortKey key).2 = false)
    (found : context.root.attribute? name = some field) :
    ∃ keys, compileSort context [key] = .ok keys ∧
      ∀ {a b v w : Json.Value} {q r : ℚ} {x y : Binary64}, a.member? field.name = some v →
        b.member? field.name = some w →
        Numeral v q x → Numeral w r y →
          ∃ order, compareRecords keys a b = .ok order ∧ (q < r → order ≠ .gt) ∧
            (r < q → order ≠ .lt) ∧
            (order = compare q r ↔ (q = r ↔ x = y)) ∧ (Kept v → Kept w → order = compare q r) := by
  refine ⟨_, compileSort_attribute single found, ?_⟩
  intro a b v w q r x y ha hb hv hw
  refine ⟨_, compareRecords_number rfl ascending ha hb hv hw, ?_⟩
  exact ⟨hv.nearest.compare_ne_gt hw.nearest, hv.nearest.compare_ne_lt hw.nearest,
    hv.nearest.compare_eq_iff hw.nearest, hv.compare_of_kept hw⟩

def articleWith (id : Json.Value) : Json.Value :=
  .object [("id", id)]

private theorem single_id : segments '.' (sortKey "id").1 = ["id"] := by
  decide +kernel

private theorem attribute?_id :
    Blog.context.root.attribute? "id" = some ⟨"id", none, .integer, false⟩ := by
  rfl

/-- The successor of 2 ^ 53 ties with it, and zero comes after negative zero. -/
theorem successors_tie :
    ∃ keys, compileSort Blog.context ["id"] = .ok keys ∧
      compareRecords keys (articleWith (.integer 9007199254740993))
        (articleWith (.integer 9007199254740992)) = .ok .eq ∧
      compare (9007199254740993 : ℚ) 9007199254740992 = .gt ∧
      compareRecords keys (articleWith (.integer 0)) (articleWith (.real (.zero true))) = .ok .gt ∧
      (Binary64.zero true).value = 0 := by
  refine ⟨_, compileSort_attribute single_id attribute?_id, ?_, ?_, ?_, Binary64.value_zero true⟩
  · rw [compareRecords_number rfl rfl rfl rfl (.integer _) (.integer _)]
    exact congrArg Except.ok (by decide +kernel)
  · exact compare_gt_iff_gt.2 (by norm_num)
  · rw [compareRecords_number rfl rfl rfl rfl (.integer _) (.real rfl)]
    exact congrArg Except.ok (by decide +kernel)

def half : Binary64 :=
  ⟨false, 0x3FE0000000000000, by decide⟩

/-- An integer comes after one half. -/
theorem half_before_integer :
    ∃ keys, compileSort Blog.context ["id"] = .ok keys ∧
      compareRecords keys (articleWith (.integer 9007199254740992)) (articleWith (.real half)) =
        .ok .gt := by
  obtain ⟨keys, made, each⟩ := compareRecords_numerals single_id (by rfl) attribute?_id
  obtain ⟨order, compared, _, _, _, kept⟩ :=
    each (a := articleWith (.integer 9007199254740992)) (b := articleWith (.real half)) rfl rfl
      (.integer _) (.real rfl)
  have keptInteger : Kept (.integer 9007199254740992) := by decide
  have keptHalf : Kept (.real half) := by decide
  have less : half.value < (9007199254740992 : Int) := by decide +kernel
  have after : order = .gt := by
    rw [kept keptInteger keptHalf]
    exact compare_gt_iff_gt.2 less
  exact ⟨keys, made, after ▸ compared⟩

end FilterQuery.Memory
