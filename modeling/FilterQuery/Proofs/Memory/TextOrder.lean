import FilterQuery.Proofs.Memory.Expansion
import FilterQuery.Proofs.Memory.NumericOrder
import FilterQuery.Proofs.Memory.SortOrder
import FilterQuery.Proofs.Number.Spelling
import FilterQuery.Proofs.Relational.Restriction

set_option autoImplicit false
set_option relaxedAutoImplicit false

/-!
The order of records by keys of a document. Such a key counts as text, and rows are sorted by the
text under it, but records are sorted by the types of what they hold there first. So they come in
the order of their texts only where the types happen to put them so.
-/

namespace FilterQuery.Memory.Order

open FilterQuery.Memory.Path (present textOf)
open FilterQuery.Number

/-- The first value that is not null where a sort key leads in a record. -/
def SortKey.held (k : SortKey) (record : Json.Value) : Except Error (Option Json.Value) := do
  let values ← k.accessor.values record
  return values.findSome? (·.bind present)

variable {u v w : Json.Value} {x y : Key}

private theorem exists_keyOf? (ignoreCase : Bool) (found : present u = some v) :
    u = v ∧ ∃ x, keyOf? ignoreCase v = some x := by
  cases u with
  | null => cases found
  | boolean b => cases found; exact ⟨rfl, _, rfl⟩
  | integer n => cases found; exact ⟨rfl, _, rfl⟩
  | real x => cases found; exact ⟨rfl, _, rfl⟩
  | text s => cases found; exact ⟨rfl, _, rfl⟩
  | list items => cases found; exact ⟨rfl, _, rfl⟩
  | object members => cases found; exact ⟨rfl, _, rfl⟩

private theorem findSome?_keyOf? (ignoreCase : Bool) (values : List (Option Json.Value)) :
    values.findSome? (·.bind (keyOf? ignoreCase)) =
      (values.findSome? (·.bind present)).bind (keyOf? ignoreCase) := by
  induction values with
  | nil => rfl
  | cons value values ih =>
    rw [List.findSome?_cons, List.findSome?_cons]
    cases value with
    | none => exact ih
    | some u =>
      simp only [Option.bind_some]
      cases found : present u with
      | none =>
        have null : u = .null := by
          cases u with
          | null => rfl
          | _ => cases found
        rw [null]
        exact ih
      | some v =>
        obtain ⟨rfl, x, key⟩ := exists_keyOf? ignoreCase found
        simp only [key, Option.bind_some]

variable {k : SortKey} {record : Json.Value}

private theorem SortKey.values_of_held (held : k.held record = .ok (some v)) :
    ∃ values, k.accessor.values record = .ok values ∧
      values.findSome? (·.bind present) = some v := by
  unfold SortKey.held at held
  obtain ⟨values, read, found⟩ := bind_eq_ok_iff.1 held
  exact ⟨values, read, Except.ok.inj found⟩

private theorem SortKey.keyOf_of_held (held : k.held record = .ok (some v)) :
    k.keyOf record = .ok (keyOf? k.ignoreCase v) := by
  obtain ⟨values, read, first⟩ := SortKey.values_of_held held
  unfold SortKey.keyOf
  rw [read]
  change Except.ok _ = _
  rw [findSome?_keyOf?, first, Option.bind_some]

private theorem SortKey.exists_key_of_held (held : k.held record = .ok (some v))
    (ignoreCase : Bool) :
    ∃ x, keyOf? ignoreCase v = some x := by
  obtain ⟨values, -, first⟩ := SortKey.values_of_held held
  obtain ⟨value, -, here⟩ := List.exists_of_findSome?_eq_some first
  obtain ⟨u, -, found⟩ := Option.bind_eq_some_iff.1 here
  exact (exists_keyOf? ignoreCase found).2

/-- The place of a value's type in the order: truth values, numbers, then texts and documents. -/
def typeRank : Json.Value → Nat
  | .boolean _ => 0
  | .integer _ | .real _ => 1
  | _ => 2

/-- Whether two values are sorted in the order of their texts: of two types, the first has the
lesser text, and numbers come as their texts do. -/
structure SortedAsText (v w : Json.Value) : Prop where
  earlier : typeRank v < typeRank w → textOf v < textOf w
  later : typeRank w < typeRank v → textOf w < textOf v
  numbers : ∀ x y, keyOf? false v = some (.number x) → keyOf? false w = some (.number y) →
    compare x.rank y.rank = compare (textOf v) (textOf w)

private theorem rank_of_keyOf? (key : keyOf? false v = some x) : x.rank = typeRank v := by
  cases v with
  | null => cases key
  | boolean b => cases key; rfl
  | integer n => cases key; rfl
  | real x => cases key; rfl
  | text s => cases key; rfl
  | list items => cases key; rfl
  | object members => cases key; rfl

private theorem text_of_keyOf? {s : String} (key : keyOf? false v = some (.text s)) :
    textOf v = s := by
  cases v with
  | text t => exact Key.text.inj (Option.some.inj key)
  | list items => exact Key.text.inj (Option.some.inj key)
  | object members => exact Key.text.inj (Option.some.inj key)
  | _ => cases key

private theorem boolean_of_keyOf? {b : Bool} (key : keyOf? false v = some (.boolean b)) :
    v = .boolean b := by
  cases v with
  | boolean c => rw [Key.boolean.inj (Option.some.inj key)]
  | _ => cases key

private theorem Key.compare_of_rank_lt (less : x.rank < y.rank) : x.compare y = .lt := by
  have ranks : Ord.compare x.rank y.rank = .lt := compare_lt_iff_lt.2 less
  rw [Key.compare_eq, compareLex, compareOn, ranks]
  rfl

private theorem typeRank_of_number {p : Binary64} (key : keyOf? false v = some (.number p)) :
    typeRank v = 1 :=
  (rank_of_keyOf? key).symm

namespace SortedAsText

private theorem of_texts (hv : typeRank v ≠ 1) (same : typeRank v = typeRank w) :
    SortedAsText v w where
  earlier less := absurd same less.ne
  later less := absurd same less.ne'
  numbers _ _ hp _ := absurd (typeRank_of_number hp) hv

private theorem iff_of_lt (less : typeRank v < typeRank w) :
    SortedAsText v w ↔ textOf v < textOf w := by
  constructor
  · intro sorted
    exact sorted.earlier less
  · intro before
    refine ⟨fun _ => before, fun more => absurd more less.asymm, ?_⟩
    intro p q hp hq
    exact absurd (typeRank_of_number hp) (typeRank_of_number hq ▸ less.ne)

theorem symm (sorted : SortedAsText v w) : SortedAsText w v where
  earlier := sorted.later
  later := sorted.earlier
  numbers p q hp hq := by
    have turned : compare p.rank q.rank = (compare q.rank p.rank).swap := Std.OrientedCmp.eq_swap
    rw [turned, sorted.numbers q p hq hp, ← Std.OrientedCmp.eq_swap]

private theorem iff_of_numbers {p q : Binary64} (hp : keyOf? false v = some (.number p))
    (hq : keyOf? false w = some (.number q)) :
    SortedAsText v w ↔ compare p.rank q.rank = compare (textOf v) (textOf w) := by
  constructor
  · intro sorted
    exact sorted.numbers p q hp hq
  · intro same
    have rankv := typeRank_of_number hp
    have rankw := typeRank_of_number hq
    refine ⟨fun less => by omega, fun less => by omega, ?_⟩
    intro p' q' hp' hq'
    obtain rfl := Key.number.inj (Option.some.inj (hp.symm.trans hp'))
    obtain rfl := Key.number.inj (Option.some.inj (hq.symm.trans hq'))
    exact same

end SortedAsText

/-- The types and the texts of two values put them in the same order exactly if they are sorted as
text. -/
theorem compare_eq_iff (hv : keyOf? false v = some x) (hw : keyOf? false w = some y) :
    x.compare y = compare (textOf v) (textOf w) ↔ SortedAsText v w := by
  have rankv := rank_of_keyOf? hv
  have rankw := rank_of_keyOf? hw
  rcases lt_trichotomy (typeRank v) (typeRank w) with less | same | less
  · rw [Key.compare_of_rank_lt (by omega), SortedAsText.iff_of_lt less, eq_comm, compare_lt_iff_lt]
  · cases x with
    | boolean b =>
      cases y with
      | boolean c =>
        have order : (Key.boolean b).compare (.boolean c) = compare (textOf v) (textOf w) := by
          rw [boolean_of_keyOf? hv, boolean_of_keyOf? hw]
          cases b <;> cases c <;> decide +kernel
        exact iff_of_true order (.of_texts (by rw [← rankv]; exact nofun) same)
      | number q => cases rankv.trans (same.trans rankw.symm)
      | text t => cases rankv.trans (same.trans rankw.symm)
    | number p =>
      cases y with
      | boolean c => cases rankv.trans (same.trans rankw.symm)
      | number q => exact (SortedAsText.iff_of_numbers hv hw).symm
      | text t => cases rankv.trans (same.trans rankw.symm)
    | text s =>
      cases y with
      | boolean c => cases rankv.trans (same.trans rankw.symm)
      | number q => cases rankv.trans (same.trans rankw.symm)
      | text t =>
        have order : (Key.text s).compare (.text t) = compare (textOf v) (textOf w) := by
          rw [text_of_keyOf? hv, text_of_keyOf? hw]
          rfl
        exact iff_of_true order (.of_texts (by rw [← rankv]; exact nofun) same)
  · have turned : x.compare y = (y.compare x).swap := Std.OrientedCmp.eq_swap
    have order : x.compare y = .gt := by
      rw [turned, Key.compare_of_rank_lt (by omega)]
      rfl
    have swapped : SortedAsText v w ↔ SortedAsText w v := ⟨.symm, .symm⟩
    rw [order, swapped, SortedAsText.iff_of_lt less, eq_comm, compare_gt_iff_gt]

private theorem toList_textOf_natural (n : Nat) :
    (textOf (.integer n)).toList = Nat.toDigits 10 n := by
  change (String.ofList (toString (n : Int)).toList).toList = _
  rw [String.toList_ofList]
  change (Nat.repr n).toList = _
  rw [Nat.repr_eq_ofList_toDigits, String.toList_ofList]

/-- Natural numbers that floating point keeps apart are sorted as text exactly if the lesser one,
filled up with noughts to the length of the other, is still no greater. -/
theorem SortedAsText.naturals_iff {m n : Nat} (less : m < n) (kept : n ≤ 2 ^ 53) :
    SortedAsText (.integer m) (.integer n) ↔
      m * 10 ^ ((Nat.toDigits 10 n).length - (Nat.toDigits 10 m).length) ≤ n := by
  have numbers : compare (Binary64.ofInt m).rank (Binary64.ofInt n).rank = .lt := by
    have kept' : Kept (.integer m) := less.le.trans kept
    rw [Numeral.compare_of_kept (.integer m) (.integer n) kept' kept]
    exact compare_lt_iff_lt.2 (by exact_mod_cast less)
  have texts : textOf (.integer n) < textOf (.integer m) ↔
      n < m * 10 ^ ((Nat.toDigits 10 n).length - (Nat.toDigits 10 m).length) := by
    rw [String.lt_iff_toList_lt, toList_textOf_natural, toList_textOf_natural,
      Shortest.toDigits_lt_iff less]
  have different : textOf (.integer m) ≠ textOf (.integer n) := by
    intro same
    rw [← String.toList_inj, toList_textOf_natural, toList_textOf_natural,
      Shortest.toDigits_inj] at same
    exact less.ne same
  rw [SortedAsText.iff_of_numbers rfl rfl, numbers, eq_comm, compare_lt_iff_lt, ← not_lt,
    ← texts, not_lt]
  exact ⟨le_of_lt, fun le => lt_of_le_of_ne le different⟩

/-- An order as it is, or turned around. -/
def directed (descending : Bool) (order : Ordering) : Ordering :=
  if descending then order.swap else order

private theorem compareRecords_of_held {a b : Json.Value} (ha : k.held a = .ok (some v))
    (hb : k.held b = .ok (some w)) (hv : keyOf? k.ignoreCase v = some x)
    (hw : keyOf? k.ignoreCase w = some y) :
    compareRecords [k] a b = .ok (directed k.descending (x.compare y)) := by
  have keysa : keysOf [k] a = .ok [some x] :=
    keysOf_cons_iff.2 ⟨_, _, rfl, hv ▸ SortKey.keyOf_of_held ha, rfl⟩
  have keysb : keysOf [k] b = .ok [some y] :=
    keysOf_cons_iff.2 ⟨_, _, rfl, hw ▸ SortKey.keyOf_of_held hb, rfl⟩
  have turned : y.compare x = (x.compare y).swap := Std.OrientedCmp.eq_swap
  rw [compareRecords_eq keysa keysb]
  change Except.ok ((k.compare (some x) (some y)).then .eq) = _
  rw [Ordering.then_eq, SortKey.compare, directed, turned]

private theorem directed_inj {descending : Bool} {order order' : Ordering} :
    directed descending order = directed descending order' ↔ order = order' := by
  cases descending with
  | false => rfl
  | true => exact Ordering.swap_inj

end FilterQuery.Memory.Order

namespace FilterQuery

open FilterQuery.Sql (Expr)

private theorem Route.exists_documentText {route : Route} (inside : route.keys ≠ [])
    (table : String) :
    ∃ document, route.expr table = .documentText document (route.keys.getLast inside) := by
  have under : ∀ {keys : List String} (filled : keys ≠ []) (e : Expr),
      ∃ document, Route.textUnder e keys = .documentText document (keys.getLast filled) := by
    intro keys
    induction keys with
    | nil => exact fun filled => absurd rfl filled
    | cons key keys ih =>
      intro filled e
      cases keys with
      | nil => exact ⟨e, rfl⟩
      | cons next keys => exact ih (List.cons_ne_nil next keys) (.document e key)
  exact under inside _

end FilterQuery

namespace FilterQuery.Memory

open FilterQuery.Memory.Order
open FilterQuery.Memory.Path (textOf)

section Documents

variable {context : Context} {key : String} {route : Route}

def keyAlong (context : Context) (key : String) (route : Route) : SortKey where
  accessor := route.accessor (sortKey key).1
  descending := (sortKey key).2
  ignoreCase := !context.caseSensitive && route.kind.isTextual

private theorem compileSort_along (built : context.Built)
    (located : context.locate (sortKey key).1 = .ok (some route)) (single : route.many = false) :
    compileSort context [key] = .ok [keyAlong context key route] := by
  have compiled : compileSortKey context key = .ok (keyAlong context key route) := by
    have crossing : (route.accessor (sortKey key).1).many = false := single
    unfold compileSortKey
    simp only [built.memory_resolve, located]
    change (if (route.accessor (sortKey key).1).many then _ else _) = _
    rw [crossing]
    rfl
  unfold compileSort
  rw [List.mapM_cons, compiled]
  rfl

private theorem kind_of_keys (inside : route.keys ≠ []) : route.kind = .text := by
  unfold Route.kind
  rw [List.isEmpty_eq_false_iff.2 inside]
  rfl

private theorem relational_compileSortKey_under_keys (sensitive : context.caseSensitive = true)
    (located : context.locate (sortKey key).1 = .ok (some route)) (inside : route.keys ≠ [])
    (single : route.many = false) :
    ∃ document joins, Relational.compileSortKey context key =
      .ok (⟨.documentText document (route.keys.getLast inside), (sortKey key).2⟩, joins) := by
  obtain ⟨document, text⟩ := route.exists_documentText inside context.root.table
  have ordered : Relational.orderAlong context key route =
      ⟨route.expr context.root.table, (sortKey key).2⟩ := by
    unfold Relational.orderAlong
    rw [sensitive]
    rfl
  refine ⟨document, Leg.joins context.root.table [] route.legs, ?_⟩
  rw [Relational.compileSortKey_eq, located]
  change (if route.many then _ else _) = _
  rw [single, ordered, text]
  rfl

/-- A sort key that leads to keys of a document counts as text: rows are sorted by the text there.
With regard to letter case, any two records with values there are sorted too, and they come in the
order of the texts of these values exactly if the types of the values put them so. -/
theorem compareRecords_under_keys (built : context.Built) (sensitive : context.caseSensitive = true)
    (located : context.locate (sortKey key).1 = .ok (some route)) (inside : route.keys ≠ [])
    (single : route.many = false) :
    (∃ document joins, Relational.compileSortKey context key =
      .ok (⟨.documentText document (route.keys.getLast inside), (sortKey key).2⟩, joins)) ∧
      ∃ k, compileSort context [key] = .ok [k] ∧ k.accessor.kind = .text ∧
        ∀ {a b v w : Json.Value}, k.held a = .ok (some v) → k.held b = .ok (some w) →
          ∃ order, compareRecords [k] a b = .ok order ∧
            (order = directed (sortKey key).2 (compare (textOf v) (textOf w)) ↔
              SortedAsText v w) := by
  refine ⟨relational_compileSortKey_under_keys sensitive located inside single,
    keyAlong context key route, compileSort_along built located single, kind_of_keys inside, ?_⟩
  intro a b v w ha hb
  have regard : (keyAlong context key route).ignoreCase = false := by
    change (!context.caseSensitive && _) = false
    rw [sensitive]
    rfl
  obtain ⟨x, hv⟩ := SortKey.exists_key_of_held ha false
  obtain ⟨y, hw⟩ := SortKey.exists_key_of_held hb false
  refine ⟨_, compareRecords_of_held ha hb (regard ▸ hv) (regard ▸ hw), ?_⟩
  exact directed_inj.trans (compare_eq_iff hv hw)

end Documents

namespace Notes

open FilterQuery.Memory.Path.Notes (note schema)

def registry : Registry where
  root := "Note"
  entities := NameIndex.empty.insert "Note" (Registry.entryOf note [])
  externals := []

theorem build_eq : Registry.build schema "Note" = .ok registry := by
  have found : schema.entity? "Note" = some note := by rfl
  exact Registry.build_of_leaf found rfl

def context : Context :=
  ⟨schema, registry, note, Scalar.Coerce.coerce, .default, true, Like.refusal⟩

theorem context_built : context.Built :=
  ⟨⟨"Note", build_eq⟩, by rfl⟩

/-- The way to the length of what a note is about. -/
def length : Route :=
  ⟨[], ⟨"about", none, .json, true⟩, ["length"]⟩

private theorem locate_length : context.locate (sortKey "about.length").1 = .ok (some length) := by
  rfl

def noteOf (n : Nat) : Json.Value :=
  .object [("about", .object [("length", .integer n)])]

private theorem compileSort_length :
    compileSort context ["about.length"] = .ok [keyAlong context "about.length" length] :=
  compileSort_along context_built locate_length rfl

private theorem held_noteOf (n : Nat) :
    (keyAlong context "about.length" length).held (noteOf n) = .ok (some (.integer n)) := by
  rfl

end Notes

/-- A note of length nine comes before one of length ten, whose text is the lesser. -/
theorem nine_before_ten :
    ∃ k, compileSort Notes.context ["about.length"] = .ok [k] ∧ k.accessor.kind = .text ∧
      k.held (Notes.noteOf 9) = .ok (some (.integer 9)) ∧
        k.held (Notes.noteOf 10) = .ok (some (.integer 10)) ∧
      compareRecords [k] (Notes.noteOf 9) (Notes.noteOf 10) = .ok .lt ∧
      compare (textOf (.integer 9)) (textOf (.integer 10)) = .gt := by
  refine ⟨_, Notes.compileSort_length, rfl, Notes.held_noteOf 9, Notes.held_noteOf 10,
    ?_, by decide +kernel⟩
  have numbers : (Key.number (.ofInt 9)).compare (.number (.ofInt 10)) = .lt := by decide +kernel
  rw [compareRecords_of_held (Notes.held_noteOf 9) (Notes.held_noteOf 10) rfl rfl]
  exact congrArg Except.ok numbers

/-- One comes before nineteen, as a length and as a text. -/
theorem one_before_nineteen :
    Notes.context.Built ∧ Notes.context.caseSensitive = true ∧ Notes.length.keys ≠ [] ∧
      Notes.length.many = false ∧
      ∃ k, compileSort Notes.context ["about.length"] = .ok [k] ∧
        compareRecords [k] (Notes.noteOf 1) (Notes.noteOf 19) =
          .ok (compare (textOf (.integer 1)) (textOf (.integer 19))) := by
  have inside : Notes.length.keys ≠ [] := List.cons_ne_nil _ _
  obtain ⟨-, k, made, -, each⟩ :=
    compareRecords_under_keys Notes.context_built rfl Notes.locate_length inside rfl
  obtain rfl : keyAlong Notes.context "about.length" Notes.length = k :=
    List.head_eq_of_cons_eq (Except.ok.inj (Notes.compileSort_length.symm.trans made))
  obtain ⟨order, compared, asText⟩ := each (Notes.held_noteOf 1) (Notes.held_noteOf 19)
  have sorted : SortedAsText (.integer (1 : Nat)) (.integer (19 : Nat)) :=
    (SortedAsText.naturals_iff (by decide) (by decide)).2 (by decide +kernel)
  refine ⟨Notes.context_built, rfl, inside, rfl, _, made, ?_⟩
  rw [compared, asText.2 sorted]
  rfl

end FilterQuery.Memory
