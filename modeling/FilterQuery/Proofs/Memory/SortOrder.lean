import FilterQuery.Memory.Order
import FilterQuery.Proofs.Steps
import Mathlib.Data.List.Basic

set_option autoImplicit false
set_option relaxedAutoImplicit false

/-!
The order of records under sort keys is a total preorder, and sorting puts records in that order
without changing places among equal ones. A record without a value under the first key that tells
two records apart comes after the other.
-/

namespace FilterQuery.Memory.Order

def Key.amount : Key → Int
  | .boolean b => b.toNat
  | .number x => x.rank
  | .text _ => 0

/-- The text in a key, empty for anything else. -/
def Key.letters : Key → String
  | .text s => s
  | _ => ""

theorem Key.compare_eq :
    Key.compare = compareLex (compareOn Key.rank)
      (compareLex (compareOn Key.amount) (compareOn Key.letters)) := by
  funext a b
  cases a with
  | boolean x =>
    cases b with
    | boolean y => cases x <;> cases y <;> rfl
    | number y => rfl
    | text t => rfl
  | number x =>
    cases b with
    | boolean y => rfl
    | number y =>
      change _ = (Ord.compare x.rank y.rank).then (Ord.compare "" "")
      rw [Std.ReflOrd.compare_self, Ordering.then_eq]
      rfl
    | text t => rfl
  | text s =>
    cases b with
    | boolean y => rfl
    | number y => rfl
    | text t => rfl

instance : Std.TransCmp Key.compare := by
  rw [Key.compare_eq]
  infer_instance

/-- Under one sort key all values are in order, in either direction, and what is missing comes
last. -/
instance (k : SortKey) : Std.TransCmp k.compare where
  eq_swap {a b} := by
    cases a with
    | none => cases b <;> rfl
    | some x =>
      cases b with
      | none => rfl
      | some y =>
        simp only [SortKey.compare]
        split
        · exact Std.OrientedCmp.eq_swap
        · exact Std.OrientedCmp.eq_swap
  isLE_trans {a b c} hab hbc := by
    cases c with
    | none => cases a <;> rfl
    | some z =>
      cases b with
      | none => cases hbc
      | some y =>
        cases a with
        | none => cases hab
        | some x =>
          simp only [SortKey.compare] at hab hbc ⊢
          split at hab
          · rw [if_pos (by assumption)] at hbc ⊢
            exact Std.TransCmp.isLE_trans hbc hab
          · rw [if_neg (by assumption)] at hbc ⊢
            exact Std.TransCmp.isLE_trans hab hbc

theorem compareKeys_swap (keys : List SortKey) (as bs : List (Option Key)) :
    compareKeys keys as bs = (compareKeys keys bs as).swap := by
  induction keys generalizing as bs with
  | nil => rfl
  | cons k keys ih =>
    cases as with
    | nil => cases bs <;> rfl
    | cons a as =>
      cases bs with
      | nil => rfl
      | cons b bs =>
        simp only [compareKeys, Ordering.swap_then]
        rw [← ih, ← Std.OrientedCmp.eq_swap]

private theorem compareKeys_self (keys : List SortKey) (as : List (Option Key)) :
    compareKeys keys as as = .eq := by
  have same := compareKeys_swap keys as as
  cases order : compareKeys keys as as with
  | lt => rw [order] at same; cases same
  | eq => rfl
  | gt => rw [order] at same; cases same

/-- The order of lists with something for each key is transitive: at the first key that tells one of
them from the next, the values are in order too. -/
theorem compareKeys_isLE_trans {keys : List SortKey} {as bs cs : List (Option Key)}
    (ha : as.length = keys.length) (hb : bs.length = keys.length) (hc : cs.length = keys.length)
    (hab : (compareKeys keys as bs).isLE) (hbc : (compareKeys keys bs cs).isLE) :
    (compareKeys keys as cs).isLE := by
  induction keys generalizing as bs cs with
  | nil => rfl
  | cons k keys ih =>
    obtain ⟨a, as, rfl⟩ := List.exists_cons_of_length_eq_add_one ha
    obtain ⟨b, bs, rfl⟩ := List.exists_cons_of_length_eq_add_one hb
    obtain ⟨c, cs, rfl⟩ := List.exists_cons_of_length_eq_add_one hc
    simp only [List.length_cons, Nat.add_right_cancel_iff] at ha hb hc
    simp only [compareKeys, Ordering.isLE_then_iff_or] at hab hbc ⊢
    rcases hab with less | ⟨tie, hab⟩
    · rcases hbc with less' | ⟨tie', -⟩
      · exact .inl (Std.TransCmp.lt_trans less less')
      · exact .inl (Std.TransCmp.lt_of_lt_of_eq less tie')
    · rcases hbc with less' | ⟨tie', hbc⟩
      · exact .inl (Std.TransCmp.lt_of_eq_of_lt tie less')
      · exact .inr ⟨Std.TransCmp.eq_trans tie tie', ih ha hb hc hab hbc⟩

private theorem compareKeys_append {before : List SortKey} {as bs : List (Option Key)}
    (ha : as.length = before.length) (hb : bs.length = before.length) (after : List SortKey)
    (as' bs' : List (Option Key)) :
    compareKeys (before ++ after) (as ++ as') (bs ++ bs') =
      (compareKeys before as bs).then (compareKeys after as' bs') := by
  induction before generalizing as bs with
  | nil =>
    rw [List.length_nil, List.length_eq_zero_iff] at ha hb
    rw [ha, hb]
    rfl
  | cons k before ih =>
    obtain ⟨a, as, rfl⟩ := List.exists_cons_of_length_eq_add_one ha
    obtain ⟨b, bs, rfl⟩ := List.exists_cons_of_length_eq_add_one hb
    simp only [List.length_cons, Nat.add_right_cancel_iff] at ha hb
    simp only [List.cons_append, compareKeys, ih ha hb, Ordering.then_assoc]

variable {keys before after : List SortKey} {a b c : Json.Value}

/-- Whether all that a record has under the sort keys can be read. -/
def Readable (keys : List SortKey) (record : Json.Value) : Prop :=
  ∃ found, keysOf keys record = .ok found

theorem keysOf_cons_iff {k : SortKey} {found : List (Option Key)} :
    keysOf (k :: keys) a = .ok found ↔ ∃ x rest, found = x :: rest ∧ k.keyOf a = .ok x ∧
      keysOf keys a = .ok rest := by
  unfold keysOf
  rw [mapM_eq_ok_iff, List.forall₂_cons_left_iff]
  simp only [mapM_eq_ok_iff]
  constructor
  · rintro ⟨x, rest, first, others, rfl⟩
    exact ⟨x, rest, rfl, first, others⟩
  · rintro ⟨x, rest, rfl, first, others⟩
    exact ⟨x, rest, first, others, rfl⟩

private theorem keysOf_append {as as' : List (Option Key)} (first : keysOf before a = .ok as)
    (rest : keysOf after a = .ok as') :
    keysOf (before ++ after) a = .ok (as ++ as') := by
  unfold keysOf at first rest ⊢
  rw [List.mapM_append, first, rest]
  rfl

theorem length_keysOf {found : List (Option Key)} (read : keysOf keys a = .ok found) :
    found.length = keys.length :=
  (mapM_eq_ok_iff.1 read).length_eq.symm

private theorem readable_iff : Readable keys a ↔ ∀ k ∈ keys, ∃ x, k.keyOf a = .ok x := by
  constructor
  · rintro ⟨found, read⟩
    exact exists_of_mapM_ok read
  · exact exists_mapM_ok

theorem compareRecords_eq {as bs : List (Option Key)} (ha : keysOf keys a = .ok as)
    (hb : keysOf keys b = .ok bs) :
    compareRecords keys a b = .ok (compareKeys keys as bs) := by
  unfold compareRecords
  rw [ha, hb]
  rfl

theorem compareRecords_eq_ok {order : Ordering} (compared : compareRecords keys a b = .ok order) :
    ∃ as bs, keysOf keys a = .ok as ∧ keysOf keys b = .ok bs ∧ compareKeys keys as bs = order := by
  unfold compareRecords at compared
  obtain ⟨as, ha, compared⟩ := bind_eq_ok_iff.1 compared
  obtain ⟨bs, hb, compared⟩ := bind_eq_ok_iff.1 compared
  exact ⟨as, bs, ha, hb, Except.ok.inj compared⟩

theorem compareRecords_self (ha : Readable keys a) : compareRecords keys a a = .ok .eq := by
  obtain ⟨as, read⟩ := ha
  rw [compareRecords_eq read read, compareKeys_self]

theorem compareRecords_swap {order : Ordering} (compared : compareRecords keys a b = .ok order) :
    compareRecords keys b a = .ok order.swap := by
  obtain ⟨as, bs, ha, hb, rfl⟩ := compareRecords_eq_ok compared
  rw [compareRecords_eq hb ha, compareKeys_swap keys bs as]

theorem compareRecords_trans {order order' : Ordering} (hab : compareRecords keys a b = .ok order)
    (first : order ≠ .gt) (hbc : compareRecords keys b c = .ok order') (second : order' ≠ .gt) :
    ∃ whole, compareRecords keys a c = .ok whole ∧ whole ≠ .gt := by
  obtain ⟨as, bs, ha, hb, rfl⟩ := compareRecords_eq_ok hab
  obtain ⟨bs', cs, hb', hc, rfl⟩ := compareRecords_eq_ok hbc
  obtain rfl : bs = bs' := Except.ok.inj (hb.symm.trans hb')
  refine ⟨_, compareRecords_eq ha hc, Ordering.isLE_iff_ne_gt.1 ?_⟩
  exact compareKeys_isLE_trans (length_keysOf ha) (length_keysOf hb) (length_keysOf hc)
    (Ordering.isLE_iff_ne_gt.2 first) (Ordering.isLE_iff_ne_gt.2 second)

private theorem compareKeys_of_ties (ties : ∀ k ∈ before, compareRecords [k] a b = .ok .eq) :
    ∃ as bs, keysOf before a = .ok as ∧ keysOf before b = .ok bs ∧
      compareKeys before as bs = .eq := by
  induction before with
  | nil => exact ⟨[], [], rfl, rfl, rfl⟩
  | cons k before ih =>
    obtain ⟨tie, others⟩ := List.forall_mem_cons.1 ties
    obtain ⟨as, bs, ha, hb, tied⟩ := ih others
    obtain ⟨_, _, ha', hb', tie⟩ := compareRecords_eq_ok tie
    obtain ⟨x, _, rfl, hx, nothing⟩ := keysOf_cons_iff.1 ha'
    obtain ⟨y, _, rfl, hy, nothing'⟩ := keysOf_cons_iff.1 hb'
    obtain rfl := Except.ok.inj nothing
    obtain rfl := Except.ok.inj nothing'
    refine ⟨x :: as, y :: bs, keysOf_cons_iff.2 ⟨x, as, rfl, hx, ha⟩,
      keysOf_cons_iff.2 ⟨y, bs, rfl, hy, hb⟩, ?_⟩
    simp only [compareKeys, Ordering.then_eq] at tie
    rw [compareKeys, tie, tied, Ordering.then_eq]

theorem compareRecords_missing {key : SortKey} {x : Key} (ha : Readable (before ++ key :: after) a)
    (hb : Readable (before ++ key :: after) b)
    (ties : ∀ k ∈ before, compareRecords [k] a b = .ok .eq) (present : key.keyOf a = .ok (some x))
    (missing : key.keyOf b = .ok none) :
    compareRecords (before ++ key :: after) a b = .ok .lt := by
  have rest : ∀ {r}, Readable (before ++ key :: after) r → Readable after r := by
    intro r read
    rw [readable_iff] at read ⊢
    exact fun k member => read k (by simp [member])
  obtain ⟨as, bs, firsta, firstb, tied⟩ := compareKeys_of_ties ties
  obtain ⟨as', lasta⟩ := rest ha
  obtain ⟨bs', lastb⟩ := rest hb
  have wholea : keysOf (before ++ key :: after) a = .ok (as ++ some x :: as') :=
    keysOf_append firsta (keysOf_cons_iff.2 ⟨_, _, rfl, present, lasta⟩)
  have wholeb : keysOf (before ++ key :: after) b = .ok (bs ++ none :: bs') :=
    keysOf_append firstb (keysOf_cons_iff.2 ⟨_, _, rfl, missing, lastb⟩)
  rw [compareRecords_eq wholea wholeb,
    compareKeys_append (length_keysOf firsta) (length_keysOf firstb), tied]
  rfl

end FilterQuery.Memory.Order
