import FilterQuery.Proofs.Memory.SortOrder

set_option autoImplicit false
set_option relaxedAutoImplicit false

/-!
Sorting records. Where all records can be read, sorting rearranges them into their order and leaves
those that tie in the order they had; where one cannot, sorting fails and moves nothing.
-/

namespace FilterQuery.Memory.Order

/-- Of items that are in order with one another, a merge sort does not change the order. -/
theorem filter_mergeSort {α : Type} (le : α → α → Bool)
    (trans : ∀ a b c, le a b = true → le b c = true → le a c = true)
    (total : ∀ a b, (le a b || le b a) = true) {p : α → Bool}
    (tied : ∀ a b, p a = true → p b = true → le a b = true) (items : List α) :
    (items.mergeSort le).filter p = items.filter p := by
  have inOrder : (items.filter p).Pairwise fun a b => le a b = true := by
    refine List.Pairwise.imp_of_mem ?_ (List.pairwise_of_forall fun _ _ => trivial)
    intro a b ha hb _
    exact tied a b (List.mem_filter.1 ha).2 (List.mem_filter.1 hb).2
  have kept : List.Sublist (items.filter p) (items.mergeSort le) :=
    List.sublist_mergeSort trans total inOrder List.filter_sublist
  have inside : List.Sublist (items.filter p) ((items.mergeSort le).filter p) := by
    have filtered := kept.filter p
    rw [List.filter_filter] at filtered
    simpa only [Bool.and_self] using filtered
  have size : ((items.mergeSort le).filter p).length = (items.filter p).length :=
    ((List.mergeSort_perm items le).filter p).length_eq
  exact (inside.eq_of_length size.symm).symm

variable {keys : List SortKey} {a b c : Json.Value}

def valuesOf (keys : List SortKey) (record : Json.Value) : List (Option Key) :=
  match keysOf keys record with
  | .ok found => found
  | .error _ => keys.map fun _ => none

private theorem length_valuesOf (keys : List SortKey) (record : Json.Value) :
    (valuesOf keys record).length = keys.length := by
  unfold valuesOf
  split
  · next read => exact length_keysOf read
  · exact List.length_map _

private theorem keysOf_eq_valuesOf (ha : Readable keys a) :
    keysOf keys a = .ok (valuesOf keys a) := by
  obtain ⟨found, read⟩ := ha
  unfold valuesOf
  rw [read]

def mayPrecede (keys : List SortKey) (a b : Json.Value) : Bool :=
  compareKeys keys (valuesOf keys a) (valuesOf keys b) != .gt

private theorem mayPrecede_iff :
    mayPrecede keys a b = true ↔ (compareKeys keys (valuesOf keys a) (valuesOf keys b)).isLE := by
  rw [Ordering.isLE_iff_ne_gt]
  exact bne_iff_ne

private theorem mayPrecede_trans (keys : List SortKey) (a b c : Json.Value)
    (hab : mayPrecede keys a b = true) (hbc : mayPrecede keys b c = true) :
    mayPrecede keys a c = true := by
  rw [mayPrecede_iff] at hab hbc ⊢
  exact compareKeys_isLE_trans (length_valuesOf keys a) (length_valuesOf keys b)
    (length_valuesOf keys c) hab hbc

private theorem mayPrecede_total (keys : List SortKey) (a b : Json.Value) :
    (mayPrecede keys a b || mayPrecede keys b a) = true := by
  rw [Bool.or_eq_true, mayPrecede_iff, mayPrecede_iff,
    compareKeys_swap keys (valuesOf keys b) (valuesOf keys a)]
  cases compareKeys keys (valuesOf keys a) (valuesOf keys b) <;> simp

variable {α : Type} {record : α → Json.Value} {items : List α}

private theorem sortHeld_of_readable (read : ∀ item ∈ items, Readable keys (record item)) :
    sortHeld keys record items = (.ok (), items.mergeSort fun a b =>
      mayPrecede keys (record a) (record b)) := by
  unfold sortHeld
  cases keys with
  | nil =>
    have unmoved : (items.mergeSort fun a b => mayPrecede [] (record a) (record b)) = items :=
      List.mergeSort_of_pairwise (List.pairwise_of_forall fun _ _ => rfl)
    rw [unmoved]
    rfl
  | cons k keys =>
    have keyed : (items.mapM fun item => do return (← keysOf (k :: keys) (record item), item)) =
        (.ok (items.map fun item => (valuesOf (k :: keys) (record item), item)) :
          Except Error _) := by
      refine mapM_eq_ok_map fun item member => ?_
      rw [keysOf_eq_valuesOf (read item member)]
      rfl
    simp only [List.isEmpty_cons, Bool.false_eq_true, if_false, keyed]
    have themselves : (items.map fun item => (valuesOf (k :: keys) (record item), item)).map
        (·.2) = items := by
      rw [List.map_map]
      exact List.map_id items
    rw [List.map_mergeSort (s := fun a b => mayPrecede (k :: keys) (record a) (record b)),
      themselves]
    · intro a ha b hb
      obtain ⟨item, _, rfl⟩ := List.mem_map.1 ha
      obtain ⟨other, _, rfl⟩ := List.mem_map.1 hb
      rfl

private theorem sortHeld_of_unreadable (unread : ∃ item ∈ items, ¬Readable keys (record item)) :
    ∃ item ∈ items, ∃ e, keysOf keys (record item) = .error e ∧
      sortHeld keys record items = (.error e, items) := by
  obtain ⟨broken, member, unread⟩ := unread
  have some : keys.isEmpty = false := by
    cases keys with
    | nil => exact absurd ⟨[], rfl⟩ unread
    | cons k keys => rfl
  unfold sortHeld
  cases keyed : (items.mapM fun item => do return (← keysOf keys (record item),
    item) : Except Error _) with
  | ok found =>
    obtain ⟨pair, here⟩ := exists_of_mapM_ok keyed broken member
    obtain ⟨values, read, -⟩ := bind_eq_ok_iff.1 here
    exact absurd ⟨values, read⟩ unread
  | error e =>
    obtain ⟨item, inside, failed⟩ := exists_of_mapM_error keyed
    refine ⟨item, inside, e, ?_, by simp only [some, Bool.false_eq_true, if_false]⟩
    cases read : keysOf keys (record item) with
    | ok values => rw [read] at failed; cases failed
    | error e' =>
      rw [read] at failed
      cases failed
      rfl

def ties (keys : List SortKey) (a b : Json.Value) : Bool :=
  match compareRecords keys a b with
  | .ok .eq => true
  | _ => false

private theorem ties_iff : ties keys a b = true ↔ compareRecords keys a b = .ok .eq := by
  unfold ties
  split
  · next compared => simp [compared]
  · next different => simpa using different

/-- The laws of the order of records: a total preorder on those that can be read, in which a missing
value comes last. -/
structure Lawful (keys : List SortKey) : Prop where
  compares : ∀ {a b}, Readable keys a → Readable keys b →
    ∃ order, compareRecords keys a b = .ok order
  self : ∀ {a}, Readable keys a → compareRecords keys a a = .ok .eq
  reverse : ∀ {a b order}, compareRecords keys a b = .ok order →
    compareRecords keys b a = .ok order.swap
  trans : ∀ {a b c order order'}, compareRecords keys a b = .ok order → order ≠ .gt →
    compareRecords keys b c = .ok order' → order' ≠ .gt →
      ∃ whole, compareRecords keys a c = .ok whole ∧ whole ≠ .gt
  missing_last : ∀ {a b before key after x}, keys = before ++ key :: after → Readable keys a →
    Readable keys b →
    (∀ k ∈ before, compareRecords [k] a b = .ok .eq) → key.keyOf a = .ok (some x) →
      key.keyOf b = .ok none →
      compareRecords keys a b = .ok .lt

/-- A list rearranged into the order of its records, where those that tie with any one record keep
their order. -/
structure StablySorted {α : Type} (keys : List SortKey) (record : α → Json.Value)
    (items sorted : List α) : Prop where
  perm : sorted.Perm items
  ordered : sorted.Pairwise fun a b => ∃ order,
    compareRecords keys (record a) (record b) = .ok order ∧ order ≠ .gt
  stable : ∀ one, sorted.filter (fun item => ties keys one (record item)) =
    items.filter fun item => ties keys one (record item)

private theorem lawful (keys : List SortKey) : Lawful keys where
  compares := by
    rintro a b ⟨as, ha⟩ ⟨bs, hb⟩
    exact ⟨_, compareRecords_eq ha hb⟩
  self := compareRecords_self
  reverse := compareRecords_swap
  trans := compareRecords_trans
  missing_last := by
    rintro a b before key after x rfl
    exact compareRecords_missing

private theorem stablySorted_mergeSort (read : ∀ item ∈ items, Readable keys (record item)) :
    StablySorted keys record items (items.mergeSort fun a b =>
      mayPrecede keys (record a) (record b)) where
  perm := List.mergeSort_perm items _
  ordered := by
    have sorted : (items.mergeSort fun a b => mayPrecede keys (record a) (record b)).Pairwise
        fun a b => mayPrecede keys (record a) (record b) = true :=
      List.pairwise_mergeSort (fun a b c => mayPrecede_trans keys (record a) (record b) (record c))
        (fun a b => mayPrecede_total keys (record a) (record b)) items
    refine sorted.imp_of_mem fun {a b} ha hb precedes => ?_
    have reada := keysOf_eq_valuesOf (read a (List.mem_mergeSort.1 ha))
    have readb := keysOf_eq_valuesOf (read b (List.mem_mergeSort.1 hb))
    exact ⟨_, compareRecords_eq reada readb, Ordering.isLE_iff_ne_gt.1 (mayPrecede_iff.1 precedes)⟩
  stable := by
    intro one
    refine filter_mergeSort _ (fun a b c => mayPrecede_trans keys (record a) (record b) (record c))
      (fun a b => mayPrecede_total keys (record a) (record b)) ?_ items
    intro a b ha hb
    obtain ⟨values, as, hone, ha, tie⟩ := compareRecords_eq_ok (ties_iff.1 ha)
    obtain ⟨values', bs, hone', hb, tie'⟩ := compareRecords_eq_ok (ties_iff.1 hb)
    obtain rfl : values = values' := Except.ok.inj (hone.symm.trans hone')
    rw [mayPrecede_iff]
    unfold valuesOf
    rw [ha, hb]
    refine compareKeys_isLE_trans (length_keysOf ha) (length_keysOf hone) (length_keysOf hb) ?_ ?_
    · rw [compareKeys_swap, tie]
      rfl
    · rw [tie']
      rfl

theorem sort_of_readable (read : ∀ item ∈ items, Readable keys (record item)) :
    sort keys record items = .ok (items.mergeSort fun a b =>
      mayPrecede keys (record a) (record b)) := by
  unfold sort
  rw [sortHeld_of_readable read]
  rfl

theorem stablySorted_of_sort {sorted : List α} (made : sort keys record items = .ok sorted) :
    StablySorted keys record items sorted := by
  by_cases read : ∀ item ∈ items, Readable keys (record item)
  · rw [sort_of_readable read] at made
    rw [← Except.ok.inj made]
    exact stablySorted_mergeSort read
  · push Not at read
    obtain ⟨_, _, e, _, failed⟩ := sortHeld_of_unreadable read
    unfold sort at made
    rw [failed] at made
    cases made

/-- The order of records under sort keys is a total preorder on the records that can be read, in
which a missing value comes last in either direction. Sorting a list of such records in place
rearranges it into that order and keeps the order of those that tie. Where a record cannot be read,
sorting fails as reading it does and moves nothing. -/
theorem sorts_stably_or_fails (keys : List SortKey) :
    Lawful keys ∧ ∀ {α : Type} (record : α → Json.Value) (items : List α),
      ((∀ item ∈ items, Readable keys (record item)) →
        ∃ sorted, sortHeld keys record items = (.ok (), sorted) ∧
          StablySorted keys record items sorted) ∧
      ((∃ item ∈ items, ¬Readable keys (record item)) →
        ∃ item ∈ items, ∃ e, keysOf keys (record item) = .error e ∧
          sortHeld keys record items = (.error e, items)) := by
  refine ⟨lawful keys, fun {α} record items => ⟨?_, sortHeld_of_unreadable⟩⟩
  intro read
  exact ⟨_, sortHeld_of_readable read, stablySorted_mergeSort read⟩

def mostViewed : List SortKey :=
  [⟨⟨"views", [.field "views"], .integer, false⟩, true, false⟩,
    ⟨⟨"details.place", [.field "details", .key "place" true], .text, false⟩, false, false⟩]

/-- Views that are a number, a text or a truth value, and a record without any. -/
def mixedViews : List Json.Value :=
  [.object [("details", .text "\x7b\"place\": 1\x7d")], .object [("views", .integer 3)],
    .object [("views", .text "many")], .object [("views", .boolean true)]]

/-- Records with details that are no document cannot be read. -/
def brokenDetails : List Json.Value :=
  [.object [("views", .integer 3)], .object [("details", .text "[")]]

/-- Views of several types are sorted, a record without views comes last, and broken details keep a
list from being sorted. -/
theorem mixed_views_sorted :
    (∃ sorted, sortHeld mostViewed id mixedViews = (.ok (), sorted) ∧
      StablySorted mostViewed id mixedViews sorted) ∧
      compareRecords mostViewed (.object [("views", .boolean false)]) (.object []) = .ok .lt ∧
      ∃ e, sortHeld mostViewed id brokenDetails = (.error e, brokenDetails) := by
  obtain ⟨laws, sorts⟩ := sorts_stably_or_fails mostViewed
  refine ⟨(sorts id mixedViews).1 ?_, ?_, ?_⟩
  · unfold mixedViews
    simp only [List.forall_mem_cons]
    exact ⟨⟨_, rfl⟩, ⟨_, rfl⟩, ⟨_, rfl⟩, ⟨_, rfl⟩, nofun⟩
  · have first : mostViewed = [] ++ mostViewed := rfl
    exact laws.missing_last first ⟨_, rfl⟩ ⟨_, rfl⟩ nofun rfl rfl
  · have unread : ¬Readable mostViewed (.object [("details", .text "[")]) := by
      rintro ⟨found, read⟩
      cases read
    obtain ⟨_, _, e, _, unmoved⟩ := (sorts id brokenDetails).2 ⟨_, by simp [brokenDetails], unread⟩
    exact ⟨e, unmoved⟩

end FilterQuery.Memory.Order
