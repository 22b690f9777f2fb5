import FilterQuery.Document
import FilterQuery.Proofs.Steps

set_option autoImplicit false
set_option relaxedAutoImplicit false

/-!
The sort keys of a query that comes from a document. A key for descending order has a hyphen put in
front of its field, and one for ascending order is the field as it is, so a key is read back as it
was meant unless the field of an ascending one begins with a hyphen itself: that hyphen is taken for
the other direction.
-/

namespace FilterQuery.Document

/-- Whether a direction of the sort option asks for descending order; `none` where it is no
direction. -/
def descending? : Json.Value → Option Bool
  | .integer 1 => some false
  | .integer (-1) => some true
  | _ => none

/-- A sort key that says what a field of the sort option says. -/
def ReadsBack (field : String × Json.Value) (key : String) : Prop :=
  (sortKey key).1 = field.1 ∧ descending? field.2 = some (sortKey key).2

/-- A field to sort by in ascending order whose name begins with a hyphen. -/
def Reversed (field : String × Json.Value) : Prop :=
  field.1.toList.head? = some '-' ∧ descending? field.2 = some false

private theorem sortKey_hyphen (name : String) : sortKey ("-" ++ name) = (name, true) := by
  have letters : ("-" ++ name).toList = '-' :: name.toList := by rw [String.toList_append]; rfl
  unfold sortKey
  rw [letters]
  simp

private theorem sortKey_of_head {name : String} (hyphen : name.toList.head? = some '-') :
    sortKey name = (String.ofList name.toList.tail, true) := by
  obtain ⟨rest, letters⟩ := List.head?_eq_some_iff.1 hyphen
  unfold sortKey
  rw [letters]
  rfl

private theorem sortKey_plain {name : String} (plain : name.toList.head? ≠ some '-') :
    sortKey name = (name, false) := by
  unfold sortKey
  split
  · rename_i rest letters
    rw [letters] at plain
    exact absurd rfl plain
  · rfl

private theorem toSortKey_eq_ok_iff {field : String × Json.Value} {key : String} :
    toSortKey field = .ok key ↔
      descending? field.2 = some false ∧ key = field.1 ∨ descending? field.2 = some true ∧
        key = "-" ++ field.1 := by
  obtain ⟨name, direction⟩ := field
  cases direction with
  | integer n =>
    by_cases up : n = 1
    · rw [up]
      simp [toSortKey, descending?, eq_comm]
    by_cases down : n = -1
    · rw [down]
      simp [toSortKey, descending?, eq_comm]
    simp [toSortKey, descending?, refuse, up, down]
  | _ => simp [toSortKey, descending?, refuse]

private theorem readsBack_iff {field : String × Json.Value} {key : String}
    (made : toSortKey field = .ok key) :
    ReadsBack field key ↔ ¬Reversed field := by
  unfold ReadsBack Reversed
  rcases toSortKey_eq_ok_iff.1 made with ⟨up, rfl⟩ | ⟨down, rfl⟩
  · by_cases hyphen : field.1.toList.head? = some '-'
    · rw [sortKey_of_head hyphen, up]
      simp [hyphen]
    · rw [sortKey_plain hyphen, up]
      simp [hyphen]
  · rw [sortKey_hyphen, down]
    simp

private theorem sortKey_of_reversed {field : String × Json.Value} {key : String}
    (made : toSortKey field = .ok key) (reversed : Reversed field) :
    sortKey key = (String.ofList field.1.toList.tail, true) := by
  obtain ⟨hyphen, up⟩ := reversed
  rcases toSortKey_eq_ok_iff.1 made with ⟨-, rfl⟩ | ⟨down, -⟩
  · exact sortKey_of_head hyphen
  · rw [up] at down
    cases down

private theorem sorts_of_toQuery {document options : Json.Value}
    {fields : List (String × Json.Value)} {query : Query}
    (made : toQuery document options = .ok query)
    (sorted : options.member? "sort" = some (.object fields)) :
    fields.mapM toSortKey = .ok query.sorts := by
  have keys : toSortKeys options = fields.mapM toSortKey := by
    unfold toSortKeys
    rw [sorted]
  cases options with
  | object members =>
    obtain ⟨filter, -, made⟩ := bind_eq_ok_iff.1 made
    obtain ⟨sorts, hsorts, made⟩ := bind_eq_ok_iff.1 made
    obtain ⟨skip, -, made⟩ := bind_eq_ok_iff.1 made
    obtain ⟨limit, -, made⟩ := bind_eq_ok_iff.1 made
    rw [← keys, hsorts, ← Except.ok.inj made]
  | _ => cases sorted

/-- The sort keys of a query say what the fields of the sort option say, in their order, exactly if
no field to sort by in ascending order begins with a hyphen. The key of such a field asks for the
field without the hyphen in descending order. -/
theorem sorts_read_back_iff {document options : Json.Value} {fields : List (String × Json.Value)}
    {query : Query} (made : toQuery document options = .ok query)
    (sorted : options.member? "sort" = some (.object fields)) :
    (List.Forall₂ ReadsBack fields query.sorts ↔ ∀ field ∈ fields, ¬Reversed field) ∧
      List.Forall₂ (fun field key => Reversed field →
        sortKey key = (String.ofList field.1.toList.tail, true)) fields
        query.sorts := by
  have keys := sorts_of_toQuery made sorted
  constructor
  · exact forall₂_iff_forall_mem (forall₂_of_mapM keys fun field _ key here => readsBack_iff here)
  · exact forall₂_of_mapM keys fun field _ key => sortKey_of_reversed

/-- Options that sort by a field whose name begins with a hyphen. -/
def hyphenated (direction : Int) : Json.Value :=
  .object [("sort", .object [("-title", .integer direction), ("id", .integer (-1))])]

/-- The field with the hyphen was meant to be sorted by in ascending order; its key asks for the
title in descending order. -/
theorem not_readsBack_hyphenated :
    ∃ query, toQuery (.object []) (hyphenated 1) = .ok query ∧
      query.sorts.map sortKey = [("title", true), ("id", true)] ∧
      ¬List.Forall₂ ReadsBack [("-title", .integer 1), ("id", .integer (-1))] query.sorts := by
  refine ⟨⟨none, [], ["-title", "-id"], none, none⟩, by rfl, by decide +kernel, ?_⟩
  intro pairs
  obtain ⟨⟨path, -⟩, -⟩ := List.forall₂_cons.1 pairs
  have read : (sortKey "-title").1 = "title" := by decide +kernel
  rw [read] at path
  exact absurd path (by decide)

/-- In descending order it gets a second hyphen, of which one is read as the direction. -/
theorem hyphenated_read_back :
    ∃ query, toQuery (.object []) (hyphenated (-1)) = .ok query ∧ query.sorts = ["--title", "-id"] ∧
      List.Forall₂ ReadsBack [("-title", .integer (-1)), ("id", .integer (-1))] query.sorts := by
  have made : toQuery (.object []) (hyphenated (-1)) = .ok ⟨none, [], ["--title", "-id"], none,
    none⟩ := by rfl
  refine ⟨_, made, rfl, (sorts_read_back_iff made rfl).1.2 ?_⟩
  intro field member
  rcases List.mem_cons.1 member with rfl | member
  · rintro ⟨-, up⟩
    cases up
  · obtain rfl := List.mem_singleton.1 member
    rintro ⟨-, up⟩
    cases up

end FilterQuery.Document
