import FilterQuery.Memory
import FilterQuery.Proofs.Registry.Origin
import FilterQuery.Relational

set_option autoImplicit false
set_option relaxedAutoImplicit false

/-!
Routes: what a dotted path names, apart from how rows or records are reached over it. A route is a
list of relations, an attribute of the entity they lead to, and keys into that attribute. Both walks
over a path read the same route off it: one turns it into joins and a column, the other into steps.
-/

namespace FilterQuery

open FilterQuery.Memory.Path (Accessor Step)
open FilterQuery.Relational.Path (Target addJoin addJoins crossesCollection labelOf)
open FilterQuery.Scalar (Kind)
open FilterQuery.Sql (Expr Join)
open FilterQuery.Text.Split (segments)

/-- One relation on the way: as the registry knows it, as its entity defines it, and the entity it
leads to. -/
structure Leg where
  link : RelationTarget
  relation : Relation
  entity : Entity
  deriving DecidableEq

/-- Relations from one entity to another, an attribute there, and keys into its document. -/
structure Route where
  legs : List Leg
  ending : Attribute
  keys : List String
  deriving DecidableEq

def leg? (schema : Schema) (registry : Registry) (e : Entity) (segment : String) : Option Leg :=
  match registry.relation? e.name segment, e.relation? segment with
  | some link, some relation =>
    (schema.entity? link.target).map fun target => ⟨link, relation, target⟩
  | _, _ => none

def route? (schema : Schema) (registry : Registry) : Entity → List String → Option Route
  | e, [] => e.identifier?.map fun id => ⟨[], id, []⟩
  | e, segment :: rest =>
    match e.attribute? segment with
    | some a => if rest.isEmpty || a.structured then some ⟨[], a, rest⟩ else none
    | none =>
      (leg? schema registry e segment).bind fun leg =>
        (route? schema registry leg.entity rest).map fun route =>
          { route with legs := leg :: route.legs }

/-- The route of a path; no key of it may be empty. -/
def locate (schema : Schema) (registry : Registry) (root : Entity) (path : String) :
    Except Error (Option Route) :=
  match route? schema registry root (segments '.' path) with
  | none => .ok none
  | some route => if route.keys.any (·.isEmpty) then .error (.emptyKey path) else .ok (some route)

theorem mem_of_mem_keys {schema : Schema} {registry : Registry} {e : Entity} {path : List String}
    {route : Route} (found : route? schema registry e path = some route) :
    ∀ key ∈ route.keys, key ∈ path := by
  induction path generalizing e route with
  | nil =>
    obtain ⟨identifier, -, rfl⟩ := Option.map_eq_some_iff.1 found
    nofun
  | cons segment rest ih =>
    intro key member
    rw [route?] at found
    split at found
    · split at found
      · cases found
        exact List.mem_cons_of_mem segment member
      · cases found
    · obtain ⟨leg, -, found⟩ := Option.bind_eq_some_iff.1 found
      obtain ⟨further, onward, rfl⟩ := Option.map_eq_some_iff.1 found
      exact List.mem_cons_of_mem segment (ih onward key member)

namespace Leg

def names (legs : List Leg) : List String :=
  legs.map (·.link.name)

/-- The label of the rows at the end of a way that starts in a table. -/
def rowLabel (table : String) (legs : List Leg) : String :=
  if legs.isEmpty then table else labelOf (names legs)

def join (table : String) (taken : List Leg) (leg : Leg) : Join where
  table := leg.entity.table
  label := rowLabel table (taken ++ [leg])
  parent := rowLabel table taken
  localColumn := leg.relation.localColumn
  foreignColumn := leg.relation.foreignColumn
  collection := leg.link.collection

/-- The joins of all legs that follow those taken. -/
def joins (table : String) : List Leg → List Leg → List Join
  | _, [] => []
  | taken, leg :: legs => join table taken leg :: joins table (taken ++ [leg]) legs

@[simp] theorem rowLabel_nil (table : String) : rowLabel table [] = table := rfl

theorem rowLabel_append (table : String) (taken : List Leg) (leg : Leg) :
    rowLabel table (taken ++ [leg]) = labelOf (names (taken ++ [leg])) := by
  cases taken <;> rfl

private theorem length_label_append {taken : List Leg} (started : taken ≠ []) (leg : Leg) :
    (labelOf (names taken)).length < (labelOf (names (taken ++ [leg]))).length := by
  have nonempty : names taken ≠ [] := by simpa [names] using started
  have grown : names (taken ++ [leg]) = names taken ++ [leg.link.name] := by simp [names]
  have two : "__".length = 2 := rfl
  unfold labelOf
  rw [grown, String.intercalate_append_of_ne_nil nonempty (by simp), String.intercalate_singleton]
  simp only [String.length_append]
  omega

private theorem length_label_of_mem_joins {table : String} {taken legs : List Leg}
    (started : taken ≠ []) {j : Join} (member : j ∈ joins table taken legs) :
    (labelOf (names taken)).length < j.label.length := by
  induction legs generalizing taken with
  | nil => cases member
  | cons leg legs ih =>
    have grown := length_label_append started leg
    rcases List.mem_cons.1 member with rfl | member
    · rw [join, rowLabel_append]
      exact grown
    · exact Nat.lt_trans grown (ih (by simp) member)

theorem nodup_labels (table : String) (taken legs : List Leg) :
    ((joins table taken legs).map (·.label)).Nodup := by
  induction legs generalizing taken with
  | nil => simp [joins]
  | cons leg legs ih =>
    rw [joins, List.map_cons, List.nodup_cons]
    refine ⟨?_, ih (taken ++ [leg])⟩
    intro repeated
    obtain ⟨j, member, same⟩ := List.mem_map.1 repeated
    have longer := length_label_of_mem_joins (by simp) member
    rw [same, join, rowLabel_append] at longer
    exact Nat.lt_irrefl _ longer

end Leg

theorem addJoins_cons (joins others : List Join) (j : Join) :
    addJoins joins (j :: others) = addJoins (addJoin joins j) others := rfl

theorem addJoin_of_new {joins : List Join} {j : Join} (new : j.label ∉ joins.map (·.label)) :
    addJoin joins j = joins ++ [j] := by
  unfold addJoin
  rw [if_neg]
  simp only [List.any_eq_true, beq_iff_eq, not_exists, not_and]
  intro other member same
  exact new (List.mem_map.2 ⟨other, member, same⟩)

theorem addJoin_of_old {joins : List Join} {j : Join} (old : j.label ∈ joins.map (·.label)) :
    addJoin joins j = joins := by
  obtain ⟨other, member, same⟩ := List.mem_map.1 old
  unfold addJoin
  rw [if_pos (List.any_eq_true.2 ⟨other, member, by simpa using same⟩)]

theorem addJoins_of_new {joins others : List Join}
    (distinct : ((joins ++ others).map (·.label)).Nodup) :
    addJoins joins others = joins ++ others := by
  induction others generalizing joins with
  | nil => simp [addJoins]
  | cons j others ih =>
    have split : joins ++ j :: others = joins ++ [j] ++ others := by simp
    rw [split] at distinct
    have new : j.label ∉ joins.map (·.label) := by
      rw [List.map_append, List.map_append, List.append_assoc] at distinct
      intro old
      exact (List.nodup_append.1 distinct).2.2 _ old _ (by simp) rfl
    rw [addJoins_cons, addJoin_of_new new, ih distinct, split]

namespace Route

def textUnder : Expr → List String → Expr
  | e, [] => e
  | e, [key] => .documentText e key
  | e, key :: next :: keys => textUnder (.document e key) (next :: keys)

def expr (table : String) (route : Route) : Expr :=
  textUnder (.column (Leg.rowLabel table route.legs) route.ending.columnName) route.keys

/-- The storage type of what a route leads to. -/
def kind (route : Route) : Kind :=
  if route.keys.isEmpty then route.ending.kind else .text

/-- What a route leads to among the rows of a table and those joined to it. -/
def target (table : String) (route : Route) : Target :=
  ⟨route.expr table, route.kind, Leg.joins table [] route.legs⟩

/-- The steps to a part of a document, which is read first if it is held as text. -/
def keySteps : List String → List Step
  | [] => []
  | key :: keys => .key key true :: keys.map (.key · false)

/-- The steps of a route through a record. -/
def steps (route : Route) : List Step :=
  route.legs.map (.relation ·.link.name) ++ .field route.ending.name :: keySteps route.keys

/-- Whether a route crosses a collection. -/
def many (route : Route) : Bool :=
  route.legs.any (·.link.collection)

def accessor (path : String) (route : Route) : Accessor :=
  ⟨path, route.steps, route.kind, route.many⟩

end Route

theorem crossesCollection_joins (table : String) (taken legs : List Leg) :
    crossesCollection (Leg.joins table taken legs) = legs.any (·.link.collection) := by
  induction legs generalizing taken with
  | nil => rfl
  | cons leg legs ih =>
    have rest := ih (taken ++ [leg])
    unfold crossesCollection at rest ⊢
    rw [Leg.joins, List.any_cons, List.any_cons, rest]
    rfl

theorem Route.crossesCollection_target (table : String) (route : Route) :
    crossesCollection (route.target table).joins = route.many :=
  crossesCollection_joins table [] route.legs

end FilterQuery
