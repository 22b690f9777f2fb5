import FilterQuery.Proofs.Memory.Expansion
import FilterQuery.Proofs.Memory.Node
import FilterQuery.Proofs.Path.Rows

set_option autoImplicit false
set_option relaxedAutoImplicit false

/-!
Records that hold rows. A record that mirrors a row along a route has the values in its parts that
stand in the columns at the end of the route: each value of the route in the record is that of some
row there, and each such row has its value.
-/

namespace FilterQuery.Memory

open FilterQuery.Memory.Path
open FilterQuery.Scalar (Coercion Kind)
open FilterQuery.Sql (Database Engine Row keysMeet)

/-- A value in a record that stands for one in a column: it has the text that the database casts the
other to, and is coerced back to it. A missing value stands for null. -/
def Stands (engine : Engine) (coerce : Coercion) (kind : Kind) :
    Option Scalar.Value → Option Json.Value → Prop
  | some c, some v => textOf v = engine.text c ∧ coerce (textOf v) kind = some c
  | none, none => True
  | _, _ => False

/-- A record that mirrors a row along a way to an attribute: it holds the attribute under its name,
over a relation to one the object that mirrors the row there, or null where there is none, and over
a relation to many a list of objects that mirror all the rows there, in any order. Over a relation
to one there is at most one row. -/
def Mirrors (engine : Engine) (coerce : Coercion) (db : Database) (ending : Attribute) :
    List Leg → Row → Json.Value → Prop
  | [], row, record =>
    Stands engine coerce ending.kind (row ending.columnName) (partOf record ending.name)
  | leg :: legs, row, record =>
    if leg.link.collection then
      ∃ items rows, record.member? leg.link.name = some (.list items) ∧
        rows.Perm (leg.matching db row) ∧
        List.Forall₂ (fun next item => (∃ members, item = .object members) ∧
          Mirrors engine coerce db ending legs next item) rows items
    else
      match leg.matching db row with
      | [] => partOf record leg.link.name = none
      | [next] => ∃ members, record.member? leg.link.name = some (.object members) ∧
          Mirrors engine coerce db ending legs next (.object members)
      | _ :: _ :: _ => False

def recordsAlong : List Leg → Option Json.Value → List (Option Json.Value)
  | [], v => [v]
  | leg :: legs, v => ((v.map (related · leg.link.name)).getD [none]).flatMap (recordsAlong legs)

def valuesAlong (legs : List Leg) (ending : Attribute) (record : Json.Value) :
    List (Option Json.Value) :=
  (recordsAlong legs (some record)).map fun v => v.bind (partOf · ending.name)

private theorem expand_relations {path : String} {steps : List Step}
    {next : Option Json.Value → List (Option Json.Value)}
    (each : ∀ v, expand path steps v = .ok (next v)) (legs : List Leg) (v : Option Json.Value) :
    expand path (legs.map (Step.relation ·.link.name) ++ steps) v =
      .ok ((recordsAlong legs v).flatMap next) := by
  induction legs generalizing v with
  | nil => simpa [recordsAlong] using each v
  | cons leg legs ih =>
    have first : (Step.relation leg.link.name).reach path v =
        .ok ((v.map (related · leg.link.name)).getD [none]) := by
      cases v with
      | none => rfl
      | some v => exact reach_relation path leg.link.name v
    rw [List.map_cons, List.cons_append, expand_cons, first, recordsAlong, List.flatMap_assoc]
    exact spread_eq_ok fun w _ => ih w

theorem values_eq {route : Route} (plain : route.keys = []) (path : String) (record : Json.Value) :
    (route.accessor path).values record = .ok (valuesAlong route.legs route.ending record) := by
  have steps : (route.accessor path).steps = route.legs.map (Step.relation ·.link.name) ++
      [.field route.ending.name] := by
    change route.legs.map _ ++ .field route.ending.name :: Route.keySteps route.keys = _
    rw [plain]
    rfl
  have last : ∀ v, expand path [.field route.ending.name] v =
      .ok [v.bind (partOf · route.ending.name)] := by
    intro v
    cases v <;> rfl
  rw [Accessor.values_eq_expand, steps]
  refine (expand_relations last route.legs (some record)).trans ?_
  rw [valuesAlong, List.map_eq_flatMap]

def Cover {α β : Type} (R : α → β → Prop) (xs : List α) (ys : List β) : Prop :=
  (∀ x ∈ xs, ∃ y ∈ ys, R x y) ∧ ∀ y ∈ ys, ∃ x ∈ xs, R x y

section Cover

variable {α β γ δ : Type} {R : α → β → Prop} {S : γ → δ → Prop}

private theorem Cover.singleton {x : α} {y : β} (related : R x y) : Cover R [x] [y] := by
  constructor
  · intro x' member
    exact ⟨y, by simp, by rwa [List.mem_singleton.1 member]⟩
  · intro y' member
    exact ⟨x, by simp, by rwa [List.mem_singleton.1 member]⟩

theorem Cover.flatMap {xs : List α} {ys : List β} {f : α → List γ} {g : β → List δ}
    (cover : Cover R xs ys) (each : ∀ x y, R x y → Cover S (f x) (g y)) :
    Cover S (xs.flatMap f) (ys.flatMap g) := by
  constructor
  · intro a member
    obtain ⟨x, hx, ha⟩ := List.mem_flatMap.1 member
    obtain ⟨y, hy, related⟩ := cover.1 x hx
    obtain ⟨b, hb, hab⟩ := (each x y related).1 a ha
    exact ⟨b, List.mem_flatMap.2 ⟨y, hy, hb⟩, hab⟩
  · intro b member
    obtain ⟨y, hy, hb⟩ := List.mem_flatMap.1 member
    obtain ⟨x, hx, related⟩ := cover.2 y hy
    obtain ⟨a, ha, hab⟩ := (each x y related).2 b hb
    exact ⟨a, List.mem_flatMap.2 ⟨x, hx, ha⟩, hab⟩

private theorem cover_of_forall₂ {xs : List α} {ys : List β} (pairs : List.Forall₂ R xs ys) :
    Cover R xs ys := by
  induction pairs with
  | nil => exact ⟨nofun, nofun⟩
  | @cons x y xs ys head tail ih =>
    constructor
    · intro a member
      rcases List.mem_cons.1 member with rfl | member
      · exact ⟨y, by simp, head⟩
      · obtain ⟨b, hb, related⟩ := ih.1 a member
        exact ⟨b, List.mem_cons_of_mem y hb, related⟩
    · intro b member
      rcases List.mem_cons.1 member with rfl | member
      · exact ⟨x, by simp, head⟩
      · obtain ⟨a, ha, related⟩ := ih.2 b member
        exact ⟨a, List.mem_cons_of_mem x ha, related⟩

end Cover

variable {engine : Engine} {coerce : Coercion} {db : Database} {ending : Attribute}

def MirrorsOption (engine : Engine) (coerce : Coercion) (db : Database) (ending : Attribute)
    (legs : List Leg) (row : Row) : Option Json.Value → Prop
  | some record => Mirrors engine coerce db ending legs row record
  | none => row = Row.null

private theorem cover_related {leg : Leg} {legs : List Leg} {row : Row} {record : Json.Value}
    (mirrors : Mirrors engine coerce db ending (leg :: legs) row record) :
    Cover (MirrorsOption engine coerce db ending legs) (leg.rows db row)
      (related record leg.link.name) := by
  rw [Mirrors] at mirrors
  split at mirrors
  · obtain ⟨items, rows, found, perm, pairs⟩ := mirrors
    have part : partOf record leg.link.name = some (.list items) := by
      unfold partOf
      rw [found]
      rfl
    cases items with
    | nil =>
      cases pairs
      rw [Leg.rows_of_unmatched (List.nil_perm.1 perm)]
      have missing : related record leg.link.name = [none] := by
        unfold related
        rw [part]
      rw [missing]
      exact Cover.singleton rfl
    | cons item items =>
      have nonempty : leg.matching db row ≠ [] := by
        intro empty
        rw [empty] at perm
        rw [List.perm_nil.1 perm] at pairs
        cases pairs
      have listed : related record leg.link.name = (item :: items).map present := by
        unfold related
        rw [part]
      rw [Leg.rows_of_matching nonempty, listed]
      have whole : List.Forall₂ (MirrorsOption engine coerce db ending legs) rows
          ((item :: items).map present) := by
        rw [List.forall₂_map_right_iff]
        refine pairs.imp ?_
        rintro next item ⟨⟨members, rfl⟩, inside⟩
        exact inside
      have covered := cover_of_forall₂ whole
      constructor
      · intro next member
        exact covered.1 next (perm.mem_iff.2 member)
      · intro v member
        obtain ⟨next, inside, mirrored⟩ := covered.2 v member
        exact ⟨next, perm.mem_iff.1 inside, mirrored⟩
  · split at mirrors
    · rename_i empty
      rw [Leg.rows_of_unmatched empty]
      have missing : related record leg.link.name = [none] := by
        unfold related
        rw [mirrors]
      rw [missing]
      exact Cover.singleton rfl
    · rename_i next only
      obtain ⟨members, found, inside⟩ := mirrors
      have single : related record leg.link.name = [some (.object members)] := by
        unfold related partOf
        rw [found]
        rfl
      rw [Leg.rows_of_matching (by rw [only]; simp), only, single]
      exact Cover.singleton inside
    · exact mirrors.elim

private theorem recordsAlong_none (legs : List Leg) : recordsAlong legs none = [none] := by
  induction legs with
  | nil => rfl
  | cons leg legs ih => simp [recordsAlong, ih]

/-- At the end of a way, the records mirror the rows. -/
theorem cover_recordsAlong (legs : List Leg) {row : Row} {record : Option Json.Value}
    (mirrors : MirrorsOption engine coerce db ending legs row record) :
    Cover (MirrorsOption engine coerce db ending []) (Leg.rowsAlong db legs row)
      (recordsAlong legs record) := by
  induction legs generalizing row record with
  | nil => exact Cover.singleton mirrors
  | cons leg legs ih =>
    cases record with
    | none =>
      have null : row = Row.null := mirrors
      rw [null, Leg.rowsAlong_null, recordsAlong_none]
      exact Cover.singleton rfl
    | some record =>
      rw [Leg.rowsAlong, recordsAlong]
      exact (cover_related mirrors).flatMap fun _ _ => ih

theorem cover_valuesAlong {legs : List Leg} {row : Row} {record : Json.Value}
    (mirrors : Mirrors engine coerce db ending legs row record) :
    Cover (fun last v => Stands engine coerce ending.kind (last ending.columnName) v)
      (Leg.rowsAlong db legs row)
      (valuesAlong legs ending record) := by
  have whole : MirrorsOption engine coerce db ending legs row (some record) := mirrors
  have covered := cover_recordsAlong legs whole
  have stands : ∀ last v, MirrorsOption engine coerce db ending [] last v →
      Stands engine coerce ending.kind (last ending.columnName)
        (v.bind (partOf · ending.name)) := by
    intro last v mirrored
    cases v with
    | none =>
      have null : last = Row.null := mirrored
      rw [null]
      trivial
    | some v => exact mirrored
  constructor
  · intro last member
    obtain ⟨v, inside, mirrored⟩ := covered.1 last member
    exact ⟨_, List.mem_map.2 ⟨v, inside, rfl⟩, stands last v mirrored⟩
  · intro v member
    obtain ⟨found, inside, rfl⟩ := List.mem_map.1 member
    obtain ⟨last, hlast, mirrored⟩ := covered.2 found inside
    exact ⟨last, hlast, stands last found mirrored⟩

theorem rowsAlong_of_mirrors {legs : List Leg} {way : List Leg} (start : way <+: legs)
    (toOne : ∀ leg ∈ way, leg.link.collection = false) {row : Row} {record : Json.Value}
    (mirrors : Mirrors engine coerce db ending legs row record) :
    ∃ last, Leg.rowsAlong db way row = [last] := by
  induction way generalizing legs row record with
  | nil => exact ⟨row, rfl⟩
  | cons leg way ih =>
    cases legs with
    | nil => exact absurd start (by simp)
    | cons next legs =>
      obtain ⟨rfl, rest⟩ := List.cons_prefix_cons.1 start
      rw [Mirrors, toOne leg (by simp)] at mirrors
      simp only [Bool.false_eq_true, if_false] at mirrors
      rw [Leg.rowsAlong]
      split at mirrors
      · rename_i empty
        rw [Leg.rows_of_unmatched empty, List.flatMap_singleton]
        exact ⟨Row.null, Leg.rowsAlong_null way⟩
      · rename_i one only
        obtain ⟨members, _, inside⟩ := mirrors
        rw [Leg.rows_of_matching (by rw [only]; simp), only, List.flatMap_singleton]
        exact ih rest (fun other member => toOne other (List.mem_cons_of_mem leg member)) inside
      · exact mirrors.elim

end FilterQuery.Memory
