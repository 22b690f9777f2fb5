import FilterQuery.Proofs.Path.Route

set_option autoImplicit false
set_option relaxedAutoImplicit false

/-!
Both ways of resolving a path follow its route. A path resolves to a column with joins exactly where
it resolves to a way into records, and both refuse it for the same reason.
-/

namespace FilterQuery

open FilterQuery.Memory.Path (Accessor Step)
open FilterQuery.Relational.Path (Target addJoin addJoins extract)
open FilterQuery.Sql (Expr Join)
open FilterQuery.Text.Split (segments)

private theorem extract_eq (path : String) (e : Expr) (keys : List String) :
    extract path e keys =
      if keys.any (·.isEmpty) then .error (.emptyKey path) else .ok (Route.textUnder e keys) := by
  induction keys generalizing e with
  | nil => rfl
  | cons key keys ih =>
    cases keys with
    | nil => simp [extract, Route.textUnder]
    | cons next keys =>
      have step : extract path e (key :: next :: keys) =
          if key.isEmpty then .error (.emptyKey path)
            else extract path (.document e key) (next :: keys) := rfl
      have first : (key :: next :: keys).any (·.isEmpty) =
        (key.isEmpty || (next :: keys).any (·.isEmpty)) := rfl
      rw [step, ih, Route.textUnder, first]
      cases key.isEmpty <;> rfl

private theorem keySteps_false_eq (path : String) (keys : List String) :
    Memory.Path.keySteps path false keys =
      if keys.any (·.isEmpty) then .error (.emptyKey path) else .ok (keys.map (.key · false)) := by
  induction keys with
  | nil => rfl
  | cons key keys ih =>
    rw [Memory.Path.keySteps, ih, List.any_cons]
    cases key.isEmpty <;> cases keys.any (·.isEmpty) <;> rfl

theorem keySteps_true_eq (path : String) (keys : List String) :
    Memory.Path.keySteps path true keys =
      if keys.any (·.isEmpty) then .error (.emptyKey path) else .ok (Route.keySteps keys) := by
  cases keys with
  | nil => rfl
  | cons key keys =>
    rw [Memory.Path.keySteps, keySteps_false_eq, List.any_cons]
    cases key.isEmpty <;> cases keys.any (·.isEmpty) <;> rfl

variable {schema : Schema} {registry : Registry}

/-- A walk to rows that starts after some legs reads the rest of the route and adds its joins. -/
theorem relational_walk_eq (path table : String) (e : Entity) (taken : List Leg) (joins : List Join)
    (rest : List String) :
    Relational.Path.walk schema registry path e (Leg.rowLabel table taken)
      (Leg.names taken) joins rest =
      match route? schema registry e rest with
      | none => .ok none
      | some route =>
        if route.keys.any (·.isEmpty) then .error (.emptyKey path)
        else .ok (some ⟨Route.expr table { route with legs := taken ++ route.legs }, route.kind,
          addJoins joins (Leg.joins table taken route.legs)⟩) := by
  induction rest generalizing e taken joins with
  | nil =>
    rw [Relational.Path.walk, route?]
    cases e.identifier? with
    | none => rfl
    | some id => simp [Route.expr, Route.textUnder, Route.kind, Leg.joins, addJoins]
  | cons segment rest ih =>
    rw [Relational.Path.walk, route?]
    cases e.attribute? segment with
    | some a =>
      cases rest with
      | nil => simp [Route.expr, Route.textUnder, Route.kind, Leg.joins, addJoins]
      | cons key keys =>
        simp only [extract_eq]
        cases a.structured with
        | false => rfl
        | true =>
          cases empty : (key :: keys).any (·.isEmpty) <;>
            simp [empty, bind, Except.bind, pure, Except.pure, Route.expr, Route.kind,
              Leg.joins, addJoins]
    | none =>
      unfold leg?
      cases registry.relation? e.name segment with
      | none => rfl
      | some link =>
        cases e.relation? segment with
        | none => rfl
        | some relation =>
          dsimp only
          cases schema.entity? link.target with
          | none => rfl
          | some next =>
            have named : Leg.names taken ++ [link.name] =
                Leg.names (taken ++ [⟨link, relation, next⟩]) := by
              simp [Leg.names]
            have labelled : Relational.Path.labelOf
                (Leg.names (taken ++ [⟨link, relation, next⟩])) =
                Leg.rowLabel table (taken ++ [⟨link, relation, next⟩]) :=
                  (Leg.rowLabel_append ..).symm
            simp only [named, labelled, ih, Option.map_some, Option.bind_some]
            cases route? schema registry next rest with
            | none => rfl
            | some route => simp [Leg.joins, Leg.join, addJoins_cons, Route.expr, Route.kind]

private theorem relational_resolve_eq (root : Entity) (path : String) :
    Relational.Path.resolve schema registry root path =
      (locate schema registry root path).map (Option.map (Route.target root.table)) := by
  have walked := @relational_walk_eq schema registry path root.table root [] []
    (segments '.' path)
  unfold Relational.Path.resolve locate
  refine walked.trans ?_
  cases route? schema registry root (segments '.' path) with
  | none => rfl
  | some route =>
    have all : addJoins [] (Leg.joins root.table [] route.legs) =
        Leg.joins root.table [] route.legs :=
      addJoins_of_new (Leg.nodup_labels root.table [] route.legs)
    simp only [List.nil_append, all]
    cases route.keys.any (·.isEmpty) <;> rfl

/-- A walk into records goes the way of the route; that the entity knows the relation itself need
not be asked. -/
theorem memory_walk_eq (origin : Registry.FromSchema schema registry.entities) (path : String)
    (e : Entity) (own : schema.entity? e.name = some e) (steps : List Step) (many : Bool)
    (rest : List String) :
    Memory.Path.walk schema registry path e steps many rest =
      match route? schema registry e rest with
      | none => .ok none
      | some route =>
        if route.keys.any (·.isEmpty) then .error (.emptyKey path)
        else .ok (some ⟨path, steps ++ route.steps, route.kind, many || route.many⟩) := by
  induction rest generalizing e steps many with
  | nil =>
    rw [Memory.Path.walk, route?]
    cases e.identifier? with
    | none => rfl
    | some id => simp [Route.steps, Route.keySteps, Route.kind, Route.many]
  | cons segment rest ih =>
    rw [Memory.Path.walk, route?]
    cases e.attribute? segment with
    | some a =>
      cases rest with
      | nil => simp [Route.steps, Route.keySteps, Route.kind, Route.many]
      | cons key keys =>
        simp only [keySteps_true_eq]
        cases a.structured with
        | false => rfl
        | true =>
          cases empty : (key :: keys).any (·.isEmpty) <;>
            simp [empty, bind, Except.bind, pure, Except.pure, Route.steps, Route.kind, Route.many]
    | none =>
      unfold leg?
      cases known : registry.relation? e.name segment with
      | none => rfl
      | some link =>
        obtain ⟨r, joined, made⟩ := Registry.relation?_eq_some origin own known
        obtain ⟨relation, defined⟩ := Option.isSome_iff_exists.1 (Registry.relation?_isSome joined)
        simp only [defined]
        cases found : schema.entity? link.target with
        | none => rfl
        | some next =>
          simp only [ih next (Schema.entity?_name found), Option.map_some, Option.bind_some]
          cases route? schema registry next rest with
          | none => rfl
          | some route => simp [Route.steps, Route.kind, Route.many, Bool.or_assoc]

private theorem memory_resolve_eq (origin : Registry.FromSchema schema registry.entities)
    {root : Entity} (own : schema.entity? root.name = some root) (path : String) :
    Memory.Path.resolve schema registry root path =
      (locate schema registry root path).map (Option.map (Route.accessor path)) := by
  unfold Memory.Path.resolve locate
  rw [memory_walk_eq origin path root own]
  cases route? schema registry root (segments '.' path) with
  | none => rfl
  | some route =>
    simp only [List.nil_append, Bool.false_or]
    cases route.keys.any (·.isEmpty) <;> rfl

/-- The route of a path from the root of a context. -/
def Context.locate (context : Context) (path : String) : Except Error (Option Route) :=
  FilterQuery.locate context.schema context.registry context.root path

variable {context : Context}

theorem Context.relational_resolve (path : String) :
    Relational.Path.resolve context.schema context.registry context.root path =
      (context.locate path).map (Option.map (Route.target context.root.table)) :=
  relational_resolve_eq context.root path

theorem Context.Built.memory_resolve (built : context.Built) (path : String) :
    Memory.accessor? context path = (context.locate path).map (Option.map (Route.accessor path)) :=
  memory_resolve_eq built.fromSchema built.root_own path

end FilterQuery
