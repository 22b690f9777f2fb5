import FilterQuery.Proofs.Path.Resolution
import FilterQuery.Proofs.Text.Ascii

set_option autoImplicit false
set_option relaxedAutoImplicit false

/-!
Ways through a schema: relations taken one after the other from an entity. Each leg of a route is a
relation of the entity where the leg before it ends. The registry and the entity look a leg up on
their own: the registry finds the last joined relation of a name, the entity the last one of all.
Both are one relation unless an external one came later.
-/

namespace FilterQuery

/-- Legs taken one after the other, each by a segment that names it where the one before ends. -/
inductive Way (schema : Schema) (registry : Registry) : Entity → List Leg → Prop
  | nil (e : Entity) : Way schema registry e []
  | cons {e : Entity} {segment : String} {leg : Leg} {legs : List Leg}
      (first : leg? schema registry e segment = some leg)
        (rest : Way schema registry leg.entity legs) :
      Way schema registry e (leg :: legs)

/-- The entity where some legs from an entity end. -/
def Leg.destination : Entity → List Leg → Entity
  | e, [] => e
  | _, leg :: legs => destination leg.entity legs

variable {schema : Schema} {registry : Registry} {e : Entity}

private theorem leg?_eq_some_iff {segment : String} {leg : Leg} :
    leg? schema registry e segment = some leg ↔
      registry.relation? e.name segment = some leg.link ∧ e.relation? segment = some leg.relation ∧
        schema.entity? leg.link.target = some leg.entity := by
  unfold leg?
  constructor
  · intro found
    split at found
    · rename_i link relation known defined
      obtain ⟨target, reached, rfl⟩ := Option.map_eq_some_iff.1 found
      exact ⟨known, defined, reached⟩
    · cases found
  · rintro ⟨known, defined, reached⟩
    rw [known, defined]
    dsimp only
    rw [reached]
    rfl

theorem leg?_congr {a b : String} (same : foldName a = foldName b) :
    leg? schema registry e a = leg? schema registry e b := by
  have known : registry.relation? e.name a = registry.relation? e.name b := by
    unfold Registry.relation? NameIndex.get?
    rw [same]
  have defined : e.relation? a = e.relation? b := by
    rw [Entity.relation?_eq, Entity.relation?_eq, same]
  unfold leg?
  rw [known, defined]

private theorem own_of_leg? {segment : String} {leg : Leg}
    (found : leg? schema registry e segment = some leg) :
    schema.entity? leg.entity.name = some leg.entity :=
  Schema.entity?_name (leg?_eq_some_iff.1 found).2.2

/-- The legs of a route are a way. -/
theorem way_of_route? {segments : List String} {route : Route}
    (found : route? schema registry e segments = some route) :
    Way schema registry e route.legs := by
  induction segments generalizing e route with
  | nil =>
    obtain ⟨id, _, rfl⟩ := Option.map_eq_some_iff.1 found
    exact .nil e
  | cons segment rest ih =>
    rw [route?] at found
    split at found
    · rename_i a _
      split at found
      · cases found
        exact .nil e
      · cases found
    · obtain ⟨leg, first, further⟩ := Option.bind_eq_some_iff.1 found
      obtain ⟨route, next, rfl⟩ := Option.map_eq_some_iff.1 further
      exact .cons first (ih next)

namespace Way

theorem of_append {p q : List Leg} (way : Way schema registry e (p ++ q)) :
    Way schema registry e p ∧ Way schema registry (Leg.destination e p) q := by
  induction p generalizing e with
  | nil => exact ⟨.nil e, way⟩
  | cons leg p ih =>
    cases way with
    | cons first rest =>
      obtain ⟨before, after⟩ := ih rest
      exact ⟨.cons first before, after⟩

theorem of_prefix {p q : List Leg} (way : Way schema registry e q) (start : p <+: q) :
    Way schema registry e p := by
  obtain ⟨rest, rfl⟩ := start
  exact way.of_append.1

theorem last_found {taken : List Leg} {leg : Leg} (way : Way schema registry e (taken ++ [leg])) :
    ∃ segment, leg? schema registry (Leg.destination e taken) segment = some leg := by
  cases way.of_append.2 with
  | cons first _ => exact ⟨_, first⟩

theorem own_destination {p : List Leg} (way : Way schema registry e p)
    (own : schema.entity? e.name = some e) :
    schema.entity? (Leg.destination e p).name = some (Leg.destination e p) := by
  induction way with
  | nil e => exact own
  | cons first _ ih => exact ih (own_of_leg? first)

end Way

/-- What a leg is made of: of the relations that its segment names, the last joined one gives its
name, target and collection flag, and the last one of all its columns. -/
structure Leg.MadeOf (schema : Schema) (e : Entity) (leg : Leg) (r : Relation) : Prop where
  joined : Registry.joined? e leg.link.name = some r
  name : leg.link.name = r.name
  collection : leg.link.collection = r.collection
  target : schema.entity? r.target = some leg.entity
  defined : e.relation? leg.link.name = some leg.relation

private theorem joined?_congr {a b : String} (same : foldName a = foldName b) :
    Registry.joined? e a = Registry.joined? e b := by
  unfold Registry.joined?
  rw [same]

theorem exists_madeOf (origin : Registry.FromSchema schema registry.entities)
    (own : schema.entity? e.name = some e) {segment : String} {leg : Leg}
    (found : leg? schema registry e segment = some leg) :
    foldName leg.link.name = foldName segment ∧ ∃ r, Leg.MadeOf schema e leg r := by
  obtain ⟨known, defined, reached⟩ := leg?_eq_some_iff.1 found
  obtain ⟨r, joined, made⟩ := Registry.relation?_eq_some origin own known
  obtain ⟨name, collection, target, targeted, spelled⟩ := Registry.targetOf_eq_ok made
  have folded : foldName leg.link.name = foldName segment := by
    rw [name]
    exact (Registry.mem_of_joined? joined).2.2
  have same : target = leg.entity := by
    rw [spelled, Schema.entity?_name targeted] at reached
    exact Option.some.inj reached
  refine ⟨folded, r, ⟨?_, name, collection, same ▸ targeted, ?_⟩⟩
  · rw [joined?_congr folded, joined]
  · rw [Entity.relation?_eq, folded, ← Entity.relation?_eq, defined]

theorem Way.eq_of_names (origin : Registry.FromSchema schema registry.entities) {p q : List Leg}
    (hp : Way schema registry e p) (hq : Way schema registry e q)
    (own : schema.entity? e.name = some e) (same : Leg.names p = Leg.names q) : p = q := by
  induction hp generalizing q with
  | nil e =>
    cases hq with
    | nil => rfl
    | cons first rest => cases same
  | cons first rest ih =>
    cases hq with
    | nil => cases same
    | cons first' rest' =>
      simp only [Leg.names, List.map_cons, List.cons.injEq] at same
      have folded := (exists_madeOf origin own first).1
      have folded' := (exists_madeOf origin own first').1
      rw [same.1, folded'] at folded
      rw [leg?_congr folded.symm, first'] at first
      cases first
      rw [ih rest' (own_of_leg? first') same.2]

private theorem getLast?_filter {α : Type} {xs : List α} {x : α} {keep : α → Bool}
    (last : xs.getLast? = some x) (kept : keep x = true) : (xs.filter keep).getLast? = some x := by
  obtain ⟨before, rfl⟩ := List.getLast?_eq_some_iff.1 last
  rw [List.filter_append, List.filter_cons_of_pos kept, List.filter_nil, List.getLast?_concat]

namespace Leg.MadeOf

variable {leg : Leg} {r : Relation}

theorem relation_eq_iff (made : Leg.MadeOf schema e leg r) :
    leg.relation = r ↔ leg.relation.external = false := by
  constructor
  · intro same
    rw [same]
    exact (Registry.mem_of_joined? made.joined).2.1
  · intro internal
    have last := made.defined
    rw [Entity.relation?_eq] at last
    have kept : ((e.relations.filter fun r => foldName r.name == foldName leg.link.name).filter
        (!·.external)).getLast? = some leg.relation := getLast?_filter last (by simp [internal])
    rw [List.filter_comm] at kept
    exact Option.some.inj (kept.symm.trans made.joined)

end Leg.MadeOf

theorem Schema.columns_ne_empty (member : e ∈ schema.entities) {r : Relation}
    (inside : r ∈ e.relations) (internal : r.external = false) :
    r.localColumn ≠ "" ∧ r.foreignColumn ≠ "" := by
  have checked := Schema.checkEntity_eq_ok member
  have identified : ¬e.identifier?.isNone = true := by
    have found := Schema.identifier?_isSome member
    cases h : e.identifier? with
    | none => simp [h] at found
    | some id => simp
  unfold checkEntity at checked
  rw [if_neg identified] at checked
  have passed := forM_eq_ok_iff.1 checked r inside
  unfold checkRelation at passed
  split at passed
  · cases passed
  · split at passed
    · cases passed
    · rename_i complete
      simpa [internal] using complete

variable {context : Context}

theorem Context.way_of_locate {path : String} {route : Route}
    (located : context.locate path = .ok (some route)) :
    Way context.schema context.registry context.root route.legs := by
  unfold Context.locate FilterQuery.locate at located
  split at located
  · cases located
  · rename_i found
    split at located
    · cases located
    · cases located
      exact way_of_route? found

end FilterQuery

namespace FilterQuery.Tree

open FilterQuery.Registry
open FilterQuery.Text.Split (segments)

/-- Nodes have a parent, children under the name of their table, a template and an owner. The
template's name looks like a label, and the owner is declared once more, as external. -/
def node : Entity :=
  ⟨"Node", "nodes", "id", [⟨"id", none, .integer, false⟩, ⟨"title", none, .text, false⟩],
    [⟨"parent", "Node", false, false, "parent_id", "id"⟩,
      ⟨"nodes", "Node", true, false, "id", "parent_id"⟩,
        ⟨"parent__parent", "Node", false, false, "template_id", "id"⟩,
          ⟨"owner", "Node", false, false, "owner_id", "id"⟩,
      ⟨"Owner", "Node", false, true, "", ""⟩]⟩

theorem foldings : foldName "Node" = "node" ∧ foldName "id" = "id" ∧ foldName "title" = "title" ∧
    foldName "parent" = "parent" ∧ foldName "nodes" = "nodes" ∧
      foldName "parent__parent" = "parent__parent" ∧
      foldName "owner" = "owner" ∧ foldName "Owner" = "owner" := by
  refine ⟨?_, ?_, ?_, ?_, ?_, ?_, ?_, ?_⟩ <;> exact Text.foldName_ascii (by decide)

private theorem findEntity?_node : findEntity? [node] "Node" = some node := by
  have name : node.name = "Node" := rfl
  unfold findEntity?
  rw [NameIndex.get?_ofList]
  simp [name]

private theorem identifier?_node : node.identifier? = some ⟨"id", none, .integer, false⟩ := by
  simp [Entity.identifier?, Entity.attribute?_eq, node, foldings]

theorem checked : checkEntities [node] = .ok () := by
  have each : ∀ r ∈ node.relations, checkRelation [node] node r = .ok () := by
    intro r member
    have target : r.target = "Node" := by
      revert r
      decide
    have complete : (!r.external && (r.localColumn.isEmpty || r.foreignColumn.isEmpty)) =
        false := by
      revert r
      decide
    unfold checkRelation
    rw [target, findEntity?_node, complete]
    rfl
  have entity : checkEntity [node] node = .ok () := by
    unfold checkEntity
    rw [identifier?_node]
    exact forM_eq_ok_iff.2 each
  have entities : [node].forM (checkEntity [node]) = .ok () :=
    forM_eq_ok_iff.2 (by simpa using entity)
  unfold checkEntities
  rw [entities]
  rfl

def schema : Schema :=
  ⟨[node], checked⟩

private theorem entity?_node : schema.entity? "Node" = some node :=
  findEntity?_node

def targets : List RelationTarget :=
  [⟨"parent", "Node", false⟩, ⟨"nodes", "Node", true⟩, ⟨"parent__parent", "Node", false⟩,
    ⟨"owner", "Node", false⟩]

def registry : Registry where
  root := "Node"
  entities := NameIndex.empty.insert "Node" (entryOf node targets)
  externals := ["owner"]

theorem build_eq : build schema "Node" = .ok registry := by
  have reached : (joined node).mapM (targetOf schema) = .ok targets := by
    have each : ∀ r : Relation, r.target = "Node" →
        targetOf schema r = .ok ⟨r.name, "Node", r.collection⟩ := by
      intro r target
      unfold targetOf
      rw [target, entity?_node]
      rfl
    refine mapM_eq_ok_iff.2 ?_
    exact .cons (each _ rfl) (.cons (each _ rfl) (.cons (each _ rfl) (.cons (each _ rfl) .nil)))
  have waiting : (targets.map (·.target)).filter (fun target =>
      foldName target ∉ [foldName "Node"]) = [] := by
    simp [targets]
  have explored : explore schema .empty [] [] ["Node"] = .ok (registry.entities, ["owner"]) := by
    have externals : externalNames node = ["owner"] :=
      congrArg (fun name => [name]) foldings.2.2.2.2.2.2.2
    rw [explore_of_new (by simp) entity?_node reached, waiting, List.append_nil,
      explore_nil, externals]
    rfl
  exact build_of_explore entity?_node explored

def context : Context :=
  ⟨schema, registry, node, Scalar.Coerce.coerce, Settings.default.paging, true, Like.refusal⟩

theorem context_built : context.Built :=
  ⟨⟨"Node", build_eq⟩, entity?_node⟩

theorem identified : context.root.identifier? = some ⟨"id", none, .integer, false⟩ :=
  identifier?_node

def toParent : Leg :=
  ⟨⟨"parent", "Node", false⟩, ⟨"parent", "Node", false, false, "parent_id", "id"⟩, node⟩

def toNodes : Leg :=
  ⟨⟨"nodes", "Node", true⟩, ⟨"nodes", "Node", true, false, "id", "parent_id"⟩, node⟩

def toTemplate : Leg :=
  ⟨⟨"parent__parent", "Node", false⟩, ⟨"parent__parent", "Node", false, false, "template_id", "id"⟩,
    node⟩

def toOwner : Leg :=
  ⟨⟨"owner", "Node", false⟩, ⟨"Owner", "Node", false, true, "", ""⟩, node⟩

/-- A segment that names a relation of nodes, over which another node is reached. -/
structure Goes (segment : String) (leg : Leg) : Prop where
  relation : node.attribute? segment = none
  found : leg? schema registry node segment = some leg
  back : leg.entity = node

private theorem relation?_registry (segment : String) :
    registry.relation? node.name segment =
      (targets.filter fun link => foldName link.name == foldName segment).getLast? := by
  have name : node.name = "Node" := rfl
  have entry : registry.entities.get? "Node" = some (entryOf node targets) := by
    have whole : registry.entities = NameIndex.empty.insert "Node" (entryOf node targets) := rfl
    rw [whole, NameIndex.get?_insert, if_pos rfl]
  have relations : (entryOf node targets).relations =
    NameIndex.ofList RelationTarget.name targets := rfl
  unfold Registry.relation?
  rw [name, entry, Option.bind_some, relations, NameIndex.get?_ofList]

section Going

variable {segment : String} {leg : Leg}

private theorem goes_of (relation : node.attribute? segment = none)
    (known : (targets.filter fun link => foldName link.name == foldName segment).getLast? =
      some leg.link)
    (defined : (node.relations.filter fun r => foldName r.name == foldName segment).getLast? =
      some leg.relation)
    (target : leg.link.target = "Node") (back : leg.entity = node) : Goes segment leg := by
  refine ⟨relation, leg?_eq_some_iff.2 ⟨?_, ?_, ?_⟩, back⟩
  · rw [relation?_registry, known]
  · rw [Entity.relation?_eq, defined]
  · rw [target, back, entity?_node]

theorem goes_toParent (named : foldName segment = "parent") : Goes segment toParent := by
  refine goes_of ?_ ?_ ?_ rfl rfl
  · simp [Entity.attribute?_eq, node, foldings, named]
  · simp [targets, toParent, foldings, named]
  · simp [node, toParent, foldings, named]

theorem goes_toNodes (named : foldName segment = "nodes") : Goes segment toNodes := by
  refine goes_of ?_ ?_ ?_ rfl rfl
  · simp [Entity.attribute?_eq, node, foldings, named]
  · simp [targets, toNodes, foldings, named]
  · simp [node, toNodes, foldings, named]

theorem goes_toTemplate (named : foldName segment = "parent__parent") :
    Goes segment toTemplate := by
  refine goes_of ?_ ?_ ?_ rfl rfl
  · simp [Entity.attribute?_eq, node, foldings, named]
  · simp [targets, toTemplate, foldings, named]
  · simp [node, toTemplate, foldings, named]

theorem goes_toOwner (named : foldName segment = "owner") : Goes segment toOwner := by
  refine goes_of ?_ ?_ ?_ rfl rfl
  · simp [Entity.attribute?_eq, node, foldings, named]
  · simp [targets, toOwner, foldings, named]
  · simp [node, toOwner, foldings, named]

end Going

def toTitle (legs : List Leg) : Route :=
  ⟨legs, ⟨"title", none, .text, false⟩, []⟩

private theorem route?_title {names : List String} {legs : List Leg}
    (along : List.Forall₂ Goes names legs) :
    route? schema registry node (names ++ ["title"]) = some (toTitle legs) := by
  induction along with
  | nil =>
    have title : node.attribute? "title" = some ⟨"title", none, .text, false⟩ := by
      simp [Entity.attribute?_eq, node, foldings]
    rw [List.nil_append, route?, title]
    rfl
  | cons first rest ih =>
    rw [List.cons_append, route?, first.relation, first.found, Option.bind_some, first.back, ih]
    rfl

theorem locate_title {path : String} {names : List String} {legs : List Leg}
    (split : segments '.' path = names ++ ["title"]) (along : List.Forall₂ Goes names legs) :
    context.locate path = .ok (some (toTitle legs)) := by
  have found : route? context.schema context.registry context.root (segments '.' path) =
      some (toTitle legs) := by
    rw [split]
    exact route?_title along
  unfold Context.locate FilterQuery.locate
  rw [found]
  rfl

end FilterQuery.Tree
