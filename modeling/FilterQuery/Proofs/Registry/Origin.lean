import FilterQuery.Context
import FilterQuery.Like.Engine
import FilterQuery.Proofs.Steps
import FilterQuery.Scalar.Coerce

set_option autoImplicit false
set_option relaxedAutoImplicit false

/-!
Where the parts of a registry come from. Every entity that a built registry knows is the schema's
entity of that name, and of the relations whose names fold alike it keeps the last one that is
joined, with its target's own spelling.
-/

namespace FilterQuery

namespace Schema

theorem entity?_congr (schema : Schema) {a b : String} (same : foldName a = foldName b) :
    schema.entity? a = schema.entity? b := by
  rw [entity?_eq, entity?_eq, same]

theorem entity?_name {schema : Schema} {name : String} {e : Entity}
    (found : schema.entity? name = some e) :
    schema.entity? e.name = some e := by
  rw [schema.entity?_congr (foldName_of_entity? found), found]

theorem checkEntity_eq_ok {schema : Schema} {e : Entity} (member : e ∈ schema.entities) :
    checkEntity schema.entities e = .ok () := by
  have h := schema.checked
  unfold checkEntities at h
  cases hd : checkDistinct [] schema.entities with
  | error fault => rw [hd] at h; cases h
  | ok u =>
    rw [hd] at h
    exact forM_eq_ok_iff.1 h e member

theorem identifier?_isSome {schema : Schema} {e : Entity} (member : e ∈ schema.entities) :
    e.identifier?.isSome = true := by
  have h := checkEntity_eq_ok member
  unfold checkEntity at h
  cases hid : e.identifier? with
  | some a => rfl
  | none => simp [hid] at h

end Schema

namespace Entity

theorem relation?_eq (e : Entity) (name : String) :
    e.relation? name = (e.relations.filter fun r => foldName r.name == foldName name).getLast? :=
  NameIndex.get?_ofList Relation.name e.relations name

theorem attribute?_eq (e : Entity) (name : String) :
    e.attribute? name = (e.attributes.filter fun a => foldName a.name == foldName name).getLast? :=
  NameIndex.get?_ofList Attribute.name e.attributes name

end Entity

namespace Registry

variable {schema : Schema}

def joined? (e : Entity) (name : String) : Option Relation :=
  ((joined e).filter fun r => foldName r.name == foldName name).getLast?

def FromSchema (schema : Schema) (entities : NameIndex EntityEntry) : Prop :=
  ∀ name entry, entities.get? name = some entry →
    ∃ e targets, schema.entity? name = some e ∧ (joined e).mapM (targetOf schema) = .ok targets ∧
      entry = entryOf e targets

theorem explore_nil (entities : NameIndex EntityEntry) (externals seen : List String) :
    explore schema entities externals seen [] = .ok (entities, externals) := by
  rw [explore]

theorem explore_of_new {entities : NameIndex EntityEntry} {externals seen waiting : List String}
    {name : String} {e : Entity} {targets : List RelationTarget} (new : foldName name ∉ seen)
    (found : schema.entity? name = some e)
    (reached : (joined e).mapM (targetOf schema) = .ok targets) :
    explore schema entities externals seen (name :: waiting) =
      explore schema (entities.insert name (entryOf e targets)) (externals ++ externalNames e)
        (foldName name :: seen)
        (waiting ++ (targets.map (·.target)).filter fun target =>
          foldName target ∉ foldName name :: seen) := by
  rw [explore, if_neg new]
  split
  · rename_i missing
    rw [found] at missing
    cases missing
  · rename_i e' found'
    rw [found] at found'
    cases found'
    rw [reached]

theorem explore_of_leaf {entities : NameIndex EntityEntry} {externals seen waiting : List String}
    {name : String} {e : Entity} (new : foldName name ∉ seen) (found : schema.entity? name = some e)
    (leaf : joined e = []) :
    explore schema entities externals seen (name :: waiting) =
      explore schema (entities.insert name (entryOf e [])) (externals ++ externalNames e)
        (foldName name :: seen) waiting := by
  have reached : (joined e).mapM (targetOf schema) = .ok [] := by rw [leaf]; rfl
  rw [explore_of_new new found reached, List.map_nil, List.filter_nil, List.append_nil]

private theorem fromSchema_insert {entities : NameIndex EntityEntry} {name : String} {e : Entity}
    {targets : List RelationTarget} (origin : FromSchema schema entities)
    (found : schema.entity? name = some e)
    (reached : (joined e).mapM (targetOf schema) = .ok targets) :
    FromSchema schema (entities.insert name (entryOf e targets)) := by
  intro other entry h
  rw [NameIndex.get?_insert] at h
  split at h
  · rename_i same
    cases h
    exact ⟨e, targets, (schema.entity?_congr same).trans found, reached, rfl⟩
  · exact origin other entry h

/-- Exploring keeps the origin of all entries. -/
theorem fromSchema_explore {entities : NameIndex EntityEntry} {externals seen waiting : List String}
    {result : NameIndex EntityEntry × List String} (origin : FromSchema schema entities)
    (done : explore schema entities externals seen waiting = .ok result) :
    FromSchema schema result.1 := by
  fun_induction explore schema entities externals seen waiting with
  | case1 => cases done; exact origin
  | case2 entities externals seen name waiting old ih => exact ih origin done
  | case3 => cases done
  | case4 => cases done
  | case5 entities externals seen name waiting new e found targets reached next ih =>
    exact ih (fromSchema_insert origin found reached) done

theorem build_of_explore {root : String} {e : Entity} {result : NameIndex EntityEntry × List String}
    (found : schema.entity? root = some e)
    (explored : explore schema .empty [] [] [e.name] = .ok result) :
    build schema root = .ok ⟨e.name, result.1, result.2⟩ := by
  unfold build
  rw [found]
  change (explore schema .empty [] [] [e.name]).bind _ = _
  rw [explored]
  rfl

theorem build_of_leaf {root : String} {e : Entity} (found : schema.entity? root = some e)
    (leaf : joined e = []) :
    build schema root = .ok ⟨e.name, NameIndex.empty.insert e.name (entryOf e []),
      externalNames e⟩ := by
  have own : schema.entity? e.name = some e :=
    (schema.entity?_congr (Schema.foldName_of_entity? found)).trans found
  have explored : explore schema .empty [] [] [e.name] =
      .ok (NameIndex.empty.insert e.name (entryOf e []), externalNames e) := by
    rw [explore_of_leaf List.not_mem_nil own leaf, explore_nil, List.nil_append]
  exact build_of_explore found explored

theorem build_eq_ok {root : String} {registry : Registry}
    (built : build schema root = .ok registry) :
    ∃ e, schema.entity? root = some e ∧ registry.root = e.name ∧
      explore schema .empty [] [] [e.name] = .ok (registry.entities, registry.externals) := by
  unfold build at built
  cases found : schema.entity? root with
  | none => rw [found] at built; cases built
  | some e =>
    rw [found] at built
    cases done : explore schema .empty [] [] [e.name] with
    | error fault => simp [done, bind, Except.bind] at built
    | ok result =>
      simp only [done, bind, Except.bind, pure, Except.pure, Except.ok.injEq] at built
      subst built
      exact ⟨e, rfl, rfl, done⟩

theorem fromSchema_of_build {root : String} {registry : Registry}
    (built : build schema root = .ok registry) :
    FromSchema schema registry.entities := by
  obtain ⟨e, _, _, done⟩ := build_eq_ok built
  have nothing : FromSchema schema .empty := by
    intro name entry h
    rw [NameIndex.get?_empty] at h
    cases h
  exact fromSchema_explore nothing done

theorem targetOf_eq_ok {r : Relation} {link : RelationTarget} (h : targetOf schema r = .ok link) :
    link.name = r.name ∧ link.collection = r.collection ∧
      ∃ target, schema.entity? r.target = some target ∧ link.target = target.name := by
  unfold targetOf at h
  split at h
  · rename_i target found
    cases h
    exact ⟨rfl, rfl, target, found, rfl⟩
  · cases h

private theorem getLast?_forall₂ {α β : Type} {R : α → β → Prop} {xs : List α} {ys : List β} {y : β}
    (h : List.Forall₂ R xs ys) (last : ys.getLast? = some y) :
    ∃ x, xs.getLast? = some x ∧ R x y := by
  rw [List.getLast?_eq_head?_reverse] at last ⊢
  have hrev := List.rel_reverse h
  revert last hrev
  cases xs.reverse <;> cases ys.reverse <;> intro last hrev <;> cases hrev
  · cases last
  · cases last
    exact ⟨_, rfl, ‹_›⟩

theorem contains_of_relation? {registry : Registry} {entity name : String} {link : RelationTarget}
    (known : registry.relation? entity name = some link) :
    registry.containsEntity entity = true := by
  obtain ⟨entry, found, -⟩ := Option.bind_eq_some_iff.1 known
  rw [containsEntity, NameIndex.contains, found]
  rfl

theorem getLast?_of_relation? {registry : Registry} {entity name : String} {link : RelationTarget}
    (origin : FromSchema schema registry.entities)
    (known : registry.relation? entity name = some link) :
    ∃ e targets, schema.entity? entity = some e ∧ (joined e).mapM (targetOf schema) = .ok targets ∧
      (targets.filter fun link => foldName link.name == foldName name).getLast? = some link := by
  obtain ⟨entry, entered, defined⟩ := Option.bind_eq_some_iff.1 known
  obtain ⟨e, targets, found, reached, rfl⟩ := origin _ _ entered
  refine ⟨e, targets, found, reached, ?_⟩
  rw [← NameIndex.get?_ofList RelationTarget.name targets name]
  exact defined

theorem relation?_eq_some {registry : Registry} {e : Entity} {name : String} {link : RelationTarget}
    (origin : FromSchema schema registry.entities) (own : schema.entity? e.name = some e)
    (h : registry.relation? e.name name = some link) :
    ∃ r, joined? e name = some r ∧ targetOf schema r = .ok link := by
  obtain ⟨e', targets, found, reached, last⟩ := getLast?_of_relation? origin h
  rw [own] at found
  cases found
  have pairs := mapM_eq_ok_iff.1 reached
  have kept : List.Forall₂ (fun r link => targetOf schema r = .ok link)
      ((joined e).filter fun r => foldName r.name == foldName name)
      (targets.filter fun link => foldName link.name == foldName name) := by
    refine List.rel_filter ?_ pairs
    intro r link made
    simp only [(targetOf_eq_ok made).1]
  exact getLast?_forall₂ (R := fun r link => targetOf schema r = .ok link) kept last

theorem mem_of_joined? {e : Entity} {name : String} {r : Relation} (h : joined? e name = some r) :
    r ∈ e.relations ∧ r.external = false ∧ foldName r.name = foldName name := by
  have member := List.mem_filter.1 (List.mem_of_getLast? h)
  have inside := List.mem_filter.1 member.1
  exact ⟨inside.1, by simpa using inside.2, by simpa using member.2⟩

theorem relation?_isSome {e : Entity} {name : String} {r : Relation} (h : joined? e name = some r) :
    (e.relation? name).isSome = true := by
  obtain ⟨member, _, same⟩ := mem_of_joined? h
  have kept : r ∈ e.relations.filter fun r => foldName r.name == foldName name :=
    List.mem_filter.2 ⟨member, by simpa using same⟩
  rw [Entity.relation?_eq, List.getLast?_eq_some_getLast (List.ne_nil_of_mem kept)]
  rfl

end Registry

/-- A context whose registry was built from its schema and whose root is the registry's. -/
structure Context.Built (context : Context) : Prop where
  registry : ∃ root, Registry.build context.schema root = .ok context.registry
  root : context.schema.entity? context.registry.root = some context.root

namespace Context.Built

variable {context : Context}

theorem fromSchema (built : context.Built) :
    Registry.FromSchema context.schema context.registry.entities :=
  let ⟨_, h⟩ := built.registry
  Registry.fromSchema_of_build h

theorem root_own (built : context.Built) :
    context.schema.entity? context.root.name = some context.root :=
  Schema.entity?_name built.root

theorem identifier?_isSome (built : context.Built) : context.root.identifier?.isSome = true :=
  Schema.identifier?_isSome (Schema.mem_of_entity? built.root)

end Context.Built

theorem Context.ofRegistry_of_build {schema : Schema} {root : String} {registry : Registry}
    (built : Registry.build schema root = .ok registry) (coerce : Scalar.Coercion)
    (settings : Settings) (refusal : List Char → Option String) :
    ∃ context, Context.ofRegistry schema registry coerce settings refusal = .ok context ∧
      context.Built := by
  obtain ⟨e, found, spelled, _⟩ := Registry.build_eq_ok built
  have own : schema.entity? registry.root = some e := by rw [spelled, Schema.entity?_name found]
  refine ⟨⟨schema, registry, e, coerce, settings.paging, settings.caseSensitive, refusal⟩, ?_,
    ⟨root, built⟩, own⟩
  unfold Context.ofRegistry
  rw [own]

namespace Blog

open Registry

def article : Entity :=
  ⟨"Article", "articles", "id", [⟨"id", none, .integer, false⟩, ⟨"title", none, .text, false⟩],
    [⟨"author", "Person", false, false, "author_id", "id"⟩,
      ⟨"comments", "Comment", true, false, "id", "article_id"⟩]⟩

def person : Entity :=
  ⟨"Person", "people", "id", [⟨"id", none, .integer, false⟩,
    ⟨"name", some "full_name", .text, false⟩], []⟩

def comment : Entity :=
  ⟨"Comment", "comments", "id", [⟨"id", none, .integer, false⟩, ⟨"body", none, .text, false⟩], []⟩

/-- A schema of articles, people and comments. -/
def schema : Schema :=
  ⟨[article, person, comment], by rfl⟩

/-- What the registry of articles knows. -/
def registry : Registry where
  root := "Article"
  entities :=
    ((NameIndex.empty.insert "Article"
      (entryOf article [⟨"author", "Person", false⟩, ⟨"comments", "Comment", true⟩])).insert
        "Person"
      (entryOf person [])).insert "Comment" (entryOf comment [])
  externals := []

theorem build_eq : build schema "Article" = .ok registry := by
  have articles : schema.entity? "Article" = some article := by rfl
  have people : schema.entity? "Person" = some person := by rfl
  have comments : schema.entity? "Comment" = some comment := by rfl
  have reached : (joined article).mapM (targetOf schema) =
      .ok [⟨"author", "Person", false⟩, ⟨"comments", "Comment", true⟩] := by rfl
  have waiting : ["Person", "Comment"].filter (fun target =>
      foldName target ∉ [foldName "Article"]) =
      ["Person", "Comment"] := by decide +kernel
  have explored : explore schema .empty [] [] ["Article"] = .ok (registry.entities, []) := by
    rw [explore_of_new (by simp) articles reached]
    simp only [List.map_cons, List.map_nil]
    rw [waiting, List.nil_append, List.nil_append, explore_of_leaf (by decide +kernel) people rfl,
      explore_of_leaf (by decide +kernel) comments rfl, explore_nil]
    rfl
  exact build_of_explore articles explored

def context : Context :=
  ⟨schema, registry, article, Scalar.Coerce.coerce, .default, true, Like.refusal⟩

theorem ofRegistry_eq :
    Context.ofRegistry schema registry Scalar.Coerce.coerce .default Like.refusal =
      .ok context := by
  rfl

theorem context_built : context.Built :=
  ⟨⟨"Article", build_eq⟩, by rfl⟩

end Blog

end FilterQuery
