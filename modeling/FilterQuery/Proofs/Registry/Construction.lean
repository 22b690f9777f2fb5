import FilterQuery.Proofs.Registry.Origin
import Mathlib.Data.List.Nodup

set_option autoImplicit false
set_option relaxedAutoImplicit false

/-!
A registry is built for every entity of a schema. All relations of a schema that was checked have
their targets, so whatever waits to be explored is an entity.
-/

namespace FilterQuery

theorem NameIndex.get?_ofList_eq_some_iff {α : Type} {name : α → String} {values : List α}
    (distinct : (values.map fun value => foldName (name value)).Nodup)
    {wanted : String} {value : α} :
    (NameIndex.ofList name values).get? wanted = some value ↔
      value ∈ values ∧ foldName (name value) = foldName wanted := by
  rw [NameIndex.get?_ofList]
  constructor
  · intro last
    simpa using List.mem_filter.1 (List.mem_of_getLast? last)
  · rintro ⟨member, same⟩
    have kept : value ∈ values.filter fun value => foldName (name value) == foldName wanted :=
      List.mem_filter.2 ⟨member, by simpa using same⟩
    obtain ⟨found, last⟩ := Option.ne_none_iff_exists'.1 fun none =>
      List.ne_nil_of_mem kept (List.getLast?_eq_none_iff.1 none)
    obtain ⟨inside, alike⟩ := List.mem_filter.1 (List.mem_of_getLast? last)
    rw [last, List.inj_on_of_nodup_map distinct inside member
      ((beq_iff_eq.1 alike).trans same.symm)]

namespace Schema

variable {schema : Schema} {e : Entity} {r : Relation}

private theorem checkDistinct_eq_ok_iff {seen : List String} {entities : List Entity} :
    checkDistinct seen entities = .ok () ↔
      (entities.map fun e => foldName e.name).Nodup ∧ ∀ e ∈ entities, foldName e.name ∉ seen := by
  induction entities generalizing seen with
  | nil => simp [checkDistinct]
  | cons e entities ih =>
    rw [checkDistinct, List.map_cons, List.nodup_cons, List.forall_mem_cons]
    by_cases old : foldName e.name ∈ seen
    · simp [old]
    · rw [if_neg old, ih]
      simp only [List.mem_cons, not_or, List.mem_map, not_exists, not_and]
      constructor
      · rintro ⟨distinct, new⟩
        exact ⟨⟨fun x member => (new x member).1, distinct⟩, old, fun x member => (new x member).2⟩
      · rintro ⟨⟨other, distinct⟩, -, new⟩
        exact ⟨distinct, fun x member => ⟨other x member, new x member⟩⟩

theorem nodup_names (schema : Schema) : (schema.entities.map fun e => foldName e.name).Nodup := by
  have passed := schema.checked
  unfold checkEntities at passed
  obtain ⟨_, distinct, -⟩ := bind_eq_ok_iff.1 passed
  exact (checkDistinct_eq_ok_iff.1 distinct).1

theorem entity?_eq_some_iff {name : String} :
    schema.entity? name = some e ↔ e ∈ schema.entities ∧ foldName e.name = foldName name :=
  NameIndex.get?_ofList_eq_some_iff schema.nodup_names

private theorem checkRelation_eq_ok (member : e ∈ schema.entities) (inside : r ∈ e.relations) :
    checkRelation schema.entities e r = .ok () := by
  have h := checkEntity_eq_ok member
  unfold checkEntity at h
  split at h
  · cases h
  · exact forM_eq_ok_iff.1 h r inside

private theorem exists_target (member : e ∈ schema.entities) (inside : r ∈ e.relations) :
    ∃ target, schema.entity? r.target = some target := by
  have h := checkRelation_eq_ok member inside
  unfold checkRelation at h
  split at h
  · cases h
  · next known =>
      refine Option.ne_none_iff_exists'.1 fun missing => ?_
      exact known (Option.isNone_iff_eq_none.2 missing)

end Schema

namespace Registry

variable {schema : Schema}

theorem exists_targets {e : Entity} (member : e ∈ schema.entities) :
    ∃ targets, (joined e).mapM (targetOf schema) = .ok targets := by
  refine exists_mapM_ok fun r inside => ?_
  obtain ⟨target, found⟩ := Schema.exists_target member (List.mem_filter.1 inside).1
  refine ⟨⟨r.name, target.name, r.collection⟩, ?_⟩
  rw [targetOf, found]

private theorem exists_entity_of_targets {e : Entity} {targets : List RelationTarget}
    (reached : (joined e).mapM (targetOf schema) = .ok targets) :
    ∀ name ∈ targets.map (·.target), ∃ target, schema.entity? name = some target := by
  intro name member
  obtain ⟨link, inside, rfl⟩ := List.mem_map.1 member
  obtain ⟨r, -, made⟩ := exists_left_of_forall₂ (mapM_eq_ok_iff.1 reached) link inside
  obtain ⟨-, -, target, found, spelled⟩ := targetOf_eq_ok made
  exact ⟨target, spelled ▸ Schema.entity?_name found⟩

/-- Exploring never fails as long as all that waits are entities, and each step adds only
entities. -/
theorem exists_explore {entities : NameIndex EntityEntry} {externals seen waiting : List String}
    (known : ∀ name ∈ waiting, ∃ e, schema.entity? name = some e) :
    ∃ result, explore schema entities externals seen waiting = .ok result := by
  fun_induction explore schema entities externals seen waiting with
  | case1 entities externals => exact ⟨_, rfl⟩
  | case2 entities externals seen name waiting old ih => exact ih (List.forall_mem_cons.1 known).2
  | case3 entities externals seen name waiting new missing =>
    obtain ⟨e, found⟩ := known name (by simp)
    rw [missing] at found
    cases found
  | case4 entities externals seen name waiting new e found fault failed =>
    obtain ⟨targets, reached⟩ := exists_targets (Schema.mem_of_entity? found)
    rw [failed] at reached
    cases reached
  | case5 entities externals seen name waiting new e found targets reached next ih =>
    refine ih (List.forall_mem_append.2 ⟨(List.forall_mem_cons.1 known).2, fun target member => ?_⟩)
    exact exists_entity_of_targets reached target (List.mem_filter.1 member).1

theorem exists_build_iff {root : String} :
    (∃ registry, build schema root = .ok registry) ↔ ∃ e, schema.entity? root = some e := by
  constructor
  · rintro ⟨registry, built⟩
    obtain ⟨e, found, -⟩ := build_eq_ok built
    exact ⟨e, found⟩
  · rintro ⟨e, found⟩
    have explored : ∃ result, explore schema .empty [] [] [e.name] = .ok result :=
      exists_explore (List.forall_mem_singleton.2 ⟨e, Schema.entity?_name found⟩)
    obtain ⟨result, explored⟩ := explored
    exact ⟨_, build_of_explore found explored⟩

end Registry

end FilterQuery
