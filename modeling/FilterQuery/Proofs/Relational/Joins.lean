import FilterQuery.Proofs.Path.Rows

set_option autoImplicit false
set_option relaxedAutoImplicit false

/-!
Joins added one by one. Of several joins under one label the first stays. Where the joins of routes
are added, each way that the routes start with is found under its label, though the join there may
be that of another way.
-/

namespace FilterQuery.Relational

open FilterQuery.Relational.Path (addJoins)
open FilterQuery.Sql (Join)

section Adding

variable {joins others : List Join} {j : Join}

theorem addJoins_append (joins first second : List Join) :
    addJoins joins (first ++ second) = addJoins (addJoins joins first) second :=
  List.foldl_append

theorem mem_of_addJoins (member : j ∈ addJoins joins others) : j ∈ joins ∨ j ∈ others := by
  induction others generalizing joins with
  | nil => exact .inl member
  | cons i others ih =>
    rw [addJoins_cons] at member
    rcases ih member with inside | inside
    · by_cases old : i.label ∈ joins.map (·.label)
      · rw [addJoin_of_old old] at inside
        exact .inl inside
      · rw [addJoin_of_new old, List.mem_append, List.mem_singleton] at inside
        rcases inside with inside | rfl
        · exact .inl inside
        · exact .inr (by simp)
    · exact .inr (List.mem_cons_of_mem i inside)

theorem prefix_addJoins (joins others : List Join) : joins <+: addJoins joins others := by
  induction others generalizing joins with
  | nil => exact List.prefix_rfl
  | cons i others ih =>
    rw [addJoins_cons]
    by_cases old : i.label ∈ joins.map (·.label)
    · rw [addJoin_of_old old]
      exact ih joins
    · rw [addJoin_of_new old]
      exact (List.prefix_append joins [i]).trans (ih (joins ++ [i]))

private theorem label_mem_addJoins {label : String} :
    label ∈ (addJoins joins others).map (·.label) ↔ label ∈ joins.map (·.label) ∨
      label ∈ others.map (·.label) := by
  induction others generalizing joins with
  | nil => simp [addJoins]
  | cons i others ih =>
    rw [addJoins_cons, ih]
    by_cases old : i.label ∈ joins.map (·.label)
    · rw [addJoin_of_old old, List.map_cons, List.mem_cons]
      constructor
      · rintro (inside | inside)
        · exact .inl inside
        · exact .inr (.inr inside)
      · rintro (inside | rfl | inside)
        · exact .inl inside
        · exact .inl old
        · exact .inr inside
    · rw [addJoin_of_new old]
      simp [or_assoc]

private theorem addJoins_of_old (old : ∀ j ∈ others, j.label ∈ joins.map (·.label)) :
    addJoins joins others = joins := by
  induction others with
  | nil => rfl
  | cons j others ih =>
    obtain ⟨first, rest⟩ := List.forall_mem_cons.1 old
    rw [addJoins_cons, addJoin_of_old first, ih rest]

theorem addJoins_again (joins others : List Join) :
    addJoins (addJoins joins others) others = addJoins joins others :=
  addJoins_of_old fun _ member => label_mem_addJoins.2 (.inr (List.mem_map_of_mem member))

theorem nodup_addJoins (distinct : (joins.map (·.label)).Nodup) :
    ((addJoins joins others).map (·.label)).Nodup := by
  induction others generalizing joins with
  | nil => exact distinct
  | cons i others ih =>
    rw [addJoins_cons]
    refine ih ?_
    by_cases old : i.label ∈ joins.map (·.label)
    · rwa [addJoin_of_old old]
    · rw [addJoin_of_new old, List.map_append, List.nodup_append]
      refine ⟨distinct, by simp, ?_⟩
      intro a inside b last same
      rw [List.map_singleton, List.mem_singleton] at last
      exact old (last ▸ same ▸ inside)

end Adding

/-- The joins of some routes, one route after the other. -/
def joinsOf (table : String) (routes : List Route) : List Join :=
  routes.flatMap fun route => Leg.joins table [] route.legs

theorem joinsOf_append (table : String) (first second : List Route) :
    joinsOf table (first ++ second) = joinsOf table first ++ joinsOf table second :=
  List.flatMap_append

private theorem mem_joins {table : String} {taken legs : List Leg} {j : Join}
    (member : j ∈ Leg.joins table taken legs) :
    ∃ more leg, more ++ [leg] <+: legs ∧ j = Leg.join table (taken ++ more) leg := by
  induction legs generalizing taken with
  | nil => cases member
  | cons first legs ih =>
    rcases List.mem_cons.1 member with rfl | member
    · exact ⟨[], first, ⟨legs, rfl⟩, by rw [List.append_nil]⟩
    · obtain ⟨more, leg, ⟨rest, whole⟩, rfl⟩ := ih member
      refine ⟨first :: more, leg, ⟨rest, ?_⟩, ?_⟩
      · rw [← whole]
        simp
      · rw [List.append_assoc, List.singleton_append]

theorem mem_joinsOf {table : String} {routes : List Route} {j : Join} :
    j ∈ joinsOf table routes ↔ ∃ taken leg, Reaches routes (taken ++ [leg]) ∧
      j = Leg.join table taken leg := by
  unfold joinsOf
  rw [List.mem_flatMap]
  constructor
  · rintro ⟨route, member, inside⟩
    obtain ⟨taken, leg, start, rfl⟩ := mem_joins inside
    exact ⟨taken, leg, ⟨route, member, start⟩, by rw [List.nil_append]⟩
  · rintro ⟨taken, leg, ⟨route, member, start⟩, rfl⟩
    exact ⟨route, member, Leg.join_mem_joins start⟩

/-- Joins of the ways that some routes start with, one under each label. -/
structure Spans (table : String) (routes : List Route) (joins : List Join) : Prop where
  distinct : (joins.map (·.label)).Nodup
  within : ∀ j ∈ joins, j ∈ joinsOf table routes
  covered : ∀ j ∈ joinsOf table routes, j.label ∈ joins.map (·.label)

section Spanning

variable {table : String} {first second : List Route} {joins others : List Join}

private theorem spans_nil (table : String) : Spans table [] [] :=
  ⟨List.nodup_nil, nofun, nofun⟩

/-- Adding the joins of more routes, whichever of them are kept, spans both. -/
theorem Spans.addJoins (spans : Spans table first joins)
    (within : ∀ j ∈ others, j ∈ joinsOf table second)
    (covered : ∀ j ∈ joinsOf table second, j.label ∈ others.map (·.label)) :
    Spans table (first ++ second) (addJoins joins others) := by
  refine ⟨nodup_addJoins spans.distinct, ?_, ?_⟩
  · intro j member
    rw [joinsOf_append, List.mem_append]
    rcases mem_of_addJoins member with old | new
    · exact .inl (spans.within j old)
    · exact .inr (within j new)
  · intro j member
    rw [joinsOf_append, List.mem_append] at member
    rw [label_mem_addJoins]
    rcases member with old | new
    · exact .inl (spans.covered j old)
    · exact .inr (covered j new)

theorem Spans.addRoutes (spans : Spans table first joins) (second : List Route) :
    Spans table (first ++ second) (Path.addJoins joins (joinsOf table second)) :=
  spans.addJoins (fun _ member => member) fun j member => List.mem_map.2 ⟨j, member, rfl⟩

theorem Spans.append (hfirst : Spans table first joins) (hsecond : Spans table second others) :
    Spans table (first ++ second) (Path.addJoins joins others) :=
  hfirst.addJoins hsecond.within hsecond.covered

theorem spans_joinsOf (table : String) (routes : List Route) :
    Spans table routes (addJoins [] (joinsOf table routes)) :=
  (spans_nil table).addRoutes routes

theorem Spans.label_mem (spans : Spans table first joins) {way : List Leg}
    (reached : Reaches first way) :
    Leg.rowLabel table way ∈ table :: joins.map (·.label) := by
  rcases List.eq_nil_or_concat way with rfl | ⟨taken, leg, rfl⟩
  · exact List.mem_cons_self
  · rw [List.concat_eq_append] at reached ⊢
    exact List.mem_cons_of_mem table (spans.covered _ (mem_joinsOf.2 ⟨taken, leg, reached, rfl⟩))

end Spanning

end FilterQuery.Relational
