import FilterQuery.Proofs.Path.Route
import FilterQuery.Proofs.Sql.Rows
import Mathlib.Data.List.Infix

set_option autoImplicit false
set_option relaxedAutoImplicit false

/-!
The rows that ways lead to. Where every way has a label of its own, the scopes that the joins of
ways make of a row are the choices, for each way and each row chosen before its last leg, of one of
the rows that this leg pairs with it.
-/

namespace FilterQuery

open FilterQuery.Relational.Path (addJoin addJoins)
open FilterQuery.Sql (Assigns Database Join Ordered Row Scope keysMeet mem_scopes scopes
    scopes_ne_nil)

namespace Leg

def matching (db : Database) (leg : Leg) (row : Row) : List Row :=
  (db leg.entity.table).filter fun other =>
    keysMeet (row leg.relation.localColumn) (other leg.relation.foreignColumn)

/-- The rows over a leg that belong to a row, or the row of nulls where there is none. -/
def rows (db : Database) (leg : Leg) (row : Row) : List Row :=
  if (leg.matching db row).isEmpty then [Row.null] else leg.matching db row

def rowsAlong (db : Database) : List Leg → Row → List Row
  | [], row => [row]
  | leg :: legs, row => (leg.rows db row).flatMap (rowsAlong db legs)

variable {db : Database} {table : String}

theorem rows_of_matching {leg : Leg} {row : Row} (found : leg.matching db row ≠ []) :
    leg.rows db row = leg.matching db row :=
  Join.rows_of_ne_nil (j := join "" [] leg) found

theorem rows_of_unmatched {leg : Leg} {row : Row} (empty : leg.matching db row = []) :
    leg.rows db row = [Row.null] :=
  Join.rows_of_nil (j := join "" [] leg) empty

theorem rowsAlong_null (legs : List Leg) : rowsAlong db legs Row.null = [Row.null] := by
  induction legs with
  | nil => rfl
  | cons leg legs ih =>
    have first : leg.rows db Row.null = [Row.null] := Join.rows_null db (join "" [] leg)
    rw [rowsAlong, first, List.flatMap_singleton, ih]

private theorem joins_append (taken legs others : List Leg) :
    joins table taken (legs ++ others) = joins table taken legs ++
      joins table (taken ++ legs) others := by
  induction legs generalizing taken with
  | nil => simp [joins]
  | cons leg legs ih => simp [joins, ih]

theorem join_mem_joins {taken legs : List Leg} {leg : Leg} (start : taken ++ [leg] <+: legs) :
    join table taken leg ∈ joins table [] legs := by
  obtain ⟨rest, rfl⟩ := start
  rw [joins_append, joins_append]
  simp [joins]

private theorem scopes_joins (taken legs : List Leg) (scope : Scope) :
    (scopes db (joins table taken legs) scope).map (fun result =>
      result (rowLabel table (taken ++ legs))) =
      rowsAlong db legs (scope (rowLabel table taken)) := by
  induction legs generalizing taken scope with
  | nil => simp [joins, scopes, rowsAlong]
  | cons leg legs ih =>
    have regroup : taken ++ leg :: legs = taken ++ [leg] ++ legs := by simp
    rw [joins, scopes, rowsAlong, List.map_flatMap, regroup]
    congr 1
    funext row
    have here : scope.bind (join table taken leg).label row (rowLabel table (taken ++ [leg])) =
        row :=
      Scope.bind_self scope _ row
    rw [ih, here]

end Leg

/-- A way that some of the routes start with. -/
def Reaches (routes : List Route) (way : List Leg) : Prop :=
  ∃ route ∈ routes, way <+: route.legs

def ways (routes : List Route) : List (List Leg) :=
  routes.flatMap (·.legs.inits)

theorem reaches_iff {routes : List Route} {way : List Leg} :
    Reaches routes way ↔ way ∈ ways routes := by
  simp [Reaches, ways]

/-- No two ways have the same label, and none has the label of the table that they start in. -/
def Aliased (table : String) (routes : List Route) : Prop :=
  ∀ p q, Reaches routes p → Reaches routes q → Leg.rowLabel table p = Leg.rowLabel table q → p = q

instance (table : String) (routes : List Route) : Decidable (Aliased table routes) :=
  decidable_of_iff
    (∀ p ∈ ways routes, ∀ q ∈ ways routes, Leg.rowLabel table p = Leg.rowLabel table q → p = q)
    ⟨fun h p q hp hq => h p (reaches_iff.1 hp) q (reaches_iff.1 hq),
      fun h p hp q hq => h p q (reaches_iff.2 hp) (reaches_iff.2 hq)⟩

/-- The row at the end of each way is one that its last leg pairs with the row before. -/
def Follows (db : Database) (table : String) (routes : List Route) (scope : Scope) : Prop :=
  ∀ taken leg, Reaches routes (taken ++ [leg]) →
    scope (Leg.rowLabel table (taken ++ [leg])) ∈ leg.rows db (scope (Leg.rowLabel table taken))

/-- Joins of ways, each after the one that leads to its parent. -/
structure Layout (table : String) (routes : List Route) (joins : List Join) : Prop where
  within : ∀ j ∈ joins, ∃ taken leg, Reaches routes (taken ++ [leg]) ∧ j = Leg.join table taken leg
  rooted : ∀ j ∈ joins, j.parent = table ∨ j.parent ∈ joins.map (·.label)
  ordered : Ordered joins

variable {db : Database} {table : String} {routes others : List Route} {joins : List Join}

theorem Reaches.mono {way : List Leg} (reached : Reaches routes way)
    (more : ∀ r ∈ routes, r ∈ others) :
    Reaches others way := by
  obtain ⟨route, member, start⟩ := reached
  exact ⟨route, more route member, start⟩

theorem Reaches.of_prefix {way longer : List Leg} (reached : Reaches routes longer)
    (start : way <+: longer) :
    Reaches routes way := by
  obtain ⟨route, member, start'⟩ := reached
  exact ⟨route, member, start.trans start'⟩

theorem Follows.mono {scope : Scope} (follows : Follows db table routes scope)
    (fewer : ∀ r ∈ others, r ∈ routes) :
    Follows db table others scope :=
  fun taken leg reached => follows taken leg (reached.mono fewer)

private theorem Aliased.ne_table (aliased : Aliased table routes) {taken : List Leg} {leg : Leg}
    (reached : Reaches routes (taken ++ [leg])) : Leg.rowLabel table (taken ++ [leg]) ≠ table := by
  intro same
  have start : Reaches routes [] := reached.of_prefix List.nil_prefix
  have empty := aliased _ [] reached start (by rw [same, Leg.rowLabel_nil])
  simp at empty

private theorem Layout.join_of_label (layout : Layout table routes joins)
    (aliased : Aliased table routes) {taken : List Leg} {leg : Leg}
    (reached : Reaches routes (taken ++ [leg]))
    (old : (Leg.join table taken leg).label ∈ joins.map (·.label)) :
    Leg.join table taken leg ∈ joins := by
  obtain ⟨i, member, same⟩ := List.mem_map.1 old
  obtain ⟨taken', leg', reached', rfl⟩ := layout.within i member
  have way := aliased _ _ reached' reached same
  obtain ⟨rfl, last⟩ := List.append_inj' way rfl
  cases last
  exact member

private theorem Layout.not_table (layout : Layout table routes joins)
    (aliased : Aliased table routes) :
    table ∉ joins.map (·.label) := by
  intro member
  obtain ⟨j, inside, same⟩ := List.mem_map.1 member
  obtain ⟨taken, leg, reached, rfl⟩ := layout.within j inside
  exact aliased.ne_table reached same

theorem Layout.addJoin (layout : Layout table routes joins) (aliased : Aliased table routes)
    {taken : List Leg} {leg : Leg} (reached : Reaches routes (taken ++ [leg]))
    (parent : Leg.rowLabel table taken = table ∨ Leg.rowLabel table taken ∈ joins.map (·.label)) :
    Layout table routes (addJoin joins (Leg.join table taken leg)) ∧
      joins <+: addJoin joins (Leg.join table taken leg) ∧
        Leg.join table taken leg ∈ addJoin joins (Leg.join table taken leg) := by
  by_cases old : (Leg.join table taken leg).label ∈ joins.map (·.label)
  · rw [addJoin_of_old old]
    exact ⟨layout, List.prefix_rfl, layout.join_of_label aliased reached old⟩
  · rw [addJoin_of_new old]
    have fresh : (Leg.join table taken leg).label ≠ table := aliased.ne_table reached
    have elsewhere : ∀ label, label = table ∨ label ∈ joins.map (·.label) →
        label ≠ (Leg.join table taken leg).label := by
      rintro label (rfl | member) same
      · exact fresh same.symm
      · exact old (same ▸ member)
    refine ⟨⟨?_, ?_, ?_⟩, List.prefix_append _ _, by simp⟩
    · intro j member
      rcases List.mem_append.1 member with member | member
      · exact layout.within j member
      · exact ⟨taken, leg, reached, List.mem_singleton.1 member⟩
    · intro j member
      have rooted : j.parent = table ∨ j.parent ∈ joins.map (·.label) := by
        rcases List.mem_append.1 member with member | member
        · exact layout.rooted j member
        · rw [List.mem_singleton.1 member]
          exact parent
      rcases rooted with start | inside
      · exact .inl start
      · exact .inr (by rw [List.map_append, List.mem_append]; exact .inl inside)
    · exact Sql.ordered_append_singleton layout.ordered old (fun i member =>
        elsewhere _ (layout.rooted i member))
        (elsewhere _ parent)

theorem Layout.addJoins (aliased : Aliased table routes) {legs : List Leg} :
    ∀ {joins : List Join} {taken : List Leg}, Layout table routes joins →
      Reaches routes (taken ++ legs) →
      (Leg.rowLabel table taken = table ∨ Leg.rowLabel table taken ∈ joins.map (·.label)) →
      Layout table routes (addJoins joins (Leg.joins table taken legs)) ∧
        joins <+: addJoins joins (Leg.joins table taken legs) ∧
          ∀ j ∈ Leg.joins table taken legs, j ∈ addJoins joins (Leg.joins table taken legs) := by
  induction legs with
  | nil => exact fun layout _ _ => ⟨layout, List.prefix_rfl, nofun⟩
  | cons leg legs ih =>
    intro joins taken layout reached parent
    have regroup : taken ++ leg :: legs = taken ++ [leg] ++ legs := by simp
    rw [regroup] at reached
    obtain ⟨first, grown, member⟩ :=
      layout.addJoin aliased (reached.of_prefix (List.prefix_append _ _)) parent
    have next : Leg.rowLabel table (taken ++ [leg]) ∈
        (Relational.Path.addJoin joins (Leg.join table taken leg)).map (·.label) :=
      List.mem_map.2 ⟨_, member, rfl⟩
    obtain ⟨rest, grown', members⟩ := ih first reached (.inr next)
    rw [Leg.joins, addJoins_cons]
    refine ⟨rest, grown.trans grown', ?_⟩
    intro j inside
    rcases List.mem_cons.1 inside with rfl | inside
    · exact grown'.subset member
    · exact members j inside

theorem Layout.addRoutes (aliased : Aliased table routes) :
    ∀ {joins : List Join}, Layout table routes joins → (∀ r ∈ others, r ∈ routes) →
      ∃ all, Layout table routes all ∧ joins <+: all ∧
        ∀ taken leg, Reaches others (taken ++ [leg]) → Leg.join table taken leg ∈ all := by
  induction others with
  | nil =>
    intro joins layout _
    refine ⟨joins, layout, List.prefix_rfl, ?_⟩
    rintro taken leg ⟨route, member, _⟩
    cases member
  | cons route others ih =>
    intro joins layout more
    have whole : Reaches routes ([] ++ route.legs) := ⟨route, more route (by simp), List.prefix_rfl⟩
    obtain ⟨first, grown, members⟩ := Layout.addJoins aliased layout whole (.inl rfl)
    obtain ⟨all, rest, grown', covered⟩ :=
      ih first fun r member => more r (List.mem_cons_of_mem route member)
    refine ⟨all, rest, grown.trans grown', ?_⟩
    rintro taken leg ⟨r, member, start⟩
    rcases List.mem_cons.1 member with rfl | member
    · exact grown'.subset (members _ (Leg.join_mem_joins start))
    · exact covered taken leg ⟨r, member, start⟩

theorem layout_nil : Layout table routes [] :=
  ⟨nofun, nofun, trivial⟩

private theorem Layout.assigns (layout : Layout table routes joins) {scope : Scope}
    (follows : Follows db table routes scope) :
    Assigns db joins scope := by
  intro j member
  obtain ⟨taken, leg, reached, rfl⟩ := layout.within j member
  exact follows taken leg reached

/-- A scope in which joins of ways assign rows can be changed under other labels to follow all
routes. -/
theorem Layout.extend (layout : Layout table routes joins) (aliased : Aliased table routes)
    {scope : Scope} (assigned : Assigns db joins scope) :
    ∃ result, Follows db table routes result ∧
      ∀ label, label = table ∨ label ∈ joins.map (·.label) → result label = scope label := by
  have own : ∀ r ∈ routes, r ∈ routes := fun _ member => member
  obtain ⟨all, whole, ⟨new, rfl⟩, covered⟩ := Layout.addRoutes aliased layout own
  obtain ⟨result, rest, made⟩ := List.exists_cons_of_ne_nil (scopes_ne_nil db new scope)
  have inside : result ∈ scopes db new scope := by rw [made]; simp
  obtain ⟨same, assigns⟩ := (mem_scopes (Sql.ordered_of_append whole.ordered)).1 inside
  have kept : ∀ label, label = table ∨ label ∈ joins.map (·.label) →
      result label = scope label := by
    rintro label (rfl | member)
    · refine same _ fun written => whole.not_table aliased ?_
      rw [List.map_append, List.mem_append]
      exact .inr written
    · exact same _ (Sql.label_of_ordered_append whole.ordered member)
  refine ⟨result, ?_, kept⟩
  intro taken leg reached
  rcases List.mem_append.1 (covered taken leg reached) with old | added
  · have row := assigned _ old
    rw [← kept _ (.inr (List.mem_map.2 ⟨_, old, rfl⟩)), ← kept _ (layout.rooted _ old)] at row
    exact row
  · exact assigns _ added

/-- The joins of ways make a scope with some property of the rows that they write exactly if rows
with the property can be chosen along all ways. -/
theorem Layout.exists_scope_iff (layout : Layout table routes joins)
    (aliased : Aliased table routes) {row : Row} {P : Scope → Prop} (reads : ∀ scope other : Scope,
      (∀ label, label = table ∨ label ∈ joins.map (·.label) → scope label = other label) →
        P scope → P other) :
    (∃ scope ∈ scopes db joins (Scope.root table row), P scope) ↔
      ∃ scope : Scope, scope table = row ∧ Follows db table routes scope ∧ P scope := by
  constructor
  · rintro ⟨scope, inside, holds⟩
    obtain ⟨same, assigned⟩ := (mem_scopes layout.ordered).1 inside
    obtain ⟨result, follows, kept⟩ := layout.extend aliased assigned
    refine ⟨result, ?_, follows, reads scope result (fun label known =>
      (kept label known).symm) holds⟩
    rw [kept _ (.inl rfl), same _ (layout.not_table aliased), Scope.root_table]
  · rintro ⟨scope, root, follows, holds⟩
    have assigned : Assigns db joins scope := layout.assigns follows
    -- Under labels that no join has, a scope of the joins is the one they started from.
    let written : Scope := fun label =>
      if label ∈ joins.map (·.label) then scope label else Scope.root table row label
    have here : ∀ label, label = table ∨ label ∈ joins.map (·.label) →
        scope label = written label := by
      rintro label (rfl | member)
      · change _ = if _ then _ else _
        rw [if_neg (layout.not_table aliased), Scope.root_table, root]
      · exact (if_pos member).symm
    refine ⟨written, (mem_scopes layout.ordered).2 ⟨fun label outside => if_neg outside, ?_⟩, ?_⟩
    · intro j member
      rw [← here _ (.inr (List.mem_map.2 ⟨j, member, rfl⟩)), ← here _ (layout.rooted j member)]
      exact assigned j member
    · exact reads scope written here holds

theorem Layout.label_of_addJoins (layout : Layout table routes joins)
    (aliased : Aliased table routes) {legs : List Leg} (reached : Reaches routes legs) :
    Leg.rowLabel table legs = table ∨
      Leg.rowLabel table legs ∈ (Relational.Path.addJoins joins (Leg.joins table [] legs)).map
        (·.label) := by
  have whole : Reaches routes ([] ++ legs) := reached
  obtain ⟨_, _, members⟩ := Layout.addJoins aliased layout whole (.inl rfl)
  rcases List.eq_nil_or_concat legs with empty | ⟨taken, leg, whole⟩
  · exact .inl (by rw [empty, Leg.rowLabel_nil])
  · rw [List.concat_eq_append] at whole
    have start : taken ++ [leg] <+: legs := by rw [whole]
    refine .inr (List.mem_map.2 ⟨_, members _ (Leg.join_mem_joins start), ?_⟩)
    rw [whole]
    rfl

theorem Follows.extend {scope : Scope} (follows : Follows db table others scope)
    (aliased : Aliased table routes) (more : ∀ r ∈ others, r ∈ routes) :
    ∃ result, Follows db table routes result ∧ result table = scope table ∧
      ∀ way, Reaches others way → result (Leg.rowLabel table way) =
        scope (Leg.rowLabel table way) := by
  have fewer : Aliased table others := fun p q hp hq => aliased p q (hp.mono more) (hq.mono more)
  have own : ∀ r ∈ others, r ∈ others := fun _ member => member
  obtain ⟨joins, layout, _, covered⟩ := Layout.addRoutes fewer layout_nil own
  have wider : Layout table routes joins := by
    refine ⟨?_, layout.rooted, layout.ordered⟩
    intro j member
    obtain ⟨taken, leg, reached, made⟩ := layout.within j member
    exact ⟨taken, leg, reached.mono more, made⟩
  obtain ⟨result, all, same⟩ := wider.extend aliased (layout.assigns follows)
  refine ⟨result, all, same table (.inl rfl), ?_⟩
  intro way reached
  rcases List.eq_nil_or_concat way with rfl | ⟨taken, leg, rfl⟩
  · exact same _ (.inl rfl)
  · rw [List.concat_eq_append] at reached ⊢
    exact same _ (.inr (List.mem_map.2 ⟨_, covered taken leg reached, rfl⟩))

private theorem layout_of_route {route : Route} (aliased : Aliased table [route]) :
    Layout table [route] (Leg.joins table [] route.legs) := by
  have whole : Reaches [route] ([] ++ route.legs) := ⟨route, by simp, List.prefix_rfl⟩
  have layout := (Layout.addJoins aliased layout_nil whole (.inl rfl)).1
  rwa [addJoins_of_new (Leg.nodup_labels table [] route.legs)] at layout

theorem Follows.row_mem {route : Route} (aliased : Aliased table [route]) {scope : Scope}
    (follows : Follows db table [route] scope) :
    scope (Leg.rowLabel table route.legs) ∈ Leg.rowsAlong db route.legs (scope table) := by
  have layout := layout_of_route aliased
  have inside : scope ∈ scopes db (Leg.joins table [] route.legs) scope :=
    (mem_scopes layout.ordered).2 ⟨fun _ _ => rfl, layout.assigns follows⟩
  have rows := @Leg.scopes_joins db table [] route.legs scope
  rw [List.nil_append, Leg.rowLabel_nil] at rows
  rw [← rows]
  exact List.mem_map.2 ⟨scope, inside, rfl⟩

theorem exists_follows {route : Route} (aliased : Aliased table [route]) {row last : Row}
    (member : last ∈ Leg.rowsAlong db route.legs row) :
    ∃ scope, scope table = row ∧ Follows db table [route] scope ∧
      scope (Leg.rowLabel table route.legs) = last := by
  have layout := layout_of_route aliased
  have rows := @Leg.scopes_joins db table [] route.legs (Scope.root table row)
  rw [List.nil_append, Leg.rowLabel_nil, Scope.root_table] at rows
  rw [← rows] at member
  obtain ⟨scope, inside, rfl⟩ := List.mem_map.1 member
  obtain ⟨same, assigned⟩ := (mem_scopes layout.ordered).1 inside
  refine ⟨scope, ?_, ?_, rfl⟩
  · rw [same table (layout.not_table aliased), Scope.root_table]
  · rintro taken leg ⟨r, inside, start⟩
    rw [List.mem_singleton.1 inside] at start
    exact assigned _ (Leg.join_mem_joins start)

/-- Scopes that follow some routes each, and agree on the ways that these share, join to one that
follows all. -/
theorem Follows.combine {first second : List Route} {one two : Scope}
    (aliased : Aliased table (first ++ second)) (hfirst : Follows db table first one)
    (hsecond : Follows db table second two) (root : one table = two table)
    (shared : ∀ way, Reaches first way → Reaches second way →
      one (Leg.rowLabel table way) = two (Leg.rowLabel table way)) :
    ∃ scope, Follows db table (first ++ second) scope ∧ scope table = one table ∧
      (∀ way, Reaches first way → scope (Leg.rowLabel table way) = one (Leg.rowLabel table way)) ∧
        ∀ way, Reaches second way → scope (Leg.rowLabel table way) =
          two (Leg.rowLabel table way) := by
  classical
  let scope : Scope := fun label =>
    if ∃ way, Reaches first way ∧ Leg.rowLabel table way = label then one label else two label
  have onFirst : ∀ way, Reaches first way →
      scope (Leg.rowLabel table way) = one (Leg.rowLabel table way) :=
    fun way reached => if_pos ⟨way, reached, rfl⟩
  have onSecond : ∀ way, Reaches second way →
      scope (Leg.rowLabel table way) = two (Leg.rowLabel table way) := by
    intro way reached
    by_cases both : ∃ other, Reaches first other ∧ Leg.rowLabel table other = Leg.rowLabel table way
    · obtain ⟨other, reached', label⟩ := both
      have same : other = way :=
        aliased other way (reached'.mono (by simp +contextual))
          (reached.mono (by simp +contextual)) label
      subst same
      rw [onFirst other reached', shared other reached' reached]
    · exact if_neg both
  refine ⟨scope, ?_, ?_, onFirst, onSecond⟩
  · rintro taken leg ⟨route, member, start⟩
    rcases List.mem_append.1 member with member | member
    · have reached : Reaches first (taken ++ [leg]) := ⟨route, member, start⟩
      rw [onFirst _ reached, onFirst _ (reached.of_prefix (List.prefix_append _ _))]
      exact hfirst taken leg reached
    · have reached : Reaches second (taken ++ [leg]) := ⟨route, member, start⟩
      rw [onSecond _ reached, onSecond _ (reached.of_prefix (List.prefix_append _ _))]
      exact hsecond taken leg reached
  · change (if _ then one table else two table) = one table
    rw [← root, ite_self]

end FilterQuery
