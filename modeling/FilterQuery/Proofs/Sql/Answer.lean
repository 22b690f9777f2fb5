import FilterQuery.Proofs.Sql.Blocks
import FilterQuery.Proofs.Sql.Rows
import Mathlib.Data.List.Pairwise
import Mathlib.Data.Multiset.Defs

set_option autoImplicit false
set_option relaxedAutoImplicit false

/-!
The answer to a selection: a row of its table for each scope in which the restriction holds, so that
a row may be there several times. A join that is no collection pairs each row with one other, and
then a row has one scope.
-/

namespace FilterQuery.Sql

open FilterQuery.Number (Binary64)
open FilterQuery.Scalar (Value)

variable {engine : Engine} {db : Database} {table : String} {joins others : List Join}
  {scope result other : Scope}

theorem Expr.eval_congr {e : Expr} (same : scope e.source.1 = other e.source.1) :
    e.eval engine scope = e.eval engine other := by
  induction e with
  | column table name => exact congrFun same name
  | document e key ih => rw [Expr.eval, Expr.eval, ih same]
  | documentText e key ih => rw [Expr.eval, Expr.eval, ih same]
  | lower e ih => rw [Expr.eval, Expr.eval, ih same]
  | castText e ih => rw [Expr.eval, Expr.eval, ih same]

mutual

theorem Condition.eval_congr :
    ∀ c : Condition, (∀ column ∈ c.columns, scope column.1 = other column.1) →
      c.eval engine scope = c.eval engine other
  | .equal e v, same => by
    rw [Condition.eval, Condition.eval, Expr.eval_congr (same _ (List.mem_singleton.2 rfl))]
  | .notEqual e v, same => by
    rw [Condition.eval, Condition.eval, Expr.eval_congr (same _ (List.mem_singleton.2 rfl))]
  | .isNull e, same => by
    rw [Condition.eval, Condition.eval, Expr.eval_congr (same _ (List.mem_singleton.2 rfl))]
  | .isNotNull e, same => by
    rw [Condition.eval, Condition.eval, Expr.eval_congr (same _ (List.mem_singleton.2 rfl))]
  | .like e pattern, same => by
    rw [Condition.eval, Condition.eval, Expr.eval_congr (same _ (List.mem_singleton.2 rfl))]
  | .never, _ => rfl
  | .group .and parts, same => by
    rw [Condition.columns] at same
    rw [Condition.eval, Condition.eval, (evals_congr parts same).1]
  | .group .or parts, same => by
    rw [Condition.columns] at same
    rw [Condition.eval, Condition.eval, (evals_congr parts same).2]

private theorem evals_congr : ∀ parts :
    List Condition, (∀ column ∈ columnsOfAll parts, scope column.1 = other column.1) →
      evalAll engine scope parts = evalAll engine other parts ∧
        evalAny engine scope parts = evalAny engine other parts
  | [], _ => ⟨rfl, rfl⟩
  | part :: parts, same => by
    rw [columnsOfAll] at same
    have first :=
      Condition.eval_congr part fun column member => same column (List.mem_append.2 (.inl member))
    have rest :=
      evals_congr parts fun column member => same column (List.mem_append.2 (.inr member))
    rw [evalAll, evalAll, evalAny, evalAny, first, rest.1, rest.2]
    exact ⟨rfl, rfl⟩

end

private theorem equals_comm (a b : Value) : a.equals b = b.equals a := by
  cases a <;> cases b <;> simp only [Value.equals]
  · exact BEq.comm
  · exact BEq.comm
  · rename_i x y
    unfold Binary64.equals
    rw [Bool.and_comm (!x.isNaN), Bool.and_comm (x.word == 0), BEq.comm (a := x)]
  · exact BEq.comm

private theorem keysMeet_comm (a b : Option Value) : keysMeet a b = keysMeet b a := by
  cases a <;> cases b <;> simp only [keysMeet]
  exact equals_comm _ _

/-- A column that identifies the rows of a table: it is null in none of them, and the same in no
two. -/
structure Identifies (key : String) (rows : List Row) : Prop where
  present : ∀ row ∈ rows, keysMeet (row key) (row key) = true
  unique : rows.Pairwise fun a b => keysMeet (a key) (b key) = false

namespace Identifies

variable {key : String} {rows : List Row}

theorem nodup (identified : Identifies key rows) : rows.Nodup := by
  refine identified.unique.imp_of_mem ?_
  rintro a b member _ apart rfl
  rw [identified.present a member] at apart
  cases apart

theorem meet_iff (identified : Identifies key rows) {a b : Row} (ha : a ∈ rows) (hb : b ∈ rows) :
    keysMeet (a key) (b key) = true ↔ a = b := by
  have symmetric : Std.Symm fun x y : Row => keysMeet (x key) (y key) = false :=
    ⟨fun x y apart => by rw [keysMeet_comm, apart]⟩
  constructor
  · intro meet
    by_contra differ
    have apart := identified.unique.forall ha hb differ
    rw [meet] at apart
    cases apart
  · rintro rfl
    exact identified.present a ha

end Identifies

private theorem scopes_append (db : Database) (joins others : List Join) (scope : Scope) :
    scopes db (joins ++ others) scope = (scopes db joins scope).flatMap (scopes db others) := by
  induction joins generalizing scope with
  | nil => simp [scopes]
  | cons j joins ih =>
    rw [List.cons_append, scopes, scopes, List.flatMap_assoc]
    exact List.flatMap_congr fun row _ => ih _

theorem scope_of_mem_scopes (inside : result ∈ scopes db joins scope) {label : String}
    (outside : label ∉ joins.map (·.label)) : result label = scope label := by
  induction joins generalizing scope with
  | nil => rw [List.mem_singleton.1 inside]
  | cons j joins ih =>
    rw [List.map_cons, List.mem_cons, not_or] at outside
    obtain ⟨row, _, further⟩ := List.mem_flatMap.1 inside
    rw [ih further outside.2, Scope.bind_of_ne outside.1]

/-- Joins after others do not matter to what depends on no row that they write. -/
theorem exists_scopes_append {P : Scope → Prop}
    (unread : ∀ before after : Scope, (∀ label, label ∉ others.map (·.label) →
      after label = before label) →
      (P after ↔ P before)) :
    (∃ s ∈ scopes db (joins ++ others) scope, P s) ↔ ∃ s ∈ scopes db joins scope, P s := by
  rw [scopes_append]
  constructor
  · rintro ⟨after, inside, holds⟩
    obtain ⟨before, hbefore, hafter⟩ := List.mem_flatMap.1 inside
    exact ⟨before, hbefore, (unread before after fun _ => scope_of_mem_scopes hafter).1 holds⟩
  · rintro ⟨before, hbefore, holds⟩
    obtain ⟨after, hafter⟩ := List.exists_mem_of_ne_nil _ (scopes_ne_nil db others before)
    exact ⟨after, List.mem_flatMap.2 ⟨before, hbefore, hafter⟩,
      (unread before after fun _ => scope_of_mem_scopes hafter).2 holds⟩

/-- A row that may stand under a label: of the table of that name, or of a table joined under it. -/
def Stands (db : Database) (table : String) (joins : List Join) (label : String) (row : Row) :
    Prop :=
  (label = table ∧ row ∈ db table) ∨ ∃ j ∈ joins, j.label = label ∧ row ∈ db j.table

/-- A join that is no collection matches at most one row for each row that it may start from. -/
def SingleValued (db : Database) (table : String) (joins : List Join) : Prop :=
  ∀ j ∈ joins, j.collection = false → ∀ row, Stands db table joins j.parent row →
    (j.matching db row).length ≤ 1

private theorem Join.rows_of_single {j : Join} {row : Row}
    (short : (j.matching db row).length ≤ 1) :
    ∃ joined, j.rows db row = [joined] ∧ (joined = Row.null ∨ joined ∈ db j.table) := by
  cases found : j.matching db row with
  | nil => exact ⟨Row.null, rows_of_nil found, .inl rfl⟩
  | cons joined rest =>
    have alone : rest = [] := by
      rw [found, List.length_cons] at short
      exact List.length_eq_zero_iff.1 (by omega)
    have member : joined ∈ j.matching db row := by rw [found]; exact List.mem_cons_self
    refine ⟨joined, ?_, .inr (List.mem_filter.1 member).1⟩
    rw [rows_of_ne_nil (by rw [found]; exact List.cons_ne_nil _ _), found, alone]

theorem scopes_eq_singleton {all : List Join} (single : SingleValued db table all)
    {known : List String} (anchored : Anchored known joins)
    (among : ∀ j ∈ joins, j ∈ all ∧ j.collection = false)
    (standing : ∀ label ∈ known, scope label = Row.null ∨ Stands db table all label (scope label)) :
    ∃ only, scopes db joins scope = [only] := by
  induction joins generalizing known scope with
  | nil => exact ⟨scope, rfl⟩
  | cons j joins ih =>
    obtain ⟨parent, rest⟩ := anchored
    obtain ⟨inside, toOne⟩ := among j List.mem_cons_self
    have short : (j.matching db (scope j.parent)).length ≤ 1 := by
      rcases standing j.parent parent with null | stands
      · rw [null, Join.matching_null]
        exact Nat.zero_le 1
      · exact single j inside toOne _ stands
    obtain ⟨row, rows, origin⟩ := Join.rows_of_single short
    have further : ∀ label ∈ j.label :: known, scope.bind j.label row label = Row.null ∨
        Stands db table all label (scope.bind j.label row label) := by
      intro label member
      by_cases here : label = j.label
      · rw [here, Scope.bind_self]
        exact origin.imp id fun stored => .inr ⟨j, inside, rfl, stored⟩
      · rw [Scope.bind_of_ne here]
        exact standing label ((List.mem_cons.1 member).resolve_left here)
    obtain ⟨only, whole⟩ :=
      ih rest (fun i member => among i (List.mem_cons_of_mem j member)) further
    refine ⟨only, ?_⟩
    rw [scopes, rows, List.flatMap_singleton, whole]

def scopesWhere (db : Database) (table : String) (joins : List Join) (keep : Scope → Bool) :
    List Scope :=
  (db table).flatMap fun row => (scopes db joins (Scope.root table row)).filter keep

def meets (engine : Engine) (condition : Option Condition) (scope : Scope) : Bool :=
  match condition with
  | none => true
  | some c => c.eval engine scope == some true

/-- Whether a restriction keeps a scope. A key is among others if it equals one of them. -/
def Restriction.keeps (engine : Engine) (db : Database) (scope : Scope) : Restriction → Bool
  | .none => true
  | .condition c => meets engine (some c) scope
  | .keyAmong table key joins asked =>
    (scopesWhere db table joins (meets engine asked)).any fun inner =>
      keysMeet (scope table key) (inner table key)

/-- The answer to a selection of all columns: a row of its table for each scope that the restriction
keeps. It is a multiset, apart from the order of the rows and from the page of them that is asked
for. -/
def Select.rows (engine : Engine) (db : Database) (s : Select) : Multiset Row :=
  ((scopesWhere db s.table s.joins (s.restriction.keeps engine db)).map (· s.table) : List Row)

section Answers

variable {keep : Scope → Bool} {row : Row}

theorem mem_map_scopesWhere (clear : table ∉ joins.map (·.label)) :
    row ∈ (scopesWhere db table joins keep).map (· table) ↔
      row ∈ db table ∧ ∃ s ∈ scopes db joins (Scope.root table row), keep s = true := by
  have own : ∀ start : Row, ∀ s ∈ scopes db joins (Scope.root table start), s table = start := by
    intro start s inside
    rw [scope_of_mem_scopes inside clear, Scope.root_table]
  unfold scopesWhere
  rw [List.mem_map]
  constructor
  · rintro ⟨s, member, rfl⟩
    obtain ⟨start, stored, inside⟩ := List.mem_flatMap.1 member
    obtain ⟨made, holds⟩ := List.mem_filter.1 inside
    rw [own start s made]
    exact ⟨stored, s, made, holds⟩
  · rintro ⟨stored, s, made, holds⟩
    exact ⟨s, List.mem_flatMap.2 ⟨row, stored, List.mem_filter.2 ⟨made, holds⟩⟩, own row s made⟩

theorem map_scopesWhere_sublist (clear : table ∉ joins.map (·.label))
    (single : ∀ row ∈ db table, ∃ only, scopes db joins (Scope.root table row) = [only]) :
    List.Sublist ((scopesWhere db table joins keep).map (· table)) (db table) := by
  unfold scopesWhere
  generalize db table = rows at single
  induction rows with
  | nil => exact List.Sublist.refl []
  | cons row rows ih =>
    obtain ⟨only, whole⟩ := single row List.mem_cons_self
    have own : only table = row := by
      have inside : only ∈ scopes db joins (Scope.root table row) := by
        rw [whole]; exact List.mem_singleton.2 rfl
      rw [scope_of_mem_scopes inside clear, Scope.root_table]
    have rest := ih fun other member => single other (List.mem_cons_of_mem row member)
    rw [List.flatMap_cons, List.map_append, whole]
    cases holds : keep only with
    | true =>
      rw [List.filter_cons_of_pos holds, List.map_cons, own]
      exact rest.cons_cons row
    | false =>
      rw [List.filter_cons_of_neg (by rw [holds]; exact Bool.false_ne_true)]
      exact rest.cons row

end Answers

end FilterQuery.Sql
