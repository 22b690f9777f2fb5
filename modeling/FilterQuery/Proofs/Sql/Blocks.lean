import FilterQuery.Sql
import Mathlib.Data.List.Basic

set_option autoImplicit false
set_option relaxedAutoImplicit false

/-!
The blocks of a selection, each a SELECT with its own FROM clause, and the columns that stand in
them. A column is qualified with the name of a table or with the label of a join. A join can read
the rows of the table and those of joins before it.
-/

namespace FilterQuery.Sql

def Expr.source : Expr → String × String
  | .column table name => (table, name)
  | .document e _ => e.source
  | .documentText e _ => e.source
  | .lower e => e.source
  | .castText e => e.source

mutual

/-- The columns that a condition reads, from left to right. -/
def Condition.columns : Condition → List (String × String)
  | .equal e _ => [e.source]
  | .notEqual e _ => [e.source]
  | .isNull e => [e.source]
  | .isNotNull e => [e.source]
  | .like e _ => [e.source]
  | .never => []
  | .group _ parts => columnsOfAll parts

def columnsOfAll : List Condition → List (String × String)
  | [] => []
  | part :: parts => part.columns ++ columnsOfAll parts

end

private theorem columns_group (connective : Filter.Connective) (parts : List Condition) :
    (Condition.group connective parts).columns = parts.flatMap (·.columns) := by
  rw [Condition.columns]
  induction parts with
  | nil => rfl
  | cons part parts ih => rw [columnsOfAll, ih, List.flatMap_cons]

theorem columns_join (connective : Filter.Connective) (parts : List Condition) :
    (Condition.join connective parts).columns = parts.flatMap (·.columns) := by
  match parts with
  | [] => exact columns_group connective []
  | [part] => simp [Condition.join]
  | first :: second :: rest => exact columns_group connective (first :: second :: rest)

/-- A table with its joins, and what is asked of their rows. -/
structure Block where
  table : String
  joins : List Join
  condition : Option Condition
  orders : List OrderTerm

namespace Block

/-- The names of the rows in a block. -/
def names (block : Block) : List String :=
  block.table :: block.joins.map (·.label)

/-- The qualifiers of the columns in a block: of those selected, of those the joins compare, and of
those the condition and the order read. -/
def qualifiers (block : Block) : List String :=
  block.table :: (block.joins.flatMap fun j => [j.parent, j.label]) ++
    (block.condition.elim [] (·.columns)).map (·.1) ++ block.orders.map (·.expr.source.1)

end Block

/-- The blocks of a selection, the outer one first. -/
def Select.blocks (s : Select) : List Block :=
  match s.restriction with
  | .none => [⟨s.table, s.joins, none, s.orders⟩]
  | .condition c => [⟨s.table, s.joins, some c, s.orders⟩]
  | .keyAmong table _ joins condition =>
    [⟨s.table, s.joins, none, s.orders⟩, ⟨table, joins, condition, []⟩]

/-- Joins each of which starts from a known label or from the label of a join before it. -/
def Anchored : List String → List Join → Prop
  | _, [] => True
  | known, j :: joins => j.parent ∈ known ∧ Anchored (j.label :: known) joins

section Anchoring

variable {known more : List String} {joins others : List Join}

theorem Anchored.mono (anchored : Anchored known joins) (fewer : ∀ label ∈ known, label ∈ more) :
    Anchored more joins := by
  induction joins generalizing known more with
  | nil => trivial
  | cons j joins ih =>
    obtain ⟨parent, rest⟩ := anchored
    refine ⟨fewer _ parent, ih rest ?_⟩
    intro label member
    rcases List.mem_cons.1 member with rfl | member
    · exact List.mem_cons_self
    · exact List.mem_cons_of_mem _ (fewer label member)

theorem anchored_nil (known : List String) : Anchored known [] :=
  trivial

theorem anchored_append :
    Anchored known (joins ++ others) ↔
      Anchored known joins ∧ Anchored ((joins.map (·.label)).reverse ++ known) others := by
  induction joins generalizing known with
  | nil => simp [Anchored]
  | cons j joins ih => simp [Anchored, ih, and_assoc]

theorem Anchored.parent_mem (anchored : Anchored known joins) {before after : List Join} {j : Join}
    (whole : joins = before ++ j :: after) :
    j.parent ∈ known ∨ j.parent ∈ before.map (·.label) := by
  rw [whole, anchored_append] at anchored
  have here : j.parent ∈ (before.map (·.label)).reverse ++ known := anchored.2.1
  rw [List.mem_append, List.mem_reverse] at here
  exact here.symm

end Anchoring

end FilterQuery.Sql
