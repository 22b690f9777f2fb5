import FilterQuery.Proofs.Memory.Node
import Mathlib.Data.List.Infix

set_option autoImplicit false
set_option relaxedAutoImplicit false

/-!
The answers of nodes. Parts of a group that cannot be read, or that were dropped from it, do not
change what it means for the group to hold.
-/

namespace FilterQuery.Memory

open FilterQuery.Filter (Connective Operator)
open FilterQuery.Memory.Path (Accessor)
open FilterQuery.Scalar (Coercion Kind)

variable {coerce : Coercion} {record : Json.Value}

private theorem holdAll_eq_true (parts : List Node) :
    holdAll coerce record parts = .ok true ↔
      ∀ part ∈ parts, part.holds coerce record = .ok true := by
  induction parts with
  | nil => simp [holdAll]
  | cons part parts ih =>
    rw [holdAll, List.forall_mem_cons, ← ih]
    cases part.holds coerce record with
    | error e => simp [bind, Except.bind]
    | ok holds => cases holds <;> simp [bind, Except.bind, pure, Except.pure]

theorem holds_of_isAlways {node : Node} (unrestricted : node.isAlways = true) :
    node.holds coerce record = .ok true := by
  cases node with
  | always => rw [Node.holds]
  | never => cases unrestricted
  | all parts => cases unrestricted
  | any parts => cases unrestricted
  | test accessor test => cases unrestricted

private theorem holdAll_restricting (parts : List Node) :
    holdAll coerce record (parts.filter (!·.isAlways)) = holdAll coerce record parts := by
  induction parts with
  | nil => rfl
  | cons part parts ih =>
    rw [List.filter_cons, holdAll]
    cases always : part.isAlways with
    | true =>
      rw [holds_of_isAlways always]
      exact ih
    | false =>
      simp only [Bool.not_false, if_true]
      rw [holdAll, ih]

/-- A conjunction answers what all its parts do, those included that were dropped from it. -/
theorem group_and_eq (parts : List Node) :
    (group .and parts).holds coerce record = holdAll coerce record parts := by
  rw [← holdAll_restricting]
  simp only [group]
  cases parts.filter (!·.isAlways) with
  | nil =>
    simp only [List.isEmpty_nil, if_true]
    rw [Node.holds, holdAll]
  | cons first others =>
    simp only [List.isEmpty_cons, Bool.false_eq_true, if_false]
    rw [Node.holds]

theorem group_and_holds (parts : List Node) :
    (group .and parts).holds coerce record = .ok true ↔
      ∀ part ∈ parts, part.holds coerce record = .ok true := by
  rw [group_and_eq]
  exact holdAll_eq_true parts

variable {context : Context}

def passes (context : Context) (operator : Operator) (value : Option String) (kind : Kind)
    (v : Option Json.Value) :
    Bool :=
  (testOf context operator value kind).any fun test => test.holds context.coerce kind v

theorem nodeAsking_holds (operator : Operator) (value : Option String) {a : Accessor}
    {record : Json.Value} {values : List (Option Json.Value)}
    (read : a.values record = .ok values) :
    (nodeAsking a (testOf context operator value a.kind)).holds context.coerce record =
      .ok (values.any (passes context operator value a.kind)) := by
  unfold passes
  cases testOf context operator value a.kind with
  | none => simp [nodeAsking, Node.holds]
  | some test =>
    simp only [Option.any_some]
    rw [nodeAsking, Node.holds, holdsAt, read]
    rfl

end FilterQuery.Memory
