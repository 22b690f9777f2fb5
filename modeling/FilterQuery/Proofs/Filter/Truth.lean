import FilterQuery.Filter
import FilterQuery.Proofs.Steps

set_option autoImplicit false
set_option relaxedAutoImplicit false

/-!
The truth value of a filter where each comparison has one: a conjunction holds if all its parts do,
a disjunction if one does. An empty conjunction holds and an empty disjunction does not. Where some
comparisons are dropped, a filter is no restriction exactly if it holds with the dropped comparisons
true and all others false.
-/

namespace FilterQuery.Filter

/-- What holds of all comparisons, and of a group once it holds of its parts, holds of all
filters. -/
theorem Formula.induction {motive : Formula → Prop} (atom : ∀ test, motive (.atom test))
    (group : ∀ connective parts, (∀ part ∈ parts, motive part) → motive (.group connective parts))
    (filter : Formula) :
    motive filter := by
  refine @Formula.rec motive (fun parts => ∀ part ∈ parts, motive part) atom group
    (by simp) ?_ filter
  intro first others hfirst hothers part member
  rcases List.mem_cons.1 member with rfl | member
  · exact hfirst
  · exact hothers part member

mutual

def Formula.value (truth : Comparison → Bool) : Formula → Bool
  | .atom test => truth test
  | .group .and parts => allValues truth parts
  | .group .or parts => anyValue truth parts

def allValues (truth : Comparison → Bool) : List Formula → Bool
  | [] => true
  | part :: parts => part.value truth && allValues truth parts

def anyValue (truth : Comparison → Bool) : List Formula → Bool
  | [] => false
  | part :: parts => part.value truth || anyValue truth parts

end

variable {truth other : Comparison → Bool}

@[simp] theorem Formula.value_atom (test : Comparison) :
    (Formula.atom test).value truth = truth test := by
  rw [Formula.value]

@[simp] theorem Formula.value_and (parts : List Formula) :
    (Formula.group .and parts).value truth = parts.all (·.value truth) := by
  rw [Formula.value]
  induction parts with
  | nil => rfl
  | cons part parts ih => rw [allValues, ih, List.all_cons]

@[simp] theorem Formula.value_or (parts : List Formula) :
    (Formula.group .or parts).value truth = parts.any (·.value truth) := by
  rw [Formula.value]
  induction parts with
  | nil => rfl
  | cons part parts ih => rw [anyValue, ih, List.any_cons]

def Connective.overall {α : Type} (connective : Connective) (items : List α) (passes : α → Bool) :
    Bool :=
  match connective with
  | .and => items.all passes
  | .or => items.any passes

theorem Connective.overall_congr {α β : Type} (connective : Connective) {items : List α}
    {images : List β} {passes : α → Bool} {passesToo : β → Bool}
    (pairs : List.Forall₂ (fun item image => passes item = passesToo image) items images) :
    connective.overall items passes = connective.overall images passesToo := by
  induction pairs with
  | nil => rfl
  | cons first _ ih =>
    cases connective with
    | and => exact congrArg₂ (· && ·) first ih
    | or => exact congrArg₂ (· || ·) first ih

theorem Formula.value_join (connective : Connective) (parts : List Formula) :
    (Formula.join connective parts).value truth = connective.overall parts (·.value truth) := by
  match connective, parts with
  | .and, [part] => exact (Bool.and_true _).symm
  | .or, [part] => exact (Bool.or_false _).symm
  | .and, [] => exact Formula.value_and []
  | .or, [] => exact Formula.value_or []
  | .and, first :: second :: others => exact Formula.value_and _
  | .or, first :: second :: others => exact Formula.value_or _

@[simp] theorem Formula.tests_atom (test : Comparison) : (Formula.atom test).tests = [test] := by
  rw [Formula.tests]

@[simp] theorem Formula.tests_group (connective : Connective) (parts : List Formula) :
    (Formula.group connective parts).tests = parts.flatMap (·.tests) := by
  rw [Formula.tests]
  induction parts with
  | nil => rfl
  | cons part parts ih => rw [testsOfAll, ih, List.flatMap_cons]

/-- What takes a group part by part fails for the first comparison that it fails for. -/
theorem Formula.error_iff {α β ε : Type} {f : Formula → Except ε α} {g : Comparison → Except ε β}
    (atom : ∀ test e, f (.atom test) = .error e ↔ g test = .error e)
    (group : ∀ connective parts e, f (.group connective parts) = .error e ↔ parts.mapM f = .error e)
    (filter : Formula) (e : ε) : f filter = .error e ↔ filter.tests.mapM g = .error e := by
  induction filter using Formula.induction generalizing e with
  | atom test =>
    rw [atom, Formula.tests_atom, mapM_cons_eq_error_iff]
    exact ⟨.inl, fun failed => failed.elim id nofun⟩
  | group connective parts ih =>
    rw [group, Formula.tests_group]
    exact mapM_flatMap_eq_error_iff ih e

theorem Formula.tests_join (connective : Connective) (parts : List Formula) :
    (Formula.join connective parts).tests = parts.flatMap (·.tests) := by
  match parts with
  | [part] => exact (List.flatMap_singleton ..).symm
  | [] => exact Formula.tests_group connective []
  | first :: second :: others => exact Formula.tests_group connective _

theorem Formula.unknownOperator?_eq_none_iff {filter : Formula} :
    filter.unknownOperator? = none ↔ ∀ test ∈ filter.tests, test.operator.isKnown = true := by
  unfold Formula.unknownOperator?
  simp [List.find?_eq_none]

theorem Formula.value_mono (filter : Formula)
    (grows : ∀ test ∈ filter.tests, truth test = true → other test = true) :
    filter.value truth = true → filter.value other = true := by
  induction filter using Formula.induction with
  | atom test => simpa using grows
  | group connective parts ih =>
    have each : ∀ part ∈ parts, part.value truth = true → part.value other = true := by
      intro part member
      refine ih part member fun test htest => grows test ?_
      rw [Formula.tests_group]
      exact List.mem_flatMap.2 ⟨part, member, htest⟩
    cases connective with
    | and =>
      simp only [Formula.value_and, List.all_eq_true]
      exact fun h part member => each part member (h part member)
    | or =>
      simp only [Formula.value_or, List.any_eq_true]
      rintro ⟨part, member, h⟩
      exact ⟨part, member, each part member h⟩

mutual

/-- The comparisons that are left where some are dropped. A disjunction with a part that is no
restriction is none, and nothing of it is left. -/
def Formula.remaining (dropped : Comparison → Bool) : Formula → List Comparison
  | .atom test => if dropped test then [] else [test]
  | .group .and parts => remainingOfAll dropped parts
  | .group .or parts => if anyValue dropped parts then [] else remainingOfAll dropped parts

def remainingOfAll (dropped : Comparison → Bool) : List Formula → List Comparison
  | [] => []
  | part :: parts => part.remaining dropped ++ remainingOfAll dropped parts

end

private theorem remainingOfAll_eq (dropped : Comparison → Bool) (parts : List Formula) :
    remainingOfAll dropped parts = parts.flatMap (·.remaining dropped) := by
  induction parts with
  | nil => rfl
  | cons part parts ih => rw [remainingOfAll, ih, List.flatMap_cons]

theorem Formula.remaining_and (dropped : Comparison → Bool) (parts : List Formula) :
    (Formula.group .and parts).remaining dropped = parts.flatMap (·.remaining dropped) := by
  rw [Formula.remaining, remainingOfAll_eq]

theorem Formula.remaining_or (dropped : Comparison → Bool) (parts : List Formula) :
    (Formula.group .or parts).remaining dropped =
      if (Formula.group .or parts).value dropped then []
        else parts.flatMap (·.remaining dropped) := by
  rw [Formula.remaining, remainingOfAll_eq, Formula.value]

theorem Formula.dropped_of_remaining {dropped : Comparison → Bool} (filter : Formula) :
    ∀ test ∈ filter.remaining dropped, dropped test = false := by
  induction filter using Formula.induction with
  | atom test =>
    intro other member
    rw [Formula.remaining] at member
    cases kept : dropped test with
    | true =>
      rw [if_pos kept] at member
      cases member
    | false =>
      rw [kept, if_neg Bool.false_ne_true, List.mem_singleton] at member
      rw [member, kept]
  | group connective parts ih =>
    intro other member
    have inside : other ∈ parts.flatMap (·.remaining dropped) := by
      cases connective with
      | and => rwa [Formula.remaining_and] at member
      | or =>
        rw [Formula.remaining_or] at member
        split at member
        · cases member
        · exact member
    obtain ⟨part, hpart, here⟩ := List.mem_flatMap.1 inside
    exact ih part hpart other here

theorem Formula.remaining_eq_nil {dropped : Comparison → Bool} (filter : Formula) :
    filter.value dropped = true → filter.remaining dropped = [] := by
  induction filter using Formula.induction with
  | atom test =>
    intro holds
    rw [Formula.value_atom] at holds
    rw [Formula.remaining, if_pos holds]
  | group connective parts ih =>
    intro holds
    cases connective with
    | and =>
      rw [Formula.value_and, List.all_eq_true] at holds
      rw [Formula.remaining_and, List.flatMap_eq_nil_iff]
      exact fun part member => ih part member (holds part member)
    | or => rw [Formula.remaining_or, if_pos holds]

theorem Formula.value_congr (filter : Formula)
    (same : ∀ test ∈ filter.tests, truth test = other test) :
    filter.value truth = filter.value other := by
  rw [Bool.eq_iff_iff]
  constructor
  · exact filter.value_mono fun test member h => (same test member) ▸ h
  · exact filter.value_mono fun test member h => (same test member) ▸ h

end FilterQuery.Filter
