import FilterQuery.Proofs.Filter.Truth
import Mathlib.Data.List.Forall2

set_option autoImplicit false
set_option relaxedAutoImplicit false

/-!
The truth values that a filter may have where some of its comparisons cannot be answered. Each such
comparison may be true or false wherever it stands; all others are what they are answered to be.
-/

namespace FilterQuery.Filter

def Connective.apply : Connective → Bool → Bool → Bool
  | .and => (· && ·)
  | .or => (· || ·)

/-- The truth value of a group from those of its parts: all of them, or some of them. -/
def Connective.combine : Connective → List Bool → Bool
  | .and, values => values.all id
  | .or, values => values.any id

private theorem Connective.combine_cons (connective : Connective) (value : Bool)
    (values : List Bool) :
    connective.combine (value :: values) = connective.apply value (connective.combine values) := by
  cases connective <;> rfl

/-- A filter has a truth value for some choice of what its comparisons without an answer are. -/
inductive Formula.MayBe {ε : Type} (answer : Comparison → Except ε Bool) : Formula → Bool → Prop
  | atom {test : Comparison} {value : Bool} (known : ∀ b, answer test = .ok b → value = b) :
    MayBe answer (.atom test) value
  | group {connective : Connective} {parts : List Formula} {values : List Bool}
    (each : List.Forall₂ (MayBe answer) parts values) :
      MayBe answer (.group connective parts) (connective.combine values)

variable {ε : Type} {answer : Comparison → Except ε Bool} {connective : Connective} {part : Formula}
  {parts : List Formula}

theorem Formula.mayBe_nil_iff {c : Bool} :
    (Formula.group connective []).MayBe answer c ↔ c = connective.combine [] := by
  constructor
  · rintro (_ | ⟨_ | _⟩)
    rfl
  · rintro rfl
    exact .group .nil

theorem Formula.mayBe_cons_iff {c : Bool} :
    (Formula.group connective (part :: parts)).MayBe answer c ↔
      ∃ first others, part.MayBe answer first ∧
        (Formula.group connective parts).MayBe answer others ∧
        c = connective.apply first others := by
  constructor
  · rintro (_ | ⟨_ | ⟨first, rest⟩⟩)
    exact ⟨_, _, first, .group rest, connective.combine_cons _ _⟩
  · rintro ⟨first, others, hfirst, hothers, rfl⟩
    cases hothers with
    | group rest =>
      rw [← Connective.combine_cons]
      exact .group (.cons hfirst rest)

theorem Formula.exists_mayBe (answer : Comparison → Except ε Bool) (filter : Formula) :
    ∃ c, filter.MayBe answer c := by
  induction filter using Formula.induction with
  | atom test =>
    cases known : answer test with
    | ok b => exact ⟨b, .atom fun b' same => Except.ok.inj (known.symm.trans same)⟩
    | error e => exact ⟨true, .atom fun b same => by rw [known] at same; cases same⟩
  | group connective parts ih =>
    induction parts with
    | nil => exact ⟨_, .group .nil⟩
    | cons part parts ihparts =>
      obtain ⟨first, hfirst⟩ := ih part (by simp)
      obtain ⟨others, hothers⟩ :=
        ihparts fun other member => ih other (List.mem_cons_of_mem part member)
      exact ⟨_, mayBe_cons_iff.2 ⟨first, others, hfirst, hothers, rfl⟩⟩

theorem Formula.eq_true_of_mayBe_or (member : part ∈ parts)
    (sure : ∀ c, part.MayBe answer c → c = true) {c : Bool}
    (possible : (Formula.group .or parts).MayBe answer c) : c = true := by
  induction parts generalizing c with
  | nil => cases member
  | cons other parts ih =>
    obtain ⟨first, others, hfirst, hothers, rfl⟩ := mayBe_cons_iff.1 possible
    rcases List.mem_cons.1 member with rfl | inside
    · rw [sure first hfirst]
      rfl
    · rw [ih inside hothers]
      exact Bool.or_true first

theorem Formula.mayBe_value {truth : Comparison → Bool} (filter : Formula)
    (agrees : ∀ test ∈ filter.tests, ∀ b, answer test = .ok b → truth test = b) :
    filter.MayBe answer (filter.value truth) := by
  induction filter using Formula.induction with
  | atom test =>
    rw [Formula.value_atom]
    exact .atom (agrees test (by simp))
  | group connective parts ih =>
    have each : ∀ part ∈ parts, part.MayBe answer (part.value truth) := by
      intro part member
      refine ih part member fun test inside => agrees test ?_
      rw [Formula.tests_group]
      exact List.mem_flatMap.2 ⟨part, member, inside⟩
    have made : List.Forall₂ (Formula.MayBe answer) parts (parts.map (·.value truth)) := by
      rw [List.forall₂_map_right_iff, List.forall₂_same]
      exact each
    cases connective with
    | and =>
      have value : (Formula.group .and parts).value truth =
          Connective.combine .and (parts.map (·.value truth)) := by
        simp [Connective.combine]
      rw [value]
      exact .group made
    | or =>
      have value : (Formula.group .or parts).value truth =
          Connective.combine .or (parts.map (·.value truth)) := by
        simp [Connective.combine]
      rw [value]
      exact .group made

end FilterQuery.Filter
