import FilterQuery.Filter
import FilterQuery.Proofs.Filter.Truth
import Mathlib.Data.List.Infix

set_option autoImplicit false
set_option relaxedAutoImplicit false

/-!
Addresses of the nodes of a filter. An address says at each group on the way which part to go to, so
an address comes before all that continue it, and the addresses of one part before those of the
next. Where a choice of nodes is asked from the top down and not below a chosen node, the nodes that
it is asked about are those with no chosen node above them.
-/

namespace FilterQuery.Filter

/-- The parts of a group; a comparison has none. -/
def Formula.parts : Formula → List Formula
  | .atom _ => []
  | .group _ parts => parts

def Formula.at? : Formula → List Nat → Option Formula
  | filter, [] => some filter
  | filter, i :: address => filter.parts[i]?.bind (·.at? address)

variable {chosen : Formula → Bool} {filter node part : Formula} {i : Nat} {address : List Nat}

@[simp] theorem Formula.parts_atom (test : Comparison) : (Formula.atom test).parts = [] := rfl

@[simp] theorem Formula.parts_group (connective : Connective) (parts : List Formula) :
    (Formula.group connective parts).parts = parts := rfl

@[simp] theorem Formula.at?_nil (filter : Formula) : filter.at? [] = some filter := by
  rw [Formula.at?]

theorem Formula.at?_cons (filter : Formula) (i : Nat) (address : List Nat) :
    filter.at? (i :: address) = filter.parts[i]?.bind (·.at? address) := by
  rw [Formula.at?]

theorem Formula.at?_part (here : filter.parts[i]? = some part) (address : List Nat) :
    filter.at? (i :: address) = part.at? address := by
  rw [Formula.at?_cons, here, Option.bind_some]

/-- The node at an address, where no node above it is chosen. -/
structure Reached (chosen : Formula → Bool) (filter : Formula) (address : List Nat)
    (node : Formula) : Prop where
  here : filter.at? address = some node
  above : ∀ before other, before <+: address → before ≠ address → filter.at? before = some other →
    chosen other = false

theorem reached_nil_iff : Reached chosen filter [] node ↔ node = filter := by
  constructor
  · intro reached
    have same := reached.here
    rw [Formula.at?_nil] at same
    exact (Option.some.inj same).symm
  · intro same
    refine ⟨by rw [same, Formula.at?_nil], ?_⟩
    intro before other shorter proper
    exact absurd (List.prefix_nil.1 shorter) proper

theorem reached_cons_iff :
    Reached chosen filter (i :: address) node ↔
      chosen filter = false ∧ ∃ part, filter.parts[i]? = some part ∧
        Reached chosen part address node := by
  constructor
  · intro reached
    have here := reached.here
    rw [Formula.at?_cons] at here
    obtain ⟨part, found, below⟩ := Option.bind_eq_some_iff.1 here
    refine ⟨reached.above [] filter List.nil_prefix (by simp) (Formula.at?_nil filter), part,
      found, below, ?_⟩
    intro before other shorter proper node
    apply reached.above (i :: before) other (List.cons_prefix_cons.2 ⟨rfl, shorter⟩)
    · simpa using proper
    · rw [Formula.at?_part found, node]
  · rintro ⟨open_, part, found, reached⟩
    refine ⟨by rw [Formula.at?_part found, reached.here], ?_⟩
    intro before other shorter proper node
    cases before with
    | nil =>
      rw [Formula.at?_nil] at node
      rw [← Option.some.inj node, open_]
    | cons j before =>
      obtain ⟨rfl, within⟩ := List.cons_prefix_cons.1 shorter
      rw [Formula.at?_part found] at node
      exact reached.above before other within (by simpa using proper) node

mutual

/-- The nodes about which a choice is asked from the top down, with their addresses: a group before
its parts, and nothing below a chosen group. -/
def Formula.asked (chosen : Formula → Bool) : Formula → List (List Nat × Formula)
  | .atom test => [([], .atom test)]
  | .group connective parts =>
    ([], .group connective parts) :: if chosen (.group connective parts) then []
      else askedOfAll chosen 0 parts

def askedOfAll (chosen : Formula → Bool) (i : Nat) : List Formula → List (List Nat × Formula)
  | [] => []
  | part :: parts =>
    (part.asked chosen).map (fun place => (i :: place.1, place.2)) ++
      askedOfAll chosen (i + 1) parts

end

private theorem mem_askedOfAll_iff {parts : List Formula} {first : Nat}
    {place : List Nat × Formula} :
    place ∈ askedOfAll chosen first parts ↔
      ∃ j part, parts[j]? = some part ∧
        ∃ inside ∈ part.asked chosen, place = ((first + j) :: inside.1, inside.2) := by
  induction parts generalizing first with
  | nil => simp [askedOfAll]
  | cons part parts ih =>
    rw [askedOfAll, List.mem_append, List.mem_map, ih]
    constructor
    · rintro (⟨inside, member, rfl⟩ | ⟨j, other, found, inside, member, rfl⟩)
      · exact ⟨0, part, rfl, inside, member, rfl⟩
      · refine ⟨j + 1, other, found, inside, member, ?_⟩
        rw [Nat.add_right_comm, Nat.add_assoc]
    · rintro ⟨j, other, found, inside, member, rfl⟩
      cases j with
      | zero =>
        obtain rfl := Option.some.inj found
        exact .inl ⟨inside, member, rfl⟩
      | succ j =>
        refine .inr ⟨j, other, found, inside, member, ?_⟩
        rw [Nat.add_right_comm, Nat.add_assoc]

theorem mem_asked_iff : (address, node) ∈ filter.asked chosen ↔
    Reached chosen filter address node := by
  induction filter using Formula.induction generalizing address node with
  | atom test =>
    rw [Formula.asked]
    cases address with
    | nil => simp [reached_nil_iff]
    | cons i address => simp [reached_cons_iff]
  | group connective parts ih =>
    rw [Formula.asked]
    cases address with
    | nil =>
      rw [reached_nil_iff, List.mem_cons]
      constructor
      · rintro (same | below)
        · exact congrArg Prod.snd same
        · split at below
          · cases below
          · obtain ⟨j, part, -, inside, -, place⟩ := mem_askedOfAll_iff.1 below
            cases congrArg Prod.fst place
      · intro same
        rw [same]
        exact .inl rfl
    | cons i address =>
      rw [reached_cons_iff, List.mem_cons]
      have other : ((i :: address, node) : List Nat × Formula) ≠ ([], .group connective parts) := by
        simp
      constructor
      · rintro (same | below)
        · exact absurd same other
        · split at below
          · cases below
          · rename_i unchosen
            obtain ⟨j, part, found, inside, member, place⟩ := mem_askedOfAll_iff.1 below
            obtain ⟨⟨rfl, rfl⟩, rfl⟩ : (i = 0 + j ∧ address = inside.1) ∧ node = inside.2 := by
              simpa using place
            rw [Nat.zero_add]
            exact ⟨by simpa using unchosen, part, found, (ih part
              (List.mem_of_getElem? found)).1 member⟩
      · rintro ⟨unchosen, part, found, reached⟩
        refine .inr ?_
        rw [unchosen, if_neg Bool.false_ne_true]
        refine mem_askedOfAll_iff.2 ⟨i, part, found, (address, node), ?_, by rw [Nat.zero_add]⟩
        exact (ih part (List.mem_of_getElem? found)).2 reached

private theorem pairwise_askedOfAll {parts : List Formula}
    (each : ∀ part ∈ parts, (part.asked chosen).Pairwise fun a b => a.1 < b.1) (first : Nat) :
    (askedOfAll chosen first parts).Pairwise fun a b => a.1 < b.1 := by
  induction parts generalizing first with
  | nil => exact .nil
  | cons part parts ih =>
    obtain ⟨here, others⟩ := List.forall_mem_cons.1 each
    rw [askedOfAll, List.pairwise_append]
    refine ⟨?_, ih others (first + 1), ?_⟩
    · rw [List.pairwise_map]
      exact here.imp fun less => List.cons_lt_cons_iff.2 (.inr ⟨rfl, less⟩)
    · intro a earlier b later
      obtain ⟨inside, -, rfl⟩ := List.mem_map.1 earlier
      obtain ⟨j, other, -, inside', -, rfl⟩ := mem_askedOfAll_iff.1 later
      exact List.cons_lt_cons_iff.2 (.inl (by omega))

/-- The nodes are asked about in the order of their addresses, and each of them once. -/
theorem pairwise_asked (chosen : Formula → Bool) (filter : Formula) :
    (filter.asked chosen).Pairwise fun a b => a.1 < b.1 := by
  induction filter using Formula.induction with
  | atom test =>
    rw [Formula.asked]
    exact List.pairwise_singleton _ _
  | group connective parts ih =>
    rw [Formula.asked, List.pairwise_cons]
    split
    · exact ⟨nofun, .nil⟩
    · refine ⟨?_, pairwise_askedOfAll ih 0⟩
      intro place below
      obtain ⟨j, part, -, inside, -, rfl⟩ := mem_askedOfAll_iff.1 below
      exact List.nil_lt_cons _ _

end FilterQuery.Filter
