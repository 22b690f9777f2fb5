import FilterQuery.Proofs.Filter.Address
import FilterQuery.Proofs.Filter.Shape

set_option autoImplicit false
set_option relaxedAutoImplicit false

/-!
What a replacement does to a filter, address by address. Each chosen node with no chosen node above
it gives way to its image, all other groups keep their connective and the number of their parts, and
all other comparisons stay. The choice is asked about the nodes with no chosen node above them, each
once, in the order of their addresses.
-/

namespace FilterQuery.Filter

open FilterQuery.Filter.Replacement

/-- What becomes of a node about which the choice is asked: a chosen node gives way to its image, a
comparison stays, and a group stays a group of as many parts under the same connective. -/
inductive Becomes (chosen : Formula → Bool) (image : Formula → Formula) : Formula → Formula → Prop
  | image {node : Formula} (here : chosen node = true) : Becomes chosen image node (image node)
  | comparison {test : Comparison} (kept : chosen (.atom test) = false) :
      Becomes chosen image (.atom test) (.atom test)
  | group {connective : Connective} {parts others : List Formula}
      (kept : chosen (.group connective parts) = false)
    (size : others.length = parts.length) :
    Becomes chosen image (.group connective parts) (.group connective others)

/-- A filter after the replacement of its topmost chosen nodes: at each address that is reached
stands what becomes of the node there. Nothing is said of what is below a chosen node, where an
image may have any shape. -/
def Replaced (chosen : Formula → Bool) (image : Formula → Formula) (filter result : Formula) :
    Prop :=
  ∀ address node, Reached chosen filter address node →
    ∃ after, result.at? address = some after ∧ Becomes chosen image node after

variable {chosen : Formula → Bool} {image : Formula → Formula} {filter result : Formula}

private theorem replaced_iff :
    Replaced chosen image filter result ↔
      Becomes chosen image filter result ∧
        (chosen filter = false → ∀ (i : Nat) part, filter.parts[i]? = some part →
          ∃ other, result.parts[i]? = some other ∧ Replaced chosen image part other) := by
  constructor
  · intro replaced
    constructor
    · obtain ⟨after, here, becomes⟩ := replaced [] filter (reached_nil_iff.2 rfl)
      rw [Formula.at?_nil] at here
      rwa [Option.some.inj here]
    · intro unchosen i part found
      have below : ∀ {address node}, Reached chosen part address node →
          Reached chosen filter (i :: address) node :=
        fun reached => reached_cons_iff.2 ⟨unchosen, part, found, reached⟩
      obtain ⟨after, here, -⟩ := replaced [i] part (below (reached_nil_iff.2 rfl))
      rw [Formula.at?_cons] at here
      obtain ⟨other, same, -⟩ := Option.bind_eq_some_iff.1 here
      refine ⟨other, same, ?_⟩
      intro address node reached
      have inside := replaced (i :: address) node (below reached)
      rwa [Formula.at?_part same] at inside
  · rintro ⟨becomes, each⟩ address node reached
    cases address with
    | nil =>
      rw [reached_nil_iff.1 reached]
      exact ⟨result, Formula.at?_nil result, becomes⟩
    | cons i address =>
      obtain ⟨unchosen, part, found, reached⟩ := reached_cons_iff.1 reached
      obtain ⟨other, same, replaced⟩ := each unchosen i part found
      rw [Formula.at?_part same]
      exact replaced address node reached

private theorem replaced_of_chosen (here : chosen filter = true) :
    Replaced chosen image filter result ↔ image filter = result := by
  rw [replaced_iff]
  constructor
  · rintro ⟨becomes, -⟩
    cases becomes with
    | image _ => rfl
    | comparison kept => rw [kept] at here; cases here
    | group kept _ => rw [kept] at here; cases here
  · rintro rfl
    refine ⟨.image here, ?_⟩
    intro unchosen
    rw [here] at unchosen
    cases unchosen

private theorem join_of_length_ne_one (connective : Connective) {parts : List Formula}
    (size : parts.length ≠ 1) :
    Formula.join connective parts = .group connective parts := by
  match parts, size with
  | [], _ => rfl
  | [_], size => exact absurd rfl size
  | _ :: _ :: _, _ => rfl

/-- By induction on the filter: the replacement is the only filter in which the topmost chosen nodes
are replaced. -/
theorem replace_eq_iff (collapsed : filter.Collapsed) :
    replace chosen image filter = result ↔ Replaced chosen image filter result := by
  induction collapsed generalizing result with
  | atom test =>
    rw [replace_atom]
    split
    · rename_i here
      exact (replaced_of_chosen here).symm
    · rename_i unchosen
      rw [replaced_iff]
      constructor
      · rintro rfl
        exact ⟨.comparison (by simpa using unchosen), fun _ i part found => by cases found⟩
      · rintro ⟨becomes, -⟩
        cases becomes with
        | image here => exact absurd here unchosen
        | comparison _ => rfl
  | @group connective parts size each ih =>
    rw [replace_group]
    split
    · rename_i here
      exact (replaced_of_chosen here).symm
    · rename_i unchosen
      rw [join_of_length_ne_one connective (by rwa [List.length_map]), replaced_iff]
      constructor
      · rintro rfl
        refine ⟨.group (by simpa using unchosen) (List.length_map _), ?_⟩
        intro _ i part found
        refine ⟨replace chosen image part, ?_, (ih part (List.mem_of_getElem? found)).1 rfl⟩
        show (parts.map (replace chosen image))[i]? = _
        rw [List.getElem?_map, show parts[i]? = some part from found]
        rfl
      · rintro ⟨becomes, below⟩
        cases becomes with
        | image here => exact absurd here unchosen
        | @group _ _ others kept size =>
          have parted : parts.map (replace chosen image) = others := by
            apply List.ext_getElem (by rw [List.length_map, size])
            intro i inside inside'
            rw [List.length_map] at inside
            obtain ⟨other, found, replaced⟩ :=
              below kept i parts[i] (List.getElem?_eq_getElem inside)
            rw [List.getElem_map, (ih _ (List.getElem_mem inside)).2 replaced]
            exact (List.getElem_eq_iff inside').2 found |>.symm
          rw [parted]

def recording (chosen : Formula → Bool) (node : Formula) : StateM (List Formula) Bool := do
  modify (node :: ·)
  pure (chosen node)

private theorem replaceVisiting_eq (chosen : Formula → Bool) (image : Formula → Formula)
    (filter : Formula) :
    replaceVisiting chosen image filter =
      (((replaceM (recording chosen) image filter).run []).1,
        ((replaceM (recording chosen) image filter).run []).2.reverse) := rfl

private theorem map_askedOfAll (chosen : Formula → Bool) (first : Nat) (parts : List Formula) :
    (askedOfAll chosen first parts).map (·.2) = parts.flatMap fun part =>
      (part.asked chosen).map (·.2) := by
  induction parts generalizing first with
  | nil => rw [askedOfAll]; rfl
  | cons part parts ih =>
    rw [askedOfAll, List.map_append, List.map_map, ih, List.flatMap_cons]
    rfl

private theorem run_replaceAllM {parts : List Formula}
    (each : ∀ part ∈ parts, ∀ record, (replaceM (recording chosen) image part).run record =
      (replace chosen image part, ((part.asked chosen).map (·.2)).reverse ++ record))
        (record : List Formula) :
    (replaceAllM (recording chosen) image parts).run record =
      (parts.map (replace chosen image),
        (parts.flatMap fun part => (part.asked chosen).map (·.2)).reverse ++ record) := by
  induction parts generalizing record with
  | nil => rw [replaceAllM]; rfl
  | cons part parts ih =>
    obtain ⟨here, rest⟩ := List.forall_mem_cons.1 each
    rw [replaceAllM, run_bind, run_bind, here, ih rest, List.flatMap_cons, List.reverse_append,
      List.append_assoc]
    rfl

private theorem run_replaceM (filter : Formula) (record : List Formula) :
    (replaceM (recording chosen) image filter).run record =
      (replace chosen image filter, ((filter.asked chosen).map (·.2)).reverse ++ record) := by
  induction filter using Formula.induction generalizing record with
  | atom test =>
    rw [replaceM, run_bind, replace_atom, Formula.asked]
    show (ite (chosen (.atom test) = true) _ _ : StateM (List Formula) Formula).run
      (.atom test :: record) = _
    split <;> rfl
  | group connective parts ih =>
    rw [replaceM, run_bind, replace_group, Formula.asked]
    show (ite (chosen (.group connective parts) = true) _ _ : StateM (List Formula) Formula).run
      (.group connective parts :: record) = _
    cases chosen (.group connective parts) with
    | true => rfl
    | false =>
      simp only [Bool.false_eq_true, if_false]
      rw [run_bind, run_replaceAllM ih, List.map_cons, map_askedOfAll, List.reverse_cons,
        List.append_assoc]
      rfl

private theorem replaceVisiting_asked (chosen : Formula → Bool) (image : Formula → Formula)
    (filter : Formula) :
    replaceVisiting chosen image filter =
      (replace chosen image filter, (filter.asked chosen).map (·.2)) := by
  rw [replaceVisiting_eq, run_replaceM, List.append_nil, List.reverse_reverse]

/-- Of a filter without groups of a single part, the replacement is the one filter in which each
topmost chosen node has given way to its image and every other node that is reached is what it was,
up to its parts; where nothing is chosen it is the filter itself. The choice is asked about the
nodes of the filter with no chosen node above them and about no others, once for each of their
addresses, in increasing order of these: a group before its parts, and those in turn. -/
theorem replaces_topmost (chosen : Formula → Bool) (image : Formula → Formula) {filter : Formula}
    (collapsed : filter.Collapsed) :
    (∀ result, replace chosen image filter = result ↔ Replaced chosen image filter result) ∧
      ((∀ node, chosen node = false) → replace chosen image filter = filter) ∧
      (replaceVisiting chosen image filter).1 = replace chosen image filter ∧
      ∃ addresses : List (List Nat), addresses.Pairwise (· < ·) ∧
        List.Forall₂ (Reached chosen filter) addresses (replaceVisiting chosen image filter).2 ∧
        ∀ address node, Reached chosen filter address node → address ∈ addresses := by
  refine ⟨fun result => replace_eq_iff collapsed, ?_, ?_,
    (filter.asked chosen).map (·.1), ?_, ?_, ?_⟩
  · intro never
    apply (replace_eq_iff collapsed).2
    intro address node reached
    refine ⟨node, reached.here, ?_⟩
    cases node with
    | atom test => exact .comparison (never _)
    | group connective parts => exact .group (never _) rfl
  · rw [replaceVisiting_asked]
  · rw [List.pairwise_map]
    exact pairwise_asked chosen filter
  · rw [replaceVisiting_asked, List.forall₂_map_left_iff, List.forall₂_map_right_iff,
      List.forall₂_same]
    intro place member
    exact mem_asked_iff.1 member
  · intro address node reached
    exact List.mem_map.2 ⟨(address, node), mem_asked_iff.2 reached, rfl⟩

/-- The pages of one title that have no author, or not a certain one. -/
def othersPages : Formula :=
  .group .and [.compare "title" .eq "News",
    .group .or [.compareNull "author" .eq, .compare "author" .ne "Ann"]]

def isDisjunction : Formula → Bool
  | .group .or _ => true
  | _ => false

/-- The disjunction gives way to an empty one. Neither its parts are asked about nor what took its
place, although that is a disjunction too. -/
theorem othersPages_replaced :
    othersPages.Collapsed ∧
      Replaced isDisjunction (fun _ => .group .or []) othersPages
        (.group .and [.compare "title" .eq "News", .group .or []]) ∧
      ∃ addresses : List (List Nat), addresses.Pairwise (· < ·) ∧
        List.Forall₂ (Reached isDisjunction othersPages) addresses
          [othersPages, .compare "title" .eq "News",
            .group .or [.compareNull "author" .eq, .compare "author" .ne "Ann"]] := by
  have collapsed : othersPages.Collapsed := by
    refine .group (by decide) (List.forall_mem_cons.2 ⟨.atom _, List.forall_mem_singleton.2 ?_⟩)
    exact .group (by decide) (List.forall_mem_cons.2 ⟨.atom _,
      List.forall_mem_singleton.2 (.atom _)⟩)
  obtain ⟨replaced, -, -, addresses, ordered, reached, -⟩ :=
    replaces_topmost isDisjunction (fun _ => .group .or []) collapsed
  exact ⟨collapsed, (replaced _).1 rfl, addresses, ordered, reached⟩

end FilterQuery.Filter
