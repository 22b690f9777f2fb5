import FilterQuery.Filter.Replacement
import FilterQuery.Proofs.Document.Meaning
import FilterQuery.Proofs.Query.RoundTrip

set_option autoImplicit false
set_option relaxedAutoImplicit false

/-!
The shape of filters. No group has a single part, whether a filter is read from a text or from a
document, comes out of a replacement or is restricted by another.
-/

namespace FilterQuery.Filter

open FilterQuery.Filter.Replacement

/-- Each group of a filter, at any depth, has an allowed number of parts. -/
inductive Formula.Sized (allowed : Nat → Prop) : Formula → Prop
  | atom (test : Comparison) : Sized allowed (.atom test)
  | group {connective : Connective} {parts : List Formula} (size : allowed parts.length)
    (each : ∀ part ∈ parts, Sized allowed part) : Sized allowed (.group connective parts)

/-- No group of the filter has a single part. -/
def Formula.Collapsed (filter : Formula) : Prop :=
  filter.Sized (· ≠ 1)

theorem Formula.Sized.mono {allowed other : Nat → Prop} (weaker : ∀ n, allowed n → other n)
    {filter : Formula} (sized : filter.Sized allowed) : filter.Sized other := by
  induction sized with
  | atom test => exact .atom test
  | group size _ ih => exact .group (weaker _ size) ih

theorem Formula.Collapsed.join (connective : Connective) {parts : List Formula}
    (each : ∀ part ∈ parts, part.Collapsed) :
    (Formula.join connective parts).Collapsed := by
  match parts with
  | [] => exact .group (by decide) each
  | [part] => exact each part (by simp)
  | first :: second :: others => exact .group (by simp) each

section Replacement

variable {σ : Type} {chosen : Formula → StateM σ Bool} {image : Formula → Formula}

theorem run_bind {α β : Type} (first : StateM σ α) (next : α → StateM σ β) (state : σ) :
    (first >>= next).run state = (next (first.run state).1).run (first.run state).2 := by
  rfl

private theorem collapsed_replaceAllM {parts : List Formula}
    (each : ∀ part ∈ parts, ∀ state, ((replaceM chosen image part).run state).1.Collapsed) :
    ∀ state, ∀ part ∈ ((replaceAllM chosen image parts).run state).1, part.Collapsed := by
  induction parts with
  | nil => intro state; rw [replaceAllM]; nofun
  | cons part parts ih =>
    intro state
    obtain ⟨first, others⟩ := List.forall_mem_cons.1 each
    rw [replaceAllM, run_bind, run_bind]
    exact List.forall_mem_cons.2 ⟨first state, ih others _⟩

/-- Groups that are kept are rebuilt by joining, so only an image could bring in a group with a
single part. The choice of a node may depend on a state that each choice changes. -/
theorem collapsed_replaceM (kept : ∀ node : Formula, node.Collapsed → (image node).Collapsed)
    {filter : Formula} (collapsed : filter.Collapsed) :
    ∀ state, ((replaceM chosen image filter).run state).1.Collapsed := by
  induction collapsed with
  | atom test =>
    intro state
    rw [replaceM, run_bind]
    split
    · exact kept _ (.atom test)
    · exact .atom test
  | group size each ih =>
    intro state
    rw [replaceM, run_bind]
    split
    · exact kept _ (.group size each)
    · exact .join _ (collapsed_replaceAllM ih _)

section Pure

variable {m : Type → Type} [Monad m] [LawfulMonad m] {chosen : Formula → Bool}

private theorem replaceAllM_pure {parts : List Formula}
    (each : ∀ part ∈ parts,
      replaceM (fun node => (pure (chosen node) : m Bool)) image part = pure
        (replace chosen image part)) :
    replaceAllM (fun node => (pure (chosen node) : m Bool)) image parts = pure
      (parts.map (replace chosen image)) := by
  induction parts with
  | nil => rw [replaceAllM]; rfl
  | cons part parts ih =>
    obtain ⟨first, others⟩ := List.forall_mem_cons.1 each
    rw [replaceAllM, first, pure_bind, ih others, pure_bind]
    rfl

theorem replace_atom (test : Comparison) :
    replace chosen image (.atom test) = if chosen (.atom test) then image (.atom test)
      else .atom test := by
  rfl

theorem replace_group (connective : Connective) (parts : List Formula) :
    replace chosen image (.group connective parts) =
      if chosen (.group connective parts) then image (.group connective parts)
      else .join connective (parts.map (replace chosen image)) := by
  have all : replaceAllM (fun node => (pure (chosen node) : Id Bool)) image parts =
      pure (parts.map (replace chosen image)) := replaceAllM_pure fun _ _ => rfl
  rw [replace, replaceM, all]
  rfl

private theorem replaceM_pure (filter : Formula) :
    replaceM (fun node => (pure (chosen node) : m Bool)) image filter = pure
      (replace chosen image filter) := by
  induction filter using Formula.induction with
  | atom test =>
    rw [replaceM, pure_bind, replace_atom]
    split <;> rfl
  | group connective parts ih =>
    rw [replaceM, pure_bind, replace_group, replaceAllM_pure ih, pure_bind]
    split <;> rfl

end Pure

private theorem collapsed_replace {chosen : Formula → Bool}
    (kept : ∀ node : Formula, node.Collapsed → (image node).Collapsed) {filter : Formula}
    (collapsed : filter.Collapsed) : (replace chosen image filter).Collapsed := by
  have stateless : ((replaceM (fun node => (pure (chosen node) : StateM Unit Bool)) image
      filter).run ()).1.Collapsed :=
    collapsed_replaceM kept collapsed ()
  rwa [replaceM_pure] at stateless

end Replacement

private theorem sized_of_isClause {filter : Formula} (clause : Query.IsClause filter) :
    filter.Sized (2 ≤ ·) := by
  cases clause with
  | one _ => exact .atom _
  | several many _ _ =>
    refine .group (by simpa using many) fun part member => ?_
    obtain ⟨test, -, rfl⟩ := List.mem_map.1 member
    exact .atom test

private theorem sized_of_isConjunction {filter : Formula} (proper : Query.IsConjunction filter) :
    filter.Sized (2 ≤ ·) := by
  cases proper with
  | one clause => exact sized_of_isClause clause
  | several many each => exact .group many fun part member => sized_of_isClause (each part member)

private theorem collapsed_of_composed {filter : Formula} (composed : Document.Composed filter) :
    filter.Collapsed := by
  induction composed with
  | atom _ => exact .atom _
  | join connective _ ih => exact .join connective ih

private theorem isKnown_of_composed {filter : Formula} (composed : Document.Composed filter) :
    ∀ test ∈ filter.tests, test.operator.isKnown = true := by
  induction composed with
  | atom known => simpa using known
  | join connective _ ih =>
    intro test member
    rw [Formula.tests_join] at member
    obtain ⟨part, inside, here⟩ := List.mem_flatMap.1 member
    exact ih part inside test here

/-- No filter has a group with a single part: none that is read from a text, which has no empty
group either and is a conjunction of disjunctions of comparisons at most; none that is read from a
document, which has known operators only; none that a replacement makes by images without such
groups, whatever the choice of nodes depends on; and no restricted one. -/
theorem collapsed_filters :
    (∀ text query, Query.Reader.read text = .ok query → ∀ filter ∈ query.filter,
        filter.Collapsed ∧ filter.Sized (2 ≤ ·) ∧ Query.IsConjunction filter) ∧
      (∀ document filter, Document.toFilter document = .ok (some filter) →
        filter.Collapsed ∧ filter.unknownOperator? = none) ∧
      (∀ (image : Formula → Formula) (filter : Formula), (∀ node : Formula, node.Collapsed →
        (image node).Collapsed) →
        filter.Collapsed → (∀ chosen, (replace chosen image filter).Collapsed) ∧
          ∀ (σ : Type) (chosen : Formula → StateM σ Bool) (state : σ),
            ((replaceM chosen image filter).run state).1.Collapsed) ∧
      ∀ (filter : Option Formula) (mandatory : Formula), (∀ part ∈ filter, part.Collapsed) →
        mandatory.Collapsed →
        (restrict filter mandatory).Collapsed := by
  refine ⟨fun text query made filter found => ?_, fun document filter made => ?_,
    fun image filter kept collapsed => ?_, fun filter mandatory collapsed also => ?_⟩
  · have proper := (Query.canonical_of_says (Query.read_eq_ok_iff.1 made)).filter filter found
    have sized := sized_of_isConjunction proper
    exact ⟨sized.mono fun n many => by omega, sized, proper⟩
  · have composed := Document.composed_of_toFilter made
    exact ⟨collapsed_of_composed composed,
      Formula.unknownOperator?_eq_none_iff.2 (isKnown_of_composed composed)⟩
  · exact ⟨fun _ => collapsed_replace kept collapsed, fun _ _ => collapsed_replaceM kept collapsed⟩
  · cases filter with
    | none => exact also
    | some filter =>
      exact .join .and (List.forall_mem_cons.2 ⟨collapsed filter rfl,
        List.forall_mem_singleton.2 also⟩)

/-- The pages of one title, asked for by four lists of one entry each. -/
def nestedTitle : Json.Value :=
  .object [("$and", .list [.object
    [("$or", .list [.object [("title", .object [("$in", .list [.text "Home"])])]])]])]

/-- A group around the title would not be collapsed. There is none: not as the document is read, nor
where every comparison is replaced, nor in what is restricted. -/
theorem nestedTitle_collapsed :
    ¬(Formula.group .or [.compare "title" .eq "Home"]).Collapsed ∧
      Document.toFilter nestedTitle = .ok (some (.compare "title" .eq "Home")) ∧
      (Formula.compare "title" .eq "Home").Collapsed ∧
      (replace (fun _ => true) (fun node => .join .or [node])
        (.compare "title" .eq "Home")).Collapsed ∧
      (restrict (some (.compare "title" .eq "Home")) (.compareNull "author" .ne)).Collapsed := by
  have made : Document.toFilter nestedTitle = .ok (some (.compare "title" .eq "Home")) := by rfl
  obtain ⟨-, documents, replacements, restrictions⟩ := collapsed_filters
  have collapsed := (documents nestedTitle _ made).1
  have kept : ∀ node : Formula, node.Collapsed → (Formula.join .or [node]).Collapsed :=
    fun _ same => same
  refine ⟨?_, made, collapsed, (replacements _ _ kept collapsed).1 _, restrictions _ _ ?_ (.atom _)⟩
  · rintro (_ | ⟨size, _⟩)
    exact size rfl
  · rintro _ ⟨⟩
    exact collapsed

end FilterQuery.Filter
