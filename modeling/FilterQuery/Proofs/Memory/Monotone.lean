import FilterQuery.Proofs.Filter.Address
import FilterQuery.Proofs.Filter.Shape
import FilterQuery.Proofs.Memory.Pruning

set_option autoImplicit false
set_option relaxedAutoImplicit false

/-!
Replacements and what filters mean. Pruned predicates are monotone in the nodes of their filters:
where each image accepts a record only if the node does that it takes the place of, the changed
filter accepts the record only if the filter does, and the other way round. So a replacement that
keeps the meaning of each node keeps that of the filter.
-/

namespace FilterQuery.Memory

open FilterQuery.Filter (Comparison Connective Formula Reached reached_cons_iff reached_nil_iff)
open FilterQuery.Filter.Replacement (replace)
open FilterQuery.Scalar (Coercion)

/-- The predicate of a filter accepts a record. -/
def Accepts (context : Context) (record : Json.Value) (filter : Formula) : Prop :=
  ∃ predicate, compileFilter context (some filter) = .ok predicate ∧
    predicate.test record = .ok true

def Bounds (upper lower : Except Error Bool) : Prop :=
  upper = .ok false → lower ≠ .ok true

private theorem bounds_self (outcome : Except Error Bool) : Bounds outcome outcome := by
  intro no yes
  rw [no] at yes
  cases yes

section

variable {coerce : Coercion} {record : Json.Value} {connective : Connective} {nodes : List Node}

def askInTurn (coerce : Coercion) (record : Json.Value) : Connective → List Node → Except Error Bool
  | .and => holdAll coerce record
  | .or => holdsAny coerce record

theorem askInTurn_cons (node : Node) (nodes : List Node) :
    askInTurn coerce record connective (node :: nodes) =
      (node.holds coerce record).bind fun b =>
        if b = decisive connective then .ok b else askInTurn coerce record connective nodes := by
  cases connective with
  | and => exact holdAll_cons node nodes
  | or => exact holdsAny_cons node nodes

theorem askInTurn_nil : askInTurn coerce record connective [] = .ok !decisive connective := by
  cases connective with
  | and => exact holdAll.eq_1 coerce record
  | or => exact holdsAny.eq_1 coerce record

private theorem askInTurn_eq_ok {b : Bool}
    (asked : askInTurn coerce record connective nodes = .ok b) :
    (b = decisive connective → ∃ node ∈ nodes, node.holds coerce record = .ok b) ∧
      (b ≠ decisive connective → ∀ node ∈ nodes, node.holds coerce record = .ok b) := by
  induction nodes with
  | nil =>
    rw [askInTurn_nil] at asked
    refine ⟨?_, fun _ => nofun⟩
    intro same
    rw [same] at asked
    cases connective <;> cases asked
  | cons node nodes ih =>
    rw [askInTurn_cons] at asked
    obtain ⟨first, here, asked⟩ := bind_eq_ok_iff.1 asked
    by_cases settled : first = decisive connective
    · rw [if_pos settled] at asked
      obtain rfl := Except.ok.inj asked
      exact ⟨fun _ => ⟨node, by simp, here⟩, fun other => absurd settled other⟩
    · rw [if_neg settled] at asked
      obtain ⟨decided, undecided⟩ := ih asked
      constructor
      · intro same
        obtain ⟨other, member, holds⟩ := decided same
        exact ⟨other, List.mem_cons_of_mem node member, holds⟩
      · intro open_
        have same : first = b := by
          cases first <;> cases b <;> cases connective <;> simp_all [decisive]
        exact List.forall_mem_cons.2 ⟨same ▸ here, undecided open_⟩

/-- A group answers as its parts do in turn, unless it holds always because one of them does. -/
theorem holds_group (coerce : Coercion) (record : Json.Value) (connective : Connective)
    (nodes : List Node) :
    (group connective nodes).holds coerce record = askInTurn coerce record connective nodes ∨
      connective = .or ∧ (group connective nodes).holds coerce record = .ok true ∧
        ∃ node ∈ nodes, node.holds coerce record = .ok true := by
  cases connective with
  | and => exact .inl (group_and_eq nodes)
  | or =>
    have made : group .or nodes =
      if nodes.isEmpty then .never else if nodes.any (·.isAlways) then .always else .any nodes :=
        rfl
    rw [made]
    by_cases empty : nodes = []
    · rw [empty, if_pos List.isEmpty_nil, Node.holds, askInTurn_nil]
      exact .inl rfl
    · rw [if_neg (by simpa using empty)]
      by_cases found : nodes.any (·.isAlways) = true
      · obtain ⟨node, member, always⟩ := List.any_eq_true.1 found
        rw [if_pos found, Node.holds]
        exact .inr ⟨rfl, rfl, node, member, holds_of_isAlways always⟩
      · rw [if_neg found, Node.holds]
        exact .inl rfl

private theorem group_eq_ok {b : Bool}
    (answered : (group connective nodes).holds coerce record = .ok b) :
    (b = decisive connective → ∃ node ∈ nodes, node.holds coerce record = .ok b) ∧
      (b ≠ decisive connective → ∀ node ∈ nodes, node.holds coerce record = .ok b) := by
  rcases holds_group coerce record connective nodes with same | ⟨rfl, yes, found⟩
  · rw [same] at answered
    exact askInTurn_eq_ok answered
  · rw [yes] at answered
    obtain rfl := Except.ok.inj answered
    exact ⟨fun _ => found, fun other => absurd rfl other⟩

/-- A group bounds another under the same connective whose parts its own parts bound: of a no and a
yes one is decisive, and the part that gave it answers to a part that gave the other. -/
theorem group_bounds {uppers lowers : List Node}
    (pairs : List.Forall₂ (fun x y => Bounds (x.holds coerce record) (y.holds coerce record))
      uppers lowers) :
    Bounds ((group connective uppers).holds coerce record)
      ((group connective lowers).holds coerce record) := by
  intro no yes
  have bounded : ∀ i (inside : i < uppers.length) (inside' : i < lowers.length),
      uppers[i].holds coerce record = .ok false → lowers[i].holds coerce record ≠ .ok true :=
    fun i inside inside' => pairs.get inside inside'
  cases connective with
  | and =>
    obtain ⟨node, member, here⟩ := (group_eq_ok no).1 rfl
    obtain ⟨i, inside, rfl⟩ := List.getElem_of_mem member
    have inside' : i < lowers.length := by rwa [← pairs.length_eq]
    exact bounded i inside inside' here ((group_eq_ok yes).2 nofun _ (List.getElem_mem inside'))
  | or =>
    obtain ⟨node, member, here⟩ := (group_eq_ok yes).1 rfl
    obtain ⟨i, inside', rfl⟩ := List.getElem_of_mem member
    have inside : i < uppers.length := by rwa [pairs.length_eq]
    exact bounded i inside inside' ((group_eq_ok no).2 nofun _ (List.getElem_mem inside)) here

private theorem compileFormula_join {context : Context} {parts : List Formula} {node : Node}
    (compiled : compileFormula context (.join connective parts) = .ok node) :
    ∃ nodes, parts.mapM (compileFormula context) = .ok nodes ∧
      ∀ coerce record, node.holds coerce record = (group connective nodes).holds coerce record := by
  have grouped : ∀ {others}, compileFormula context (.group connective others) = .ok node →
      ∃ nodes, others.mapM (compileFormula context) = .ok nodes ∧
        ∀ coerce record, node.holds coerce record =
          (group connective nodes).holds coerce record := by
    intro others compiled
    rw [compileFormula_group] at compiled
    obtain ⟨nodes, each, rfl⟩ := map_eq_ok_iff.1 compiled
    exact ⟨nodes, each, fun _ _ => rfl⟩
  match parts with
  | [] => exact grouped compiled
  | _ :: _ :: _ => exact grouped compiled
  | [part] =>
    have alone : compileFormula context part = .ok node := compiled
    refine ⟨[node], by rw [List.mapM_cons, alone]; rfl, ?_⟩
    intro coerce record
    have asked : askInTurn coerce record connective [node] = node.holds coerce record := by
      rw [askInTurn_cons, askInTurn_nil]
      cases node.holds coerce record with
      | error e => rfl
      | ok b => cases b <;> cases connective <;> rfl
    rcases holds_group coerce record connective [node] with same | ⟨-, yes, found⟩
    · rw [same, asked]
    · rw [yes]
      simpa using found

end

variable {context : Context} {record : Json.Value} {chosen : Formula → Bool}
  {image : Formula → Formula}

/-- What relates each node that is replaced to its image relates a filter to what it becomes, if it
relates every outcome to itself, and groups whose parts it relates. -/
theorem replace_related {R : Except Error Bool → Except Error Bool → Prop}
    (self : ∀ outcome, R outcome outcome) (groups : ∀ {connective : Connective} {xs ys : List Node},
      List.Forall₂ (fun x y => R (x.holds context.coerce record)
        (y.holds context.coerce record)) xs ys →
        R ((group connective xs).holds context.coerce record)
          ((group connective ys).holds context.coerce record))
    {filter : Formula} {before after : Node} (hbefore : compileFormula context filter = .ok before)
    (hafter : compileFormula context (replace chosen image filter) = .ok after)
    (each : ∀ address node, Reached chosen filter address node → chosen node = true → ∀ x y,
      compileFormula context node = .ok x → compileFormula context (image node) = .ok y →
        R (x.holds context.coerce record) (y.holds context.coerce record)) :
    R (before.holds context.coerce record) (after.holds context.coerce record) := by
  induction filter using Formula.induction generalizing before after with
  | atom test =>
    rw [Filter.replace_atom] at hafter
    split at hafter
    · rename_i here
      exact each [] _ (reached_nil_iff.2 rfl) here _ _ hbefore hafter
    · rw [hbefore] at hafter
      obtain rfl := Except.ok.inj hafter
      exact self _
  | group connective parts ih =>
    rw [Filter.replace_group] at hafter
    split at hafter
    · rename_i here
      exact each [] _ (reached_nil_iff.2 rfl) here _ _ hbefore hafter
    · rename_i unchosen
      rw [compileFormula_group] at hbefore
      obtain ⟨xs, made, rfl⟩ := map_eq_ok_iff.1 hbefore
      obtain ⟨ys, made', same⟩ := compileFormula_join hafter
      rw [same]
      rw [List.mapM_map] at made'
      apply groups
      apply forall₂_of_mapM_both made made'
      intro part member x y hx hy
      apply ih part member hx hy
      intro address node reached
      obtain ⟨i, found⟩ := List.getElem?_of_mem member
      exact each (i :: address) node
        (reached_cons_iff.2 ⟨by simpa using unchosen, part, found, reached⟩)

private theorem accepts_iff {filter : Formula} {node : Node}
    (compiled : compileFormula context filter = .ok node) :
    Accepts context record filter ↔ node.holds context.coerce record = .ok true := by
  unfold Accepts
  rw [compileFilter_some, compiled]
  constructor
  · rintro ⟨predicate, made, accepts⟩
    obtain rfl := Except.ok.inj made
    exact accepts
  · intro holds
    exact ⟨_, rfl, holds⟩

private theorem exists_test {filter : Formula} {predicate : Predicate}
    (compiled : compileFilter context (some filter) = .ok predicate)
    (answers : ∀ test ∈ filter.tests, ∃ b, answer context record test = .ok b) :
    ∃ b, predicate.test record = .ok b := by
  rw [compileFilter_some] at compiled
  obtain ⟨node, made, rfl⟩ := map_eq_ok_iff.1 compiled
  have settles : Settles (answer context record) filter (node.holds context.coerce record) :=
    compileFormula_settles made
  show ∃ b, node.holds context.coerce record = .ok b
  cases outcome : node.holds context.coerce record with
  | ok b => exact ⟨b, rfl⟩
  | error e =>
    rw [outcome] at settles
    obtain ⟨test, member, fails⟩ := settles
    obtain ⟨b, known⟩ := answers test member
    rw [fails] at known
    cases known

private theorem yes_of_bounds {upper lower : Except Error Bool} (bounds : Bounds upper lower)
    (answered : ∃ b, upper = .ok b) (yes : lower = .ok true) : upper = .ok true := by
  obtain ⟨b, known⟩ := answered
  cases b with
  | true => exact known
  | false => exact absurd yes (bounds known)

/-- Predicates are monotone under replacement. Where each image accepts a record only if the node
does that it takes the place of, the changed filter accepts it only if the filter does, provided
that the filter's predicate answers. Where each node accepts it only if its image does, the filter
accepts it only if the changed one does, provided that that one's predicate answers. Where both
answer, and each image accepts the record just if its node does, they answer the same. A predicate
answers wherever no comparison of its filter fails. -/
theorem replace_monotone {filter : Formula} {before after : Predicate}
    (hbefore : compileFilter context (some filter) = .ok before)
    (hafter : compileFilter context (some (replace chosen image filter)) = .ok after)
    (record : Json.Value) :
    ((∀ test ∈ filter.tests, ∃ b, answer context record test = .ok b) →
      ∃ b, before.test record = .ok b) ∧
    ((∀ test ∈ (replace chosen image filter).tests, ∃ b, answer context record test = .ok b) →
      ∃ b, after.test record = .ok b) ∧
    ((∃ b, before.test record = .ok b) →
      (∀ address node, Reached chosen filter address node → chosen node = true →
        Accepts context record (image node) → Accepts context record node) →
      after.test record = .ok true → before.test record = .ok true) ∧
    ((∃ b, after.test record = .ok b) →
      (∀ address node, Reached chosen filter address node → chosen node = true →
        Accepts context record node → Accepts context record (image node)) →
      before.test record = .ok true → after.test record = .ok true) ∧
    ((∃ b, before.test record = .ok b) → (∃ b, after.test record = .ok b) →
      (∀ address node, Reached chosen filter address node → chosen node = true →
        (Accepts context record (image node) ↔ Accepts context record node)) →
      after.test record = before.test record) := by
  obtain ⟨upper, made, same⟩ := map_eq_ok_iff.1 ((compileFilter_some filter).symm.trans hbefore)
  obtain ⟨lower, made', same'⟩ := map_eq_ok_iff.1 ((compileFilter_some _).symm.trans hafter)
  have narrower : (∃ b, before.test record = .ok b) →
      (∀ address node, Reached chosen filter address node → chosen node = true →
        Accepts context record (image node) → Accepts context record node) →
      after.test record = .ok true → before.test record = .ok true := by
    intro answered each
    refine yes_of_bounds ?_ answered
    rw [← same, ← same']
    apply replace_related bounds_self group_bounds made made'
    intro address node reached here x y hx hy no yes
    have accepts := each address node reached here ((accepts_iff hy).2 yes)
    rw [accepts_iff hx, no] at accepts
    cases accepts
  have wider : (∃ b, after.test record = .ok b) →
      (∀ address node, Reached chosen filter address node → chosen node = true →
        Accepts context record node → Accepts context record (image node)) →
      before.test record = .ok true → after.test record = .ok true := by
    intro answered each
    refine yes_of_bounds ?_ answered
    rw [← same, ← same']
    apply replace_related (R := fun x y => Bounds y x) bounds_self
      (fun pairs => group_bounds pairs.flip) made made'
    intro address node reached here x y hx hy no yes
    have accepts := each address node reached here ((accepts_iff hx).2 yes)
    rw [accepts_iff hy, no] at accepts
    cases accepts
  refine ⟨exists_test hbefore, exists_test hafter, narrower, wider, ?_⟩
  intro answered answered' each
  have up := narrower answered fun address node reached here => (each address node reached here).1
  have down := wider answered' fun address node reached here => (each address node reached here).2
  obtain ⟨b, known⟩ := answered
  obtain ⟨b', known'⟩ := answered'
  rw [known, known'] at up down ⊢
  cases b <;> cases b' <;> simp_all

def identifiedNews : Formula :=
  .group .and [.compare "title" .eq "News",
    .group .or [.compare "title" .eq "Draft", .compareNull "id" .ne]]

def isDraft : Formula → Bool
  | .atom test => test = ⟨"title", .eq, some "Draft"⟩
  | .group _ _ => false

def identifiedNewsNode : Node :=
  .all [.test Unreadable.title (.equal (.text "News")),
    .any [.test Unreadable.title (.equal (.text "Draft")),
      .test ⟨"id", [.field "id"], .integer, false⟩ .isNotNull]]

private theorem compileFilter_identifiedNews :
    compileFilter Blog.context (some identifiedNews) =
      .ok ⟨identifiedNewsNode, Blog.context.coerce⟩ := by
  rfl

private theorem compileFilter_replaced :
    compileFilter Blog.context (some
      (replace isDraft (fun _ => .compare "title.status" .eq "draft") identifiedNews)) =
      .ok ⟨.all [.test Unreadable.title (.equal (.text "News"))], Blog.context.coerce⟩ := by
  rfl

/-- A comparison of a path that names nothing holds always, and so does the disjunction that it is
put into. The changed filter accepts what the other one did, and more. -/
theorem identifiedNews_widened :
    ∃ before after, compileFilter Blog.context (some identifiedNews) = .ok before ∧
      compileFilter Blog.context (some
        (replace isDraft (fun _ => .compare "title.status" .eq "draft") identifiedNews)) =
        .ok after ∧
      after.test (.object [("id", .integer 1), ("title", .text "News")]) = .ok true ∧
      before.test (.object [("title", .text "News")]) = .ok false ∧
      after.test (.object [("title", .text "News")]) = .ok true := by
  obtain ⟨-, -, -, wider, -⟩ := replace_monotone compileFilter_identifiedNews compileFilter_replaced
    (.object [("id", .integer 1), ("title", .text "News")])
  refine ⟨_, _, compileFilter_identifiedNews, compileFilter_replaced,
    wider ⟨true, by rfl⟩ ?_ (by rfl), by rfl, by rfl⟩
  intro address node reached here accepted
  exact ⟨⟨.always, Blog.context.coerce⟩, by rfl, by rfl⟩

end FilterQuery.Memory
