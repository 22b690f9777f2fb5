import FilterQuery.Proofs.Path.Way

set_option autoImplicit false
set_option relaxedAutoImplicit false

/-!
Labels of ways. A label is made of names with two underscores between them, and a name may hold
underscores too. Where no name holds two in a row or ends with one, the names can be read back from
the label, and so can the way.
-/

namespace FilterQuery

open FilterQuery.Relational.Path (labelOf)

def Separable (name : String) : Prop :=
  ¬['_', '_'] <:+: name.toList ++ ['_']

instance (name : String) : Decidable (Separable name) :=
  inferInstanceAs (Decidable (¬_))

private theorem eq_nil_of_separator {piece more s t : List Char}
    (separable : ¬['_', '_'] <:+: piece ++ more ++ ['_'])
    (same : '_' :: '_' :: s = more ++ '_' :: '_' :: t) : more = [] := by
  match more with
  | [] => rfl
  | [c] =>
    obtain ⟨rfl, _⟩ := List.cons.inj same
    exact absurd ⟨piece, [], by simp⟩ separable
  | c :: d :: more =>
    obtain ⟨rfl, rest⟩ := List.cons.inj same
    obtain ⟨rfl, _⟩ := List.cons.inj rest
    exact absurd ⟨piece, more ++ ['_'], by simp⟩ separable

private theorem separator_inj {a b s t : List Char} (ha : ¬['_', '_'] <:+: a ++ ['_'])
    (hb : ¬['_', '_'] <:+: b ++ ['_']) (same : a ++ '_' :: '_' :: s = b ++ '_' :: '_' :: t) :
    a = b ∧ s = t := by
  -- one piece is the other with more after it, and there can be no more before the separator
  rcases List.append_eq_append_iff.1 same with ⟨more, rfl, rest⟩ | ⟨more, rfl, rest⟩
  · have empty : more = [] := eq_nil_of_separator hb rest
    subst empty
    simpa using rest
  · have empty : more = [] := eq_nil_of_separator ha rest
    subst empty
    simpa [eq_comm] using rest

private theorem ne_of_separator {a b s : List Char} (hb : ¬['_', '_'] <:+: b ++ ['_']) :
    a ++ '_' :: '_' :: s ≠ b := by
  rintro rfl
  exact hb ⟨a, s ++ ['_'], by simp⟩

private theorem intercalate_inj {p q : List (List Char)} (started : p ≠ []) (started' : q ≠ [])
    (hp : ∀ a ∈ p, ¬['_', '_'] <:+: a ++ ['_']) (hq : ∀ b ∈ q, ¬['_', '_'] <:+: b ++ ['_'])
    (same : List.intercalate ['_', '_'] p = List.intercalate ['_', '_'] q) : p = q := by
  induction p generalizing q with
  | nil => exact absurd rfl started
  | cons a p ih =>
    cases q with
    | nil => exact absurd rfl started'
    | cons b q =>
      have ha := hp a (by simp)
      have hb := hq b (by simp)
      match p, q with
      | [], [] => simpa using same
      | [], d :: q =>
        rw [List.intercalate_singleton, List.intercalate_cons_cons, List.append_assoc] at same
        exact absurd same.symm (ne_of_separator ha)
      | c :: p, [] =>
        rw [List.intercalate_singleton, List.intercalate_cons_cons, List.append_assoc] at same
        exact absurd same (ne_of_separator hb)
      | c :: p, d :: q =>
        rw [List.intercalate_cons_cons, List.intercalate_cons_cons, List.append_assoc,
          List.append_assoc] at same
        obtain ⟨rfl, rest⟩ := separator_inj ha hb same
        have others := ih (by simp) (by simp) (fun x member => hp x (List.mem_cons_of_mem a member))
          (fun x member => hq x (List.mem_cons_of_mem a member)) rest
        rw [others]

/-- Names without separators are read back from their label. -/
theorem labelOf_inj {p q : List String} (started : p ≠ []) (started' : q ≠ [])
    (hp : ∀ name ∈ p, Separable name) (hq : ∀ name ∈ q, Separable name)
    (same : labelOf p = labelOf q) : p = q := by
  have texts : List.intercalate ['_', '_'] (p.map String.toList) =
      List.intercalate ['_', '_'] (q.map String.toList) := by
    have whole := congrArg String.toList same
    unfold labelOf at whole
    rwa [String.toList_intercalate, String.toList_intercalate] at whole
  have pieces : p.map String.toList = q.map String.toList := by
    refine intercalate_inj (by simpa using started) (by simpa using started') ?_ ?_ texts
    · intro a member
      obtain ⟨name, inside, rfl⟩ := List.mem_map.1 member
      exact hp name inside
    · intro b member
      obtain ⟨name, inside, rfl⟩ := List.mem_map.1 member
      exact hq name inside
  exact List.map_injective_iff.2 (fun _ _ => String.toList_inj.1) pieces

theorem separator_of_labelOf (first second : String) (rest : List String) :
    ['_', '_'] <:+: (labelOf (first :: second :: rest)).toList := by
  unfold labelOf
  rw [String.toList_intercalate, List.map_cons, List.map_cons, List.intercalate_cons_cons,
    List.append_assoc]
  exact ⟨first.toList, _, by rw [List.append_assoc]; rfl⟩

variable {schema : Schema} {registry : Registry} {e : Entity}

/-- Two ways over relations with separable names have different labels. -/
theorem Way.eq_of_label (origin : Registry.FromSchema schema registry.entities)
    (own : schema.entity? e.name = some e) {p q : List Leg} (hp : Way schema registry e p)
    (hq : Way schema registry e q) (started : p ≠ []) (started' : q ≠ [])
    (separable : ∀ leg ∈ p ++ q, Separable leg.link.name)
    (same : labelOf (Leg.names p) = labelOf (Leg.names q)) :
    p = q := by
  have nonempty : ∀ {legs : List Leg}, legs ≠ [] → Leg.names legs ≠ [] := by
    intro legs h
    simpa [Leg.names] using h
  have named : Leg.names p = Leg.names q := by
    refine labelOf_inj (nonempty started) (nonempty started') ?_ ?_ same
    · intro name member
      obtain ⟨leg, inside, rfl⟩ := List.mem_map.1 member
      exact separable leg (List.mem_append.2 (.inl inside))
    · intro name member
      obtain ⟨leg, inside, rfl⟩ := List.mem_map.1 member
      exact separable leg (List.mem_append.2 (.inr inside))
  exact Way.eq_of_names origin hp hq own named

end FilterQuery
