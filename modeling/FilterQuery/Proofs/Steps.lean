import Mathlib.Data.List.Forall2

set_option autoImplicit false
set_option relaxedAutoImplicit false

/-!
Lists whose items are handled one after another by what may fail: a success is made of a success for
each item.
-/

namespace FilterQuery

theorem bind_eq_ok_iff {α β ε : Type} {x : Except ε α} {f : α → Except ε β} {b : β} :
    x.bind f = .ok b ↔ ∃ a, x = .ok a ∧ f a = .ok b := by
  cases x with
  | error e => exact ⟨nofun, nofun⟩
  | ok a => simp [Except.bind]

theorem map_eq_ok_iff {α β ε : Type} {x : Except ε α} {f : α → β} {b : β} :
    f <$> x = .ok b ↔ ∃ a, x = .ok a ∧ f a = b := by
  cases x with
  | error e => exact ⟨nofun, nofun⟩
  | ok a => simp

theorem map_eq_error_iff {α β ε : Type} {x : Except ε α} {f : α → β} {e : ε} :
    f <$> x = .error e ↔ x = .error e := by
  cases x with
  | error e' => simp
  | ok a => exact ⟨nofun, nofun⟩

theorem mapM_eq_ok_iff {α β ε : Type} {f : α → Except ε β} {xs : List α} {ys : List β} :
    xs.mapM f = .ok ys ↔ List.Forall₂ (fun x y => f x = .ok y) xs ys := by
  induction xs generalizing ys with
  | nil =>
    cases ys with
    | nil => exact ⟨fun _ => .nil, fun _ => rfl⟩
    | cons y ys => exact ⟨nofun, nofun⟩
  | cons x xs ih =>
    rw [List.mapM_cons]
    constructor
    · intro h
      cases hx : f x with
      | error e => rw [hx] at h; cases h
      | ok y =>
        rw [hx] at h
        cases hxs : xs.mapM f with
        | error e => rw [hxs] at h; cases h
        | ok rest =>
          rw [hxs] at h
          cases h
          exact .cons hx (ih.1 hxs)
    · rintro (_ | ⟨hx, hxs⟩)
      rw [hx, ih.2 hxs]
      rfl

theorem forall₂_of_mapM {α β ε : Type} {f : α → Except ε β} {R : α → β → Prop} {xs : List α}
    {ys : List β} (made : xs.mapM f = .ok ys) (each : ∀ x ∈ xs, ∀ y, f x = .ok y → R x y) :
    List.Forall₂ R xs ys := by
  have pairs := mapM_eq_ok_iff.1 made
  clear made
  induction pairs with
  | nil => exact .nil
  | cons first rest ih =>
    exact .cons (each _ (by simp) _ first) (ih fun x member =>
      each x (List.mem_cons_of_mem _ member))

theorem forall₂_of_mapM_both {α β γ ε : Type} {f : α → Except ε β} {g : α → Except ε γ}
    {R : β → γ → Prop} {xs : List α} {ys : List β} {zs : List γ} (left : xs.mapM f = .ok ys)
    (right : xs.mapM g = .ok zs) (each : ∀ x ∈ xs, ∀ y z, f x = .ok y → g x = .ok z → R y z) :
    List.Forall₂ R ys zs := by
  have lefts := mapM_eq_ok_iff.1 left
  have rights := mapM_eq_ok_iff.1 right
  clear left right
  induction lefts generalizing zs with
  | nil =>
    cases rights
    exact .nil
  | cons first _ ih =>
    cases rights with
    | cons second rights =>
      exact .cons (each _ (by simp) _ _ first second)
        (ih (fun x member => each x (List.mem_cons_of_mem _ member)) rights)

theorem exists_of_mapM_ok {α β ε : Type} {f : α → Except ε β} {xs : List α} {ys : List β}
    (made : xs.mapM f = .ok ys) :
    ∀ x ∈ xs, ∃ y, f x = .ok y := by
  have pairs := mapM_eq_ok_iff.1 made
  clear made
  induction pairs with
  | nil => nofun
  | cons first rest ih => exact List.forall_mem_cons.2 ⟨⟨_, first⟩, ih⟩

theorem mapM_eq_ok_map {ε α β : Type} {f : α → Except ε β} {g : α → β} {xs : List α}
    (each : ∀ x ∈ xs, f x = .ok (g x)) : xs.mapM f = .ok (xs.map g) := by
  rw [mapM_eq_ok_iff]
  induction xs with
  | nil => exact .nil
  | cons x xs ih =>
    exact .cons (each x (by simp)) (ih fun y member => each y (List.mem_cons_of_mem x member))

theorem mapM_refusing_eq_ok_iff {α ε : Type} {p : α → Bool} {fault : α → ε} {xs ys : List α} :
    (xs.mapM fun x => if p x then Except.error (fault x) else .ok x) = .ok ys ↔
      (∀ x ∈ xs, p x = false) ∧ ys = xs := by
  constructor
  · intro made
    have pairs := mapM_eq_ok_iff.1 made
    clear made
    induction pairs with
    | nil => simp
    | @cons x y xs ys first rest ih =>
      by_cases refused : p x = true
      · rw [if_pos refused] at first
        cases first
      · rw [if_neg refused] at first
        cases first
        obtain ⟨others, rfl⟩ := ih
        exact ⟨List.forall_mem_cons.2 ⟨by simpa using refused, others⟩, rfl⟩
  · rintro ⟨kept, rfl⟩
    have each : ∀ x ∈ ys, (if p x then Except.error (fault x) else .ok x) = .ok (id x) := by
      intro x member
      simp [kept x member]
    rw [mapM_eq_ok_map each, List.map_id]

theorem exists_mapM_ok {α β ε : Type} {f : α → Except ε β} {xs : List α}
    (each : ∀ x ∈ xs, ∃ y, f x = .ok y) :
    ∃ ys, xs.mapM f = .ok ys := by
  induction xs with
  | nil => exact ⟨[], rfl⟩
  | cons x xs ih =>
    obtain ⟨y, first⟩ := each x (by simp)
    obtain ⟨ys, rest⟩ := ih fun other member => each other (List.mem_cons_of_mem x member)
    exact ⟨y :: ys, mapM_eq_ok_iff.2 (.cons first (mapM_eq_ok_iff.1 rest))⟩

theorem mapM_cons_eq_error_iff {α β ε : Type} {f : α → Except ε β} {x : α} {xs : List α} {e : ε} :
    (x :: xs).mapM f = .error e ↔ f x = .error e ∨ (∃ b, f x = .ok b) ∧ xs.mapM f = .error e := by
  rw [List.mapM_cons]
  cases f x with
  | error e' => simp [bind, Except.bind]
  | ok b => cases xs.mapM f <;> simp [bind, Except.bind, pure, Except.pure]

theorem mapM_eq_error_iff {α β ε : Type} {f : α → Except ε β} {xs : List α} {e : ε} :
    xs.mapM f = .error e ↔
      ∃ before x after, xs = before ++ x :: after ∧ (∀ y ∈ before, ∃ b, f y = .ok b) ∧
        f x = .error e := by
  induction xs with
  | nil =>
    refine ⟨nofun, ?_⟩
    rintro ⟨before, x, after, parts, -⟩
    simp at parts
  | cons x xs ih =>
    rw [mapM_cons_eq_error_iff, ih]
    constructor
    · rintro (failed | ⟨passed, before, y, after, rfl, others, failed⟩)
      · exact ⟨[], x, xs, rfl, nofun, failed⟩
      · exact ⟨x :: before, y, after, rfl, List.forall_mem_cons.2 ⟨passed, others⟩, failed⟩
    · rintro ⟨_ | ⟨_, before⟩, y, after, parts, passed, failed⟩
      · obtain ⟨rfl, rfl⟩ := List.cons.inj parts
        exact .inl failed
      · obtain ⟨rfl, rfl⟩ := List.cons.inj parts
        obtain ⟨first, others⟩ := List.forall_mem_cons.1 passed
        exact .inr ⟨first, before, y, after, rfl, others, failed⟩

theorem exists_ok_iff {ε α : Type} {x : Except ε α} : (∃ a, x = .ok a) ↔ ∀ e, x ≠ .error e := by
  cases x with
  | error e => exact ⟨nofun, fun never => absurd rfl (never e)⟩
  | ok a => exact ⟨fun _ => nofun, fun _ => ⟨a, rfl⟩⟩

private theorem mapM_append_eq_error_iff {α β ε : Type} {f : α → Except ε β} {xs ys : List α}
    {e : ε} :
    (xs ++ ys).mapM f = .error e ↔ xs.mapM f = .error e ∨ (∃ zs, xs.mapM f = .ok zs) ∧
      ys.mapM f = .error e := by
  rw [List.mapM_append]
  cases xs.mapM f with
  | error e' => simp [bind, Except.bind]
  | ok zs => cases ys.mapM f <;> simp [bind, Except.bind, pure, Except.pure]

theorem mapM_flatMap_eq_error_iff {α β γ δ ε : Type} {f : α → Except ε β} {g : α → List γ}
    {h : γ → Except ε δ} {xs : List α} (each : ∀ x ∈ xs, ∀ e, f x = .error e ↔
      (g x).mapM h = .error e) (e : ε) :
    xs.mapM f = .error e ↔ (xs.flatMap g).mapM h = .error e := by
  induction xs with
  | nil => exact ⟨nofun, nofun⟩
  | cons x xs ih =>
    obtain ⟨first, others⟩ := List.forall_mem_cons.1 each
    have passes : (∃ b, f x = .ok b) ↔ ∃ zs, (g x).mapM h = .ok zs := by
      simp only [exists_ok_iff, ne_eq, first]
    rw [mapM_cons_eq_error_iff, List.flatMap_cons, mapM_append_eq_error_iff, first,
      passes, ih others]

theorem exists_of_mapM_error {α β ε : Type} {f : α → Except ε β} {xs : List α} {e : ε}
    (failed : xs.mapM f = .error e) :
    ∃ x ∈ xs, f x = .error e := by
  obtain ⟨before, x, after, rfl, -, here⟩ := mapM_eq_error_iff.1 failed
  exact ⟨x, by simp, here⟩

def spread {α β ε : Type} (f : α → Except ε (List β)) (xs : List α) : Except ε (List β) :=
  (xs.mapM f).map List.flatten

section spread

variable {α β γ ε : Type} {f : α → Except ε (List β)}

@[simp] theorem spread_nil (f : α → Except ε (List β)) : spread f [] = .ok [] := rfl

private theorem spread_cons (f : α → Except ε (List β)) (x : α) (xs : List α) :
    spread f (x :: xs) = (f x).bind fun ys => (spread f xs).map (ys ++ ·) := by
  unfold spread
  rw [List.mapM_cons]
  cases f x with
  | error e => rfl
  | ok ys => cases xs.mapM f <;> rfl

@[simp] theorem spread_singleton (f : α → Except ε (List β)) (x : α) : spread f [x] = f x := by
  rw [spread_cons, spread_nil]
  cases f x with
  | error e => rfl
  | ok ys => simp [Except.bind, Except.map]

private theorem spread_append (f : α → Except ε (List β)) (xs ys : List α) :
    spread f (xs ++ ys) = (spread f xs).bind fun front => (spread f ys).map (front ++ ·) := by
  induction xs with
  | nil => cases found : spread f ys <;> simp [found, Except.bind, Except.map]
  | cons x xs ih =>
    rw [List.cons_append, spread_cons, spread_cons, ih]
    cases f x with
    | error e => rfl
    | ok first =>
      cases spread f xs with
      | error e => rfl
      | ok front => cases spread f ys <;> simp [Except.bind, Except.map]

theorem spread_congr {g : γ → Except ε (List β)} {xs : List α} {ys : List γ}
    (pairs : List.Forall₂ (fun x y => f x = g y) xs ys) : spread f xs = spread g ys := by
  induction pairs with
  | nil => rfl
  | cons first rest ih => rw [spread_cons, spread_cons, first, ih]

theorem spread_map (f : β → Except ε (List γ)) (g : α → β) (xs : List α) :
    spread f (xs.map g) = spread (fun x => f (g x)) xs := by
  unfold spread
  rw [List.mapM_map]
  rfl

theorem spread_eq_ok {g : α → List β} {xs : List α} (each : ∀ x ∈ xs, f x = .ok (g x)) :
    spread f xs = .ok (xs.flatMap g) := by
  unfold spread
  rw [mapM_eq_ok_map each, List.flatMap_def]
  rfl

theorem error_of_spread {xs : List α} {e : ε} (failed : spread f xs = .error e) :
    ∃ x ∈ xs, f x = .error e :=
  exists_of_mapM_error (map_eq_error_iff.1 failed)

/-- Where all failures are alike, it does not matter whether each item is taken all the way before
the next, or all items are taken one part of the way after another. -/
theorem spread_bind {e : ε} {g : β → Except ε (List γ)} (first : ∀ x e', f x = .error e' → e' = e)
    (second : ∀ y e', g y = .error e' → e' = e) (xs : List α) :
    (spread f xs).bind (spread g) = spread (fun x => (f x).bind (spread g)) xs := by
  induction xs with
  | nil => rfl
  | cons x xs ih =>
    rw [spread_cons, spread_cons, ← ih]
    cases f x with
    | error e' => rfl
    | ok ys =>
      cases onward : spread f xs with
      | ok rest =>
        change spread g (ys ++ rest) = _
        exact spread_append g ys rest
      | error e' =>
        obtain ⟨x', -, failed⟩ := error_of_spread onward
        cases first x' e' failed
        -- A failure of the later items is met first on the left, and one of `ys` on the right.
        cases here : spread g ys with
        | ok front => simp [here, Except.bind, Except.map]
        | error e'' =>
          obtain ⟨y, -, failed⟩ := error_of_spread here
          cases second y e'' failed
          simp [here, Except.bind, Except.map]

theorem spread_ne_nil {xs : List α} {ys : List β} (filled : xs ≠ [])
    (each : ∀ x part, f x = .ok part → part ≠ []) (made : spread f xs = .ok ys) : ys ≠ [] := by
  obtain ⟨x, rest, rfl⟩ := List.exists_cons_of_ne_nil filled
  rw [spread_cons, bind_eq_ok_iff] at made
  obtain ⟨part, first, onward⟩ := made
  obtain ⟨others, -, rfl⟩ := map_eq_ok_iff.1 onward
  simp [each x part first]

end spread

private theorem filterAuxM_eq_ok {α ε : Type} {p : α → Except ε Bool} {q : α → Bool}
    (answer : ∀ x b, p x = .ok b → q x = b) {xs kept ys : List α}
    (made : xs.filterAuxM p kept = .ok ys) : ys = (xs.filter q).reverse ++ kept := by
  induction xs generalizing kept with
  | nil => exact (Except.ok.inj made).symm
  | cons x xs ih =>
    rw [List.filterAuxM] at made
    cases first : p x with
    | error e => rw [first] at made; cases made
    | ok b =>
      rw [first] at made
      rw [ih made, List.filter_cons, answer x b first]
      cases b <;> simp

theorem filterM_eq_ok {α ε : Type} {p : α → Except ε Bool} {q : α → Bool}
    (answer : ∀ x b, p x = .ok b → q x = b) {xs ys : List α} (made : xs.filterM p = .ok ys) :
    ys = xs.filter q := by
  unfold List.filterM at made
  cases kept : xs.filterAuxM p [] with
  | error e => rw [kept] at made; cases made
  | ok found =>
    rw [kept] at made
    rw [← Except.ok.inj made, filterAuxM_eq_ok answer kept]
    simp

section Forall₂

variable {α β : Type} {p : α → Prop} {q : β → Prop} {xs : List α} {ys : List β}

theorem forall_mem_iff_of_forall₂ (pairs : List.Forall₂ (fun x y => q y ↔ p x) xs ys) :
    (∀ y ∈ ys, q y) ↔ ∀ x ∈ xs, p x := by
  induction pairs with
  | nil => simp
  | cons first rest ih =>
    rw [List.forall_mem_cons, List.forall_mem_cons]
    exact and_congr first ih

theorem forall₂_iff_forall_mem {R : α → β → Prop}
    (pairs : List.Forall₂ (fun x y => R x y ↔ p x) xs ys) :
    List.Forall₂ R xs ys ↔ ∀ x ∈ xs, p x := by
  induction pairs with
  | nil => exact ⟨fun _ => nofun, fun _ => .nil⟩
  | cons first rest ih =>
    rw [List.forall₂_cons, List.forall_mem_cons]
    exact and_congr first ih

theorem exists_mem_iff_of_forall₂ (pairs : List.Forall₂ (fun x y => q y ↔ p x) xs ys) :
    (∃ y ∈ ys, q y) ↔ ∃ x ∈ xs, p x := by
  induction pairs with
  | nil => simp
  | cons first rest ih =>
    simp only [List.mem_cons, exists_eq_or_imp]
    exact or_congr first ih

theorem exists_left_of_forall₂ {R : α → β → Prop} (pairs : List.Forall₂ R xs ys) :
    ∀ y ∈ ys, ∃ x ∈ xs, R x y := by
  induction pairs with
  | nil => nofun
  | cons first rest ih =>
    refine List.forall_mem_cons.2 ⟨⟨_, by simp, first⟩, fun y member => ?_⟩
    obtain ⟨x, inside, related⟩ := ih y member
    exact ⟨x, List.mem_cons_of_mem _ inside, related⟩

end Forall₂

theorem forM_eq_ok_iff {α ε : Type} {f : α → Except ε Unit} {xs : List α} :
    xs.forM f = .ok () ↔ ∀ x ∈ xs, f x = .ok () := by
  induction xs with
  | nil => exact ⟨fun _ => nofun, fun _ => rfl⟩
  | cons x xs ih =>
    have step : (x :: xs).forM f = (f x).bind fun _ => xs.forM f := rfl
    rw [step, List.forall_mem_cons, ← ih]
    cases f x with
    | error e => simp [Except.bind]
    | ok u => simp [Except.bind]

/-- Outcomes that both fail, with related errors, or both succeed, with related values. -/
inductive Paired {ε ε' α β : Type} (E : ε → ε' → Prop) (R : α → β → Prop) :
    Except ε α → Except ε' β → Prop
  | error {e : ε} {e' : ε'} (fails : E e e') : Paired E R (.error e) (.error e')
  | ok {a : α} {b : β} (related : R a b) : Paired E R (.ok a) (.ok b)

namespace Paired

variable {ε ε' α β γ δ : Type} {E : ε → ε' → Prop} {R : α → β → Prop} {S : γ → δ → Prop}

theorem bind {x : Except ε α} {y : Except ε' β} {f : α → Except ε γ} {g : β → Except ε' δ}
    (first : Paired E R x y) (next : ∀ a b, R a b → Paired E S (f a) (g b)) :
    Paired E S (x.bind f) (y.bind g) := by
  cases first with
  | error fails => exact .error fails
  | ok related => exact next _ _ related

theorem map {x : Except ε α} {y : Except ε' β} {f : α → γ} {g : β → δ} (pair : Paired E R x y)
    (each : ∀ a b, R a b → S (f a) (g b)) : Paired E S (x.map f) (y.map g) := by
  cases pair with
  | error fails => exact .error fails
  | ok related => exact .ok (each _ _ related)

theorem bind_eq {x : Except ε α} {y : Except ε' α} {f : α → Except ε γ} {g : α → Except ε' δ}
    (first : Paired E Eq x y) (next : ∀ a, Paired E S (f a) (g a)) :
    Paired E S (x.bind f) (y.bind g) := by
  refine bind first fun a b same => ?_
  rw [same]
  exact next b

theorem map_eq {x : Except ε α} {y : Except ε' α} (pair : Paired E Eq x y) (f : α → γ) :
    Paired E Eq (x.map f) (y.map f) :=
  map pair fun _ _ same => congrArg f same

theorem mapM {f : α → Except ε γ} {g : β → Except ε' δ} {xs : List α} {ys : List β}
    (pairs : List.Forall₂ R xs ys) (each : ∀ x y, R x y → Paired E S (f x) (g y)) :
    Paired E (List.Forall₂ S) (xs.mapM f) (ys.mapM g) := by
  induction pairs with
  | nil => exact .ok .nil
  | cons head tail ih =>
    rw [List.mapM_cons, List.mapM_cons]
    refine bind (each _ _ head) fun a b first => bind ih fun as bs others => ?_
    exact .ok (.cons first others)

theorem foldlM {f : α → γ → Except ε α} {g : α → γ → Except ε' α}
    (each : ∀ a c, Paired E Eq (f a c) (g a c)) (steps : List γ) (start : α) :
    Paired E Eq (steps.foldlM f start) (steps.foldlM g start) := by
  induction steps generalizing start with
  | nil => exact .ok rfl
  | cons step steps ih =>
    rw [List.foldlM_cons, List.foldlM_cons]
    exact bind_eq (each start step) ih

theorem filterM {f : α → Except ε Bool} {g : α → Except ε' Bool}
    (each : ∀ a, Paired E Eq (f a) (g a)) (xs : List α) :
    Paired E Eq (xs.filterM f) (xs.filterM g) := by
  have onward : ∀ kept, Paired E Eq (xs.filterAuxM f kept) (xs.filterAuxM g kept) := by
    induction xs with
    | nil => exact fun kept => .ok rfl
    | cons x xs ih =>
      exact fun kept => bind_eq (each x) fun passes => ih _
  exact bind_eq (onward []) fun kept => .ok rfl

theorem self {E : ε → ε → Prop} (errors : ∀ e, E e e) (x : Except ε α) : Paired E Eq x x := by
  cases x with
  | error e => exact .error (errors e)
  | ok a => exact .ok rfl

end Paired

end FilterQuery
