import FilterQuery.Text.CaseFold
import FilterQuery.Text.Lowercase

set_option autoImplicit false
set_option relaxedAutoImplicit false

/-!
Changes of letter case, character by character. Away from the capital sigma, whose lower case
depends on what stands around it, and from the dotted capital I, whose lower case is two characters,
lower case is a map of characters, as case folding is.
-/

namespace FilterQuery.Text

open FilterQuery.Text.CodeTable
open FilterQuery.Text.Lowercase

private theorem toNat_ofNat (n : Nat) : (Char.ofNat n).toNat = n ∨ (Char.ofNat n).toNat = 0 := by
  by_cases valid : n.isValidChar
  · left
    rw [Char.ofNat, dif_pos valid]
    rfl
  · right
    rw [Char.ofNat, dif_neg valid]
    rfl

private theorem le_of_lookup? {runs : List Run} {n image : Nat}
    (found : lookup? runs n = some image) :
    ∃ r ∈ runs, r.image ≤ image := by
  obtain ⟨r, member, reached⟩ := List.exists_of_findSome?_eq_some found
  unfold Run.imageOf? at reached
  split at reached
  · obtain rfl := Option.some.inj reached
    exact ⟨r, member, Nat.le_add_right _ _⟩
  · cases reached

theorem mapChar_eq_iff {runs : List Run} {x : Char} (fixed : lookup? runs x.toNat = none)
    (positive : 0 < x.toNat) (before : ∀ r ∈ runs, x.toNat < r.image) (c : Char) :
    mapChar runs c = x ↔ c = x := by
  unfold mapChar
  cases found : lookup? runs c.toNat with
  | none => simp
  | some image =>
    obtain ⟨r, member, bound⟩ := le_of_lookup? found
    have less := before r member
    constructor
    · rintro rfl
      change (Char.ofNat image).toNat < r.image at less
      change 0 < (Char.ofNat image).toNat at positive
      rcases toNat_ofNat image with same | zero
      · omega
      · omega
    · rintro rfl
      rw [fixed] at found
      cases found

def lowerOf (c : Char) : Char :=
  mapChar lowerRuns c

def IsPlain (c : Char) : Prop :=
  c ≠ 'İ' ∧ c ≠ 'Σ'

theorem lowerChar_of_plain {c : Char} (plain : IsPlain c) : lowerChar c = [lowerOf c] := by
  unfold lowerChar
  rw [if_neg plain.1]
  rfl

private theorem lowerFrom_of_plain {before s : List Char} (plain : ∀ c ∈ s, IsPlain c) :
    lowerFrom before s = s.map lowerOf := by
  induction s generalizing before with
  | nil => rfl
  | cons c s ih =>
    have here : IsPlain c := plain c (by simp)
    rw [lowerFrom, if_neg here.2, lowerChar_of_plain here,
      ih fun d member => plain d (List.mem_cons_of_mem c member)]
    rfl

theorem lowerChars_of_plain {s : List Char} (plain : ∀ c ∈ s, IsPlain c) :
    lowerChars s = s.map lowerOf :=
  lowerFrom_of_plain plain

end FilterQuery.Text
