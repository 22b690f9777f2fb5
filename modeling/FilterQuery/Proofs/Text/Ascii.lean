import FilterQuery.NameIndex
import FilterQuery.Proofs.Text.Casing

set_option autoImplicit false
set_option relaxedAutoImplicit false

/-!
Letter case of ASCII text. Of the runs of either table only the first one reaches an ASCII
character, and it maps the capital letters as the standard library does.
-/

namespace FilterQuery.Text

open FilterQuery.Text.CaseFold
open FilterQuery.Text.CodeTable
open FilterQuery.Text.Lowercase

private theorem lookup?_of_lt {runs : List Run} {n : Nat} (before : ∀ r ∈ runs, n < r.first) :
    lookup? runs n = none := by
  refine List.findSome?_eq_none_iff.2 fun r member => ?_
  unfold Run.imageOf?
  rw [if_neg fun reached => Nat.not_le_of_lt (before r member) reached.1]

private theorem lookup?_ascii {others : List Run} (beyond : ∀ r ∈ others, 0x80 ≤ r.first) {n : Nat}
    (ascii : n < 0x80) :
    lookup? (⟨0x41, 0x5A, 1, 0x61⟩ :: others) n = if 0x41 ≤ n ∧ n ≤ 0x5A then some (n + 0x20)
      else none := by
  have rest : lookup? others n = none :=
    lookup?_of_lt fun r member => Nat.lt_of_lt_of_le ascii (beyond r member)
  have parts : lookup? (⟨0x41, 0x5A, 1, 0x61⟩ :: others) n =
      ((Run.mk 0x41 0x5A 1 0x61).imageOf? n).or (lookup? others n) := by
    unfold lookup?
    rw [List.findSome?_cons]
    cases (Run.mk 0x41 0x5A 1 0x61).imageOf? n <;> rfl
  rw [parts, rest, Option.or_none]
  unfold Run.imageOf?
  by_cases capital : 0x41 ≤ n ∧ n ≤ 0x5A
  · rw [if_pos ⟨capital.1, capital.2, Nat.mod_one _⟩, if_pos capital]
    have shifted : 0x61 + (n - 0x41) = n + 0x20 := by omega
    exact congrArg some shifted
  · rw [if_neg fun reached => capital ⟨reached.1, reached.2.1⟩, if_neg capital]

private theorem mapChar_ascii {others : List Run} (beyond : ∀ r ∈ others, 0x80 ≤ r.first) {c : Char}
    (ascii : c.toNat < 0x80) :
    mapChar (⟨0x41, 0x5A, 1, 0x61⟩ :: others) c = c.toLower := by
  have each : ∀ n < 0x80,
      ((if 0x41 ≤ n ∧ n ≤ 0x5A then some (n + 0x20) else none).map Char.ofNat).getD (Char.ofNat n) =
        (Char.ofNat n).toLower := by decide +kernel
  have same := each c.toNat ascii
  rw [Char.ofNat_toNat] at same
  unfold mapChar
  rw [lookup?_ascii beyond ascii, same]

private theorem lowerOf_ascii {c : Char} (ascii : c.toNat < 0x80) : lowerOf c = c.toLower := by
  have beyond : ∀ r ∈ lowerRuns.tail, 0x80 ≤ r.first := by decide +kernel
  exact mapChar_ascii beyond ascii

theorem isPlain_ascii {c : Char} (ascii : c.toNat < 0x80) : IsPlain c := by
  constructor
  · rintro rfl
    revert ascii
    decide
  · rintro rfl
    revert ascii
    decide

private theorem mem_lowerFrom_iff {x : Char} (positive : 0 < x.toNat) (small : x.toNat < 0x41)
    (before s : List Char) :
    x ∈ lowerFrom before s ↔ x ∈ s := by
  have others : ∀ c : Char, 0x41 ≤ c.toNat → x ≠ c := by
    rintro c large rfl
    omega
  have starts : ∀ r ∈ lowerRuns, 0x41 ≤ r.first := by decide +kernel
  have images : ∀ r ∈ lowerRuns, 0x41 ≤ r.image := by decide +kernel
  have fixed : lookup? lowerRuns x.toNat = none :=
    lookup?_of_lt fun r member => Nat.lt_of_lt_of_le small (starts r member)
  have mapped : ∀ c, mapChar lowerRuns c = x ↔ c = x :=
    mapChar_eq_iff fixed positive fun r member => Nat.lt_of_lt_of_le small (images r member)
  induction s generalizing before with
  | nil => rfl
  | cons c s ih =>
    have later : x ∈ lowerFrom (c :: before) s ↔ x ∈ s := ih (c :: before)
    rw [lowerFrom, List.mem_append, later, List.mem_cons]
    refine or_congr ?_ Iff.rfl
    by_cases sigma : c = 'Σ'
    · subst sigma
      have image : ∀ final : Bool, x ≠ if final then 'ς' else 'σ' := by
        rintro (_ | _)
        · exact others 'σ' (by decide)
        · exact others 'ς' (by decide)
      rw [if_pos rfl, List.mem_singleton]
      exact iff_of_false (image _) (others 'Σ' (by decide))
    by_cases dotted : c = 'İ'
    · subst dotted
      simp [sigma, lowerChar, others 'i' (by decide), others '\u0307' (by decide),
        others 'İ' (by decide)]
    · rw [if_neg sigma, lowerChar, if_neg dotted, List.mem_singleton, eq_comm, mapped, eq_comm]

theorem dot_mem_foldName_iff {name : String} :
    '.' ∈ (foldName name).toList ↔ '.' ∈ name.toList := by
  unfold foldName lowercase
  rw [String.toList_ofList]
  exact mem_lowerFrom_iff (by decide) (by decide) [] name.toList

theorem foldName_ascii {name : String} (ascii : name.toList.all (·.toNat < 0x80) = true) :
    foldName name = String.ofList (name.toList.map Char.toLower) := by
  have each : ∀ c ∈ name.toList, c.toNat < 0x80 := by simpa using ascii
  unfold foldName lowercase
  rw [lowerChars_of_plain fun c member => isPlain_ascii (each c member)]
  exact congrArg String.ofList (List.map_congr_left fun c member => lowerOf_ascii (each c member))

end FilterQuery.Text
