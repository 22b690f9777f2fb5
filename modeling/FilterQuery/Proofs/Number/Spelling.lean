import Mathlib.Data.String.Basic
import Mathlib.Tactic.Ring

set_option autoImplicit false
set_option relaxedAutoImplicit false

/-!
The order of numbers as texts. Texts of digits are in the order of the numbers once the shorter one
is filled up with noughts.
-/

namespace FilterQuery.Number.Shortest

private theorem leading_lt_iff {place fill a b rest rest' : Nat} (small : rest < place)
    (small' : rest' < place * fill) :
    place * fill * b + rest' < (place * a + rest) * fill ↔ b < a ∨ b = a ∧ rest' < rest * fill := by
  have scaled : (place * a + rest) * fill = place * fill * a + rest * fill := by ring
  rw [scaled]
  rcases lt_trichotomy a b with less | rfl | less
  · have filled : rest * fill ≤ place * fill := Nat.mul_le_mul_right fill small.le
    have next : place * fill * (a + 1) ≤ place * fill * b := Nat.mul_le_mul_left _ less
    rw [Nat.mul_succ] at next
    refine iff_of_false (by omega) ?_
    rintro (more | ⟨same, -⟩)
    · exact less.asymm more
    · exact less.ne' same
  · simp
  · have next : place * fill * (b + 1) ≤ place * fill * a := Nat.mul_le_mul_left _ less
    rw [Nat.mul_succ] at next
    exact iff_of_true (by omega) (.inl less)

def digitOf (c : Char) : Nat :=
  c.toNat - '0'.toNat

private theorem ofDigitChars_cons_eq (c : Char) (s : List Char) :
    Nat.ofDigitChars 10 (c :: s) 0 = 10 ^ s.length * digitOf c + Nat.ofDigitChars 10 s 0 := by
  rw [Nat.ofDigitChars_cons, Nat.ofDigitChars_eq_ofDigitChars_zero, Nat.mul_zero, Nat.zero_add]
  rfl

private theorem digitOf_le {c : Char} (digit : c.isDigit = true) : digitOf c ≤ 9 := by
  have upper := (Char.isDigit_iff_toNat.1 digit).2
  change c.toNat ≤ 57 at upper
  change c.toNat - 48 ≤ 9
  omega

private theorem digitOf_lt_iff {c d : Char} (hc : c.isDigit = true) (hd : d.isDigit = true) :
    digitOf c < digitOf d ↔ c < d := by
  have lower := (Char.isDigit_iff_toNat.1 hc).1
  have lower' := (Char.isDigit_iff_toNat.1 hd).1
  rw [Char.lt_def, UInt32.lt_iff_toNat_lt]
  change c.toNat - '0'.toNat < d.toNat - '0'.toNat ↔ c.toNat < d.toNat
  omega

private theorem digitOf_inj {c d : Char} (hc : c.isDigit = true) (hd : d.isDigit = true) :
    digitOf c = digitOf d ↔ c = d := by
  have lower := (Char.isDigit_iff_toNat.1 hc).1
  have lower' := (Char.isDigit_iff_toNat.1 hd).1
  rw [← Char.toNat_inj]
  change c.toNat - '0'.toNat = d.toNat - '0'.toNat ↔ c.toNat = d.toNat
  omega

private theorem ofDigitChars_lt {s : List Char} (digits : ∀ c ∈ s, c.isDigit = true) :
    Nat.ofDigitChars 10 s 0 < 10 ^ s.length := by
  induction s with
  | nil => decide
  | cons c s ih =>
    obtain ⟨digit, others⟩ := List.forall_mem_cons.1 digits
    have rest := ih others
    have first : 10 ^ s.length * digitOf c ≤ 10 ^ s.length * 9 :=
      Nat.mul_le_mul_left _ (digitOf_le digit)
    rw [ofDigitChars_cons_eq, List.length_cons, pow_succ]
    omega

private theorem digits_lt_iff {s t : List Char} (hs : ∀ c ∈ s, c.isDigit = true)
    (ht : ∀ c ∈ t, c.isDigit = true) (short : s.length ≤ t.length) :
    t < s ↔ Nat.ofDigitChars 10 t 0 < Nat.ofDigitChars 10 s 0 * 10 ^ (t.length - s.length) := by
  induction s generalizing t with
  | nil => simp
  | cons c s ih =>
    cases t with
    | nil => cases short
    | cons d t =>
      obtain ⟨digit, hs⟩ := List.forall_mem_cons.1 hs
      obtain ⟨digit', ht⟩ := List.forall_mem_cons.1 ht
      have short : s.length ≤ t.length := Nat.le_of_succ_le_succ short
      have filled : 10 ^ t.length = 10 ^ s.length * 10 ^ (t.length - s.length) := by
        rw [← pow_add, Nat.add_sub_cancel' short]
      have small := ofDigitChars_lt hs
      have small' := ofDigitChars_lt ht
      rw [filled] at small'
      rw [List.cons_lt_cons_iff, ih hs ht short, ofDigitChars_cons_eq, ofDigitChars_cons_eq,
        List.length_cons, List.length_cons, Nat.add_sub_add_right, filled,
          leading_lt_iff small small', digitOf_lt_iff digit' digit,
        digitOf_inj digit' digit]

theorem isDigit_of_mem_toDigits {n : Nat} : ∀ c ∈ Nat.toDigits 10 n, c.isDigit = true :=
  fun _ => Nat.isDigit_of_mem_toDigits (by decide) (by decide)

private theorem length_toDigits_mono {m n : Nat} (less : m < n) :
    (Nat.toDigits 10 m).length ≤ (Nat.toDigits 10 n).length := by
  have filled : 0 < (Nat.toDigits 10 n).length := Nat.length_toDigits_pos
  have below := (Nat.length_toDigits_le_iff (by decide) filled).1 (Nat.le_refl _)
  exact (Nat.length_toDigits_le_iff (by decide) filled).2 (Nat.lt_trans less below)

/-- The digits of a greater number come first exactly if the lesser one, filled up with noughts to
their length, is greater than it. -/
theorem toDigits_lt_iff {m n : Nat} (less : m < n) :
    Nat.toDigits 10 n < Nat.toDigits 10 m ↔
      n < m * 10 ^ ((Nat.toDigits 10 n).length - (Nat.toDigits 10 m).length) := by
  rw [digits_lt_iff isDigit_of_mem_toDigits isDigit_of_mem_toDigits (length_toDigits_mono less),
    Nat.ofDigitChars_ten_toDigits, Nat.ofDigitChars_ten_toDigits]

theorem toDigits_inj {m n : Nat} : Nat.toDigits 10 m = Nat.toDigits 10 n ↔ m = n := by
  constructor
  · intro same
    rw [← Nat.ofDigitChars_ten_toDigits (n := m), same, Nat.ofDigitChars_ten_toDigits]
  · rintro rfl
    rfl

end FilterQuery.Number.Shortest
