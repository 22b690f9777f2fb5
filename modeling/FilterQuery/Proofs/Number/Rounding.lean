import FilterQuery.Number
import Mathlib.Algebra.Order.Field.Rat
import Mathlib.Data.Nat.Log
import Mathlib.Order.Monotone.Basic
import Mathlib.Tactic.Linarith
import Mathlib.Tactic.Ring

set_option autoImplicit false
set_option relaxedAutoImplicit false

/-!
Rounding to floating point. A quotient rounds beyond a word exactly if it lies beyond the middle
between the magnitudes of the word and the next, or on it where the word is odd. So rounding keeps
the order of quotients, and every magnitude rounds to its own word.
-/

namespace FilterQuery.Number

private theorem units_grid {k r : Nat} (normal : k = 0 ∨ 2 ^ 52 ≤ r) (digits : r ≤ 2 ^ 53) :
    units (k * 2 ^ 52 + r) = r * 2 ^ k := by
  unfold units twoTo
  simp only [Nat.pow_eq]
  split
  · have zero : k = 0 := by omega
    subst zero
    simp
  · rcases Nat.lt_or_eq_of_le digits with below | rfl
    · have exponent : (k * 2 ^ 52 + r) / 2 ^ 52 - 1 = k := by omega
      have fraction : (k * 2 ^ 52 + r) % 2 ^ 52 + 2 ^ 52 = r := by omega
      rw [exponent, fraction]
    · have exponent : (k * 2 ^ 52 + 2 ^ 53) / 2 ^ 52 - 1 = k + 1 := by omega
      have fraction : (k * 2 ^ 52 + 2 ^ 53) % 2 ^ 52 + 2 ^ 52 = 2 ^ 52 := by omega
      rw [exponent, fraction, Nat.pow_succ]
      omega

private theorem exists_grid (w : Nat) :
    ∃ k r, w = k * 2 ^ 52 + r ∧ (k = 0 ∨ 2 ^ 52 ≤ r) ∧ r < 2 ^ 53 := by
  by_cases small : w < 2 ^ 53
  · exact ⟨0, w, by omega, .inl rfl, small⟩
  · exact ⟨w / 2 ^ 52 - 1, w % 2 ^ 52 + 2 ^ 52, by omega, .inr (by omega), by omega⟩

private theorem units_strictMono : StrictMono units := by
  apply strictMono_nat_of_lt_succ
  intro w
  obtain ⟨k, r, rfl, normal, digits⟩ := exists_grid w
  have next : k * 2 ^ 52 + r + 1 = k * 2 ^ 52 + (r + 1) := by omega
  rw [next, units_grid normal (by omega), units_grid (by omega) (by omega)]
  exact Nat.mul_lt_mul_of_pos_right (by omega) (Nat.two_pow_pos k)

private theorem roundQuotient_cases (num den : Nat) :
    (roundQuotient num den = num / den + 1 ∧
        (den < 2 * (num % den) ∨ den = 2 * (num % den) ∧ num / den % 2 = 1)) ∨
      (roundQuotient num den = num / den ∧
        ¬(den < 2 * (num % den) ∨ den = 2 * (num % den) ∧ num / den % 2 = 1)) := by
  unfold roundQuotient
  simp only
  split
  · omega
  · split <;> omega

/-- At the exponent that rounding takes, a quotient has at most 53 digits, and no fewer unless the
exponent is the least. -/
theorem digits_at_shift (q : Nat) :
    q / 2 ^ (q.log2 - 52) < 2 ^ 53 ∧ (q.log2 - 52 = 0 ∨ 2 ^ 52 ≤ q / 2 ^ (q.log2 - 52)) := by
  have above : q < 2 ^ (q.log2 + 1) := Nat.lt_log2_self
  constructor
  · rw [Nat.div_lt_iff_lt_mul (Nat.two_pow_pos _), ← Nat.pow_add]
    exact Nat.lt_of_lt_of_le above (Nat.pow_le_pow_right (by omega) (by omega))
  · by_cases least : q.log2 ≤ 52
    · exact .inl (by omega)
    · have positive : q ≠ 0 := by
        rintro rfl
        exact least (by decide)
      right
      rw [Nat.le_div_iff_mul_le (Nat.two_pow_pos _), ← Nat.pow_add]
      have exponent : 52 + (q.log2 - 52) = q.log2 := by omega
      rw [exponent]
      exact Nat.log2_self_le positive

/-- The word that a quotient in units of the least magnitude rounds to, were there no greatest
exponent. -/
def nearestWord (num den : Nat) : Nat :=
  let shift := Nat.log2 (num / den) - 52
  shift * twoTo 52 + roundQuotient num (den * twoTo shift)

private theorem roundWord_eq (num den : Nat) :
    roundWord num den = min (nearestWord (num * twoTo 1074) den) infinityWord :=
  rfl

private theorem lt_nearestWord_iff {num den : Nat} (positive : 0 < den) (w : Nat) :
    w < nearestWord num den ↔
      (units w + units (w + 1)) * den < 2 * num ∨ (units w + units (w + 1)) * den = 2 * num ∧
        w % 2 = 1 := by
  unfold nearestWord twoTo
  simp only [Nat.pow_eq]
  generalize hshift : Nat.log2 (num / den) - 52 = shift
  obtain ⟨digits, normal⟩ := digits_at_shift (num / den)
  rw [hshift, Nat.div_div_eq_div_mul] at digits normal
  have cases := roundQuotient_cases num (den * 2 ^ shift)
  have whole := Nat.div_add_mod num (den * 2 ^ shift)
  have rest := Nat.mod_lt num (Nat.mul_pos positive (Nat.two_pow_pos shift))
  generalize num / (den * 2 ^ shift) = low at *
  generalize num % (den * 2 ^ shift) = more at *
  generalize roundQuotient num (den * 2 ^ shift) = rounded at *
  have here : units (shift * 2 ^ 52 + low) * den = den * 2 ^ shift * low := by
    rw [units_grid normal (by omega)]
    ac_rfl
  have next : units (shift * 2 ^ 52 + low + 1) * den = den * 2 ^ shift * low + den * 2 ^ shift := by
    have carried : units (shift * 2 ^ 52 + (low + 1)) = (low + 1) * 2 ^ shift :=
      units_grid (by omega) (by omega)
    rw [Nat.add_assoc, carried, ← Nat.mul_succ]
    ac_rfl
  have grows : ∀ {u v : Nat}, u < v → units u * den < units v * den := fun less =>
    Nat.mul_lt_mul_of_pos_right (units_strictMono less) positive
  have grows' : ∀ {u v : Nat}, u ≤ v → units u * den ≤ units v * den := fun le =>
    Nat.mul_le_mul_right den (units_strictMono.monotone le)
  rw [Nat.add_mul]
  have own : units w * den < units (w + 1) * den := grows (by omega)
  -- the quotient lies between the word of its whole digits and the next, so only there the
  -- remainder decides
  rcases Nat.lt_trichotomy w (shift * 2 ^ 52 + low) with less | rfl | greater
  · have upper : units (w + 1) * den ≤ units (shift * 2 ^ 52 + low) * den := grows' less
    omega
  · omega
  · have lower : units (shift * 2 ^ 52 + low + 1) * den ≤ units w * den := grows' greater
    omega

def magnitude (word : Nat) : ℚ :=
  units word / twoTo 1074

private theorem twoTo_eq_mul {m n : Nat} (le : m ≤ n) : twoTo n = 2 ^ m * 2 ^ (n - m) := by
  rw [← Nat.pow_add, Nat.add_sub_cancel' le]
  rfl

private theorem twoTo_pos (n : Nat) : 0 < twoTo n :=
  Nat.two_pow_pos n

private theorem cast_twoTo_pos (n : Nat) : (0 : ℚ) < twoTo n :=
  Nat.cast_pos.2 (twoTo_pos n)

private theorem magnitude_strictMono : StrictMono magnitude := by
  intro v w less
  unfold magnitude
  rw [div_lt_div_iff_of_pos_right (cast_twoTo_pos 1074)]
  exact Nat.cast_lt.2 (units_strictMono less)

@[simp]
theorem magnitude_zero : magnitude 0 = 0 := by
  have least : units 0 = 0 := by decide
  rw [magnitude, least, Nat.cast_zero, zero_div]

def middle (word : Nat) : ℚ :=
  (magnitude word + magnitude (word + 1)) / 2

private theorem middle_eq (word : Nat) :
    middle word = (units word + units (word + 1) : ℚ) / (2 * twoTo 1074) := by
  unfold middle magnitude
  rw [← add_div, div_div, mul_comm]

/-- A quotient rounds to the nearest word, and from the middle between two to the even one. -/
theorem lt_roundWord_iff {num den w : Nat} (positive : 0 < den) (finite : w < infinityWord) :
    w < roundWord num den ↔ middle w < num / den ∨ middle w = num / den ∧ w % 2 = 1 := by
  have denominator : (0 : ℚ) < den := Nat.cast_pos.2 positive
  have double : (0 : ℚ) < 2 * twoTo 1074 := mul_pos two_pos (cast_twoTo_pos 1074)
  rw [roundWord_eq, lt_min_iff, and_iff_left finite, lt_nearestWord_iff positive, middle_eq,
    div_lt_div_iff₀ double denominator, div_eq_div_iff double.ne' denominator.ne']
  -- only the order of the quotients counts, not the unit they are measured in
  clear double
  generalize twoTo 1074 = unit
  have order : (num : ℚ) * (2 * unit) = 2 * (num * unit) := by ring
  rw [order]
  norm_cast

private theorem roundWord_mono {num den num' den' : Nat} (positive : 0 < den) (positive' : 0 < den')
    (le : (num : ℚ) / den ≤ num' / den') : roundWord num den ≤ roundWord num' den' := by
  apply le_of_forall_lt
  intro w below
  have finite : w < infinityWord := Nat.lt_of_lt_of_le below (Nat.min_le_right _ _)
  rw [lt_roundWord_iff positive' finite]
  rcases (lt_roundWord_iff positive finite).1 below with less | ⟨same, odd⟩
  · exact .inl (less.trans_le le)
  · rcases (same.trans_le le).lt_or_eq with less | equal
    · exact .inl less
    · exact .inr ⟨equal, odd⟩

private theorem roundWord_of_magnitude {num den w : Nat} (positive : 0 < den)
    (finite : w < infinityWord) (equal : (num : ℚ) / den = magnitude w) :
    roundWord num den = w := by
  apply Nat.le_antisymm
  · by_contra beyond
    have middles := (lt_roundWord_iff positive finite).1 (Nat.lt_of_not_le beyond)
    have next := magnitude_strictMono (Nat.lt_succ_self w)
    rw [equal] at middles
    unfold middle at middles
    rcases middles with less | ⟨same, _⟩ <;> linarith
  · cases w with
    | zero => exact Nat.zero_le _
    | succ w =>
      have next := magnitude_strictMono (Nat.lt_succ_self w)
      apply Nat.succ_le_of_lt
      rw [lt_roundWord_iff positive (by omega), equal]
      left
      unfold middle
      linarith

private theorem exists_shift {n : Nat} (positive : 0 < n) (small : n ≤ 2 ^ 53) :
    ∃ up ≤ 52, 2 ^ 52 ≤ n * 2 ^ up ∧ n * 2 ^ up ≤ 2 ^ 53 := by
  by_cases whole : 2 ^ 52 ≤ n
  · exact ⟨0, by omega, by omega, by omega⟩
  have lower : 2 ^ n.log2 ≤ n := Nat.log2_self_le positive.ne'
  have upper : n < 2 ^ (n.log2 + 1) := Nat.lt_log2_self
  have length : n.log2 ≤ 52 := by
    by_contra longer
    have longest : 2 ^ 53 ≤ 2 ^ n.log2 := Nat.pow_le_pow_right (by omega) (by omega)
    omega
  refine ⟨52 - n.log2, by omega, ?_, ?_⟩
  · calc 2 ^ 52 = 2 ^ n.log2 * 2 ^ (52 - n.log2) := by rw [← Nat.pow_add]; congr 1; omega
      _ ≤ n * 2 ^ (52 - n.log2) := Nat.mul_le_mul_right _ lower
  · calc n * 2 ^ (52 - n.log2) ≤ 2 ^ (n.log2 + 1) * 2 ^ (52 - n.log2) :=
      Nat.mul_le_mul_right _ upper.le
        _ = 2 ^ 53 := by rw [← Nat.pow_add]; congr 1; omega

private theorem exists_word {n : Nat} (small : n ≤ 2 ^ 53) :
    ∃ w < infinityWord, magnitude w = n := by
  suffices ∃ w < infinityWord, units w = n * twoTo 1074 by
    obtain ⟨w, finite, whole⟩ := this
    refine ⟨w, finite, ?_⟩
    unfold magnitude
    rw [whole, Nat.cast_mul, mul_div_assoc, div_self (cast_twoTo_pos 1074).ne', mul_one]
  rcases Nat.eq_zero_or_pos n with rfl | positive
  · exact ⟨0, by decide, by rw [Nat.zero_mul]; rfl⟩
  obtain ⟨up, few, normal, digits⟩ := exists_shift positive small
  refine ⟨(1074 - up) * 2 ^ 52 + n * 2 ^ up, ?_, ?_⟩
  · unfold infinityWord
    omega
  · rw [units_grid (.inr normal) digits, Nat.mul_assoc, ← twoTo_eq_mul (by omega)]

namespace Binary64

/-- The number that a finite floating-point number stands for. -/
def value (x : Binary64) : ℚ :=
  if x.negative then -magnitude x.word else magnitude x.word

/-- A floating-point number that a number rounds to; zero of either sign is nearest to zero. -/
structure Nearest (q : ℚ) (x : Binary64) : Prop where
  word : ∃ num den : Nat, 0 < den ∧ |q| = num / den ∧ x.word = roundWord num den
  of_neg : q < 0 → x.negative = true
  of_pos : 0 < q → x.negative = false

variable {q r : ℚ} {x y : Binary64}

theorem nearest_ofInt (n : Int) : Nearest n (ofInt n) where
  word :=
    ⟨n.natAbs, 1, Nat.one_pos, by rw [Nat.cast_one, div_one, Nat.cast_natAbs, Int.cast_abs], rfl⟩
  of_neg below := by
    have negative : n < 0 := by exact_mod_cast below
    exact decide_eq_true negative
  of_pos above := by
    have positive : 0 < n := by exact_mod_cast above
    exact decide_eq_false (by omega)

private theorem magnitude_nonneg (w : Nat) : 0 ≤ magnitude w :=
  div_nonneg (Nat.cast_nonneg _) (Nat.cast_nonneg _)

private theorem abs_value (x : Binary64) : |x.value| = magnitude x.word := by
  unfold value
  cases x.negative with
  | true => rw [if_pos rfl, abs_neg, abs_of_nonneg (magnitude_nonneg _)]
  | false => rw [if_neg (by decide), abs_of_nonneg (magnitude_nonneg _)]

theorem nearest_value (finite : x.word < infinityWord) : Nearest x.value x where
  word := ⟨units x.word, twoTo 1074, twoTo_pos 1074, abs_value x,
    (roundWord_of_magnitude (twoTo_pos 1074) finite rfl).symm⟩
  of_neg below := by
    by_contra positive
    have nonneg := magnitude_nonneg x.word
    rw [value, if_neg positive] at below
    linarith
  of_pos above := by
    by_contra negative
    have nonneg := magnitude_nonneg x.word
    rw [value, if_pos (by simpa using negative)] at above
    linarith

private theorem Nearest.word_mono (hx : Nearest q x) (hy : Nearest r y) (le : |q| ≤ |r|) :
    x.word ≤ y.word := by
  obtain ⟨num, den, positive, whole, word⟩ := hx.word
  obtain ⟨num', den', positive', whole', word'⟩ := hy.word
  rw [whole, whole'] at le
  rw [word, word']
  exact roundWord_mono positive positive' le

private theorem Nearest.rank_mono (hx : Nearest q x) (hy : Nearest r y) (less : q < r) :
    x.rank ≤ y.rank := by
  unfold rank
  cases hnx : x.negative <;> cases hny : y.negative
  · have nonneg : 0 ≤ q := le_of_not_gt fun below => by simp [hx.of_neg below] at hnx
    have words :=
      hx.word_mono hy (by rw [abs_of_nonneg nonneg,
        abs_of_nonneg (nonneg.trans less.le)]; exact less.le)
    simp only [Bool.false_eq_true, if_false]
    omega
  · have nonneg : 0 ≤ q := le_of_not_gt fun below => by simp [hx.of_neg below] at hnx
    have positive := hy.of_pos (lt_of_le_of_lt nonneg less)
    rw [hny] at positive
    cases positive
  · simp only [if_true, Bool.false_eq_true, if_false]
    omega
  · have nonpos : r ≤ 0 := le_of_not_gt fun above => by simp [hy.of_pos above] at hny
    have words :=
      hy.word_mono hx (by rw [abs_of_nonpos nonpos, abs_of_nonpos (less.le.trans nonpos)]; linarith)
    simp only [if_true]
    omega

private theorem rank_inj : x.rank = y.rank ↔ x = y := by
  constructor
  · intro same
    obtain ⟨negative, word, _⟩ := x
    obtain ⟨negative', word', _⟩ := y
    unfold rank at same
    simp only [mk.injEq]
    cases negative <;> cases negative' <;> simp at same ⊢ <;> omega
  · rintro rfl
    rfl

theorem Nearest.compare_ne_gt (hx : Nearest q x) (hy : Nearest r y) (less : q < r) :
    compare x.rank y.rank ≠ .gt := by
  intro greater
  have le := hx.rank_mono hy less
  have gt := compare_gt_iff_gt.1 greater
  omega

theorem Nearest.compare_ne_lt (hx : Nearest q x) (hy : Nearest r y) (less : r < q) :
    compare x.rank y.rank ≠ .lt := by
  intro before
  have le := hy.rank_mono hx less
  have lt := compare_lt_iff_lt.1 before
  omega

theorem Nearest.compare_eq_iff (hx : Nearest q x) (hy : Nearest r y) :
    compare x.rank y.rank = compare q r ↔ (q = r ↔ x = y) := by
  rcases lt_trichotomy q r with less | rfl | greater
  · have le := hx.rank_mono hy less
    rw [compare_lt_iff_lt.2 less, compare_lt_iff_lt, ← rank_inj, lt_iff_le_and_ne]
    simp [le, less.ne]
  · rw [compare_eq_iff_eq.2 rfl, compare_eq_iff_eq, rank_inj]
    simp
  · have le := hy.rank_mono hx greater
    rw [compare_gt_iff_gt.2 greater, compare_gt_iff_gt, ← rank_inj, lt_iff_le_and_ne]
    simp [le, greater.ne', eq_comm]

theorem value_eq_iff : x.value = y.value ↔ x = y ∨ x.word = 0 ∧ y.word = 0 := by
  constructor
  · intro same
    have words : x.word = y.word := by
      apply magnitude_strictMono.injective
      rw [← abs_value, ← abs_value, same]
    rcases Nat.eq_zero_or_pos x.word with null | positive
    · exact .inr ⟨null, words ▸ null⟩
    · have above : 0 < magnitude y.word := by
        rw [← magnitude_zero, ← words]
        exact magnitude_strictMono positive
      have signs : x.negative = y.negative := by
        unfold value at same
        rw [words] at same
        cases hx : x.negative <;> cases hy : y.negative <;>
          simp only [hx, hy, if_true, if_false, Bool.false_eq_true] at same ⊢ <;> linarith
      left
      rw [← rank_inj, rank, rank, words, signs]
  · rintro (rfl | ⟨hx, hy⟩)
    · rfl
    · unfold value
      rw [hx, hy, magnitude_zero, neg_zero, ite_self, ite_self]

@[simp]
theorem value_zero (negative : Bool) : (zero negative).value = 0 := by
  simp [value, zero]

theorem eq_zero_of_word (signed : x ≠ zero true) (word : x.word = 0) : x = zero false := by
  obtain ⟨negative, _, _⟩ := x
  simp only at word
  subst word
  cases negative with
  | true => exact absurd rfl signed
  | false => rfl

private theorem Nearest.value_eq (hx : Nearest q x) {w : Nat} (finite : w < infinityWord)
    (whole : |q| = magnitude w) :
    x.value = q := by
  obtain ⟨num, den, positive, quotient, rounded⟩ := hx.word
  have word : x.word = w := by
    rw [rounded, roundWord_of_magnitude positive finite (quotient.symm.trans whole)]
  rw [value, word, ← whole]
  rcases lt_trichotomy q 0 with below | null | above
  · rw [if_pos (hx.of_neg below), abs_of_neg below, neg_neg]
  · rw [null, abs_zero, neg_zero, ite_self]
  · rw [hx.of_pos above, if_neg (by decide), abs_of_pos above]

theorem value_ofInt {n : Int} (small : n.natAbs ≤ 2 ^ 53) : (ofInt n).value = n := by
  obtain ⟨w, finite, whole⟩ := exists_word small
  refine (nearest_ofInt n).value_eq finite ?_
  rw [whole, Nat.cast_natAbs, Int.cast_abs]

end Binary64

end FilterQuery.Number
