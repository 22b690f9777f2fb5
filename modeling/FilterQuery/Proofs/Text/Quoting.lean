import FilterQuery.Json.Reader
import FilterQuery.Text.Quoted
import Mathlib.Data.List.TakeWhile

set_option autoImplicit false
set_option relaxedAutoImplicit false

/-!
Quoted texts are told apart. The character that an escape stands for is read back from it, and a
text between quotes says both what the text is and where it ends.
-/

namespace FilterQuery.Text.Quoted

open FilterQuery.Json.Reader (hexValue?)

def hexNumber (digits : List Char) : Nat :=
  digits.foldl (fun n c => n * 16 + (hexValue? c).getD 0) 0

private theorem hexValue?_digitChar {d : Nat} (small : d < 16) :
    hexValue? d.digitChar = some d := by
  have each : ∀ d < 16, hexValue? d.digitChar = some d := by decide +kernel
  exact each d small

private theorem hexDigits_eq (n : Nat) :
    hexDigits n = if n < 16 then [n.digitChar] else hexDigits (n / 16) ++ [(n % 16).digitChar] :=
  Nat.toDigits_eq_if (by decide)

private theorem hexNumber_hexDigits (n : Nat) : hexNumber (hexDigits n) = n := by
  induction n using Nat.strongRecOn with
  | _ n ih =>
    rw [hexDigits_eq]
    split
    · next small => simp [hexNumber, hexValue?_digitChar small]
    · next large =>
      have before := ih (n / 16) (by omega)
      unfold hexNumber at before ⊢
      rw [List.foldl_append, before, List.foldl_cons, List.foldl_nil,
        hexValue?_digitChar (Nat.mod_lt n (by decide)), Option.getD_some]
      omega

private theorem isSome_of_mem_hexDigits {n : Nat} :
    ∀ c ∈ hexDigits n, (hexValue? c).isSome = true := by
  induction n using Nat.strongRecOn with
  | _ n ih =>
    rw [hexDigits_eq]
    split
    · next small => simp [hexValue?_digitChar small]
    · next large =>
      rw [List.forall_mem_append]
      refine ⟨ih (n / 16) (by omega), List.forall_mem_singleton.2 ?_⟩
      rw [hexValue?_digitChar (Nat.mod_lt n (by decide))]
      rfl

/-- The letters of escapes, each with the character that it stands for. -/
def letters : List (Char × Char) :=
  [('"', '"'), ('\\', '\\'), ('0', '\x00'), ('t', '\t'), ('n', '\n'), ('r', '\r')]

def readChar? : List Char → Option (Char × List Char)
  | '\\' :: 'u' :: '\x7b' :: rest =>
    match rest.dropWhile fun c => (hexValue? c).isSome with
    | '\x7d' :: more =>
      some (Char.ofNat (hexNumber (rest.takeWhile fun c => (hexValue? c).isSome)), more)
    | _ => none
  | '\\' :: letter :: rest => (letters.lookup letter).map fun c => (c, rest)
  | '\\' :: [] => none
  | c :: rest => some (c, rest)
  | [] => none

private theorem readChar?_number (c : Char) (rest : List Char) :
    readChar? ('\\' :: 'u' :: '\x7b' :: (hexDigits c.toNat ++ '\x7d' :: rest)) =
      some (c, rest) := by
  have digits : ∀ x ∈ hexDigits c.toNat, (hexValue? x).isSome = true := isSome_of_mem_hexDigits
  have taken : (hexDigits c.toNat ++ '\x7d' :: rest).takeWhile (fun c => (hexValue? c).isSome) =
      hexDigits c.toNat := by
    rw [List.takeWhile_append_of_pos digits, List.takeWhile_cons_of_neg (by decide),
      List.append_nil]
  have left : (hexDigits c.toNat ++ '\x7d' :: rest).dropWhile (fun c => (hexValue? c).isSome) =
      '\x7d' :: rest := by
    rw [List.dropWhile_append_of_pos digits, List.dropWhile_cons_of_neg (by decide)]
  simp only [readChar?, taken, left, hexNumber_hexDigits, Char.ofNat_toNat]

private theorem readChar?_escapeChar (c : Char) (rest : List Char) :
    readChar? (escapeChar c ++ rest) = some (c, rest) := by
  unfold escapeChar
  split
  · next same => subst same; rfl
  split
  · next same => subst same; rfl
  split
  · next same => subst same; rfl
  split
  · next same => subst same; rfl
  split
  · next same => subst same; rfl
  split
  · next same => subst same; rfl
  split
  · next backslash _ _ _ _ _ =>
    rw [List.singleton_append]
    unfold readChar?
    split <;> simp_all
  · rw [List.append_assoc, List.append_assoc]
    exact readChar?_number c rest

private theorem escapeChar_append_ne (c : Char) (rest other : List Char) :
    '"' :: other ≠ escapeChar c ++ rest := by
  intro same
  have read := readChar?_escapeChar c rest
  rw [← same] at read
  obtain ⟨rfl, -⟩ := Prod.mk.inj (Option.some.inj read)
  cases same

/-- Escaped texts before a quote are the same only if the texts are. -/
theorem escaped_inj {s t r r' : List Char}
    (same : s.flatMap escapeChar ++ '"' :: r = t.flatMap escapeChar ++ '"' :: r') :
    s = t ∧ r = r' := by
  induction s generalizing t with
  | nil =>
    cases t with
    | nil => exact ⟨rfl, (List.cons.inj same).2⟩
    | cons d t =>
      rw [List.flatMap_cons, List.append_assoc] at same
      exact absurd same (escapeChar_append_ne d _ _)
  | cons c s ih =>
    cases t with
    | nil =>
      rw [List.flatMap_cons, List.append_assoc] at same
      exact absurd same.symm (escapeChar_append_ne c _ _)
    | cons d t =>
      rw [List.flatMap_cons, List.flatMap_cons, List.append_assoc, List.append_assoc] at same
      have read := readChar?_escapeChar c (s.flatMap escapeChar ++ '"' :: r)
      rw [same, readChar?_escapeChar] at read
      obtain ⟨rfl, rest⟩ := Prod.mk.inj (Option.some.inj read)
      obtain ⟨rfl, rfl⟩ := ih rest.symm
      exact ⟨rfl, rfl⟩

theorem toList_quote (s : String) :
    (quote s).toList = '"' :: (s.toList.flatMap escapeChar ++ ['"']) := by
  rw [quote, String.toList_ofList]
  rfl

theorem quote_inj {s t : String} {r r' : List Char}
    (same : (quote s).toList ++ r = (quote t).toList ++ r') :
    s = t ∧ r = r' := by
  rw [toList_quote, toList_quote] at same
  simp only [List.cons_append, List.append_assoc, List.nil_append] at same
  obtain ⟨chars, rest⟩ := escaped_inj (List.cons.inj same).2
  exact ⟨String.toList_inj.1 chars, rest⟩

end FilterQuery.Text.Quoted
