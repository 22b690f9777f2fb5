import FilterQuery.Proofs.Like.Language
import FilterQuery.Proofs.Text.Ascii

set_option autoImplicit false
set_option relaxedAutoImplicit false

/-!
Patterns where letter case is ignored. In memory characters are compared by their case classes; a
database matches the lower case of the text against that of the pattern. Both accept the same texts
over just those sets of letters that hold neither of the two letters without a lower case of their
own and on which case classes and lower case tell the same letters apart.
-/

namespace FilterQuery.Like

open FilterQuery.Sql (accepts_run accepts_one_cons accepts_char_cons likes likes_terminated
    ne_escape)
open FilterQuery.Text
open FilterQuery.Text.CaseFold
open FilterQuery.Text.CodeTable
open FilterQuery.Text.Lowercase

def Piece.map (f : Char → Char) : Piece → Piece
  | .run => .run
  | .one => .one
  | .char c => .char (f c)

/-- The characters with a meaning of their own in patterns. -/
def special : List Char :=
  ['%', '_', '\\']

/-- A change of characters that leaves the special ones alone and makes no other character
special. -/
def KeepsSpecial (f : Char → Char) : Prop :=
  ∀ x ∈ special, ∀ c, f c = x ↔ c = x

private theorem pieces_map {f : Char → Char} (keeps : KeepsSpecial f) (pattern : List Char) :
    pieces (pattern.map f) = (pieces pattern).map (.map f) := by
  have run : ∀ c, f c = '%' ↔ c = '%' := keeps '%' (by decide)
  have one : ∀ c, f c = '_' ↔ c = '_' := keeps '_' (by decide)
  have escape : ∀ c, f c = '\\' ↔ c = '\\' := keeps '\\' (by decide)
  fun_induction pieces pattern with
  | case1 => rfl
  | case2 rest ih => rw [List.map_cons, (run '%').2 rfl, pieces, ih]; rfl
  | case3 rest ih => rw [List.map_cons, (one '_').2 rfl, pieces, ih]; rfl
  | case4 =>
    change pieces [f '\\'] = [.char (f '\\')]
    rw [(escape '\\').2 rfl]
    rfl
  | case5 c rest ih => rw [List.map_cons, List.map_cons, (escape '\\').2 rfl, pieces, ih]; rfl
  | case6 c rest notRun notOne notLast notEscape ih =>
    have plain : f c ≠ '\\' := fun made => ne_escape notLast notEscape ((escape c).1 made)
    rw [List.map_cons, pieces, ih]
    · rfl
    · exact fun made => notRun ((run c).1 made)
    · exact fun made => notOne ((one c).1 made)
    · exact fun made => absurd made plain
    · exact fun _ _ made => absurd made plain

private theorem mem_of_char_mem_pieces {c : Char} {pattern : List Char}
    (member : Piece.char c ∈ pieces pattern) :
    c ∈ pattern := by
  fun_induction pieces pattern with
  | case1 => cases member
  | case2 rest ih =>
    have later : .char c ∈ pieces rest := by simpa using member
    exact List.mem_cons_of_mem _ (ih later)
  | case3 rest ih =>
    have later : .char c ∈ pieces rest := by simpa using member
    exact List.mem_cons_of_mem _ (ih later)
  | case4 => simpa using member
  | case5 d rest ih =>
    rcases List.mem_cons.1 member with here | member
    · obtain rfl := Piece.char.inj here
      simp
    · exact List.mem_cons_of_mem _ (List.mem_cons_of_mem _ (ih member))
  | case6 d rest notRun notOne notLast notEscape ih =>
    rcases List.mem_cons.1 member with here | member
    · obtain rfl := Piece.char.inj here
      simp
    · exact List.mem_cons_of_mem _ (ih member)

/-- Where characters are compared as their images are, a pattern accepts a text exactly if its image
accepts the image of the text. -/
theorem accepts_map {same other : Char → Char → Bool} {f : Char → Char} {pattern : List Piece}
    {s : List Char} (alike : ∀ a, .char a ∈ pattern → ∀ b ∈ s, same a b = other (f a) (f b)) :
    accepts same pattern s = accepts other (pattern.map (.map f)) (s.map f) := by
  induction pattern generalizing s with
  | nil => cases s <;> rfl
  | cons piece rest ih =>
    have later : ∀ t, t <:+ s → accepts same rest t = accepts other (rest.map (.map f)) (t.map f) :=
      fun t suffix =>
        ih fun a member b inside => alike a (List.mem_cons_of_mem piece member) b
          (suffix.subset inside)
    rw [List.map_cons]
    cases piece with
    | run =>
      rw [Piece.map, accepts_run, accepts_run, List.map_tails, List.any_map, Bool.eq_iff_iff,
        List.any_eq_true, List.any_eq_true]
      refine exists_congr fun t => and_congr_right fun inside => ?_
      rw [later t ((List.mem_tails t s).1 inside), Function.comp_apply]
    | one =>
      cases s with
      | nil => rfl
      | cons c s =>
        rw [Piece.map, List.map_cons, accepts_one_cons, accepts_one_cons,
          later s (List.suffix_cons c s)]
    | char a =>
      cases s with
      | nil => rfl
      | cons c s =>
        rw [Piece.map, List.map_cons, accepts_char_cons, accepts_char_cons,
          later s (List.suffix_cons c s), alike a (by simp) c (by simp)]

private theorem accepts_congr {same other : Char → Char → Bool} {pattern : List Piece}
    {s : List Char} (alike : ∀ a, .char a ∈ pattern → ∀ b ∈ s, same a b = other a b) :
    accepts same pattern s = accepts other pattern s := by
  have unchanged : Piece.map id = id := by
    funext piece
    cases piece <;> rfl
  rw [accepts_map (f := id) alike, unchanged, List.map_id, List.map_id]

/-- Whether a pattern accepts a text in memory where case is ignored. -/
def acceptsFolded (raw s : String) : Bool :=
  accepts (Memory.sameChar true) (pieces raw.toList) s.toList

/-- Whether a database that knows the full lower case matches a text where case is ignored. -/
def likesLowered (raw s : String) : Bool :=
  likes (Relational.pattern (lowercase raw)).toList (lowercase s).toList

private theorem keepsSpecial_mapChar {runs : List Run}
    (before : ∀ n ∈ special.map Char.toNat, lookup? runs n = none ∧ 0 < n ∧
      ∀ r ∈ runs, n < r.image) :
    KeepsSpecial (mapChar runs) := by
  intro x member
  obtain ⟨fixed, positive, below⟩ := before x.toNat (List.mem_map_of_mem member)
  exact mapChar_eq_iff fixed positive below

private theorem keepsSpecial_foldChar : KeepsSpecial foldChar :=
  keepsSpecial_mapChar (by decide +kernel)

private theorem keepsSpecial_lowerOf : KeepsSpecial lowerOf :=
  keepsSpecial_mapChar (by decide +kernel)

private theorem likes_map {f : Char → Char} (keeps : KeepsSpecial f) (pattern s : List Char) :
    likes (terminated (pattern.map f)) (s.map f) =
      accepts (fun a b => f a == f b) (pieces pattern) s := by
  rw [likes_terminated, pieces_map keeps, accepts_map (f := f) fun _ _ _ _ => rfl]

private theorem likesLowered_eq {raw s : String} (plainRaw : ∀ c ∈ raw.toList, IsPlain c)
    (plainText : ∀ c ∈ s.toList, IsPlain c) :
    likesLowered raw s = accepts (fun a b => lowerOf a == lowerOf b)
      (pieces raw.toList) s.toList := by
  rw [← likes_map keepsSpecial_lowerOf, ← lowerChars_of_plain plainRaw,
    ← lowerChars_of_plain plainText]
  unfold likesLowered Relational.pattern lowercase
  simp only [String.toList_ofList]

/-- Case classes and lower case select alike where they tell the same characters of the pattern and
the text apart. -/
theorem acceptsFolded_eq_likesLowered {raw s : String} (plainRaw : ∀ c ∈ raw.toList, IsPlain c)
    (plainText : ∀ c ∈ s.toList, IsPlain c)
    (alike : ∀ a ∈ raw.toList, ∀ b ∈ s.toList, foldChar a = foldChar b ↔ lowerOf a = lowerOf b) :
    acceptsFolded raw s = likesLowered raw s := by
  rw [likesLowered_eq plainRaw plainText]
  refine accepts_congr fun a member b inside => ?_
  change (foldChar a == foldChar b) = (lowerOf a == lowerOf b)
  rw [Bool.eq_iff_iff, beq_iff_eq, beq_iff_eq]
  exact alike a (mem_of_char_mem_pieces member) b inside

private theorem isPlain_of_special {c : Char} (member : c ∈ special) : IsPlain c := by
  have ascii : ∀ n ∈ special.map Char.toNat, n < 0x80 := by decide
  exact isPlain_ascii (ascii c.toNat (List.mem_map_of_mem member))

private theorem isPlain_of_mem {letters : Set Char} (noDotted : 'İ' ∉ letters)
    (noSigma : 'Σ' ∉ letters) {c : Char} (member : c ∈ letters) : IsPlain c :=
  ⟨fun same => noDotted (same ▸ member), fun same => noSigma (same ▸ member)⟩

private theorem lowerChar_eq_iff {a b : Char} (plainA : IsPlain a) (plainB : IsPlain b) :
    lowerChar a = lowerChar b ↔ lowerOf a = lowerOf b := by
  rw [lowerChar_of_plain plainA, lowerChar_of_plain plainB, List.singleton_inj]

private theorem KeepsSpecial.eq_iff {f : Char → Char} (keeps : KeepsSpecial f) {x : Char}
    (member : x ∈ special) (c : Char) :
    f x = f c ↔ c = x := by
  rw [(keeps x member x).2 rfl, eq_comm, keeps x member c]

private theorem accepts_escaped {same : Char → Char → Bool} (a b : Char) :
    accepts same (pieces ['\\', a]) [b] = same a b := by
  have single : pieces ['\\', a] = [.char a] := rfl
  rw [single, accepts_char_cons]
  exact Bool.and_true _

/-- Over a set of letters, patterns that ignore case match the same texts in memory and in a
database that compares lower cases, whatever the pattern, exactly if neither the dotted capital I
nor the capital sigma is among the letters and case classes and lower cases tell the same letters
apart. -/
theorem ignoring_case_agrees_iff (letters : Set Char) :
    (∀ raw s : String, (∀ c ∈ raw.toList, c ∈ letters ∨ c ∈ special) →
      (∀ c ∈ s.toList, c ∈ letters) →
        acceptsFolded raw s = likesLowered raw s) ↔
      'İ' ∉ letters ∧ 'Σ' ∉ letters ∧
        ∀ a ∈ letters, ∀ b ∈ letters, (foldChar a = foldChar b ↔ lowerChar a = lowerChar b) := by
  constructor
  · intro agree
    have noDotted : 'İ' ∉ letters := by
      intro member
      -- The lower case of the one character is two.
      have differ : acceptsFolded "_" "İ" ≠ likesLowered "_" "İ" := by decide +kernel
      exact differ (agree "_" "İ" (by simp [special]) (by simpa using member))
    have noSigma : 'Σ' ∉ letters := by
      intro member
      -- The last sigma of the text stands at the end of a word, and the sigma of the pattern does
      -- not.
      have differ : acceptsFolded "_Σ" "ΣΣ" ≠ likesLowered "_Σ" "ΣΣ" := by decide +kernel
      exact differ (agree "_Σ" "ΣΣ" (by simp [special, member]) (by simpa using member))
    have plain : ∀ c ∈ letters, IsPlain c := fun c member => isPlain_of_mem noDotted noSigma member
    refine ⟨noDotted, noSigma, fun a memberA b memberB => ?_⟩
    have escape : IsPlain '\\' := isPlain_of_special (by decide)
    -- Escaped, the letter stands for itself even where it is a wildcard.
    have same :=
      agree (String.ofList ['\\', a]) (String.ofList [b]) (by simp [special, memberA])
        (by simpa using memberB)
    rw [likesLowered_eq (by simp [escape, plain a memberA])
      (by simpa using plain b memberB)] at same
    unfold acceptsFolded at same
    rw [String.toList_ofList, String.toList_ofList, accepts_escaped, accepts_escaped] at same
    change (foldChar a == foldChar b) = (lowerOf a == lowerOf b) at same
    rw [lowerChar_eq_iff (plain a memberA) (plain b memberB), ← beq_iff_eq, same, beq_iff_eq]
  · rintro ⟨noDotted, noSigma, alike⟩ raw s written inside
    have plain : ∀ c ∈ letters, IsPlain c := fun c member => isPlain_of_mem noDotted noSigma member
    refine acceptsFolded_eq_likesLowered (fun c member =>
      (written c member).elim (plain c) isPlain_of_special)
      (fun c member => plain c (inside c member)) fun a memberA b memberB => ?_
    rcases written a memberA with letter | sign
    · rw [alike a letter b (inside b memberB),
        lowerChar_eq_iff (plain a letter) (plain b (inside b memberB))]
    · rw [keepsSpecial_foldChar.eq_iff sign, keepsSpecial_lowerOf.eq_iff sign]

/-- A sigma before a wildcard is taken for one at the end of a word, the long s has the case class
of s and a lower case of its own, and the lower case of the dotted capital I is two characters. -/
theorem not_agrees_on_letters :
    (acceptsFolded "ΑΣ%" "ΑΣΑ" = true ∧ likesLowered "ΑΣ%" "ΑΣΑ" = false) ∧
      (acceptsFolded "s" "ſ" = true ∧ likesLowered "s" "ſ" = false) ∧
        acceptsFolded "i̇" "İ" = false ∧ likesLowered "i̇" "İ" = true := by
  decide +kernel

end FilterQuery.Like
