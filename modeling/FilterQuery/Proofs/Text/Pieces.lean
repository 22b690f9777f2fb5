import FilterQuery.Proofs.Steps
import FilterQuery.Text.Split

set_option autoImplicit false
set_option relaxedAutoImplicit false

/-!
Pieces of a text. A text is cut into the only pieces without separators that it is joined of, and at
its first separator into the only two parts of which the first is without one.
-/

namespace FilterQuery.Text.Split

variable {separator : Char}

private theorem split_eq_splitOn (separator : Char) (s : List Char) :
    split separator s = s.splitOn separator := by
  induction s with
  | nil => rw [List.splitOn_nil, split]
  | cons c s ih =>
    rw [split, ih, List.splitOn_cons_eq_if_modifyHead]
    by_cases cut : c = separator
    · rw [if_pos cut, if_pos (by simpa using cut)]
    · rw [if_neg cut, if_neg (by simpa using cut)]
      cases pieces : s.splitOn separator with
      | nil => exact absurd pieces (List.splitOn_ne_nil separator s)
      | cons piece pieces => rfl

private theorem split_ne_nil (separator : Char) (s : List Char) : split separator s ≠ [] := by
  rw [split_eq_splitOn]
  exact List.splitOn_ne_nil separator s

theorem not_mem_of_mem_split {s : List Char} : ∀ piece ∈ split separator s, separator ∉ piece := by
  induction s with
  | nil => simp [split]
  | cons c s ih =>
    rw [split]
    by_cases cut : c = separator
    · rw [if_pos cut]
      exact List.forall_mem_cons.2 ⟨by simp, ih⟩
    · rw [if_neg cut]
      cases pieces : split separator s with
      | nil => exact absurd pieces (split_ne_nil separator s)
      | cons piece pieces =>
        rw [pieces] at ih
        obtain ⟨first, others⟩ := List.forall_mem_cons.1 ih
        have free : separator ∉ c :: piece := by
          rw [List.mem_cons, not_or]
          exact ⟨Ne.symm cut, first⟩
        exact List.forall_mem_cons.2 ⟨free, others⟩

theorem split_eq_iff {s : List Char} {pieces : List (List Char)} :
    split separator s = pieces ↔
      pieces ≠ [] ∧ (∀ piece ∈ pieces, separator ∉ piece) ∧
        s = List.intercalate [separator] pieces := by
  constructor
  · rintro rfl
    refine ⟨split_ne_nil separator s, not_mem_of_mem_split, ?_⟩
    rw [split_eq_splitOn, List.intercalate_splitOn]
  · rintro ⟨some, free, rfl⟩
    rw [split_eq_splitOn, List.splitOn_intercalate separator free some]

theorem split_append (separator : Char) (s t : List Char) :
    split separator (s ++ separator :: t) = split separator s ++ split separator t := by
  rw [split_eq_splitOn, split_eq_splitOn, split_eq_splitOn]
  exact List.splitOnP_append_cons s t (by simp)

theorem not_mem_of_mem_segments {s : String} :
    ∀ piece ∈ segments separator s, separator ∉ piece.toList := by
  intro piece member
  obtain ⟨chars, inside, rfl⟩ := List.mem_map.1 member
  rw [String.toList_ofList]
  exact not_mem_of_mem_split chars inside

theorem segments_intercalate {pieces : List String} (some : pieces ≠ [])
    (free : ∀ piece ∈ pieces, '.' ∉ piece.toList) :
    segments '.' (".".intercalate pieces) = pieces := by
  have cut : split '.' (".".intercalate pieces).toList = pieces.map String.toList := by
    rw [split_eq_iff, String.toList_intercalate]
    refine ⟨by simpa using some, fun piece member => ?_, rfl⟩
    obtain ⟨name, inside, rfl⟩ := List.mem_map.1 member
    exact free name inside
  rw [segments, cut, List.map_map]
  refine (List.map_congr_left fun piece _ => ?_).trans (List.map_id pieces)
  exact String.ofList_toList

theorem eq_or_mem_of_mem_intercalate {pieces : List (List Char)} {c : Char}
    (member : c ∈ List.intercalate [separator] pieces) :
    c = separator ∨ ∃ piece ∈ pieces, c ∈ piece := by
  induction pieces with
  | nil => cases member
  | cons piece pieces ih =>
    cases pieces with
    | nil =>
      rw [List.intercalate_singleton] at member
      exact .inr ⟨piece, by simp, member⟩
    | cons next pieces =>
      rw [List.intercalate_cons_cons, List.append_assoc, List.mem_append, List.mem_append,
        List.mem_singleton] at member
      rcases member with here | here | later
      · exact .inr ⟨piece, by simp, here⟩
      · exact .inl here
      · rcases ih later with cut | ⟨other, inside, here⟩
        · exact .inl cut
        · exact .inr ⟨other, List.mem_cons_of_mem piece inside, here⟩

theorem not_mem_intercalate {pieces : List (List Char)} {c : Char} (different : c ≠ separator)
    (each : ∀ piece ∈ pieces, c ∉ piece) : c ∉ List.intercalate [separator] pieces := by
  intro member
  rcases eq_or_mem_of_mem_intercalate member with same | ⟨piece, inside, here⟩
  · exact different same
  · exact each piece inside here

theorem mem_intercalate_of_mem {pieces : List (List Char)} {piece : List Char}
    (member : piece ∈ pieces) {c : Char} (here : c ∈ piece) :
    c ∈ List.intercalate [separator] pieces := by
  induction pieces with
  | nil => cases member
  | cons first pieces ih =>
    cases pieces with
    | nil =>
      rw [List.mem_singleton] at member
      rwa [List.intercalate_singleton, ← member]
    | cons next pieces =>
      rw [List.intercalate_cons_cons, List.append_assoc, List.mem_append, List.mem_append]
      rcases List.mem_cons.1 member with rfl | later
      · exact .inl here
      · exact .inr (.inr (ih later))

theorem cut?_eq_some_iff {s before after : List Char} :
    cut? separator s = some (before, after) ↔
      separator ∉ before ∧ s = before ++ separator :: after := by
  induction s generalizing before with
  | nil => simp [cut?]
  | cons c s ih =>
    rw [cut?]
    by_cases cut : c = separator
    · subst cut
      rw [if_pos rfl]
      cases before with
      | nil => simp [eq_comm]
      | cons d before =>
        constructor
        · intro found
          cases found
        · rintro ⟨free, same⟩
          rw [List.cons_append] at same
          exact absurd (List.mem_cons_self) ((List.cons.inj same).1 ▸ free)
    · rw [if_neg cut]
      cases before with
      | nil => simp [cut]
      | cons d before =>
        simp only [Option.map_eq_some_iff, Prod.mk.injEq, List.cons.injEq, Prod.exists,
          List.mem_cons, not_or, List.cons_append]
        constructor
        · rintro ⟨first, second, found, ⟨rfl, rfl⟩, rfl⟩
          obtain ⟨free, rfl⟩ := ih.1 found
          exact ⟨⟨Ne.symm cut, free⟩, rfl, rfl⟩
        · rintro ⟨⟨_, free⟩, rfl, rest⟩
          exact ⟨before, after, ih.2 ⟨free, rest⟩, ⟨rfl, rfl⟩, rfl⟩

theorem not_mem_of_forall {p : Char → Bool} {s : List Char} (each : ∀ c ∈ s, p c = true) {d : Char}
    (other : p d = false) : d ∉ s := by
  intro member
  rw [each d member] at other
  cases other

/-- Where two texts start with characters of one kind, they are the same text only if these
characters and what stops them are the same. -/
theorem run_inj {p : Char → Bool} {s t r r' : List Char} {c d : Char} (hs : ∀ x ∈ s, p x = true)
    (ht : ∀ x ∈ t, p x = true) (hc : p c = false) (hd : p d = false)
    (same : s ++ c :: r = t ++ d :: r') : s = t ∧ c = d ∧ r = r' := by
  have start : ∀ {s r : List Char} {c : Char}, (∀ x ∈ s, p x = true) → p c = false →
      (s ++ c :: r).takeWhile p = s := by
    intro s r c each stop
    rw [List.takeWhile_append_of_pos each, List.takeWhile_cons_of_neg (by simp [stop]),
      List.append_nil]
  have runs : s = t := by rw [← start hs hc (r := r), same, start ht hd]
  subst runs
  obtain ⟨rfl, rfl⟩ := List.cons.inj (List.append_cancel_left same)
  exact ⟨rfl, rfl, rfl⟩

theorem map_snd_place (start : Nat) (pieces : List (List Char)) :
    (place start pieces).map Prod.snd = pieces := by
  induction pieces generalizing start with
  | nil => rfl
  | cons piece pieces ih => rw [place, List.map_cons, ih]

theorem map_place {β : Type} (f : List Char → β) (start : Nat) (pieces : List (List Char)) :
    (place start pieces).map (fun x => f x.2) = pieces.map f := by
  have parts : (place start pieces).map (fun x => f x.2) =
      ((place start pieces).map Prod.snd).map f := by
    rw [List.map_map]
    rfl
  rw [parts, map_snd_place]

theorem byteSize_append (s t : List Char) : byteSize (s ++ t) = byteSize s + byteSize t := by
  induction s with
  | nil => rw [List.nil_append, byteSize, Nat.zero_add]
  | cons c s ih => rw [List.cons_append, byteSize, byteSize, ih, Nat.add_assoc]

theorem byteSize_toList (s : String) : byteSize s.toList = s.utf8ByteSize := by
  have sizes : ∀ cs : List Char, byteSize cs = (String.ofList cs).utf8ByteSize := by
    intro cs
    induction cs with
    | nil => rfl
    | cons c cs ih =>
      rw [byteSize, ih, String.ofList_cons, String.utf8ByteSize_append,
        String.utf8ByteSize_singleton]
  rw [sizes, String.ofList_toList]

def width : List (List Char) → Nat
  | [] => 0
  | piece :: pieces => byteSize piece + 1 + width pieces

theorem width_split (single : separator.utf8Size = 1) (s : List Char) :
    width (split separator s) = byteSize s + 1 := by
  induction s with
  | nil => rfl
  | cons c s ih =>
    rw [split, byteSize]
    by_cases cut : c = separator
    · rw [if_pos cut, width, ih, cut, single, byteSize]
      omega
    · rw [if_neg cut]
      cases pieces : split separator s with
      | nil => exact absurd pieces (split_ne_nil separator s)
      | cons piece pieces =>
        simp only [pieces, width, byteSize] at ih ⊢
        omega

theorem place_append (start : Nat) (pieces others : List (List Char)) :
    place start (pieces ++ others) = place start pieces ++ place (start + width pieces) others := by
  induction pieces generalizing start with
  | nil => rfl
  | cons piece pieces ih =>
    rw [List.cons_append, place, place, ih, width, List.cons_append, ← Nat.add_assoc start,
      ← Nat.add_assoc start]

theorem mapM_place_eq_ok_iff {ε β : Type} {f : Nat × List Char → Except ε β}
    {R : List Char → β → Prop} (each : ∀ start piece b, f (start, piece) = .ok b ↔ R piece b)
    {start : Nat} {pieces : List (List Char)} {bs : List β} :
    (place start pieces).mapM f = .ok bs ↔ List.Forall₂ R pieces bs := by
  have related : (fun (x : Nat × List Char) b => f x = .ok b) = fun x b => R x.2 b := by
    funext x b
    exact propext (each x.1 x.2 b)
  rw [mapM_eq_ok_iff, related]
  have named : List.Forall₂ R ((place start pieces).map Prod.snd) bs ↔
      List.Forall₂ (fun x b => R x.2 b) (place start pieces) bs := List.forall₂_map_left_iff
  rw [← named, map_snd_place]

end FilterQuery.Text.Split
