import FilterQuery.Proofs.Query.Grammar

set_option autoImplicit false
set_option relaxedAutoImplicit false

/-!
Where the faults of query texts are found. The place that an error names is one of the text, and
what stands there is the token that the message quotes, up to the separator or bracket that ends it.
-/

namespace FilterQuery

/-- What is at fault, as the message quotes it; nothing where something is missing. -/
def SyntaxFault.token : SyntaxFault → String
  | .emptyClause => ""
  | .emptyValue => ""
  | .missingEquals clause => clause
  | .unrecognizedClause key => key
  | .invalidPath path => path
  | .invalidOperator token => token
  | .notInteger raw => raw
  | .integerTooLarge raw => raw

/-- The characters that may follow what is at fault, if the text does not end there. -/
def SyntaxFault.ends : SyntaxFault → List Char
  | .emptyClause => ['&']
  | .emptyValue => [',', '&']
  | .missingEquals _ => ['&']
  | .unrecognizedClause _ => ['=']
  | .invalidPath _ => [']', ',', '&']
  | .invalidOperator _ => [']']
  | .notInteger _ => ['&']
  | .integerTooLarge _ => ['&']

/-- A message that quotes the token between backticks, or says that something is missing. -/
def SyntaxFault.Tells (fault : SyntaxFault) : Prop :=
  (∃ opening closing, fault.message = opening ++ "`" ++ fault.token ++ ("`" ++ closing)) ∨
    fault.token = "" ∧ (fault.message = "empty clause" ∨ fault.message = "empty value")

private theorem SyntaxFault.tells (fault : SyntaxFault) : fault.Tells := by
  cases fault with
  | emptyClause => exact .inr ⟨rfl, .inl rfl⟩
  | emptyValue => exact .inr ⟨rfl, .inr rfl⟩
  | missingEquals clause => exact .inl ⟨"expected `=` in clause ", "", rfl⟩
  | unrecognizedClause key => exact .inl ⟨"unrecognized clause ", "", rfl⟩
  | invalidPath path => exact .inl ⟨"invalid attribute path ", "", rfl⟩
  | invalidOperator token => exact .inl ⟨"invalid operator token ", "", rfl⟩
  | notInteger raw => exact .inl ⟨"expected an integer, got ", "", rfl⟩
  | integerTooLarge raw =>
    exact .inl ⟨"integer ", " out of range: number too large to fit in target type", rfl⟩

namespace Text.Split

def StandsAt (whole : List Char) (start : Nat) (part after : List Char) : Prop :=
  ∃ before, whole = before ++ (part ++ after) ∧ byteSize before = start

section

variable {whole part after p q : List Char} {start : Nat}

theorem StandsAt.left (stands : StandsAt whole start (p ++ q) after) :
    StandsAt whole start p (q ++ after) := by
  obtain ⟨before, rfl, place⟩ := stands
  exact ⟨before, by rw [List.append_assoc], place⟩

theorem StandsAt.right (stands : StandsAt whole start (p ++ q) after) :
    StandsAt whole (start + byteSize p) q after := by
  obtain ⟨before, rfl, place⟩ := stands
  refine ⟨before ++ p, by simp only [List.append_assoc], ?_⟩
  rw [byteSize_append, place]

/-- Joined pieces stand where their places say, each before a separator or where the whole ends. -/
theorem standsAt_of_mem_place {separator : Char} (single : separator.utf8Size = 1)
    {pieces : List (List Char)} (stands :
      StandsAt whole start (List.intercalate [separator] pieces) after) :
    ∀ x ∈ place start pieces, ∃ rest, StandsAt whole x.1 x.2 rest ∧
      (rest = after ∨ ∃ more, rest = separator :: more) := by
  induction pieces generalizing start with
  | nil => exact List.forall_mem_nil _
  | cons piece pieces ih =>
    rw [place, List.forall_mem_cons]
    cases pieces with
    | nil =>
      rw [List.intercalate_singleton] at stands
      exact ⟨⟨after, stands, .inl rfl⟩, List.forall_mem_nil _⟩
    | cons next pieces =>
      rw [List.intercalate_cons_cons, List.append_assoc] at stands
      refine ⟨⟨_, stands.left, .inr ⟨_, rfl⟩⟩, ih ?_⟩
      have further := stands.right.right
      rwa [byteSize, byteSize, single] at further

private theorem standsAt_of_mem_split {separator : Char} (single : separator.utf8Size = 1)
    (stands : StandsAt whole start part after) :
    ∀ x ∈ place start (split separator part),
      ∃ rest, StandsAt whole x.1 x.2 rest ∧ (rest = after ∨ ∃ more, rest = separator :: more) := by
  apply standsAt_of_mem_place single
  rwa [← (split_eq_iff.1 (rfl : split separator part = split separator part)).2.2]

end

end Text.Split

namespace Query

open FilterQuery.Number.Reading (natOfDigits isDigits)
open FilterQuery.Query.Reader
open FilterQuery.Text.Split

/-- What follows is nothing, or starts with one of some characters. -/
def EndsBy (ends after : List Char) : Prop :=
  ∀ c ∈ after.head?, c ∈ ends

def PointsAt (whole : List Char) (start : Nat) (fault : SyntaxFault) : Prop :=
  ∃ after, StandsAt whole start fault.token.toList after ∧ EndsBy fault.ends after

def Located {α : Type} (whole : List Char) (outcome : Except Error α) : Prop :=
  ∀ e, outcome = .error e → ∃ start fault, e = .query start fault ∧ PointsAt whole start fault

section Located

variable {α β : Type} {whole : List Char}

private theorem located_ok (a : α) : Located whole (.ok a) := nofun

private theorem located_refuse {start : Nat} {fault : SyntaxFault}
    (points : PointsAt whole start fault) :
    Located whole (refuse start fault : Except Error α) := by
  rintro _ ⟨⟩
  exact ⟨start, fault, rfl, points⟩

theorem Located.bind {x : Except Error α} {f : α → Except Error β} (first : Located whole x)
    (next : ∀ a, x = .ok a → Located whole (f a)) : Located whole (x.bind f) := by
  cases x with
  | error e =>
    rintro _ ⟨⟩
    exact first e rfl
  | ok a => exact next a rfl

theorem Located.map {x : Except Error α} (first : Located whole x) (f : α → β) :
    Located whole (f <$> x) :=
  fun e failed => first e (map_eq_error_iff.1 failed)

theorem Located.mapM {f : α → Except Error β} {xs : List α} (each : ∀ x ∈ xs, Located whole (f x)) :
    Located whole (xs.mapM f) := by
  intro e failed
  obtain ⟨x, member, here⟩ := exists_of_mapM_error failed
  exact each x member e here

end Located

variable {whole : List Char} {start : Nat} {part after : List Char}

private theorem endsBy_cons {ends : List Char} {c : Char} (allowed : c ∈ ends) :
    EndsBy ends (c :: after) := by
  rintro _ ⟨⟩
  exact allowed

theorem EndsBy.mono {ends others : List Char} (ended : EndsBy ends after) (more : ends ⊆ others) :
    EndsBy others after :=
  fun c here => more (ended c here)

private theorem located_refuse_part {α : Type} {fault : SyntaxFault}
    (quoted : fault.token = String.ofList part) (stands : StandsAt whole start part after)
    (ended : EndsBy fault.ends after) :
    Located whole (refuse start fault : Except Error α) := by
  refine located_refuse ⟨after, ?_, ended⟩
  rwa [quoted, String.toList_ofList]

private theorem located_readPath (stands : StandsAt whole start part after)
    (ended : EndsBy [']', ',', '&'] after) :
    Located whole (readPath start part) := by
  unfold readPath
  split
  · exact located_ok _
  · exact located_refuse_part rfl stands ended

private theorem located_readSortKey (stands : StandsAt whole start part after)
    (ended : EndsBy [']', ',', '&'] after) :
    Located whole (readSortKey start part) := by
  by_cases hyphen : ∃ path, part = '-' :: path
  · obtain ⟨path, rfl⟩ := hyphen
    rw [readSortKey_hyphen]
    have further : StandsAt whole (start + 1) path after := StandsAt.right (p := ['-']) stands
    exact (located_readPath further ended).map _
  · rw [readSortKey_plain fun path same => hyphen ⟨path, same⟩]
    exact (located_readPath stands ended).map _

private theorem located_readInteger (stands : StandsAt whole start part after)
    (ended : EndsBy ['&'] after) :
    Located whole (readInteger start part) := by
  unfold readInteger
  split
  · exact located_refuse_part rfl stands ended
  · split
    · exact located_ok _
    · exact located_refuse_part rfl stands ended

private theorem readValues_placed {placed : List (Nat × List Char)}
    (made : readValues start part = .ok placed) :
    placed = place start (split ',' part) := by
  obtain ⟨values, proper, joined, rfl⟩ := readValues_eq_ok_iff.1 made
  rw [split_eq_iff.2 ⟨proper.some, proper.free, joined⟩]

private theorem standsAt_value (stands : StandsAt whole start part after)
    (ended : EndsBy ['&'] after) :
    ∀ x ∈ place start (split ',' part), ∃ rest, StandsAt whole x.1 x.2 rest ∧
      EndsBy [',', '&'] rest := by
  intro x member
  obtain ⟨rest, here, rfl | ⟨more, rfl⟩⟩ := standsAt_of_mem_split (by decide) stands x member
  · exact ⟨rest, here, ended.mono (by decide)⟩
  · exact ⟨_, here, endsBy_cons (by decide)⟩

private theorem located_readValues (stands : StandsAt whole start part after)
    (ended : EndsBy ['&'] after) :
    Located whole (readValues start part) := by
  refine Located.mapM fun x member => ?_
  obtain ⟨rest, here, ended⟩ := standsAt_value stands ended x member
  dsimp only
  split
  · next empty =>
    have nothing : SyntaxFault.token .emptyValue = String.ofList x.2 := by
      rw [List.isEmpty_iff.1 empty]
      rfl
    exact located_refuse_part nothing here ended
  · exact located_ok _

private theorem located_readList {f : Nat × List Char → Except Error String}
    {make : List String → Clause} (each : ∀ place value rest, StandsAt whole place value rest →
      EndsBy [',', '&'] rest → Located whole (f (place, value)))
    (stands : StandsAt whole start part after) (ended : EndsBy ['&'] after) :
    Located whole ((readValues start part).bind fun placed => (placed.mapM f).bind fun found =>
      .ok (make found)) := by
  refine (located_readValues stands ended).bind fun placed made => ?_
  refine (Located.mapM fun x member => ?_).bind fun found _ => located_ok _
  rw [readValues_placed made] at member
  obtain ⟨rest, here, ended⟩ := standsAt_value stands ended x member
  exact each x.1 x.2 rest here ended

private theorem located_readOperator {token : Option (List Char)}
    (stands : ∀ letters ∈ token, ∃ rest, StandsAt whole start letters rest ∧ EndsBy [']'] rest) :
    Located whole (readOperator start token) := by
  cases token with
  | none => exact located_ok _
  | some letters =>
    obtain ⟨rest, here, ended⟩ := stands letters rfl
    rw [readOperator]
    split
    · exact located_ok _
    · exact located_refuse_part rfl here ended

private theorem located_readFilter {key raw : List Char}
    (stands : StandsAt whole start (key ++ '=' :: raw) after) (ended : EndsBy ['&'] after) :
    Located whole (readFilter start key (start + byteSize key + 1) raw) := by
  unfold readFilter
  cases found : filterKey? key with
  | none => exact located_refuse_part rfl stands.left (endsBy_cons (by simp [SyntaxFault.ends]))
  | some parts =>
    obtain ⟨path, token⟩ := parts
    obtain ⟨-, -, spelled⟩ := filterKey?_eq_some_iff.1 found
    -- the path comes after `filter[`, and a token after the path and two more brackets
    have opened : key = "filter[".toList ++ (path ++ (']' :: operatorText token)) := by
      simp [spelled, inBrackets]
    have inPath := stands.left
    rw [opened] at inPath
    have inPath := inPath.right.left
    have inToken : ∀ letters ∈ token,
        ∃ rest, StandsAt whole (start + 7 + byteSize path + 2) letters rest ∧
          EndsBy [']'] rest := by
      rintro letters ⟨⟩
      have named : key = ("filter[".toList ++ (path ++ "][".toList)) ++ (letters ++ [']']) := by
        simp [spelled, inBrackets, operatorText]
      have further := stands.left
      rw [named] at further
      have further := further.right.left
      rw [byteSize_append, byteSize_append, ← Nat.add_assoc, ← Nat.add_assoc] at further
      exact ⟨_, further, endsBy_cons (by decide)⟩
    refine (located_readPath inPath (endsBy_cons (by decide))).bind fun path' _ => ?_
    refine (located_readOperator inToken).bind fun operator _ => ?_
    have inValues : StandsAt whole (start + byteSize key + 1) raw after :=
      StandsAt.right (p := ['=']) stands.right
    exact (located_readValues inValues ended).bind fun values _ => located_ok _

private theorem located_readClause (stands : StandsAt whole start part after)
    (ended : EndsBy ['&'] after) :
    Located whole (readClause start part) := by
  unfold readClause
  split
  · next empty =>
    refine located_refuse_part ?_ stands ended
    rw [List.isEmpty_iff.1 empty]
    rfl
  · split
    · exact located_refuse_part rfl stands ended
    · next key raw found =>
      obtain ⟨-, rfl⟩ := cut?_eq_some_iff.1 found
      have inValues : StandsAt whole (start + byteSize key + 1) raw after :=
        StandsAt.right (p := ['=']) stands.right
      dsimp only
      split
      · exact located_readList (fun _ _ _ here ended =>
          located_readPath here (ended.mono (by decide))) inValues ended
      · exact located_readList (fun _ _ _ here ended =>
          located_readSortKey here (ended.mono (by decide))) inValues ended
      · exact (located_readInteger inValues ended).map _
      · exact (located_readInteger inValues ended).map _
      · exact (located_readFilter stands ended).map _

private theorem located_readClauses (s : List Char) : Located s (readClauses 0 s) := by
  refine Located.mapM fun x member => ?_
  have stands : StandsAt s 0 s [] := ⟨[], by simp, rfl⟩
  obtain ⟨rest, here, rfl | ⟨more, rfl⟩⟩ := standsAt_of_mem_split (by decide) stands x member
  · exact located_readClause here nofun
  · exact located_readClause here (endsBy_cons (by decide))

/-- A text that is refused has its fault where the error says. The place is at most the text's size
and lies between two characters. From there on stands the token that the message quotes, up to the
end of the text or a character that ends such a token; where a clause or a value is missing, there
is no token, only what ends it. -/
theorem read_error_points {text : String} {e : Error} (failed : Reader.read text = .error e) :
    ∃ start fault before after, e = .query start fault ∧ text = before ++ (fault.token ++ after) ∧
      before.utf8ByteSize = start ∧ start ≤ text.utf8ByteSize ∧
        String.Pos.Raw.IsValid text ⟨start⟩ ∧
        EndsBy fault.ends after.toList ∧ fault.Tells := by
  unfold Reader.read at failed
  split at failed
  · cases failed
  · obtain ⟨start, fault, rfl, after, ⟨before, joined, place⟩, ended⟩ :=
      located_readClauses text.toList e (map_eq_error_iff.1 failed)
    have whole : text = String.ofList before ++ (fault.token ++ String.ofList after) := by
      rw [← String.toList_inj, joined]
      simp
    have bytes : (String.ofList before).utf8ByteSize = start := by
      rw [← byteSize_toList, String.toList_ofList, place]
    refine ⟨start, fault, String.ofList before, String.ofList after, rfl, whole, bytes, ?_, ?_,
      ?_, fault.tells⟩
    · rw [whole, String.utf8ByteSize_append]
      omega
    · rw [String.Pos.Raw.isValid_iff_exists_append]
      exact ⟨_, _, whole, by rw [← bytes]; rfl⟩
    · rwa [String.toList_ofList]

/-- A sort key that is no path is found behind values and names with letters of more than one
byte. -/
theorem accented_key_points :
    Reader.read "filter[name]=Zoë,Ærø&sort=-age,-é.x&page" =
      .error (.query 35 (.invalidPath "é.x")) ∧
      ∃ before after, "filter[name]=Zoë,Ærø&sort=-age,-é.x&page" = before ++ ("é.x" ++ after) ∧
        before.utf8ByteSize = 35 ∧ EndsBy [']', ',', '&'] after.toList := by
  have failed : Reader.read "filter[name]=Zoë,Ærø&sort=-age,-é.x&page" =
    .error (.query 35 (.invalidPath "é.x")) := by rfl
  obtain ⟨start, fault, before, after, ⟨⟩, whole, bytes, -, -, ended, -⟩ := read_error_points failed
  exact ⟨failed, before, after, whole, bytes, ended⟩

end Query

end FilterQuery
