import FilterQuery.Proofs.Registry.Reach
import FilterQuery.Proofs.Text.Ascii
import FilterQuery.Proofs.Text.Pieces
import Mathlib.Data.List.Sort
import Mathlib.Data.String.Basic

set_option autoImplicit false
set_option relaxedAutoImplicit false

/-!
The relations to fetch along with records. Of every path just the longest part is kept that joined
relations lead along, in the schema's spelling. A name in that spelling finds the relation that it
was found by and has no dot in it, so that what was kept is kept as it is when it is asked for
again.
-/

namespace FilterQuery.Registry

open FilterQuery.Text.Split (not_mem_of_mem_segments segments segments_intercalate)

section

variable {schema : Schema} {registry : Registry} {entity : String} {e : Entity}

/-- Segments that name joined relations one after another, the first of an entity, and the schema's
spelling of them. -/
inductive Along (schema : Schema) : Entity → List String → List String → Prop
  | nil (e : Entity) : Along schema e [] []
  | cons {e next : Entity} {segment : String} {segments names : List String} {r : Relation}
      (named : joined? e segment = some r) (target : schema.entity? r.target = some next)
      (rest : Along schema next segments names) : Along schema e (segment :: segments)
        (r.name :: names)

/-- The names along the longest part of a path, from its start, that joined relations lead along. -/
def Longest (schema : Schema) (e : Entity) (path names : List String) : Prop :=
  ∃ start, start <+: path ∧ Along schema e start names ∧
    ∀ longer others, longer <+: path → Along schema e longer others → longer.length ≤ start.length

private theorem relation?_congr (registry : Registry) {other name name' : String}
    (entities : foldName entity = foldName other) (names : foldName name = foldName name') :
    registry.relation? entity name = registry.relation? other name' := by
  unfold relation? NameIndex.get?
  rw [entities, names]

private theorem foldName_of_relation? (origin : FromSchema schema registry.entities) {name : String}
    {link : RelationTarget} (known : registry.relation? entity name = some link) :
    foldName link.name = foldName name := by
  obtain ⟨-, targets, -, -, last⟩ := getLast?_of_relation? origin known
  simpa using (List.mem_filter.1 (List.mem_of_getLast? last)).2

private theorem relation?_eq_some_iff (origin : FromSchema schema registry.entities)
    (contains : registry.containsEntity entity = true) (found : schema.entity? entity = some e)
    {name : String} {link : RelationTarget} :
    registry.relation? entity name = some link ↔ ∃ r, joined? e name = some r ∧
      targetOf schema r = .ok link := by
  have spelled : registry.relation? entity name = registry.relation? e.name name :=
    registry.relation?_congr (Schema.foldName_of_entity? found).symm rfl
  have own := Schema.entity?_name found
  constructor
  · intro known
    exact relation?_eq_some origin own (spelled ▸ known)
  · rintro ⟨r, named, made⟩
    obtain ⟨inside, internal, same⟩ := mem_of_joined? named
    obtain ⟨entry, entered⟩ := Option.isSome_iff_exists.1 contains
    obtain ⟨e', targets, found', reached, rfl⟩ := origin entity entry entered
    obtain rfl : e' = e := Option.some.inj (found'.symm.trans found)
    have kept : r ∈ joined e' := List.mem_filter.2 ⟨inside, by simp [internal]⟩
    obtain ⟨link', member, made'⟩ := exists_left_of_forall₂ (mapM_eq_ok_iff.1 reached).flip r kept
    have listed : link' ∈ targets.filter fun link => foldName link.name == foldName name :=
      List.mem_filter.2 ⟨member, by simpa [(targetOf_eq_ok made').1] using same⟩
    have known : (registry.relation? entity name).isSome = true := by
      rw [relation?, entered, Option.bind_some]
      change ((NameIndex.ofList RelationTarget.name targets).get? name).isSome = true
      rw [NameIndex.get?_ofList, List.getLast?_eq_some_getLast (List.ne_nil_of_mem listed)]
      rfl
    obtain ⟨last, known⟩ := Option.isSome_iff_exists.1 known
    obtain ⟨r', named', madeLast⟩ := relation?_eq_some origin own (spelled ▸ known)
    obtain rfl : r' = r := Option.some.inj (named'.symm.trans named)
    rw [known, Except.ok.inj (madeLast.symm.trans made)]

private theorem follow_cons {name : String} {path : List String} {link : RelationTarget}
    (known : registry.relation? entity name = some link) :
    registry.follow entity (name :: path) = link.name :: registry.follow link.target path := by
  rw [follow, known]

private theorem follow_cons_of_none {name : String} {path : List String}
    (missing : registry.relation? entity name = none) :
    registry.follow entity (name :: path) = [] := by
  rw [follow, missing]

private theorem follow_of_not_contains (outside : registry.containsEntity entity = false)
    (path : List String) :
    registry.follow entity path = [] := by
  cases path with
  | nil => rfl
  | cons name path =>
    cases known : registry.relation? entity name with
    | none => exact follow_cons_of_none known
    | some link => exact absurd (contains_of_relation? known) (by simp [outside])

private theorem follow_congr {path other : List String}
    (alike : List.Forall₂ (fun s t => foldName s = foldName t) path other) :
    registry.follow entity path = registry.follow entity other := by
  induction alike generalizing entity with
  | nil => rfl
  | @cons s t path other first rest ih =>
    have same : registry.relation? entity s = registry.relation? entity t :=
      registry.relation?_congr rfl first
    rw [follow, follow, same]
    cases registry.relation? entity t with
    | none => rfl
    | some link => exact congrArg (link.name :: ·) ih

private theorem follow_follow (origin : FromSchema schema registry.entities) (entity : String)
    (path : List String) :
    registry.follow entity (registry.follow entity path) = registry.follow entity path := by
  induction path generalizing entity with
  | nil => rfl
  | cons name path ih =>
    cases known : registry.relation? entity name with
    | none => rw [follow_cons_of_none known, follow]
    | some link =>
      have again : registry.relation? entity link.name = some link := by
        rw [registry.relation?_congr rfl (foldName_of_relation? origin known), known]
      rw [follow_cons known, follow_cons again, ih]

private theorem dot_not_mem_follow (origin : FromSchema schema registry.entities)
    {path : List String} (free : ∀ segment ∈ path, '.' ∉ segment.toList) :
    ∀ name ∈ registry.follow entity path, '.' ∉ name.toList := by
  induction path generalizing entity with
  | nil => nofun
  | cons name path ih =>
    obtain ⟨first, others⟩ := List.forall_mem_cons.1 free
    cases known : registry.relation? entity name with
    | none =>
      rw [follow_cons_of_none known]
      nofun
    | some link =>
      rw [follow_cons known]
      refine List.forall_mem_cons.2 ⟨?_, ih others⟩
      rwa [← Text.dot_mem_foldName_iff, foldName_of_relation? origin known,
        Text.dot_mem_foldName_iff]

/-- What is followed leads along joined relations from the start of the path. -/
theorem along_follow {root : String} (built : build schema root = .ok registry)
    (contains : registry.containsEntity entity = true) (found : schema.entity? entity = some e)
    (path : List String) :
    Along schema e (path.take (registry.follow entity path).length)
      (registry.follow entity path) := by
  induction path generalizing entity e with
  | nil => exact .nil e
  | cons name path ih =>
    cases known : registry.relation? entity name with
    | none =>
      rw [follow_cons_of_none known]
      exact .nil e
    | some link =>
      obtain ⟨r, named, made⟩ :=
        (relation?_eq_some_iff (fromSchema_of_build built) contains found).1 known
      obtain ⟨spelled, -, next, target, reached⟩ := targetOf_eq_ok made
      have onward : schema.entity? link.target = some next := reached ▸ Schema.entity?_name target
      rw [follow_cons known, List.length_cons, List.take_succ_cons, spelled]
      exact .cons named target (ih (containsEntity_target built known) onward)

private theorem length_le_follow {root : String} (built : build schema root = .ok registry)
    (contains : registry.containsEntity entity = true) (found : schema.entity? entity = some e)
    {start path names : List String} (along : Along schema e start names) (part : start <+: path) :
    start.length ≤ (registry.follow entity path).length := by
  induction along generalizing entity path with
  | nil => exact Nat.zero_le _
  | @cons e next segment segments names r named target rest ih =>
    obtain ⟨after, rfl⟩ := part
    have known : registry.relation? entity segment = some ⟨r.name, next.name, r.collection⟩ := by
      refine (relation?_eq_some_iff (fromSchema_of_build built) contains found).2 ⟨r, named, ?_⟩
      rw [targetOf, target]
    rw [List.cons_append, follow_cons known, List.length_cons, List.length_cons]
    exact Nat.succ_le_succ (ih (containsEntity_target built known)
      (Schema.entity?_name target) ⟨after, rfl⟩)

theorem Along.length_eq {segments names : List String} (along : Along schema e segments names) :
    segments.length = names.length := by
  induction along with
  | nil => rfl
  | cons _ _ _ ih => rw [List.length_cons, List.length_cons, ih]

private theorem Along.names_eq {segments names others : List String}
    (one : Along schema e segments names) (two : Along schema e segments others) :
    names = others := by
  induction one generalizing others with
  | nil =>
    cases two
    rfl
  | cons named target _ ih =>
    cases two with
    | cons named' target' rest' =>
      cases named.symm.trans named'
      cases target.symm.trans target'
      rw [ih rest']

/-- From an entity that it contains a registry follows just the longest part of a path. -/
theorem longest_iff {root : String} (built : build schema root = .ok registry)
    (contains : registry.containsEntity entity = true) (found : schema.entity? entity = some e)
    {path names : List String} :
    Longest schema e path names ↔ registry.follow entity path = names := by
  have along := along_follow built contains found path
  have part : path.take (registry.follow entity path).length <+: path := List.take_prefix _ path
  constructor
  · rintro ⟨start, prefixed, named, longest⟩
    have atMost := length_le_follow built contains found named prefixed
    have atLeast := longest _ _ part along
    rw [along.length_eq] at atLeast
    have same : start = path.take (registry.follow entity path).length := by
      rw [List.prefix_iff_eq_take.1 prefixed, Nat.le_antisymm atMost atLeast]
    exact (named.names_eq (same ▸ along)).symm
  · rintro rfl
    refine ⟨_, part, along, fun longer others prefixed named => ?_⟩
    rw [along.length_eq]
    exact length_le_follow built contains found named prefixed

private theorem mem_insertText {text other : String} {texts : List String} :
    other ∈ insertText text texts ↔ other = text ∨ other ∈ texts := by
  induction texts with
  | nil => simp [insertText]
  | cons first texts ih =>
    rw [insertText]
    split
    · exact List.mem_cons
    · split
      · rename_i same
        subst same
        simp
      · rw [List.mem_cons, ih, List.mem_cons, or_left_comm]

private theorem pairwise_insertText {text : String} {texts : List String}
    (sorted : texts.Pairwise (· < ·)) :
    (insertText text texts).Pairwise (· < ·) := by
  induction texts with
  | nil => exact List.pairwise_singleton _ _
  | cons first texts ih =>
    obtain ⟨least, rest⟩ := List.pairwise_cons.1 sorted
    rw [insertText]
    split
    · rename_i before
      refine List.pairwise_cons.2 ⟨List.forall_mem_cons.2 ⟨before, fun other member => ?_⟩, sorted⟩
      exact lt_trans before (least other member)
    · split
      · exact sorted
      · rename_i notBefore different
        refine List.pairwise_cons.2 ⟨fun other member => ?_, ih rest⟩
        rcases mem_insertText.1 member with rfl | later
        · exact lt_of_le_of_ne (not_lt.1 notBefore) (Ne.symm different)
        · exact least other later

private theorem mem_foldl_insertText {texts start : List String} {text : String} :
    text ∈ texts.foldl (fun texts text => insertText text texts) start ↔
      text ∈ texts ∨ text ∈ start := by
  induction texts generalizing start with
  | nil => simp
  | cons first texts ih =>
    rw [List.foldl_cons, ih, mem_insertText, List.mem_cons, or_left_comm, or_assoc]

private theorem pairwise_foldl_insertText {texts start : List String}
    (sorted : start.Pairwise (· < ·)) :
    (texts.foldl (fun texts text => insertText text texts) start).Pairwise (· < ·) := by
  induction texts generalizing start with
  | nil => exact sorted
  | cons first texts ih => exact ih (pairwise_insertText sorted)

private theorem mem_followable {paths : List String} {text : String} :
    text ∈ registry.followable entity paths ↔
      ∃ path ∈ paths, registry.follow entity (segments '.' path) ≠ [] ∧
        text = ".".intercalate (registry.follow entity (segments '.' path)) := by
  rw [followable, mem_foldl_insertText]
  simp only [List.mem_map, List.mem_filter, List.not_mem_nil, or_false]
  constructor
  · rintro ⟨names, ⟨⟨path, member, rfl⟩, some⟩, rfl⟩
    exact ⟨path, member, by simpa using some, rfl⟩
  · rintro ⟨path, member, some, rfl⟩
    exact ⟨_, ⟨⟨path, member, rfl⟩, by simpa using some⟩, rfl⟩

private theorem pairwise_followable (registry : Registry) (entity : String) (paths : List String) :
    (registry.followable entity paths).Pairwise (· < ·) :=
  pairwise_foldl_insertText List.Pairwise.nil

private theorem followable_eq_iff {paths others : List String} :
    registry.followable entity paths = registry.followable entity others ↔
      ∀ text, text ∈ registry.followable entity paths ↔
        text ∈ registry.followable entity others := by
  constructor
  · rintro same text
    rw [same]
  · exact (pairwise_followable registry entity paths).eq_of_mem_iff
      (pairwise_followable registry entity others)

/-- Paths with the same segments, apart from letter case. -/
def SpelledAlike (path other : String) : Prop :=
  List.Forall₂ (fun s t => foldName s = foldName t) (segments '.' path) (segments '.' other)

private theorem mem_followable_of_alike {paths others : List String}
    (alike : ∀ path ∈ paths, ∃ other ∈ others, SpelledAlike path other) {text : String}
    (member : text ∈ registry.followable entity paths) :
    text ∈ registry.followable entity others := by
  obtain ⟨path, inside, some, rfl⟩ := mem_followable.1 member
  obtain ⟨other, inside', same⟩ := alike path inside
  refine mem_followable.2 ⟨other, inside', ?_⟩
  rw [follow_congr same] at some ⊢
  exact ⟨some, rfl⟩

private theorem follow_kept (origin : FromSchema schema registry.entities) {path : String}
    (some : registry.follow entity (segments '.' path) ≠ []) :
    registry.follow entity
        (segments '.' (".".intercalate (registry.follow entity (segments '.' path)))) =
      registry.follow entity (segments '.' path) := by
  rw [segments_intercalate some (dot_not_mem_follow origin not_mem_of_mem_segments),
    follow_follow origin]

private theorem followable_followable (origin : FromSchema schema registry.entities)
    (paths : List String) :
    registry.followable entity (registry.followable entity paths) =
      registry.followable entity paths := by
  refine followable_eq_iff.2 fun text => ?_
  constructor
  · intro member
    obtain ⟨kept, inside, -, rfl⟩ := mem_followable.1 member
    obtain ⟨path, given, some, rfl⟩ := mem_followable.1 inside
    rw [follow_kept origin some]
    exact inside
  · intro member
    obtain ⟨path, given, some, rfl⟩ := mem_followable.1 member
    refine mem_followable.2 ⟨_, member, ?_⟩
    rw [follow_kept origin some]
    exact ⟨some, rfl⟩

/-- The relations to fetch are, of every path that starts with a joined relation, the longest part
along joined relations in the schema's spelling, and nothing else, in increasing order. To ask for
what was answered changes nothing, paths asked for together give what they give apart, and neither
order nor repetition nor letter case matters. -/
theorem followable_closure {root : String} (built : build schema root = .ok registry)
    (entity : String) :
    (∀ paths text, text ∈ registry.followable entity paths ↔
      ∃ path ∈ paths, ∃ e names, registry.containsEntity entity = true ∧
        schema.entity? entity = some e ∧
        Longest schema e (segments '.' path) names ∧ names ≠ [] ∧ text = ".".intercalate names) ∧
      (∀ paths, (registry.followable entity paths).Pairwise (· < ·)) ∧
      (∀ paths, registry.followable entity (registry.followable entity paths) =
        registry.followable entity paths) ∧
      (∀ paths others text, text ∈ registry.followable entity (paths ++ others) ↔
        text ∈ registry.followable entity paths ∨ text ∈ registry.followable entity others) ∧
      ∀ paths others, (∀ path ∈ paths, ∃ other ∈ others, SpelledAlike path other) →
        (∀ other ∈ others, ∃ path ∈ paths, SpelledAlike other path) →
          registry.followable entity paths = registry.followable entity others := by
  have origin := fromSchema_of_build built
  refine ⟨fun paths text => ?_, pairwise_followable registry entity,
    followable_followable origin, ?_, ?_⟩
  · rw [mem_followable]
    constructor
    · rintro ⟨path, member, some, rfl⟩
      cases contains : registry.containsEntity entity with
      | false => exact absurd (follow_of_not_contains contains _) some
      | true =>
        obtain ⟨root', found, -⟩ := build_eq_ok built
        obtain ⟨e, known, -⟩ := (containsEntity_iff built found).1 contains
        exact ⟨path, member, e, _, rfl, known, (longest_iff built contains known).2 rfl, some, rfl⟩
    · rintro ⟨path, member, e, names, contains, found, longest, some, rfl⟩
      obtain rfl := (longest_iff built contains found).1 longest
      exact ⟨path, member, some, rfl⟩
  · intro paths others text
    rw [mem_followable, mem_followable, mem_followable]
    simp only [List.mem_append, or_and_right, exists_or]
  · intro paths others alike alike'
    exact followable_eq_iff.2 fun text =>
      ⟨mem_followable_of_alike alike, mem_followable_of_alike alike'⟩

end

/-- Of paths from articles the author and the comments are kept, in whatever order and letter case
they are asked for. -/
theorem articles_followable :
    Blog.registry.followable "article" ["comments.author", "AUTHOR.name", "title"] =
      ["author", "comments"] ∧
      Blog.registry.followable "article" ["author", "comments"] = ["author", "comments"] ∧
      Blog.registry.followable "article" ["Author.NAME", "Title", "COMMENTS.author", "title"] =
        ["author", "comments"] ∧
      ∃ path ∈ ["comments.author", "AUTHOR.name", "title"], ∃ names,
        Longest Blog.schema Blog.article (segments '.' path) names ∧
          "comments" = ".".intercalate names := by
  have kept : Blog.registry.followable "article" ["comments.author", "AUTHOR.name", "title"] =
      ["author", "comments"] := by
    decide +kernel
  obtain ⟨exact, -, again, -, alike⟩ := followable_closure Blog.build_eq "article"
  refine ⟨kept, kept ▸ again ["comments.author", "AUTHOR.name", "title"], ?_, ?_⟩
  · refine (alike _ _ ?_ ?_).trans kept
    · unfold SpelledAlike
      decide +kernel
    · unfold SpelledAlike
      decide +kernel
  · have inside : "comments" ∈ Blog.registry.followable "article" ["comments.author", "AUTHOR.name",
        "title"] := by
      rw [kept]
      exact .tail _ (.head _)
    obtain ⟨path, member, e, names, -, found, longest, -, spelled⟩ := (exact _ _).1 inside
    obtain rfl : e = Blog.article := Option.some.inj (found.symm.trans (by rfl))
    exact ⟨path, member, names, longest, spelled⟩

end FilterQuery.Registry
