import FilterQuery.Proofs.Registry.Construction
import Mathlib.Algebra.GroupWithZero.Nat
import Mathlib.Algebra.Order.BigOperators.Group.List
import Mathlib.Algebra.Order.Group.Nat
import Mathlib.Logic.Relation

set_option autoImplicit false
set_option relaxedAutoImplicit false

/-!
The entities of a registry are those within reach of its root over joined relations. The work loop
is seen round by round: what an entity leads to is entered or still waits, so that nothing is left
out when nothing waits, and whatever waits is within reach. Every round uses up a name that waits or
the relations of an entity that was not entered before, which bounds the rounds on any graph, with
cycles or without.
-/

namespace FilterQuery.Registry

def Leads (schema : Schema) (e next : Entity) : Prop :=
  next ∈ schema.entities ∧ ∃ r ∈ e.relations, r.external = false ∧
    foldName next.name = foldName r.target

/-- One entity of a schema is within reach of another. -/
abbrev Reaches (schema : Schema) : Entity → Entity → Prop :=
  Relation.ReflTransGen (Leads schema)

section

variable {schema : Schema} {root e : Entity}

private theorem exists_leads {targets : List RelationTarget}
    (reached : (joined e).mapM (targetOf schema) = .ok targets) :
    ∀ name ∈ targets.map (·.target), ∃ next, schema.entity? name = some next ∧
      Leads schema e next := by
  intro name member
  obtain ⟨link, inside, rfl⟩ := List.mem_map.1 member
  obtain ⟨r, member, made⟩ := exists_left_of_forall₂ (mapM_eq_ok_iff.1 reached) link inside
  obtain ⟨-, -, next, found, spelled⟩ := targetOf_eq_ok made
  obtain ⟨inside, joined⟩ := List.mem_filter.1 member
  refine ⟨next, spelled ▸ Schema.entity?_name found, Schema.mem_of_entity? found, r,
    inside, by simpa using joined, ?_⟩
  exact Schema.foldName_of_entity? found

private theorem name_mem_of_leads {targets : List RelationTarget}
    (reached : (joined e).mapM (targetOf schema) = .ok targets) {next : Entity}
    (leads : Leads schema e next) : next.name ∈ targets.map (·.target) := by
  obtain ⟨member, r, inside, internal, same⟩ := leads
  have found : schema.entity? r.target = some next := Schema.entity?_eq_some_iff.2 ⟨member, same⟩
  have kept : r ∈ joined e := List.mem_filter.2 ⟨inside, by simp [internal]⟩
  obtain ⟨link, inside, made⟩ := exists_left_of_forall₂ (mapM_eq_ok_iff.1 reached).flip r kept
  obtain ⟨-, -, target, found', spelled⟩ := targetOf_eq_ok made
  obtain rfl : target = next := Option.some.inj (found'.symm.trans found)
  exact List.mem_map.2 ⟨link, inside, spelled⟩

/-- What the work loop holds between two rounds. -/
structure Work where
  entities : NameIndex EntityEntry
  externals : List String
  seen : List String
  waiting : List String

namespace Work

/-- The work before the first round. -/
def start (root : Entity) : Work :=
  ⟨.empty, [], [], [root.name]⟩

def explore (schema : Schema) (work : Work) : Except Error (NameIndex EntityEntry × List String) :=
  Registry.explore schema work.entities work.externals work.seen work.waiting

def enter (work : Work) (name : String) (waiting : List String) (e : Entity)
    (targets : List RelationTarget) : Work where
  entities := work.entities.insert name (entryOf e targets)
  externals := work.externals ++ externalNames e
  seen := foldName name :: work.seen
  waiting :=
    waiting ++ (targets.map (·.target)).filter fun target =>
      foldName target ∉ foldName name :: work.seen

end Work

/-- One round of the loop: of the first name that waits the entity is entered, or the name is
dropped if it was. -/
inductive Round (schema : Schema) (work : Work) : Work → Prop
  | drop {name : String} {waiting : List String} (first : work.waiting = name :: waiting)
      (old : foldName name ∈ work.seen) : Round schema work { work with waiting }
  | enter {name : String} {waiting : List String} {e : Entity} {targets : List RelationTarget}
      (first : work.waiting = name :: waiting) (new : foldName name ∉ work.seen)
        (found : schema.entity? name = some e)
      (reached : (joined e).mapM (targetOf schema) = .ok targets) :
        Round schema work (work.enter name waiting e targets)

/-- So many rounds, one after another. -/
inductive Rounds (schema : Schema) : Nat → Work → Work → Prop
  | none (work : Work) : Rounds schema 0 work work
  | more {n : Nat} {work next last : Work} (first : Round schema work next)
      (rest : Rounds schema n next last) :
      Rounds schema (n + 1) work last

variable {work next last : Work}

private theorem Round.explore_eq (round : Round schema work next) :
    work.explore schema = next.explore schema := by
  cases round with
  | drop first old =>
    unfold Work.explore
    rw [first, Registry.explore, if_pos old]
  | enter first new found reached =>
    unfold Work.explore
    rw [first, explore_of_new new found reached]
    rfl

private theorem Rounds.explore_eq {n : Nat} (rounds : Rounds schema n work last) :
    work.explore schema = last.explore schema := by
  induction rounds with
  | none => rfl
  | more first _ ih => exact first.explore_eq.trans ih

def pending (schema : Schema) (seen : List String) : Nat :=
  ((schema.entities.filter fun e => foldName e.name ∉ seen).map fun e => (joined e).length).sum

/-- How many rounds there can be. -/
def Work.size (schema : Schema) (work : Work) : Nat :=
  work.waiting.length + pending schema work.seen

private theorem sum_filter_add_le {α : Type} {f : α → Nat} {p : α → Bool} {x : α} {xs : List α}
    (member : x ∈ xs) (out : p x = false) : ((xs.filter p).map f).sum + f x ≤ (xs.map f).sum := by
  induction xs with
  | nil => cases member
  | cons y ys ih =>
    have fewer : ((ys.filter p).map f).sum ≤ (ys.map f).sum :=
      (List.filter_sublist.map f).sum_le_sum (by simp)
    rcases List.mem_cons.1 member with rfl | later
    · rw [List.filter_cons_of_neg (by simp [out]), List.map_cons, List.sum_cons]
      omega
    · have rest := ih later
      cases kept : p y
      · rw [List.filter_cons_of_neg (by simp [kept]), List.map_cons, List.sum_cons]
        omega
      · rw [List.filter_cons_of_pos kept, List.map_cons, List.map_cons, List.sum_cons,
          List.sum_cons]
        omega

private theorem pending_cons_le {name : String} {seen : List String} (new : foldName name ∉ seen)
    (found : schema.entity? name = some e) :
    pending schema (foldName name :: seen) + (joined e).length ≤ pending schema seen := by
  obtain ⟨member, same⟩ := Schema.entity?_eq_some_iff.1 found
  unfold pending
  rw [filter_unseen_cons]
  exact sum_filter_add_le (List.mem_filter.2 ⟨member, by simpa [same] using new⟩) (by simp [same])

/-- Every round makes the work smaller. -/
theorem Round.size_lt (round : Round schema work next) : next.size schema < work.size schema := by
  cases round with
  | drop first old =>
    unfold Work.size
    rw [first, List.length_cons]
    dsimp only
    omega
  | @enter name waiting e targets first new found reached =>
    have fewer := pending_cons_le new found
    have count := (mapM_eq_ok_iff.1 reached).length_eq
    have added : ((targets.map (·.target)).filter fun target =>
        foldName target ∉ foldName name :: work.seen).length ≤
        targets.length :=
      (List.length_filter_le _ _).trans_eq (List.length_map _)
    unfold Work.size Work.enter
    rw [first, List.length_cons, List.length_append]
    dsimp only
    omega

private theorem Rounds.le_size {n : Nat} (rounds : Rounds schema n work last) :
    n + last.size schema ≤ work.size schema := by
  induction rounds with
  | none => omega
  | more first _ ih =>
    have smaller := first.size_lt
    omega

private theorem size_start (schema : Schema) (root : Entity) :
    (Work.start root).size schema = 1 + (schema.entities.map fun e => (joined e).length).sum := by
  unfold Work.size Work.start pending
  simp

def Work.Meets (work : Work) (e : Entity) : Prop :=
  foldName e.name ∈ work.seen ∨ foldName e.name ∈ work.waiting.map foldName

/-- Work on what is within reach of a root. -/
structure Work.On (schema : Schema) (root : Entity) (work : Work) : Prop where
  /-- Entities that wait are within reach. -/
  waits : ∀ name ∈ work.waiting, ∃ e, schema.entity? name = some e ∧ Reaches schema root e
  /-- Entities that were entered are within reach. -/
  reached : ∀ name ∈ work.seen, ∃ e ∈ schema.entities, foldName e.name = name ∧
    Reaches schema root e
  entered : ∀ name, work.entities.contains name = true ↔ foldName name ∈ work.seen
  root : work.Meets root
  /-- Where an entered entity leads is not forgotten. -/
  onward : ∀ e ∈ schema.entities, foldName e.name ∈ work.seen →
    ∀ next, Leads schema e next → work.Meets next

theorem Round.meets (round : Round schema work next) (met : work.Meets e) : next.Meets e := by
  cases round with
  | @drop name waiting first old =>
    rcases met with seen | waits
    · exact .inl seen
    · rw [first, List.map_cons, List.mem_cons] at waits
      rcases waits with here | later
      · exact .inl (here ▸ old)
      · exact .inr later
  | @enter name waiting _ targets first new found reached =>
    rcases met with seen | waits
    · exact .inl (List.mem_cons_of_mem _ seen)
    · rw [first, List.map_cons, List.mem_cons] at waits
      rcases waits with here | later
      · exact .inl (here ▸ List.mem_cons_self)
      · refine .inr ?_
        rw [Work.enter, List.map_append, List.mem_append]
        exact .inl later

private theorem on_start (found : schema.entity? root.name = some root) :
    (Work.start root).On schema root where
  waits := List.forall_mem_singleton.2 ⟨root, found, .refl⟩
  reached := nofun
  entered := fun name => by simp [Work.start, NameIndex.contains, NameIndex.get?_empty]
  root := .inr (by simp [Work.start])
  onward := nofun

private theorem Work.meets_of_leads {name : String} {waiting : List String}
    {targets : List RelationTarget} {next : Entity}
    (reached : (joined e).mapM (targetOf schema) = .ok targets) (leads : Leads schema e next) :
    (work.enter name waiting e targets).Meets next := by
  have named := name_mem_of_leads reached leads
  by_cases old : foldName next.name ∈ foldName name :: work.seen
  · exact .inl old
  · refine .inr ?_
    rw [Work.enter, List.map_append, List.mem_append]
    exact .inr (List.mem_map_of_mem (List.mem_filter.2 ⟨named, by simpa using old⟩))

theorem Round.on (round : Round schema work next) (on : work.On schema root) :
    next.On schema root := by
  cases round with
  | @drop name waiting first old =>
    have keeps : ∀ e, work.Meets e → Work.Meets { work with waiting } e := fun e =>
      (Round.drop first old : Round schema work _).meets
    exact ⟨fun other member => on.waits other (first ▸ List.mem_cons_of_mem name member),
      on.reached, on.entered, keeps root on.root,
      fun e member seen next leads => keeps next (on.onward e member seen next leads)⟩
  | @enter name waiting e targets first new found reached =>
    have keeps : ∀ x, work.Meets x → (work.enter name waiting e targets).Meets x := fun x =>
      (Round.enter first new found reached).meets
    obtain ⟨e', found', reaches⟩ := on.waits name (first ▸ List.mem_cons_self)
    obtain rfl : e' = e := Option.some.inj (found'.symm.trans found)
    obtain ⟨inside, same⟩ := Schema.entity?_eq_some_iff.1 found
    refine ⟨?_, ?_, ?_, keeps root on.root, ?_⟩
    · refine List.forall_mem_append.2 ⟨fun other member =>
        on.waits other (first ▸ List.mem_cons_of_mem name member), ?_⟩
      intro target member
      obtain ⟨next, found, leads⟩ := exists_leads reached target (List.mem_filter.1 member).1
      exact ⟨next, found, reaches.tail leads⟩
    · exact List.forall_mem_cons.2 ⟨⟨e', inside, same, reaches⟩, on.reached⟩
    · intro other
      have before := on.entered other
      unfold NameIndex.contains at before ⊢
      rw [Work.enter, NameIndex.get?_insert, List.mem_cons]
      by_cases here : foldName other = foldName name
      · simp [here]
      · simp [here, before]
    · intro x member seen next leads
      rcases List.mem_cons.1 seen with here | old
      · obtain rfl : x = e' :=
          Option.some.inj ((Schema.entity?_eq_some_iff.2 ⟨member, here⟩).symm.trans found)
        exact Work.meets_of_leads reached leads
      · exact keeps next (on.onward x member old next leads)

theorem Rounds.on {n : Nat} (rounds : Rounds schema n work last) (on : work.On schema root) :
    last.On schema root := by
  induction rounds with
  | none => exact on
  | more first _ ih => exact ih (first.on on)

private theorem exists_round (on : work.On schema root) (some : work.waiting ≠ []) :
    ∃ next, Round schema work next := by
  obtain ⟨name, waiting, first⟩ := List.exists_cons_of_ne_nil some
  by_cases old : foldName name ∈ work.seen
  · exact ⟨_, .drop first old⟩
  · obtain ⟨e, found, -⟩ := on.waits name (first ▸ List.mem_cons_self)
    obtain ⟨targets, reached⟩ := exists_targets (Schema.mem_of_entity? found)
    exact ⟨_, .enter first old found reached⟩

private theorem exists_rounds (on : work.On schema root) :
    ∃ n last, Rounds schema n work last ∧ last.waiting = [] := by
  induction size : work.size schema using Nat.strong_induction_on generalizing work with
  | h size' ih =>
    by_cases done : work.waiting = []
    · exact ⟨0, work, .none work, done⟩
    · obtain ⟨next, round⟩ := exists_round on done
      obtain ⟨n, last, rounds, ended⟩ := ih _ (size ▸ round.size_lt) (round.on on) rfl
      exact ⟨n + 1, last, .more round rounds, ended⟩

/-- When nothing waits any more, the entities that were entered are those within reach. -/
theorem Work.On.seen_iff (on : work.On schema root) (done : work.waiting = [])
    (own : root ∈ schema.entities) (member : e ∈ schema.entities) :
    foldName e.name ∈ work.seen ↔ Reaches schema root e := by
  have seen_of_meets : ∀ x, work.Meets x → foldName x.name ∈ work.seen := by
    rintro x (seen | waits)
    · exact seen
    · rw [done] at waits
      cases waits
  constructor
  · intro seen
    obtain ⟨x, inside, same, reaches⟩ := on.reached _ seen
    rwa [List.inj_on_of_nodup_map schema.nodup_names inside member same] at reaches
  · intro reaches
    have along : e ∈ schema.entities ∧ foldName e.name ∈ work.seen := by
      clear member
      induction reaches with
      | refl => exact ⟨own, seen_of_meets root on.root⟩
      | tail _ leads ih => exact ⟨leads.1, seen_of_meets _ (on.onward _ ih.1 ih.2 _ leads)⟩
    exact along.2

private theorem exists_rounds_of_build {name : String} {registry : Registry}
    (built : build schema name = .ok registry) :
    ∃ root n last, schema.entity? name = some root ∧ registry.root = root.name ∧
      Rounds schema n (.start root) last ∧
      last.waiting = [] ∧ last.entities = registry.entities ∧
        last.externals = registry.externals := by
  obtain ⟨root, found, spelled, explored⟩ := build_eq_ok built
  obtain ⟨n, last, rounds, done⟩ := exists_rounds (on_start (Schema.entity?_name found))
  have ended : last.explore schema = .ok (last.entities, last.externals) := by
    rw [Work.explore, done, explore_nil]
  have same : (last.entities, last.externals) = (registry.entities, registry.externals) :=
    Except.ok.inj ((ended.symm.trans rounds.explore_eq.symm).trans explored)
  exact ⟨root, n, last, found, spelled, rounds, done, congrArg Prod.fst same,
    congrArg Prod.snd same⟩

theorem containsEntity_iff {name : String} {registry : Registry}
    (built : build schema name = .ok registry) (found : schema.entity? name = some root)
    {entity : String} :
    registry.containsEntity entity = true ↔ ∃ e, schema.entity? entity = some e ∧
      Reaches schema root e := by
  obtain ⟨root', n, last, found', -, rounds, done, entities, -⟩ := exists_rounds_of_build built
  obtain rfl : root' = root := Option.some.inj (found'.symm.trans found)
  have own := Schema.mem_of_entity? found
  have on := rounds.on (on_start (Schema.entity?_name found))
  rw [containsEntity, ← entities, on.entered]
  constructor
  · intro seen
    obtain ⟨e, member, same, reaches⟩ := on.reached _ seen
    exact ⟨e, Schema.entity?_eq_some_iff.2 ⟨member, same⟩, reaches⟩
  · rintro ⟨e, entered, reaches⟩
    obtain ⟨member, same⟩ := Schema.entity?_eq_some_iff.1 entered
    exact same ▸ (on.seen_iff done own member).2 reaches

theorem containsEntity_target {name : String} {registry : Registry}
    (built : build schema name = .ok registry) {entity relation : String} {link : RelationTarget}
    (known : registry.relation? entity relation = some link) :
    registry.containsEntity link.target = true := by
  obtain ⟨root, found, -⟩ := build_eq_ok built
  obtain ⟨e, targets, here, reached, last⟩ :=
    getLast?_of_relation? (fromSchema_of_build built) known
  obtain ⟨e', here', reaches⟩ := (containsEntity_iff built found).1 (contains_of_relation? known)
  obtain rfl : e' = e := Option.some.inj (here'.symm.trans here)
  have inside : link ∈ targets := (List.mem_filter.1 (List.mem_of_getLast? last)).1
  obtain ⟨next, target, leads⟩ := exists_leads reached link.target (List.mem_map_of_mem inside)
  exact (containsEntity_iff built found).2 ⟨next, target, reaches.tail leads⟩

/-- A registry is built just for the names of entities. Its work loop ends after at most one round
for the root and one for each joined relation; it contains the entities within reach of the root,
and with a relation the relation's target. -/
theorem build_reaches (schema : Schema) (name : String) :
    ((∃ registry, build schema name = .ok registry) ↔
      ∃ e ∈ schema.entities, foldName e.name = foldName name) ∧
      ∀ registry, build schema name = .ok registry →
        ∃ root ∈ schema.entities, foldName root.name = foldName name ∧ registry.root = root.name ∧
          (∀ n work, Rounds schema n (.start root) work →
            n ≤ 1 + (schema.entities.map fun e => (joined e).length).sum) ∧
          (∃ n work, Rounds schema n (.start root) work ∧ work.waiting = [] ∧
            work.entities = registry.entities ∧
            work.externals = registry.externals) ∧
          (∀ entity, registry.containsEntity entity = true ↔
            ∃ e ∈ schema.entities, foldName e.name = foldName entity ∧ Reaches schema root e) ∧
          ∀ entity relation link, registry.relation? entity relation = some link →
            registry.containsEntity link.target = true := by
  refine ⟨?_, fun registry built => ?_⟩
  · rw [exists_build_iff]
    exact exists_congr fun e => Schema.entity?_eq_some_iff
  · obtain ⟨root, n, last, found, spelled, rounds, done, entities, externals⟩ :=
      exists_rounds_of_build built
    obtain ⟨own, same⟩ := Schema.entity?_eq_some_iff.1 found
    refine ⟨root, own, same, spelled, ?_, ⟨n, last, rounds, done, entities, externals⟩, ?_, ?_⟩
    · intro n work rounds
      have bound := rounds.le_size
      rw [size_start] at bound
      omega
    · intro entity
      rw [containsEntity_iff built found]
      simp only [Schema.entity?_eq_some_iff, and_assoc]
    · exact fun entity relation link known => containsEntity_target built known

end

namespace Mentors

/-- Authors have mentors among authors, books, and a publisher that is kept elsewhere. -/
def author : Entity :=
  ⟨"Author", "authors", "id", [⟨"id", none, .integer, false⟩],
    [⟨"mentor", "Author", false, false, "mentor_id", "id"⟩,
      ⟨"books", "Book", true, false, "id", "author_id"⟩,
        ⟨"publisher", "House", false, true, "", ""⟩]⟩

def book : Entity :=
  ⟨"Book", "books", "id", [⟨"id", none, .integer, false⟩],
    [⟨"author", "author", false, false, "author_id", "id"⟩]⟩

def house : Entity :=
  ⟨"House", "houses", "id", [⟨"id", none, .integer, false⟩],
    [⟨"authors", "Author", true, false, "id", "house_id"⟩]⟩

def schema : Schema :=
  ⟨[author, book, house], by rfl⟩

private theorem reaches_author {e : Entity} (reaches : Reaches schema author e) :
    e ∈ [author, book] := by
  have stays : ∀ x ∈ [author, book], ∀ next ∈ schema.entities,
      (∃ r ∈ x.relations, r.external = false ∧ foldName next.name = foldName r.target) →
        next ∈ [author, book] := by
    decide +kernel
  induction reaches with
  | refl => exact List.mem_cons_self
  | tail _ leads ih => exact stays _ ih _ leads.1 leads.2

private theorem leads_book : Leads schema author book := by
  refine ⟨by decide, ⟨"books", "Book", true, false, "id", "author_id"⟩, by decide, rfl, rfl⟩

end Mentors

/-- From authors the work ends after five rounds at most; books are within reach, publishers are
not. -/
theorem mentors_reach :
    ∃ registry, build Mentors.schema "AUTHOR" = .ok registry ∧
      registry.containsEntity "book" = true ∧
      registry.containsEntity "House" = false ∧
      ∃ n work, Rounds Mentors.schema n (.start Mentors.author) work ∧ n ≤ 5 ∧ work.waiting = [] ∧
        work.entities = registry.entities := by
  obtain ⟨succeeds, exact⟩ := build_reaches Mentors.schema "AUTHOR"
  have named : foldName Mentors.author.name = foldName "AUTHOR" := by decide +kernel
  obtain ⟨registry, built⟩ := succeeds.2 ⟨Mentors.author, by decide, named⟩
  obtain ⟨root, own, same, -, bound, ⟨n, work, rounds, done, entities, -⟩, contains, -⟩ :=
    exact registry built
  obtain rfl : root = Mentors.author :=
    List.inj_on_of_nodup_map Mentors.schema.nodup_names own (by decide) (same.trans named.symm)
  refine ⟨registry, built, ?_, ?_, n, work, rounds, bound n work rounds, done, entities⟩
  · exact (contains "book").2
      ⟨Mentors.book, by decide, by decide +kernel, .single Mentors.leads_book⟩
  · refine Bool.eq_false_iff.2 fun inside => ?_
    obtain ⟨e, -, same, reaches⟩ := (contains "House").1 inside
    have others : ∀ x ∈ [Mentors.author, Mentors.book], foldName x.name ≠ foldName "House" := by
      decide +kernel
    exact others e (Mentors.reaches_author reaches) same

end FilterQuery.Registry
