import FilterQuery.Proofs.Registry.Construction
import FilterQuery.Registry.Cache
import Mathlib.Data.List.Dedup

set_option autoImplicit false
set_option relaxedAutoImplicit false

/-!
Runs of a cache. A slot that is opened for a root is filled before the next root is asked for, or it
is taken away, so that between two calls every slot holds what the root's registry is and no slot is
left of a root without one. From this it follows what a whole run answers: what building answers,
and one registry for all spellings of a root.
-/

namespace FilterQuery

namespace NameIndex

variable {α : Type} {index : NameIndex α} {name : String}

private theorem eq_of_entries {other : NameIndex α} (same : index.entries = other.entries) :
    index = other := by
  cases index
  cases other
  cases same
  rfl

private theorem entries_insert (index : NameIndex α) (name : String) (value : α) :
    (index.insert name value).entries = index.entries.filter (·.1 != foldName name) ++
      [(foldName name, value)] := rfl

private theorem entries_erase (index : NameIndex α) (name : String) :
    (index.erase name).entries = index.entries.filter (·.1 != foldName name) := rfl

private theorem get?_congr (index : NameIndex α) {other : String}
    (same : foldName name = foldName other) :
    index.get? name = index.get? other := by
  unfold get?
  rw [same]

/-- The folded names that have a definition. -/
def names (index : NameIndex α) : List String :=
  index.entries.map (·.1)

private theorem length_names (index : NameIndex α) : index.names.length = index.size :=
  List.length_map _

private theorem mem_names_of_get? {value : α} (found : index.get? name = some value) :
    foldName name ∈ index.names := by
  obtain ⟨entry, found, -⟩ := Option.map_eq_some_iff.1 found
  have same : entry.1 = foldName name := by simpa using List.find?_some found
  exact same ▸ List.mem_map_of_mem (List.mem_of_find?_eq_some found)

private theorem filter_entries_of_missing (missing : index.get? name = none) :
    index.entries.filter (·.1 != foldName name) = index.entries := by
  rw [List.filter_eq_self]
  intro entry member
  have other := List.find?_eq_none.1 (Option.map_eq_none_iff.1 missing) entry member
  simpa using other

private theorem names_insert (missing : index.get? name = none) (value : α) :
    (index.insert name value).names = index.names ++ [foldName name] := by
  unfold names
  rw [entries_insert, filter_entries_of_missing missing, List.map_append]
  rfl

private theorem insert_insert (index : NameIndex α) (name : String) (old new : α) :
    (index.insert name old).insert name new = index.insert name new := by
  refine eq_of_entries ?_
  rw [entries_insert, entries_insert, entries_insert, List.filter_append, List.filter_filter]
  simp

private theorem erase_insert (missing : index.get? name = none) (value : α) :
    (index.insert name value).erase name = index := by
  refine eq_of_entries ?_
  rw [entries_erase, entries_insert, List.filter_append, filter_entries_of_missing missing,
    filter_entries_of_missing missing]
  simp

end NameIndex

namespace Registry

variable {schema : Schema}

private theorem build_eq_ok_congr {root other : String} (same : foldName root = foldName other)
    {registry : Registry} :
    build schema root = .ok registry ↔ build schema other = .ok registry := by
  unfold build
  rw [schema.entity?_congr same]
  cases schema.entity? other with
  | none => exact ⟨nofun, nofun⟩
  | some e => exact Iff.rfl

namespace Cache

/-- What roots were answered, the latest first, and the cache after that. -/
inductive Reached (schema : Schema) : List (String × Except Error Numbered) → Cache → Prop
  | start : Reached schema [] empty
  | ask {history : List (String × Except Error Numbered)} {cache : Cache}
      (before : Reached schema history cache)
      (root : String) : Reached schema ((root, (cache.get schema root).1) :: history)
        (cache.get schema root).2

def answered? : String × Except Error Numbered → Option String
  | (root, .ok _) => some (foldName root)
  | (_, .error _) => none

/-- The folded names of the roots that were answered with registries. -/
def answered (history : List (String × Except Error Numbered)) : List String :=
  history.filterMap answered?

variable {history : List (String × Except Error Numbered)} {cache : Cache} {root : String}

private theorem answered_ok (root : String) (numbered : Numbered)
    (history : List (String × Except Error Numbered)) :
    answered ((root, .ok numbered) :: history) = foldName root :: answered history := rfl

private theorem get_of_held {slot : Slot} {numbered : Numbered}
    (found : cache.slots.get? root = some slot) (held : slot.held = some numbered) :
    cache.get schema root = (.ok numbered, cache) := by
  simp only [get, reserve, found, held]

private theorem get_of_built {registry : Registry} (missing : cache.slots.get? root = none)
    (built : build schema root = .ok registry) :
    cache.get schema root = (.ok ⟨cache.built, registry⟩,
      ⟨cache.slots.insert root ⟨cache.opened, some ⟨cache.built, registry⟩⟩, cache.opened + 1,
        cache.built + 1⟩) := by
  simp only [get, reserve, missing, built, fill, NameIndex.insert_insert]

private theorem get_of_failed {fault : Error} (missing : cache.slots.get? root = none)
    (failed : build schema root = .error fault) :
    cache.get schema root = (.error fault, { cache with opened := cache.opened + 1 }) := by
  have found : (cache.slots.insert root ⟨cache.opened, none⟩).get? root =
      some ⟨cache.opened, none⟩ := by
    rw [NameIndex.get?_insert, if_pos rfl]
  simp only [get, reserve, missing, failed, release, found, Option.any_some,
    beq_self_eq_true, if_true, NameIndex.erase_insert missing]

/-- A cache that holds what was answered so far. -/
structure Keeps (schema : Schema) (history : List (String × Except Error Numbered))
    (cache : Cache) : Prop where
  /-- No slot is empty, and what it holds was built for its root. -/
  held : ∀ root slot, cache.slots.get? root = some slot →
    ∃ numbered, slot.held = some numbered ∧ numbered.number < cache.built ∧
      build schema root = .ok numbered.registry
  /-- What was answered is held. -/
  answers : ∀ root numbered, (root, .ok numbered) ∈ history →
    ∃ slot, cache.slots.get? root = some slot ∧ slot.held = some numbered
  /-- Registries of different roots were built at different times. -/
  apart : ∀ root other slot slot' numbered numbered', cache.slots.get? root = some slot →
    cache.slots.get? other = some slot' → slot.held = some numbered → slot'.held = some numbered' →
      numbered.number = numbered'.number → foldName root = foldName other
  errors : ∀ root fault, (root, .error fault) ∈ history → build schema root = .error fault
  names : ∀ name, name ∈ cache.slots.names ↔ name ∈ answered history
  counted : cache.built = cache.size

private theorem keeps_empty : Keeps schema [] empty where
  held := nofun
  answers := nofun
  apart := nofun
  errors := nofun
  names := fun name => by simp [empty, NameIndex.names, NameIndex.empty, answered]
  counted := rfl

private theorem Keeps.held_answer (keeps : Keeps schema history cache) {slot : Slot}
    {numbered : Numbered} (found : cache.slots.get? root = some slot)
    (held : slot.held = some numbered) :
    Keeps schema ((root, .ok numbered) :: history) cache where
  held := keeps.held
  answers := by
    intro other numbered' member
    rcases List.mem_cons.1 member with here | before
    · cases here
      exact ⟨slot, found, held⟩
    · exact keeps.answers other numbered' before
  apart := keeps.apart
  errors := by
    intro other fault member
    rcases List.mem_cons.1 member with here | before
    · cases here
    · exact keeps.errors other fault before
  names := by
    intro name
    have inside := NameIndex.mem_names_of_get? found
    rw [keeps.names] at inside
    rw [keeps.names, answered_ok, List.mem_cons]
    constructor
    · exact .inr
    · rintro (rfl | before)
      · exact inside
      · exact before
  counted := keeps.counted

private theorem Keeps.built_answer (keeps : Keeps schema history cache) {registry : Registry}
    (missing : cache.slots.get? root = none) (built : build schema root = .ok registry) :
    Keeps schema ((root, .ok ⟨cache.built, registry⟩) :: history)
      ⟨cache.slots.insert root ⟨cache.opened, some ⟨cache.built, registry⟩⟩, cache.opened + 1,
        cache.built + 1⟩ where
  held := by
    intro other slot found
    rw [NameIndex.get?_insert] at found
    split at found
    · rename_i same
      cases found
      exact ⟨_, rfl, Nat.lt_succ_self _, (build_eq_ok_congr same).2 built⟩
    · obtain ⟨numbered, held, before, made⟩ := keeps.held other slot found
      exact ⟨numbered, held, Nat.lt_succ_of_lt before, made⟩
  answers := by
    intro other numbered member
    rcases List.mem_cons.1 member with here | before
    · cases here
      exact ⟨_, by rw [NameIndex.get?_insert, if_pos rfl], rfl⟩
    · obtain ⟨slot, found, held⟩ := keeps.answers other numbered before
      have different : foldName other ≠ foldName root := by
        intro same
        rw [cache.slots.get?_congr same, missing] at found
        cases found
      exact ⟨slot, by rw [NameIndex.get?_insert, if_neg different, found], held⟩
  apart := by
    intro one other slot slot' numbered numbered' found found' held held' same
    rw [NameIndex.get?_insert] at found found'
    split at found <;> split at found' <;> rename_i here here'
    · exact here.trans here'.symm
    · cases found
      cases held
      obtain ⟨old, holds, before, -⟩ := keeps.held other slot' found'
      obtain rfl : old = numbered' := Option.some.inj (holds.symm.trans held')
      exact absurd same.symm (Nat.ne_of_lt before)
    · cases found'
      cases held'
      obtain ⟨old, holds, before, -⟩ := keeps.held one slot found
      obtain rfl : old = numbered := Option.some.inj (holds.symm.trans held)
      exact absurd same (Nat.ne_of_lt before)
    · exact keeps.apart one other slot slot' numbered numbered' found found' held held' same
  errors := by
    intro other fault member
    rcases List.mem_cons.1 member with here | before
    · cases here
    · exact keeps.errors other fault before
  names := by
    intro name
    rw [NameIndex.names_insert missing, List.mem_append, keeps.names,
      List.mem_singleton, answered_ok, List.mem_cons, or_comm]
  counted := by
    have more :=
      congrArg List.length (NameIndex.names_insert missing
        (⟨cache.opened, some ⟨cache.built, registry⟩⟩ : Slot))
    rw [List.length_append, NameIndex.length_names, NameIndex.length_names] at more
    exact (congrArg (· + 1) keeps.counted).trans more.symm

private theorem Keeps.failed_answer (keeps : Keeps schema history cache) {fault : Error}
    (failed : build schema root = .error fault) :
    Keeps schema ((root, .error fault) :: history) { cache with opened := cache.opened + 1 } where
  held := keeps.held
  answers := by
    intro other numbered member
    rcases List.mem_cons.1 member with here | before
    · cases here
    · exact keeps.answers other numbered before
  apart := keeps.apart
  errors := by
    intro other fault' member
    rcases List.mem_cons.1 member with here | before
    · cases here
      exact failed
    · exact keeps.errors other fault' before
  names := keeps.names
  counted := keeps.counted

private theorem Keeps.get_cases (keeps : Keeps schema history cache) (root : String) :
    (∃ slot numbered, cache.slots.get? root = some slot ∧ slot.held = some numbered ∧
        cache.get schema root = (.ok numbered, cache)) ∨
      (∃ registry, cache.slots.get? root = none ∧ build schema root = .ok registry ∧
        cache.get schema root =
        (.ok ⟨cache.built, registry⟩,
          ⟨cache.slots.insert root ⟨cache.opened, some ⟨cache.built, registry⟩⟩, cache.opened + 1,
            cache.built + 1⟩)) ∨
      ∃ fault, build schema root = .error fault ∧
        cache.get schema root = (.error fault, { cache with opened := cache.opened + 1 }) := by
  cases found : cache.slots.get? root with
  | some slot =>
    obtain ⟨numbered, held, -, -⟩ := keeps.held root slot found
    exact .inl ⟨slot, numbered, rfl, held, get_of_held found held⟩
  | none =>
    cases made : build schema root with
    | ok registry => exact .inr (.inl ⟨registry, rfl, rfl, get_of_built found made⟩)
    | error fault => exact .inr (.inr ⟨fault, rfl, get_of_failed found made⟩)

/-- One call keeps a cache that holds what was answered. -/
theorem Keeps.get (keeps : Keeps schema history cache) (root : String) :
    Keeps schema ((root, (cache.get schema root).1) :: history) (cache.get schema root).2 := by
  obtain ⟨slot, numbered, found, held, answer⟩ | ⟨registry, missing, built, answer⟩ |
      ⟨fault, failed, answer⟩ :=
    keeps.get_cases root
  · rw [answer]
    exact keeps.held_answer found held
  · rw [answer]
    exact keeps.built_answer missing built
  · rw [answer]
    exact keeps.failed_answer failed

theorem Reached.keeps (reached : Reached schema history cache) : Keeps schema history cache := by
  induction reached with
  | start => exact keeps_empty
  | ask _ root ih => exact ih.get root

private theorem Keeps.slots_of_error (keeps : Keeps schema history cache) {fault : Error}
    (failed : (cache.get schema root).1 = .error fault) :
    (cache.get schema root).2.slots = cache.slots := by
  obtain ⟨slot, numbered, -, -, answer⟩ | ⟨registry, -, -, answer⟩ | ⟨fault', -, answer⟩ :=
    keeps.get_cases root
  · rw [answer]
  · rw [answer] at failed
    cases failed
  · rw [answer]

theorem Keeps.answer_eq (keeps : Keeps schema history cache) {answer : Except Error Numbered}
    (member : (root, answer) ∈ history) : answer.map (·.registry) = build schema root := by
  cases answer with
  | error fault => exact (keeps.errors root fault member).symm
  | ok numbered =>
    obtain ⟨slot, found, held⟩ := keeps.answers root numbered member
    obtain ⟨other, held', -, built⟩ := keeps.held root slot found
    obtain rfl : other = numbered := Option.some.inj (held'.symm.trans held)
    exact built.symm

/-- In every state that a run comes to, the slots are those of the roots that were answered with
registries, each of which was built once. What a root was answered is what building answers;
spellings of one root were answered with one registry, and different roots with different ones. A
call that fails changes no slot. -/
theorem reached_keeps (reached : Reached schema history cache) :
    cache.slots.names.Perm (answered history).dedup ∧ cache.size = (answered history).dedup.length ∧
      cache.built = cache.size ∧
      (∀ root answer, (root, answer) ∈ history → answer.map (·.registry) = build schema root) ∧
      (∀ root other numbered numbered', (root, .ok numbered) ∈ history →
        (other, .ok numbered') ∈ history →
        (foldName root = foldName other → numbered = numbered') ∧
          (numbered.number = numbered'.number → foldName root = foldName other)) ∧
      ∀ root, ((cache.get schema root).1.map (·.registry) = build schema root) ∧
        ∀ fault, (cache.get schema root).1 = .error fault →
          (cache.get schema root).2.slots = cache.slots := by
  have keeps := reached.keeps
  have same : cache.slots.names.Perm (answered history).dedup := by
    refine (List.perm_ext_iff_of_nodup cache.slots.distinct (List.nodup_dedup _)).2 fun name => ?_
    rw [List.mem_dedup]
    exact keeps.names name
  refine ⟨same, ?_, keeps.counted, fun root answer => keeps.answer_eq, ?_,
    fun root => ⟨?_, fun fault => keeps.slots_of_error⟩⟩
  · rw [Cache.size, ← NameIndex.length_names, same.length_eq]
  · intro root other numbered numbered' member member'
    obtain ⟨slot, found, held⟩ := keeps.answers root numbered member
    obtain ⟨slot', found', held'⟩ := keeps.answers other numbered' member'
    refine ⟨fun alike => ?_, keeps.apart root other slot slot' numbered numbered' found
      found' held held'⟩
    rw [cache.slots.get?_congr alike, found'] at found
    cases found
    exact Option.some.inj (held.symm.trans held')
  · exact (keeps.get root).answer_eq List.mem_cons_self

/-- Asked for articles in two spellings and for what there is not, before and after, a cache holds
one registry. -/
theorem articles_asked :
    ∃ history cache, Reached Blog.schema history cache ∧
      history.map (·.1) = ["missing", "ARTICLE", "Article", "Missing"] ∧
      cache.size = 1 ∧ cache.built = 1 ∧ cache.opened = 3 ∧
      ∃ numbered, ("ARTICLE", .ok numbered) ∈ history ∧
        ∀ numbered', ("Article", .ok numbered') ∈ history → numbered = numbered' := by
  let numbered : Numbered := ⟨0, Blog.registry⟩
  let slots : NameIndex Slot := NameIndex.empty.insert "Article" ⟨1, some numbered⟩
  have first : empty.get Blog.schema "Missing" = (.error (.unknownEntity "Missing"),
      ⟨.empty, 1, 0⟩) :=
    get_of_failed rfl rfl
  have second : Cache.get Blog.schema ⟨.empty, 1, 0⟩ "Article" = (.ok numbered, ⟨slots, 2, 1⟩) :=
    get_of_built rfl Blog.build_eq
  have third : Cache.get Blog.schema ⟨slots, 2, 1⟩ "ARTICLE" = (.ok numbered, ⟨slots, 2, 1⟩) :=
    get_of_held (by rfl) rfl
  have fourth : Cache.get Blog.schema ⟨slots, 2, 1⟩ "missing" = (.error (.unknownEntity "missing"),
      ⟨slots, 3, 1⟩) :=
    get_of_failed (by rfl) rfl
  let history : List (String × Except Error Numbered) :=
    [("missing", .error (.unknownEntity "missing")), ("ARTICLE", .ok numbered),
      ("Article", .ok numbered), ("Missing", .error (.unknownEntity "Missing"))]
  have reached : Reached Blog.schema history ⟨slots, 3, 1⟩ := by
    have begun : Reached Blog.schema [] empty := .start
    have refused := first ▸ begun.ask "Missing"
    have answered := second ▸ refused.ask "Article"
    have again := third ▸ answered.ask "ARTICLE"
    have all := fourth ▸ again.ask "missing"
    exact all
  obtain ⟨-, size, built, -, alike, -⟩ := reached_keeps reached
  have named : foldName "ARTICLE" = foldName "Article" := by decide +kernel
  have once : (answered history).dedup = [foldName "Article"] := by
    change [foldName "ARTICLE", foldName "Article"].dedup = [foldName "Article"]
    rw [named, List.dedup_cons_of_mem List.mem_cons_self,
      List.dedup_eq_self.2 (List.nodup_singleton _)]
  have one := size.trans (congrArg List.length once)
  have asked : ("ARTICLE", .ok numbered) ∈ history := by simp [history]
  exact ⟨history, _, reached, rfl, one, built.trans one, rfl, numbered, asked,
    fun numbered' member =>
    (alike _ _ _ _ asked member).1 named⟩

end Cache

end Registry

end FilterQuery
