import FilterQuery.Text.Lowercase

set_option autoImplicit false
set_option relaxedAutoImplicit false

/-!
Definitions found by name without regard to letter case. Of several definitions whose names fold to
the same form, the one that was entered last counts.
-/

namespace FilterQuery

def foldName (name : String) : String :=
  Text.Lowercase.lowercase name

/-- Definitions by the folded forms of their names. -/
structure NameIndex (α : Type) where
  entries : List (String × α)
  distinct : (entries.map (·.1)).Nodup

namespace NameIndex

variable {α : Type}

def empty : NameIndex α :=
  ⟨[], by simp⟩

def get? (index : NameIndex α) (name : String) : Option α :=
  (index.entries.find? (·.1 == foldName name)).map (·.2)

def contains (index : NameIndex α) (name : String) : Bool :=
  (index.get? name).isSome

def size (index : NameIndex α) : Nat :=
  index.entries.length

/-- An index with one more definition, which replaces an earlier one of the same name. -/
def insert (index : NameIndex α) (name : String) (value : α) : NameIndex α where
  entries := index.entries.filter (·.1 != foldName name) ++ [(foldName name, value)]
  distinct := by
    have kept : ((index.entries.filter (·.1 != foldName name)).map (·.1)).Nodup :=
      index.distinct.sublist (List.filter_sublist.map _)
    rw [List.map_append, List.nodup_append]
    refine ⟨kept, by simp, ?_⟩
    intro a ha b hb
    simp only [List.map_cons, List.map_nil, List.mem_singleton] at hb
    obtain ⟨entry, hentry, rfl⟩ := List.mem_map.1 ha
    subst hb
    simpa using (List.mem_filter.1 hentry).2

def erase (index : NameIndex α) (name : String) : NameIndex α where
  entries := index.entries.filter (·.1 != foldName name)
  distinct := index.distinct.sublist (List.filter_sublist.map _)

def ofList (name : α → String) (values : List α) : NameIndex α :=
  values.foldl (fun index value => index.insert (name value) value) empty

theorem get?_empty (name : String) : (empty : NameIndex α).get? name = none := rfl

private theorem get?_erase (index : NameIndex α) (name other : String) :
    (index.erase name).get? other = if foldName other = foldName name then none
      else index.get? other := by
  unfold get? erase
  by_cases same : foldName other = foldName name
  · have missing : (index.entries.filter (·.1 != foldName name)).find? (·.1 == foldName other) =
        none := by
      simp [List.find?_eq_none, same]
    rw [missing, if_pos same, Option.map_none]
  · have kept : (index.entries.filter (·.1 != foldName name)).find? (·.1 == foldName other) =
        index.entries.find? (·.1 == foldName other) := by
      rw [List.find?_filter]
      congr 1
      funext entry
      by_cases h : entry.1 = foldName other <;> simp [h, same]
    rw [kept, if_neg same]

theorem get?_insert (index : NameIndex α) (name other : String) (value : α) :
    (index.insert name value).get? other =
      if foldName other = foldName name then some value else index.get? other := by
  have parts : (index.insert name value).get? other =
      ((index.erase name).get? other).or
        (([(foldName name, value)].find? (·.1 == foldName other)).map (·.2)) := by
    unfold get? insert erase
    rw [List.find?_append, Option.map_or]
  rw [parts, get?_erase]
  by_cases same : foldName other = foldName name
  · simp [same]
  · simp [same, Ne.symm same]

theorem get?_ofList (name : α → String) (values : List α) (wanted : String) :
    (ofList name values).get? wanted =
      (values.filter fun value => foldName (name value) == foldName wanted).getLast? := by
  have general : ∀ (values : List α) (index : NameIndex α),
      (values.foldl (fun index value => index.insert (name value) value) index).get? wanted =
        ((values.filter fun value => foldName (name value) == foldName wanted).getLast?).or
          (index.get? wanted) := by
    intro values
    induction values with
    | nil => intro index; simp
    | cons value values ih =>
      intro index
      rw [List.foldl_cons, ih, get?_insert]
      by_cases h : foldName (name value) = foldName wanted
      · rw [List.filter_cons_of_pos (by simpa using h), if_pos h.symm]
        cases hl : (values.filter fun value => foldName (name value) == foldName wanted) with
        | nil => simp
        | cons first rest => simp [List.getLast?_cons]
      · rw [List.filter_cons_of_neg (by simpa using h), if_neg (fun e => h e.symm)]
  simpa [ofList, get?_empty] using general values empty

end NameIndex

end FilterQuery
