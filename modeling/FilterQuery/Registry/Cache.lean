import FilterQuery.Registry

set_option autoImplicit false
set_option relaxedAutoImplicit false

/-!
A cache of registries. Every root has a slot of its own, which is opened before its registry is
built and taken away again if none can be built. What was built stays in its slot from then on.
-/

namespace FilterQuery.Registry

/-- A registry together with its place in the order of building. -/
structure Numbered where
  number : Nat
  registry : Registry

/-- A place for the registry of one root, empty until that is built. The number tells it from a slot
that was opened at another time. -/
structure Slot where
  number : Nat
  held : Option Numbered

/-- The slots by their roots, how many slots were opened so far, and how many registries were
built. -/
structure Cache where
  slots : NameIndex Slot
  opened : Nat
  built : Nat

namespace Cache

def empty : Cache :=
  ⟨.empty, 0, 0⟩

/-- The slot of a root; where there is none, an empty one is opened. -/
def reserve (cache : Cache) (root : String) : Slot × Cache :=
  match cache.slots.get? root with
  | some slot => (slot, cache)
  | none =>
    let slot := ⟨cache.opened, none⟩
    (slot, { cache with slots := cache.slots.insert root slot, opened := cache.opened + 1 })

def fill (cache : Cache) (root : String) (slot : Slot) (registry : Registry) : Numbered × Cache :=
  let numbered := ⟨cache.built, registry⟩
  let filled := { slot with held := some numbered }
  (numbered, { cache with slots := cache.slots.insert root filled, built := cache.built + 1 })

/-- Takes away the slot of a root, unless another one has come into its place. -/
def release (cache : Cache) (root : String) (slot : Slot) : Cache :=
  if (cache.slots.get? root).any (·.number == slot.number) then
    { cache with slots := cache.slots.erase root }
  else cache

/-- The registry of a root, and the cache after it was asked for. -/
def get (schema : Schema) (cache : Cache) (root : String) : Except Error Numbered × Cache :=
  let (slot, cache) := cache.reserve root
  match slot.held with
  | some numbered => (.ok numbered, cache)
  | none =>
    match Registry.build schema root with
    | .ok registry =>
      let (numbered, cache) := cache.fill root slot registry
      (.ok numbered, cache)
    | .error fault => (.error fault, cache.release root slot)

def size (cache : Cache) : Nat :=
  cache.slots.size

end Cache

end FilterQuery.Registry
