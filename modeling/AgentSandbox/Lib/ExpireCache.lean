import Mathlib.Data.List.AList

/-!
# Caches whose entries expire

The interface of an expiring cache, as the router uses `LRUExpireCache` of
`k8s.io/apimachinery/pkg/util/cache`: `NewLRUExpireCache(maxSize)`, `Add(key, value, ttl)` and
`Get(key)`, with the clock's reading passed to each call.  The operations are parameters, and
`Lawful` names what is assumed of them: a new cache has no hit; after an `Add`, a hit on the
key added is the value added, while the clock is not after `now + ttl`; and every other hit,
after an `Add` or a `Get`, was a hit before.  A cache may drop any entry to make room, so a
miss says nothing.

From these laws a cache stays `Recorded` against the map of the last `Add` of each key under
every call, and a hit reads that map.  `expiringMap`, an unbounded map from keys to entries with
their expiry times, is lawful: it is an LRU cache that is never full.
-/

set_option autoImplicit false

/-- The operations of an expiring cache whose state is `C`. -/
structure ExpireCache (C κ ν : Type) where
  /-- `NewLRUExpireCache`, which panics on a size that is not positive -/
  new : (maxSize : Nat) → 0 < maxSize → C
  /-- `Add(key, value, ttl)` with the clock at `now` -/
  add : C → κ → ν → (ttl now : Int) → C
  /-- `Get(key)` with the clock at `now`: the value found, and the cache after the call -/
  get : C → κ → (now : Int) → Option ν × C

namespace ExpireCache

variable {C κ ν : Type}

/-- What is assumed of an expiring cache: hits are only ever the last value added, unexpired. -/
structure Lawful [DecidableEq κ] (cache : ExpireCache C κ ν) : Prop where
  get_new : ∀ maxSize positive k now, (cache.get (cache.new maxSize positive) k now).1 = none
  get_add_self : ∀ c k v ttl now now' v', (cache.get (cache.add c k v ttl now) k now').1 = some v' →
    v' = v ∧ now' ≤ now + ttl
  get_add_ne : ∀ c k v ttl now k' now' v', k' ≠ k → (cache.get (cache.add c k v ttl now) k' now').1 = some v' →
    (cache.get c k' now').1 = some v'
  get_get : ∀ c k now k' now' v', (cache.get (cache.get c k now).2 k' now').1 = some v' →
    (cache.get c k' now').1 = some v'

variable [DecidableEq κ] (cache : ExpireCache C κ ν)

/-- Every hit of `c` is the entry `added` holds for its key, not yet expired. -/
def Recorded (c : C) (added : AList fun _ : κ => ν × Int) : Prop :=
  ∀ k now v, (cache.get c k now).1 = some v → ∃ e, added.lookup k = some (v, e) ∧ now ≤ e

variable {cache} (lawful : cache.Lawful)

include lawful

theorem recorded_new (maxSize : Nat) (positive : 0 < maxSize) (added : AList fun _ : κ => ν × Int) :
    cache.Recorded (cache.new maxSize positive) added := by
  intro k now v hit
  rw [lawful.get_new] at hit
  cases hit

theorem Recorded.add {c : C} {added : AList fun _ : κ => ν × Int} (recorded : cache.Recorded c added)
    (key : κ) (value : ν) (ttl now : Int) :
    cache.Recorded (cache.add c key value ttl now) (added.insert key (value, now + ttl)) := by
  intro k now' v hit
  by_cases same : k = key
  · subst same
    obtain ⟨rfl, notExpired⟩ := lawful.get_add_self c k value ttl now now' v hit
    exact ⟨now + ttl, AList.lookup_insert _, notExpired⟩
  · rw [AList.lookup_insert_ne same]
    exact recorded k now' v (lawful.get_add_ne c key value ttl now k now' v same hit)

theorem Recorded.get {c : C} {added : AList fun _ : κ => ν × Int} (recorded : cache.Recorded c added)
    (key : κ) (now : Int) : cache.Recorded (cache.get c key now).2 added :=
  fun k now' v hit => recorded k now' v (lawful.get_get c key now k now' v hit)

omit lawful

/-! ## An unbounded cache -/

/-- An unbounded map from keys to values with their expiry times, most recent first.  `Get`
removes an expired entry and misses, as `LRUExpireCache` does. -/
def expiringMap : ExpireCache (AList fun _ : κ => ν × Int) κ ν where
  new _ _ := ∅
  add c k v ttl now := c.insert k (v, now + ttl)
  get c k now :=
    match c.lookup k with
    | none => (none, c)
    | some (v, e) => if now > e then (none, c.erase k) else (some v, c)

theorem expiringMap_hit {c : AList fun _ : κ => ν × Int} {k : κ} {now : Int} {v : ν} :
    ((expiringMap : ExpireCache _ κ ν).get c k now).1 = some v ↔ ∃ e, c.lookup k = some (v, e) ∧ now ≤ e := by
  simp only [expiringMap]
  cases found : c.lookup k with
  | none => simp
  | some entry =>
      obtain ⟨v', e⟩ := entry
      by_cases expired : now > e
      · simp only [expired, if_true]
        simp only [reduceCtorEq, Option.some.injEq, Prod.mk.injEq, false_iff, not_exists, not_and]
        intro _ _ _
        omega
      · simp only [expired, if_false, Option.some.injEq, Prod.mk.injEq]
        constructor
        · rintro rfl
          exact ⟨e, ⟨rfl, rfl⟩, by omega⟩
        · rintro ⟨_, ⟨same, _⟩, _⟩
          exact same

theorem expiringMap_get_snd (c : AList fun _ : κ => ν × Int) (k : κ) (now : Int) :
    ((expiringMap : ExpireCache _ κ ν).get c k now).2 = c ∨ ((expiringMap : ExpireCache _ κ ν).get c k now).2 = c.erase k := by
  simp only [expiringMap]
  split
  · exact .inl rfl
  · split
    · exact .inr rfl
    · exact .inl rfl

theorem expiringMap_lawful : (expiringMap : ExpireCache _ κ ν).Lawful where
  get_new _ _ k now := by simp [expiringMap, AList.lookup_empty]
  get_add_self c k v ttl now now' v' hit := by
    obtain ⟨e, found, notExpired⟩ := expiringMap_hit.mp hit
    simp only [expiringMap, AList.lookup_insert, Option.some.injEq, Prod.mk.injEq] at found
    obtain ⟨rfl, rfl⟩ := found
    exact ⟨rfl, notExpired⟩
  get_add_ne c k v ttl now k' now' v' other hit := by
    obtain ⟨e, found, notExpired⟩ := expiringMap_hit.mp hit
    simp only [expiringMap, AList.lookup_insert_ne other] at found
    exact expiringMap_hit.mpr ⟨e, found, notExpired⟩
  get_get c k now k' now' v' hit := by
    obtain ⟨e, found, notExpired⟩ := expiringMap_hit.mp hit
    refine expiringMap_hit.mpr ⟨e, ?_, notExpired⟩
    rcases expiringMap_get_snd c k now with same | removed
    · rwa [same] at found
    · rw [removed] at found
      by_cases looked : k' = k
      · subst looked
        simp [AList.lookup_erase] at found
      · rwa [AList.lookup_erase_ne looked] at found

end ExpireCache
