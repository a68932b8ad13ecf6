import Mathlib.Data.List.Nodup

/-! # Keyed FIFO queues

A keyed FIFO is a list whose entries carry pairwise distinct keys.  Pushing an
entry whose key is already present refreshes that entry in place; every
removal keeps the surviving entries in their order.  The structure carries the
distinctness of its keys, so no operation can build a queue holding a key
twice.  The list-level operations come first, then the structure built on
them. -/

set_option autoImplicit false

section Lists
variable {α κ : Type} [DecidableEq κ] (key : α → κ)

/-- Replace every entry whose key is `key x` by `x`. -/
def replaceKey (x : α) (entries : List α) : List α :=
  entries.map fun y => if key y = key x then x else y

/-- Append `x` when its key is absent, otherwise refresh its entry in place. -/
def pushEntry (x : α) (entries : List α) : List α :=
  if key x ∈ entries.map key then replaceKey key x entries else entries ++ [x]

/-- Drop every entry with key `k`, keeping the others in order. -/
def dropKey (k : κ) (entries : List α) : List α :=
  entries.filter fun y => key y ≠ k

theorem map_key_replaceKey (x : α) (entries : List α) :
    (replaceKey key x entries).map key = entries.map key := by
  induction entries with
  | nil => rfl
  | cons y rest ih =>
      by_cases same : key y = key x
      · simp [replaceKey, same] at ih ⊢
        exact ih
      · simp [replaceKey, same] at ih ⊢
        exact ih

theorem map_key_pushEntry (x : α) (entries : List α) :
    (pushEntry key x entries).map key =
      if key x ∈ entries.map key then entries.map key
      else entries.map key ++ [key x] := by
  by_cases present : key x ∈ entries.map key
  · simp only [pushEntry, if_pos present, map_key_replaceKey]
  · simp [pushEntry, present]

theorem nodup_pushEntry (x : α) {entries : List α}
    (distinct : (entries.map key).Nodup) :
    ((pushEntry key x entries).map key).Nodup := by
  rw [map_key_pushEntry]
  by_cases present : key x ∈ entries.map key
  · rw [if_pos present]
    exact distinct
  · rw [if_neg present, List.nodup_append]
    refine ⟨distinct, List.nodup_singleton _, ?_⟩
    intro a member b single
    rw [List.mem_singleton] at single
    rintro rfl
    exact present (single ▸ member)

theorem nodup_dropKey (k : κ) {entries : List α}
    (distinct : (entries.map key).Nodup) :
    ((dropKey key k entries).map key).Nodup :=
  distinct.sublist ((List.filter_sublist (l := entries)).map key)

theorem mem_map_key_dropKey {k k' : κ} {entries : List α} :
    k' ∈ (dropKey key k entries).map key ↔ k' ≠ k ∧ k' ∈ entries.map key := by
  simp only [dropKey, List.mem_map, List.mem_filter, decide_eq_true_eq]
  constructor
  · rintro ⟨y, ⟨member, other⟩, rfl⟩
    exact ⟨other, y, member, rfl⟩
  · rintro ⟨other, y, member, rfl⟩
    exact ⟨y, ⟨member, other⟩, rfl⟩

/-- With distinct keys, removing the first entry matching a key is the same as
dropping every entry with that key. -/
theorem eraseP_eq_dropKey (k : κ) {entries : List α}
    (distinct : (entries.map key).Nodup) :
    entries.eraseP (fun y => decide (key y = k)) = dropKey key k entries := by
  induction entries with
  | nil => rfl
  | cons y rest ih =>
      rw [List.map_cons, List.nodup_cons] at distinct
      by_cases hit : key y = k
      · have absent : ∀ z ∈ rest, key z ≠ k := by
          intro z member same
          exact distinct.1 (hit ▸ same ▸ List.mem_map_of_mem member)
        simp only [List.eraseP_cons, hit, decide_true, cond_true, dropKey,
          List.filter_cons, ne_eq, not_true_eq_false, decide_false]
        exact (List.filter_eq_self.mpr (by simpa using absent)).symm
      · simp only [List.eraseP_cons, hit, decide_false, cond_false, dropKey,
          List.filter_cons, ne_eq, not_false_eq_true, decide_true, if_true]
        rw [ih distinct.2]
        rfl

theorem dropKey_eq_erase [DecidableEq α] {x : α} {entries : List α}
    (distinct : (entries.map key).Nodup) (mem : x ∈ entries) : dropKey key (key x) entries = entries.erase x := by
  rw [(List.Nodup.of_map key distinct).erase_eq_filter, dropKey]
  refine List.filter_congr fun y member => ?_
  have same : key y = key x ↔ y = x := ⟨List.inj_on_of_nodup_map distinct member mem, congrArg key⟩
  by_cases hit : y = x <;> simp [same, hit]

theorem dropKey_of_not_mem {k : κ} {entries : List α}
    (absent : k ∉ entries.map key) : dropKey key k entries = entries := by
  apply List.filter_eq_self.mpr
  intro y member
  simp only [ne_eq, decide_eq_true_eq]
  rintro rfl
  exact absent (List.mem_map_of_mem member)

end Lists

/-- A FIFO whose entries carry pairwise distinct keys. -/
structure KeyedFifo {α κ : Type} (key : α → κ) where
  entries : List α
  keys_nodup : (entries.map key).Nodup

namespace KeyedFifo

variable {α κ : Type} {key : α → κ}

/-- The empty keyed FIFO. -/
def empty : KeyedFifo key := ⟨[], List.nodup_nil⟩

/-- Remove and return the oldest entry. -/
def pop (F : KeyedFifo key) : Option α × KeyedFifo key :=
  (F.entries.head?,
    ⟨F.entries.tail, F.keys_nodup.sublist ((List.tail_sublist F.entries).map key)⟩)

@[simp] theorem entries_empty : (empty : KeyedFifo key).entries = [] := rfl

@[simp] theorem pop_fst (F : KeyedFifo key) : F.pop.1 = F.entries.head? := rfl

@[simp] theorem entries_pop_snd (F : KeyedFifo key) :
    F.pop.2.entries = F.entries.tail := rfl

theorem ext_entries {F G : KeyedFifo key} (same : F.entries = G.entries) : F = G := by
  cases F
  cases G
  cases same
  rfl

variable [DecidableEq κ]

/-- Append an entry with a fresh key, or refresh the entry with that key. -/
def push (F : KeyedFifo key) (x : α) : KeyedFifo key :=
  ⟨pushEntry key x F.entries, nodup_pushEntry key x F.keys_nodup⟩

/-- Remove the entry with key `k`, if any, keeping the others in order. -/
def erase (F : KeyedFifo key) (k : κ) : KeyedFifo key :=
  ⟨dropKey key k F.entries, nodup_dropKey key k F.keys_nodup⟩

@[simp] theorem entries_push (F : KeyedFifo key) (x : α) :
    (F.push x).entries = pushEntry key x F.entries := rfl

@[simp] theorem entries_erase (F : KeyedFifo key) (k : κ) :
    (F.erase k).entries = dropKey key k F.entries := rfl

end KeyedFifo
