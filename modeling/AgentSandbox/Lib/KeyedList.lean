import Mathlib.Data.List.Nodup

/-!
# Keyed lists

A list of records with a key, updated the way Go code updates a slice it
searches by key: the first element with the key is overwritten in place, and a
record whose key is not there is appended.  `upsertBy_eq_findIdx?` is that
search loop; over a run of upserts the keys stay distinct
(`nodup_foldl_upsertBy`), a lookup finds the last record written under its key
(`find?_foldl_upsertBy`), and the records under other keys are untouched
(`filter_foldl_upsertBy`).
-/

set_option autoImplicit false

namespace KeyedList

variable {α κ : Type*} [DecidableEq κ] (key : α → κ)

/-- Replace the first element with `x`'s key by `x`, or append `x`. -/
def upsertBy : List α → α → List α
  | [], x => [x]
  | y :: rest, x => if key y = key x then x :: rest else y :: upsertBy rest x

variable {key}

/-- The search loop: find the first index with `x`'s key, then overwrite it or
append. -/
theorem upsertBy_eq_findIdx? (l : List α) (x : α) :
    upsertBy key l x =
      match l.findIdx? (fun y => key y == key x) with
      | some j => l.set j x
      | none => l ++ [x] := by
  induction l with
  | nil => rfl
  | cons y rest ih =>
      by_cases same : key y = key x
      · rw [upsertBy, if_pos same, List.findIdx?_cons, if_pos (by simp [same])]
        rfl
      · -- the index found in `rest` is one past the head
        rw [upsertBy, if_neg same, ih, List.findIdx?_cons]
        cases found : rest.findIdx? (fun y => key y == key x) <;> simp [same]

theorem map_upsertBy (l : List α) (x : α) :
    (upsertBy key l x).map key =
      if key x ∈ l.map key then l.map key else l.map key ++ [key x] := by
  induction l with
  | nil => simp [upsertBy]
  | cons y rest ih =>
      by_cases same : key y = key x
      · simp [upsertBy, same]
      · have other : key x ≠ key y := Ne.symm same
        simp only [upsertBy, if_neg same, List.map_cons, ih, List.mem_cons, other, false_or]
        split <;> simp

theorem nodup_upsertBy {l : List α} (nodup : (l.map key).Nodup) (x : α) :
    ((upsertBy key l x).map key).Nodup := by
  rw [map_upsertBy]
  split
  · exact nodup
  · next fresh => exact nodup.append (List.nodup_singleton _) (by simpa using fresh)

/-- With distinct keys, an upsert holds `x` and the elements under the other
keys. -/
theorem mem_upsertBy {l : List α} (nodup : (l.map key).Nodup) (x y : α) :
    y ∈ upsertBy key l x ↔ y = x ∨ (y ∈ l ∧ key y ≠ key x) := by
  induction l with
  | nil => simp [upsertBy]
  | cons z rest ih =>
      rw [List.map_cons, List.nodup_cons] at nodup
      obtain ⟨headFresh, restNodup⟩ := nodup
      by_cases same : key z = key x
      · -- `z` is overwritten, and no element of `rest` has its key
        have others : ∀ w ∈ rest, key w ≠ key x := fun w mem eq =>
          headFresh (same ▸ eq ▸ List.mem_map_of_mem mem)
        rw [upsertBy, if_pos same, List.mem_cons]
        constructor
        · rintro (rfl | mem)
          · exact .inl rfl
          · exact .inr ⟨List.mem_cons_of_mem _ mem, others y mem⟩
        · rintro (rfl | ⟨mem, other⟩)
          · exact .inl rfl
          · rcases List.mem_cons.mp mem with rfl | mem
            · exact absurd same other
            · exact .inr mem
      · rw [upsertBy, if_neg same, List.mem_cons, ih restNodup, List.mem_cons]
        constructor
        · rintro (rfl | rfl | ⟨mem, other⟩)
          · exact .inr ⟨.inl rfl, same⟩
          · exact .inl rfl
          · exact .inr ⟨.inr mem, other⟩
        · rintro (rfl | ⟨rfl | mem, other⟩)
          · exact .inr (.inl rfl)
          · exact .inl rfl
          · exact .inr (.inr ⟨mem, other⟩)

theorem find?_upsertBy (l : List α) (x : α) (k : κ) :
    (upsertBy key l x).find? (fun y => key y = k) =
      if key x = k then some x else l.find? (fun y => key y = k) := by
  induction l with
  | nil => simp [upsertBy]
  | cons y rest ih =>
      by_cases same : key y = key x
      · rw [upsertBy, if_pos same]
        by_cases hit : key x = k
        · simp [hit]
        · simp [hit, same]
      · -- the head keeps its place; it is found first exactly when it has the key
        rw [upsertBy, if_neg same]
        by_cases hit : key y = k
        · have miss : key x ≠ k := fun h => same (hit.trans h.symm)
          simp [hit, miss]
        · simp [hit, ih]

theorem filter_upsertBy (l : List α) (x : α) :
    (upsertBy key l x).filter (fun y => key y ≠ key x) = l.filter (fun y => key y ≠ key x) := by
  induction l with
  | nil => simp [upsertBy]
  | cons y rest ih =>
      by_cases same : key y = key x
      · rw [upsertBy, if_pos same]
        simp [same]
      · rw [upsertBy, if_neg same, List.filter_cons, List.filter_cons, ih]

/-! ## Runs of upserts -/

theorem nodup_foldl_upsertBy (xs : List α) {l : List α} (nodup : (l.map key).Nodup) :
    ((xs.foldl (upsertBy key) l).map key).Nodup := by
  induction xs generalizing l with
  | nil => exact nodup
  | cons x rest ih => exact ih (nodup_upsertBy nodup x)

/-- A lookup after a run finds the last record of the run under the key, or
else what the list held before. -/
theorem find?_foldl_upsertBy (xs l : List α) (k : κ) :
    (xs.foldl (upsertBy key) l).find? (fun y => key y = k) =
      ((xs.filter fun y => key y = k).getLast?).or (l.find? fun y => key y = k) := by
  induction xs generalizing l with
  | nil => simp
  | cons x rest ih =>
      rw [List.foldl_cons, ih, find?_upsertBy]
      by_cases hit : key x = k
      · simp [hit, List.getLast?_cons, Option.or_some]
      · simp [hit]

theorem find?_foldl_upsertBy_of_mem {xs : List α} (l : List α) {k : κ} (mem : k ∈ xs.map key) :
    (xs.foldl (upsertBy key) l).find? (fun y => key y = k) = (xs.filter fun y => key y = k).getLast? := by
  obtain ⟨x, hx, rfl⟩ := List.mem_map.mp mem
  have written : (xs.filter fun y => key y = key x) ≠ [] :=
    List.ne_nil_of_mem (List.mem_filter.mpr ⟨hx, by simp⟩)
  obtain ⟨last, found⟩ := Option.ne_none_iff_exists'.mp (mt List.getLast?_eq_none_iff.mp written)
  rw [find?_foldl_upsertBy, found, Option.some_or]

variable (key) in
theorem filter_foldl_upsertBy (xs l : List α) :
    (xs.foldl (upsertBy key) l).filter (fun y => key y ∉ xs.map key) =
      l.filter (fun y => key y ∉ xs.map key) := by
  induction xs generalizing l with
  | nil => simp
  | cons x rest ih =>
      -- leaving out `x`'s key and then `rest`'s is leaving out both
      have split : ∀ m : List α, m.filter (fun y => key y ∉ (x :: rest).map key) =
          (m.filter fun y => key y ≠ key x).filter (fun y => key y ∉ rest.map key) := by
        intro m
        simp only [List.filter_filter, List.map_cons, List.mem_cons, not_or]
        congr 1
        funext y
        simp [Bool.and_comm]
      rw [List.foldl_cons, split, ← List.filter_comm, ih, List.filter_comm, filter_upsertBy, ← split]

end KeyedList
