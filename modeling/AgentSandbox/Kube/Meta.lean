import Mathlib.Data.List.AList

/-! # Kubernetes object metadata

Go maps of strings are association lists with distinct keys: the list order
stands for one iteration order of `range`, so a statement over every `StrMap`
covers every map and every order in which the code may visit it.  Reading a
missing key gives the empty string, as in Go. -/

set_option autoImplicit false

namespace AgentSandbox

/-- A Go `map[string]string`. -/
abbrev StrMap := AList fun _ : String => String

namespace StrMap

/-- Equality of the entry lists, decided without a cast so that `decide` can evaluate it. -/
instance : DecidableEq StrMap := fun m m' => decidable_of_iff (m.entries = m'.entries) AList.ext_iff.symm

/-- `m[k]`: the value at `k`, or `""` when `k` is missing. -/
def get (m : StrMap) (k : String) : String := (m.lookup k).getD ""

/-- `m[k] = v`. -/
def set (m : StrMap) (k v : String) : StrMap := m.insert k v

def delete (m : StrMap) (k : String) : StrMap := m.erase k

/-- The keys in iteration order. -/
def keys (m : StrMap) : List String := AList.keys m

/-- The entries in iteration order, as the pairs `range` yields. -/
def pairs (m : StrMap) : List (String × String) := m.entries.map fun e => (e.1, e.2)

/-- `_, ok := m[k]`: whether `k` is present. -/
def contains (m : StrMap) (k : String) : Bool := (m.lookup k).isSome

@[simp] theorem lookup_set_self (m : StrMap) (k v : String) : (m.set k v).lookup k = some v :=
  AList.lookup_insert m

@[simp] theorem lookup_set_of_ne (m : StrMap) {k k' : String} (v : String) (other : k' ≠ k) :
    (m.set k v).lookup k' = m.lookup k' :=
  AList.lookup_insert_ne other

@[simp] theorem lookup_delete_self (m : StrMap) (k : String) : (m.delete k).lookup k = none := by
  simp [delete, AList.lookup_erase]

@[simp] theorem lookup_delete_of_ne (m : StrMap) {k k' : String} (other : k' ≠ k) :
    (m.delete k).lookup k' = m.lookup k' :=
  AList.lookup_erase_ne other

@[simp] theorem get_set_self (m : StrMap) (k v : String) : (m.set k v).get k = v := by
  simp [get]

@[simp] theorem get_set_of_ne (m : StrMap) {k k' : String} (v : String) (other : k' ≠ k) :
    (m.set k v).get k' = m.get k' := by
  simp [get, other]

@[simp] theorem get_delete_self (m : StrMap) (k : String) : (m.delete k).get k = "" := by
  simp [get]

@[simp] theorem get_delete_of_ne (m : StrMap) {k k' : String} (other : k' ≠ k) :
    (m.delete k).get k' = m.get k' := by
  simp [get, other]

theorem map_fst_pairs (m : StrMap) : m.pairs.map Prod.fst = m.keys := by
  simp only [pairs, List.map_map]
  rfl

theorem nodup_pairs_keys (m : StrMap) : (m.pairs.map Prod.fst).Nodup := by
  rw [map_fst_pairs]
  exact AList.keys_nodup m

theorem mem_pairs {m : StrMap} {k v : String} : (k, v) ∈ m.pairs ↔ m.lookup k = some v := by
  simp only [pairs, List.mem_map]
  constructor
  · rintro ⟨⟨k', v'⟩, member, same⟩
    simp only [Prod.mk.injEq] at same
    obtain ⟨rfl, rfl⟩ := same
    exact AList.mem_lookup_iff.mpr member
  · intro found
    exact ⟨⟨k, v⟩, AList.mem_lookup_iff.mp found, rfl⟩

/-! ## Equal maps

A Go map has no order: two maps are the same map when they have the same
lookups, whatever the order of their entries. -/

def Equiv (m m' : StrMap) : Prop := ∀ k, m.lookup k = m'.lookup k

theorem equivalence : Equivalence Equiv where
  refl _ _ := rfl
  symm same k := (same k).symm
  trans same same' k := (same k).trans (same' k)

section Equiv

variable {m m' : StrMap}

theorem Equiv.get (same : m.Equiv m') (k : String) : m.get k = m'.get k := by
  rw [StrMap.get, StrMap.get, same k]

theorem Equiv.contains (same : m.Equiv m') (k : String) : m.contains k = m'.contains k := by
  rw [StrMap.contains, StrMap.contains, same k]

theorem Equiv.set (same : m.Equiv m') (k v : String) : (m.set k v).Equiv (m'.set k v) := by
  intro x
  by_cases written : x = k
  · subst written
    simp
  · simp [written, same x]

theorem Equiv.delete (same : m.Equiv m') (k : String) : (m.delete k).Equiv (m'.delete k) := by
  intro x
  by_cases deleted : x = k
  · subst deleted
    simp
  · simp [deleted, same x]

end Equiv

theorem set_set_equiv (m : StrMap) {k k' : String} (v v' : String) (other : k ≠ k') :
    ((m.set k v).set k' v').Equiv ((m.set k' v').set k v) := by
  intro x
  by_cases first : x = k
  · subst first
    simp [other]
  · by_cases second : x = k'
    · subst second
      simp [first]
    · simp [first, second]

/-- The JSON merge patch that `client.MergeFrom(original)` computes for the
edit `modified`, applied to the stored map `current`: keys the edit removed are
deleted, keys it added or changed are set, and every other key keeps its stored
value. -/
def mergePatch (original modified current : StrMap) : StrMap :=
  let cleared := (original.keys.filter fun k => !modified.contains k).foldl delete current
  modified.pairs.foldl (fun m e => if original.lookup e.1 = some e.2 then m else m.set e.1 e.2) cleared

/-- `maps.Copy(dst, src)`: every entry of `src` written into `dst`. -/
def copy (dst src : StrMap) : StrMap := src.pairs.foldl (fun m e => m.set e.1 e.2) dst

/-- Writing a list of entries with distinct keys: a key takes its value from
the list if it is there. -/
theorem lookup_foldl_set (entries : List (String × String)) (distinct : (entries.map Prod.fst).Nodup)
    (dst : StrMap) (k : String) :
    (entries.foldl (fun m e => m.set e.1 e.2) dst).lookup k =
      ((entries.find? (·.1 == k)).map Prod.snd).or (dst.lookup k) := by
  induction entries generalizing dst with
  | nil => rfl
  | cons e rest ih =>
    rw [List.map_cons, List.nodup_cons] at distinct
    rw [List.foldl_cons, ih distinct.2, List.find?_cons]
    by_cases written : e.1 = k
    · -- the later entries have other keys, so this write is the one read
      have later : rest.find? (·.1 == k) = none := by
        rw [List.find?_eq_none]
        intro other member same
        exact distinct.1 (List.mem_map.mpr ⟨other, member, (beq_iff_eq.mp same).trans written.symm⟩)
      subst written
      simp [later]
    · have skipped : (e.1 == k) = false := beq_false_of_ne written
      simp [skipped, lookup_set_of_ne _ _ (Ne.symm written)]

theorem find?_pairs (m : StrMap) (k : String) :
    (m.pairs.find? (·.1 == k)).map Prod.snd = m.lookup k := by
  cases found : m.pairs.find? (·.1 == k) with
  | some e =>
    have key : e.1 = k := by simpa using List.find?_some found
    have member : (e.1, e.2) ∈ m.pairs := List.mem_of_find?_eq_some found
    rw [key, mem_pairs] at member
    exact member.symm
  | none =>
    cases present : m.lookup k with
    | none => rfl
    | some v =>
      have absent := List.find?_eq_none.mp found (k, v) (mem_pairs.mpr present)
      simp at absent

/-- After `maps.Copy`, a key has its value in `src` if it has one there, and
its old value otherwise. -/
@[simp] theorem lookup_copy (dst src : StrMap) (k : String) :
    (copy dst src).lookup k = (src.lookup k).or (dst.lookup k) := by
  rw [copy, lookup_foldl_set _ (nodup_pairs_keys src), find?_pairs]

/-- Copying a map that agrees with `dst` on their common keys gives their
union. -/
theorem copy_equiv_union (dst src : StrMap)
    (agree : ∀ k tv v, dst.lookup k = some tv → src.lookup k = some v → tv = v) :
    (dst.copy src).Equiv (dst ∪ src) := by
  intro k
  rw [lookup_copy]
  by_cases present : k ∈ dst
  · obtain ⟨tv, found⟩ := Option.isSome_iff_exists.mp (AList.lookup_isSome.mpr present)
    rw [AList.lookup_union_left present, found]
    cases inSrc : src.lookup k with
    | none => rfl
    | some v => rw [agree k tv v found inSrc, Option.some_or]
  · rw [AList.lookup_union_right present, AList.lookup_eq_none.mpr present, Option.or_none]

theorem lookup_eq_none_of_keys_length (m : StrMap) (empty : m.keys.length = 0) (k : String) :
    m.lookup k = none := by
  rw [AList.lookup_eq_none, AList.mem_keys]
  have none : AList.keys m = [] := List.length_eq_zero_iff.mp empty
  simp [none]

/-! ## A value stashed under a key and taken out again -/

theorem delete_set_self (m : StrMap) (k v : String) : (m.set k v).delete k = m.delete k :=
  AList.ext (List.kerase_cons_eq rfl)

theorem delete_of_lookup_eq_none {m : StrMap} {k : String} (absent : m.lookup k = none) : m.delete k = m :=
  AList.ext (List.kerase_of_notMem_keys (AList.lookup_eq_none.mp absent))

theorem set_delete_self (m : StrMap) (k v : String) : (m.delete k).set k v = m.set k v := by
  have twice : (m.delete k).delete k = m.delete k := delete_of_lookup_eq_none (lookup_delete_self m k)
  apply AList.ext
  rw [set, set, AList.entries_insert, AList.entries_insert]
  exact congrArg (fun m' : StrMap => (⟨k, v⟩ : Sigma fun _ : String => String) :: m'.entries) twice

/-! ## The stored map after a merge patch -/

theorem lookup_foldl_delete (keys : List String) (m : StrMap) (k : String) :
    (keys.foldl delete m).lookup k = if k ∈ keys then none else m.lookup k := by
  induction keys generalizing m with
  | nil => simp
  | cons key rest ih =>
    rw [List.foldl_cons, ih]
    by_cases here : k = key
    · subst here
      simp
    · simp [here, lookup_delete_of_ne _ here]

theorem lookup_foldl_setChanged_of_not_mem (original : StrMap) (entries : List (String × String)) {k : String}
    (absent : k ∉ entries.map Prod.fst) (dst : StrMap) :
    (entries.foldl (fun m e => if original.lookup e.1 = some e.2 then m else m.set e.1 e.2) dst).lookup k =
      dst.lookup k := by
  induction entries generalizing dst with
  | nil => rfl
  | cons e rest ih =>
    rw [List.map_cons, List.mem_cons, not_or] at absent
    rw [List.foldl_cons, ih absent.2]
    split
    · rfl
    · exact lookup_set_of_ne _ _ absent.1

theorem lookup_foldl_setChanged (original : StrMap) (entries : List (String × String))
    (distinct : (entries.map Prod.fst).Nodup) (dst : StrMap) {k v : String}
    (written : entries.find? (·.1 == k) = some (k, v)) :
    (entries.foldl (fun m e => if original.lookup e.1 = some e.2 then m else m.set e.1 e.2) dst).lookup k =
      if original.lookup k = some v then dst.lookup k else some v := by
  induction entries generalizing dst with
  | nil => cases written
  | cons e rest ih =>
    rw [List.map_cons, List.nodup_cons] at distinct
    rw [List.foldl_cons]
    rw [List.find?_cons] at written
    by_cases here : e.1 = k
    · -- this is the entry for `k`; the later ones have other keys
      have found : e = (k, v) := by simpa [here] using written
      subst found
      rw [lookup_foldl_setChanged_of_not_mem original rest distinct.1]
      split
      · rfl
      · exact lookup_set_self _ _ _
    · have skipped : (e.1 == k) = false := beq_false_of_ne here
      rw [skipped] at written
      rw [ih distinct.2 _ written]
      split
      · split
        · rfl
        · exact lookup_set_of_ne _ _ (Ne.symm here)
      · rfl

theorem lookup_mergePatch_of_lookup_eq_some {original modified : StrMap} (current : StrMap) {k v : String}
    (edited : modified.lookup k = some v) :
    (mergePatch original modified current).lookup k = if original.lookup k = some v then current.lookup k else some v := by
  have written : modified.pairs.find? (·.1 == k) = some (k, v) := by
    cases found : modified.pairs.find? (·.1 == k) with
    | none => simpa [found, edited] using find?_pairs modified k
    | some e =>
      have key : e.1 = k := by simpa using List.find?_some found
      have value : e.2 = v := by simpa [found, edited] using find?_pairs modified k
      rw [← key, ← value]
  rw [mergePatch, lookup_foldl_setChanged original _ (nodup_pairs_keys modified) _ written, lookup_foldl_delete]
  have kept : modified.contains k = true := by simp [contains, edited]
  simp [kept]

end StrMap

end AgentSandbox
