import Mathlib.Data.List.AList

/-!
# Maps kept by a stream of writes

A store that applies a stream of writes, each setting or removing one key of a
finite map, holds at every key what the last write to that key said, and what
it held before the stream when no write is to that key (`lookup_foldl_apply`).
`lastWrite` is that specification, read off the stream alone; the write it picks
is named by `lastWrite_eq_some_iff` and its absence by `lastWrite_eq_none_iff`.
-/

set_option autoImplicit false

namespace LastWrite

/-- A write to one key: a new value, or a removal (`none`). -/
structure Write (κ ν : Type) where
  key : κ
  value : Option ν
deriving DecidableEq, Repr

variable {κ ν : Type} [DecidableEq κ]

/-- The map after one write. -/
def Write.apply (m : AList fun _ : κ => ν) (w : Write κ ν) : AList fun _ : κ => ν :=
  match w.value with
  | some v => m.insert w.key v
  | none => m.erase w.key

/-- What the last write to `k` in `ws` says, or `none` when no write is to `k`. -/
def lastWrite (ws : List (Write κ ν)) (k : κ) : Option (Option ν) :=
  (ws.reverse.find? fun w => decide (w.key = k)).map Write.value

variable {ws : List (Write κ ν)} {k : κ}

theorem lookup_apply (m : AList fun _ : κ => ν) (w : Write κ ν) (k : κ) :
    (w.apply m).lookup k = if w.key = k then w.value else m.lookup k := by
  unfold Write.apply
  by_cases same : w.key = k
  · subst same
    cases w.value <;> simp [AList.lookup_insert, AList.lookup_erase]
  · cases w.value <;> simp [same, AList.lookup_insert_ne (Ne.symm same),
      AList.lookup_erase_ne (Ne.symm same)]

@[simp] theorem lastWrite_nil (k : κ) : lastWrite ([] : List (Write κ ν)) k = none := rfl

theorem lastWrite_cons (w : Write κ ν) (ws : List (Write κ ν)) (k : κ) :
    lastWrite (w :: ws) k = (lastWrite ws k).or (if w.key = k then some w.value else none) := by
  unfold lastWrite
  rw [List.reverse_cons, List.find?_append, Option.map_or]
  by_cases same : w.key = k <;> simp [same]

theorem lastWrite_append (ws ws' : List (Write κ ν)) (k : κ) :
    lastWrite (ws ++ ws') k = (lastWrite ws' k).or (lastWrite ws k) := by
  unfold lastWrite
  rw [List.reverse_append, List.find?_append, Option.map_or]

theorem lookup_foldl_apply (ws : List (Write κ ν)) (m : AList fun _ : κ => ν) (k : κ) :
    (ws.foldl Write.apply m).lookup k = (lastWrite ws k).getD (m.lookup k) := by
  -- induction on the stream, the map before the rest of it generalized
  induction ws generalizing m with
  | nil => rfl
  | cons w ws ih =>
      rw [List.foldl_cons, ih, lookup_apply, lastWrite_cons]
      cases lastWrite ws k with
      | some said => rfl
      | none => by_cases same : w.key = k <;> simp [same]

theorem lastWrite_eq_none_iff : lastWrite ws k = none ↔ ∀ w ∈ ws, w.key ≠ k := by
  simp [lastWrite, List.find?_eq_none]

theorem lastWrite_eq_some_iff {v : Option ν} :
    lastWrite ws k = some v ↔
      ∃ pre post, ws = pre ++ ⟨k, v⟩ :: post ∧ ∀ w ∈ post, w.key ≠ k := by
  unfold lastWrite
  rw [Option.map_eq_some_iff]
  constructor
  · rintro ⟨w, found, rfl⟩
    obtain ⟨key, after, later, reversed, notKey⟩ := List.find?_eq_some_iff_append.mp found
    have key : w.key = k := of_decide_eq_true key
    refine ⟨later.reverse, after.reverse, ?_, fun w' member => ?_⟩
    · rw [← List.reverse_reverse ws, reversed, ← key]
      simp
    · simpa using notKey w' (List.mem_reverse.mp member)
  · rintro ⟨pre, post, rfl, notKey⟩
    refine ⟨⟨k, v⟩, List.find?_eq_some_iff_append.mpr ⟨by simp, post.reverse, pre.reverse, by simp,
      fun w member => by simpa using notKey w (List.mem_reverse.mp member)⟩, rfl⟩

/-! ## Stores whose events report writes

A store steps on events of its own; each step acts on its map as the write the
event reports, if any.  The store then refines the stream of reported writes,
and the last write to a key is traced back to the event that reported it. -/

section Store

variable {σ ε : Type} (entries : σ → AList fun _ : κ => ν) (report : ε → Option (Write κ ν))
  (step : σ → ε → σ)

/-- Each step applies the write its event reports, and no other change to the map. -/
def Acts : Prop := ∀ s e, entries (step s e) = (report e).elim (entries s) (Write.apply (entries s))

variable {entries report step}

theorem entries_foldl (acts : Acts entries report step) (es : List ε) (s : σ) :
    entries (es.foldl step s) = (es.filterMap report).foldl Write.apply (entries s) := by
  -- induction on the events, the store before the rest of them generalized
  induction es generalizing s with
  | nil => rfl
  | cons e es ih =>
      rw [List.foldl_cons, ih, acts, List.filterMap_cons]
      cases report e <;> rfl

theorem lookup_entries_foldl (acts : Acts entries report step) (es : List ε) (s : σ) (k : κ) :
    (entries (es.foldl step s)).lookup k = (lastWrite (es.filterMap report) k).getD ((entries s).lookup k) := by
  rw [entries_foldl acts, lookup_foldl_apply]

/-- The event behind the last reported write to `k`: none of the events after it reports a
write to `k`. -/
theorem lastWrite_filterMap_eq_some {es : List ε} {v : Option ν}
    (last : lastWrite (es.filterMap report) k = some v) :
    ∃ pre e post, es = pre ++ e :: post ∧ report e = some ⟨k, v⟩ ∧
      ∀ e' ∈ post, ∀ w, report e' = some w → w.key ≠ k := by
  obtain ⟨pre, post, reported, notKey⟩ := lastWrite_eq_some_iff.mp last
  obtain ⟨before, rest, rfl, -, restReports⟩ := List.filterMap_eq_append_iff.mp reported
  obtain ⟨skipped, e, after, rfl, -, reports, afterReports⟩ := List.filterMap_eq_cons_iff.mp restReports
  refine ⟨before ++ skipped, e, after, by simp, reports, fun e' member w reported' => ?_⟩
  exact notKey w (afterReports ▸ List.mem_filterMap.mpr ⟨e', member, reported'⟩)

end Store

end LastWrite
