import AgentSandbox.Controller.PodMetadata

/-!
# What `updatePodMetadata` writes, and where it stops

Key by key, the labels and annotations `updatePodMetadata` leaves on a Pod
(`MetadataUpdated`), and the metadata of a Pod in sync with its Sandbox
(`Synced`), on which the update changes nothing and returns `false`.  Every
block raises the flag when it changes its map (`MapEdit.Flags`), so a `false`
flag means an unchanged Pod; the converse, and the fixed points of the update
and of the create path, need the recorded keys to be read back as written,
that is no comma in a non-reserved template key (`CommaFree`).
-/

set_option autoImplicit false

namespace AgentSandbox.Controller

open GoStrings

/-! ## One edit -/

namespace MapEdit

variable {e : MapEdit} {k k' v : String}

@[simp] theorem get_setIfDifferent : (e.setIfDifferent k v).map.get k = v := by
  by_cases equal : e.map.get k = v
  · rw [setIfDifferent_of_eq equal]
    exact equal
  · rw [setIfDifferent_of_ne equal]
    simp

theorem lookup_setIfDifferent_of_ne (other : k' ≠ k) :
    (e.setIfDifferent k v).map.lookup k' = e.map.lookup k' := by
  by_cases equal : e.map.get k = v
  · rw [setIfDifferent_of_eq equal]
  · rw [setIfDifferent_of_ne equal]
    simp [other]

theorem lookup_setIfDifferent_self (nonempty : v ≠ "") :
    (e.setIfDifferent k v).map.lookup k = some v := by
  have written := get_setIfDifferent (e := e) (k := k) (v := v)
  unfold StrMap.get at written
  cases found : (e.setIfDifferent k v).map.lookup k with
  | none => simp [found] at written; exact absurd written.symm (Ne.symm nonempty)
  | some w => simp [found] at written; rw [written]

@[simp] theorem lookup_deleteIfPresent_self : (e.deleteIfPresent k).map.lookup k = none := by
  unfold deleteIfPresent
  split
  · simp
  · rename_i absent
    simpa [StrMap.contains] using absent

theorem lookup_deleteIfPresent_of_ne (other : k' ≠ k) :
    (e.deleteIfPresent k).map.lookup k' = e.map.lookup k' := by
  unfold deleteIfPresent
  split
  · simp [other]
  · rfl

theorem deleteIfPresent_of_lookup_eq_none (absent : e.map.lookup k = none) : e.deleteIfPresent k = e := by
  simp [deleteIfPresent, StrMap.contains, absent]

@[simp] theorem lookup_delete_self : (e.delete k).map.lookup k = none := by
  simp [delete]

theorem lookup_delete_of_ne (other : k' ≠ k) : (e.delete k).map.lookup k' = e.map.lookup k' := by
  simp [delete, other]

/-- A block that changes its map raises the flag: when the flag is down
afterwards, the block left its input alone. -/
def Flags (f : MapEdit → MapEdit) : Prop := ∀ e, (f e).updated = false → f e = e

theorem Flags.apply {f : MapEdit → MapEdit} (flags : Flags f) {e : MapEdit} (quiet : (f e).updated = false) :
    f e = e :=
  flags e quiet

theorem flags_setIfDifferent (k v : String) : Flags (·.setIfDifferent k v) := by
  intro e quiet
  dsimp only at quiet ⊢
  by_cases equal : e.map.get k = v
  · exact setIfDifferent_of_eq equal
  · rw [setIfDifferent_of_ne equal] at quiet
    cases quiet

theorem flags_deleteIfPresent (k : String) : Flags (·.deleteIfPresent k) := by
  intro e quiet
  dsimp only [deleteIfPresent] at quiet ⊢
  split
  · rw [if_pos ‹_›] at quiet
    cases quiet
  · rfl

theorem flags_delete (k : String) : Flags (·.delete k) := by
  intro e quiet
  cases quiet

theorem flags_id : Flags id := fun _ _ => rfl

theorem Flags.comp {f g : MapEdit → MapEdit} (outer : Flags g) (inner : Flags f) : Flags (g ∘ f) := by
  intro e quiet
  have first : g (f e) = f e := outer (f e) quiet
  rw [Function.comp_apply, first] at quiet ⊢
  exact inner e quiet

theorem Flags.ite {p : Prop} [Decidable p] {f g : MapEdit → MapEdit} (yes : Flags f) (no : Flags g) :
    Flags (fun e => if p then f e else g e) := by
  by_cases holds : p
  · simpa [holds] using yes
  · simpa [holds] using no

theorem Flags.foldl {α : Type} {step : MapEdit → α → MapEdit} (each : ∀ x, Flags (step · x)) :
    ∀ l : List α, Flags (l.foldl step ·)
  | [] => flags_id
  | x :: rest => (Flags.foldl each rest).comp (each x)

end MapEdit

/-! ## The template loop -/

/-- The edit the template loop makes for one entry, without the key it records. -/
def templateEdit (isSystem : String → Bool) (e : MapEdit) (entry : String × String) : MapEdit :=
  if isSystem entry.1 then e else e.setIfDifferent entry.1 entry.2

/-- The non-reserved keys of a template, in the order the loop meets them. -/
def templateKeys (isSystem : String → Bool) (template : StrMap) : List String :=
  (template.pairs.map Prod.fst).filter fun k => !isSystem k

section Template

variable (isSystem : String → Bool)

theorem foldl_propagate : ∀ (pairs : List (String × String)) (pass : TemplatePass),
    pairs.foldl (fun pass entry => if isSystem entry.1 then pass else propagateEntry pass entry) pass =
      ⟨pairs.foldl (templateEdit isSystem) pass.edit,
        pass.managed ++ (pairs.map Prod.fst).filter fun k => !isSystem k⟩
  | [], pass => by simp
  | entry :: rest, pass => by
    rw [List.foldl_cons, List.foldl_cons]
    by_cases system : isSystem entry.1 = true
    · rw [if_pos system, foldl_propagate rest pass]
      simp [templateEdit, system]
    · rw [if_neg system, foldl_propagate rest (propagateEntry pass entry)]
      simp [templateEdit, system, propagateEntry]

theorem propagateTemplate_edit (template : StrMap) (e : MapEdit) :
    (propagateTemplate isSystem template e).edit = template.pairs.foldl (templateEdit isSystem) e := by
  rw [propagateTemplate, foldl_propagate]

theorem propagateTemplate_managed (template : StrMap) (e : MapEdit) :
    (propagateTemplate isSystem template e).managed = templateKeys isSystem template := by
  rw [propagateTemplate, foldl_propagate, templateKeys, List.nil_append]

variable {isSystem}

theorem flags_templateEdit (entry : String × String) : MapEdit.Flags (templateEdit isSystem · entry) :=
  MapEdit.Flags.ite MapEdit.flags_id (MapEdit.flags_setIfDifferent entry.1 entry.2)

theorem lookup_foldl_templateEdit_of_reserved {k : String} :
    ∀ (pairs : List (String × String)) (e : MapEdit), (∀ v, (k, v) ∈ pairs → isSystem k = true) →
      (pairs.foldl (templateEdit isSystem) e).map.lookup k = e.map.lookup k
  | [], _, _ => rfl
  | entry :: rest, e, reserved => by
    rw [List.foldl_cons, lookup_foldl_templateEdit_of_reserved rest _
      (fun v mem => reserved v (List.mem_cons_of_mem _ mem))]
    unfold templateEdit
    split
    · rfl
    · rename_i kept
      have other : k ≠ entry.1 := by
        rintro rfl
        exact kept (reserved entry.2 List.mem_cons_self)
      exact MapEdit.lookup_setIfDifferent_of_ne other

theorem get_foldl_templateEdit {k v : String} (kept : isSystem k = false) :
    ∀ (pairs : List (String × String)) (e : MapEdit), (pairs.map Prod.fst).Nodup → (k, v) ∈ pairs →
      (pairs.foldl (templateEdit isSystem) e).map.get k = v
  | [], _, _, mem => absurd mem List.not_mem_nil
  | entry :: rest, e, distinct, mem => by
    rw [List.map_cons, List.nodup_cons] at distinct
    rw [List.foldl_cons]
    rcases List.mem_cons.mp mem with rfl | later
    · -- the entry itself; no later entry has its key
      have untouched : (rest.foldl (templateEdit isSystem) (templateEdit isSystem e (k, v))).map.lookup k =
          (templateEdit isSystem e (k, v)).map.lookup k :=
        lookup_foldl_templateEdit_of_reserved rest _
          (fun w mem' => absurd (List.mem_map.mpr ⟨(k, w), mem', rfl⟩) distinct.1)
      rw [StrMap.get, untouched, ← StrMap.get]
      simp [templateEdit, kept]
    · exact get_foldl_templateEdit kept rest _ distinct.2 later

theorem foldl_templateEdit_of_synced :
    ∀ (pairs : List (String × String)) (e : MapEdit),
      (∀ k v, (k, v) ∈ pairs → isSystem k = false → e.map.get k = v) →
      pairs.foldl (templateEdit isSystem) e = e
  | [], _, _ => rfl
  | entry :: rest, e, synced => by
    have first : templateEdit isSystem e entry = e := by
      unfold templateEdit
      split
      · rfl
      · rename_i kept
        exact MapEdit.setIfDifferent_of_eq
          (synced entry.1 entry.2 List.mem_cons_self (Bool.eq_false_iff.mpr kept))
    rw [List.foldl_cons, first]
    exact foldl_templateEdit_of_synced rest e
      (fun k v mem kept => synced k v (List.mem_cons_of_mem _ mem) kept)

end Template

/-! ## The cleanup loop -/

/-- Whether the cleanup loop removes a recorded key. -/
def cleanupRemoves (isSystem keep : String → Bool) (template : StrMap) (k : String) : Bool :=
  k != "" && if isSystem k then !keep k else !template.contains k

section Cleanup

variable {isSystem keep : String → Bool} {template : StrMap}

theorem cleanupStep_of_not_removes {e : MapEdit} {k : String}
    (kept : cleanupRemoves isSystem keep template k = false) : cleanupStep isSystem keep template e k = e := by
  unfold cleanupRemoves at kept
  unfold cleanupStep
  by_cases empty : (k == "") = true
  · rw [if_pos empty]
  rw [if_neg empty]
  have set : (k != "") = true := by simpa using empty
  rw [set, Bool.true_and] at kept
  by_cases system : isSystem k = true
  · rw [if_pos system] at kept ⊢
    rw [if_pos (by simpa using kept)]
  · rw [if_neg system] at kept ⊢
    rw [if_pos (by simpa using kept)]

theorem lookup_cleanupStep_self {e : MapEdit} {k : String}
    (removed : cleanupRemoves isSystem keep template k = true) :
    (cleanupStep isSystem keep template e k).map.lookup k = none := by
  unfold cleanupRemoves at removed
  rw [Bool.and_eq_true] at removed
  obtain ⟨set, branch⟩ := removed
  unfold cleanupStep
  rw [if_neg (by simpa using set)]
  by_cases system : isSystem k = true
  · rw [if_pos system] at branch ⊢
    rw [if_neg (by simpa using branch)]
    exact MapEdit.lookup_deleteIfPresent_self
  · rw [if_neg system] at branch ⊢
    rw [if_neg (by simpa using branch)]
    exact MapEdit.lookup_delete_self

theorem lookup_cleanupStep_of_ne {e : MapEdit} {k k' : String} (other : k' ≠ k) :
    (cleanupStep isSystem keep template e k).map.lookup k' = e.map.lookup k' := by
  unfold cleanupStep
  split
  · rfl
  split
  · split
    · rfl
    · exact MapEdit.lookup_deleteIfPresent_of_ne other
  · split
    · rfl
    · exact MapEdit.lookup_delete_of_ne other

theorem flags_cleanupStep (k : String) : MapEdit.Flags (cleanupStep isSystem keep template · k) :=
  MapEdit.Flags.ite MapEdit.flags_id
    (MapEdit.Flags.ite (MapEdit.Flags.ite MapEdit.flags_id (MapEdit.flags_deleteIfPresent k))
      (MapEdit.Flags.ite MapEdit.flags_id (MapEdit.flags_delete k)))

theorem lookup_foldl_cleanupStep (k : String) :
    ∀ (listed : List String) (e : MapEdit),
      (listed.foldl (cleanupStep isSystem keep template) e).map.lookup k =
        if k ∈ listed ∧ cleanupRemoves isSystem keep template k = true then none else e.map.lookup k
  | [], e => by simp
  | k' :: rest, e => by
    rw [List.foldl_cons, lookup_foldl_cleanupStep k rest]
    by_cases same : k = k'
    · subst same
      by_cases removed : cleanupRemoves isSystem keep template k = true
      · simp [removed, lookup_cleanupStep_self removed]
      · have kept : cleanupRemoves isSystem keep template k = false := by simpa using removed
        simp [kept, cleanupStep_of_not_removes kept]
    · simp [same, lookup_cleanupStep_of_ne same]

theorem foldl_cleanupStep_of_kept :
    ∀ (listed : List String) (e : MapEdit), (∀ k ∈ listed, cleanupRemoves isSystem keep template k = false) →
      listed.foldl (cleanupStep isSystem keep template) e = e
  | [], _, _ => rfl
  | k :: rest, e, kept => by
    rw [List.foldl_cons, cleanupStep_of_not_removes (kept k List.mem_cons_self)]
    exact foldl_cleanupStep_of_kept rest e (fun k' mem => kept k' (List.mem_cons_of_mem _ mem))

theorem comma_eq : "," = String.singleton ',' := rfl

theorem split_empty : split "" "," = [""] := by
  rw [comma_eq, split_singleton]
  rfl

theorem lookup_cleanupPropagated (propagated : String) (e : MapEdit) (k : String) :
    (cleanupPropagated isSystem keep template propagated e).map.lookup k =
      if k ∈ split propagated "," ∧ cleanupRemoves isSystem keep template k = true then none
      else e.map.lookup k := by
  unfold cleanupPropagated
  split
  · exact lookup_foldl_cleanupStep k _ e
  · -- an empty record lists only the empty key, which is never removed
    rename_i empty
    have : propagated = "" := by simpa using empty
    subst this
    rw [split_empty]
    by_cases listed : k = ""
    · subst listed
      simp [cleanupRemoves]
    · simp [listed]

theorem flags_cleanupPropagated (propagated : String) :
    MapEdit.Flags (cleanupPropagated isSystem keep template propagated ·) :=
  MapEdit.Flags.ite (MapEdit.Flags.foldl flags_cleanupStep _) MapEdit.flags_id

theorem cleanupPropagated_of_kept {propagated : String} {e : MapEdit}
    (kept : ∀ k ∈ split propagated ",", cleanupRemoves isSystem keep template k = false) :
    cleanupPropagated isSystem keep template propagated e = e := by
  unfold cleanupPropagated
  split
  · exact foldl_cleanupStep_of_kept _ e kept
  · rfl

end Cleanup

/-! ## The labels the controller owns -/

/-- What `computeExtensionPodLabels` can hold: non-empty values at the two
extension keys. -/
def ExtensionLabels (m : StrMap) : Prop := ∀ k v, m.lookup k = some v → k ∈ extensionPodLabelKeys ∧ v ≠ ""

theorem extensionLabels_empty : ExtensionLabels ∅ := by
  intro k v found
  simp at found

theorem ExtensionLabels.set {m : StrMap} (owned : ExtensionLabels m) {k v : String}
    (key : k ∈ extensionPodLabelKeys) (set : v ≠ "") : ExtensionLabels (m.set k v) := by
  intro k' v' found
  by_cases same : k' = k
  · subst same
    simp only [StrMap.lookup_set_self, Option.some.injEq] at found
    exact ⟨key, found ▸ set⟩
  · rw [StrMap.lookup_set_of_ne _ _ same] at found
    exact owned k' v' found

theorem nonEmptyValue_ne {m : StrMap} {k v : String} (found : nonEmptyValue m k = some v) : v ≠ "" := by
  simp only [nonEmptyValue, Option.filter_eq_some_iff, bne_iff_ne] at found
  exact found.2

theorem extensionLabels_computeExtensionPodLabels (apiGroupOf : String → String) (sandbox : Sandbox) :
    ExtensionLabels (computeExtensionPodLabels apiGroupOf sandbox) := by
  unfold computeExtensionPodLabels
  -- the warm-pool label, then the template-ref hash, each only when the Sandbox has a value
  dsimp only
  repeat' split
  all_goals
    repeat (first
      | exact extensionLabels_empty
      | refine ExtensionLabels.set ?_ (by decide) (nonEmptyValue_ne (by assumption)))

section Extension

variable {ext : StrMap}

theorem lookup_reconcileExtensionLabel_self (owned : ExtensionLabels ext) (e : MapEdit) (key : String) :
    (reconcileExtensionLabel ext e key).map.lookup key = ext.lookup key := by
  unfold reconcileExtensionLabel
  split
  · rename_i v found
    rw [found]
    exact MapEdit.lookup_setIfDifferent_self (owned key v found).2
  · rename_i absent
    rw [absent]
    exact MapEdit.lookup_deleteIfPresent_self

theorem lookup_reconcileExtensionLabel_of_ne (e : MapEdit) {key k : String} (other : k ≠ key) :
    (reconcileExtensionLabel ext e key).map.lookup k = e.map.lookup k := by
  unfold reconcileExtensionLabel
  split
  · exact MapEdit.lookup_setIfDifferent_of_ne other
  · exact MapEdit.lookup_deleteIfPresent_of_ne other

theorem reconcileExtensionLabel_of_synced {e : MapEdit} {key : String}
    (synced : e.map.lookup key = ext.lookup key) : reconcileExtensionLabel ext e key = e := by
  unfold reconcileExtensionLabel
  split
  · rename_i v found
    exact MapEdit.setIfDifferent_of_eq (by rw [StrMap.get, synced, found]; rfl)
  · rename_i absent
    exact MapEdit.deleteIfPresent_of_lookup_eq_none (synced.trans absent)

theorem flags_reconcileExtensionLabel (key : String) : MapEdit.Flags (reconcileExtensionLabel ext · key) := by
  intro e quiet
  unfold reconcileExtensionLabel at quiet ⊢
  split
  · exact MapEdit.flags_setIfDifferent _ _ e (by simpa [‹ext.lookup key = _›] using quiet)
  · exact MapEdit.flags_deleteIfPresent _ e (by simpa [‹ext.lookup key = _›] using quiet)

theorem lookup_foldl_reconcileExtensionLabel (owned : ExtensionLabels ext) (k : String) :
    ∀ (keys : List String) (e : MapEdit),
      (keys.foldl (reconcileExtensionLabel ext) e).map.lookup k = if k ∈ keys then ext.lookup k else e.map.lookup k
  | [], e => by simp
  | key :: rest, e => by
    rw [List.foldl_cons, lookup_foldl_reconcileExtensionLabel owned k rest]
    by_cases same : k = key
    · subst same
      simp [lookup_reconcileExtensionLabel_self owned]
    · simp [same, lookup_reconcileExtensionLabel_of_ne e same]

theorem foldl_reconcileExtensionLabel_of_synced :
    ∀ (keys : List String) (e : MapEdit), (∀ k ∈ keys, e.map.lookup k = ext.lookup k) →
      keys.foldl (reconcileExtensionLabel ext) e = e
  | [], _, _ => rfl
  | key :: rest, e, synced => by
    rw [List.foldl_cons, reconcileExtensionLabel_of_synced (synced key List.mem_cons_self)]
    exact foldl_reconcileExtensionLabel_of_synced rest e (fun k mem => synced k (List.mem_cons_of_mem _ mem))

end Extension

theorem normalizeCreatedBy_ne_empty (createdBy : String) : NormalizeCreatedBy createdBy ≠ "" := by
  unfold NormalizeCreatedBy
  split <;> simp_all

/-- The created-by label the update leaves: the normalized value of the
Sandbox's label, or none when the Sandbox has no non-empty one. -/
def createdByOf (sandbox : Sandbox) : Option String :=
  (nonEmptyValue sandbox.labels CreatedByLabel).map NormalizeCreatedBy

theorem lookup_reconcileCreatedBy_self (sandbox : Sandbox) (e : MapEdit) :
    (reconcileCreatedBy (expectedCreatedBy sandbox) e).map.lookup CreatedByLabel = createdByOf sandbox := by
  unfold reconcileCreatedBy expectedCreatedBy createdByOf
  cases nonEmptyValue sandbox.labels CreatedByLabel with
  | none => simp
  | some v =>
    have set := normalizeCreatedBy_ne_empty v
    simp only [bne_iff_ne, ne_eq, set, not_false_eq_true, if_true, Option.map_some]
    exact MapEdit.lookup_setIfDifferent_self set

theorem lookup_reconcileCreatedBy_of_ne (expected : String) (e : MapEdit) {k : String} (other : k ≠ CreatedByLabel) :
    (reconcileCreatedBy expected e).map.lookup k = e.map.lookup k := by
  unfold reconcileCreatedBy
  split
  · exact MapEdit.lookup_setIfDifferent_of_ne other
  · exact MapEdit.lookup_deleteIfPresent_of_ne other

theorem reconcileCreatedBy_of_synced {sandbox : Sandbox} {e : MapEdit}
    (synced : e.map.lookup CreatedByLabel = createdByOf sandbox) :
    reconcileCreatedBy (expectedCreatedBy sandbox) e = e := by
  unfold reconcileCreatedBy expectedCreatedBy
  unfold createdByOf at synced
  cases value : nonEmptyValue sandbox.labels CreatedByLabel with
  | none =>
    rw [value] at synced
    simpa using MapEdit.deleteIfPresent_of_lookup_eq_none synced
  | some v =>
    rw [value] at synced
    simp only [bne_iff_ne, ne_eq, normalizeCreatedBy_ne_empty v, not_false_eq_true, if_true]
    exact MapEdit.setIfDifferent_of_eq (by simp [StrMap.get, synced])

theorem flags_reconcileCreatedBy (expected : String) : MapEdit.Flags (reconcileCreatedBy expected ·) :=
  MapEdit.Flags.ite (MapEdit.flags_setIfDifferent _ _) (MapEdit.flags_deleteIfPresent _)


/-! ## Pods in sync -/

theorem mem_templateKeys {isSystem : String → Bool} {template : StrMap} {k : String} :
    k ∈ templateKeys isSystem template ↔ isSystem k = false ∧ k ∈ template := by
  rw [templateKeys, StrMap.map_fst_pairs, StrMap.keys, List.mem_filter, AList.mem_keys, Bool.not_eq_true',
    and_comm]

theorem nodup_templateKeys (isSystem : String → Bool) (template : StrMap) :
    (templateKeys isSystem template).Nodup :=
  template.nodup_pairs_keys.filter _

/-- The keys a propagated-keys annotation lists: the non-empty parts between
its commas. -/
def Listed (record k : String) : Prop := k ≠ "" ∧ k ∈ split record ","

/-- No non-reserved template key holds the comma that separates the recorded
keys. -/
def CommaFree (sandbox : Sandbox) : Prop :=
  (∀ k ∈ templateKeys isSystemLabel sandbox.templateLabels, ',' ∉ k.toList) ∧
    ∀ k ∈ templateKeys isSystemAnnotation sandbox.templateAnnotations, ',' ∉ k.toList

instance (sandbox : Sandbox) : Decidable (CommaFree sandbox) :=
  inferInstanceAs (Decidable ((∀ k ∈ templateKeys isSystemLabel sandbox.templateLabels, ',' ∉ k.toList) ∧
    ∀ k ∈ templateKeys isSystemAnnotation sandbox.templateAnnotations, ',' ∉ k.toList))

section Recorded

variable {isSystem keep : String → Bool} {template : StrMap}

theorem cleanupRemoves_of_mem_templateKeys {k : String} (mem : k ∈ templateKeys isSystem template) :
    cleanupRemoves isSystem keep template k = false := by
  obtain ⟨kept, present⟩ := mem_templateKeys.mp mem
  have found : template.contains k = true := AList.lookup_isSome.mpr present
  simp [cleanupRemoves, kept, found]

theorem mem_split_recorded (fresh : ∀ k ∈ templateKeys isSystem template, ',' ∉ k.toList) {k : String}
    (listed : k ∈ split (join (sortStrings (templateKeys isSystem template)) ",") ",") :
    k = "" ∨ k ∈ templateKeys isSystem template := by
  rw [comma_eq, split_join (fun s mem => fresh s (mem_sortStrings.mp mem))] at listed
  split at listed
  · exact .inl (List.mem_singleton.mp listed)
  · exact .inr (mem_sortStrings.mp listed)

/-- The cleanup loop over the keys recorded from the same comma-free template
removes nothing. -/
theorem cleanupPropagated_recorded (fresh : ∀ k ∈ templateKeys isSystem template, ',' ∉ k.toList)
    (e : MapEdit) :
    cleanupPropagated isSystem keep template (join (sortStrings (templateKeys isSystem template)) ",") e = e := by
  apply cleanupPropagated_of_kept
  intro k listed
  rcases mem_split_recorded fresh listed with rfl | mem
  · rfl
  · exact cleanupRemoves_of_mem_templateKeys mem

end Recorded

/-- The metadata of a Pod in sync with its Sandbox: what the update writes,
read back key by key. -/
structure Synced (apiGroupOf : String → String) (sandbox : Sandbox) (nameHash : String) (pod : PodMeta) :
    Prop where
  nameHashLabel : pod.labels.get sandboxLabel = nameHash
  templateLabels : ∀ k v, isSystemLabel k = false → sandbox.templateLabels.lookup k = some v →
    pod.labels.get k = v
  extensionLabels : ∀ k ∈ extensionPodLabelKeys,
    pod.labels.lookup k = (computeExtensionPodLabels apiGroupOf sandbox).lookup k
  createdBy : pod.labels.lookup CreatedByLabel = createdByOf sandbox
  templateAnnotations : ∀ k v, isSystemAnnotation k = false → sandbox.templateAnnotations.lookup k = some v →
    pod.annotations.get k = v
  propagatedLabels : pod.annotations.get SandboxPropagatedLabelsAnnotation =
    join (sortStrings (templateKeys isSystemLabel sandbox.templateLabels)) ","
  propagatedAnnotations : pod.annotations.get SandboxPropagatedAnnotationsAnnotation =
    join (sortStrings (templateKeys isSystemAnnotation sandbox.templateAnnotations)) ","

theorem foldl_templateEdit_of_get {isSystem : String → Bool} {template : StrMap} {e : MapEdit}
    (synced : ∀ k v, isSystem k = false → template.lookup k = some v → e.map.get k = v) :
    template.pairs.foldl (templateEdit isSystem) e = e :=
  foldl_templateEdit_of_synced _ e fun k v mem kept => synced k v kept (StrMap.mem_pairs.mp mem)

/-- On a Pod in sync with its Sandbox the update changes nothing and reports
no change. -/
theorem updatePodMetadata_of_synced {apiGroupOf : String → String} {sandbox : Sandbox} {nameHash : String}
    {pod : PodMeta} (commaFree : CommaFree sandbox) (synced : Synced apiGroupOf sandbox nameHash pod) :
    updatePodMetadata apiGroupOf pod sandbox nameHash = (pod, false) := by
  simp only [updatePodMetadata]
  -- the label blocks, in the order of the source
  rw [MapEdit.setIfDifferent_of_eq synced.nameHashLabel, propagateTemplate_edit,
    foldl_templateEdit_of_get synced.templateLabels, synced.propagatedLabels,
    cleanupPropagated_recorded commaFree.1, foldl_reconcileExtensionLabel_of_synced _ _ synced.extensionLabels,
    reconcileCreatedBy_of_synced synced.createdBy]
  -- the annotation blocks
  rw [propagateTemplate_edit, foldl_templateEdit_of_get synced.templateAnnotations]
  simp only [propagateTemplate_managed]
  rw [synced.propagatedAnnotations, cleanupPropagated_recorded commaFree.2,
    MapEdit.setIfDifferent_of_eq (e := ⟨pod.annotations, false⟩) synced.propagatedLabels,
    MapEdit.setIfDifferent_of_eq (e := ⟨pod.annotations, false⟩) synced.propagatedAnnotations]


/-! ## The two halves of the update -/

/-- The label blocks of `updatePodMetadata` as one edit; `record` is the Pod's
propagated-labels annotation. -/
def labelEdits (apiGroupOf : String → String) (sandbox : Sandbox) (nameHash record : String) (e : MapEdit) :
    MapEdit :=
  let labels := (propagateTemplate isSystemLabel sandbox.templateLabels (e.setIfDifferent sandboxLabel nameHash)).edit
  let labels := cleanupPropagated isSystemLabel (· == sandboxLabel) sandbox.templateLabels record labels
  let labels := extensionPodLabelKeys.foldl (reconcileExtensionLabel (computeExtensionPodLabels apiGroupOf sandbox)) labels
  reconcileCreatedBy (expectedCreatedBy sandbox) labels

/-- The annotation blocks of `updatePodMetadata` as one edit. -/
def annotationEdits (sandbox : Sandbox) (e : MapEdit) : MapEdit :=
  let annotations := (propagateTemplate isSystemAnnotation sandbox.templateAnnotations e).edit
  let annotations := cleanupPropagated isSystemAnnotation isControllerManagedPodAnnotation
    sandbox.templateAnnotations (annotations.map.get SandboxPropagatedAnnotationsAnnotation) annotations
  let annotations := annotations.setIfDifferent SandboxPropagatedLabelsAnnotation
    (join (sortStrings (templateKeys isSystemLabel sandbox.templateLabels)) ",")
  annotations.setIfDifferent SandboxPropagatedAnnotationsAnnotation
    (join (sortStrings (templateKeys isSystemAnnotation sandbox.templateAnnotations)) ",")

theorem updatePodMetadata_eq (apiGroupOf : String → String) (pod : PodMeta) (sandbox : Sandbox)
    (nameHash : String) :
    updatePodMetadata apiGroupOf pod sandbox nameHash =
      let labels := labelEdits apiGroupOf sandbox nameHash
        (pod.annotations.get SandboxPropagatedLabelsAnnotation) ⟨pod.labels, false⟩
      let annotations := annotationEdits sandbox ⟨pod.annotations, labels.updated⟩
      (⟨labels.map, annotations.map⟩, annotations.updated) := by
  simp only [updatePodMetadata, labelEdits, annotationEdits, propagateTemplate_managed]

theorem flags_labelEdits (apiGroupOf : String → String) (sandbox : Sandbox) (nameHash record : String) :
    MapEdit.Flags (labelEdits apiGroupOf sandbox nameHash record) := by
  intro e quiet
  unfold labelEdits at quiet ⊢
  simp only [propagateTemplate_edit] at quiet ⊢
  -- peel the blocks from the last back to the first
  have createdBy := (flags_reconcileCreatedBy _).apply quiet
  rw [createdBy] at quiet ⊢
  have extension := (MapEdit.Flags.foldl flags_reconcileExtensionLabel _).apply quiet
  rw [extension] at quiet ⊢
  have cleaned := (flags_cleanupPropagated _).apply quiet
  rw [cleaned] at quiet ⊢
  have template := (MapEdit.Flags.foldl flags_templateEdit _).apply quiet
  rw [template] at quiet ⊢
  exact (MapEdit.flags_setIfDifferent _ _).apply quiet

theorem flags_annotationEdits (sandbox : Sandbox) : MapEdit.Flags (annotationEdits sandbox) := by
  intro e quiet
  unfold annotationEdits at quiet ⊢
  simp only [propagateTemplate_edit] at quiet ⊢
  have recordAnnotations := (MapEdit.flags_setIfDifferent _ _).apply quiet
  rw [recordAnnotations] at quiet ⊢
  have recordLabels := (MapEdit.flags_setIfDifferent _ _).apply quiet
  rw [recordLabels] at quiet ⊢
  have cleaned := (flags_cleanupPropagated _).apply quiet
  rw [cleaned] at quiet ⊢
  exact (MapEdit.Flags.foldl flags_templateEdit _).apply quiet

/-- Every block that changes the Pod raises the flag: an update that reports no
change left the Pod as it was. -/
theorem updatePodMetadata_of_not_updated {apiGroupOf : String → String} {pod : PodMeta} {sandbox : Sandbox}
    {nameHash : String} (quiet : (updatePodMetadata apiGroupOf pod sandbox nameHash).2 = false) :
    (updatePodMetadata apiGroupOf pod sandbox nameHash).1 = pod := by
  rw [updatePodMetadata_eq] at quiet ⊢
  dsimp only at quiet ⊢
  have annotations := flags_annotationEdits sandbox _ quiet
  rw [annotations] at quiet ⊢
  have labels := flags_labelEdits apiGroupOf sandbox nameHash _ _ quiet
  rw [labels]


/-! ## What the label blocks write -/

theorem isSystemLabel_sandboxLabel : isSystemLabel sandboxLabel = true := by decide

theorem isSystemLabel_createdBy : isSystemLabel CreatedByLabel = true := by decide

theorem isSystemLabel_of_mem_extensionPodLabelKeys {k : String} (mem : k ∈ extensionPodLabelKeys) :
    isSystemLabel k = true := by
  simp only [extensionPodLabelKeys, List.mem_cons, List.not_mem_nil, or_false] at mem
  rcases mem with rfl | rfl <;> decide

theorem cleanupRemoves_label_iff {template : StrMap} {k : String} :
    cleanupRemoves isSystemLabel (· == sandboxLabel) template k = true ↔
      k ≠ "" ∧ k ≠ sandboxLabel ∧ ¬(isSystemLabel k = false ∧ k ∈ template) := by
  have found : template.contains k = true ↔ k ∈ template := AList.lookup_isSome
  unfold cleanupRemoves
  by_cases system : isSystemLabel k = true
  · simp [system]
  · have other : k ≠ sandboxLabel := by
      rintro rfl
      exact system isSystemLabel_sandboxLabel
    simp [system, other, ← found]

section Labels

variable (apiGroupOf : String → String) (sandbox : Sandbox) (nameHash record : String) (e : MapEdit)

/-- Outside the labels the controller owns, the label blocks are the template
loop and the cleanup loop. -/
theorem lookup_labelEdits_of_not_owned {k : String} (notExtension : k ∉ extensionPodLabelKeys)
    (notCreatedBy : k ≠ CreatedByLabel) :
    (labelEdits apiGroupOf sandbox nameHash record e).map.lookup k =
      if k ∈ split record "," ∧ cleanupRemoves isSystemLabel (· == sandboxLabel) sandbox.templateLabels k = true
      then none
      else (sandbox.templateLabels.pairs.foldl (templateEdit isSystemLabel)
        (e.setIfDifferent sandboxLabel nameHash)).map.lookup k := by
  unfold labelEdits
  simp only [propagateTemplate_edit]
  rw [lookup_reconcileCreatedBy_of_ne _ _ notCreatedBy,
    lookup_foldl_reconcileExtensionLabel (extensionLabels_computeExtensionPodLabels apiGroupOf sandbox),
    if_neg notExtension, lookup_cleanupPropagated]

theorem get_labelEdits_sandboxLabel :
    (labelEdits apiGroupOf sandbox nameHash record e).map.get sandboxLabel = nameHash := by
  have kept : ¬(sandboxLabel ∈ split record "," ∧
      cleanupRemoves isSystemLabel (· == sandboxLabel) sandbox.templateLabels sandboxLabel = true) := by
    rw [cleanupRemoves_label_iff]
    simp
  rw [StrMap.get, lookup_labelEdits_of_not_owned _ _ _ _ _ (by decide) (by decide), if_neg kept,
    lookup_foldl_templateEdit_of_reserved _ _ fun _ _ => isSystemLabel_sandboxLabel, ← StrMap.get,
    MapEdit.get_setIfDifferent]

theorem get_labelEdits_template {k v : String} (kept : isSystemLabel k = false)
    (found : sandbox.templateLabels.lookup k = some v) :
    (labelEdits apiGroupOf sandbox nameHash record e).map.get k = v := by
  have notExtension : k ∉ extensionPodLabelKeys := fun mem => by
    simp [isSystemLabel_of_mem_extensionPodLabelKeys mem] at kept
  have notCreatedBy : k ≠ CreatedByLabel := by
    rintro rfl
    simp [isSystemLabel_createdBy] at kept
  have present : k ∈ sandbox.templateLabels := AList.lookup_isSome.mp (by simp [found])
  have notRemoved : ¬(k ∈ split record "," ∧
      cleanupRemoves isSystemLabel (· == sandboxLabel) sandbox.templateLabels k = true) := by
    rw [cleanupRemoves_label_iff]
    simp [kept, present]
  rw [StrMap.get, lookup_labelEdits_of_not_owned _ _ _ _ _ notExtension notCreatedBy, if_neg notRemoved,
    ← StrMap.get]
  exact get_foldl_templateEdit kept _ _ sandbox.templateLabels.nodup_pairs_keys (StrMap.mem_pairs.mpr found)

theorem lookup_labelEdits_removed {k : String} (listed : Listed record k) (notName : k ≠ sandboxLabel)
    (notTemplate : ¬(isSystemLabel k = false ∧ k ∈ sandbox.templateLabels))
    (notExtension : k ∉ extensionPodLabelKeys) (notCreatedBy : k ≠ CreatedByLabel) :
    (labelEdits apiGroupOf sandbox nameHash record e).map.lookup k = none := by
  have removed : k ∈ split record "," ∧
      cleanupRemoves isSystemLabel (· == sandboxLabel) sandbox.templateLabels k = true :=
    ⟨listed.2, cleanupRemoves_label_iff.mpr ⟨listed.1, notName, notTemplate⟩⟩
  rw [lookup_labelEdits_of_not_owned _ _ _ _ _ notExtension notCreatedBy, if_pos removed]

theorem lookup_labelEdits_extension {k : String} (mem : k ∈ extensionPodLabelKeys) :
    (labelEdits apiGroupOf sandbox nameHash record e).map.lookup k =
      (computeExtensionPodLabels apiGroupOf sandbox).lookup k := by
  have notCreatedBy : k ≠ CreatedByLabel := by
    rintro rfl
    exact absurd mem (by decide)
  unfold labelEdits
  rw [lookup_reconcileCreatedBy_of_ne _ _ notCreatedBy,
    lookup_foldl_reconcileExtensionLabel (extensionLabels_computeExtensionPodLabels apiGroupOf sandbox),
    if_pos mem]

theorem lookup_labelEdits_createdBy :
    (labelEdits apiGroupOf sandbox nameHash record e).map.lookup CreatedByLabel = createdByOf sandbox :=
  lookup_reconcileCreatedBy_self sandbox _

theorem lookup_labelEdits_other {k : String} (notListed : ¬Listed record k) (notName : k ≠ sandboxLabel)
    (notTemplate : ¬(isSystemLabel k = false ∧ k ∈ sandbox.templateLabels))
    (notExtension : k ∉ extensionPodLabelKeys) (notCreatedBy : k ≠ CreatedByLabel) :
    (labelEdits apiGroupOf sandbox nameHash record e).map.lookup k = e.map.lookup k := by
  have notRemoved : ¬(k ∈ split record "," ∧
      cleanupRemoves isSystemLabel (· == sandboxLabel) sandbox.templateLabels k = true) := by
    rintro ⟨mem, removed⟩
    exact notListed ⟨(cleanupRemoves_label_iff.mp removed).1, mem⟩
  have reserved : ∀ v, (k, v) ∈ sandbox.templateLabels.pairs → isSystemLabel k = true := by
    intro v mem
    by_contra kept
    exact notTemplate ⟨by simpa using kept, AList.lookup_isSome.mp (by simp [StrMap.mem_pairs.mp mem])⟩
  rw [lookup_labelEdits_of_not_owned _ _ _ _ _ notExtension notCreatedBy, if_neg notRemoved,
    lookup_foldl_templateEdit_of_reserved _ _ reserved, MapEdit.lookup_setIfDifferent_of_ne notName]

end Labels


/-! ## What the annotation blocks write -/

theorem isControllerManagedPodAnnotation_iff {k : String} :
    isControllerManagedPodAnnotation k = true ↔
      k = SandboxPropagatedLabelsAnnotation ∨ k = SandboxPropagatedAnnotationsAnnotation := by
  simp [ isControllerManagedPodAnnotation]

theorem isSystemAnnotation_of_controllerManaged {k : String}
    (managed : isControllerManagedPodAnnotation k = true) : isSystemAnnotation k = true := by
  rcases isControllerManagedPodAnnotation_iff.mp managed with rfl | rfl <;> decide

theorem cleanupRemoves_annotation_iff {template : StrMap} {k : String} :
    cleanupRemoves isSystemAnnotation isControllerManagedPodAnnotation template k = true ↔
      k ≠ "" ∧ isControllerManagedPodAnnotation k = false ∧ ¬( isSystemAnnotation k = false ∧ k ∈ template) := by
  have found : template.contains k = true ↔ k ∈ template := AList.lookup_isSome
  unfold cleanupRemoves
  by_cases system : isSystemAnnotation k = true
  · simp [system]
  · have unmanaged : isControllerManagedPodAnnotation k = false := by
      by_contra managed
      exact system (isSystemAnnotation_of_controllerManaged (by simpa using managed))
    simp [system, unmanaged, ← found]

section Annotations

variable (sandbox : Sandbox) (e : MapEdit)

/-- Outside the two recorded-keys annotations, the annotation blocks are the
template loop and the cleanup loop; the cleanup reads the record the Pod had. -/
theorem lookup_annotationEdits_of_not_managed {k : String}
    (unmanaged : isControllerManagedPodAnnotation k = false) :
    (annotationEdits sandbox e).map.lookup k =
      if k ∈ split (e.map.get SandboxPropagatedAnnotationsAnnotation) "," ∧
          cleanupRemoves isSystemAnnotation isControllerManagedPodAnnotation sandbox.templateAnnotations k = true
      then none
      else (sandbox.templateAnnotations.pairs.foldl (templateEdit isSystemAnnotation) e).map.lookup k := by
  have other : k ≠ SandboxPropagatedLabelsAnnotation ∧ k ≠ SandboxPropagatedAnnotationsAnnotation := by
    rw [← not_or, ← isControllerManagedPodAnnotation_iff]
    simp [unmanaged]
  have record : (sandbox.templateAnnotations.pairs.foldl (templateEdit isSystemAnnotation) e).map.get
      SandboxPropagatedAnnotationsAnnotation = e.map.get SandboxPropagatedAnnotationsAnnotation := by
    rw [StrMap.get, lookup_foldl_templateEdit_of_reserved _ _ fun _ _ => by decide, ← StrMap.get]
  unfold annotationEdits
  simp only [propagateTemplate_edit]
  rw [MapEdit.lookup_setIfDifferent_of_ne other.2, MapEdit.lookup_setIfDifferent_of_ne other.1,
    lookup_cleanupPropagated, record]

theorem get_annotationEdits_template {k v : String} (kept : isSystemAnnotation k = false)
    (found : sandbox.templateAnnotations.lookup k = some v) :
    (annotationEdits sandbox e).map.get k = v := by
  have unmanaged : isControllerManagedPodAnnotation k = false := by
    by_contra managed
    simp [isSystemAnnotation_of_controllerManaged (by simpa using managed)] at kept
  have present : k ∈ sandbox.templateAnnotations := AList.lookup_isSome.mp (by simp [found])
  have notRemoved : ¬(k ∈ split (e.map.get SandboxPropagatedAnnotationsAnnotation) "," ∧
      cleanupRemoves isSystemAnnotation isControllerManagedPodAnnotation sandbox.templateAnnotations k = true) := by
    rw [cleanupRemoves_annotation_iff]
    simp [kept, present]
  rw [StrMap.get, lookup_annotationEdits_of_not_managed _ _ unmanaged, if_neg notRemoved, ← StrMap.get]
  exact get_foldl_templateEdit kept _ _ sandbox.templateAnnotations.nodup_pairs_keys
    (StrMap.mem_pairs.mpr found)

theorem lookup_annotationEdits_removed {k : String}
    (listed : Listed (e.map.get SandboxPropagatedAnnotationsAnnotation) k)
    (notTemplate : ¬( isSystemAnnotation k = false ∧ k ∈ sandbox.templateAnnotations))
    (unmanaged : isControllerManagedPodAnnotation k = false) :
    (annotationEdits sandbox e).map.lookup k = none := by
  have removed := cleanupRemoves_annotation_iff.mpr ⟨listed.1, unmanaged, notTemplate⟩
  rw [lookup_annotationEdits_of_not_managed _ _ unmanaged, if_pos ⟨listed.2, removed⟩]

theorem lookup_annotationEdits_other {k : String}
    (notListed : ¬Listed (e.map.get SandboxPropagatedAnnotationsAnnotation) k)
    (notTemplate : ¬( isSystemAnnotation k = false ∧ k ∈ sandbox.templateAnnotations))
    (unmanaged : isControllerManagedPodAnnotation k = false) :
    (annotationEdits sandbox e).map.lookup k = e.map.lookup k := by
  have notRemoved : ¬(k ∈ split (e.map.get SandboxPropagatedAnnotationsAnnotation) "," ∧
      cleanupRemoves isSystemAnnotation isControllerManagedPodAnnotation sandbox.templateAnnotations k = true) := by
    rintro ⟨mem, removed⟩
    exact notListed ⟨(cleanupRemoves_annotation_iff.mp removed).1, mem⟩
  have reserved : ∀ v, (k, v) ∈ sandbox.templateAnnotations.pairs → isSystemAnnotation k = true := by
    intro v mem
    by_contra kept
    exact notTemplate ⟨by simpa using kept, AList.lookup_isSome.mp (by simp [StrMap.mem_pairs.mp mem])⟩
  rw [lookup_annotationEdits_of_not_managed _ _ unmanaged, if_neg notRemoved,
    lookup_foldl_templateEdit_of_reserved _ _ reserved]

theorem get_annotationEdits_propagatedLabels :
    (annotationEdits sandbox e).map.get SandboxPropagatedLabelsAnnotation =
      join (sortStrings (templateKeys isSystemLabel sandbox.templateLabels)) "," := by
  unfold annotationEdits
  rw [StrMap.get, MapEdit.lookup_setIfDifferent_of_ne (by decide), ← StrMap.get, MapEdit.get_setIfDifferent]

theorem get_annotationEdits_propagatedAnnotations :
    (annotationEdits sandbox e).map.get SandboxPropagatedAnnotationsAnnotation =
      join (sortStrings (templateKeys isSystemAnnotation sandbox.templateAnnotations)) "," := by
  unfold annotationEdits
  exact MapEdit.get_setIfDifferent

end Annotations


/-! ## The update, rule by rule -/

/-- What `updatePodMetadata` leaves on a Pod, rule by rule: `pod` is the Pod
before the call and `pod'` after it.  A recorded key that some other rule
writes (the name hash, a template key, an extension label, created-by) follows
that rule. -/
structure MetadataUpdated (apiGroupOf : String → String) (sandbox : Sandbox) (nameHash : String)
    (pod pod' : PodMeta) : Prop where
  nameHashLabel : pod'.labels.get sandboxLabel = nameHash
  templateLabels : ∀ k v, isSystemLabel k = false → sandbox.templateLabels.lookup k = some v →
    pod'.labels.get k = v
  removedLabels : ∀ k, Listed (pod.annotations.get SandboxPropagatedLabelsAnnotation) k →
    k ≠ sandboxLabel → ¬(isSystemLabel k = false ∧ k ∈ sandbox.templateLabels) →
    k ∉ extensionPodLabelKeys → k ≠ CreatedByLabel → pod'.labels.lookup k = none
  extensionLabels : ∀ k ∈ extensionPodLabelKeys,
    pod'.labels.lookup k = (computeExtensionPodLabels apiGroupOf sandbox).lookup k
  createdBy : pod'.labels.lookup CreatedByLabel = createdByOf sandbox
  otherLabels : ∀ k, ¬Listed (pod.annotations.get SandboxPropagatedLabelsAnnotation) k →
    k ≠ sandboxLabel → ¬(isSystemLabel k = false ∧ k ∈ sandbox.templateLabels) →
    k ∉ extensionPodLabelKeys → k ≠ CreatedByLabel → pod'.labels.lookup k = pod.labels.lookup k
  templateAnnotations : ∀ k v, isSystemAnnotation k = false → sandbox.templateAnnotations.lookup k = some v →
    pod'.annotations.get k = v
  removedAnnotations : ∀ k, Listed (pod.annotations.get SandboxPropagatedAnnotationsAnnotation) k →
    ¬( isSystemAnnotation k = false ∧ k ∈ sandbox.templateAnnotations) →
    isControllerManagedPodAnnotation k = false → pod'.annotations.lookup k = none
  otherAnnotations : ∀ k, ¬Listed (pod.annotations.get SandboxPropagatedAnnotationsAnnotation) k →
    ¬( isSystemAnnotation k = false ∧ k ∈ sandbox.templateAnnotations) →
    isControllerManagedPodAnnotation k = false → pod'.annotations.lookup k = pod.annotations.lookup k
  propagatedLabels : ∃ keys : List String, keys.Pairwise (· < ·) ∧
    (∀ k, k ∈ keys ↔ isSystemLabel k = false ∧ k ∈ sandbox.templateLabels) ∧
    pod'.annotations.get SandboxPropagatedLabelsAnnotation = join keys ","
  propagatedAnnotations : ∃ keys : List String, keys.Pairwise (· < ·) ∧
    (∀ k, k ∈ keys ↔ isSystemAnnotation k = false ∧ k ∈ sandbox.templateAnnotations) ∧
    pod'.annotations.get SandboxPropagatedAnnotationsAnnotation = join keys ","

theorem sorted_templateKeys (isSystem : String → Bool) (template : StrMap) :
    (sortStrings (templateKeys isSystem template)).Pairwise (· < ·) ∧
      ∀ k, k ∈ sortStrings (templateKeys isSystem template) ↔ isSystem k = false ∧ k ∈ template :=
  ⟨sortStrings_lt (nodup_templateKeys isSystem template), fun _ => mem_sortStrings.trans mem_templateKeys⟩

theorem metadataUpdated_updatePodMetadata (apiGroupOf : String → String) (pod : PodMeta) (sandbox : Sandbox)
    (nameHash : String) :
    MetadataUpdated apiGroupOf sandbox nameHash pod (updatePodMetadata apiGroupOf pod sandbox nameHash).1 := by
  rw [updatePodMetadata_eq]
  refine ⟨?hashLabel, ?templateLabels, ?removedLabels, ?extensionLabels, ?createdBy, ?otherLabels,
    ?templateAnnotations, ?removedAnnotations, ?otherAnnotations, ?propagatedLabels, ?propagatedAnnotations⟩
  -- read each field of the new Pod first: matched against a lemma, the projection of the
  -- record would make the unifier unfold the edits themselves
  all_goals dsimp only
  case hashLabel => exact get_labelEdits_sandboxLabel ..
  case templateLabels => exact fun _ _ kept found => get_labelEdits_template _ _ _ _ _ kept found
  case removedLabels =>
    exact fun _ listed notName notTemplate notExtension notCreatedBy =>
      lookup_labelEdits_removed _ _ _ _ _ listed notName notTemplate notExtension notCreatedBy
  case extensionLabels => exact fun _ mem => lookup_labelEdits_extension _ _ _ _ _ mem
  case createdBy => exact lookup_labelEdits_createdBy ..
  case otherLabels =>
    exact fun _ notListed notName notTemplate notExtension notCreatedBy =>
      lookup_labelEdits_other _ _ _ _ _ notListed notName notTemplate notExtension notCreatedBy
  case templateAnnotations => exact fun _ _ kept found => get_annotationEdits_template _ _ kept found
  case removedAnnotations =>
    exact fun _ listed notTemplate unmanaged => lookup_annotationEdits_removed _ _ listed notTemplate unmanaged
  case otherAnnotations =>
    exact fun _ notListed notTemplate unmanaged => lookup_annotationEdits_other _ _ notListed notTemplate unmanaged
  case propagatedLabels =>
    exact ⟨sortStrings (templateKeys isSystemLabel sandbox.templateLabels),
      sorted_templateKeys isSystemLabel sandbox.templateLabels |>.1,
      sorted_templateKeys isSystemLabel sandbox.templateLabels |>.2, get_annotationEdits_propagatedLabels ..⟩
  case propagatedAnnotations =>
    exact ⟨sortStrings (templateKeys isSystemAnnotation sandbox.templateAnnotations),
      sorted_templateKeys isSystemAnnotation sandbox.templateAnnotations |>.1,
      sorted_templateKeys isSystemAnnotation sandbox.templateAnnotations |>.2,
      get_annotationEdits_propagatedAnnotations ..⟩

theorem synced_updatePodMetadata (apiGroupOf : String → String) (pod : PodMeta) (sandbox : Sandbox)
    (nameHash : String) :
    Synced apiGroupOf sandbox nameHash (updatePodMetadata apiGroupOf pod sandbox nameHash).1 := by
  obtain ⟨nameHashLabel, templateLabels, -, extensionLabels, createdBy, -, templateAnnotations, -, -, -, -⟩ :=
    metadataUpdated_updatePodMetadata apiGroupOf pod sandbox nameHash
  rw [updatePodMetadata_eq] at nameHashLabel templateLabels extensionLabels createdBy templateAnnotations ⊢
  -- as above, the fields of the new Pod are read on both sides before they are matched
  dsimp only at nameHashLabel templateLabels extensionLabels createdBy templateAnnotations
  refine ⟨?hashLabel, ?templateLabels, ?extensionLabels, ?createdBy, ?templateAnnotations, ?propagatedLabels,
    ?propagatedAnnotations⟩
  all_goals dsimp only
  exacts [nameHashLabel, templateLabels, extensionLabels, createdBy, templateAnnotations,
    get_annotationEdits_propagatedLabels .., get_annotationEdits_propagatedAnnotations ..]

theorem Synced.of_equiv {apiGroupOf : String → String} {sandbox : Sandbox} {nameHash : String}
    {pod pod' : PodMeta} (synced : Synced apiGroupOf sandbox nameHash pod')
    (labels : pod'.labels.Equiv pod.labels) (annotations : pod'.annotations.Equiv pod.annotations) :
    Synced apiGroupOf sandbox nameHash pod where
  nameHashLabel := (labels.get _).symm.trans synced.nameHashLabel
  templateLabels k v kept found := (labels.get k).symm.trans (synced.templateLabels k v kept found)
  extensionLabels k mem := (labels k).symm.trans (synced.extensionLabels k mem)
  createdBy := (labels _).symm.trans synced.createdBy
  templateAnnotations k v kept found :=
    (annotations.get k).symm.trans (synced.templateAnnotations k v kept found)
  propagatedLabels := (annotations.get _).symm.trans synced.propagatedLabels
  propagatedAnnotations := (annotations.get _).symm.trans synced.propagatedAnnotations

/-- With comma-free template keys the flag is exact: it is raised exactly when
the labels or the annotations change. -/
theorem updated_iff_changed {apiGroupOf : String → String} {pod : PodMeta} {sandbox : Sandbox}
    {nameHash : String} (commaFree : CommaFree sandbox) :
    (updatePodMetadata apiGroupOf pod sandbox nameHash).2 = true ↔
      ¬((updatePodMetadata apiGroupOf pod sandbox nameHash).1.labels.Equiv pod.labels ∧
        (updatePodMetadata apiGroupOf pod sandbox nameHash).1.annotations.Equiv pod.annotations) := by
  constructor
  · -- an unchanged Pod was already in sync, and the update of a Pod in sync reports nothing
    rintro updated ⟨labels, annotations⟩
    have synced := (synced_updatePodMetadata apiGroupOf pod sandbox nameHash).of_equiv labels annotations
    rw [updatePodMetadata_of_synced commaFree synced] at updated
    cases updated
  · intro changed
    by_contra quiet
    have unchanged := updatePodMetadata_of_not_updated (by simpa using quiet)
    rw [unchanged] at changed
    exact changed ⟨StrMap.equivalence.refl _, StrMap.equivalence.refl _⟩


/-! ## The create path -/

section Copy

variable (isSystem : String → Bool)

theorem foldl_copy : ∀ (pairs : List (String × String)) (acc : StrMap × List String),
    pairs.foldl (fun acc entry => if isSystem entry.1 then acc else copyEntry acc entry) acc =
      (pairs.foldl (fun m entry => if isSystem entry.1 then m else m.set entry.1 entry.2) acc.1,
        acc.2 ++ (pairs.map Prod.fst).filter fun k => !isSystem k)
  | [], acc => by simp
  | entry :: rest, acc => by
    rw [List.foldl_cons, List.foldl_cons]
    by_cases system : isSystem entry.1 = true
    · rw [if_pos system, foldl_copy rest acc]
      simp [system]
    · rw [if_neg system, foldl_copy rest (copyEntry acc entry)]
      simp [system, copyEntry]

theorem copyTemplate_snd (template : StrMap) : (copyTemplate isSystem template).2 = templateKeys isSystem template := by
  rw [copyTemplate, foldl_copy, templateKeys, List.nil_append]

variable {isSystem}

theorem lookup_foldl_copy_of_reserved {k : String} :
    ∀ (pairs : List (String × String)) (m : StrMap), (∀ v, (k, v) ∈ pairs → isSystem k = true) →
      (pairs.foldl (fun m entry => if isSystem entry.1 then m else m.set entry.1 entry.2) m).lookup k = m.lookup k
  | [], _, _ => rfl
  | entry :: rest, m, reserved => by
    rw [List.foldl_cons, lookup_foldl_copy_of_reserved rest _
      (fun v mem => reserved v (List.mem_cons_of_mem _ mem))]
    split
    · rfl
    · rename_i kept
      have other : k ≠ entry.1 := by
        rintro rfl
        exact kept (reserved entry.2 List.mem_cons_self)
      exact StrMap.lookup_set_of_ne _ _ other

theorem lookup_foldl_copy {k v : String} (kept : isSystem k = false) :
    ∀ (pairs : List (String × String)) (m : StrMap), (pairs.map Prod.fst).Nodup → (k, v) ∈ pairs →
      (pairs.foldl (fun m entry => if isSystem entry.1 then m else m.set entry.1 entry.2) m).lookup k = some v
  | [], _, _, mem => absurd mem List.not_mem_nil
  | entry :: rest, m, distinct, mem => by
    rw [List.map_cons, List.nodup_cons] at distinct
    rw [List.foldl_cons]
    rcases List.mem_cons.mp mem with rfl | later
    · rw [lookup_foldl_copy_of_reserved rest _
        (fun w mem' => absurd (List.mem_map.mpr ⟨(k, w), mem', rfl⟩) distinct.1)]
      simp [kept]
    · exact lookup_foldl_copy kept rest _ distinct.2 later

theorem lookup_copyTemplate {template : StrMap} {k v : String} (kept : isSystem k = false)
    (found : template.lookup k = some v) : (copyTemplate isSystem template).1.lookup k = some v := by
  rw [copyTemplate, foldl_copy]
  exact lookup_foldl_copy kept _ _ template.nodup_pairs_keys (StrMap.mem_pairs.mpr found)

theorem lookup_copyTemplate_of_reserved {template : StrMap} {k : String} (reserved : isSystem k = true) :
    (copyTemplate isSystem template).1.lookup k = none := by
  rw [copyTemplate, foldl_copy]
  rw [lookup_foldl_copy_of_reserved _ _ fun _ _ => reserved]
  simp

end Copy

theorem ExtensionLabels.lookup_eq_none {m : StrMap} (owned : ExtensionLabels m) {k : String}
    (other : k ∉ extensionPodLabelKeys) : m.lookup k = none := by
  cases found : m.lookup k with
  | none => rfl
  | some v => exact absurd (owned k v found).1 other

section Create

variable (apiGroupOf : String → String) (sandbox : Sandbox) (nameHash : String)

theorem lookup_createPodMetadata_createdBy :
    (createPodMetadata apiGroupOf sandbox nameHash).labels.lookup CreatedByLabel = createdByOf sandbox := by
  unfold createPodMetadata createdByOf
  dsimp only
  cases value : nonEmptyValue sandbox.labels CreatedByLabel with
  | some v => simp
  | none =>
    -- no created-by label: the copy of the extension labels and the template leave it unset
    have fromExtension := (extensionLabels_computeExtensionPodLabels apiGroupOf sandbox).lookup_eq_none
      (k := CreatedByLabel) (by decide)
    simp only [Option.map_none]
    rw [← StrMap.copy, StrMap.lookup_copy, fromExtension, Option.none_or,
      StrMap.lookup_set_of_ne _ _ (by decide), lookup_copyTemplate_of_reserved isSystemLabel_createdBy]

theorem lookup_createPodMetadata_labels {k : String} (other : k ≠ CreatedByLabel) :
    (createPodMetadata apiGroupOf sandbox nameHash).labels.lookup k =
      ((computeExtensionPodLabels apiGroupOf sandbox).lookup k).or
        (((copyTemplate isSystemLabel sandbox.templateLabels).1.set sandboxLabel nameHash).lookup k) := by
  unfold createPodMetadata
  dsimp only
  cases nonEmptyValue sandbox.labels CreatedByLabel with
  | some v => rw [StrMap.lookup_set_of_ne _ _ other, ← StrMap.copy, StrMap.lookup_copy]
  | none => rw [← StrMap.copy, StrMap.lookup_copy]

theorem lookup_createPodMetadata_annotations {k : String} (notLabels : k ≠ SandboxPropagatedLabelsAnnotation)
    (notAnnotations : k ≠ SandboxPropagatedAnnotationsAnnotation) :
    (createPodMetadata apiGroupOf sandbox nameHash).annotations.lookup k =
      (copyTemplate isSystemAnnotation sandbox.templateAnnotations).1.lookup k := by
  unfold createPodMetadata
  dsimp only
  split_ifs <;> simp [notLabels, notAnnotations]

theorem sortStrings_eq_nil_of_length {l : List String} (empty : ¬(sortStrings l).length > 0) :
    sortStrings l = [] :=
  List.length_eq_zero_iff.mp (by omega)

/-- The create path writes a recorded-keys annotation only when the template
has keys to record; reading a missing annotation gives the same empty record
as joining no keys. -/
theorem get_createPodMetadata_propagatedLabels :
    (createPodMetadata apiGroupOf sandbox nameHash).annotations.get SandboxPropagatedLabelsAnnotation =
      join (sortStrings (templateKeys isSystemLabel sandbox.templateLabels)) "," := by
  have unset : (copyTemplate isSystemAnnotation sandbox.templateAnnotations).1.get
      SandboxPropagatedLabelsAnnotation = "" := by
    rw [StrMap.get, lookup_copyTemplate_of_reserved (by decide)]
    rfl
  unfold createPodMetadata
  dsimp only
  simp only [copyTemplate_snd]
  split_ifs with annotationKeys labelKeys labelKeys
  · rw [StrMap.get_set_of_ne _ _ (by decide), StrMap.get_set_self]
  · rw [StrMap.get_set_of_ne _ _ (by decide), unset, sortStrings_eq_nil_of_length labelKeys]
    rfl
  · rw [StrMap.get_set_self]
  · rw [unset, sortStrings_eq_nil_of_length labelKeys]
    rfl

theorem get_createPodMetadata_propagatedAnnotations :
    (createPodMetadata apiGroupOf sandbox nameHash).annotations.get SandboxPropagatedAnnotationsAnnotation =
      join (sortStrings (templateKeys isSystemAnnotation sandbox.templateAnnotations)) "," := by
  have unset : (copyTemplate isSystemAnnotation sandbox.templateAnnotations).1.get
      SandboxPropagatedAnnotationsAnnotation = "" := by
    rw [StrMap.get, lookup_copyTemplate_of_reserved (by decide)]
    rfl
  unfold createPodMetadata
  dsimp only
  simp only [copyTemplate_snd]
  split_ifs with annotationKeys labelKeys labelKeys
  · rw [StrMap.get_set_self]
  · rw [StrMap.get_set_self]
  · rw [StrMap.get_set_of_ne _ _ (by decide), unset, sortStrings_eq_nil_of_length annotationKeys]
    rfl
  · rw [unset, sortStrings_eq_nil_of_length annotationKeys]
    rfl

theorem synced_createPodMetadata : Synced apiGroupOf sandbox nameHash (createPodMetadata apiGroupOf sandbox nameHash) := by
  have owned := extensionLabels_computeExtensionPodLabels apiGroupOf sandbox
  refine {
    nameHashLabel := ?_, templateLabels := ?_, extensionLabels := ?_,
    createdBy := lookup_createPodMetadata_createdBy apiGroupOf sandbox nameHash,
    templateAnnotations := ?_,
    propagatedLabels := get_createPodMetadata_propagatedLabels apiGroupOf sandbox nameHash,
    propagatedAnnotations := get_createPodMetadata_propagatedAnnotations apiGroupOf sandbox nameHash }
  · rw [StrMap.get, lookup_createPodMetadata_labels _ _ _ (by decide), owned.lookup_eq_none (by decide)]
    simp
  · intro k v kept found
    have notCreatedBy : k ≠ CreatedByLabel := by
      rintro rfl
      simp [isSystemLabel_createdBy] at kept
    have notExtension : k ∉ extensionPodLabelKeys := fun mem => by
      simp [isSystemLabel_of_mem_extensionPodLabelKeys mem] at kept
    have notName : k ≠ sandboxLabel := by
      rintro rfl
      simp [isSystemLabel_sandboxLabel] at kept
    rw [StrMap.get, lookup_createPodMetadata_labels _ _ _ notCreatedBy, owned.lookup_eq_none notExtension,
      Option.none_or, StrMap.lookup_set_of_ne _ _ notName, lookup_copyTemplate kept found]
    rfl
  · intro k mem
    have notCreatedBy : k ≠ CreatedByLabel := by
      rintro rfl
      exact absurd mem (by decide)
    have notName : k ≠ sandboxLabel := by
      rintro rfl
      exact absurd mem (by decide)
    rw [lookup_createPodMetadata_labels _ _ _ notCreatedBy, StrMap.lookup_set_of_ne _ _ notName,
      lookup_copyTemplate_of_reserved (isSystemLabel_of_mem_extensionPodLabelKeys mem), Option.or_none]
  · intro k v kept found
    have unmanaged : isControllerManagedPodAnnotation k = false := by
      by_contra managed
      simp [isSystemAnnotation_of_controllerManaged (by simpa using managed)] at kept
    have other : k ≠ SandboxPropagatedLabelsAnnotation ∧ k ≠ SandboxPropagatedAnnotationsAnnotation := by
      rw [← not_or, ← isControllerManagedPodAnnotation_iff]
      simp [unmanaged]
    rw [StrMap.get, lookup_createPodMetadata_annotations _ _ _ other.1 other.2, lookup_copyTemplate kept found]
    rfl

end Create


/-! ## The update and its fixed points -/

/-- `updatePodMetadata` writes each rule of `MetadataUpdated`; a `false` flag
means an unchanged Pod, and for a comma-free template the flag is raised
exactly when the labels or the annotations change. -/
theorem updatePodMetadata_spec (apiGroupOf : String → String) (pod : PodMeta) (sandbox : Sandbox)
    (nameHash : String) :
    MetadataUpdated apiGroupOf sandbox nameHash pod (updatePodMetadata apiGroupOf pod sandbox nameHash).1 ∧
    ((updatePodMetadata apiGroupOf pod sandbox nameHash).2 = false →
      (updatePodMetadata apiGroupOf pod sandbox nameHash).1 = pod) ∧
    (CommaFree sandbox →
      ((updatePodMetadata apiGroupOf pod sandbox nameHash).2 = true ↔
        ¬((updatePodMetadata apiGroupOf pod sandbox nameHash).1.labels.Equiv pod.labels ∧
          (updatePodMetadata apiGroupOf pod sandbox nameHash).1.annotations.Equiv pod.annotations))) :=
  ⟨metadataUpdated_updatePodMetadata apiGroupOf pod sandbox nameHash, updatePodMetadata_of_not_updated,
    fun commaFree => updated_iff_changed commaFree⟩

/-- A Sandbox created by the Python client, with one label and one annotation
in its pod template. -/
def teamSandbox : Sandbox where
  labels := (∅ : StrMap).set CreatedByLabel "python-client"
  ownerReferences := []
  templateLabels := (∅ : StrMap).set "app" "web"
  templateAnnotations := (∅ : StrMap).set "team" "search"

theorem updatePodMetadata_spec_teamSandbox :
    CommaFree teamSandbox ∧
      ((updatePodMetadata id ⟨∅, ∅⟩ teamSandbox "h").2 = true ↔
        ¬((updatePodMetadata id ⟨∅, ∅⟩ teamSandbox "h").1.labels.Equiv (∅ : StrMap) ∧
          (updatePodMetadata id ⟨∅, ∅⟩ teamSandbox "h").1.annotations.Equiv (∅ : StrMap))) :=
  ⟨by decide, (updatePodMetadata_spec id ⟨∅, ∅⟩ teamSandbox "h").2.2 (by decide)⟩

/-- A template label whose key holds a comma and whose value is empty: the
update never writes it to a Pod that lacks it, and its record reads back as two
other keys. -/
def commaSandbox : Sandbox where
  labels := ∅
  ownerReferences := []
  templateLabels := (∅ : StrMap).set "a,b" ""
  templateAnnotations := ∅

/-- A Pod as the API server stores it: the name-hash label and the record of
`commaSandbox`'s one label. -/
def commaPod : PodMeta where
  labels := (∅ : StrMap).set sandboxLabel "h"
  annotations := (∅ : StrMap).set SandboxPropagatedLabelsAnnotation "a,b"

theorem sortStrings_commaSandbox :
    sortStrings (templateKeys isSystemLabel commaSandbox.templateLabels) = ["a,b"] ∧
      sortStrings (templateKeys isSystemAnnotation commaSandbox.templateAnnotations) = [] := by
  have labels : templateKeys isSystemLabel commaSandbox.templateLabels = ["a,b"] := by decide
  have annotations : templateKeys isSystemAnnotation commaSandbox.templateAnnotations = [] := by decide
  simp [labels, annotations, sortStrings]

/-- The update deletes the two keys the record splits into, which the Pod does
not have, and raises the flag on a Pod it leaves as it was. -/
theorem updatePodMetadata_commaPod : updatePodMetadata id commaPod commaSandbox "h" = (commaPod, true) := by
  rw [updatePodMetadata_eq]
  simp only [labelEdits, annotationEdits, cleanupPropagated, sortStrings_commaSandbox, comma_eq,
    split_singleton]
  rfl

theorem updatePodMetadata_commaKeyFlagged :
    ¬CommaFree commaSandbox ∧ updatePodMetadata id commaPod commaSandbox "h" = (commaPod, true) :=
  ⟨by decide, updatePodMetadata_commaPod⟩


/-- For a comma-free template the update reaches its fixed point in one step:
run again on its own result it changes nothing and reports no change, and the
Pod the create path builds is already that fixed point. -/
theorem updatePodMetadata_converges (apiGroupOf : String → String) (sandbox : Sandbox) (nameHash : String)
    (commaFree : CommaFree sandbox) :
    (∀ pod, updatePodMetadata apiGroupOf (updatePodMetadata apiGroupOf pod sandbox nameHash).1 sandbox nameHash =
      ((updatePodMetadata apiGroupOf pod sandbox nameHash).1, false)) ∧
    updatePodMetadata apiGroupOf (createPodMetadata apiGroupOf sandbox nameHash) sandbox nameHash =
      (createPodMetadata apiGroupOf sandbox nameHash, false) := by
  constructor
  · intro pod
    exact updatePodMetadata_of_synced commaFree (synced_updatePodMetadata apiGroupOf pod sandbox nameHash)
  · exact updatePodMetadata_of_synced commaFree (synced_createPodMetadata apiGroupOf sandbox nameHash)

theorem updatePodMetadata_converges_teamSandbox :
    CommaFree teamSandbox ∧
      updatePodMetadata id (createPodMetadata id teamSandbox "h") teamSandbox "h" =
        (createPodMetadata id teamSandbox "h", false) :=
  ⟨by decide, (updatePodMetadata_converges id teamSandbox "h" (by decide)).2⟩

/-- From a Pod with no labels or annotations, the first update brings it to
`commaPod`, and the second raises the flag again on a Pod it does not change. -/
theorem updatePodMetadata_commaKeyReflagged :
    ¬CommaFree commaSandbox ∧
      (updatePodMetadata id ⟨∅, ∅⟩ commaSandbox "h").1 = commaPod ∧
      updatePodMetadata id (updatePodMetadata id ⟨∅, ∅⟩ commaSandbox "h").1 commaSandbox "h" = (commaPod, true) := by
  have first : (updatePodMetadata id ⟨∅, ∅⟩ commaSandbox "h").1 = commaPod := by
    rw [updatePodMetadata_eq]
    simp only [labelEdits, annotationEdits, cleanupPropagated, sortStrings_commaSandbox]
    rfl
  refine ⟨by decide, first, ?_⟩
  rw [first]
  exact updatePodMetadata_commaPod

end AgentSandbox.Controller
