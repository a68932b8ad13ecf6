import AgentSandbox.Kube.Meta
import AgentSandbox.Lib.GoStrings

/-!
# Pod metadata in the core Sandbox controller

`updatePodMetadata` and the metadata that `reconcilePod` builds when it creates
a Pod (`controllers/sandbox_controller.go`).  Both copy the labels and
annotations of the Sandbox's pod template onto the Pod, skipping the keys
reserved for the system, and record the copied keys in the propagated-keys
annotations; `updatePodMetadata` also deletes the keys an earlier pass recorded
that the template no longer has, and reconciles the labels the controller owns.

Each block of `updatePodMetadata` is a function on the map it edits and on the
`updated` flag (`MapEdit`).  A nil map reads as an empty one, and the code makes
every map before it writes to it, so a nil map is an empty map here.

`reservedTemplateKeys_noninterference`: two Sandboxes whose pod templates differ
only in reserved keys give the same Pod metadata on both paths, whatever the
iteration order of either template map.
-/

set_option autoImplicit false

namespace AgentSandbox.Controller

open GoStrings

/-! ## Keys -/

def sandboxLabel : String := "agents.x-k8s.io/sandbox-name-hash"

def CreatedByLabel : String := "agents.x-k8s.io/created-by"

def SandboxPropagatedLabelsAnnotation : String := "agents.x-k8s.io/propagated-labels"

def SandboxPropagatedAnnotationsAnnotation : String := "agents.x-k8s.io/propagated-annotations"

def SandboxWarmPoolLabel : String := "agents.x-k8s.io/warm-pool-sandbox"

def SandboxTemplateRefHashLabel : String := "agents.x-k8s.io/sandbox-template-ref-hash"

def TraceContextAnnotation : String := "opentelemetry.io/trace-context"

/-- `extensionsv1beta1.GroupVersion.Group`. -/
def extensionsGroup : String := "extensions.agents.x-k8s.io"

def SandboxWarmPoolKind : String := "SandboxWarmPool"

def hasSystemReservedPrefix (key : String) : Bool :=
  hasPrefix key "agents.x-k8s.io/" || hasPrefix key "extensions.agents.x-k8s.io/"

def isSystemLabel (key : String) : Bool := hasSystemReservedPrefix key

def extensionPodLabelKeys : List String := [SandboxWarmPoolLabel, SandboxTemplateRefHashLabel]

def isSystemAnnotation (key : String) : Bool :=
  hasSystemReservedPrefix key || key == TraceContextAnnotation

def isControllerManagedPodAnnotation (key : String) : Bool :=
  key == SandboxPropagatedLabelsAnnotation || key == SandboxPropagatedAnnotationsAnnotation

/-- `asmetrics.NormalizeCreatedBy` (`internal/metrics/metrics.go`). -/
def NormalizeCreatedBy (createdBy : String) : String :=
  match createdBy with
  | "go-client" | "python-client" | "controller" => createdBy
  | _ => "unknown"

/-! ## Objects -/

structure OwnerReference where
  apiVersion : String
  kind : String
  controller : Option Bool
deriving DecidableEq, Repr

/-- `metav1.GetControllerOf`: the first reference marked as the controller. -/
def getControllerOf (refs : List OwnerReference) : Option OwnerReference :=
  refs.find? fun ref => ref.controller == some true

/-- The fields of a Sandbox that the metadata code reads. -/
structure Sandbox where
  labels : StrMap
  ownerReferences : List OwnerReference
  /-- `Spec.PodTemplate.ObjectMeta.Labels`. -/
  templateLabels : StrMap
  /-- `Spec.PodTemplate.ObjectMeta.Annotations`. -/
  templateAnnotations : StrMap

structure PodMeta where
  labels : StrMap
  annotations : StrMap

/-- `val, ok := m[key]; ok && val != ""`. -/
def nonEmptyValue (m : StrMap) (key : String) : Option String :=
  (m.lookup key).filter fun val => val != ""

/-- `computeExtensionPodLabels`; `apiGroupOf` is the group that
`utils.GetGroupKind` reads from a reference's `APIVersion`. -/
def computeExtensionPodLabels (apiGroupOf : String → String) (sandbox : Sandbox) : StrMap :=
  match getControllerOf sandbox.ownerReferences with
  | none => ∅
  | some ref =>
      if apiGroupOf ref.apiVersion != extensionsGroup then ∅
      else
        let labels : StrMap :=
          if ref.kind == SandboxWarmPoolKind then
            match nonEmptyValue sandbox.labels SandboxWarmPoolLabel with
            | some val => (∅ : StrMap).set SandboxWarmPoolLabel val
            | none => ∅
          else ∅
        match nonEmptyValue sandbox.labels SandboxTemplateRefHashLabel with
        | some val => labels.set SandboxTemplateRefHashLabel val
        | none => labels

/-! ## `updatePodMetadata` -/

/-- A map edited in place, and the `updated` flag. -/
structure MapEdit where
  map : StrMap
  updated : Bool

namespace MapEdit

/-- `if m[k] != v { m[k] = v; updated = true }`. -/
def setIfDifferent (e : MapEdit) (k v : String) : MapEdit :=
  if e.map.get k != v then ⟨e.map.set k v, true⟩ else e

/-- `if _, exists := m[k]; exists { delete(m, k); updated = true }`. -/
def deleteIfPresent (e : MapEdit) (k : String) : MapEdit :=
  if e.map.contains k then ⟨e.map.delete k, true⟩ else e

/-- `delete(m, k); updated = true`, whether or not `k` is present. -/
def delete (e : MapEdit) (k : String) : MapEdit := ⟨e.map.delete k, true⟩

end MapEdit

/-- The loop over `Spec.PodTemplate.ObjectMeta` labels or annotations, and the
keys it records. -/
structure TemplatePass where
  edit : MapEdit
  managed : List String

/-- The body of the loop for a key that is not reserved. -/
def propagateEntry (pass : TemplatePass) (entry : String × String) : TemplatePass :=
  ⟨pass.edit.setIfDifferent entry.1 entry.2, pass.managed ++ [entry.1]⟩

def propagateTemplate (isSystem : String → Bool) (template : StrMap) (edit : MapEdit) : TemplatePass :=
  template.pairs.foldl (fun pass entry => if isSystem entry.1 then pass else propagateEntry pass entry)
    ⟨edit, []⟩

/-- One key of a propagated-keys annotation: a reserved key recorded by an older
controller is scrubbed unless `keep` says the controller owns it, and any other
key is deleted when the template no longer has it. -/
def cleanupStep (isSystem keep : String → Bool) (template : StrMap) (e : MapEdit) (k : String) :
    MapEdit :=
  if k == "" then e
  else if isSystem k then
    if keep k then e else e.deleteIfPresent k
  else if template.contains k then e
  else e.delete k

def cleanupPropagated (isSystem keep : String → Bool) (template : StrMap) (propagated : String)
    (e : MapEdit) : MapEdit :=
  if propagated != "" then (split propagated ",").foldl (cleanupStep isSystem keep template) e else e

/-- One key of `extensionPodLabelKeys`. -/
def reconcileExtensionLabel (extensionLabels : StrMap) (e : MapEdit) (key : String) : MapEdit :=
  match extensionLabels.lookup key with
  | some val => e.setIfDifferent key val
  | none => e.deleteIfPresent key

def expectedCreatedBy (sandbox : Sandbox) : String :=
  match nonEmptyValue sandbox.labels CreatedByLabel with
  | some val => NormalizeCreatedBy val
  | none => ""

def reconcileCreatedBy (expected : String) (e : MapEdit) : MapEdit :=
  if expected != "" then e.setIfDifferent CreatedByLabel expected
  else e.deleteIfPresent CreatedByLabel

/-- `updatePodMetadata`: the Pod's new labels and annotations, and `updated`.
The annotation loop runs only for a non-nil template map, which for an empty
map is the loop with no iteration. -/
def updatePodMetadata (apiGroupOf : String → String) (pod : PodMeta) (sandbox : Sandbox)
    (nameHash : String) : PodMeta × Bool :=
  let labels := MapEdit.setIfDifferent ⟨pod.labels, false⟩ sandboxLabel nameHash
  let labelPass := propagateTemplate isSystemLabel sandbox.templateLabels labels
  let labels := cleanupPropagated isSystemLabel (· == sandboxLabel) sandbox.templateLabels
    (pod.annotations.get SandboxPropagatedLabelsAnnotation) labelPass.edit
  let labels := extensionPodLabelKeys.foldl
    (reconcileExtensionLabel (computeExtensionPodLabels apiGroupOf sandbox)) labels
  let labels := reconcileCreatedBy (expectedCreatedBy sandbox) labels
  let annotationPass := propagateTemplate isSystemAnnotation sandbox.templateAnnotations
    ⟨pod.annotations, labels.updated⟩
  let annotations := cleanupPropagated isSystemAnnotation isControllerManagedPodAnnotation
    sandbox.templateAnnotations
    (annotationPass.edit.map.get SandboxPropagatedAnnotationsAnnotation) annotationPass.edit
  let annotations := annotations.setIfDifferent SandboxPropagatedLabelsAnnotation
    (join (sortStrings labelPass.managed) ",")
  let annotations := annotations.setIfDifferent SandboxPropagatedAnnotationsAnnotation
    (join (sortStrings annotationPass.managed) ",")
  (⟨labels.map, annotations.map⟩, annotations.updated)

/-! ## The create path -/

/-- The create path's loop body for a key that is not reserved: it writes the
value even where an empty map already reads it. -/
def copyEntry (acc : StrMap × List String) (entry : String × String) : StrMap × List String :=
  (acc.1.set entry.1 entry.2, acc.2 ++ [entry.1])

def copyTemplate (isSystem : String → Bool) (template : StrMap) : StrMap × List String :=
  template.pairs.foldl (fun acc entry => if isSystem entry.1 then acc else copyEntry acc entry) (∅, [])

/-- The labels and annotations of the Pod that `reconcilePod` creates. -/
def createPodMetadata (apiGroupOf : String → String) (sandbox : Sandbox) (nameHash : String) :
    PodMeta :=
  let labelCopy := copyTemplate isSystemLabel sandbox.templateLabels
  let podLabels := labelCopy.1.set sandboxLabel nameHash
  -- `maps.Copy(podLabels, computeExtensionPodLabels(sandbox))`
  let podLabels := (computeExtensionPodLabels apiGroupOf sandbox).pairs.foldl
    (fun m entry => m.set entry.1 entry.2) podLabels
  let podLabels :=
    match nonEmptyValue sandbox.labels CreatedByLabel with
    | some val => podLabels.set CreatedByLabel (NormalizeCreatedBy val)
    | none => podLabels
  let annotationCopy := copyTemplate isSystemAnnotation sandbox.templateAnnotations
  let managedLabelKeys := sortStrings labelCopy.2
  let managedAnnotationKeys := sortStrings annotationCopy.2
  let annotations :=
    if managedLabelKeys.length > 0 then
      annotationCopy.1.set SandboxPropagatedLabelsAnnotation (join managedLabelKeys ",")
    else annotationCopy.1
  let annotations :=
    if managedAnnotationKeys.length > 0 then
      annotations.set SandboxPropagatedAnnotationsAnnotation (join managedAnnotationKeys ",")
    else annotations
  ⟨podLabels, annotations⟩

/-! ## Reserved keys

The keys a tenant must not set through a pod template, stated on the text of
the key: those under `agents.x-k8s.io/` and `extensions.agents.x-k8s.io/`, and
for annotations the trace context. -/

def ReservedLabelKey (k : String) : Prop :=
  "agents.x-k8s.io/".toList <+: k.toList ∨ "extensions.agents.x-k8s.io/".toList <+: k.toList

def ReservedAnnotationKey (k : String) : Prop :=
  ReservedLabelKey k ∨ k = "opentelemetry.io/trace-context"

/-- Two Sandboxes that differ at most in reserved keys of their pod template's
labels and annotations. -/
structure DifferInReservedTemplateKeys (s₁ s₂ : Sandbox) : Prop where
  labels : s₁.labels = s₂.labels
  ownerReferences : s₁.ownerReferences = s₂.ownerReferences
  templateLabels : ∀ k, ¬ ReservedLabelKey k → s₁.templateLabels.lookup k = s₂.templateLabels.lookup k
  templateAnnotations :
    ∀ k, ¬ ReservedAnnotationKey k → s₁.templateAnnotations.lookup k = s₂.templateAnnotations.lookup k

theorem isSystemLabel_eq_true_iff {k : String} : isSystemLabel k = true ↔ ReservedLabelKey k := by
  rw [isSystemLabel, hasSystemReservedPrefix, Bool.or_eq_true, hasPrefix_iff, hasPrefix_iff]
  rfl

theorem isSystemAnnotation_eq_true_iff {k : String} :
    isSystemAnnotation k = true ↔ ReservedAnnotationKey k := by
  rw [ isSystemAnnotation, Bool.or_eq_true, ← isSystemLabel, isSystemLabel_eq_true_iff, beq_iff_eq]
  rfl

/-! ## Equal edits -/

namespace MapEdit

/-- The same map and the same flag. -/
def Equiv (e e' : MapEdit) : Prop := e.map.Equiv e'.map ∧ e.updated = e'.updated

theorem equivalence : Equivalence Equiv where
  refl e := ⟨StrMap.equivalence.refl e.map, rfl⟩
  symm same := ⟨StrMap.equivalence.symm same.1, same.2.symm⟩
  trans same same' := ⟨StrMap.equivalence.trans same.1 same'.1, same.2.trans same'.2⟩

theorem equiv_of_updated (m : StrMap) {u u' : Bool} (flags : u = u') : Equiv ⟨m, u⟩ ⟨m, u'⟩ :=
  ⟨StrMap.equivalence.refl m, flags⟩

variable {e e' : MapEdit}

theorem setIfDifferent_of_eq {k v : String} (equal : e.map.get k = v) : e.setIfDifferent k v = e := by
  simp [setIfDifferent, equal]

theorem setIfDifferent_of_ne {k v : String} (differs : e.map.get k ≠ v) :
    e.setIfDifferent k v = ⟨e.map.set k v, true⟩ := by
  simp [setIfDifferent, differs]

theorem Equiv.setIfDifferent (same : e.Equiv e') (k v : String) :
    (e.setIfDifferent k v).Equiv (e'.setIfDifferent k v) := by
  by_cases equal : e.map.get k = v
  · rw [setIfDifferent_of_eq equal, setIfDifferent_of_eq ((same.1.get k).symm.trans equal)]
    exact same
  · rw [setIfDifferent_of_ne equal, setIfDifferent_of_ne (fun h => equal ((same.1.get k).trans h))]
    exact ⟨same.1.set k v, rfl⟩

theorem Equiv.deleteIfPresent (same : e.Equiv e') (k : String) :
    (e.deleteIfPresent k).Equiv (e'.deleteIfPresent k) := by
  unfold MapEdit.deleteIfPresent
  rw [same.1.contains k]
  split
  · exact ⟨same.1.delete k, rfl⟩
  · exact same

theorem Equiv.delete (same : e.Equiv e') (k : String) : (e.delete k).Equiv (e'.delete k) :=
  ⟨same.1.delete k, rfl⟩

theorem setIfDifferent_comm (e : MapEdit) {k k' : String} (v v' : String) (other : k ≠ k') :
    ((e.setIfDifferent k v).setIfDifferent k' v').Equiv ((e.setIfDifferent k' v').setIfDifferent k v) := by
  have away : ∀ (m : StrMap) (w : String), (m.set k w).get k' = m.get k' :=
    fun m w => m.get_set_of_ne w (Ne.symm other)
  have away' : ∀ (m : StrMap) (w : String), (m.set k' w).get k = m.get k :=
    fun m w => m.get_set_of_ne w other
  by_cases first : e.map.get k = v <;> by_cases second : e.map.get k' = v'
  · rw [setIfDifferent_of_eq first, setIfDifferent_of_eq second, setIfDifferent_of_eq first]
    exact equivalence.refl e
  · rw [setIfDifferent_of_eq first, setIfDifferent_of_ne second,
      setIfDifferent_of_eq (by rw [away']; exact first)]
    exact equivalence.refl _
  · rw [setIfDifferent_of_ne first, setIfDifferent_of_eq (by rw [away]; exact second),
      setIfDifferent_of_eq second, setIfDifferent_of_ne first]
    exact equivalence.refl _
  · rw [setIfDifferent_of_ne first, setIfDifferent_of_ne (by rw [away]; exact second),
      setIfDifferent_of_ne second, setIfDifferent_of_ne (by rw [away']; exact first)]
    exact ⟨StrMap.set_set_equiv e.map v v' other, rfl⟩

end MapEdit

/-! ## The template loops do not depend on the order of the template -/

/-- The same edit and the same recorded keys, in any order. -/
def TemplatePass.Related (p q : TemplatePass) : Prop := p.edit.Equiv q.edit ∧ p.managed.Perm q.managed

theorem TemplatePass.related_equivalence : Equivalence TemplatePass.Related where
  refl p := ⟨MapEdit.equivalence.refl p.edit, List.Perm.refl _⟩
  symm same := ⟨MapEdit.equivalence.symm same.1, same.2.symm⟩
  trans same same' := ⟨MapEdit.equivalence.trans same.1 same'.1, same.2.trans same'.2⟩

theorem propagateEntry_congr (entry : String × String) {p q : TemplatePass} (same : p.Related q) :
    (propagateEntry p entry).Related (propagateEntry q entry) :=
  ⟨same.1.setIfDifferent entry.1 entry.2, same.2.append_right _⟩

theorem append_two_perm (l : List String) (k k' : String) : (l ++ [k] ++ [k']).Perm (l ++ [k'] ++ [k]) := by
  rw [List.append_assoc, List.append_assoc]
  exact (List.Perm.swap k' k []).append_left l

theorem propagateEntry_comm (x y : String × String) (other : x.1 ≠ y.1) (p : TemplatePass) :
    (propagateEntry (propagateEntry p x) y).Related (propagateEntry (propagateEntry p y) x) :=
  ⟨MapEdit.setIfDifferent_comm p.edit x.2 y.2 other, append_two_perm p.managed x.1 y.1⟩

/-- The template maps of two Sandboxes agree outside the reserved keys. -/
def AgreeOutside (isSystem : String → Bool) (t₁ t₂ : StrMap) : Prop :=
  ∀ k, isSystem k = false → t₁.lookup k = t₂.lookup k

theorem AgreeOutside.mem_pairs {isSystem : String → Bool} {t₁ t₂ : StrMap} (agree : AgreeOutside isSystem t₁ t₂)
    (entry : String × String) (kept : isSystem entry.1 = false) : entry ∈ t₁.pairs ↔ entry ∈ t₂.pairs := by
  rw [StrMap.mem_pairs, StrMap.mem_pairs, agree entry.1 kept]

theorem propagateTemplate_related {isSystem : String → Bool} {t₁ t₂ : StrMap}
    (agree : AgreeOutside isSystem t₁ t₂) {e e' : MapEdit} (same : e.Equiv e') :
    (propagateTemplate isSystem t₁ e).Related (propagateTemplate isSystem t₂ e') :=
  Unordered.foldl_skip_rel TemplatePass.related_equivalence propagateEntry_congr isSystem propagateEntry_comm
    t₁.nodup_pairs_keys t₂.nodup_pairs_keys agree.mem_pairs ⟨same, List.Perm.refl []⟩

/-- The same map and the same recorded keys, in any order. -/
def Copied (a b : StrMap × List String) : Prop := a.1.Equiv b.1 ∧ a.2.Perm b.2

theorem copied_equivalence : Equivalence Copied where
  refl a := ⟨StrMap.equivalence.refl a.1, List.Perm.refl _⟩
  symm same := ⟨StrMap.equivalence.symm same.1, same.2.symm⟩
  trans same same' := ⟨StrMap.equivalence.trans same.1 same'.1, same.2.trans same'.2⟩

theorem copyTemplate_copied {isSystem : String → Bool} {t₁ t₂ : StrMap} (agree : AgreeOutside isSystem t₁ t₂) :
    Copied (copyTemplate isSystem t₁) (copyTemplate isSystem t₂) := by
  refine Unordered.foldl_skip_rel copied_equivalence ?_ isSystem ?_ t₁.nodup_pairs_keys t₂.nodup_pairs_keys
    agree.mem_pairs (copied_equivalence.refl _)
  · intro entry a b same
    exact ⟨same.1.set entry.1 entry.2, same.2.append_right _⟩
  · intro x y other acc
    exact ⟨StrMap.set_set_equiv acc.1 x.2 y.2 other, append_two_perm acc.2 x.1 y.1⟩

/-! ## The other blocks read the template only outside the reserved keys -/

theorem cleanupStep_congr {isSystem : String → Bool} (keep : String → Bool) {t₁ t₂ : StrMap}
    (agree : AgreeOutside isSystem t₁ t₂) (k : String) {e e' : MapEdit} (same : e.Equiv e') :
    (cleanupStep isSystem keep t₁ e k).Equiv (cleanupStep isSystem keep t₂ e' k) := by
  unfold cleanupStep
  by_cases empty : (k == "") = true
  · rw [if_pos empty, if_pos empty]
    exact same
  rw [if_neg empty, if_neg empty]
  by_cases system : isSystem k = true
  · -- the reserved branch returns before it looks at the template
    rw [if_pos system, if_pos system]
    by_cases kept : keep k = true
    · rw [if_pos kept, if_pos kept]
      exact same
    · rw [if_neg kept, if_neg kept]
      exact same.deleteIfPresent k
  · rw [if_neg system, if_neg system]
    have visible : t₁.contains k = t₂.contains k := by
      rw [StrMap.contains, StrMap.contains, agree k (by simpa using system)]
    rw [visible]
    by_cases present : t₂.contains k = true
    · rw [if_pos present, if_pos present]
      exact same
    · rw [if_neg present, if_neg present]
      exact same.delete k

theorem cleanupPropagated_congr {isSystem : String → Bool} (keep : String → Bool) {t₁ t₂ : StrMap}
    (agree : AgreeOutside isSystem t₁ t₂) {propagated propagated' : String} (recorded : propagated = propagated')
    {e e' : MapEdit} (same : e.Equiv e') :
    (cleanupPropagated isSystem keep t₁ propagated e).Equiv (cleanupPropagated isSystem keep t₂ propagated' e') := by
  unfold cleanupPropagated
  rw [recorded]
  split
  · exact Unordered.foldl_congr (cleanupStep_congr keep agree) _ same
  · exact same

theorem reconcileExtensionLabels_congr (extensionLabels : StrMap) {e e' : MapEdit} (same : e.Equiv e') :
    (extensionPodLabelKeys.foldl (reconcileExtensionLabel extensionLabels) e).Equiv
      (extensionPodLabelKeys.foldl (reconcileExtensionLabel extensionLabels) e') := by
  refine Unordered.foldl_congr ?_ _ same
  intro key a b related
  unfold reconcileExtensionLabel
  split
  · exact related.setIfDifferent _ _
  · exact related.deleteIfPresent _

theorem reconcileCreatedBy_congr (expected : String) {e e' : MapEdit} (same : e.Equiv e') :
    (reconcileCreatedBy expected e).Equiv (reconcileCreatedBy expected e') := by
  unfold reconcileCreatedBy
  split
  · exact same.setIfDifferent _ _
  · exact same.deleteIfPresent _

/-! ## Non-interference -/

def PodMeta.Equiv (p q : PodMeta) : Prop := p.labels.Equiv q.labels ∧ p.annotations.Equiv q.annotations

section Differ

variable {s₁ s₂ : Sandbox} (differ : DifferInReservedTemplateKeys s₁ s₂)
include differ

theorem DifferInReservedTemplateKeys.labels_agree :
    AgreeOutside isSystemLabel s₁.templateLabels s₂.templateLabels := by
  intro k visible
  apply differ.templateLabels k
  rw [← isSystemLabel_eq_true_iff, visible]
  exact Bool.false_ne_true

theorem DifferInReservedTemplateKeys.annotations_agree :
    AgreeOutside isSystemAnnotation s₁.templateAnnotations s₂.templateAnnotations := by
  intro k visible
  apply differ.templateAnnotations k
  rw [← isSystemAnnotation_eq_true_iff, visible]
  exact Bool.false_ne_true

theorem DifferInReservedTemplateKeys.extensionLabels (apiGroupOf : String → String) :
    computeExtensionPodLabels apiGroupOf s₁ = computeExtensionPodLabels apiGroupOf s₂ := by
  simp only [computeExtensionPodLabels, differ.labels, differ.ownerReferences]

theorem DifferInReservedTemplateKeys.createdBy : nonEmptyValue s₁.labels CreatedByLabel =
    nonEmptyValue s₂.labels CreatedByLabel := by
  rw [differ.labels]

theorem updatePodMetadata_reserved_congr (apiGroupOf : String → String) (pod : PodMeta) (nameHash : String) :
    (updatePodMetadata apiGroupOf pod s₁ nameHash).1.Equiv (updatePodMetadata apiGroupOf pod s₂ nameHash).1 ∧
      (updatePodMetadata apiGroupOf pod s₁ nameHash).2 = (updatePodMetadata apiGroupOf pod s₂ nameHash).2 := by
  have expected : expectedCreatedBy s₁ = expectedCreatedBy s₂ := by
    rw [expectedCreatedBy, expectedCreatedBy, differ.createdBy]
  simp only [updatePodMetadata]
  rw [differ.extensionLabels apiGroupOf, expected]
  -- the label blocks, in the order of the source
  have labelPass := propagateTemplate_related differ.labels_agree
    (MapEdit.equivalence.refl (MapEdit.setIfDifferent ⟨pod.labels, false⟩ sandboxLabel nameHash))
  have labels := reconcileCreatedBy_congr (expectedCreatedBy s₂)
    (reconcileExtensionLabels_congr (computeExtensionPodLabels apiGroupOf s₂)
      (cleanupPropagated_congr (· == sandboxLabel) differ.labels_agree
        (Eq.refl (pod.annotations.get SandboxPropagatedLabelsAnnotation)) labelPass.1))
  -- the annotation blocks start from the flag the label blocks left
  have annotationPass := propagateTemplate_related differ.annotations_agree
    (MapEdit.equiv_of_updated pod.annotations labels.2)
  have cleaned := cleanupPropagated_congr isControllerManagedPodAnnotation differ.annotations_agree
    (annotationPass.1.1.get SandboxPropagatedAnnotationsAnnotation) annotationPass.1
  rw [sortStrings_eq_of_perm labelPass.2, sortStrings_eq_of_perm annotationPass.2]
  -- the two propagated-keys annotations are written from the same sorted keys
  exact ⟨⟨labels.1, ((cleaned.setIfDifferent _ _).setIfDifferent _ _).1⟩,
    ((cleaned.setIfDifferent _ _).setIfDifferent _ _).2⟩

theorem createPodMetadata_reserved_congr (apiGroupOf : String → String) (nameHash : String) :
    (createPodMetadata apiGroupOf s₁ nameHash).Equiv (createPodMetadata apiGroupOf s₂ nameHash) := by
  have labelCopy := copyTemplate_copied differ.labels_agree
  have annotationCopy := copyTemplate_copied differ.annotations_agree
  have labels := Unordered.foldl_congr (R := StrMap.Equiv)
    (fun entry _ _ same => same.set entry.1 entry.2) (computeExtensionPodLabels apiGroupOf s₂).pairs
    (labelCopy.1.set sandboxLabel nameHash)
  simp only [createPodMetadata]
  rw [differ.extensionLabels apiGroupOf, differ.createdBy, sortStrings_eq_of_perm labelCopy.2,
    sortStrings_eq_of_perm annotationCopy.2]
  refine ⟨?_, ?_⟩
  · dsimp only
    split
    · exact labels.set _ _
    · exact labels
  · -- the same keys are recorded, so the same annotations are written
    dsimp only
    split_ifs <;> (repeat apply StrMap.Equiv.set) <;> exact annotationCopy.1

end Differ

/-- Reserved keys in a pod template cannot influence the Pod: for two
Sandboxes that differ only there, `updatePodMetadata` gives any Pod the same
labels and annotations and the same `updated` flag, and the create path builds
the same metadata. -/
theorem reservedTemplateKeys_noninterference (apiGroupOf : String → String) {s₁ s₂ : Sandbox}
    (differ : DifferInReservedTemplateKeys s₁ s₂) (pod : PodMeta) (nameHash : String) :
    ((updatePodMetadata apiGroupOf pod s₁ nameHash).1.Equiv (updatePodMetadata apiGroupOf pod s₂ nameHash).1 ∧
      (updatePodMetadata apiGroupOf pod s₁ nameHash).2 = (updatePodMetadata apiGroupOf pod s₂ nameHash).2) ∧
    (createPodMetadata apiGroupOf s₁ nameHash).Equiv (createPodMetadata apiGroupOf s₂ nameHash) :=
  ⟨updatePodMetadata_reserved_congr differ apiGroupOf pod nameHash,
    createPodMetadata_reserved_congr differ apiGroupOf nameHash⟩

/-- A Sandbox with one ordinary label and annotation in its template. -/
def plainSandbox : Sandbox where
  labels := ∅
  ownerReferences := []
  templateLabels := (∅ : StrMap).set "app" "web"
  templateAnnotations := (∅ : StrMap).set "team" "search"

/-- The same Sandbox whose template also tries to set the name-hash label the
Service selects on, and the trace context. -/
def taintedSandbox : Sandbox where
  labels := ∅
  ownerReferences := []
  templateLabels := ((∅ : StrMap).set "app" "web").set sandboxLabel "other-sandbox"
  templateAnnotations := ((∅ : StrMap).set "team" "search").set TraceContextAnnotation "forged"

theorem taintedSandbox_differs : DifferInReservedTemplateKeys plainSandbox taintedSandbox where
  labels := rfl
  ownerReferences := rfl
  templateLabels k visible := by
    have other : k ≠ sandboxLabel := by
      rintro rfl
      exact visible (Or.inl (by decide))
    simp [plainSandbox, taintedSandbox, other]
  templateAnnotations k visible := by
    have other : k ≠ TraceContextAnnotation := by
      rintro rfl
      exact visible (Or.inr rfl)
    simp [plainSandbox, taintedSandbox, other]

theorem reservedTemplateKeys_noninterference_tainted :
    DifferInReservedTemplateKeys plainSandbox taintedSandbox ∧
      (((updatePodMetadata id ⟨∅, ∅⟩ plainSandbox "h").1.Equiv (updatePodMetadata id ⟨∅, ∅⟩ taintedSandbox "h").1 ∧
        (updatePodMetadata id ⟨∅, ∅⟩ plainSandbox "h").2 = (updatePodMetadata id ⟨∅, ∅⟩ taintedSandbox "h").2) ∧
      (createPodMetadata id plainSandbox "h").Equiv (createPodMetadata id taintedSandbox "h")) :=
  ⟨taintedSandbox_differs, reservedTemplateKeys_noninterference id taintedSandbox_differs ⟨∅, ∅⟩ "h"⟩

end AgentSandbox.Controller
