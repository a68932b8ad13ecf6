import AgentSandbox.Kube.Meta
import AgentSandbox.Lib.GoErrors
import AgentSandbox.Controller.SandboxConditions

/-!
# Converting a Sandbox between v1alpha1 and v1beta1

Model of `api/v1alpha1/sandbox_conversion.go`.  The API server stores v1beta1,
the hub; `ConvertTo` turns a v1alpha1 Sandbox into it and `ConvertFrom` turns it
back.  v1alpha1's `Spec.Replicas` becomes v1beta1's `Spec.OperatingMode` (zero
replicas suspend the Sandbox), v1beta1's `Status.NodeName` has no v1alpha1
field, and `ConvertTo` stores the object it converts, as JSON, in the
annotation `v1alpha1SandboxStateAnnotation`, from which `ConvertFrom` restores
the replica counts the hub cannot hold.

The Kubernetes types the conversion copies without reading are parameters
(`CoreTypes`), and `json.Marshal` and `json.Unmarshal` are arguments.  A
v1alpha1 Sandbox converted to the hub and back is itself without the state
annotation, whenever its JSON reads back (`convertFrom_convertTo`).  A v1beta1
Sandbox converted to v1alpha1 and back keeps its spec, operating mode included,
and loses only its node name and any older state annotation
(`convertTo_convertFrom`).
-/

set_option autoImplicit false

namespace AgentSandbox.Api

open GoErrors
open Controller (SandboxOperatingMode)

/-- The Kubernetes types the conversions copy without reading them: the fields of
`metav1.ObjectMeta` besides its annotations, `corev1.PodSpec`,
`corev1.PersistentVolumeClaimSpec`, `metav1.Time`, `metav1.Condition`, and the
rules of a `networkingv1` network policy. -/
structure CoreTypes where
  Meta : Type
  PodSpec : Type
  PersistentVolumeClaimSpec : Type
  Time : Type
  Condition : Type
  NetworkPolicyIngressRule : Type
  NetworkPolicyEgressRule : Type

section Types

variable (K : CoreTypes)

/-- `metav1.ObjectMeta`: the name and annotations the conversions read and edit,
and the rest. -/
structure ObjectMeta where
  name : String
  annotations : StrMap
  rest : K.Meta

/-! The types below have the same fields in both versions. -/

structure PodMetadata where
  labels : StrMap
  annotations : StrMap

structure EmbeddedObjectMetadata where
  name : String
  labels : StrMap
  annotations : StrMap

structure PodTemplate where
  spec : K.PodSpec
  objectMeta : PodMetadata

structure PersistentVolumeClaimTemplate where
  embeddedObjectMetadata : EmbeddedObjectMetadata
  spec : K.PersistentVolumeClaimSpec

/-- A Sandbox's `Lifecycle`; `ShutdownPolicy` is a string type in both versions. -/
structure Lifecycle where
  shutdownTime : Option K.Time
  shutdownPolicy : Option String

end Types

namespace ObjectMeta

variable {K : CoreTypes}

/-- `m.Annotations[k] = v`. -/
def annotate (m : ObjectMeta K) (k v : String) : ObjectMeta K :=
  { m with annotations := m.annotations.set k v }

/-- `delete(m.Annotations, k)`. -/
def unannotate (m : ObjectMeta K) (k : String) : ObjectMeta K :=
  { m with annotations := m.annotations.delete k }

@[simp] theorem annotations_annotate (m : ObjectMeta K) (k v : String) :
    (m.annotate k v).annotations = m.annotations.set k v := rfl

@[simp] theorem annotations_unannotate (m : ObjectMeta K) (k : String) :
    (m.unannotate k).annotations = m.annotations.delete k := rfl

@[simp] theorem unannotate_annotate_self (m : ObjectMeta K) (k v : String) :
    (m.annotate k v).unannotate k = m.unannotate k := by
  simp only [annotate, unannotate, StrMap.delete_set_self]

@[simp] theorem annotate_unannotate_self (m : ObjectMeta K) (k v : String) :
    (m.unannotate k).annotate k v = m.annotate k v := by
  simp only [annotate, unannotate, StrMap.set_delete_self]

theorem unannotate_of_lookup_eq_none {m : ObjectMeta K} {k : String}
    (absent : m.annotations.lookup k = none) : m.unannotate k = m := by
  simp only [unannotate, StrMap.delete_of_lookup_eq_none absent]

theorem unannotate_comm (m : ObjectMeta K) (k k' : String) :
    (m.unannotate k).unannotate k' = (m.unannotate k').unannotate k := by
  simp only [unannotate, StrMap.delete]
  rw [AList.erase_erase]

@[simp] theorem unannotate_unannotate_self (m : ObjectMeta K) (k : String) :
    (m.unannotate k).unannotate k = m.unannotate k :=
  unannotate_of_lookup_eq_none (StrMap.lookup_delete_self _ _)

/-- Two objects' metadata agree as Go values: the same name, the same annotations
as a map, whatever their order, and the same other fields. -/
def Equiv (m m' : ObjectMeta K) : Prop :=
  m.name = m'.name ∧ m.annotations.Equiv m'.annotations ∧ m.rest = m'.rest

end ObjectMeta

namespace V1alpha1

variable (K : CoreTypes)

/-- v1alpha1 `SandboxSpec`, its `Lifecycle` inlined.  A nil slice and an empty
one are both `[]`; the conversions keep each as it is. -/
structure SandboxSpec where
  podTemplate : PodTemplate K
  volumeClaimTemplates : List (PersistentVolumeClaimTemplate K)
  lifecycle : Lifecycle K
  replicas : Option Int
  service : Option Bool

structure SandboxStatus where
  serviceFQDN : String
  service : String
  conditions : List K.Condition
  replicas : Int
  labelSelector : String
  podIPs : List String

structure Sandbox where
  metadata : ObjectMeta K
  spec : SandboxSpec K
  status : SandboxStatus K

end V1alpha1

namespace V1beta1

variable (K : CoreTypes)

/-- v1beta1 `SandboxSpec`, its `SandboxBlueprint` and `Lifecycle` inlined.  The
CRD's enum and its default (`Running`) leave `OperatingMode` no third value. -/
structure SandboxSpec where
  podTemplate : PodTemplate K
  volumeClaimTemplates : List (PersistentVolumeClaimTemplate K)
  service : Option Bool
  lifecycle : Lifecycle K
  operatingMode : SandboxOperatingMode

structure SandboxStatus where
  serviceFQDN : String
  service : String
  conditions : List K.Condition
  labelSelector : String
  podIPs : List String
  nodeName : String

structure Sandbox where
  metadata : ObjectMeta K
  spec : SandboxSpec K
  status : SandboxStatus K

end V1beta1

namespace V1alpha1

variable {K : CoreTypes}

def v1alpha1SandboxStateAnnotation : String := "api.agents.x-k8s.io/v1alpha1-sandbox-state"

/-! ## The helpers, shared with the extensions' conversions -/

def convertPodMetadataTo (src : PodMetadata) : PodMetadata := ⟨src.labels, src.annotations⟩

def convertPodMetadataFrom (src : PodMetadata) : PodMetadata := ⟨src.labels, src.annotations⟩

def convertPodTemplateTo (src : PodTemplate K) : PodTemplate K := ⟨src.spec, convertPodMetadataTo src.objectMeta⟩

def convertPodTemplateFrom (src : PodTemplate K) : PodTemplate K := ⟨src.spec, convertPodMetadataFrom src.objectMeta⟩

def convertEmbeddedMetadataTo (src : EmbeddedObjectMetadata) : EmbeddedObjectMetadata :=
  ⟨src.name, src.labels, src.annotations⟩

def convertEmbeddedMetadataFrom (src : EmbeddedObjectMetadata) : EmbeddedObjectMetadata :=
  ⟨src.name, src.labels, src.annotations⟩

def convertPVCClaimTemplateTo (src : PersistentVolumeClaimTemplate K) : PersistentVolumeClaimTemplate K :=
  ⟨convertEmbeddedMetadataTo src.embeddedObjectMetadata, src.spec⟩

def convertPVCClaimTemplateFrom (src : PersistentVolumeClaimTemplate K) : PersistentVolumeClaimTemplate K :=
  ⟨convertEmbeddedMetadataFrom src.embeddedObjectMetadata, src.spec⟩

/-- The cast between the two `ShutdownPolicy` string types keeps the text. -/
def convertLifecycleTo (src : Lifecycle K) : Lifecycle K := ⟨src.shutdownTime, src.shutdownPolicy⟩

def convertLifecycleFrom (src : Lifecycle K) : Lifecycle K := ⟨src.shutdownTime, src.shutdownPolicy⟩

/-! Each helper copies every field, so each is the identity. -/

@[simp] theorem convertPodTemplateTo_eq (t : PodTemplate K) : convertPodTemplateTo t = t := rfl

@[simp] theorem convertPodTemplateFrom_eq (t : PodTemplate K) : convertPodTemplateFrom t = t := rfl

@[simp] theorem convertPVCClaimTemplateTo_eq : (convertPVCClaimTemplateTo : _ → PersistentVolumeClaimTemplate K) = id :=
  rfl

@[simp] theorem convertPVCClaimTemplateFrom_eq :
    (convertPVCClaimTemplateFrom : _ → PersistentVolumeClaimTemplate K) = id := rfl

@[simp] theorem convertLifecycleTo_eq (l : Lifecycle K) : convertLifecycleTo l = l := rfl

@[simp] theorem convertLifecycleFrom_eq (l : Lifecycle K) : convertLifecycleFrom l = l := rfl

/-! ## Spec and status -/

/-- `Replicas -> OperatingMode`: zero replicas suspend the Sandbox; no count, or
any other, runs it. -/
def operatingModeOf (replicas : Option Int) : SandboxOperatingMode :=
  if replicas = some 0 then .suspended else .running

/-- `OperatingMode -> Replicas`. -/
def replicasOf (mode : SandboxOperatingMode) : Option Int :=
  if mode = .suspended then some 0 else some 1

def convertSpecTo (src : SandboxSpec K) : V1beta1.SandboxSpec K where
  podTemplate := convertPodTemplateTo src.podTemplate
  volumeClaimTemplates := src.volumeClaimTemplates.map convertPVCClaimTemplateTo
  lifecycle := convertLifecycleTo src.lifecycle
  operatingMode := operatingModeOf src.replicas
  service := src.service

def convertSpecFrom (src : V1beta1.SandboxSpec K) : SandboxSpec K where
  podTemplate := convertPodTemplateFrom src.podTemplate
  volumeClaimTemplates := src.volumeClaimTemplates.map convertPVCClaimTemplateFrom
  lifecycle := convertLifecycleFrom src.lifecycle
  replicas := replicasOf src.operatingMode
  service := src.service

/-- `NodeName` is new in v1beta1 and is left empty. -/
def convertStatusTo (src : SandboxStatus K) : V1beta1.SandboxStatus K :=
  ⟨src.serviceFQDN, src.service, src.conditions, src.labelSelector, src.podIPs, ""⟩

/-- `Replicas` is not written: it keeps its zero value in the fresh object the
conversion fills, and `ConvertFrom` sets it next. -/
def convertStatusFrom (src : V1beta1.SandboxStatus K) : SandboxStatus K :=
  ⟨src.serviceFQDN, src.service, src.conditions, 0, src.labelSelector, src.podIPs⟩

/-- The spec's replicas `ConvertFrom` restores from the stored object: a suspended
Sandbox has none, and a running one keeps the original count unless that count
was zero. -/
def restoredReplicas (mode : SandboxOperatingMode) (original : Option Int) : Option Int :=
  match mode with
  | .suspended => some 0
  | .running => if original = none ∨ original ≠ some 0 then original else some 1

/-! ## `ConvertTo` and `ConvertFrom` -/

/-- The object `ConvertTo` serializes: a copy without the state annotation. -/
def Sandbox.withoutState (s : Sandbox K) : Sandbox K :=
  { s with metadata := s.metadata.unannotate v1alpha1SandboxStateAnnotation }

def Sandbox.convertTo (marshal : Sandbox K → Except String String) (s : Sandbox K) :
    Except String (V1beta1.Sandbox K) := do
  let stateJSON ← (marshal s.withoutState).mapError ("failed to marshal v1alpha1 Sandbox state: " ++ ·)
  pure ⟨s.metadata.annotate v1alpha1SandboxStateAnnotation stateJSON, convertSpecTo s.spec,
    convertStatusTo s.status⟩

/-- The object `ConvertFrom` builds before it looks for the state annotation, with
the best-effort status replicas. -/
def Sandbox.ofHub (src : V1beta1.Sandbox K) : Sandbox K :=
  ⟨src.metadata, convertSpecFrom src.spec,
    { convertStatusFrom src.status with replicas := if src.spec.operatingMode = .suspended then 0 else 1 }⟩

/-- `s` once the replica counts of the stored object `original` are restored. -/
def Sandbox.restore (s : Sandbox K) (mode : SandboxOperatingMode) (original : Sandbox K) : Sandbox K :=
  ⟨s.metadata.unannotate v1alpha1SandboxStateAnnotation,
    { s.spec with replicas := restoredReplicas mode original.spec.replicas },
    { s.status with replicas := original.status.replicas }⟩

def Sandbox.convertFrom (unmarshal : String → Except String (Sandbox K)) (src : V1beta1.Sandbox K) :
    Except String (Sandbox K) :=
  match src.metadata.annotations.lookup v1alpha1SandboxStateAnnotation with
  | none => .ok (Sandbox.ofHub src)
  | some stateJSON => do
      let original ← (unmarshal stateJSON).mapError ("failed to unmarshal v1alpha1 Sandbox state: " ++ ·)
      pure ((Sandbox.ofHub src).restore src.spec.operatingMode original)

/-! ## Replicas and operating modes -/

theorem restoredReplicas_operatingModeOf (replicas : Option Int) :
    restoredReplicas (operatingModeOf replicas) replicas = replicas := by
  unfold operatingModeOf
  by_cases zero : replicas = some 0
  · rw [if_pos zero, zero]
    rfl
  · rw [if_neg zero, restoredReplicas, if_pos (Or.inr zero)]

theorem operatingModeOf_restoredReplicas (mode : SandboxOperatingMode) (original : Option Int) :
    operatingModeOf (restoredReplicas mode original) = mode := by
  cases mode with
  | suspended => rfl
  | running =>
      unfold restoredReplicas operatingModeOf
      by_cases zero : original = some 0 <;> simp [zero]

@[simp] theorem operatingModeOf_replicasOf (mode : SandboxOperatingMode) : operatingModeOf (replicasOf mode) = mode := by
  cases mode <;> rfl

/-! ## Spec and status round trips -/

theorem convertSpecFrom_convertSpecTo (spec : SandboxSpec K) :
    { convertSpecFrom (convertSpecTo spec) with replicas := spec.replicas } = spec := by
  simp [convertSpecFrom, convertSpecTo]

theorem convertSpecTo_convertSpecFrom (spec : V1beta1.SandboxSpec K) (replicas : Option Int) :
    convertSpecTo { convertSpecFrom spec with replicas := replicas } =
      { spec with operatingMode := operatingModeOf replicas } := by
  simp [convertSpecFrom, convertSpecTo]

@[simp] theorem convertSpecTo_convertSpecFrom_self (spec : V1beta1.SandboxSpec K) :
    convertSpecTo (convertSpecFrom spec) = spec := by
  simp [convertSpecFrom, convertSpecTo]

theorem convertStatusFrom_convertStatusTo (status : SandboxStatus K) :
    { convertStatusFrom (convertStatusTo status) with replicas := status.replicas } = status := rfl

theorem convertStatusTo_convertStatusFrom (status : V1beta1.SandboxStatus K) (replicas : Int) :
    convertStatusTo { convertStatusFrom status with replicas := replicas } = { status with nodeName := "" } := rfl

/-! ## What each direction returns -/

section Conversions

variable {marshal : Sandbox K → Except String String} {unmarshal : String → Except String (Sandbox K)}

theorem convertTo_eq_ok {s : Sandbox K} {stateJSON : String} (marshalled : marshal s.withoutState = .ok stateJSON) :
    s.convertTo marshal =
      .ok ⟨s.metadata.annotate v1alpha1SandboxStateAnnotation stateJSON, convertSpecTo s.spec,
        convertStatusTo s.status⟩ := by
  simp [Sandbox.convertTo, marshalled, Except.mapError, bind, Except.bind, pure, Except.pure]

theorem convertFrom_of_lookup_eq_some {src : V1beta1.Sandbox K} {stateJSON : String} {original : Sandbox K}
    (found : src.metadata.annotations.lookup v1alpha1SandboxStateAnnotation = some stateJSON)
    (parsed : unmarshal stateJSON = .ok original) :
    Sandbox.convertFrom unmarshal src = .ok ((Sandbox.ofHub src).restore src.spec.operatingMode original) := by
  simp [Sandbox.convertFrom, found, parsed, Except.mapError, bind, Except.bind, pure, Except.pure]

/-- What `ConvertFrom` can return: the object built from the hub when no state is
stored, or that object with the stored replica counts restored. -/
theorem convertFrom_eq_ok {src : V1beta1.Sandbox K} {s : Sandbox K}
    (converted : Sandbox.convertFrom unmarshal src = .ok s) :
    (src.metadata.annotations.lookup v1alpha1SandboxStateAnnotation = none ∧ s = Sandbox.ofHub src) ∨
      ∃ original, s = (Sandbox.ofHub src).restore src.spec.operatingMode original := by
  unfold Sandbox.convertFrom at converted
  split at converted
  · rename_i absent
    exact .inl ⟨absent, (Except.ok.inj converted).symm⟩
  · obtain ⟨original, -, restored⟩ := bind_eq_ok.mp converted
    exact .inr ⟨original, (pure_eq_ok.mp restored).symm⟩

end Conversions

/-! ## Round trips -/

/-- A v1alpha1 Sandbox converted to v1beta1 and back is the Sandbox itself, without
the state annotation, whenever the JSON `ConvertTo` stores reads back: its
replica counts, which v1beta1 cannot hold, come back from the stored copy. -/
theorem convertFrom_convertTo (marshal : Sandbox K → Except String String)
    (unmarshal : String → Except String (Sandbox K)) (s : Sandbox K) (stateJSON : String)
    (marshalled : marshal s.withoutState = .ok stateJSON) (readBack : unmarshal stateJSON = .ok s.withoutState) :
    (s.convertTo marshal >>= Sandbox.convertFrom unmarshal) = .ok s.withoutState := by
  rw [convertTo_eq_ok marshalled]
  simp only [bind, Except.bind]
  rw [convertFrom_of_lookup_eq_some (by simp) readBack]
  -- the stored copy differs from `s` only in its annotations
  have restored := restoredReplicas_operatingModeOf s.spec.replicas
  simp only [Sandbox.restore, Sandbox.ofHub, Sandbox.withoutState, ObjectMeta.unannotate_annotate_self]
  simp [convertSpecTo, convertSpecFrom, restored, convertStatusFrom, convertStatusTo]

/-- Core types with one value each, to run the conversions on a concrete object. -/
def unitTypes : CoreTypes := ⟨Unit, Unit, Unit, Unit, Unit, Unit, Unit⟩

/-- A v1alpha1 Sandbox asking for three replicas, which v1beta1 cannot say. -/
def threeReplicas : Sandbox unitTypes :=
  ⟨⟨"python-sandbox", ∅, ()⟩, ⟨⟨(), ⟨∅, ∅⟩⟩, [], ⟨none, some "Retain"⟩, some 3, none⟩, ⟨"", "", [], 3, "", []⟩⟩

theorem convertFrom_convertTo_threeReplicas :
    (threeReplicas.convertTo (fun _ => .ok "stored") >>= Sandbox.convertFrom fun _ => .ok threeReplicas.withoutState) =
      .ok threeReplicas.withoutState :=
  convertFrom_convertTo _ _ threeReplicas "stored" rfl rfl

/-- A v1beta1 Sandbox converted to v1alpha1, as a v1alpha1 client reads it, and
back, as that client writes it unchanged, keeps its spec, operating mode
included, and its status but for the node name; its state annotation is the new
stored copy. -/
theorem convertTo_convertFrom (marshal : Sandbox K → Except String String)
    (unmarshal : String → Except String (Sandbox K)) (h : V1beta1.Sandbox K) (s : Sandbox K)
    (converted : Sandbox.convertFrom unmarshal h = .ok s) (stateJSON : String)
    (marshalled : marshal s.withoutState = .ok stateJSON) :
    s.convertTo marshal =
      .ok ⟨h.metadata.annotate v1alpha1SandboxStateAnnotation stateJSON, h.spec, { h.status with nodeName := "" }⟩ := by
  rw [convertTo_eq_ok marshalled]
  rcases convertFrom_eq_ok converted with ⟨-, rfl⟩ | ⟨original, rfl⟩
  · -- nothing was stored: the replicas follow the operating mode
    simp only [Sandbox.ofHub, convertSpecTo_convertSpecFrom_self, convertStatusTo_convertStatusFrom]
  · -- the restored replicas ask for the same operating mode
    have mode := operatingModeOf_restoredReplicas h.spec.operatingMode original.spec.replicas
    simp only [Sandbox.restore, Sandbox.ofHub, ObjectMeta.annotate_unannotate_self,
      convertStatusTo_convertStatusFrom]
    rw [convertSpecTo_convertSpecFrom, mode]

/-- A v1beta1 Sandbox scheduled on a node, as a v1beta1 client created it. -/
def runningOnNode : V1beta1.Sandbox unitTypes :=
  ⟨⟨"python-sandbox", ∅, ()⟩, ⟨⟨(), ⟨∅, ∅⟩⟩, [], some true, ⟨none, none⟩, .running⟩, ⟨"", "", [], "", ["10.0.0.7"], "node-1"⟩⟩

theorem convertTo_convertFrom_runningOnNode :
    (Sandbox.ofHub runningOnNode).convertTo (fun _ => .ok "stored") =
      .ok ⟨runningOnNode.metadata.annotate v1alpha1SandboxStateAnnotation "stored", runningOnNode.spec,
        { runningOnNode.status with nodeName := "" }⟩ :=
  convertTo_convertFrom (fun _ => .ok "stored") (fun _ => .error "unused") runningOnNode _ rfl "stored" rfl

end V1alpha1

end AgentSandbox.Api
