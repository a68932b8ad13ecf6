import AgentSandbox.Api.Sandbox
import AgentSandbox.Lib.GoStrings
import AgentSandbox.Claim.VolumeClaimTemplates

/-!
# Converting the extensions' objects between v1alpha1 and v1beta1

Model of `extensions/api/v1alpha1/sandboxclaim_conversion.go`,
`sandboxtemplate_conversion.go` and `sandboxwarmpool_conversion.go`, with v1beta1
the hub as for the Sandbox.

A v1alpha1 claim names a template and a warm pool policy; a v1beta1 claim names
one warm pool, which `convertClaimSpecTo` derives from the policy, the template
(`shadow-pool-` and the template's name for a cold start) or the adopted
Sandbox's name (for a warm start).  `ConvertFrom` restores the v1alpha1 fields
from the stored copy while the hub's warm pool still matches them.  A template's
v1beta1-only `VolumeClaimTemplatesPolicy` travels through an annotation of the
v1alpha1 object; a warm pool's replica count is optional in v1beta1.

Each v1alpha1 object converted to the hub and back is itself without the state
annotation (`convertClaimFrom_convertClaimTo`,
`convertTemplateFrom_convertTemplateTo`, `convertWarmPoolFrom_convertWarmPoolTo`).
A v1beta1 object converted to v1alpha1 and back keeps a template's policy
(`convertTemplateTo_convertTemplateFrom`), but a claim comes back with its warm
pool re-derived and without its volume claim templates, which v1alpha1 has no
field for and the stored state does not hold (`convertClaimTo_convertClaimFrom`).
-/

set_option autoImplicit false

namespace AgentSandbox.Api.Extensions

open GoErrors GoStrings
open AgentSandbox.Api.V1alpha1 (convertPodTemplateTo convertPodTemplateFrom convertPVCClaimTemplateTo
  convertPVCClaimTemplateFrom unitTypes)
open AgentSandbox.Claim (VolumeClaimTemplatesPolicyDisallowed VolumeClaimTemplatesPolicyAllowed
  VolumeClaimTemplatesPolicyOverrides)

section Types

variable (K : CoreTypes)

/-! The types below have the same fields in both versions. -/

structure SandboxTemplateRef where
  name : String

/-- A claim's `Lifecycle`; `ShutdownPolicy` is a string type in both versions. -/
structure Lifecycle where
  shutdownTime : Option K.Time
  ttlSecondsAfterFinished : Option Int
  shutdownPolicy : String

structure EnvVar where
  name : String
  value : String
  containerName : String

/-- A claim's `SandboxStatus`. -/
structure SandboxStatus where
  name : String
  podIPs : List String

structure SandboxClaimStatus where
  conditions : List K.Condition
  sandboxStatus : SandboxStatus

structure NetworkPolicySpec where
  ingress : List K.NetworkPolicyIngressRule
  egress : List K.NetworkPolicyEgressRule

/-- `SandboxWarmPoolUpdateStrategy`; its `Type` is a string type in both versions. -/
structure SandboxWarmPoolUpdateStrategy where
  type : String

structure SandboxWarmPoolStatus where
  replicas : Int
  readyReplicas : Int
  selector : String

end Types

namespace V1alpha1

variable (K : CoreTypes)

/-- v1alpha1 `SandboxClaimSpec`; `WarmPool` is a `*WarmPoolPolicy`, a string type. -/
structure SandboxClaimSpec where
  templateRef : SandboxTemplateRef
  lifecycle : Option (Lifecycle K)
  warmPool : Option String
  additionalPodMetadata : PodMetadata
  env : List EnvVar

structure SandboxClaim where
  metadata : ObjectMeta K
  spec : SandboxClaimSpec K
  status : SandboxClaimStatus K

/-- v1alpha1 `SandboxTemplateSpec`; the two policies are string types. -/
structure SandboxTemplateSpec where
  podTemplate : PodTemplate K
  volumeClaimTemplates : List (PersistentVolumeClaimTemplate K)
  networkPolicy : Option (NetworkPolicySpec K)
  networkPolicyManagement : String
  envVarsInjectionPolicy : String
  service : Option Bool

structure SandboxTemplate where
  metadata : ObjectMeta K
  spec : SandboxTemplateSpec K

structure SandboxWarmPoolSpec where
  replicas : Int
  templateRef : SandboxTemplateRef
  updateStrategy : Option SandboxWarmPoolUpdateStrategy

structure SandboxWarmPool where
  metadata : ObjectMeta K
  spec : SandboxWarmPoolSpec
  status : SandboxWarmPoolStatus

end V1alpha1

namespace V1beta1

variable (K : CoreTypes)

structure SandboxWarmPoolRef where
  name : String

/-- v1beta1 `SandboxClaimSpec`, with the volume claim templates v1alpha1 lacks. -/
structure SandboxClaimSpec where
  warmPoolRef : SandboxWarmPoolRef
  lifecycle : Option (Lifecycle K)
  additionalPodMetadata : PodMetadata
  env : List EnvVar
  volumeClaimTemplates : List (PersistentVolumeClaimTemplate K)

structure SandboxClaim where
  metadata : ObjectMeta K
  spec : SandboxClaimSpec K
  status : SandboxClaimStatus K

/-- v1beta1 `SandboxTemplateSpec`, with the `VolumeClaimTemplatesPolicy` v1alpha1 lacks. -/
structure SandboxTemplateSpec where
  podTemplate : PodTemplate K
  volumeClaimTemplates : List (PersistentVolumeClaimTemplate K)
  networkPolicy : Option (NetworkPolicySpec K)
  networkPolicyManagement : String
  envVarsInjectionPolicy : String
  service : Option Bool
  volumeClaimTemplatesPolicy : String

structure SandboxTemplate where
  metadata : ObjectMeta K
  spec : SandboxTemplateSpec K

/-- v1beta1 `SandboxWarmPoolSpec`, whose replica count is a pointer. -/
structure SandboxWarmPoolSpec where
  replicas : Option Int
  templateRef : SandboxTemplateRef
  updateStrategy : Option SandboxWarmPoolUpdateStrategy

structure SandboxWarmPool where
  metadata : ObjectMeta K
  spec : SandboxWarmPoolSpec
  status : SandboxWarmPoolStatus

end V1beta1

namespace V1alpha1

variable {K : CoreTypes}

/-! ## SandboxClaim -/

def v1alpha1SandboxClaimStateAnnotation : String := "api.agents.x-k8s.io/v1alpha1-sandboxclaim-state"

def WarmPoolPolicyNone : String := "none"

def WarmPoolPolicyDefault : String := "default"

/-- `WarmPoolPolicy.IsSpecificPool`: the policy names one warm pool. -/
def isSpecificPool (p : String) : Bool := p != WarmPoolPolicyNone && p != WarmPoolPolicyDefault && p != ""

def stripRandomSuffix (name : String) : String := (beforeLast name '-').getD name

def isWarmPoolRefMatching (actualName expectedName sandboxName : String) : Bool :=
  if actualName == expectedName then true
  else if actualName == "shadow-pool-" ++ expectedName then true
  else if sandboxName != "" && (actualName == sandboxName || actualName == stripRandomSuffix sandboxName) then true
  else false

/-- The `Lifecycle` literal both directions build. -/
def convertLifecycle (l : Lifecycle K) : Lifecycle K := ⟨l.shutdownTime, l.ttlSecondsAfterFinished, l.shutdownPolicy⟩

/-- The `EnvVar` literal both directions build. -/
def convertEnvVar (e : EnvVar) : EnvVar := ⟨e.name, e.value, e.containerName⟩

def convertPodMetadataToClaim (src : PodMetadata) : PodMetadata := ⟨src.labels, src.annotations⟩

def convertPodMetadataFromClaim (src : PodMetadata) : PodMetadata := ⟨src.labels, src.annotations⟩

/-- The warm pool `convertClaimSpecTo` names: the specific pool of the policy, else
the pool the adopted Sandbox came from, else the template's shadow pool. -/
def warmPoolRefNameOf (warmPool : Option String) (templateRef : SandboxTemplateRef)
    (claimName sandboxName : String) : String :=
  match warmPool.filter isSpecificPool with
  | some pool => pool
  | none =>
      -- a warm start adopted a Sandbox named after its pool; a cold start, or no Sandbox yet,
      -- gets the template's shadow pool
      if sandboxName != "" && claimName != sandboxName then stripRandomSuffix sandboxName
      else "shadow-pool-" ++ templateRef.name

def convertClaimSpecTo (src : SandboxClaimSpec K) (claimName sandboxName : String) :
    V1beta1.SandboxClaimSpec K where
  warmPoolRef := ⟨warmPoolRefNameOf src.warmPool src.templateRef claimName sandboxName⟩
  lifecycle := src.lifecycle.map convertLifecycle
  additionalPodMetadata := convertPodMetadataToClaim src.additionalPodMetadata
  env := src.env.map convertEnvVar
  -- not written: the fresh hub object's slice stays nil
  volumeClaimTemplates := []

/-- The template and policy `convertClaimSpecFrom` reads off a warm pool name. -/
def templateRefAndWarmPoolOf (warmPoolRefName : String) : SandboxTemplateRef × Option String :=
  match cutPrefix warmPoolRefName "shadow-pool-" with
  | some templateName => (⟨templateName⟩, some WarmPoolPolicyDefault)
  | none => (⟨warmPoolRefName⟩, some warmPoolRefName)

def convertClaimSpecFrom (src : V1beta1.SandboxClaimSpec K) : SandboxClaimSpec K where
  templateRef := (templateRefAndWarmPoolOf src.warmPoolRef.name).1
  lifecycle := src.lifecycle.map convertLifecycle
  warmPool := (templateRefAndWarmPoolOf src.warmPoolRef.name).2
  additionalPodMetadata := convertPodMetadataFromClaim src.additionalPodMetadata
  env := src.env.map convertEnvVar

def convertClaimStatusTo (src : SandboxClaimStatus K) : SandboxClaimStatus K :=
  ⟨src.conditions, ⟨src.sandboxStatus.name, src.sandboxStatus.podIPs⟩⟩

def convertClaimStatusFrom (src : SandboxClaimStatus K) : SandboxClaimStatus K :=
  ⟨src.conditions, ⟨src.sandboxStatus.name, src.sandboxStatus.podIPs⟩⟩

/-- The object `ConvertTo` serializes: a copy without the state annotation. -/
def SandboxClaim.withoutState (s : SandboxClaim K) : SandboxClaim K :=
  { s with metadata := s.metadata.unannotate v1alpha1SandboxClaimStateAnnotation }

def SandboxClaim.convertTo (marshal : SandboxClaim K → Except String String) (s : SandboxClaim K) :
    Except String (V1beta1.SandboxClaim K) := do
  let stateJSON ← (marshal s.withoutState).mapError ("failed to marshal v1alpha1 SandboxClaim state: " ++ ·)
  pure ⟨s.metadata.annotate v1alpha1SandboxClaimStateAnnotation stateJSON,
    convertClaimSpecTo s.spec s.metadata.name s.status.sandboxStatus.name, convertClaimStatusTo s.status⟩

/-- The object `ConvertFrom` builds before it looks for the state annotation. -/
def SandboxClaim.ofHub (src : V1beta1.SandboxClaim K) : SandboxClaim K :=
  ⟨src.metadata, convertClaimSpecFrom src.spec, convertClaimStatusFrom src.status⟩

/-- The warm pool name the stored spec stands for. -/
def expectedWarmPoolRefName (original : SandboxClaimSpec K) : String :=
  (original.warmPool.filter isSpecificPool).getD original.templateRef.name

/-- `s` once the template and policy of the stored object `original` are restored:
both while the hub's warm pool matches them, only the template once the warm
pool was changed in v1beta1. -/
def SandboxClaim.restore (s : SandboxClaim K) (src : V1beta1.SandboxClaim K) (original : SandboxClaim K) :
    SandboxClaim K :=
  ⟨s.metadata.unannotate v1alpha1SandboxClaimStateAnnotation,
    if isWarmPoolRefMatching src.spec.warmPoolRef.name (expectedWarmPoolRefName original.spec)
        src.status.sandboxStatus.name then
      { s.spec with templateRef := original.spec.templateRef, warmPool := original.spec.warmPool }
    else { s.spec with warmPool := some src.spec.warmPoolRef.name, templateRef := original.spec.templateRef },
    s.status⟩

def SandboxClaim.convertFrom (unmarshal : String → Except String (SandboxClaim K)) (src : V1beta1.SandboxClaim K) :
    Except String (SandboxClaim K) :=
  match src.metadata.annotations.lookup v1alpha1SandboxClaimStateAnnotation with
  | none => .ok (SandboxClaim.ofHub src)
  | some stateJSON => do
      let original ← (unmarshal stateJSON).mapError ("failed to unmarshal v1alpha1 SandboxClaim state: " ++ ·)
      pure ((SandboxClaim.ofHub src).restore src original)

/-! ### The claim's parts -/

@[simp] theorem convertLifecycle_eq : (convertLifecycle : Lifecycle K → Lifecycle K) = id := rfl

@[simp] theorem convertEnvVar_eq : convertEnvVar = id := rfl

theorem isWarmPoolRefMatching_warmPoolRefNameOf (spec : SandboxClaimSpec K) (claimName sandboxName : String) :
    isWarmPoolRefMatching (warmPoolRefNameOf spec.warmPool spec.templateRef claimName sandboxName)
      (expectedWarmPoolRefName spec) sandboxName = true := by
  unfold warmPoolRefNameOf expectedWarmPoolRefName
  cases specific : spec.warmPool.filter isSpecificPool with
  | some pool => simp [isWarmPoolRefMatching]
  | none =>
      -- the fallback names either the adopted Sandbox's pool or the template's shadow pool
      by_cases warm : (sandboxName != "" && claimName != sandboxName) = true
      · have named : sandboxName ≠ "" := by simpa using (Bool.and_eq_true _ _).mp warm |>.1
        simp [isWarmPoolRefMatching, warm, named]
      · simp [isWarmPoolRefMatching, warm]

@[simp] theorem convertClaimSpecTo_warmPoolRef (spec : SandboxClaimSpec K) (claimName sandboxName : String) :
    (convertClaimSpecTo spec claimName sandboxName).warmPoolRef =
      ⟨warmPoolRefNameOf spec.warmPool spec.templateRef claimName sandboxName⟩ := rfl

theorem convertClaimSpecFrom_convertClaimSpecTo (spec : SandboxClaimSpec K) (claimName sandboxName : String) :
    { convertClaimSpecFrom (convertClaimSpecTo spec claimName sandboxName) with
        templateRef := spec.templateRef, warmPool := spec.warmPool } = spec := by
  simp [convertClaimSpecFrom, convertClaimSpecTo, convertPodMetadataFromClaim, convertPodMetadataToClaim]

@[simp] theorem convertClaimStatusFrom_convertClaimStatusTo (status : SandboxClaimStatus K) :
    convertClaimStatusFrom (convertClaimStatusTo status) = status := rfl

@[simp] theorem convertClaimStatusTo_convertClaimStatusFrom (status : SandboxClaimStatus K) :
    convertClaimStatusTo (convertClaimStatusFrom status) = status := rfl

/-- Back in v1beta1, the spec keeps everything but its warm pool, which the v1alpha1
fields name again, and its volume claim templates, which are gone. -/
theorem convertClaimSpecTo_convertClaimSpecFrom (spec : V1beta1.SandboxClaimSpec K) (templateRef : SandboxTemplateRef)
    (warmPool : Option String) (claimName sandboxName : String) :
    convertClaimSpecTo { convertClaimSpecFrom spec with templateRef := templateRef, warmPool := warmPool }
        claimName sandboxName =
      { spec with
        warmPoolRef := ⟨warmPoolRefNameOf warmPool templateRef claimName sandboxName⟩
        volumeClaimTemplates := [] } := by
  simp [convertClaimSpecFrom, convertClaimSpecTo, convertPodMetadataFromClaim, convertPodMetadataToClaim]

theorem restore_of_matching {s : SandboxClaim K} {src : V1beta1.SandboxClaim K} {original : SandboxClaim K}
    (matching : isWarmPoolRefMatching src.spec.warmPoolRef.name (expectedWarmPoolRefName original.spec)
      src.status.sandboxStatus.name = true) :
    s.restore src original =
      ⟨s.metadata.unannotate v1alpha1SandboxClaimStateAnnotation,
        { s.spec with templateRef := original.spec.templateRef, warmPool := original.spec.warmPool }, s.status⟩ := by
  simp only [SandboxClaim.restore, matching, if_true]

/-! ### What each direction of the claim conversion returns -/

section ClaimConversions

variable {marshal : SandboxClaim K → Except String String} {unmarshal : String → Except String (SandboxClaim K)}

theorem convertClaimTo_eq_ok {s : SandboxClaim K} {stateJSON : String}
    (marshalled : marshal s.withoutState = .ok stateJSON) :
    s.convertTo marshal =
      .ok ⟨s.metadata.annotate v1alpha1SandboxClaimStateAnnotation stateJSON,
        convertClaimSpecTo s.spec s.metadata.name s.status.sandboxStatus.name, convertClaimStatusTo s.status⟩ := by
  simp [SandboxClaim.convertTo, marshalled, Except.mapError, bind, Except.bind, pure, Except.pure]

theorem convertClaimFrom_of_lookup_eq_some {src : V1beta1.SandboxClaim K} {stateJSON : String}
    {original : SandboxClaim K}
    (found : src.metadata.annotations.lookup v1alpha1SandboxClaimStateAnnotation = some stateJSON)
    (parsed : unmarshal stateJSON = .ok original) :
    SandboxClaim.convertFrom unmarshal src = .ok ((SandboxClaim.ofHub src).restore src original) := by
  simp [SandboxClaim.convertFrom, found, parsed, Except.mapError, bind, Except.bind, pure, Except.pure]

theorem convertClaimFrom_eq_ok {src : V1beta1.SandboxClaim K} {s : SandboxClaim K}
    (converted : SandboxClaim.convertFrom unmarshal src = .ok s) :
    (src.metadata.annotations.lookup v1alpha1SandboxClaimStateAnnotation = none ∧ s = SandboxClaim.ofHub src) ∨
      ∃ original, s = (SandboxClaim.ofHub src).restore src original := by
  unfold SandboxClaim.convertFrom at converted
  split at converted
  · rename_i absent
    exact .inl ⟨absent, (Except.ok.inj converted).symm⟩
  · obtain ⟨original, -, restored⟩ := bind_eq_ok.mp converted
    exact .inr ⟨original, (pure_eq_ok.mp restored).symm⟩

/-- Whatever `ConvertFrom` returns is the hub's object with at most the state
annotation gone and the template and policy chosen. -/
theorem convertClaimFrom_shape {src : V1beta1.SandboxClaim K} {s : SandboxClaim K}
    (converted : SandboxClaim.convertFrom unmarshal src = .ok s) :
    (s.metadata = src.metadata ∨ s.metadata = src.metadata.unannotate v1alpha1SandboxClaimStateAnnotation) ∧
      (∃ templateRef warmPool, s.spec = { convertClaimSpecFrom src.spec with templateRef, warmPool }) ∧
      s.status = convertClaimStatusFrom src.status := by
  rcases convertClaimFrom_eq_ok converted with ⟨-, rfl⟩ | ⟨original, rfl⟩
  · exact ⟨.inl rfl, ⟨_, _, rfl⟩, rfl⟩
  · refine ⟨.inr rfl, ?_, rfl⟩
    unfold SandboxClaim.restore
    split
    · exact ⟨_, _, rfl⟩
    · exact ⟨_, _, rfl⟩

end ClaimConversions

/-! ### Claim round trips -/

/-- A v1alpha1 claim converted to v1beta1 and back is the claim itself, without the
state annotation, whenever the stored JSON reads back: whichever way its warm
pool was derived (a specific pool, a warm start, a cold start), the hub's warm
pool matches the stored spec, and the template and policy come back from it. -/
theorem convertClaimFrom_convertClaimTo (marshal : SandboxClaim K → Except String String)
    (unmarshal : String → Except String (SandboxClaim K)) (s : SandboxClaim K) (stateJSON : String)
    (marshalled : marshal s.withoutState = .ok stateJSON) (readBack : unmarshal stateJSON = .ok s.withoutState) :
    (s.convertTo marshal >>= SandboxClaim.convertFrom unmarshal) = .ok s.withoutState := by
  rw [convertClaimTo_eq_ok marshalled]
  simp only [bind, Except.bind]
  rw [convertClaimFrom_of_lookup_eq_some (by simp) readBack]
  rw [restore_of_matching (isWarmPoolRefMatching_warmPoolRefNameOf s.spec s.metadata.name s.status.sandboxStatus.name)]
  simp only [SandboxClaim.ofHub, SandboxClaim.withoutState, ObjectMeta.unannotate_annotate_self,
    convertClaimSpecFrom_convertClaimSpecTo, convertClaimStatusFrom_convertClaimStatusTo]

/-- A claim that adopted the Sandbox `python-pool-x7k2p` from the warm pool `python-pool`. -/
def warmStarted : SandboxClaim unitTypes :=
  ⟨⟨"my-claim", ∅, ()⟩, ⟨⟨"python"⟩, none, some WarmPoolPolicyDefault, ⟨∅, ∅⟩, []⟩,
    ⟨[], ⟨"python-pool-x7k2p", ["10.0.0.9"]⟩⟩⟩

theorem convertClaimFrom_convertClaimTo_warmStarted :
    (warmStarted.convertTo (fun _ => .ok "stored") >>= SandboxClaim.convertFrom fun _ => .ok warmStarted.withoutState) =
      .ok warmStarted.withoutState :=
  convertClaimFrom_convertClaimTo _ _ warmStarted "stored" rfl rfl

/-- The v1alpha1 fields a warm pool reference converts to name it again, when it names a
specific pool, or a template's shadow pool while no warm start renamed it. -/
theorem warmPoolRefNameOf_templateRefAndWarmPoolOf {name claimName sandboxName : String}
    (kept : (cutPrefix name "shadow-pool-" = none ∧ isSpecificPool name = true) ∨
      ((∃ templateName, name = "shadow-pool-" ++ templateName) ∧ (sandboxName = "" ∨ sandboxName = claimName))) :
    warmPoolRefNameOf (templateRefAndWarmPoolOf name).2 (templateRefAndWarmPoolOf name).1 claimName sandboxName = name := by
  rcases kept with ⟨uncut, specific⟩ | ⟨⟨templateName, rfl⟩, cold⟩
  · simp [templateRefAndWarmPoolOf, uncut, warmPoolRefNameOf, Option.filter, specific]
  · have cut : cutPrefix ("shadow-pool-" ++ templateName) "shadow-pool-" = some templateName :=
      cutPrefix_eq_some.mpr rfl
    have notSpecific : isSpecificPool WarmPoolPolicyDefault = false := by decide
    simp only [templateRefAndWarmPoolOf, cut, warmPoolRefNameOf, Option.filter, notSpecific]
    -- a cold start, or no Sandbox yet: the shadow pool of the template
    rcases cold with empty | same
    · simp [empty]
    · simp [same]

/-- A v1beta1 claim that never passed through v1alpha1, converted to v1alpha1 and back,
comes back with only the state annotation added and its volume claim templates gone,
whenever its warm pool reference names a specific pool, or a template's shadow pool
while the claim has no warm-started Sandbox: the reference survives the trip. -/
theorem convertClaimTo_convertClaimFrom (marshal : SandboxClaim K → Except String String)
    (unmarshal : String → Except String (SandboxClaim K)) (h : V1beta1.SandboxClaim K) (stateJSON : String)
    (unstamped : h.metadata.annotations.lookup v1alpha1SandboxClaimStateAnnotation = none)
    (marshalled : marshal (SandboxClaim.ofHub h).withoutState = .ok stateJSON)
    (kept : (cutPrefix h.spec.warmPoolRef.name "shadow-pool-" = none ∧ isSpecificPool h.spec.warmPoolRef.name = true) ∨
      ((∃ templateName, h.spec.warmPoolRef.name = "shadow-pool-" ++ templateName) ∧
        (h.status.sandboxStatus.name = "" ∨ h.status.sandboxStatus.name = h.metadata.name))) :
    (SandboxClaim.convertFrom unmarshal h >>= SandboxClaim.convertTo marshal) =
      .ok ⟨h.metadata.annotate v1alpha1SandboxClaimStateAnnotation stateJSON,
        { h.spec with volumeClaimTemplates := [] }, h.status⟩ := by
  have converted : SandboxClaim.convertFrom unmarshal h = .ok (SandboxClaim.ofHub h) := by
    simp [SandboxClaim.convertFrom, unstamped]
  rw [converted]
  simp only [bind, Except.bind]
  rw [convertClaimTo_eq_ok marshalled]
  have named := warmPoolRefNameOf_templateRefAndWarmPoolOf kept
  have sandboxName : (convertClaimStatusFrom h.status).sandboxStatus.name = h.status.sandboxStatus.name := rfl
  simp only [SandboxClaim.ofHub, convertClaimSpecTo, convertClaimSpecFrom, sandboxName, named,
    convertClaimStatusTo_convertClaimStatusFrom]
  simp [convertPodMetadataFromClaim, convertPodMetadataToClaim]

/-- A v1beta1 claim on the warm pool `fast-pool` with a volume claim template. -/
def withVolumes : V1beta1.SandboxClaim unitTypes :=
  ⟨⟨"my-claim", ∅, ()⟩, ⟨⟨"fast-pool"⟩, none, ⟨∅, ∅⟩, [], [⟨⟨"workspace", ∅, ∅⟩, ()⟩]⟩, ⟨[], ⟨"", []⟩⟩⟩

theorem convertClaimTo_convertClaimFrom_withVolumes :
    (SandboxClaim.convertFrom (fun _ => .error "unused") withVolumes >>= SandboxClaim.convertTo fun _ => .ok "stored") =
      .ok ⟨withVolumes.metadata.annotate v1alpha1SandboxClaimStateAnnotation "stored",
        { withVolumes.spec with volumeClaimTemplates := [] }, withVolumes.status⟩ :=
  convertClaimTo_convertClaimFrom _ _ withVolumes "stored" rfl rfl (.inl ⟨by decide, by decide⟩)

/-! ## SandboxTemplate -/

def v1alpha1SandboxTemplateStateAnnotation : String := "api.agents.x-k8s.io/v1alpha1-sandboxtemplate-state"

/-- The annotation that carries a v1beta1 template's `VolumeClaimTemplatesPolicy`
through v1alpha1; the code spells the key out where it uses it. -/
def volumeClaimTemplatesPolicyAnnotation : String := "api.agents.x-k8s.io/v1beta1-volume-claim-templates-policy"

/-- The policies `ConvertTo` accepts from the annotation. -/
def volumeClaimTemplatesPolicies : List String :=
  [VolumeClaimTemplatesPolicyDisallowed, VolumeClaimTemplatesPolicyAllowed, VolumeClaimTemplatesPolicyOverrides]

/-- The `NetworkPolicySpec` literal both directions build. -/
def convertNetworkPolicySpec (p : NetworkPolicySpec K) : NetworkPolicySpec K := ⟨p.ingress, p.egress⟩

def convertTemplateSpecTo (src : SandboxTemplateSpec K) : V1beta1.SandboxTemplateSpec K where
  podTemplate := convertPodTemplateTo src.podTemplate
  volumeClaimTemplates := src.volumeClaimTemplates.map convertPVCClaimTemplateTo
  networkPolicy := src.networkPolicy.map convertNetworkPolicySpec
  networkPolicyManagement := src.networkPolicyManagement
  envVarsInjectionPolicy := src.envVarsInjectionPolicy
  service := src.service
  -- not written here: `ConvertTo` sets it from the annotation
  volumeClaimTemplatesPolicy := ""

def convertTemplateSpecFrom (src : V1beta1.SandboxTemplateSpec K) : SandboxTemplateSpec K where
  podTemplate := convertPodTemplateFrom src.podTemplate
  volumeClaimTemplates := src.volumeClaimTemplates.map convertPVCClaimTemplateFrom
  networkPolicy := src.networkPolicy.map convertNetworkPolicySpec
  networkPolicyManagement := src.networkPolicyManagement
  envVarsInjectionPolicy := src.envVarsInjectionPolicy
  service := src.service

/-- The object `ConvertTo` serializes: a copy without the state annotation. -/
def SandboxTemplate.withoutState (s : SandboxTemplate K) : SandboxTemplate K :=
  { s with metadata := s.metadata.unannotate v1alpha1SandboxTemplateStateAnnotation }

/-- The policy `ConvertTo` takes from its annotation, which the hub object then
drops; an unknown value is an error, quoted by `quote` as `%q` quotes. -/
def restoreVolumeClaimTemplatesPolicy (quote : String → String) (metadata : ObjectMeta K)
    (spec : V1beta1.SandboxTemplateSpec K) : Except String (ObjectMeta K × V1beta1.SandboxTemplateSpec K) :=
  match metadata.annotations.lookup volumeClaimTemplatesPolicyAnnotation with
  | none => .ok (metadata, spec)
  | some policy =>
      if policy ∈ volumeClaimTemplatesPolicies then
        .ok (metadata.unannotate volumeClaimTemplatesPolicyAnnotation,
          { spec with volumeClaimTemplatesPolicy := policy })
      else .error ("invalid VolumeClaimTemplatesPolicy annotation value: " ++ quote policy)

def SandboxTemplate.convertTo (quote : String → String) (marshal : SandboxTemplate K → Except String String)
    (s : SandboxTemplate K) : Except String (V1beta1.SandboxTemplate K) := do
  let restored ← restoreVolumeClaimTemplatesPolicy quote s.metadata (convertTemplateSpecTo s.spec)
  let stateJSON ← (marshal s.withoutState).mapError ("failed to marshal v1alpha1 SandboxTemplate state: " ++ ·)
  pure ⟨restored.1.annotate v1alpha1SandboxTemplateStateAnnotation stateJSON, restored.2⟩

/-- `ConvertFrom` never fails: it strips the state annotation and records the
policy, if any, in its annotation. -/
def SandboxTemplate.convertFrom (src : V1beta1.SandboxTemplate K) : SandboxTemplate K :=
  let metadata := src.metadata.unannotate v1alpha1SandboxTemplateStateAnnotation
  ⟨if src.spec.volumeClaimTemplatesPolicy ≠ "" then
      metadata.annotate volumeClaimTemplatesPolicyAnnotation src.spec.volumeClaimTemplatesPolicy
    else metadata.unannotate volumeClaimTemplatesPolicyAnnotation,
    convertTemplateSpecFrom src.spec⟩

/-- Two templates agree as Go values: their metadata up to the order of the
annotations, and their specs. -/
def SandboxTemplate.Equiv (t t' : SandboxTemplate K) : Prop := t.metadata.Equiv t'.metadata ∧ t.spec = t'.spec

/-! ### The template's parts -/

@[simp] theorem convertNetworkPolicySpec_eq : (convertNetworkPolicySpec : NetworkPolicySpec K → _) = id := rfl

@[simp] theorem convertTemplateSpecFrom_convertTemplateSpecTo (spec : SandboxTemplateSpec K) :
    convertTemplateSpecFrom (convertTemplateSpecTo spec) = spec := by
  simp [convertTemplateSpecFrom, convertTemplateSpecTo]

theorem convertTemplateSpecTo_convertTemplateSpecFrom (spec : V1beta1.SandboxTemplateSpec K) :
    convertTemplateSpecTo (convertTemplateSpecFrom spec) = { spec with volumeClaimTemplatesPolicy := "" } := by
  simp [convertTemplateSpecFrom, convertTemplateSpecTo]

theorem policyKey_ne_stateKey :
    volumeClaimTemplatesPolicyAnnotation ≠ v1alpha1SandboxTemplateStateAnnotation := by
  decide

theorem ne_empty_of_mem_volumeClaimTemplatesPolicies {policy : String} (valid : policy ∈ volumeClaimTemplatesPolicies) :
    policy ≠ "" := by
  rintro rfl
  simp [volumeClaimTemplatesPolicies, VolumeClaimTemplatesPolicyDisallowed, VolumeClaimTemplatesPolicyAllowed,
    VolumeClaimTemplatesPolicyOverrides] at valid

@[simp] theorem convertTemplateSpecFrom_setPolicy (spec : V1beta1.SandboxTemplateSpec K) (policy : String) :
    convertTemplateSpecFrom { spec with volumeClaimTemplatesPolicy := policy } = convertTemplateSpecFrom spec := rfl

/-! ### Template round trips -/

/-- What `ConvertTo` takes from the object `ConvertFrom` made of a hub template
whose policy is empty or valid: the hub's spec, policy included. -/
theorem restoreVolumeClaimTemplatesPolicy_convertFrom (quote : String → String) (h : V1beta1.SandboxTemplate K)
    (policy : h.spec.volumeClaimTemplatesPolicy = "" ∨ h.spec.volumeClaimTemplatesPolicy ∈ volumeClaimTemplatesPolicies) :
    restoreVolumeClaimTemplatesPolicy quote (SandboxTemplate.convertFrom h).metadata
        (convertTemplateSpecTo (SandboxTemplate.convertFrom h).spec) =
      .ok ((h.metadata.unannotate v1alpha1SandboxTemplateStateAnnotation).unannotate
        volumeClaimTemplatesPolicyAnnotation, h.spec) := by
  rcases policy with empty | valid
  · -- no policy: no annotation, and the empty policy is the one `convertTemplateSpecTo` leaves
    have unset : { h.spec with volumeClaimTemplatesPolicy := "" } = h.spec := by rw [← empty]
    simp [SandboxTemplate.convertFrom, restoreVolumeClaimTemplatesPolicy, empty,
      convertTemplateSpecTo_convertTemplateSpecFrom, unset]
  · have set := ne_empty_of_mem_volumeClaimTemplatesPolicies valid
    simp [SandboxTemplate.convertFrom, restoreVolumeClaimTemplatesPolicy, set, valid,
      convertTemplateSpecTo_convertTemplateSpecFrom]

/-- A v1beta1 template converted to v1alpha1 and back keeps its spec, its
v1beta1-only `VolumeClaimTemplatesPolicy` included, which travels through its
annotation; the metadata comes back with the state annotation replaced and
without the policy annotation. -/
theorem convertTemplateTo_convertTemplateFrom (quote : String → String)
    (marshal : SandboxTemplate K → Except String String) (h : V1beta1.SandboxTemplate K) (stateJSON : String)
    (policy : h.spec.volumeClaimTemplatesPolicy = "" ∨ h.spec.volumeClaimTemplatesPolicy ∈ volumeClaimTemplatesPolicies)
    (marshalled : marshal (SandboxTemplate.convertFrom h).withoutState = .ok stateJSON) :
    (SandboxTemplate.convertFrom h).convertTo quote marshal =
      .ok ⟨(h.metadata.unannotate volumeClaimTemplatesPolicyAnnotation).annotate
        v1alpha1SandboxTemplateStateAnnotation stateJSON, h.spec⟩ := by
  unfold SandboxTemplate.convertTo
  rw [restoreVolumeClaimTemplatesPolicy_convertFrom quote h policy]
  simp only [bind, Except.bind, marshalled, Except.mapError, pure, Except.pure]
  rw [ObjectMeta.unannotate_comm, ObjectMeta.annotate_unannotate_self]

/-- A v1beta1 template that allows claims to add volume claim templates. -/
def allowingTemplate : V1beta1.SandboxTemplate unitTypes :=
  ⟨⟨"python", ∅, ()⟩, ⟨⟨(), ⟨∅, ∅⟩⟩, [], none, "Managed", "Disallowed", none, VolumeClaimTemplatesPolicyAllowed⟩⟩

theorem convertTemplateTo_convertTemplateFrom_allowingTemplate :
    (SandboxTemplate.convertFrom allowingTemplate).convertTo id (fun _ => .ok "stored") =
      .ok ⟨(allowingTemplate.metadata.unannotate volumeClaimTemplatesPolicyAnnotation).annotate
        v1alpha1SandboxTemplateStateAnnotation "stored", allowingTemplate.spec⟩ :=
  convertTemplateTo_convertTemplateFrom id _ allowingTemplate "stored" (.inr (by decide)) rfl

/-- An annotation holding a policy v1beta1 does not know stops `ConvertTo`, whose
error quotes the value. -/
theorem convertTemplateTo_eq_error (quote : String → String) (marshal : SandboxTemplate K → Except String String)
    {s : SandboxTemplate K} {policy : String}
    (found : s.metadata.annotations.lookup volumeClaimTemplatesPolicyAnnotation = some policy)
    (invalid : policy ∉ volumeClaimTemplatesPolicies) :
    s.convertTo quote marshal = .error ("invalid VolumeClaimTemplatesPolicy annotation value: " ++ quote policy) := by
  simp [SandboxTemplate.convertTo, restoreVolumeClaimTemplatesPolicy, found, invalid, bind, Except.bind]

/-- The annotations `ConvertFrom` gives back once a valid policy made the round
trip: the policy's annotation is written again, and the state annotation is gone. -/
theorem annotations_equiv_of_policy (annotations : StrMap) (stateJSON : String) {policy : String}
    (found : annotations.lookup volumeClaimTemplatesPolicyAnnotation = some policy) :
    ((((annotations.delete volumeClaimTemplatesPolicyAnnotation).set v1alpha1SandboxTemplateStateAnnotation
        stateJSON).delete v1alpha1SandboxTemplateStateAnnotation).set volumeClaimTemplatesPolicyAnnotation
        policy).Equiv (annotations.delete v1alpha1SandboxTemplateStateAnnotation) := by
  intro k
  rw [StrMap.delete_set_self]
  by_cases isPolicy : k = volumeClaimTemplatesPolicyAnnotation
  · subst isPolicy
    rw [StrMap.lookup_set_self, StrMap.lookup_delete_of_ne _ policyKey_ne_stateKey, found]
  · rw [StrMap.lookup_set_of_ne _ _ isPolicy]
    by_cases isState : k = v1alpha1SandboxTemplateStateAnnotation
    · subst isState
      simp
    · simp [isPolicy, isState]

/-- A template whose annotation asks for the v1beta1 policy `Overrides`. -/
def overridingTemplate : SandboxTemplate unitTypes :=
  ⟨⟨"python", (∅ : StrMap).set volumeClaimTemplatesPolicyAnnotation VolumeClaimTemplatesPolicyOverrides, ()⟩,
    ⟨⟨(), ⟨∅, ∅⟩⟩, [], none, "Managed", "Disallowed", none⟩⟩

/-- A v1alpha1 template converted to v1beta1 and back is the template itself,
without the state annotation, as a Go value (its annotations may come back in
another order), whenever its policy annotation, if any, holds a policy v1beta1
knows; the policy makes the round trip through the hub's spec. -/
theorem convertTemplateFrom_convertTemplateTo (quote : String → String)
    (marshal : SandboxTemplate K → Except String String) (s : SandboxTemplate K) (stateJSON : String)
    (valid : ∀ policy, s.metadata.annotations.lookup volumeClaimTemplatesPolicyAnnotation = some policy →
      policy ∈ volumeClaimTemplatesPolicies)
    (marshalled : marshal s.withoutState = .ok stateJSON) :
    ∃ h, s.convertTo quote marshal = .ok h ∧ (SandboxTemplate.convertFrom h).Equiv s.withoutState := by
  cases found : s.metadata.annotations.lookup volumeClaimTemplatesPolicyAnnotation with
  | none =>
      refine ⟨⟨s.metadata.annotate v1alpha1SandboxTemplateStateAnnotation stateJSON, convertTemplateSpecTo s.spec⟩,
        ?_, ?_⟩
      · simp [SandboxTemplate.convertTo, restoreVolumeClaimTemplatesPolicy, found, marshalled, bind, Except.bind,
          Except.mapError, pure, Except.pure]
      · -- no policy went to the hub, and none comes back
        have absent : (s.metadata.unannotate v1alpha1SandboxTemplateStateAnnotation).annotations.lookup
            volumeClaimTemplatesPolicyAnnotation = none := by
          rw [ObjectMeta.annotations_unannotate,
            StrMap.lookup_delete_of_ne _ policyKey_ne_stateKey, found]
        simp only [SandboxTemplate.convertFrom, convertTemplateSpecTo, ObjectMeta.unannotate_annotate_self,
          ObjectMeta.unannotate_of_lookup_eq_none absent]
        refine ⟨⟨rfl, fun _ => rfl, rfl⟩, ?_⟩
        simp [convertTemplateSpecFrom, SandboxTemplate.withoutState]
  | some policy =>
      have known := valid policy found
      refine ⟨⟨(s.metadata.unannotate volumeClaimTemplatesPolicyAnnotation).annotate
          v1alpha1SandboxTemplateStateAnnotation stateJSON,
          { convertTemplateSpecTo s.spec with volumeClaimTemplatesPolicy := policy }⟩, ?_, ?_⟩
      · simp [SandboxTemplate.convertTo, restoreVolumeClaimTemplatesPolicy, found, known, marshalled, bind,
          Except.bind, Except.mapError, pure, Except.pure]
      · -- the policy comes back into its annotation
        have set := ne_empty_of_mem_volumeClaimTemplatesPolicies known
        simp only [SandboxTemplate.convertFrom, ne_eq, set, not_false_eq_true, ↓reduceIte]
        refine ⟨⟨rfl, annotations_equiv_of_policy _ stateJSON found, rfl⟩, ?_⟩
        simp [SandboxTemplate.withoutState]

theorem convertTemplateFrom_convertTemplateTo_overridingTemplate :
    ∃ h, overridingTemplate.convertTo id (fun _ => .ok "stored") = .ok h ∧
      (SandboxTemplate.convertFrom h).Equiv overridingTemplate.withoutState :=
  convertTemplateFrom_convertTemplateTo id _ overridingTemplate "stored"
    (fun policy found => by
      rw [overridingTemplate, StrMap.lookup_set_self, Option.some.injEq] at found
      rw [← found]
      decide)
    rfl

/-! ## SandboxWarmPool -/

def v1alpha1SandboxWarmPoolStateAnnotation : String := "api.agents.x-k8s.io/v1alpha1-sandboxwarmpool-state"

/-- The `SandboxWarmPoolUpdateStrategy` literal both directions build. -/
def convertUpdateStrategy (u : SandboxWarmPoolUpdateStrategy) : SandboxWarmPoolUpdateStrategy := ⟨u.type⟩

def convertWarmPoolSpecTo (src : SandboxWarmPoolSpec) : V1beta1.SandboxWarmPoolSpec :=
  ⟨some src.replicas, ⟨src.templateRef.name⟩, src.updateStrategy.map convertUpdateStrategy⟩

/-- A missing replica count reads as one. -/
def convertWarmPoolSpecFrom (src : V1beta1.SandboxWarmPoolSpec) : SandboxWarmPoolSpec :=
  ⟨src.replicas.getD 1, ⟨src.templateRef.name⟩, src.updateStrategy.map convertUpdateStrategy⟩

def convertWarmPoolStatusTo (src : SandboxWarmPoolStatus) : SandboxWarmPoolStatus :=
  ⟨src.replicas, src.readyReplicas, src.selector⟩

def convertWarmPoolStatusFrom (src : SandboxWarmPoolStatus) : SandboxWarmPoolStatus :=
  ⟨src.replicas, src.readyReplicas, src.selector⟩

/-- The object `ConvertTo` serializes: a copy without the state annotation. -/
def SandboxWarmPool.withoutState (s : SandboxWarmPool K) : SandboxWarmPool K :=
  { s with metadata := s.metadata.unannotate v1alpha1SandboxWarmPoolStateAnnotation }

def SandboxWarmPool.convertTo (marshal : SandboxWarmPool K → Except String String) (s : SandboxWarmPool K) :
    Except String (V1beta1.SandboxWarmPool K) := do
  let stateJSON ← (marshal s.withoutState).mapError ("failed to marshal v1alpha1 SandboxWarmPool state: " ++ ·)
  pure ⟨s.metadata.annotate v1alpha1SandboxWarmPoolStateAnnotation stateJSON, convertWarmPoolSpecTo s.spec,
    convertWarmPoolStatusTo s.status⟩

/-- `ConvertFrom` never fails, and reads nothing of the stored state but strips it. -/
def SandboxWarmPool.convertFrom (src : V1beta1.SandboxWarmPool K) : SandboxWarmPool K :=
  ⟨src.metadata.unannotate v1alpha1SandboxWarmPoolStateAnnotation, convertWarmPoolSpecFrom src.spec,
    convertWarmPoolStatusFrom src.status⟩

@[simp] theorem convertUpdateStrategy_eq : convertUpdateStrategy = id := rfl

theorem convertWarmPoolTo_eq_ok {marshal : SandboxWarmPool K → Except String String} {s : SandboxWarmPool K}
    {stateJSON : String} (marshalled : marshal s.withoutState = .ok stateJSON) :
    s.convertTo marshal =
      .ok ⟨s.metadata.annotate v1alpha1SandboxWarmPoolStateAnnotation stateJSON, convertWarmPoolSpecTo s.spec,
        convertWarmPoolStatusTo s.status⟩ := by
  simp [SandboxWarmPool.convertTo, marshalled, Except.mapError, bind, Except.bind, pure, Except.pure]

/-- A v1alpha1 warm pool converted to v1beta1 and back is the warm pool itself,
without the state annotation; nothing is read back from the stored copy. -/
theorem convertWarmPoolFrom_convertWarmPoolTo (marshal : SandboxWarmPool K → Except String String)
    (s : SandboxWarmPool K) (stateJSON : String) (marshalled : marshal s.withoutState = .ok stateJSON) :
    (s.convertTo marshal).map SandboxWarmPool.convertFrom = .ok s.withoutState := by
  rw [convertWarmPoolTo_eq_ok marshalled]
  simp [Except.map, SandboxWarmPool.convertFrom, SandboxWarmPool.withoutState, convertWarmPoolSpecFrom,
    convertWarmPoolSpecTo, convertWarmPoolStatusFrom, convertWarmPoolStatusTo]

/-- A v1beta1 warm pool converted to v1alpha1 and back keeps everything but an
unset replica count, which comes back as one. -/
theorem convertWarmPoolTo_convertWarmPoolFrom (marshal : SandboxWarmPool K → Except String String)
    (h : V1beta1.SandboxWarmPool K) (stateJSON : String)
    (marshalled : marshal (SandboxWarmPool.convertFrom h).withoutState = .ok stateJSON) :
    (SandboxWarmPool.convertFrom h).convertTo marshal =
      .ok ⟨h.metadata.annotate v1alpha1SandboxWarmPoolStateAnnotation stateJSON,
        { h.spec with replicas := some (h.spec.replicas.getD 1) }, h.status⟩ := by
  rw [convertWarmPoolTo_eq_ok marshalled]
  simp [SandboxWarmPool.convertFrom, convertWarmPoolSpecFrom, convertWarmPoolSpecTo, convertWarmPoolStatusFrom,
    convertWarmPoolStatusTo]

end V1alpha1

end AgentSandbox.Api.Extensions
