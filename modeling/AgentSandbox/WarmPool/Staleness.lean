import AgentSandbox.Claim.Adoption
import AgentSandbox.Claim.PodMetadata
import AgentSandbox.Claim.VolumeClaimTemplates

/-!
# Staleness of warm-pool Sandboxes

Model of `buildSandboxCR`, `isSandboxStale`, `comparePodSpecs`,
`compareVolumeClaimTemplates` and `compareSandboxBlueprint`
(`extensions/controllers/sandboxwarmpool_controller.go`) and of
`ApplySandboxSecureDefaults` (`extensions/controllers/utils.go`).

A Pod spec keeps the three fields `ApplySandboxSecureDefaults` writes and a
type parameter for the rest; a volume claim template's spec is a type
parameter too.  `equality.Semantic.DeepEqual` on them is a parameter
(`DeepEqual`), of which only reflexivity is used.  The memo `vettedHashes` is a
function from hashes to the verdicts recorded for them.

The build path defaults the template's Pod spec once, and the staleness path
defaults it once more before comparing, with the same template; so a Sandbox
built from a template compares equal to it, and is never judged stale against
it, owned or orphaned, whatever the memo holds (`isSandboxStale_buildSandboxCR`).
-/

set_option autoImplicit false

namespace AgentSandbox.WarmPool

open Claim Claim.Adoption
open Controller (NameHash OwnerReference getControllerOf SandboxWarmPoolLabel SandboxTemplateRefHashLabel CreatedByLabel)

def SandboxTemplateRefAnnotation : String := "agents.x-k8s.io/sandbox-template-ref"

def NetworkPolicyManagementManaged : String := "Managed"

def DNSNone : String := "None"

def SandboxTemplateRefHash (templateRefName : String) : String := NameHash templateRefName

structure PodDNSConfig where
  nameservers : List String
  searches : List String
  options : List (String × Option String)
deriving DecidableEq, Repr

/-- A `corev1.PodSpec`: the fields `ApplySandboxSecureDefaults` writes, and the
rest. -/
structure PodSpec (σ : Type) where
  automountServiceAccountToken : Option Bool
  dnsPolicy : String
  dnsConfig : Option PodDNSConfig
  rest : σ
deriving DecidableEq

structure PodTemplate (σ : Type) where
  labels : StrMap
  annotations : StrMap
  spec : PodSpec σ

structure SandboxBlueprint (σ ν : Type) where
  podTemplate : PodTemplate σ
  volumeClaimTemplates : List (PersistentVolumeClaimTemplate ν)
  service : Option Bool

structure SandboxTemplate (σ ν : Type) where
  name : String
  blueprint : SandboxBlueprint σ ν
  /-- Only whether `NetworkPolicy` is set is read. -/
  networkPolicy : Option Unit
  networkPolicyManagement : String

structure SandboxWarmPool where
  name : String
  «namespace» : String
  templateRefName : String

structure Sandbox (σ ν : Type) where
  generateName : String
  «namespace» : String
  labels : StrMap
  annotations : StrMap
  ownerReferences : List OwnerReference
  blueprint : SandboxBlueprint σ ν

structure SandboxWarmPoolReconciler where
  EnableWarmPoolEviction : Bool
  /-- `apiutil.GVKForObject(warmPool, r.Scheme)`, which `SetControllerReference`
  reads: the pool's API version and kind, or the scheme's error. -/
  poolKind : Except String (String × String)

/-- `equality.Semantic.DeepEqual` on Pod specs and on volume claim template
specs: any reflexive test. -/
structure DeepEqual (σ ν : Type) where
  podSpec : PodSpec σ → PodSpec σ → Bool
  claimSpec : ν → ν → Bool
  podSpec_refl : ∀ spec, podSpec spec spec = true
  claimSpec_refl : ∀ spec, claimSpec spec spec = true

/-- Structural equality, the finest reflexive test. -/
def DeepEqual.structural {σ ν : Type} [DecidableEq σ] [DecidableEq ν] : DeepEqual σ ν :=
  ⟨(· == ·), (· == ·), fun _ => beq_self_eq_true _, fun _ => beq_self_eq_true _⟩

variable {σ ν : Type}

def ApplySandboxSecureDefaults (template : SandboxTemplate σ ν) (spec : PodSpec σ) : PodSpec σ :=
  let spec := if spec.automountServiceAccountToken = none then { spec with automountServiceAccountToken := some false }
    else spec
  let management := template.networkPolicyManagement
  let isManaged := management == "" || management == NetworkPolicyManagementManaged
  let isSecureByDefault := isManaged && template.networkPolicy.isNone
  if isSecureByDefault && spec.dnsPolicy == "" then
    { spec with dnsPolicy := DNSNone, dnsConfig := some ⟨["8.8.8.8", "1.1.1.1"], [], []⟩ }
  else spec

/-- The Sandbox for the pool, or the error of `SetControllerReference`.  The
labels and annotations are Go map literals, written here key by key. -/
def SandboxWarmPoolReconciler.buildSandboxCR (r : SandboxWarmPoolReconciler) (warmPool : SandboxWarmPool)
    (poolNameHash : String) (template : SandboxTemplate σ ν) (currentPodTemplateHash currentSandboxBlueprintHash : String) :
    Except String (Sandbox σ ν) :=
  let sandboxLabels := (((((∅ : StrMap).set SandboxWarmPoolLabel poolNameHash).set SandboxTemplateRefHashLabel
    (SandboxTemplateRefHash warmPool.templateRefName)).set SandboxLaunchTypeLabel SandboxLaunchTypeWarm).set
    DeprecatedSandboxPodTemplateHashLabel currentPodTemplateHash).set SandboxTemplateHashLabel currentSandboxBlueprintHash
    |>.set CreatedByLabel "controller"
  let sandboxAnnotations := (∅ : StrMap).set SandboxTemplateRefAnnotation warmPool.templateRefName
  -- the deep copy of the shared blueprint
  let blueprint := template.blueprint
  let podLabels := (((blueprint.podTemplate.labels.set SandboxWarmPoolLabel poolNameHash).set SandboxTemplateRefHashLabel
    (SandboxTemplateRefHash warmPool.templateRefName)).set DeprecatedSandboxPodTemplateHashLabel currentPodTemplateHash).set
    SandboxTemplateHashLabel currentSandboxBlueprintHash
  let podAnnotations :=
    if blueprint.podTemplate.annotations.contains autoscalerSafeToEvictAnnotation then blueprint.podTemplate.annotations
    else if r.EnableWarmPoolEviction then blueprint.podTemplate.annotations.set autoscalerSafeToEvictAnnotation "true"
    else blueprint.podTemplate.annotations
  let spec := ApplySandboxSecureDefaults template blueprint.podTemplate.spec
  match r.poolKind with
  | .error err => .error s!"SetControllerReference for Sandbox failed: {err}"
  | .ok (apiVersion, kind) =>
    .ok ⟨warmPool.name ++ "-", warmPool.namespace, sandboxLabels, sandboxAnnotations, [⟨apiVersion, kind, some true⟩],
      { blueprint with podTemplate := ⟨podLabels, podAnnotations, spec⟩ }⟩

def comparePodSpecs (eq : DeepEqual σ ν) (template : SandboxTemplate σ ν) (actualSandboxSpec : PodSpec σ) : Bool :=
  let expectedSpec := ApplySandboxSecureDefaults template template.blueprint.podTemplate.spec
  eq.podSpec expectedSpec actualSandboxSpec

/-- The loop over the template's entries, index by index, after the length
check. -/
def compareVolumeClaimTemplates (eq : DeepEqual σ ν) (template : SandboxTemplate σ ν)
    (actualVCTs : List (PersistentVolumeClaimTemplate ν)) : Bool :=
  if template.blueprint.volumeClaimTemplates.length != actualVCTs.length then false
  else (template.blueprint.volumeClaimTemplates.zip actualVCTs).all fun (tmplVCT, actualVCT) =>
    tmplVCT.name == actualVCT.name && eq.claimSpec tmplVCT.spec actualVCT.spec

def compareSandboxBlueprint (eq : DeepEqual σ ν) (template : SandboxTemplate σ ν)
    (actualSandboxSpec : SandboxBlueprint σ ν) : Bool :=
  comparePodSpecs eq template actualSandboxSpec.podTemplate.spec &&
    compareVolumeClaimTemplates eq template actualSandboxSpec.volumeClaimTemplates &&
    template.blueprint.service == actualSandboxSpec.service

/-- The verdict, and the memo after the call. -/
def isSandboxStale (eq : DeepEqual σ ν) (sandbox : Sandbox σ ν) (template : SandboxTemplate σ ν)
    (currentSandboxBlueprintHash : String) (vettedHashes : String → Option Bool) : Bool × (String → Option Bool) :=
  let sandboxHash := sandbox.labels.get SandboxTemplateHashLabel
  if sandbox.labels.get SandboxTemplateRefHashLabel != SandboxTemplateRefHash template.name then (true, vettedHashes)
  -- an orphan is always compared in full
  else if (getControllerOf sandbox.ownerReferences).isNone then
    (!compareSandboxBlueprint eq template sandbox.blueprint, vettedHashes)
  else if sandboxHash != "" && sandboxHash == currentSandboxBlueprintHash then (false, vettedHashes)
  -- the current hash could not be computed: not stale, rather than delete the pool
  else if currentSandboxBlueprintHash == "" then (false, vettedHashes)
  else
    match (if sandboxHash != "" then vettedHashes sandboxHash else none) with
    | some isStale => (isStale, vettedHashes)
    | none =>
      let isStale := !compareSandboxBlueprint eq template sandbox.blueprint
      (isStale, if sandboxHash != "" then Function.update vettedHashes sandboxHash (some isStale) else vettedHashes)

/-! ## A built Sandbox against its template -/

section Built

variable (eq : DeepEqual σ ν) (template : SandboxTemplate σ ν)

theorem compareVolumeClaimTemplates_self :
    compareVolumeClaimTemplates eq template template.blueprint.volumeClaimTemplates = true := by
  unfold compareVolumeClaimTemplates
  rw [bne_self_eq_false, if_neg Bool.false_ne_true]
  -- each entry meets itself
  induction template.blueprint.volumeClaimTemplates with
  | nil => rfl
  | cons vct rest ih => simp [ih, eq.claimSpec_refl]

/-- A blueprint whose Pod spec is the template's, defaulted, and whose volume
claim templates and Service are the template's, compares equal to the
template; its pod template metadata is not compared. -/
theorem compareSandboxBlueprint_of_defaulted {blueprint : SandboxBlueprint σ ν}
    (spec : blueprint.podTemplate.spec = ApplySandboxSecureDefaults template template.blueprint.podTemplate.spec)
    (claims : blueprint.volumeClaimTemplates = template.blueprint.volumeClaimTemplates)
    (service : blueprint.service = template.blueprint.service) :
    compareSandboxBlueprint eq template blueprint = true := by
  have pods : comparePodSpecs eq template blueprint.podTemplate.spec = true := by
    rw [comparePodSpecs, spec]
    exact eq.podSpec_refl _
  rw [compareSandboxBlueprint, pods, claims, compareVolumeClaimTemplates_self, service]
  simp

variable (r : SandboxWarmPoolReconciler) (warmPool : SandboxWarmPool) (poolNameHash podHash blueprintHash : String)

/-- What a successful build holds: the two labels staleness reads, a
controller reference, and the template's blueprint with the defaulted Pod
spec. -/
theorem buildSandboxCR_spec {sandbox : Sandbox σ ν}
    (built : r.buildSandboxCR warmPool poolNameHash template podHash blueprintHash = .ok sandbox) :
    sandbox.labels.get SandboxTemplateRefHashLabel = SandboxTemplateRefHash warmPool.templateRefName ∧
      sandbox.labels.get SandboxTemplateHashLabel = blueprintHash ∧
      (getControllerOf sandbox.ownerReferences).isSome ∧
      sandbox.blueprint.podTemplate.spec = ApplySandboxSecureDefaults template template.blueprint.podTemplate.spec ∧
      sandbox.blueprint.volumeClaimTemplates = template.blueprint.volumeClaimTemplates ∧
      sandbox.blueprint.service = template.blueprint.service := by
  unfold SandboxWarmPoolReconciler.buildSandboxCR at built
  cases kind : r.poolKind with
  | error err => simp [kind] at built
  | ok gvk =>
    simp only [kind, Except.ok.injEq] at built
    subst built
    refine ⟨?_, ?_, rfl, rfl, rfl, rfl⟩
    · rw [StrMap.get_set_of_ne _ _ (by decide), StrMap.get_set_of_ne _ _ (by decide),
        StrMap.get_set_of_ne _ _ (by decide), StrMap.get_set_of_ne _ _ (by decide), StrMap.get_set_self]
    · rw [StrMap.get_set_of_ne _ _ (by decide), StrMap.get_set_self]

/-- Let `sandbox` be built by `buildSandboxCR` for a pool whose template
reference names `template`, with any pool name hash, Pod template hash and
blueprint hash.  With any owner references in place of its own (as built,
orphaned, or other), `isSandboxStale` returns false against `template` and
that blueprint hash and leaves the memo as it was, whatever the memo holds;
and its blueprint compares equal to `template`. -/
theorem isSandboxStale_buildSandboxCR (named : template.name = warmPool.templateRefName) {sandbox : Sandbox σ ν}
    (built : r.buildSandboxCR warmPool poolNameHash template podHash blueprintHash = .ok sandbox) :
    compareSandboxBlueprint eq template sandbox.blueprint = true ∧
      ∀ (refs : List OwnerReference) (vettedHashes : String → Option Bool),
        isSandboxStale eq { sandbox with ownerReferences := refs } template blueprintHash vettedHashes =
          (false, vettedHashes) := by
  obtain ⟨refHash, hash, -, spec, claims, service⟩ :=
    buildSandboxCR_spec template r warmPool poolNameHash podHash blueprintHash built
  have same := compareSandboxBlueprint_of_defaulted eq template spec claims service
  refine ⟨same, fun refs vettedHashes => ?_⟩
  have refMatches : (sandbox.labels.get SandboxTemplateRefHashLabel != SandboxTemplateRefHash template.name) = false := by
    rw [refHash, named, bne_self_eq_false]
  unfold isSandboxStale
  simp only [refMatches, hash, Bool.false_eq_true, if_false]
  -- an orphan is compared in full; an owned Sandbox carries the current hash
  split
  · simp [same]
  · by_cases empty : blueprintHash = ""
    · simp [empty]
    · simp [empty]

end Built

/-- A template whose Pod spec sets none of the defaulted fields. -/
def pythonTemplate : SandboxTemplate Unit Unit :=
  ⟨"python", ⟨⟨∅, ∅, ⟨none, "", none, ()⟩⟩, [⟨"workspace", ()⟩], some true⟩, none, ""⟩

def pythonPool : SandboxWarmPool := ⟨"python-pool", "default", "python"⟩

def evictingReconciler : SandboxWarmPoolReconciler := ⟨true, .ok ("extensions.agents.x-k8s.io/v1beta1", "SandboxWarmPool")⟩

theorem isSandboxStale_buildSandboxCR_pythonPool :
    ∃ sandbox : Sandbox Unit Unit,
      evictingReconciler.buildSandboxCR pythonPool (NameHash pythonPool.name) pythonTemplate "pod-hash" "" = .ok sandbox ∧
        compareSandboxBlueprint DeepEqual.structural pythonTemplate sandbox.blueprint = true ∧
        (isSandboxStale DeepEqual.structural { sandbox with ownerReferences := [] } pythonTemplate "" fun _ => none).1 =
          false := by
  obtain ⟨sandbox, built⟩ : ∃ sandbox,
      evictingReconciler.buildSandboxCR pythonPool (NameHash pythonPool.name) pythonTemplate "pod-hash" "" = .ok sandbox :=
    ⟨_, rfl⟩
  have result := isSandboxStale_buildSandboxCR DeepEqual.structural pythonTemplate evictingReconciler pythonPool _ "pod-hash"
    "" rfl built
  exact ⟨sandbox, built, result.1, by rw [result.2]⟩

end AgentSandbox.WarmPool
