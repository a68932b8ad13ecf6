import AgentSandbox.Claim.Expiry
import AgentSandbox.Controller.Reconcile
import AgentSandbox.Queue.SimpleSandboxQueue
import AgentSandbox.Lib.Resumption

/-!
# Adopting warm-pool Sandboxes

The adoption paths of `SandboxClaimReconciler.Reconcile`
(`extensions/controllers/sandboxclaim_controller.go`): `getOrCreateSandbox`
with its three entry points (the Sandbox named in the claim's status, the one
named by `AssignedSandboxNameAnnotation`, the one named after the claim),
`adoptSandboxFromCandidates` with `getCandidate` popping the shared
`WarmSandboxQueue`, and `completeAdoption`.

Each `Reconcile` is a program of `Resumption.Prog`: every API call and every
queue call is one request, so the reconciles of several claims interleave at
request granularity.  The API server (`Store.answer`) keeps the current objects
and every version it has stored: a read is served from the informer cache,
which may return any version (`Answer.cached`); any call may fail without
effect (`Answer.fail`); `Update` of a claim checks its `resourceVersion`, while
the `client.MergeFrom` Patch that `completeAdoption` sends carries none and is
applied to whatever is stored, its `ownerReferences` replacing the stored ones.
The store logs every Patch that replaced a Sandbox's `ownerReferences`
(`ownerWrites`); only `completeAdoption` sends one.
-/

set_option autoImplicit false

namespace AgentSandbox.Claim.Adoption

open Meta Queue Resumption
open Controller (SandboxWarmPoolLabel SandboxTemplateRefHashLabel CreatedByLabel TraceContextAnnotation
  extensionsGroup SandboxWarmPoolKind SandboxPodNameAnnotation nonEmptyValue)

def AssignedSandboxNameAnnotation : String := "agents.x-k8s.io/sandbox-name"

def ObservabilityAnnotation : String := "agents.x-k8s.io/controller-first-observed-at"

def SandboxIDLabel : String := "agents.x-k8s.io/claim-uid"

def SandboxLaunchTypeLabel : String := "agents.x-k8s.io/launch-type"

def SandboxLaunchTypeWarm : String := "warm"

def SandboxLaunchTypeCold : String := "cold"

def DeprecatedSandboxPodTemplateHashLabel : String := "agents.x-k8s.io/sandbox-pod-template-hash"

def SandboxTemplateHashLabel : String := "agents.x-k8s.io/sandbox-template-hash"

def SandboxClaimKind : String := "SandboxClaim"

/-- `extensionsv1beta1.GroupVersion.String()`. -/
def extensionsAPIVersion : String := "extensions.agents.x-k8s.io/v1beta1"

/-! ## Objects -/

structure OwnerRef where
  apiVersion : String
  kind : String
  name : String
  uid : String
  controller : Bool
deriving DecidableEq, Repr

def getControllerOf (refs : List OwnerRef) : Option OwnerRef := refs.find? (·.controller)

structure SandboxObject where
  name : String
  resourceVersion : Nat
  ownerReferences : List OwnerRef
  labels : StrMap
  annotations : StrMap
  deleting : Bool
  conditions : List Condition
  podIPs : List String
deriving DecidableEq

/-- A claim with the metadata the adoption code reads and writes; its spec and
status fields are those of `SandboxClaim`. -/
structure ClaimObject where
  claim : SandboxClaim
  resourceVersion : Nat
  labels : StrMap
  annotations : StrMap
  /-- `len(Spec.Env) > 0 || len(Spec.VolumeClaimTemplates) > 0`. -/
  customConfig : Bool

/-- The Sandbox as the status code of `Claim.Expiry` reads it. -/
def SandboxObject.statusView (sandbox : SandboxObject) : Sandbox :=
  ⟨sandbox.name, (getControllerOf sandbox.ownerReferences).map (·.uid), sandbox.deleting, sandbox.conditions,
    sandbox.podIPs⟩

/-- `metav1.IsControlledBy(sandbox, claim)`. -/
def isControlledBy (sandbox : SandboxObject) (claim : ClaimObject) : Bool :=
  (getControllerOf sandbox.ownerReferences).any (·.uid == claim.claim.uid)

/-- The reference `controllerutil.SetControllerReference(claim, …)` writes. -/
def claimControllerRef (claim : ClaimObject) : OwnerRef :=
  ⟨extensionsAPIVersion, SandboxClaimKind, claim.claim.name, claim.claim.uid, true⟩

def isSandboxReady (sandbox : SandboxObject) : Bool :=
  sandbox.conditions.any fun c => c.type == SandboxConditionReady && c.status == .conditionTrue

section Checks

-- the group `utils.GetGroupKind` reads from an `APIVersion`
variable (apiGroupOf : String → String)

def matchesGroupKind (ref : Option OwnerRef) (group kind : String) : Bool :=
  match ref with
  | none => false
  | some ref => apiGroupOf ref.apiVersion == group && ref.kind == kind

def isWarmPoolRef (ref : Option OwnerRef) : Bool := matchesGroupKind apiGroupOf ref extensionsGroup SandboxWarmPoolKind

def getWarmPoolName (sandbox : SandboxObject) : String :=
  match getControllerOf sandbox.ownerReferences with
  | some ref => if isWarmPoolRef apiGroupOf (some ref) then ref.name else fallbackName
  | none => fallbackName
where
  fallbackName : String :=
    match sandbox.ownerReferences.find? fun ref => isWarmPoolRef apiGroupOf (some ref) with
    | some ref => ref.name
    | none => ""

/-- `isAdoptable(candidate) == nil`. -/
def isAdoptable (candidate : SandboxObject) : Bool :=
  !candidate.deleting && candidate.labels.contains SandboxWarmPoolLabel &&
    candidate.labels.contains SandboxTemplateRefHashLabel &&
    isWarmPoolRef apiGroupOf (getControllerOf candidate.ownerReferences)

/-- `verifySandboxCandidate(candidate, claim) == nil`; every object of this
model is in the claim's namespace. -/
def verifySandboxCandidate (candidate : SandboxObject) (claim : ClaimObject) : Bool :=
  isAdoptable apiGroupOf candidate &&
    (getWarmPoolName apiGroupOf candidate != "" && getWarmPoolName apiGroupOf candidate == claim.claim.warmPoolName)

end Checks

/-- `pickSmart`: among nodes with scheduled candidates, the oldest key on a
node with the most remaining candidates; otherwise the oldest key. -/
def pickSmart (keys : List SandboxKey) : SandboxKey × Bool :=
  match keys with
  | [] => (SandboxKey.zero, false)
  | [key] => (key, true)
  | _ =>
      let scheduled := keys.filter (·.nodeName != "")
      let unscheduled := keys.filter (·.nodeName == "")
      if scheduled.isEmpty then (unscheduled.headD SandboxKey.zero, true)
      else
        let count (node : String) := (scheduled.filter (·.nodeName == node)).length
        let maxCount := (scheduled.map fun key => count key.nodeName).foldl max 0
        ((scheduled.filter fun key => count key.nodeName == maxCount).headD SandboxKey.zero, true)

/-! ## Requests -/

inductive ApiError
  | notFound
  | conflict
  | alreadyExists
  | other
deriving DecidableEq, Repr

def ApiError.text : ApiError → String
  | .notFound => "not found"
  | .conflict => "the object has been modified"
  | .alreadyExists => "already exists"
  | .other => "internal error"

inductive Call
  | getClaim (name : String)
  | patchClaim (original modified : ClaimObject)
  | updateClaim (claim : ClaimObject)
  | patchClaimStatus (original modified : ClaimObject)
  | getSandbox (name : String)
  | patchSandbox (original modified : SandboxObject)
  | createSandbox (sandbox : SandboxObject)
  | queueGet (pool : String)
  | queueAdd (pool : String) (key : SandboxKey)

def Call.Response : Call → Type
  | .getClaim _ | .patchClaim .. | .updateClaim _ | .patchClaimStatus .. => Except ApiError ClaimObject
  | .getSandbox _ | .patchSandbox .. | .createSandbox _ => Except ApiError SandboxObject
  | .queueGet _ => SandboxKey × Bool
  | .queueAdd .. => Unit

abbrev Api := Prog Call Call.Response

def getClaim (name : String) : Api (Except ApiError ClaimObject) := request (Call.getClaim name)

def patchClaim (original modified : ClaimObject) : Api (Except ApiError ClaimObject) :=
  request (Call.patchClaim original modified)

def updateClaim (claim : ClaimObject) : Api (Except ApiError ClaimObject) := request (Call.updateClaim claim)

def patchClaimStatus (original modified : ClaimObject) : Api (Except ApiError ClaimObject) :=
  request (Call.patchClaimStatus original modified)

def getSandbox (name : String) : Api (Except ApiError SandboxObject) := request (Call.getSandbox name)

def patchSandbox (original modified : SandboxObject) : Api (Except ApiError SandboxObject) :=
  request (Call.patchSandbox original modified)

def createSandbox (sandbox : SandboxObject) : Api (Except ApiError SandboxObject) :=
  request (Call.createSandbox sandbox)

def queueGet (pool : String) : Api (SandboxKey × Bool) := request (Call.queueGet pool)

def queueAdd (pool : String) (key : SandboxKey) : Api Unit := request (Call.queueAdd pool key)

/-! ## The API server -/

/-- How one request is answered: from the stored objects, from the informer
cache `age` versions back, or with an error and no effect. -/
inductive Answer
  | latest
  | cached (age : Nat)
  | fail (err : ApiError)
deriving DecidableEq, Repr

structure Store where
  sandboxes : List SandboxObject
  /-- Every version of a Sandbox stored, newest first. -/
  sandboxHistory : List SandboxObject
  claims : List ClaimObject
  claimHistory : List ClaimObject
  queue : SimpleSandboxQueue
  /-- The last `resourceVersion` handed out. -/
  revision : Nat
  /-- Each applied Patch that replaced a Sandbox's `ownerReferences`, with the
  references it wrote. -/
  ownerWrites : List (String × List OwnerRef)

namespace Store

variable (s : Store)

def sandbox? (name : String) : Option SandboxObject := s.sandboxes.find? (·.name == name)

def claim? (name : String) : Option ClaimObject := s.claims.find? (·.claim.name == name)

/-- Read an object: the stored one, a cached version, or a failure. -/
def read {β : Type} (current : Option β) (versions : List β) : Answer → Except ApiError β
  | .latest => match current with
    | some obj => .ok obj
    | none => .error .notFound
  | .cached age => match versions[age]? with
    | some obj => .ok obj
    | none => .error .notFound
  | .fail err => .error err

theorem read_eq_ok {β : Type} {current : Option β} {versions : List β} {a : Answer} {x : β}
    (found : read current versions a = .ok x) : current = some x ∨ x ∈ versions := by
  cases a with
  | latest =>
      left
      cases current with
      | none => cases found
      | some y => cases found; rfl
  | cached age =>
      right
      simp only [read] at found
      split at found
      · cases found
        exact List.mem_of_getElem? ‹_›
      · cases found
  | fail err => cases found

def readSandbox (name : String) (answer : Answer) : Except ApiError SandboxObject :=
  read (s.sandbox? name) (s.sandboxHistory.filter (·.name == name)) answer

def readClaim (name : String) (answer : Answer) : Except ApiError ClaimObject :=
  read (s.claim? name) (s.claimHistory.filter (·.claim.name == name)) answer

/-- Store a new version of a Sandbox under the next `resourceVersion`. -/
def writeSandbox (sandbox : SandboxObject) : Except ApiError SandboxObject × Store :=
  let stored := { sandbox with resourceVersion := s.revision + 1 }
  (.ok stored, { s with
    sandboxes := stored :: s.sandboxes.filter (·.name != sandbox.name)
    sandboxHistory := stored :: s.sandboxHistory
    revision := s.revision + 1 })

def writeClaim (claim : ClaimObject) : Except ApiError ClaimObject × Store :=
  let stored := { claim with resourceVersion := s.revision + 1 }
  (.ok stored, { s with
    claims := stored :: s.claims.filter (·.claim.name != claim.claim.name)
    claimHistory := stored :: s.claimHistory
    revision := s.revision + 1 })

/-- The Patch `client.MergeFrom(original)` sends for `modified`, applied to the
stored `current`: the main resource only, so status and deletion stay. -/
def mergeSandboxPatch (original modified current : SandboxObject) : SandboxObject :=
  { current with
    ownerReferences :=
      if modified.ownerReferences = original.ownerReferences then current.ownerReferences
      else modified.ownerReferences
    labels := StrMap.mergePatch original.labels modified.labels current.labels
    annotations := StrMap.mergePatch original.annotations modified.annotations current.annotations }

/-- A Sandbox Patch.  `client.MergeFrom` sends no precondition, so the patch
applies to whatever is stored; with `optimisticLock` it would carry the
resourceVersion of `original` and apply only while the stored Sandbox is still
the version `original` was read as. -/
def patchSandbox (optimisticLock : Bool) (original modified : SandboxObject) :
    Except ApiError SandboxObject × Store :=
  match s.sandbox? original.name with
  | none => (.error .notFound, s)
  | some current =>
      if optimisticLock && current != original then (.error .conflict, s)
      else
      let logged := if modified.ownerReferences = original.ownerReferences then s
        else { s with ownerWrites := s.ownerWrites ++ [(original.name, modified.ownerReferences)] }
      logged.writeSandbox (mergeSandboxPatch original modified current)

def createSandbox (sandbox : SandboxObject) : Except ApiError SandboxObject × Store :=
  match s.sandbox? sandbox.name with
  | some _ => (.error .alreadyExists, s)
  | none => s.writeSandbox sandbox

/-- `Update` of a claim's main resource: refused unless its `resourceVersion`
is the stored one; the stored status stays. -/
def updateClaim (claim : ClaimObject) : Except ApiError ClaimObject × Store :=
  match s.claim? claim.claim.name with
  | none => (.error .notFound, s)
  | some current =>
      if claim.resourceVersion != current.resourceVersion then (.error .conflict, s)
      else s.writeClaim { claim with
        claim := { claim.claim with
          conditions := current.claim.conditions
          sandboxName := current.claim.sandboxName
          podIPs := current.claim.podIPs } }

def patchClaim (original modified : ClaimObject) : Except ApiError ClaimObject × Store :=
  match s.claim? original.claim.name with
  | none => (.error .notFound, s)
  | some current => s.writeClaim { current with
      labels := StrMap.mergePatch original.labels modified.labels current.labels
      annotations := StrMap.mergePatch original.annotations modified.annotations current.annotations }

/-- A merge Patch of a claim's status: a changed field replaces the stored one. -/
def patchClaimStatus (original modified : ClaimObject) : Except ApiError ClaimObject × Store :=
  match s.claim? original.claim.name with
  | none => (.error .notFound, s)
  | some current => s.writeClaim { current with
      claim := { current.claim with
        conditions := if modified.claim.conditions = original.claim.conditions then current.claim.conditions
          else modified.claim.conditions
        sandboxName := if modified.claim.sandboxName = original.claim.sandboxName then current.claim.sandboxName
          else modified.claim.sandboxName
        podIPs := if modified.claim.podIPs = original.claim.podIPs then current.claim.podIPs
          else modified.claim.podIPs } }

/-- `GetWithStrategy(pool, pickSmart)`; its two critical sections run in one
request here. -/
def popCandidate (pool : String) : (SandboxKey × Bool) × Store :=
  match s.queue.getWithStrategy pool pickSmart 1 with
  | some (out, queue) => (out, { s with queue := queue })
  | none => ((SandboxKey.zero, false), s)

def write {β : Type} (answer : Answer) (perform : Except ApiError β × Store) : Except ApiError β × Store :=
  match answer with
  | .fail err => (.error err, s)
  | _ => perform

end Store

/-- The answer to one request; `optimisticLock` as in `patchSandbox`, `false`
for the code. -/
def Store.answer (optimisticLock : Bool) (s : Store) : (c : Call) → Answer → c.Response × Store
  | .getClaim name, a => (s.readClaim name a, s)
  | .getSandbox name, a => (s.readSandbox name a, s)
  | .queueGet pool, _ => s.popCandidate pool
  | .queueAdd pool key, _ => ((), { s with queue := s.queue.add pool key })
  | .updateClaim claim, a => s.write a (s.updateClaim claim)
  | .patchClaim original modified, a => s.write a (s.patchClaim original modified)
  | .patchClaimStatus original modified, a => s.write a (s.patchClaimStatus original modified)
  | .patchSandbox original modified, a => s.write a (s.patchSandbox optimisticLock original modified)
  | .createSandbox sandbox, a => s.write a (s.createSandbox sandbox)

/-! ## The reconcile of one claim -/

def initializeSandboxLaunchTypeLabel (sandbox : SandboxObject) (launchType : String) :
    Api (Except ApiError SandboxObject) :=
  if sandbox.labels.contains SandboxLaunchTypeLabel then pure (.ok sandbox)
  else patchSandbox sandbox { sandbox with labels := sandbox.labels.set SandboxLaunchTypeLabel launchType }

def ensureClaimIdentityLabels (labels : StrMap) (claim : ClaimObject) : StrMap :=
  let labels := labels.set SandboxIDLabel claim.claim.uid
  match nonEmptyValue claim.labels CreatedByLabel with
  | some createdBy => labels.set CreatedByLabel createdBy
  | none => labels.delete CreatedByLabel

/-- The Sandbox `completeAdoption` asks for: out of the warm pool, controlled by
the claim. -/
def adoptedSandbox (claim : ClaimObject) (adopted : SandboxObject) : SandboxObject :=
  let labels := (((adopted.labels.delete SandboxWarmPoolLabel).delete DeprecatedSandboxPodTemplateHashLabel).delete
    SandboxTemplateHashLabel).set SandboxLaunchTypeLabel SandboxLaunchTypeWarm
  let annotations :=
    if adopted.annotations.get SandboxPodNameAnnotation != adopted.name then
      adopted.annotations.set SandboxPodNameAnnotation adopted.name
    else adopted.annotations
  let annotations :=
    match claim.annotations.lookup TraceContextAnnotation with
    | some traceContext => annotations.set TraceContextAnnotation traceContext
    | none => annotations
  { adopted with
    ownerReferences := [claimControllerRef claim]
    labels := ensureClaimIdentityLabels labels claim
    annotations := annotations }

/-- `completeAdoption`: the Patch from the Sandbox as read to the adopted one. -/
def completeAdoption (claim : ClaimObject) (adopted : SandboxObject) : Api (Except ApiError SandboxObject) :=
  patchSandbox adopted (adoptedSandbox claim adopted)

def apiError (err : ApiError) : ClaimError := .other err.text

/-- What one entry point of `getOrCreateSandbox` decides: return a result, or
fall through with the claim as it now stands. -/
inductive Lookup
  | found (result : Except ClaimError (Option SandboxObject))
  | next (claim : ClaimObject)

def foundWithLaunchType (sandbox : SandboxObject) (launchType : String) : Api Lookup := do
  match ← initializeSandboxLaunchTypeLabel sandbox launchType with
  | .ok sandbox => pure (.found (.ok (some sandbox)))
  | .error err => pure (.found (.error (apiError err)))

/-- The Sandbox recorded in `status.sandbox.name`. -/
def lookupStatusName (claim : ClaimObject) : Api Lookup := do
  let statusName := claim.claim.sandboxName
  if statusName == "" then pure (.next claim)
  else
    match ← getSandbox statusName with
    | .ok sandbox =>
        if isControlledBy sandbox claim then
          let launchType :=
            if claim.annotations.get AssignedSandboxNameAnnotation == statusName || statusName != claim.claim.name
            then SandboxLaunchTypeWarm else SandboxLaunchTypeCold
          foundWithLaunchType sandbox launchType
        else pure (.next claim)
    | .error .notFound => pure (.next claim)
    | .error err => pure (.found (.error (apiError err)))

/-- Drop a stale `AssignedSandboxNameAnnotation` with a Patch of the claim. -/
def removeAssignedName (claim : ClaimObject) : Api Lookup := do
  match ← patchClaim claim { claim with annotations := claim.annotations.delete AssignedSandboxNameAnnotation } with
  | .ok claim => pure (.next claim)
  | .error err => pure (.found (.error (apiError err)))

section Adopt

variable (apiGroupOf : String → String)

/-- The Sandbox named by `AssignedSandboxNameAnnotation`: a Sandbox still in the
warm pool is adopted again, from the view just read. -/
def lookupAssignedName (claim : ClaimObject) : Api Lookup := do
  let sbName := claim.annotations.get AssignedSandboxNameAnnotation
  if sbName == "" then pure (.next claim)
  else
    match ← getSandbox sbName with
    | .ok sandbox =>
        if isControlledBy sandbox claim then foundWithLaunchType sandbox SandboxLaunchTypeWarm
        else if isWarmPoolRef apiGroupOf (getControllerOf sandbox.ownerReferences) then
          if !verifySandboxCandidate apiGroupOf sandbox claim then removeAssignedName claim
          else
            match ← completeAdoption claim sandbox with
            | .ok adopted => pure (.found (.ok (some adopted)))
            | .error .notFound | .error .conflict => pure (.next claim)
            | .error err => pure (.found (.error (apiError err)))
        else pure (.next claim)
    | .error .notFound => removeAssignedName claim
    | .error err => pure (.found (.error (apiError err)))

/-- The Sandbox named after the claim, which the cold path creates. -/
def lookupClaimName (claim : ClaimObject) : Api Lookup := do
  match ← getSandbox claim.claim.name with
  | .ok sandbox =>
      if !isControlledBy sandbox claim then
        pure (.found (.error (.other ("sandbox \"" ++ sandbox.name ++ "\" is not controlled by claim \"" ++
          claim.claim.name ++ "\". Please use a different claim name or delete the sandbox manually"))))
      else foundWithLaunchType sandbox SandboxLaunchTypeCold
  | .error .notFound => pure (.next claim)
  | .error err => pure (.found (.error (apiError err)))

structure CandidateScan where
  skipped : List SandboxKey
  fallback : Option (SandboxObject × SandboxKey)

/-- The end of the scan when the queue has no more keys: the unready fallback,
if any, and whether it is the one adopted. -/
def CandidateScan.exhausted (scan : CandidateScan) :
    Except ClaimError (Option (SandboxObject × SandboxKey)) × CandidateScan × Bool :=
  match scan.fallback with
  | some candidate => (.ok (some candidate), scan, true)
  | none => (.ok none, scan, false)

/-- The loop of `getCandidate`, one pop per pass; the fuel bounds the passes,
and a scan out of fuel ends as one whose queue ran dry. -/
def scanCandidates (pool : String) (claim : ClaimObject) :
    Nat → CandidateScan → Api (Except ClaimError (Option (SandboxObject × SandboxKey)) × CandidateScan × Bool)
  | 0, scan => pure scan.exhausted
  | fuel + 1, scan => do
      let popped ← queueGet pool
      if !popped.2 then pure scan.exhausted
      else
        let key := popped.1
        match ← getSandbox key.name with
        -- a key whose Sandbox is gone is dropped
        | .error .notFound => scanCandidates pool claim fuel scan
        | .error err => do
            queueAdd pool key
            pure (.error (apiError err), scan, false)
        | .ok adopted =>
            if !verifySandboxCandidate apiGroupOf adopted claim then scanCandidates pool claim fuel scan
            else if isSandboxReady adopted then pure (.ok (some (adopted, key)), scan, false)
            else
              match scan.fallback with
              | none => scanCandidates pool claim fuel { scan with fallback := some (adopted, key) }
              | some _ => scanCandidates pool claim fuel { scan with skipped := scan.skipped ++ [key] }

/-- `getCandidate`, with its deferred return of the keys it put aside. -/
def getCandidate (fuel : Nat) (pool : String) (claim : ClaimObject) :
    Api (Except ClaimError (Option (SandboxObject × SandboxKey))) := do
  let scanned ← scanCandidates apiGroupOf pool claim fuel ⟨[], none⟩
  scanned.2.1.skipped.forM (queueAdd pool)
  match scanned.2.1.fallback with
  | some (_, fallbackKey) => if !scanned.2.2 then queueAdd pool fallbackKey
  | none => pure ()
  pure scanned.1

/-- The three passes of `adoptSandboxFromCandidates`. -/
def adoptAttempts (fuel : Nat) (pool : String) : Nat → ClaimObject → Api (Except ClaimError (Option SandboxObject))
  | 0, _ => pure (.ok none)
  | attempts + 1, claim => do
      match ← getCandidate apiGroupOf fuel pool claim with
      | .error err => pure (.error err)
      | .ok none => pure (.ok none)
      | .ok (some (adopted, key)) =>
          -- record the adoption on the claim, under its resourceVersion
          match ← updateClaim { claim with
              annotations := claim.annotations.set AssignedSandboxNameAnnotation adopted.name } with
          | .error err => do
              queueAdd pool key
              pure (.error (apiError err))
          | .ok claim =>
              match ← completeAdoption claim adopted with
              | .ok adopted => pure (.ok (some adopted))
              | .error .notFound => adoptAttempts fuel pool attempts claim
              | .error .conflict => do
                  queueAdd pool key
                  adoptAttempts fuel pool attempts claim
              | .error err => do
                  queueAdd pool key
                  pure (.error (apiError err))

/-- `adoptSandboxFromCandidates` on the claim's pool queue in namespace `ns`. -/
def adoptSandboxFromCandidates (fuel : Nat) (ns : String) (claim : ClaimObject) :
    Api (Except ClaimError (Option SandboxObject)) :=
  adoptAttempts apiGroupOf fuel (getNamespacedWarmPoolName ns claim.claim.warmPoolName) 3 claim

def getOrCreateSandbox (fuel : Nat) (ns : String) (claim : ClaimObject) :
    Api (Except ClaimError (Option SandboxObject)) := do
  match ← lookupStatusName claim with
  | .found result => pure result
  | .next claim =>
      match ← lookupAssignedName apiGroupOf claim with
      | .found result => pure result
      | .next claim =>
          match ← lookupClaimName claim with
          | .found result => pure result
          | .next claim =>
              if claim.customConfig then pure (.ok none)
              else adoptSandboxFromCandidates apiGroupOf fuel ns claim

/-- The Sandbox the cold path creates: named after the claim, controlled by it. -/
def coldSandbox (claim : ClaimObject) : SandboxObject :=
  ⟨claim.claim.name, 0, [claimControllerRef claim], ∅, ∅, false, [], []⟩

def reconcileActive (fuel : Nat) (ns : String) (claim : ClaimObject) :
    Api (Option SandboxObject × Option ClaimError) := do
  match ← getOrCreateSandbox apiGroupOf fuel ns claim with
  | .error err => pure (none, some err)
  | .ok (some sandbox) => pure (some sandbox, none)
  | .ok none =>
      match ← createSandbox (coldSandbox claim) with
      | .ok sandbox => pure (some sandbox, none)
      | .error err => pure (none, some (apiError err))

/-- `initializeAnnotations` with tracing off: record when the claim was first seen. -/
def initializeAnnotations (now : Int) (claim : ClaimObject) : Api (Except ApiError ClaimObject) :=
  if claim.annotations.get ObservabilityAnnotation == "" then
    patchClaim claim { claim with annotations := claim.annotations.set ObservabilityAnnotation (toString now) }
  else pure (.ok claim)

/-- `updateStatus`: a status Patch when the status changed. -/
def updateStatus (original claim : ClaimObject) : Api (Except ApiError ClaimObject) :=
  if sameStatus original.claim claim.claim then pure (.ok claim) else patchClaimStatus original claim

/-- `SandboxClaimReconciler.Reconcile` of the claim `name`, active and without a
lifecycle. -/
def reconcile (fuel : Nat) (ns : String) (now : Int) (name : String) : Api Unit := do
  match ← getClaim name with
  | .error _ => pure ()
  | .ok claim =>
      if claim.claim.deleting then pure ()
      else
        match ← initializeAnnotations now claim with
        | .error _ => pure ()
        | .ok claim =>
            let active ← reconcileActive apiGroupOf fuel ns claim
            let _ ← updateStatus claim { claim with
              claim := computeAndSetStatus now claim.claim (active.1.map SandboxObject.statusView) active.2 false }

end Adopt

/-! ## Claims reconciled concurrently -/

/-- The claims' reconciles, one thread per claim name, over one API server. -/
abbrev ClaimSystem := System String Store Call Call.Response

/-- The claims that have had `completeAdoption` succeed on the Sandbox `name`,
in order. -/
def adopters (s : Store) (name : String) : List String :=
  (s.ownerWrites.filter (·.1 == name)).filterMap fun w => (getControllerOf w.2).map (·.uid)

/-- No two claims have adopted the same Sandbox. -/
def ExclusiveAdoption (s : Store) : Prop :=
  ∀ name, ∀ a ∈ adopters s name, ∀ b ∈ adopters s name, a = b

def readyStatus (claim : ClaimObject) : Option ConditionStatus :=
  (findStatusCondition claim.claim.conditions SandboxConditionReady).map (·.status)

/-! ### Two claims adopt one Sandbox

`claim-a` pops `warm-1`, records it in its annotation, and its Patch fails:
the key goes back to the queue.  `claim-b` pops `warm-1` and records it; then
`claim-a` reconciles again, enters through its annotation and reads `warm-1`,
still in the pool.  Both Patches are then applied, `claim-a`'s over
`claim-b`'s.  Every read is of the stored objects. -/

def warmPoolRef : OwnerRef := ⟨extensionsAPIVersion, SandboxWarmPoolKind, "pool", "pool-uid", true⟩

def warmSandbox : SandboxObject :=
  ⟨"warm-1", 1, [warmPoolRef],
    ((∅ : StrMap).set SandboxWarmPoolLabel "pool-hash").set SandboxTemplateRefHashLabel "template-hash",
    ∅, false, [sandboxReady], []⟩

def pendingClaim (name uid : String) (resourceVersion : Nat) : ClaimObject :=
  ⟨⟨name, uid, false, none, "pool", [], "", []⟩, resourceVersion, ∅, (∅ : StrMap).set ObservabilityAnnotation "0",
    false⟩

def racingClaims : ClaimSystem :=
  ⟨⟨[warmSandbox], [warmSandbox], [pendingClaim "claim-a" "uid-a" 2, pendingClaim "claim-b" "uid-b" 3],
    [pendingClaim "claim-a" "uid-a" 2, pendingClaim "claim-b" "uid-b" 3],
    newSimpleSandboxQueue.add (getNamespacedWarmPoolName "default" "pool") ⟨"default", "warm-1", ""⟩, 3, []⟩,
    fun _ => none⟩

/-- The group of the API versions that occur here. -/
def groupOf (apiVersion : String) : String := if apiVersion == extensionsAPIVersion then extensionsGroup else ""

def retriedAdoption : List (Event String Answer) :=
  [.start "claim-a", .step "claim-a" .latest, .step "claim-a" .latest, .step "claim-a" .latest,
    .step "claim-a" .latest, .step "claim-a" .latest, .step "claim-a" (.fail .other), .step "claim-a" .latest,
    .step "claim-a" .latest, .step "claim-a" .latest,
    .start "claim-b", .step "claim-b" .latest, .step "claim-b" .latest, .step "claim-b" .latest,
    .step "claim-b" .latest, .step "claim-b" .latest,
    .start "claim-a", .step "claim-a" .latest, .step "claim-a" .latest,
    .step "claim-b" .latest, .step "claim-b" .latest, .step "claim-b" .latest,
    .step "claim-a" .latest, .step "claim-a" .latest, .step "claim-a" .latest]

def racedClaims : ClaimSystem :=
  racingClaims.run (reconcile groupOf 4 "default" 0) (Store.answer false) retriedAdoption

theorem warmPoolAdoption_twice :
    adopters racedClaims.state "warm-1" = ["uid-b", "uid-a"] ∧ ¬ ExclusiveAdoption racedClaims.state ∧
      ∀ name ∈ ["claim-a", "claim-b"],
        (racedClaims.state.claim? name).map (fun claim => (claim.claim.sandboxName, readyStatus claim)) =
          some ("warm-1", some .conditionTrue) := by
  refine ⟨by decide, fun exclusive => ?_, by decide⟩
  have same := exclusive "warm-1" "uid-b" (by decide) "uid-a" (by decide)
  exact absurd same (by decide)

end AgentSandbox.Claim.Adoption
