import AgentSandbox.WarmPool.Members

/-!
# The reconcile of a warm pool

Model of `SandboxWarmPoolReconciler.Reconcile`, `reconcilePool`, `filterActiveSandboxes`,
`adoptSandbox`, `fetchTemplateAndHash`, `getTemplate`, `computePodTemplateHash`,
`computeSandboxBlueprintHash`, `createPoolSandbox`, `deletePoolSandbox`, `updateStatus` and
`slowStartBatch` (`extensions/controllers/sandboxwarmpool_controller.go`): a program of
`Resumption` against an API server that keeps every version of a Sandbox it stored and the list
of stored Sandboxes after each write, so that a read or a list may be answered from an informer
cache some writes behind.

The goroutines of one `slowStartBatch` batch run here one after the other, in index order, and
the batch's error is the first in that order.  `Create` with `GenerateName` names the Sandbox
after the next `resourceVersion`.  The library functions the code calls are parameters of the
reconciler: `equality.Semantic.DeepEqual`, `json.Marshal`, `%q` and the group of an API version.
-/

set_option autoImplicit false

namespace AgentSandbox.WarmPool

open Resumption
open Meta
open Claim.Adoption (OwnerRef ApiError Answer SandboxTemplateHashLabel)
open Controller (NameHash SandboxWarmPoolLabel)

/-- The reconciler's fields and the library functions the model takes as parameters. -/
structure Reconciler (σ ν : Type) extends SandboxWarmPoolReconciler where
  MaxBatchSize : Int
  eq : DeepEqual σ ν
  /-- `json.Marshal` of `Spec.PodTemplate`. -/
  marshalPodTemplate : PodTemplate σ → Except String String
  /-- `json.Marshal` of `Spec.SandboxBlueprint`. -/
  marshalSandboxBlueprint : SandboxBlueprint σ ν → Except String String
  /-- `%q`. -/
  quote : String → String
  /-- The group `schema.ParseGroupVersion` reads from an `APIVersion`. -/
  apiGroupOf : String → String

/-! ## Requests -/

inductive Call (σ ν : Type)
  | getPool (name : String)
  /-- `List` by the index over the warm-pool label. -/
  | listSandboxes (poolNameHash : String)
  | getTemplate (name : String)
  /-- `Create` of a Sandbox with `GenerateName` set to its `name`. -/
  | createSandbox (sandbox : PoolMember σ ν)
  | updateSandbox (sandbox : PoolMember σ ν)
  /-- A write with no precondition, as another client's Patch: a claim adopting the Sandbox. -/
  | patchSandbox (sandbox : PoolMember σ ν)
  | deleteSandbox (sandbox : PoolMember σ ν)
  /-- The status Patch `client.MergeFrom(original)` sends for `modified`. -/
  | patchPoolStatus (original modified : WarmPoolObject)
deriving DecidableEq

def Call.Response {σ ν : Type} : Call σ ν → Type
  | .getPool _ | .patchPoolStatus .. => Except ApiError WarmPoolObject
  | .listSandboxes _ => Except ApiError (List (PoolMember σ ν))
  | .getTemplate _ => Except ApiError (SandboxTemplate σ ν)
  | .createSandbox _ | .updateSandbox _ | .patchSandbox _ => Except ApiError (PoolMember σ ν)
  | .deleteSandbox _ => Except ApiError Unit

abbrev Api (σ ν : Type) := Prog (Call σ ν) Call.Response

/-! ## What the API server keeps -/

/-- The index `sandboxWarmPoolLabelIndexer` builds: the value of the warm-pool label. -/
def inPool {σ ν : Type} (poolNameHash : String) (sb : PoolMember σ ν) : Bool :=
  sb.labels.lookup SandboxWarmPoolLabel == some poolNameHash

structure Store (σ ν : Type) where
  pools : List WarmPoolObject
  /-- Every version of a pool stored, newest first. -/
  poolHistory : List WarmPoolObject
  templates : List (SandboxTemplate σ ν)
  sandboxes : List (PoolMember σ ν)
  /-- Every version of a Sandbox stored, newest first. -/
  sandboxHistory : List (PoolMember σ ν)
  /-- The stored Sandboxes after each write, newest first: what an informer `age` writes
  behind lists. -/
  sandboxSnapshots : List (List (PoolMember σ ν))
  /-- The last `resourceVersion` handed out. -/
  revision : Nat
  /-- The API server's clock, which stamps `creationTimestamp`. -/
  clock : Nat
deriving DecidableEq

namespace Store

variable {σ ν : Type} (s : Store σ ν)

def pool? (name : String) : Option WarmPoolObject := s.pools.find? (·.pool.name == name)

def template? (name : String) : Option (SandboxTemplate σ ν) := s.templates.find? (·.name == name)

def sandbox? (name : String) : Option (PoolMember σ ν) := s.sandboxes.find? (·.name == name)

/-- A `List` of the pool's members: the stored ones, those of a snapshot, or a failure. -/
def listSandboxes (poolNameHash : String) : Answer → Except ApiError (List (PoolMember σ ν))
  | .latest => .ok (s.sandboxes.filter (inPool poolNameHash))
  | .cached age =>
      match s.sandboxSnapshots[age]? with
      | some snapshot => .ok (snapshot.filter (inPool poolNameHash))
      | none => .error .other
  | .fail err => .error err

/-- Replace the stored Sandboxes, and record the list for the informers. -/
def setSandboxes (sandboxes : List (PoolMember σ ν)) : Store σ ν :=
  { s with sandboxes := sandboxes, sandboxSnapshots := sandboxes :: s.sandboxSnapshots }

/-- Store a new version of a Sandbox under the next `resourceVersion`. -/
def writeSandbox (sb : PoolMember σ ν) : Except ApiError (PoolMember σ ν) × Store σ ν :=
  let stored := { sb with resourceVersion := s.revision + 1 }
  (.ok stored, { s.setSandboxes (stored :: s.sandboxes.filter (·.name != sb.name)) with
    sandboxHistory := stored :: s.sandboxHistory
    revision := s.revision + 1 })

/-- `Create` with `GenerateName`: the server names the Sandbox from the prefix and stamps its
creation time. -/
def createSandbox (sb : PoolMember σ ν) : Except ApiError (PoolMember σ ν) × Store σ ν :=
  let name := sb.name ++ toString (s.revision + 1)
  match s.sandbox? name with
  | some _ => (.error .alreadyExists, s)
  | none => s.writeSandbox { sb with name := name, creationTimestamp := s.clock }

/-- `Update` is refused unless the object carries the stored `resourceVersion`. -/
def updateSandbox (sb : PoolMember σ ν) : Except ApiError (PoolMember σ ν) × Store σ ν :=
  match s.sandbox? sb.name with
  | none => (.error .notFound, s)
  | some current =>
      if sb.resourceVersion != current.resourceVersion then (.error .conflict, s)
      else s.writeSandbox sb

def patchSandbox (sb : PoolMember σ ν) : Except ApiError (PoolMember σ ν) × Store σ ν :=
  match s.sandbox? sb.name with
  | none => (.error .notFound, s)
  | some _ => s.writeSandbox sb

/-- `Delete` with no preconditions removes whatever is stored under the name; no finalizer
holds a Sandbox. -/
def deleteSandbox (sb : PoolMember σ ν) : Except ApiError Unit × Store σ ν :=
  match s.sandbox? sb.name with
  | none => (.error .notFound, s)
  | some _ => (.ok (), s.setSandboxes (s.sandboxes.filter (·.name != sb.name)))

def writePool (pool : WarmPoolObject) : Except ApiError WarmPoolObject × Store σ ν :=
  let stored := { pool with resourceVersion := s.revision + 1 }
  (.ok stored, { s with
    pools := stored :: s.pools.filter (·.pool.name != pool.pool.name)
    poolHistory := stored :: s.poolHistory
    revision := s.revision + 1 })

/-- The merge Patch of the status: each field the Patch changes is written over the stored
one. -/
def mergeStatus (original modified current : PoolStatus) : PoolStatus :=
  ⟨if modified.replicas == original.replicas then current.replicas else modified.replicas,
    if modified.readyReplicas == original.readyReplicas then current.readyReplicas else modified.readyReplicas,
    if modified.selector == original.selector then current.selector else modified.selector⟩

def patchPoolStatus (original modified : WarmPoolObject) : Except ApiError WarmPoolObject × Store σ ν :=
  match s.pool? original.pool.name with
  | none => (.error .notFound, s)
  | some current => s.writePool { current with status := mergeStatus original.status modified.status current.status }

def write {β : Type} (answer : Answer) (perform : Except ApiError β × Store σ ν) : Except ApiError β × Store σ ν :=
  match answer with
  | .fail err => (.error err, s)
  | _ => perform

end Store

/-- The answer to one request: a read of the stored object, of a cached version or of a
snapshot, or a write. -/
def Store.answer {σ ν : Type} (s : Store σ ν) : (c : Call σ ν) → Answer → c.Response × Store σ ν
  | .getPool name, a => (Claim.Adoption.Store.read (s.pool? name) (s.poolHistory.filter (·.pool.name == name)) a, s)
  | .listSandboxes poolNameHash, a => (s.listSandboxes poolNameHash a, s)
  | .getTemplate name, a => (Claim.Adoption.Store.read (s.template? name) (s.templates.filter (·.name == name)) a, s)
  | .createSandbox sb, a => s.write a (s.createSandbox sb)
  | .updateSandbox sb, a => s.write a (s.updateSandbox sb)
  | .patchSandbox sb, a => s.write a (s.patchSandbox sb)
  | .deleteSandbox sb, a => s.write a (s.deleteSandbox sb)
  | .patchPoolStatus original modified, a => s.write a (s.patchPoolStatus original modified)

/-! ## The reconcile -/

/-- The Sandbox `buildSandboxCR` returns, as the Create sends it.  The model of `buildSandboxCR`
keeps of the controller reference its API version, kind and flag; `SetControllerReference`
names the pool and its UID in it. -/
def PoolMember.ofSandboxCR {σ ν : Type} (warmPool : WarmPoolObject) (sandboxCR : Sandbox σ ν) : PoolMember σ ν :=
  ⟨sandboxCR.generateName, 0,
    sandboxCR.ownerReferences.map fun ref =>
      ⟨ref.apiVersion, ref.kind, warmPool.pool.name, warmPool.uid, ref.controller == some true⟩,
    sandboxCR.labels, false, [], 0, sandboxCR.blueprint⟩

/-- The memo of `isSandboxStale`. -/
abbrev Memo := String → Option Bool

namespace Reconciler

variable {σ ν : Type} (r : Reconciler σ ν)

/-- `getTemplate`: the template the pool refers to; an error other than `NotFound` is
wrapped. -/
def getTemplate (warmPool : WarmPoolObject) : Api σ ν (Except (TemplateError × String) (SandboxTemplate σ ν)) := do
  match ← request (Call.getTemplate warmPool.pool.templateRefName) with
  | .ok template => pure (.ok template)
  | .error .notFound => pure (.error (.notFound, ApiError.notFound.text))
  | .error err =>
    pure (.error (.other, "failed to get sandbox template " ++ r.quote warmPool.pool.templateRefName ++ ": " ++
      err.text))

def computePodTemplateHash (template : SandboxTemplate σ ν) : Except String String :=
  match r.marshalPodTemplate template.blueprint.podTemplate with
  | .ok specJSON => .ok (NameHash specJSON)
  | .error err => .error ("failed to marshal pod template for hashing: " ++ err)

def computeSandboxBlueprintHash (template : SandboxTemplate σ ν) : Except String String :=
  match r.marshalSandboxBlueprint template.blueprint with
  | .ok specJSON => .ok (NameHash specJSON)
  | .error err => .error ("failed to marshal sandbox blueprint for hashing: " ++ err)

/-- `fetchTemplateAndHash`: the template with its Pod template hash and blueprint hash, or the
first error. -/
def fetchTemplateAndHash (warmPool : WarmPoolObject) :
    Api σ ν (Except (TemplateError × String) (SandboxTemplate σ ν × String × String)) := do
  match ← r.getTemplate warmPool with
  | .error err => pure (.error err)
  | .ok template =>
    match r.computePodTemplateHash template with
    | .error err => pure (.error (.other, err))
    | .ok currentPodTemplateHash =>
      match r.computeSandboxBlueprintHash template with
      | .error err => pure (.error (.other, err))
      | .ok currentSandboxBlueprintHash => pure (.ok (template, currentPodTemplateHash, currentSandboxBlueprintHash))

/-- `adoptSandbox`: the pool becomes the Sandbox's controller, its launch type is set, and it is
updated. -/
def adoptSandbox (warmPool : WarmPoolObject) (sb : PoolMember σ ν) : Api σ ν (Except String (PoolMember σ ν)) :=
  match setControllerReference r.apiGroupOf r.poolKind warmPool sb.name sb.ownerReferences with
  | .error err => pure (.error err)
  | .ok owners => do
    match ← request (Call.updateSandbox { sb with
        ownerReferences := owners, labels := (setWarmLaunchTypeLabelIfNeeded sb.labels).2 }) with
    | .ok updated => pure (.ok updated)
    | .error err => pure (.error err.text)

/-- The staleness check of one listed Sandbox in `filterActiveSandboxes`: made when the template
was fetched, and then only under the Recreate strategy or for an orphan. -/
def checkStale (isStale : Option (PoolMember σ ν → Memo → Bool × Memo)) (warmPool : WarmPoolObject)
    (sb : PoolMember σ ν) (vettedHashes : Memo) : Bool × Memo :=
  match isStale with
  | some isStale =>
      if updateStrategyOf warmPool.updateStrategyType == UpdateStrategy.recreate || sb.controllerRef.isNone then
        isStale sb vettedHashes
      else (false, vettedHashes)
  | none => (false, vettedHashes)

/-- The loop of `filterActiveSandboxes` over the listed Sandboxes, with the active ones and the
errors so far and the memo; `isStale` is the staleness check with the template, `none` when the
template could not be fetched. -/
def filterActiveSandboxesWith (isStale : Option (PoolMember σ ν → Memo → Bool × Memo)) (warmPool : WarmPoolObject) :
    List (PoolMember σ ν) → List (PoolMember σ ν) → List String → Memo → Api σ ν (List (PoolMember σ ν) × List String)
  | [], activeSandboxes, allErrors, _ => pure (activeSandboxes, allErrors)
  | sb :: sandboxes, activeSandboxes, allErrors, vettedHashes =>
    if sb.deleting then filterActiveSandboxesWith isStale warmPool sandboxes activeSandboxes allErrors vettedHashes
    else
      let controllerRef := sb.controllerRef
      let isOrphan := controllerRef.isNone
      let isControlledByPool := controllerRef.any (·.uid == warmPool.uid)
      if !isOrphan && !isControlledByPool then
        filterActiveSandboxesWith isStale warmPool sandboxes activeSandboxes allErrors vettedHashes
      else
        let checked := checkStale isStale warmPool sb vettedHashes
        if checked.1 then do
          match ← request (Call.deleteSandbox sb) with
          | .ok () => filterActiveSandboxesWith isStale warmPool sandboxes activeSandboxes allErrors checked.2
          | .error err =>
            filterActiveSandboxesWith isStale warmPool sandboxes activeSandboxes (allErrors ++ [err.text]) checked.2
        -- from here the Sandbox is either the pool's or an orphan
        else if isControlledByPool then
          let labelled := setWarmLaunchTypeLabelIfNeeded sb.labels
          if labelled.1 then do
            match ← request (Call.updateSandbox { sb with labels := labelled.2 }) with
            | .ok updated =>
              filterActiveSandboxesWith isStale warmPool sandboxes (activeSandboxes ++ [updated]) allErrors checked.2
            | .error err =>
              filterActiveSandboxesWith isStale warmPool sandboxes activeSandboxes (allErrors ++ [err.text]) checked.2
          else filterActiveSandboxesWith isStale warmPool sandboxes (activeSandboxes ++ [sb]) allErrors checked.2
        else do
          match ← r.adoptSandbox warmPool sb with
          | .ok adopted =>
            filterActiveSandboxesWith isStale warmPool sandboxes (activeSandboxes ++ [adopted]) allErrors checked.2
          | .error err =>
            filterActiveSandboxesWith isStale warmPool sandboxes activeSandboxes (allErrors ++ [err]) checked.2

/-- `filterActiveSandboxes`: the memo starts empty and the check is `isSandboxStale` against the
fetched template and its blueprint hash. -/
def filterActiveSandboxes (warmPool : WarmPoolObject)
    (fetched : Except (TemplateError × String) (SandboxTemplate σ ν × String × String)) (sandboxes : List (PoolMember σ ν)) :
    Api σ ν (List (PoolMember σ ν) × List String) :=
  let isStale := match fetched with
    | .ok (template, _, currentSandboxBlueprintHash) =>
        some fun sb vettedHashes => isSandboxStale r.eq sb.staleView template currentSandboxBlueprintHash vettedHashes
    | .error _ => none
  r.filterActiveSandboxesWith isStale warmPool sandboxes [] [] fun _ => none

/-- The loop of `reconcilePool` over the active Sandboxes that deletes the stuck ones. -/
def deleteStuck (now : Nat) : List (PoolMember σ ν) → List (PoolMember σ ν) → List String →
    Api σ ν (List (PoolMember σ ν) × List String)
  | [], healthySandboxes, allErrors => pure (healthySandboxes, allErrors)
  | sb :: activeSandboxes, healthySandboxes, allErrors =>
    if isStuck now sb.scalingView then do
      match ← request (Call.deleteSandbox sb) with
      | .ok () => deleteStuck now activeSandboxes healthySandboxes allErrors
      | .error err => deleteStuck now activeSandboxes healthySandboxes (allErrors ++ [err.text])
    else deleteStuck now activeSandboxes (healthySandboxes ++ [sb]) allErrors

/-- One batch of `slowStartBatch`: `fn` on each index, counting the successes and keeping the
first error. -/
def runBatch (fn : Nat → Api σ ν (Except String Unit)) : List Nat → Nat → Option String → Api σ ν (Nat × Option String)
  | [], batchSuccesses, firstErr => pure (batchSuccesses, firstErr)
  | index :: indices, batchSuccesses, firstErr => do
    match ← fn index with
    | .ok () => runBatch fn indices (batchSuccesses + 1) firstErr
    | .error err => runBatch fn indices batchSuccesses (firstErr.or (some err))

/-- The loop of `slowStartBatch` after `successes` calls, with `remaining` left and `nextSize`
the batch size before `remaining` caps it. -/
def slowStartLoop (fn : Nat → Api σ ν (Except String Unit)) (successes remaining nextSize : Nat) :
    Api σ ν (Nat × Option String) :=
  let batchSize := min nextSize remaining
  if _ : batchSize > 0 then do
    let batch ← runBatch fn ((List.range batchSize).map (successes + ·)) 0 none
    match batch.2 with
    | some err => pure (successes + batch.1, some err)
    | none => slowStartLoop fn (successes + batch.1) (remaining - batchSize) (2 * batchSize)
  else pure (successes, none)
termination_by remaining
decreasing_by omega

/-- `slowStartBatch`: the count of calls that succeeded and the first error. -/
def slowStartBatch (count : Int) (initialBatchSize : Nat) (fn : Nat → Api σ ν (Except String Unit)) :
    Api σ ν (Nat × Option String) :=
  slowStartLoop fn 0 count.toNat initialBatchSize

def createPoolSandbox (sandboxCR : PoolMember σ ν) : Api σ ν (Except String Unit) := do
  match ← request (Call.createSandbox sandboxCR) with
  | .ok _ => pure (.ok ())
  | .error err => pure (.error err.text)

/-- `deletePoolSandbox`: a Sandbox already gone is no error. -/
def deletePoolSandbox (sb : PoolMember σ ν) : Api σ ν (Except String Unit) := do
  match ← request (Call.deleteSandbox sb) with
  | .ok () => pure (.ok ())
  | .error .notFound => pure (.ok ())
  | .error err => pure (.error err.text)

/-- `Create new sandboxes if we need more`. -/
def createNewSandboxes (warmPool : WarmPoolObject) (poolNameHash : String)
    (fetched : Except (TemplateError × String) (SandboxTemplate σ ν × String × String))
    (desiredReplicas currentReplicas maxBatchSize : Int) : Api σ ν (List String) :=
  match fetched with
  | .ok (template, currentPodTemplateHash, currentSandboxBlueprintHash) =>
    if currentReplicas < desiredReplicas then
      let sandboxesToCreate := min (toInt32 (desiredReplicas - currentReplicas)) maxBatchSize
      match r.buildSandboxCR warmPool.pool poolNameHash template currentPodTemplateHash currentSandboxBlueprintHash with
      | .error err => pure [err]
      | .ok sandboxCR => do
        let created ← slowStartBatch sandboxesToCreate 1 fun _ =>
          createPoolSandbox (PoolMember.ofSandboxCR warmPool sandboxCR)
        pure created.2.toList
    else pure []
  | .error _ => pure []

/-- `Delete excess sandboxes if we have too many`: not-Ready ones first, then newest first. -/
def deleteExcessSandboxes (activeSandboxes : List (PoolMember σ ν)) (desiredReplicas currentReplicas maxBatchSize : Int) :
    Api σ ν (List String) :=
  if currentReplicas > desiredReplicas then do
    let sandboxesToDelete := min (toInt32 (currentReplicas - desiredReplicas)) maxBatchSize
    let sorted := sortFunc activeSandboxes fun a b => compareForDeletion a.scalingView b.scalingView
    let toDeleteCount := min sandboxesToDelete (toInt32 sorted.length)
    let deleted ← slowStartBatch toDeleteCount 1 fun idx =>
      match sorted[idx]? with
      | some sb => deletePoolSandbox sb
      | none => pure (.ok ())
    pure deleted.2.toList
  else pure []

/-- The selector `labels.SelectorFromSet` prints for the warm-pool label. -/
def poolSelector (poolNameHash : String) : String := SandboxWarmPoolLabel ++ "=" ++ poolNameHash

/-- `reconcilePool`: the pool with its status as computed, and the errors joined. -/
def reconcilePool (now : Nat) (warmPool : WarmPoolObject) : Api σ ν (WarmPoolObject × List String) := do
  let poolNameHash := NameHash warmPool.pool.name
  match ← request (Call.listSandboxes poolNameHash) with
  | .error err => pure (warmPool, [err.text])
  | .ok sandboxList =>
    let fetched ← r.fetchTemplateAndHash warmPool
    let filtered ← r.filterActiveSandboxes warmPool fetched sandboxList
    let healthy ← deleteStuck now filtered.1 [] filtered.2
    let activeSandboxes := healthy.1
    let desiredReplicas := warmPool.replicas.getD 1
    let currentReplicas := toInt32 activeSandboxes.length
    let readyReplicas := toInt32 (activeSandboxes.countP fun sb => isSandboxReady sb.conditions)
    let warmPool := { warmPool with status := ⟨currentReplicas, readyReplicas, poolSelector poolNameHash⟩ }
    let maxBatchSize := toInt32 r.MaxBatchSize
    let createErrors ← r.createNewSandboxes warmPool poolNameHash fetched desiredReplicas currentReplicas maxBatchSize
    let deleteErrors ← deleteExcessSandboxes activeSandboxes desiredReplicas currentReplicas maxBatchSize
    let tmplErrors := match fetched with
      | .error (.other, err) => [err]
      | _ => []
    pure (warmPool, healthy.2 ++ createErrors ++ deleteErrors ++ tmplErrors)

/-- `updateStatus`: a status Patch when the status changed. -/
def updateStatus (oldStatus : PoolStatus) (warmPool : WarmPoolObject) : Api σ ν (Except String Unit) :=
  if oldStatus == warmPool.status then pure (.ok ())
  else do
    match ← request (Call.patchPoolStatus { warmPool with status := oldStatus } warmPool) with
    | .ok _ => pure (.ok ())
    | .error err => pure (.error ("failed to update SandboxWarmPool status: " ++ err.text))

/-- `Reconcile` of the pool `name` at the time `now`; an error is the joined errors' text. -/
def reconcile (now : Nat) (name : String) : Api σ ν (Except String Unit) := do
  match ← request (Call.getPool name) with
  | .error .notFound => pure (.ok ())
  | .error err => pure (.error err.text)
  | .ok warmPool =>
    if warmPool.deleting then pure (.ok ())
    else do
      let reconciled ← r.reconcilePool now warmPool
      if reconciled.2.isEmpty then updateStatus warmPool.status reconciled.1
      else pure (.error (String.intercalate "\n" reconciled.2))

/-- A worker's run of `Reconcile`; the requeue after an error is a later run. -/
def reconcileHandler (now : Nat) (name : String) : Api σ ν Unit := do
  let _ ← r.reconcile now name
  pure ()

/-! ## The memo changes nothing

The loop threads `vettedHashes` through its checks; with labels that decide the comparison the
memo only ever answers what the full comparison would, so the loop is the same program as the
one that compares every Sandbox in full.  Induction on the list, with the memo's soundness as
the invariant (`isSandboxStale_sound`). -/

section Memo

variable (warmPool : WarmPoolObject) (template : SandboxTemplate σ ν) (currentSandboxBlueprintHash : String)

/-- The check `filterActiveSandboxes` makes, with the memo. -/
def memoisedCheck : PoolMember σ ν → Memo → Bool × Memo :=
  fun sb vettedHashes => isSandboxStale r.eq sb.staleView template currentSandboxBlueprintHash vettedHashes

/-- The check with no memo. -/
def uncachedCheck : PoolMember σ ν → Memo → Bool × Memo :=
  fun sb vettedHashes => (isSandboxStaleUncached r.eq template currentSandboxBlueprintHash sb.staleView, vettedHashes)

theorem filterActiveSandboxesWith_memo {members : List (PoolMember σ ν)} (coherent : Coherent r.eq template members)
    (sandboxes : List (PoolMember σ ν)) (listed : ∀ sb ∈ sandboxes, sb ∈ members)
    (activeSandboxes : List (PoolMember σ ν)) (allErrors : List String) {vettedHashes : Memo}
    (sound : MemoSound r.eq template members vettedHashes) (unused : Memo) :
    r.filterActiveSandboxesWith (some (r.memoisedCheck template currentSandboxBlueprintHash)) warmPool sandboxes
        activeSandboxes allErrors vettedHashes =
      r.filterActiveSandboxesWith (some (r.uncachedCheck template currentSandboxBlueprintHash)) warmPool sandboxes
        activeSandboxes allErrors unused := by
  induction sandboxes generalizing activeSandboxes allErrors vettedHashes unused with
  | nil => rfl
  | cons sb sandboxes ih =>
    have rest : ∀ x ∈ sandboxes, x ∈ members := fun x mem => listed x (List.mem_cons_of_mem sb mem)
    have step : (isSandboxStale r.eq sb.staleView template currentSandboxBlueprintHash vettedHashes).1 =
          isSandboxStaleUncached r.eq template currentSandboxBlueprintHash sb.staleView ∧
        MemoSound r.eq template members (isSandboxStale r.eq sb.staleView template currentSandboxBlueprintHash vettedHashes).2 :=
      isSandboxStale_sound coherent sound (listed sb List.mem_cons_self)
    -- the skipped Sandboxes keep the memo; a checked one moves it to a sound one
    have skipped := fun activeSandboxes allErrors => ih rest activeSandboxes allErrors sound unused
    have checked := fun activeSandboxes allErrors => ih rest activeSandboxes allErrors step.2 unused
    simp only [filterActiveSandboxesWith, checkStale, memoisedCheck, uncachedCheck]
    by_cases checks : (updateStrategyOf warmPool.updateStrategyType == UpdateStrategy.recreate || sb.controllerRef.isNone) = true
    · simp only [checks, if_true, step.1, skipped, checked]
    · simp only [checks, Bool.false_eq_true, if_false, skipped]

/-- `filterActiveSandboxes` with its memo of verdicts per template-hash label is the loop that
compares every checked Sandbox in full, whenever the listed Sandboxes that share a label compare
alike. -/
theorem filterActiveSandboxes_memo (currentPodTemplateHash : String) (sandboxes : List (PoolMember σ ν))
    (coherent : Coherent r.eq template sandboxes) :
    r.filterActiveSandboxes warmPool (.ok (template, currentPodTemplateHash, currentSandboxBlueprintHash)) sandboxes =
      r.filterActiveSandboxesWith (some (r.uncachedCheck template currentSandboxBlueprintHash)) warmPool sandboxes [] []
        fun _ => none :=
  r.filterActiveSandboxesWith_memo warmPool template currentSandboxBlueprintHash coherent sandboxes (fun _ listed => listed)
    [] [] (memoSound_empty r.eq template sandboxes) _

end Memo

end Reconciler

/-- A reconciler of the default batch size, with `DeepEqual` the structural equality and a
`json.Marshal` that writes every spec alike. -/
def defaultReconciler : Reconciler Unit Unit where
  toSandboxWarmPoolReconciler := evictingReconciler
  MaxBatchSize := 300
  eq := DeepEqual.structural
  marshalPodTemplate := fun _ => .ok "null"
  marshalSandboxBlueprint := fun _ => .ok "null"
  quote := fun name => "\"" ++ name ++ "\""
  apiGroupOf := fun apiVersion => (apiVersion.splitOn "/").head!

/-- The pool `python-pool`, two replicas, replenished on demand. -/
def pythonWarmPool : WarmPoolObject := ⟨pythonPool, "uid-python-pool", 1, false, some 2, "", ⟨0, 0, ""⟩⟩

/-- Two members of `python-pool` under the Recreate strategy, created from one earlier template
spec: the second is judged from the memo. -/
def twinMember (name : String) (resourceVersion : Nat) : PoolMember Unit Unit :=
  ⟨name, resourceVersion,
    [⟨"extensions.agents.x-k8s.io/v1beta1", "SandboxWarmPool", "python-pool", "uid-python-pool", true⟩],
    (((∅ : StrMap).set SandboxWarmPoolLabel (NameHash "python-pool")).set Controller.SandboxTemplateRefHashLabel
      (SandboxTemplateRefHash "python")).set SandboxTemplateHashLabel "earlier-hash",
    false, [], 1, pythonTemplate.blueprint⟩

theorem filterActiveSandboxes_memo_twins :
    Coherent defaultReconciler.eq pythonTemplate [twinMember "python-pool-a" 3, twinMember "python-pool-b" 4] ∧
      defaultReconciler.filterActiveSandboxes { pythonWarmPool with updateStrategyType := "Recreate" }
          (.ok (pythonTemplate, "pod-hash", "blueprint-hash")) [twinMember "python-pool-a" 3, twinMember "python-pool-b" 4] =
        defaultReconciler.filterActiveSandboxesWith (some (defaultReconciler.uncachedCheck pythonTemplate "blueprint-hash"))
          { pythonWarmPool with updateStrategyType := "Recreate" }
          [twinMember "python-pool-a" 3, twinMember "python-pool-b" 4] [] [] fun _ => none :=
  ⟨by decide +kernel, defaultReconciler.filterActiveSandboxes_memo { pythonWarmPool with updateStrategyType := "Recreate" }
    pythonTemplate "blueprint-hash" "pod-hash" _ (by decide +kernel)⟩

/-! ## The batches refine the abstract ones

Run alone, with each call's outcome fixed by its index, the program `slowStartBatch` returns the
count and the failure that the abstract `slowStartBatch` of `WarmPool.Scaling` computes with that
outcome as its oracle: induction follows the loop, and each batch is one `runBatch`. -/

section Batches

variable {σ ν : Type}

/-- Every request answered from the stored objects: a run with nothing between its requests. -/
def fresh (s : Store σ ν) (c : Call σ ν) : c.Response × Store σ ν := s.answer c .latest

namespace Reconciler

/-- Calls that fail at index 3 and nowhere else. -/
def failAtThree (i : Nat) : Api Unit Unit (Except String Unit) := pure (if i = 3 then .error "boom" else .ok ())

theorem failAtThree_outcome (i : Nat) (s : Store Unit Unit) :
    ((failAtThree i).exec fresh s).1 = .ok () ↔ (i != 3) = true := by
  unfold failAtThree
  by_cases three : i = 3 <;> simp [three]

section Refines

variable {τ : Type} (answer : τ → (c : Call σ ν) → c.Response × τ) {Inv : τ → Prop}
  {fn : Nat → Api σ ν (Except String Unit)} {ok : Nat → Bool}
  (each : ∀ i s, Inv s → (((fn i).exec answer s).1 = .ok () ↔ ok i = true) ∧ Inv ((fn i).exec answer s).2)

include each in
theorem exec_runBatch (indices : List Nat) (batchSuccesses : Nat) (firstErr : Option String) (s : τ) (inv : Inv s) :
    ((runBatch fn indices batchSuccesses firstErr).exec answer s).1.1 = batchSuccesses + (indices.filter ok).length ∧
      ((runBatch fn indices batchSuccesses firstErr).exec answer s).1.2.isSome = (firstErr.isSome || !indices.all ok) ∧
      Inv ((runBatch fn indices batchSuccesses firstErr).exec answer s).2 := by
  induction indices generalizing batchSuccesses firstErr s with
  | nil => simp [runBatch, inv]
  | cons index indices ih =>
    obtain ⟨outcome, next⟩ := each index s inv
    rw [runBatch, exec_bind]
    revert outcome next
    generalize (fn index).exec answer s = called
    rcases called with ⟨res, s'⟩
    intro outcome next
    rcases res with err | ⟨⟩
    · have failed : ok index = false := by simpa using outcome.symm
      obtain ⟨count, error, kept⟩ := ih batchSuccesses (firstErr.or (some err)) s' next
      refine ⟨?_, ?_, kept⟩
      · simp only [count, List.filter_cons, failed]
        simp
      · simp only [error, List.all_cons, failed]
        cases firstErr <;> simp
    · have succeeded : ok index = true := outcome.mp rfl
      obtain ⟨count, error, kept⟩ := ih (batchSuccesses + 1) firstErr s' next
      refine ⟨?_, ?_, kept⟩
      · simp only [count, List.filter_cons, succeeded]
        simp
        omega
      · simp [error, succeeded]

include each in
theorem exec_slowStartLoop (successes remaining nextSize : Nat) (s : τ) (inv : Inv s) :
    ((slowStartLoop fn successes remaining nextSize).exec answer s).1.1 =
        (WarmPool.slowStartLoop ok successes remaining nextSize).successes ∧
      ((slowStartLoop fn successes remaining nextSize).exec answer s).1.2.isSome =
        (WarmPool.slowStartLoop ok successes remaining nextSize).failed ∧
      Inv ((slowStartLoop fn successes remaining nextSize).exec answer s).2 := by
  induction remaining using Nat.strong_induction_on generalizing s successes nextSize with
  | _ remaining ih =>
    rw [slowStartLoop, WarmPool.slowStartLoop]
    dsimp only
    by_cases started : min nextSize remaining > 0
    · rw [dif_pos started, if_pos started, exec_bind]
      obtain ⟨count, error, kept⟩ := exec_runBatch answer each
        ((List.range (min nextSize remaining)).map (successes + ·)) 0 none s inv
      revert count error kept
      generalize (runBatch fn ((List.range (min nextSize remaining)).map (successes + ·)) 0 none).exec answer s = batch
      rcases batch with ⟨⟨batchSuccesses, firstErr⟩, s'⟩
      intro count error kept
      dsimp only at count error ⊢
      rw [Nat.zero_add] at count
      subst count
      rcases firstErr with _ | err
      · -- every call of the batch succeeded: the loop goes on with the rest
        have all : ((List.range (min nextSize remaining)).map (successes + ·)).all ok = true := by
          simpa using error.symm
        rw [if_pos all]
        exact ih _ (by omega) _ _ s' kept
      · -- a call failed: the loop stops after the batch
        have notAll : ((List.range (min nextSize remaining)).map (successes + ·)).all ok = false := by
          simpa using error.symm
        rw [if_neg (by simp [notAll])]
        exact ⟨rfl, rfl, kept⟩
    · rw [dif_neg started, if_neg started]
      exact ⟨rfl, rfl, inv⟩

include each in
/-- Run alone, `slowStartBatch` over calls whose outcome depends only on their index returns the
count and the failure of the abstract `slowStartBatch` with that outcome as its oracle, so what is
proved of the abstract loop holds of the program. -/
theorem slowStartBatch_refines (count : Int) (initialBatchSize : Nat) (s : τ) (inv : Inv s) :
    ((slowStartBatch count initialBatchSize fn).exec answer s).1.1 =
        (WarmPool.slowStartBatch count initialBatchSize ok).successes ∧
      ((slowStartBatch count initialBatchSize fn).exec answer s).1.2.isSome =
        (WarmPool.slowStartBatch count initialBatchSize ok).failed := by
  obtain ⟨successes, failed, -⟩ := exec_slowStartLoop answer each 0 count.toNat initialBatchSize s inv
  exact ⟨successes, failed⟩

theorem slowStartBatch_refines_failAtThree :
    ((slowStartBatch 10 1 failAtThree).exec fresh (⟨[], [], [], [], [], [], 0, 0⟩ : Store Unit Unit)).1.1 =
        (WarmPool.slowStartBatch 10 1 (· != 3)).successes ∧
      ((slowStartBatch 10 1 failAtThree).exec fresh (⟨[], [], [], [], [], [], 0, 0⟩ : Store Unit Unit)).1.2.isSome =
        (WarmPool.slowStartBatch 10 1 (· != 3)).failed :=
  slowStartBatch_refines fresh (fun i s (_ : True) => ⟨failAtThree_outcome i s, trivial⟩) 10 1 _ trivial

include each in
/-- Run alone, `slowStartBatch` returns `(count, nil)` exactly when each of the calls
`0, …, count - 1` succeeds: the program's side of the abstract `slowStartBatch_of_all` and
`slowStartBatch_of_fails`. -/
theorem slowStartBatch_eq_count_iff (count : Int) {initialBatchSize : Nat} (started : 1 ≤ initialBatchSize)
    (s : τ) (inv : Inv s) :
    ((slowStartBatch count initialBatchSize fn).exec answer s).1 = (count.toNat, none) ↔
      ∀ i < count.toNat, ok i = true := by
  obtain ⟨successes, failed, -⟩ := exec_slowStartLoop answer each 0 count.toNat initialBatchSize s inv
  change ((slowStartBatch count initialBatchSize fn).exec answer s).1.1 =
    (WarmPool.slowStartBatch count initialBatchSize ok).successes at successes
  change ((slowStartBatch count initialBatchSize fn).exec answer s).1.2.isSome =
    (WarmPool.slowStartBatch count initialBatchSize ok).failed at failed
  constructor
  · -- a failing call would make the abstract loop, and so the program, report an error
    intro returned i below
    by_contra fails
    have failedAbstract := (slowStartBatch_of_fails count ok started ⟨i, below, by simpa using fails⟩).1
    simp [returned, failedAbstract] at failed
  · intro succeeds
    obtain ⟨-, all, notFailed⟩ := slowStartBatch_of_all count ok started succeeds
    rw [notFailed] at failed
    exact Prod.ext (successes.trans all) (by simpa using failed)

theorem slowStartBatch_eq_count_iff_failAtThree :
    ((slowStartBatch 10 1 failAtThree).exec fresh (⟨[], [], [], [], [], [], 0, 0⟩ : Store Unit Unit)).1 =
        ((10 : Int).toNat, none) ↔
      ∀ i < (10 : Int).toNat, (i != 3) = true :=
  slowStartBatch_eq_count_iff fresh (fun i s (_ : True) => ⟨failAtThree_outcome i s, trivial⟩) 10 (Nat.le_refl 1) _ trivial

end Refines

end Reconciler

end Batches

end AgentSandbox.WarmPool
