import AgentSandbox.Controller.PodMetadata
import AgentSandbox.Kube.Conditions
import AgentSandbox.Lib.Emit

/-!
# The core Sandbox controller's writes to its children

`SandboxReconciler.Reconcile` (`controllers/sandbox_controller.go`) with the
functions that read and write the Sandbox's Pod, Service and
PersistentVolumeClaims: `reconcileChildResources`, `reconcilePVCs`,
`reconcilePod`, `reconcileService` and `handleSandboxExpiry`.  A call is a
program of `Emit.Prog`: it logs every request it sends, and the API server's
answers (`CoreEnv`) decide its branches, so a statement over every `CoreEnv`
covers every store and every result of every call.

The Sandbox's status is computed from what these functions return; it is not
modelled beyond whether a status write is sent.

`reconcile_writes_only_owned`: every update, patch or delete of a child is of
one the Sandbox controls, as read, or of an unowned one it may adopt.
-/

set_option autoImplicit false

namespace AgentSandbox.Controller

open Emit Meta

/-! ## Keys and `NameHash` -/

def SandboxAdoptableLabel : String := "agents.x-k8s.io/adoptable"

def SandboxPodNameAnnotation : String := "agents.x-k8s.io/pod-name"

def ClusterIPNone : String := "None"

def SandboxConditionReady : String := "Ready"

def SandboxReasonExpired : String := "SandboxExpired"

/-- `GetNumericHash`: 32-bit FNV-1a over the UTF-8 bytes. -/
def GetNumericHash (input : String) : UInt32 :=
  input.toUTF8.toList.foldl (fun h b => (h ^^^ b.toUInt32) * 16777619) 2166136261

/-- `NameHash`: the hash as eight lower-case hex digits, high digit first. -/
def NameHash (objectName : String) : String :=
  let h := GetNumericHash objectName
  let hex : List Char := "0123456789abcdef".toList
  String.ofList (([28, 24, 20, 16, 12, 8, 4, 0] : List UInt32).map fun shift => hex.getD ((h >>> shift) &&& 0xf).toNat '0')

example : NameHash "a" = "e40c292c" := by decide +kernel

section NameHash

open GoStrings

theorem nibble_toNat (h shift : UInt32) (small : shift.toNat < 32) :
    ((h >>> shift) &&& 0xf).toNat = h.toNat / 2 ^ shift.toNat % 16 := by
  rw [UInt32.toNat_and, UInt32.toNat_shiftRight, Nat.mod_eq_of_lt small, Nat.shiftRight_eq_div_pow]
  exact Nat.and_two_pow_sub_one_eq_mod _ 4

/-- The character `NameHash` writes for the nibble at `shift = 4 * i` is the
hexadecimal digit of `h` at position `i`. -/
theorem nibbleChar_eq_hexDigit (h shift : UInt32) {i : Nat} (at4 : shift.toNat = 4 * i) (small : i < 8) :
    "0123456789abcdef".toList.getD ((h >>> shift) &&& 0xf).toNat '0' = hexDigit h.toNat i := by
  have table : ∀ d < 16, hexAlphabet.getD d '0' = d.digitChar := by decide
  rw [nibble_toNat h shift (by omega), at4, Nat.pow_mul]
  exact table _ (Nat.mod_lt _ (by decide))

/-- `NameHash` writes the eight lowest hexadecimal digits of the hash, the
highest first. -/
theorem nameHash_toList (objectName : String) :
    (NameHash objectName).toList = hexDigits 8 (GetNumericHash objectName).toNat := by
  have digits : ∀ n, hexDigits 8 n =
      [hexDigit n 7, hexDigit n 6, hexDigit n 5, hexDigit n 4, hexDigit n 3, hexDigit n 2, hexDigit n 1,
        hexDigit n 0] := fun _ => rfl
  simp only [NameHash, String.toList_ofList, List.map_cons, List.map_nil, digits, List.cons.injEq, and_true]
  exact ⟨nibbleChar_eq_hexDigit _ 28 rfl (by decide), nibbleChar_eq_hexDigit _ 24 rfl (by decide),
    nibbleChar_eq_hexDigit _ 20 rfl (by decide), nibbleChar_eq_hexDigit _ 16 rfl (by decide),
    nibbleChar_eq_hexDigit _ 12 rfl (by decide), nibbleChar_eq_hexDigit _ 8 rfl (by decide),
    nibbleChar_eq_hexDigit _ 4 rfl (by decide), nibbleChar_eq_hexDigit _ 0 rfl (by decide)⟩

theorem sprintfHex_toNat_toList (h : UInt32) : (sprintfHex 8 h.toNat).toList = hexDigits 8 h.toNat :=
  sprintfHex_toList (by simpa using h.toNat_lt)

theorem sprintfHex_toNat_injective : Function.Injective fun h : UInt32 => sprintfHex 8 h.toNat := by
  intro a b same
  have digits : hexDigits 8 a.toNat = hexDigits 8 b.toNat := by
    rw [← sprintfHex_toNat_toList, ← sprintfHex_toNat_toList]
    exact congrArg String.toList same
  exact UInt32.toNat_inj.mp (hexDigits_injective (by simpa using a.toNat_lt) (by simpa using b.toNat_lt) digits)

/-- The strings `%08x` prints for hash values are exactly the eight-character
strings of lower-case hexadecimal digits. -/
theorem exists_sprintfHex_toNat_iff (t : String) :
    (t.length = 8 ∧ ∀ c ∈ t.toList, c ∈ hexAlphabet) ↔ ∃ h : UInt32, sprintfHex 8 h.toNat = t := by
  constructor
  · rintro ⟨length, digits⟩
    obtain ⟨n, bound, named⟩ := @exists_hexDigits 8 t.toList (by rw [String.length_toList, length]) digits
    have fits : n < 2 ^ 32 := by simpa using bound
    refine ⟨UInt32.ofNat n, String.toList_inj.mp ?_⟩
    rw [sprintfHex_toNat_toList, UInt32.toNat_ofNat_of_lt' fits, named]
  · rintro ⟨h, rfl⟩
    rw [← String.length_toList, sprintfHex_toNat_toList]
    exact ⟨length_hexDigits 8 _, fun _ mem => mem_hexDigits mem⟩

/-- `NameHash` prints the FNV-1a hash as `fmt.Sprintf("%08x", …)` does, and
that formatting is a bijection between 32-bit hash values and the
eight-character strings of lower-case hexadecimal digits. -/
theorem nameHash_eq_sprintfHex (objectName : String) :
    NameHash objectName = sprintfHex 8 (GetNumericHash objectName).toNat ∧
      Function.Injective (fun h : UInt32 => sprintfHex 8 h.toNat) ∧
      ∀ t : String, (t.length = 8 ∧ ∀ c ∈ t.toList, c ∈ hexAlphabet) ↔ ∃ h : UInt32, sprintfHex 8 h.toNat = t := by
  refine ⟨String.toList_inj.mp ?_, sprintfHex_toNat_injective, exists_sprintfHex_toNat_iff⟩
  rw [nameHash_toList, sprintfHex_toNat_toList]

end NameHash

/-! ## Objects and requests -/

inductive ChildKind
  | pod
  | service
  | persistentVolumeClaim
deriving DecidableEq, Repr

structure ServicePort where
  name : String
  protocol : String
  port : Nat
  targetPort : String
deriving DecidableEq, Repr

/-- A Pod, Service or PersistentVolumeClaim as the controller reads it. -/
structure Child where
  name : String
  /-- The UID of its controller reference, if it has one. -/
  controllerUID : Option String
  labels : StrMap
  annotations : StrMap
  deleting : Bool
  /-- `Spec.ClusterIP`, `Spec.Selector` and `Spec.Ports` of a Service. -/
  clusterIP : String
  selector : StrMap
  ports : List ServicePort

/-- The fields of a Sandbox that `Reconcile` reads. -/
structure CoreSandbox where
  name : String
  uid : String
  deleting : Bool
  annotations : StrMap
  metadata : Sandbox
  /-- `Spec.Service`. -/
  service : Option Bool
  /-- `servicePortsForSandbox(sandbox)`. -/
  servicePorts : List ServicePort
  /-- `Spec.OperatingMode == Suspended`. -/
  suspended : Bool
  /-- The names of `Spec.VolumeClaimTemplates`. -/
  volumeClaimTemplates : List String
  shutdownTime : Option Int
  /-- `Spec.ShutdownPolicy` is `Delete`. -/
  shutdownPolicyDelete : Bool
  conditions : List Condition

inductive ApiError
  | notFound
  | alreadyExists
  | other
deriving DecidableEq, Repr

inductive Verb
  | update
  | patch
  | delete
deriving DecidableEq, Repr

inductive Request
  | create (kind : ChildKind) (name : String)
  /-- A write to the child the controller read as `target`. -/
  | write (verb : Verb) (kind : ChildKind) (target : Child)
  | patchSandbox
  | updateSandboxStatus
  | deleteSandbox

inductive CoreError
  | api (err : ApiError)
  | ownedByOther (kind : ChildKind) (name : String)
  | notAdoptable (kind : ChildKind) (name : String)
  | clusterIPMismatch (name clusterIP : String)

/-- The API server's answers during one `Reconcile`: the stored child of a
kind and name (or a failed Get), the Pod List, and the answer to every request;
`statusChanged` says whether the status the call computed differs from the
stored one. -/
structure CoreEnv where
  get : ChildKind → String → Except ApiError Child
  listPods : Option ApiError
  answer : Request → Option ApiError
  traceContext : String
  statusChanged : Bool
  /-- The group `utils.GetGroupKind` reads from an `APIVersion`. -/
  apiGroupOf : String → String

abbrev Reconciling := Prog CoreError Request

inductive ResourceOwnership
  | resourceOwnedBySandbox
  | resourceUnowned
  | resourceOwnedByOther
deriving DecidableEq, Repr

def checkOwnership (obj : Child) (uid : String) : ResourceOwnership :=
  match obj.controllerUID with
  | none => .resourceUnowned
  | some owner => if owner == uid then .resourceOwnedBySandbox else .resourceOwnedByOther

/-- `isAdoptablePool || hasTrackingLabel`. -/
def adoptionAuthorized (obj : Child) (nameHash : String) : Bool :=
  obj.labels.get SandboxAdoptableLabel == "true" || obj.labels.get sandboxLabel == nameHash

def resolvePodName (sandbox : CoreSandbox) : String :=
  match nonEmptyValue sandbox.annotations SandboxPodNameAnnotation with
  | some name => name
  | none => sandbox.name

/-! ## Requests -/

section Requests

variable (env : CoreEnv)

/-- Send a request and fail with the API server's error. -/
def send (r : Request) : Reconciling Unit := do
  emit r
  match env.answer r with
  | some err => throw (.api err)
  | none => pure ()

/-- Send a request whose NotFound answer is no error (`Delete` of a child). -/
def sendIgnoringNotFound (r : Request) : Reconciling Unit := do
  emit r
  match env.answer r with
  | none | some .notFound => pure ()
  | some err => throw (.api err)

/-- `r.Get` of a child: `none` when it is not found. -/
def getChild (kind : ChildKind) (name : String) : Reconciling (Option Child) :=
  match env.get kind name with
  | .ok obj => pure (some obj)
  | .error .notFound => pure none
  | .error err => throw (.api err)

end Requests

/-! ## The children -/

/-- The error of an outcome, `nil` for a success. -/
def errorOf {α : Type} : Except CoreError α → Option CoreError
  | .error err => some err
  | .ok _ => none

/-- The first error of several, for `errors.Join`. -/
def firstError : List (Option CoreError) → Option CoreError
  | [] => none
  | some err :: _ => some err
  | none :: rest => firstError rest

/-- Return `value` unless one of `errors` is set. -/
def joined {α : Type} (errors : List (Option CoreError)) (value : α) : Reconciling α :=
  match firstError errors with
  | some err => throw err
  | none => pure value

section Children

variable (env : CoreEnv) (sandbox : CoreSandbox) (nameHash : String)

/-- The owned Service drifted from the label, selector or ports it must have. -/
def serviceNeedsUpdate (service : Child) : Bool :=
  service.labels.get sandboxLabel != nameHash || service.selector.pairs != [(sandboxLabel, nameHash)] ||
    (sandbox.service == some true && service.ports != sandbox.servicePorts)

def reconcileService : Reconciling (Option Child) := do
  let desired := sandbox.service
  match ← getChild env .service sandbox.name with
  | none =>
      if desired == some true then do
        send env (.create .service sandbox.name)
        pure (some ⟨sandbox.name, some sandbox.uid, (∅ : StrMap).set sandboxLabel nameHash, ∅, false,
          ClusterIPNone, (∅ : StrMap).set sandboxLabel nameHash, sandbox.servicePorts⟩)
      else pure none
  | some service =>
      let ownership := checkOwnership service sandbox.uid
      if desired == some false then do
        -- only an owned Service is deleted
        if ownership == .resourceOwnedBySandbox then
          sendIgnoringNotFound env (.write .delete .service service)
        pure none
      else
        match ownership with
        | .resourceOwnedByOther => throw (.ownedByOther .service service.name)
        | .resourceUnowned =>
            if desired == none then pure none
            else if !adoptionAuthorized service nameHash then throw (.notAdoptable .service service.name)
            else if service.clusterIP != ClusterIPNone && service.clusterIP != "" then
              throw (.clusterIPMismatch service.name service.clusterIP)
            else do
              send env (.write .update .service service)
              pure (some { service with
                controllerUID := some sandbox.uid
                labels := service.labels.set sandboxLabel nameHash
                selector := (∅ : StrMap).set sandboxLabel nameHash
                ports := sandbox.servicePorts })
        | .resourceOwnedBySandbox => do
            if serviceNeedsUpdate sandbox nameHash service then
              send env (.write .patch .service service)
            pure (some service)

/-- One iteration of the loop of `reconcilePVCs`. -/
def reconcilePVC (template : String) : Reconciling Unit := do
  let pvcName := template ++ "-" ++ sandbox.name
  match ← getChild env .persistentVolumeClaim pvcName with
  | some pvc =>
      match checkOwnership pvc sandbox.uid with
      | .resourceOwnedByOther => throw (.ownedByOther .persistentVolumeClaim pvcName)
      | .resourceUnowned =>
          if !adoptionAuthorized pvc nameHash then throw (.notAdoptable .persistentVolumeClaim pvcName)
          else send env (.write .patch .persistentVolumeClaim pvc)
      | .resourceOwnedBySandbox => pure ()
  | none => send env (.create .persistentVolumeClaim pvcName)

def reconcilePVCs : Reconciling Unit :=
  sandbox.volumeClaimTemplates.forM (reconcilePVC env sandbox nameHash)

/-- `clearPodNameAnnotation`, on the Sandbox's annotations as they stand. -/
def clearPodNameAnnotation (annotations : StrMap) : Reconciling StrMap :=
  if annotations.contains SandboxPodNameAnnotation then do
    send env .patchSandbox
    pure (annotations.delete SandboxPodNameAnnotation)
  else pure annotations

/-- The closure `ensurePodNameAnnotation`. -/
def ensurePodNameAnnotation (annotations : StrMap) (podName : String) : Reconciling StrMap :=
  let annotatedPodName := annotations.get SandboxPodNameAnnotation
  if annotatedPodName == podName then pure annotations
  else if annotatedPodName != "" then pure annotations
  else do
    send env .patchSandbox
    pure (annotations.set SandboxPodNameAnnotation podName)

/-- The closure `reconcileExistingPod`: the Pod it returns and the Sandbox's
annotations after it. -/
def reconcileExistingPod (annotations : StrMap) (pod : Child) : Reconciling (Option Child × StrMap) :=
  let ownership := checkOwnership pod sandbox.uid
  if ownership == .resourceOwnedByOther then do
    let _ ← clearPodNameAnnotation env annotations
    throw (.ownedByOther .pod pod.name)
  else
    let needsUpdate := ownership == .resourceUnowned
    if needsUpdate && !adoptionAuthorized pod nameHash then throw (.notAdoptable .pod pod.name)
    else do
      let updated := updatePodMetadata env.apiGroupOf ⟨pod.labels, pod.annotations⟩ sandbox.metadata nameHash
      if updated.2 || needsUpdate then
        send env (.write .patch .pod pod)
      let annotated ← ensurePodNameAnnotation env annotations pod.name
      let adopted : Child := { pod with
        controllerUID := some (pod.controllerUID.getD sandbox.uid)
        labels := updated.1.labels
        annotations := updated.1.annotations }
      pure (some adopted, annotated)

/-- The create path of `reconcilePod`, when no Pod of the tracked name exists. -/
def createPod (annotations : StrMap) : Reconciling (Option Child × StrMap) := do
  let podMeta := createPodMetadata env.apiGroupOf sandbox.metadata nameHash
  emit (.create .pod sandbox.name)
  match env.answer (.create .pod sandbox.name) with
  | some .alreadyExists =>
      -- another writer created it first: take the stored Pod through the existing-Pod path
      match env.get .pod sandbox.name with
      | .ok existing => reconcileExistingPod env sandbox nameHash annotations existing
      | .error err => throw (.api err)
  | some err => throw (.api err)
  | none => do
      let annotated ← ensurePodNameAnnotation env annotations sandbox.name
      pure (some ⟨sandbox.name, some sandbox.uid, podMeta.labels, podMeta.annotations, false, "", ∅, []⟩,
        annotated)

/-- The suspended path of `reconcilePod`: an owned Pod not already going away is deleted. -/
def suspendPod (found : Option Child) (annotations : StrMap) : Reconciling (Option Child × StrMap) := do
  match found with
  | some pod =>
      if checkOwnership pod sandbox.uid == .resourceOwnedBySandbox && !pod.deleting then
        send env (.write .delete .pod pod)
  | none => pure ()
  let cleared ← clearPodNameAnnotation env annotations
  pure (none, cleared)

/-- A pod-name annotation that names no Pod is cleared to recover. -/
def clearStalePodName (found : Option Child) : Reconciling StrMap :=
  if found.isNone && sandbox.annotations.contains SandboxPodNameAnnotation then
    clearPodNameAnnotation env sandbox.annotations
  else pure sandbox.annotations

def reconcilePod : Reconciling (Option Child × StrMap) :=
  match env.listPods with
  | some err => throw (.api err)
  | none => do
      let found ← getChild env .pod (resolvePodName sandbox)
      let annotations ← clearStalePodName env sandbox found
      if sandbox.suspended then suspendPod env sandbox found annotations
      else
        match found with
        | some pod => reconcileExistingPod env sandbox nameHash annotations pod
        | none => createPod env sandbox nameHash annotations

def reconcileChildResources : Reconciling Unit := do
  let pvcs ← attempt (reconcilePVCs env sandbox nameHash)
  let pod ← attempt (reconcilePod env sandbox nameHash)
  let service ← attempt (reconcileService env sandbox nameHash)
  joined [errorOf pvcs, errorOf pod, errorOf service] ()

/-- One block of `handleSandboxExpiry`: delete the child of a kind and name if
the Sandbox owns it. -/
def deleteOwned (kind : ChildKind) (name : String) : Reconciling Unit := do
  match ← getChild env kind name with
  | some obj =>
      if checkOwnership obj sandbox.uid == .resourceOwnedBySandbox then
        sendIgnoringNotFound env (.write .delete kind obj)
  | none => pure ()

/-- `handleSandboxExpiry`: whether the Sandbox was deleted. -/
def handleSandboxExpiry : Reconciling Bool := do
  let pod ← attempt (deleteOwned env sandbox .pod (resolvePodName sandbox))
  let service ← attempt (deleteOwned env sandbox .service sandbox.name)
  let errors := [errorOf pod, errorOf service]
  if sandbox.shutdownPolicyDelete then
    match ← attempt (sendIgnoringNotFound env .deleteSandbox) with
    | .ok () => pure true
    | .error err => joined (errors ++ [some err]) false
  else joined errors false

end Children

def checkSandboxExpiry (sandbox : CoreSandbox) (now : Int) : Bool :=
  match sandbox.shutdownTime with
  | none => false
  | some shutdownTime => !(now < shutdownTime)

def sandboxMarkedExpired (conditions : List Condition) : Bool :=
  match findStatusCondition conditions SandboxConditionReady with
  | some condition => condition.reason == SandboxReasonExpired
  | none => false

/-- `updateStatus`: a status write when the status changed. -/
def updateStatus (env : CoreEnv) : Reconciling Unit :=
  if env.statusChanged then send env .updateSandboxStatus else pure ()

/-- Record the trace context on a Sandbox that has none. -/
def initTraceContext (env : CoreEnv) (sandbox : CoreSandbox) : Reconciling Unit :=
  if env.traceContext != "" && sandbox.annotations.get TraceContextAnnotation == "" then
    send env .patchSandbox
  else pure ()

/-- `SandboxReconciler.Reconcile` of the Sandbox as read, at time `now`. -/
def reconcile (env : CoreEnv) (now : Int) (sandbox : CoreSandbox) : Reconciling Unit :=
  if sandbox.deleting then pure ()
  else do
    initTraceContext env sandbox
    if checkSandboxExpiry sandbox now then
      if !sandboxMarkedExpired sandbox.conditions then updateStatus env
      else
        match ← attempt (handleSandboxExpiry env sandbox) with
        | .ok true => pure ()
        | expiry => do
            let status ← attempt (updateStatus env)
            joined [errorOf expiry, errorOf status] ()
    else do
      let children ← attempt (reconcileChildResources env sandbox (NameHash sandbox.name))
      let status ← attempt (updateStatus env)
      joined [errorOf children, errorOf status] ()

/-! ## Every write is to an owned or adoptable child -/

/-- The Sandbox controls the child, as read, or the child is unowned and
labelled for adoption by it. -/
def MayWrite (sandbox : CoreSandbox) (nameHash : String) (obj : Child) : Prop :=
  obj.controllerUID = some sandbox.uid ∨
    obj.controllerUID = none ∧
      (obj.labels.get SandboxAdoptableLabel = "true" ∨ obj.labels.get sandboxLabel = nameHash)

instance (sandbox : CoreSandbox) (nameHash : String) (obj : Child) : Decidable (MayWrite sandbox nameHash obj) :=
  inferInstanceAs (Decidable (_ ∨ _ ∧ (_ ∨ _)))

/-- Writes to a child need `MayWrite`; creates and requests on the Sandbox itself need nothing. -/
def Request.Allowed (sandbox : CoreSandbox) (nameHash : String) : Request → Prop
  | .write _ _ target => MayWrite sandbox nameHash target
  | _ => True

section Ownership

variable {sandbox : CoreSandbox} {nameHash : String} {obj : Child}

/-- The two checks every write path makes: the child is not controlled by
another owner, and an unowned child is authorised for adoption. -/
theorem mayWrite_of_checked (notOther : checkOwnership obj sandbox.uid ≠ .resourceOwnedByOther)
    (authorized : checkOwnership obj sandbox.uid = .resourceUnowned → adoptionAuthorized obj nameHash = true) :
    MayWrite sandbox nameHash obj := by
  unfold checkOwnership at notOther authorized
  rcases controller : obj.controllerUID with _ | owner
  · rw [controller] at authorized
    have labelled := authorized rfl
    simp only [adoptionAuthorized, Bool.or_eq_true, beq_iff_eq] at labelled
    exact Or.inr ⟨controller, labelled⟩
  · rw [controller] at notOther
    by_cases same : owner = sandbox.uid
    · exact Or.inl (controller.trans (congrArg some same))
    · simp [same] at notOther

theorem mayWrite_of_owned (owned : checkOwnership obj sandbox.uid = .resourceOwnedBySandbox) :
    MayWrite sandbox nameHash obj :=
  mayWrite_of_checked (by simp [owned]) (by simp [owned])

theorem MayWrite.not_ownedByOther (may : MayWrite sandbox nameHash obj) :
    checkOwnership obj sandbox.uid ≠ .resourceOwnedByOther := by
  rcases may with owned | ⟨unowned, _⟩ <;> simp [checkOwnership, *]

end Ownership

section Requests

variable (env : CoreEnv) {P : Request → Prop}

theorem send_emitsOnly {r : Request} (allowed : P r) : EmitsOnly P (send env r) := by
  unfold send
  refine bind_emitsOnly (emit_emitsOnly allowed) fun _ => ?_
  split
  · exact throw_emitsOnly _
  · exact pure_emitsOnly _

theorem send_pure_emitsOnly {α : Type} {r : Request} (allowed : P r) (a : α) :
    EmitsOnly P (do send env r; pure a) :=
  bind_emitsOnly (send_emitsOnly env allowed) fun _ => pure_emitsOnly a

theorem sendIgnoringNotFound_emitsOnly {r : Request} (allowed : P r) :
    EmitsOnly P (sendIgnoringNotFound env r) := by
  unfold sendIgnoringNotFound
  refine bind_emitsOnly (emit_emitsOnly allowed) fun _ => ?_
  split
  · exact pure_emitsOnly _
  · exact pure_emitsOnly _
  · exact throw_emitsOnly _

theorem getChild_emitsOnly (kind : ChildKind) (name : String) : EmitsOnly P (getChild env kind name) := by
  unfold getChild
  split
  · exact pure_emitsOnly _
  · exact pure_emitsOnly _
  · exact throw_emitsOnly _

theorem joined_emitsOnly {α : Type} (errors : List (Option CoreError)) (value : α) :
    EmitsOnly P (joined errors value) := by
  unfold joined
  split
  · exact throw_emitsOnly _
  · exact pure_emitsOnly _

end Requests

section Children

variable (env : CoreEnv) (sandbox : CoreSandbox) (nameHash : String)

theorem clearPodNameAnnotation_emitsOnly (annotations : StrMap) :
    EmitsOnly (Request.Allowed sandbox nameHash) ( clearPodNameAnnotation env annotations) := by
  unfold clearPodNameAnnotation
  split
  · exact send_pure_emitsOnly env trivial _
  · exact pure_emitsOnly _

theorem ensurePodNameAnnotation_emitsOnly (annotations : StrMap) (podName : String) :
    EmitsOnly (Request.Allowed sandbox nameHash) ( ensurePodNameAnnotation env annotations podName) := by
  unfold ensurePodNameAnnotation
  dsimp only
  split
  · exact pure_emitsOnly _
  split
  · exact pure_emitsOnly _
  · exact send_pure_emitsOnly env trivial _

theorem reconcileService_emitsOnly :
    EmitsOnly (Request.Allowed sandbox nameHash) (reconcileService env sandbox nameHash) := by
  unfold reconcileService
  refine bind_emitsOnly (getChild_emitsOnly env _ _) fun found => ?_
  rcases found with _ | service
  · dsimp only
    split
    · exact send_pure_emitsOnly env trivial _
    · exact pure_emitsOnly _
  dsimp only
  split
  · -- a disabled Service is deleted only when owned
    split
    · rename_i owned
      exact bind_emitsOnly (sendIgnoringNotFound_emitsOnly env (mayWrite_of_owned (by simpa using owned)))
        fun _ => pure_emitsOnly _
    · exact pure_emitsOnly _
  split
  · exact throw_emitsOnly _
  · -- an unowned Service is adopted only with its pool's or this Sandbox's label
    rename_i unowned
    split
    · exact pure_emitsOnly _
    split
    · exact throw_emitsOnly _
    rename_i authorized
    split
    · exact throw_emitsOnly _
    have may : MayWrite sandbox nameHash service :=
      mayWrite_of_checked (by simp [unowned]) fun _ => by simpa using authorized
    exact send_pure_emitsOnly env may _
  · rename_i owned
    split
    · exact send_pure_emitsOnly env (mayWrite_of_owned owned) _
    · exact pure_emitsOnly _

theorem reconcilePVC_emitsOnly (template : String) :
    EmitsOnly (Request.Allowed sandbox nameHash) (reconcilePVC env sandbox nameHash template) := by
  unfold reconcilePVC
  refine bind_emitsOnly (getChild_emitsOnly env _ _) fun found => ?_
  rcases found with _ | pvc
  · exact send_emitsOnly env trivial
  dsimp only
  split
  · exact throw_emitsOnly _
  · rename_i unowned
    split
    · exact throw_emitsOnly _
    rename_i authorized
    exact send_emitsOnly env (mayWrite_of_checked (by simp [unowned]) fun _ => by simpa using authorized)
  · exact pure_emitsOnly _

theorem reconcilePVCs_emitsOnly :
    EmitsOnly (Request.Allowed sandbox nameHash) (reconcilePVCs env sandbox nameHash) :=
  forM_emitsOnly _ (reconcilePVC_emitsOnly env sandbox nameHash) _

theorem reconcileExistingPod_emitsOnly (annotations : StrMap) (pod : Child) :
    EmitsOnly (Request.Allowed sandbox nameHash) (reconcileExistingPod env sandbox nameHash annotations pod) := by
  unfold reconcileExistingPod
  dsimp only
  split
  · exact bind_emitsOnly (clearPodNameAnnotation_emitsOnly env sandbox nameHash _) fun _ => throw_emitsOnly _
  rename_i notOther
  split
  · exact throw_emitsOnly _
  rename_i authorized
  -- the patch is sent to a Pod that passed both checks
  have may : MayWrite sandbox nameHash pod :=
    mayWrite_of_checked (by simpa using notOther) fun unowned => by simpa [unowned] using authorized
  have annotated := ensurePodNameAnnotation_emitsOnly env sandbox nameHash annotations pod.name
  split
  · exact bind_emitsOnly (send_emitsOnly env may) fun _ => bind_emitsOnly annotated fun _ => pure_emitsOnly _
  · exact bind_emitsOnly annotated fun _ => pure_emitsOnly _

theorem createPod_emitsOnly (annotations : StrMap) :
    EmitsOnly (Request.Allowed sandbox nameHash) (createPod env sandbox nameHash annotations) := by
  unfold createPod
  refine bind_emitsOnly (emit_emitsOnly trivial) fun _ => ?_
  split
  · split
    · exact reconcileExistingPod_emitsOnly env sandbox nameHash _ _
    · exact throw_emitsOnly _
  · exact throw_emitsOnly _
  · exact bind_emitsOnly (ensurePodNameAnnotation_emitsOnly env sandbox nameHash _ _) fun _ => pure_emitsOnly _

theorem suspendPod_emitsOnly (found : Option Child) (annotations : StrMap) :
    EmitsOnly (Request.Allowed sandbox nameHash) (suspendPod env sandbox found annotations) := by
  unfold suspendPod
  have cleared := bind_emitsOnly (clearPodNameAnnotation_emitsOnly env sandbox nameHash annotations)
    fun cleared => pure_emitsOnly (ε := CoreError) ((none : Option Child), cleared)
  dsimp only
  split
  · rename_i pod
    split
    · rename_i deletable
      have owned : checkOwnership pod sandbox.uid = .resourceOwnedBySandbox := by
        simp only [Bool.and_eq_true, beq_iff_eq] at deletable
        exact deletable.1
      exact bind_emitsOnly (send_emitsOnly env (mayWrite_of_owned owned)) fun _ => cleared
    · exact cleared
  · exact cleared

theorem reconcilePod_emitsOnly :
    EmitsOnly (Request.Allowed sandbox nameHash) (reconcilePod env sandbox nameHash) := by
  unfold reconcilePod
  split
  · exact throw_emitsOnly _
  refine bind_emitsOnly (getChild_emitsOnly env _ _) fun found => ?_
  refine bind_emitsOnly ?_ fun annotations => ?_
  · unfold clearStalePodName
    split
    · exact clearPodNameAnnotation_emitsOnly env sandbox nameHash _
    · exact pure_emitsOnly _
  split
  · exact suspendPod_emitsOnly env sandbox nameHash _ _
  split
  · exact reconcileExistingPod_emitsOnly env sandbox nameHash _ _
  · exact createPod_emitsOnly env sandbox nameHash _

theorem reconcileChildResources_emitsOnly :
    EmitsOnly (Request.Allowed sandbox nameHash) (reconcileChildResources env sandbox nameHash) := by
  unfold reconcileChildResources
  refine bind_emitsOnly (attempt_emitsOnly (reconcilePVCs_emitsOnly env sandbox nameHash)) fun _ => ?_
  refine bind_emitsOnly (attempt_emitsOnly (reconcilePod_emitsOnly env sandbox nameHash)) fun _ => ?_
  refine bind_emitsOnly (attempt_emitsOnly (reconcileService_emitsOnly env sandbox nameHash)) fun _ => ?_
  exact joined_emitsOnly _ _

theorem deleteOwned_emitsOnly (kind : ChildKind) (name : String) :
    EmitsOnly (Request.Allowed sandbox nameHash) (deleteOwned env sandbox kind name) := by
  unfold deleteOwned
  refine bind_emitsOnly (getChild_emitsOnly env _ _) fun found => ?_
  split
  · split
    · rename_i owned
      exact sendIgnoringNotFound_emitsOnly env (mayWrite_of_owned (by simpa using owned))
    · exact pure_emitsOnly _
  · exact pure_emitsOnly _

theorem handleSandboxExpiry_emitsOnly :
    EmitsOnly (Request.Allowed sandbox nameHash) (handleSandboxExpiry env sandbox) := by
  unfold handleSandboxExpiry
  refine bind_emitsOnly (attempt_emitsOnly (deleteOwned_emitsOnly env sandbox nameHash _ _)) fun _ => ?_
  refine bind_emitsOnly (attempt_emitsOnly (deleteOwned_emitsOnly env sandbox nameHash _ _)) fun _ => ?_
  dsimp only
  split
  · refine bind_emitsOnly (attempt_emitsOnly (sendIgnoringNotFound_emitsOnly env trivial)) fun deleted => ?_
    split
    · exact pure_emitsOnly _
    · exact joined_emitsOnly _ _
  · exact joined_emitsOnly _ _

end Children

theorem updateStatus_emitsOnly (env : CoreEnv) {P : Request → Prop} (allowed : P .updateSandboxStatus) :
    EmitsOnly P (updateStatus env) := by
  unfold updateStatus
  split
  · exact send_emitsOnly env allowed
  · exact pure_emitsOnly _

/-- Every Delete, Patch or Update that `Reconcile` sends to a Pod, Service or
PersistentVolumeClaim is to one the Sandbox controls, as read, or to an unowned
one labelled for adoption, whatever the store holds and the API server answers. -/
theorem reconcile_writes_only_owned (env : CoreEnv) (now : Int) (sandbox : CoreSandbox) :
    ∀ r ∈ requests (reconcile env now sandbox), r.Allowed sandbox (NameHash sandbox.name) := by
  apply EmitsOnly.requests_allowed
  unfold reconcile
  split
  · exact pure_emitsOnly _
  refine bind_emitsOnly ?_ fun _ => ?_
  · unfold initTraceContext
    split
    · exact send_emitsOnly env trivial
    · exact pure_emitsOnly _
  have status := attempt_emitsOnly (updateStatus_emitsOnly env (P := Request.Allowed sandbox (NameHash sandbox.name)) trivial)
  split
  · split
    · exact updateStatus_emitsOnly env trivial
    refine bind_emitsOnly (attempt_emitsOnly (handleSandboxExpiry_emitsOnly env sandbox _)) fun expiry => ?_
    split
    · exact pure_emitsOnly _
    · exact bind_emitsOnly status fun _ => joined_emitsOnly _ _
  · refine bind_emitsOnly (attempt_emitsOnly (reconcileChildResources_emitsOnly env sandbox _)) fun _ => ?_
    exact bind_emitsOnly status fun _ => joined_emitsOnly _ _

/-- An unowned headless Service of the Sandbox's name, labelled adoptable. -/
def adoptableService : Child :=
  ⟨"sandbox-1", none, (∅ : StrMap).set SandboxAdoptableLabel "true", ∅, false, ClusterIPNone, ∅, []⟩

/-- A suspended Sandbox that asks for a Service. -/
def adoptingSandbox : CoreSandbox :=
  ⟨"sandbox-1", "uid-1", false, ∅, ⟨∅, [], ∅, ∅⟩, some true, [], true, [], none, false, []⟩

/-- Only the Service exists, and every request succeeds. -/
def adoptingEnv : CoreEnv :=
  ⟨fun kind name => if kind = .service ∧ name = "sandbox-1" then .ok adoptableService else .error .notFound,
    none, fun _ => none, "", false, id⟩

theorem reconcile_writes_only_owned_adopting :
    Request.write .update .service adoptableService ∈ requests (reconcile adoptingEnv 0 adoptingSandbox) ∧
      (Request.write .update .service adoptableService).Allowed adoptingSandbox (NameHash adoptingSandbox.name) :=
  have sent : requests (reconcile adoptingEnv 0 adoptingSandbox) = [.write .update .service adoptableService] := rfl
  have adopted : Request.write .update .service adoptableService ∈ requests (reconcile adoptingEnv 0 adoptingSandbox) := by
    rw [sent]
    exact List.mem_singleton_self _
  ⟨adopted, reconcile_writes_only_owned adoptingEnv 0 adoptingSandbox _ adopted⟩

end AgentSandbox.Controller
