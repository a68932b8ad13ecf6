import AgentSandbox.Kube.Conditions

/-!
# Claim expiry in `SandboxClaimReconciler.Reconcile`

The expiry flow of `Reconcile` (`extensions/controllers/sandboxclaim_controller.go`)
with `checkExpiration` and the `lifecycle` helpers it calls
(`internal/lifecycle/expiry.go`), `reconcileExpired`, `computeAndSetStatus`,
`syncFinishedCondition` and `updateStatus`.  `reconcileActive` is modelled down
to the calls that matter for expiry: whether it adopts a warm-pool Sandbox or
creates one; what `getOrCreateSandbox` finds is an answer of the environment.

A claim's stored state and the stored Sandboxes form a `ClaimWorld`.  One
`reconcile` reads the claim, asks the API server (`ReconcileEnv` says which
requests fail), and writes back the status if its patch succeeds.  Between two
calls the core controller may rewrite a Sandbox's conditions, and a deleted
Sandbox may go away.

`claimExpiry_resurrected`: a claim whose expiry comes from
`TTLSecondsAfterFinished` stops being expired once its Sandbox loses the
`Finished` condition while being deleted.
-/

set_option autoImplicit false

namespace AgentSandbox.Claim

open Meta

/-! ## Constants -/

def SandboxConditionReady : String := "Ready"

def SandboxConditionFinished : String := "Finished"

def ClaimExpiredReason : String := "ClaimExpired"

def SandboxReasonExpired : String := "SandboxExpired"

/-! ## Objects -/

inductive ShutdownPolicy
  | delete
  | deleteForeground
  | retain
deriving DecidableEq, Repr

structure Lifecycle where
  shutdownTime : Option Int
  ttlSecondsAfterFinished : Option Int
  shutdownPolicy : ShutdownPolicy
deriving DecidableEq, Repr

structure SandboxClaim where
  name : String
  uid : String
  /-- `DeletionTimestamp` is set. -/
  deleting : Bool
  lifecycle : Option Lifecycle
  /-- `Spec.WarmPoolRef.Name`. -/
  warmPoolName : String
  conditions : List Condition
  /-- `Status.SandboxStatus.Name` and `.PodIPs`. -/
  sandboxName : String
  podIPs : List String
deriving DecidableEq, Repr

/-- A Sandbox as the claim controller reads it. -/
structure Sandbox where
  name : String
  /-- The UID of the controller reference, if any. -/
  controllerUID : Option String
  deleting : Bool
  conditions : List Condition
  podIPs : List String
deriving DecidableEq, Repr

/-- The errors `computeReadyCondition` tells apart with `errors.Is`, each with
its text. -/
inductive ClaimError
  /-- `ErrTemplateNotFound`; the text has its suffix trimmed. -/
  | templateNotFound (text : String)
  | warmPoolNotFound
  | invalidMetadata (text : String)
  | envVarsInjectionRejected (text : String)
  | sandboxNotOwned (text : String)
  | volumeClaimTemplates (text : String)
  | other (text : String)
deriving DecidableEq, Repr

def ClaimError.text : ClaimError → String
  | .templateNotFound text => text
  | .warmPoolNotFound => "SandboxWarmPool not found"
  | .invalidMetadata text | .envVarsInjectionRejected text | .sandboxNotOwned text
  | .volumeClaimTemplates text | .other text => text

/-! ## `internal/lifecycle` -/

def finishedCondition (conditions : List Condition) (conditionType : String) : Option Condition :=
  match findStatusCondition conditions conditionType with
  | some condition => if condition.status = .conditionTrue then some condition else none
  | none => none

def needsCleanup (ttlSecondsAfterFinished : Option Int) (finished : Option Condition) : Bool :=
  ttlSecondsAfterFinished.isSome && finished.isSome

def finishedTime (finished : Option Condition) : Option Int :=
  finished.bind Condition.lastTransitionTime

def expireAt (shutdownTime ttlSecondsAfterFinished : Option Int) (finished : Option Condition) :
    Option Int :=
  if !needsCleanup ttlSecondsAfterFinished finished then shutdownTime
  else
    match finishedTime finished, ttlSecondsAfterFinished with
    | some finishedAt, some ttl =>
        let ttlExpireAt := finishedAt + ttl
        match shutdownTime with
        | some shutdownAt => if ttlExpireAt < shutdownAt then some ttlExpireAt else some shutdownAt
        | none => some ttlExpireAt
    | _, _ => shutdownTime

def timeLeft (now : Int) (shutdownTime ttlSecondsAfterFinished : Option Int)
    (finished : Option Condition) : Bool × Int :=
  match expireAt shutdownTime ttlSecondsAfterFinished finished with
  | none => (false, 0)
  | some expiry => if ¬ now < expiry then (true, 0) else (false, expiry - now)

/-! ## The claim controller -/

def checkExpiration (now : Int) (claim : SandboxClaim) : Bool × Int :=
  match claim.lifecycle with
  | none => (false, 0)
  | some lifecycle =>
      timeLeft now lifecycle.shutdownTime lifecycle.ttlSecondsAfterFinished
        (finishedCondition claim.conditions SandboxConditionFinished)

def hasReadyReason (conditions : List Condition) (reason : String) : Bool :=
  match findStatusCondition conditions SandboxConditionReady with
  | some ready => ready.reason == reason
  | none => false

def hasSandboxExpiredCondition (conditions : List Condition) : Bool :=
  hasReadyReason conditions SandboxReasonExpired

def hasClaimExpiredCondition (conditions : List Condition) : Bool :=
  hasReadyReason conditions ClaimExpiredReason

def readyCondition (status : ConditionStatus) (reason message : String) : Condition :=
  ⟨SandboxConditionReady, status, reason, message, none⟩

def computeReadyCondition (claim : SandboxClaim) (sandbox : Option Sandbox) (err : Option ClaimError)
    (isClaimExpired : Bool) : Condition :=
  match err with
  | some (.templateNotFound text) => readyCondition .conditionFalse "TemplateNotFound" text
  | some .warmPoolNotFound =>
      readyCondition .conditionFalse "WarmPoolNotFound"
        ("SandboxWarmPool \"" ++ claim.warmPoolName ++ "\" not found")
  | some (.invalidMetadata text) => readyCondition .conditionFalse "InvalidMetadata" text
  | some (.envVarsInjectionRejected text) => readyCondition .conditionFalse "EnvVarsInjectionRejected" text
  | some (.sandboxNotOwned text) =>
      readyCondition .conditionFalse ClaimExpiredReason ("Claim expired. " ++ text ++ "; deletion skipped.")
  | some (.volumeClaimTemplates text) => readyCondition .conditionFalse "VolumeClaimTemplatesError" text
  | some (.other text) => readyCondition .conditionFalse "ReconcilerError" ("Error seen: " ++ text)
  | none =>
      if isClaimExpired then
        readyCondition .conditionFalse ClaimExpiredReason "Claim expired. Sandbox cleanup initiated."
      else
        match sandbox with
        | none => readyCondition .conditionFalse "SandboxMissing" "Sandbox does not exist"
        | some sandbox =>
            if hasSandboxExpiredCondition sandbox.conditions then
              readyCondition .conditionFalse SandboxReasonExpired
                "Underlying Sandbox resource has expired independently of the Claim."
            else
              match sandbox.conditions.find? fun c => c.type == SandboxConditionReady with
              | some condition => condition
              | none => readyCondition .conditionFalse "SandboxNotReady" "Sandbox is not ready"

def syncFinishedCondition (now : Int) (conditions : List Condition) (sandbox : Option Sandbox)
    (isClaimExpired : Bool) : List Condition :=
  match sandbox with
  | some sandbox =>
      match findStatusCondition sandbox.conditions SandboxConditionFinished with
      | some finished => setStatusCondition now conditions finished
      | none => removeStatusCondition conditions SandboxConditionFinished
  | none => if !isClaimExpired then removeStatusCondition conditions SandboxConditionFinished else conditions

def computeAndSetStatus (now : Int) (claim : SandboxClaim) (sandbox : Option Sandbox)
    (err : Option ClaimError) (isClaimExpired : Bool) : SandboxClaim :=
  let conditions := setStatusCondition now claim.conditions
    (computeReadyCondition claim sandbox err isClaimExpired)
  let claim := { claim with conditions := syncFinishedCondition now conditions sandbox isClaimExpired }
  match sandbox, err with
  | some sandbox, _ => { claim with sandboxName := sandbox.name, podIPs := sandbox.podIPs }
  -- the bound identity is cleared only when nothing failed or ownership failed
  | none, none | none, some (.sandboxNotOwned _) => { claim with sandboxName := "", podIPs := [] }
  | none, some _ => claim

/-! ## The API server and one `Reconcile` -/

/-- What the API server answers besides the stored objects: which requests
fail, and what `reconcileActive` meets. -/
structure ActiveEnv where
  validation : Option ClaimError
  /-- What `getOrCreateSandbox` returns: `some (sandbox, adopted)` or nothing. -/
  getOrCreateSandbox : Except ClaimError (Option (Sandbox × Bool))
  /-- The error of the fast path's template fetch or metadata patch, and
  whether the Sandbox is returned with it (a failed patch). -/
  fastPath : Option (ClaimError × Bool)
  getTemplate : Option ClaimError
  createSandbox : Except ClaimError Sandbox

structure ReconcileEnv where
  initializeAnnotations : Option ClaimError
  /-- A Get of the Sandbox that fails other than with NotFound. -/
  getSandbox : Option ClaimError
  deleteSandbox : Option ClaimError
  deleteClaim : Option ClaimError
  patchStatus : Option ClaimError
  active : ActiveEnv

inductive Action
  | patchStatus
  | deleteClaim
  | deleteSandbox (name : String)
  | adoptSandbox (name : String)
  | createSandbox
deriving DecidableEq, Repr

structure ClaimWorld where
  claim : SandboxClaim
  sandboxes : List Sandbox
deriving DecidableEq, Repr

def findSandbox (sandboxes : List Sandbox) (name : String) : Option Sandbox :=
  sandboxes.find? fun sandbox => sandbox.name == name

/-- Write a Sandbox in place of the one of its name, or add it. -/
def putSandbox (sandboxes : List Sandbox) (sandbox : Sandbox) : List Sandbox :=
  if (findSandbox sandboxes sandbox.name).isSome then
    sandboxes.map fun old => if old.name == sandbox.name then sandbox else old
  else sandboxes ++ [sandbox]

/-- What a branch of `Reconcile` returns to it: the Sandbox, the error, the
Sandboxes after its requests, and the requests that changed something. -/
structure BranchResult where
  sandbox : Option Sandbox
  err : Option ClaimError
  sandboxes : List Sandbox
  actions : List Action

def reconcileExpired (env : ReconcileEnv) (sandboxes : List Sandbox) (claim : SandboxClaim) :
    BranchResult :=
  let statusName := if claim.sandboxName != "" then claim.sandboxName else claim.name
  match env.getSandbox with
  | some err => ⟨none, some err, sandboxes, []⟩
  | none =>
      match findSandbox sandboxes statusName with
      | none => ⟨none, none, sandboxes, []⟩
      | some sandbox =>
          if sandbox.controllerUID != some claim.uid then
            ⟨none, some (.sandboxNotOwned ("sandbox not owned by this claim: sandbox \"" ++ sandbox.name ++
              "\" is not owned by claim \"" ++ claim.name ++ "\"")), sandboxes, []⟩
          else if !sandbox.deleting then
            match env.deleteSandbox with
            | some err =>
                ⟨some sandbox, some (.other ("failed to delete expired sandbox: " ++ err.text)), sandboxes, []⟩
            | none =>
                ⟨some sandbox, none, putSandbox sandboxes { sandbox with deleting := true },
                  [.deleteSandbox sandbox.name]⟩
          else ⟨some sandbox, none, sandboxes, []⟩

def reconcileActive (env : ActiveEnv) (sandboxes : List Sandbox) : BranchResult :=
  match env.validation with
  | some err => ⟨none, some (.invalidMetadata err.text), sandboxes, []⟩
  | none =>
      match env.getOrCreateSandbox with
      | .error err => ⟨none, some err, sandboxes, []⟩
      | .ok (some (sandbox, adopted)) =>
          let sandboxes := if adopted then putSandbox sandboxes sandbox else sandboxes
          let actions := if adopted then [Action.adoptSandbox sandbox.name] else []
          match env.fastPath with
          | some (err, kept) => ⟨if kept then some sandbox else none, some err, sandboxes, actions⟩
          | none => ⟨some sandbox, none, sandboxes, actions⟩
      | .ok none =>
          match env.getTemplate with
          | some err => ⟨none, some err, sandboxes, []⟩
          | none =>
              match env.createSandbox with
              | .ok sandbox => ⟨some sandbox, none, putSandbox sandboxes sandbox, [.createSandbox]⟩
              | .error err => ⟨none, some err, sandboxes, []⟩

/-- The status `updateStatus` compares: the conditions as sorted by type, so in
any order, and the bound Sandbox. -/
def sameStatus (old new : SandboxClaim) : Bool :=
  decide (old.conditions.Perm new.conditions) && old.sandboxName == new.sandboxName &&
    old.podIPs == new.podIPs

/-- `updateStatus`: patch the status when it changed. -/
def updateStatus (env : ReconcileEnv) (original claim : SandboxClaim) (w : ClaimWorld) :
    ClaimWorld × List Action :=
  if sameStatus original claim then (w, [])
  else
    match env.patchStatus with
    | some _ => (w, [])
    | none =>
        let stored := { w.claim with
          conditions := claim.conditions
          sandboxName := claim.sandboxName
          podIPs := claim.podIPs }
        ({ w with claim := stored }, [.patchStatus])

/-- What one `Reconcile` leaves: the stored objects, what its first
`checkExpiration` computed (if it got that far), and its requests. -/
structure Outcome where
  world : ClaimWorld
  claimExpired : Option Bool
  actions : List Action

def isDeletePolicy (claim : SandboxClaim) : Bool :=
  match claim.lifecycle with
  | some lifecycle => lifecycle.shutdownPolicy == .delete || lifecycle.shutdownPolicy == .deleteForeground
  | none => false

/-- `Reconcile` at time `now`, from the claim as stored. -/
def reconcile (now : Int) (env : ReconcileEnv) (w : ClaimWorld) : Outcome :=
  let claim := w.claim
  if claim.deleting then ⟨w, none, []⟩
  else if env.initializeAnnotations.isSome then ⟨w, none, []⟩
  else
    let claimExpired := (checkExpiration now claim).1
    if claimExpired && !hasClaimExpiredCondition claim.conditions then
      -- mark the claim expired and requeue
      let marked :=
        { claim with conditions := setStatusCondition now claim.conditions (computeReadyCondition claim none none true) }
      let patched := updateStatus env claim marked w
      ⟨patched.1, some true, patched.2⟩
    else if claimExpired && isDeletePolicy claim then
      match env.deleteClaim with
      | some _ => ⟨w, some true, []⟩
      | none => ⟨{ w with claim := { claim with deleting := true } }, some true, [.deleteClaim]⟩
    else
      let branch :=
        if claimExpired then reconcileExpired env w.sandboxes claim else reconcileActive env.active w.sandboxes
      let w := { w with sandboxes := branch.sandboxes }
      let updated := computeAndSetStatus now claim branch.sandbox branch.err claimExpired
      let postExpiration := (checkExpiration now updated).1
      let updated :=
        if postExpiration && !hasClaimExpiredCondition updated.conditions then
          let expired := computeReadyCondition updated branch.sandbox branch.err true
          { updated with conditions := setStatusCondition now updated.conditions expired }
        else updated
      let patched := updateStatus env claim updated w
      ⟨patched.1, some claimExpired, branch.actions ++ patched.2⟩

/-! ## Runs -/

/-- What happens to a claim's world: a `Reconcile` call, or the core controller
rewriting a Sandbox's conditions, or a deleted Sandbox going away. -/
inductive ClaimEvent
  | reconcile (now : Int) (env : ReconcileEnv)
  | sandboxConditions (name : String) (conditions : List Condition)
  | sandboxGone (name : String)

def ClaimWorld.apply (w : ClaimWorld) : ClaimEvent → ClaimWorld
  | .reconcile now env => (reconcile now env w).world
  | .sandboxConditions name conditions =>
      { w with sandboxes := w.sandboxes.map fun sandbox =>
          if sandbox.name == name then { sandbox with conditions := conditions } else sandbox }
  | .sandboxGone name => { w with sandboxes := w.sandboxes.filter fun sandbox => sandbox.name != name }

def ClaimWorld.run (w : ClaimWorld) : List ClaimEvent → ClaimWorld
  | [] => w
  | event :: rest => (w.apply event).run rest

/-! ## A TTL expiry that does not stick -/

def finishedAt100 : Condition := ⟨SandboxConditionFinished, .conditionTrue, "Succeeded", "", some 100⟩

def sandboxReady : Condition := ⟨SandboxConditionReady, .conditionTrue, "DependenciesReady", "", some 50⟩

/-- A Retain claim that expires 60 s after its Sandbox finished, bound to the
Sandbox `c` whose `Finished` condition it has copied. -/
def ttlClaimWorld : ClaimWorld where
  claim :=
    { name := "c", uid := "uid-c", deleting := false
      lifecycle := some ⟨none, some 60, .retain⟩
      warmPoolName := "pool"
      conditions := [sandboxReady, finishedAt100]
      sandboxName := "c", podIPs := [] }
  sandboxes := [⟨"c", some "uid-c", false, [sandboxReady, finishedAt100], []⟩]

/-- No request fails; `getOrCreateSandbox` finds nothing and the claim's
template is there. -/
def quietEnv : ReconcileEnv where
  initializeAnnotations := none
  getSandbox := none
  deleteSandbox := none
  deleteClaim := none
  patchStatus := none
  active :=
    { validation := none
      getOrCreateSandbox := .ok none
      fastPath := none
      getTemplate := none
      createSandbox := .ok ⟨"c", some "uid-c", false, [], []⟩ }

/-- At 200 `Reconcile` marks the claim expired.  The core controller then
drops the Sandbox's `Finished` condition; at 201 `Reconcile` still finds the
claim expired, deletes the Sandbox and, copying its conditions, removes the
claim's `Finished` condition.  Then the Sandbox goes away. -/
def finishedDropped : List ClaimEvent :=
  [.reconcile 200 quietEnv, .sandboxConditions "c" [sandboxReady], .reconcile 201 quietEnv, .sandboxGone "c"]

/-- After `finishedDropped`, `Reconcile` at 202 computes that the claim is not
expired, creates a new Sandbox, and replaces the `ClaimExpired` reason. -/
theorem claimExpiry_resurrected :
    hasClaimExpiredCondition (ttlClaimWorld.run (finishedDropped.take 1)).claim.conditions = true ∧
      (reconcile 201 quietEnv (ttlClaimWorld.run (finishedDropped.take 2))).claimExpired = some true ∧
      hasClaimExpiredCondition (ttlClaimWorld.run (finishedDropped.take 3)).claim.conditions = true ∧
      (reconcile 202 quietEnv (ttlClaimWorld.run finishedDropped)).claimExpired = some false ∧
      Action.createSandbox ∈ (reconcile 202 quietEnv (ttlClaimWorld.run finishedDropped)).actions ∧
      hasClaimExpiredCondition (reconcile 202 quietEnv (ttlClaimWorld.run finishedDropped)).world.claim.conditions =
        false := by
  decide

/-! ## Expiry by shutdown time sticks

When the expiry is the shutdown time alone, nothing the claim copies from its
Sandbox moves it: an expired Retain claim stays expired at every later call,
never gets a Sandbox again and keeps the `ClaimExpired` reason, as long as no
request fails (a failing request makes `computeReadyCondition` report the
error instead). -/

/-- The requests that give the claim a Sandbox. -/
def Action.bindsSandbox : Action → Bool
  | .createSandbox | .adoptSandbox _ => true
  | _ => false

/-- Every request of the call succeeds. -/
structure ReconcileEnv.Succeeds (env : ReconcileEnv) : Prop where
  initializeAnnotations : env.initializeAnnotations = none
  getSandbox : env.getSandbox = none
  deleteSandbox : env.deleteSandbox = none
  patchStatus : env.patchStatus = none

/-- A Retain claim that expired at its shutdown time, by `t`, and whose status
says so. -/
structure ExpiredAt (t : Int) (claim : SandboxClaim) : Prop where
  lifecycle : ∃ shutdownAt, shutdownAt ≤ t ∧ claim.lifecycle = some ⟨some shutdownAt, none, .retain⟩
  marked : hasClaimExpiredCondition claim.conditions = true
  alive : claim.deleting = false

theorem checkExpiration_of_shutdownTime {claim : SandboxClaim} {shutdownAt now : Int} {policy : ShutdownPolicy}
    (fixed : claim.lifecycle = some ⟨some shutdownAt, none, policy⟩) :
    (checkExpiration now claim).1 = decide (shutdownAt ≤ now) := by
  simp only [checkExpiration, fixed, timeLeft, expireAt, needsCleanup, Option.isSome_none,
    Bool.false_and, Bool.not_false, if_true]
  by_cases due : shutdownAt ≤ now
  · simp [due, show ¬ now < shutdownAt by omega]
  · simp [due, show now < shutdownAt by omega]

/-- `computeReadyCondition` always returns a `Ready` condition, also when it
forwards the Sandbox's own. -/
theorem computeReadyCondition_type (claim : SandboxClaim) (sandbox : Option Sandbox) (err : Option ClaimError)
    (isClaimExpired : Bool) : (computeReadyCondition claim sandbox err isClaimExpired).type = SandboxConditionReady := by
  unfold computeReadyCondition
  split
  all_goals try rfl
  split
  · rfl
  split
  · rfl
  split
  · rfl
  split
  · next condition found => simpa using List.find?_some found
  · rfl

theorem computeReadyCondition_expired (claim : SandboxClaim) (sandbox : Option Sandbox) {err : Option ClaimError}
    (expected : err = none ∨ ∃ text, err = some (.sandboxNotOwned text)) :
    (computeReadyCondition claim sandbox err true).reason = ClaimExpiredReason := by
  rcases expected with rfl | ⟨text, rfl⟩ <;> rfl

theorem hasReadyReason_set_ready {condition : Condition} (ready : condition.type = SandboxConditionReady)
    (now : Int) (conditions : List Condition) (reason : String) :
    hasReadyReason (setStatusCondition now conditions condition) reason = (condition.reason == reason) := by
  obtain ⟨found, search, -, sameReason, -⟩ := findStatusCondition_set_self now condition conditions
  rw [ready] at search
  simp only [hasReadyReason, search, sameReason]

theorem hasReadyReason_set_of_ne {condition : Condition} (other : condition.type ≠ SandboxConditionReady)
    (now : Int) (conditions : List Condition) (reason : String) :
    hasReadyReason (setStatusCondition now conditions condition) reason = hasReadyReason conditions reason := by
  rw [hasReadyReason, hasReadyReason, findStatusCondition_set_of_ne now condition (Ne.symm other)]

theorem hasReadyReason_syncFinishedCondition (now : Int) (conditions : List Condition) (sandbox : Option Sandbox)
    (isClaimExpired : Bool) (reason : String) :
    hasReadyReason (syncFinishedCondition now conditions sandbox isClaimExpired) reason =
      hasReadyReason conditions reason := by
  have finishedIsNotReady : SandboxConditionFinished ≠ SandboxConditionReady := by decide
  have removed : hasReadyReason (removeStatusCondition conditions SandboxConditionFinished) reason =
      hasReadyReason conditions reason := by
    rw [hasReadyReason, hasReadyReason, findStatusCondition_remove_of_ne (Ne.symm finishedIsNotReady)]
  unfold syncFinishedCondition
  split
  · split
    · next finished found =>
        exact hasReadyReason_set_of_ne ((findStatusCondition_type found).trans_ne finishedIsNotReady) _ _ _
    · exact removed
  · split
    · exact removed
    · rfl

/-- With no failing request, `reconcileExpired` fails at most because another
owner controls the Sandbox, and binds nothing. -/
theorem reconcileExpired_succeeds {env : ReconcileEnv} (ok : env.Succeeds) (sandboxes : List Sandbox)
    (claim : SandboxClaim) :
    ((reconcileExpired env sandboxes claim).err = none ∨
        ∃ text, (reconcileExpired env sandboxes claim).err = some (.sandboxNotOwned text)) ∧
      ∀ a ∈ (reconcileExpired env sandboxes claim).actions, a.bindsSandbox = false := by
  unfold reconcileExpired
  rw [ok.getSandbox]
  dsimp only
  split
  · exact ⟨.inl rfl, by simp⟩
  · split
    · exact ⟨.inr ⟨_, rfl⟩, by simp⟩
    · split
      · rw [ok.deleteSandbox]
        refine ⟨.inl rfl, ?_⟩
        simp [Action.bindsSandbox]
      · exact ⟨.inl rfl, by simp⟩

/-- `updateStatus` either leaves the stored claim alone or writes the new
status into it. -/
theorem updateStatus_claim (env : ReconcileEnv) (original claim : SandboxClaim) (w : ClaimWorld) :
    (updateStatus env original claim w).1.claim = w.claim ∨
      (updateStatus env original claim w).1.claim =
        { w.claim with conditions := claim.conditions, sandboxName := claim.sandboxName, podIPs := claim.podIPs } := by
  unfold updateStatus
  split
  · exact .inl rfl
  · split
    · exact .inl rfl
    · exact .inr rfl

theorem updateStatus_actions (env : ReconcileEnv) (original claim : SandboxClaim) (w : ClaimWorld) :
    ∀ a ∈ (updateStatus env original claim w).2, a.bindsSandbox = false := by
  unfold updateStatus
  split
  · simp
  · split <;> simp [Action.bindsSandbox]

/-- One call on an expired claim, at a later time and with no failing
request. -/
theorem reconcile_expiredAt {t now : Int} {env : ReconcileEnv} {w : ClaimWorld} (later : t ≤ now)
    (ok : env.Succeeds) (expired : ExpiredAt t w.claim) :
    (reconcile now env w).claimExpired = some true ∧
      (∀ a ∈ (reconcile now env w).actions, a.bindsSandbox = false) ∧
      ExpiredAt t (reconcile now env w).world.claim := by
  obtain ⟨shutdownAt, due, fixed⟩ := expired.lifecycle
  have isExpired : (checkExpiration now w.claim).1 = true := by
    rw [checkExpiration_of_shutdownTime fixed]
    exact decide_eq_true (by omega)
  have retained : isDeletePolicy w.claim = false := by
    rw [isDeletePolicy, fixed]
    rfl
  obtain ⟨expectedErr, branchActions⟩ := reconcileExpired_succeeds ok w.sandboxes w.claim
  -- the status this call computes reports the expiry
  have status : ∀ branch : BranchResult,
      (branch.err = none ∨ ∃ text, branch.err = some (.sandboxNotOwned text)) →
      hasClaimExpiredCondition (computeAndSetStatus now w.claim branch.sandbox branch.err true).conditions = true := by
    intro branch errs
    simp only [computeAndSetStatus]
    split <;>
    · simp only [hasClaimExpiredCondition, hasReadyReason_syncFinishedCondition,
        hasReadyReason_set_ready (computeReadyCondition_type _ _ _ _), computeReadyCondition_expired _ _ errs,
        beq_self_eq_true]
  simp only [reconcile, expired.alive, ok.initializeAnnotations, Option.isSome_none, Bool.false_eq_true,
    if_false, isExpired, expired.marked, Bool.not_true, Bool.and_false, retained, if_true]
  generalize reconcileExpired env w.sandboxes w.claim = branch at expectedErr branchActions ⊢
  have marked := status branch expectedErr
  simp only [marked, Bool.not_true, Bool.and_false, Bool.false_eq_true, if_false, true_and]
  refine ⟨?_, ?_⟩
  · intro a member
    rcases List.mem_append.mp member with fromBranch | fromUpdate
    · exact branchActions a fromBranch
    · exact updateStatus_actions _ _ _ _ a fromUpdate
  · -- the stored claim keeps its lifecycle and gets a status that reports the expiry
    rcases updateStatus_claim env w.claim (computeAndSetStatus now w.claim branch.sandbox branch.err true)
      { w with sandboxes := branch.sandboxes } with kept | written
    · rw [kept]
      exact expired
    · rw [written]
      exact ⟨⟨shutdownAt, due, fixed⟩, marked, expired.alive⟩

theorem apply_expiredAt {t : Int} {w : ClaimWorld} (expired : ExpiredAt t w.claim) (event : ClaimEvent)
    (later : ∀ now env, event = .reconcile now env → t ≤ now ∧ env.Succeeds) :
    ExpiredAt t (w.apply event).claim := by
  cases event with
  | reconcile now env =>
      obtain ⟨due, ok⟩ := later now env rfl
      exact (reconcile_expiredAt due ok expired).2.2
  | sandboxConditions name conditions => exact expired
  | sandboxGone name => exact expired

theorem run_expiredAt {t : Int} : ∀ (events : List ClaimEvent) {w : ClaimWorld}, ExpiredAt t w.claim →
    (∀ now env, ClaimEvent.reconcile now env ∈ events → t ≤ now ∧ env.Succeeds) →
    ExpiredAt t (w.run events).claim
  | [], _, expired, _ => expired
  | event :: rest, _, expired, later =>
      run_expiredAt rest
        (apply_expiredAt expired event fun now env same => later now env (same ▸ List.mem_cons_self))
        (fun now env member => later now env (List.mem_cons_of_mem _ member))

/-- A Retain claim that expired at its shutdown time and was marked so stays
expired: every later call, after any changes to its Sandboxes, computes that
it is expired, creates or adopts no Sandbox and keeps the `ClaimExpired`
reason. -/
theorem expiry_sticky_of_shutdownTime {t : Int} {w : ClaimWorld} (expired : ExpiredAt t w.claim)
    {events : List ClaimEvent}
    (later : ∀ now env, ClaimEvent.reconcile now env ∈ events → t ≤ now ∧ env.Succeeds)
    (pre post : List ClaimEvent) (now : Int) (env : ReconcileEnv)
    (split : events = pre ++ ClaimEvent.reconcile now env :: post) :
    (reconcile now env (w.run pre)).claimExpired = some true ∧
      (∀ a ∈ (reconcile now env (w.run pre)).actions, a.bindsSandbox = false) ∧
      hasClaimExpiredCondition (reconcile now env (w.run pre)).world.claim.conditions = true := by
  subst split
  have before : ExpiredAt t (w.run pre).claim :=
    run_expiredAt pre expired fun now env member => later now env (List.mem_append_left _ member)
  obtain ⟨due, ok⟩ := later now env (List.mem_append_right _ List.mem_cons_self)
  obtain ⟨computed, binds, after⟩ := reconcile_expiredAt due ok before
  exact ⟨computed, binds, after.marked⟩

end AgentSandbox.Claim
