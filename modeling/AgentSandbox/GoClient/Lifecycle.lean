import Mathlib.Data.List.Basic
import AgentSandbox.Lib.GoErrors

/-!
# Lifecycle of the Go SDK's `Sandbox` handle

Model of `Open`, `reconnect`, `rollbackOpen`, `Close` and `Disconnect` in
`clients/go/sandbox/sandbox.go`, with `deleteClaim` of `k8s.go`.  The
`lifecycleSem` serialises these calls, so a run is a list of them.  Every
answer of the cluster and of the transport is an input of the call
(`OpenEnv`, `CloseEnv`), so a statement over every run covers every
behaviour of the API server.

Besides the handle the world records `live`: the claims `createClaim`
reported as created and not since deleted by a `deleteClaim` that returned
`nil` or seen `NotFound`.  The main result is that `live` is exactly the claim
the handle names (`World.Inv`), so no claim is ever leaked.
-/

set_option autoImplicit false

namespace AgentSandbox.GoClient

open GoErrors

/-- What the lifecycle code tells apart about a failed API call:
`k8serrors.IsNotFound`, or any other error. -/
inductive ApiError
  | notFound
  | other
deriving DecidableEq, Repr

/-- `sandboxState`, less the annotations, which no lifecycle decision reads. -/
structure SandboxState where
  sandboxName : String
  podName : String
  podIP : String
deriving DecidableEq, Repr

/-- The lifecycle fields of `Sandbox`; `connected` is the connector's
`IsConnected`. -/
structure Handle where
  claimName : String
  sandboxName : String
  podName : String
  podIP : String
  connected : Bool
deriving DecidableEq, Repr

/-- The errors the lifecycle calls return, by the sentinel they wrap. -/
inductive LifecycleError
  | lockCancelled
  | lockTimedOut
  | alreadyOpen
  | orphanedClaim (cause : Option ApiError)
  | sandboxDeleted (cause : ApiError)
  | claimFailed (cause : ApiError)
  | api (cause : ApiError)
  | timeout
  | transport
  | reconnectTransport
  | rollbackFailed (original : LifecycleError) (cleanup : ApiError)
  | closeFailed (cause : ApiError)
deriving DecidableEq, Repr

/-- The answers one `Open` receives, in the order it may ask. -/
structure OpenEnv where
  acquired : Bool
  createClaim : Except ApiError String
  resolveSandboxName : Except ApiError String
  budgetLeft : Bool
  waitForSandboxReady : Except ApiError SandboxState
  connect : Bool
  deleteClaim : Except ApiError Unit
  verifyClaimExists : Except ApiError Unit
  verifySandboxAlive : Except ApiError SandboxState

structure CloseEnv where
  acquired : Bool
  deleteClaim : Except ApiError Unit

inductive LifecycleCall
  | «open» (env : OpenEnv)
  | close (env : CloseEnv)
  | disconnect (acquired : Bool)
  /-- The transport dies on its own, as the tunnel monitor reports. -/
  | transportLost

structure World where
  handle : Handle
  live : List String

/-- `deleteClaim`: nothing to do for an empty name, and `NotFound` counts as
deleted. -/
def deleteClaim (name : String) (api : Except ApiError Unit) : Except ApiError Unit :=
  if name = "" then pure ()
  else match api with
    | .ok () => pure ()
    | .error .notFound => pure ()
    | .error e => throw e

namespace World

def initial : World := ⟨⟨"", "", "", "", false⟩, []⟩

/-- The claim named `name` is known to be gone. -/
def forget (w : World) (name : String) : World := { w with live := w.live.erase name }

/-- A `deleteClaim` call and what it tells of the claim. -/
def afterDelete (w : World) (name : String) (api : Except ApiError Unit) : World :=
  match deleteClaim name api with
  | .ok () => if name = "" then w else w.forget name
  | .error _ => w

def setState (w : World) (state : SandboxState) : World :=
  { w with handle := { w.handle with
      sandboxName := state.sandboxName, podName := state.podName, podIP := state.podIP } }

def rollbackOpen (env : OpenEnv) (w : World) (original : LifecycleError) :
    Except LifecycleError Unit × World :=
  let name := w.handle.claimName
  let deleted := w.afterDelete name env.deleteClaim
  let cleared : Handle :=
    { deleted.handle with sandboxName := "", podName := "", podIP := "", connected := false }
  match deleteClaim name env.deleteClaim with
  | .ok () => (.error original, { deleted with handle := { cleared with claimName := "" } })
  | .error e => (.error (.rollbackFailed original e), { deleted with handle := cleared })

def reconnect (env : OpenEnv) (w : World) : Except LifecycleError Unit × World :=
  let claimName := w.handle.claimName
  match env.verifyClaimExists with
  | .error .notFound =>
      let gone := w.forget claimName
      (.error (.sandboxDeleted .notFound),
        { gone with handle := { gone.handle with claimName := "", sandboxName := "", podName := "" } })
  | .error e =>
      (.error (.orphanedClaim (some e)),
        { w with handle := { w.handle with sandboxName := "", podName := "" } })
  | .ok () =>
      match env.verifySandboxAlive with
      | .error .notFound =>
          (.error (.orphanedClaim (some .notFound)),
            { w with handle := { w.handle with sandboxName := "", podName := "" } })
      -- any other failure keeps `sandboxName` so that the next `Open` retries
      | .error e => (.error (.orphanedClaim (some e)), w)
      | .ok state =>
          let w := w.setState state
          if env.connect then (.ok (), { w with handle := { w.handle with connected := true } })
          else (.error .reconnectTransport, w)

/-- `Open`: a new claim only when the handle names none, a reconnect when it
names a claim and its sandbox, and `ErrOrphanedClaim` when only the claim is
known. -/
def openHandle (env : OpenEnv) (w : World) : Except LifecycleError Unit × World :=
  if !env.acquired then (.error .lockCancelled, w)
  else if w.handle.connected then (.error .alreadyOpen, w)
  else if w.handle.claimName ≠ "" ∧ w.handle.sandboxName = "" then (.error (.orphanedClaim none), w)
  else if w.handle.claimName ≠ "" then reconnect env w
  else
    match env.createClaim with
    | .error e => (.error (.claimFailed e), w)
    | .ok claimName =>
        let w : World := ⟨{ w.handle with claimName := claimName }, w.live ++ [claimName]⟩
        match env.resolveSandboxName with
        | .error e => rollbackOpen env w (.api e)
        | .ok _ =>
            if !env.budgetLeft then rollbackOpen env w .timeout
            else
              match env.waitForSandboxReady with
              | .error e => rollbackOpen env w (.api e)
              | .ok state =>
                  let w := w.setState state
                  if env.connect then (.ok (), { w with handle := { w.handle with connected := true } })
                  else rollbackOpen env w .transport

def close (env : CloseEnv) (w : World) : Except LifecycleError Unit × World :=
  if !env.acquired then (.error .lockTimedOut, w)
  else
    let name := w.handle.claimName
    let deleted := w.afterDelete name env.deleteClaim
    let cleared : Handle :=
      { deleted.handle with sandboxName := "", podName := "", podIP := "", connected := false }
    match deleteClaim name env.deleteClaim with
    | .error e =>
        -- the claim stays named so that `Close` can be retried
        if w.handle.claimName ≠ "" then (.error (.closeFailed e), { deleted with handle := cleared })
        else (.error (.closeFailed e), { deleted with handle := { cleared with claimName := "" } })
    | .ok () => (.ok (), { deleted with handle := { cleared with claimName := "" } })

def disconnect (acquired : Bool) (w : World) : Except LifecycleError Unit × World :=
  if !acquired then (.error .lockTimedOut, w)
  else (.ok (), { w with handle := { w.handle with connected := false } })

def step (w : World) : LifecycleCall → Except LifecycleError Unit × World
  | .open env => w.openHandle env
  | .close env => w.close env
  | .disconnect acquired => w.disconnect acquired
  | .transportLost => (.ok (), { w with handle := { w.handle with connected := false } })

def run (w : World) : List LifecycleCall → World
  | [] => w
  | call :: rest => (w.step call).2.run rest

/-- The claims alive are exactly the one the handle names. -/
def Inv (w : World) : Prop := w.live = if w.handle.claimName = "" then [] else [w.handle.claimName]

end World

/-- The API server names every object it creates. -/
def OpenEnv.NamesClaims (env : OpenEnv) : Prop := ∀ name, env.createClaim = .ok name → name ≠ ""

def LifecycleCall.NamesClaims : LifecycleCall → Prop
  | .open env => env.NamesClaims
  | _ => True

theorem deleteClaim_error {name : String} {api : Except ApiError Unit} {e : ApiError}
    (failed : deleteClaim name api = .error e) : name ≠ "" ∧ api = .error e := by
  unfold deleteClaim at failed
  split at failed
  · exact absurd failed pure_ne_error
  · rename_i named
    refine ⟨named, ?_⟩
    split at failed
    · exact absurd failed pure_ne_error
    · exact absurd failed pure_ne_error
    · rw [throw_eq_error] at failed
      subst failed
      rfl

namespace World

/-! ## One call keeps the invariant -/

section Steps

variable {w : World}

theorem Inv.of_same {w' : World} (inv : w.Inv) (named : w'.handle.claimName = w.handle.claimName)
    (same : w'.live = w.live) : w'.Inv := by
  rw [Inv, named, same]
  exact inv

theorem live_afterDelete_subset (name : String) (api : Except ApiError Unit) :
    (w.afterDelete name api).live ⊆ w.live := by
  unfold afterDelete forget
  split
  · split
    · exact List.Subset.refl _
    · exact List.erase_subset
  · exact List.Subset.refl _

theorem live_afterDelete_of_ok (inv : w.Inv) {api : Except ApiError Unit}
    (deleted : deleteClaim w.handle.claimName api = .ok ()) :
    (w.afterDelete w.handle.claimName api).live = [] := by
  unfold afterDelete forget
  rw [deleted]
  by_cases unnamed : w.handle.claimName = ""
  · simp only [unnamed, if_true]
    rw [inv, if_pos unnamed]
  · simp only [unnamed, if_false]
    rw [inv, if_neg unnamed]
    exact List.erase_cons_head _ _

theorem rollbackOpen_inv (inv : w.Inv) (env : OpenEnv) (original : LifecycleError) :
    (w.rollbackOpen env original).2.Inv := by
  unfold rollbackOpen
  dsimp only
  split
  next deleted =>
      -- the claim is gone and the handle names none
      simp only [Inv, if_true]
      exact live_afterDelete_of_ok inv deleted
  next e deleted =>
      -- nothing was deleted and the claim stays named
      have unchanged : w.afterDelete w.handle.claimName env.deleteClaim = w := by
        simp [afterDelete, deleted]
      exact inv.of_same (by simp [unchanged]) (by simp [unchanged])

theorem reconnect_inv (inv : w.Inv) (env : OpenEnv) : (w.reconnect env).2.Inv := by
  unfold reconnect
  split
  · -- `NotFound`: the claim is gone and forgotten
    by_cases unnamed : w.handle.claimName = ""
    · simp only [Inv, forget, if_true]
      rw [inv, if_pos unnamed]
      rfl
    · simp only [Inv, forget, if_true]
      rw [inv, if_neg unnamed]
      exact List.erase_cons_head _ _
  · exact inv.of_same rfl rfl
  · split
    · exact inv.of_same rfl rfl
    · exact inv.of_same rfl rfl
    · split <;> exact inv.of_same rfl rfl

theorem openHandle_inv (inv : w.Inv) {env : OpenEnv} (named : env.NamesClaims) :
    (w.openHandle env).2.Inv := by
  unfold openHandle
  dsimp only
  split
  · exact inv
  split
  · exact inv
  split
  · exact inv
  split
  · exact reconnect_inv inv env
  rename_i unnamed
  have empty : w.handle.claimName = "" := by simpa using unnamed
  split
  · exact inv
  · rename_i claimName created
    -- the new claim is the only one alive and the handle names it
    have created : (⟨{ w.handle with claimName := claimName }, w.live ++ [claimName]⟩ : World).Inv := by
      simp only [Inv, if_neg (named claimName created)]
      rw [inv, if_pos empty, List.nil_append]
    split
    · exact rollbackOpen_inv created env _
    · split
      · exact rollbackOpen_inv created env _
      · split
        · exact rollbackOpen_inv created env _
        · split
          · exact created.of_same rfl rfl
          · refine rollbackOpen_inv ?_ env _
            exact created.of_same rfl rfl

theorem close_inv (inv : w.Inv) (env : CloseEnv) : (w.close env).2.Inv := by
  unfold close
  split
  · exact inv
  dsimp only
  cases deleted : deleteClaim w.handle.claimName env.deleteClaim with
  | error e =>
      -- the claim stays named, and alive
      have named := (deleteClaim_error deleted).1
      have unchanged : w.afterDelete w.handle.claimName env.deleteClaim = w := by
        simp [afterDelete, deleted]
      simp only [named, ne_eq, not_false_eq_true, if_true]
      exact inv.of_same (by simp [unchanged]) (by simp [unchanged])
  | ok u =>
      simp only [Inv, if_true]
      exact live_afterDelete_of_ok inv deleted

theorem step_inv (inv : w.Inv) {call : LifecycleCall} (named : call.NamesClaims) :
    (w.step call).2.Inv := by
  cases call with
  | «open» env => exact openHandle_inv inv named
  | close env => exact close_inv inv env
  | disconnect acquired =>
      simp only [step, disconnect]
      split
      · exact inv
      · exact inv.of_same rfl rfl
  | transportLost =>
      simp only [step]
      exact inv.of_same rfl rfl

end Steps

theorem initial_inv : initial.Inv := rfl

theorem run_inv {calls : List LifecycleCall} (named : ∀ call ∈ calls, call.NamesClaims) :
    ∀ {w : World}, w.Inv → (w.run calls).Inv := by
  induction calls with
  | nil => exact fun inv => inv
  | cons call rest ih =>
      intro w inv
      exact ih (fun later member => named later (List.mem_cons_of_mem call member))
        (step_inv inv (named call List.mem_cons_self))

/-! ## Only an unnamed handle creates a claim -/

theorem live_rollbackOpen_subset (w : World) (env : OpenEnv) (original : LifecycleError) :
    (w.rollbackOpen env original).2.live ⊆ w.live := by
  unfold rollbackOpen
  dsimp only
  split <;> exact live_afterDelete_subset _ _

theorem live_reconnect_subset (w : World) (env : OpenEnv) : (w.reconnect env).2.live ⊆ w.live := by
  unfold reconnect
  dsimp only
  split
  · exact List.erase_subset
  · exact List.Subset.refl _
  · split
    · exact List.Subset.refl _
    · exact List.Subset.refl _
    · split <;> exact List.Subset.refl _

theorem live_openHandle (w : World) (env : OpenEnv) :
    ∀ c ∈ (w.openHandle env).2.live, c ∈ w.live ∨ w.handle.claimName = "" := by
  intro c member
  unfold openHandle at member
  dsimp only at member
  split at member
  · exact Or.inl member
  split at member
  · exact Or.inl member
  split at member
  · exact Or.inl member
  split at member
  · exact Or.inl (live_reconnect_subset w env member)
  -- the creating branch is guarded by an empty `claimName`
  rename_i unnamed
  exact Or.inr (by simpa using unnamed)

end World

/-- A `Sandbox` handle never leaks a claim: after any run of lifecycle calls,
every claim created and not yet deleted or seen `NotFound` is the one
`claimName` names, there is at most one, and a further `Open` creates a claim
only when `claimName` is empty. -/
theorem sandbox_never_leaks_claim (calls : List LifecycleCall)
    (named : ∀ call ∈ calls, call.NamesClaims) :
    (∀ c ∈ (World.initial.run calls).live, c = (World.initial.run calls).handle.claimName) ∧
      (World.initial.run calls).live.length ≤ 1 ∧
      ∀ (env : OpenEnv), ∀ c ∈ ((World.initial.run calls).openHandle env).2.live,
        c ∉ (World.initial.run calls).live → (World.initial.run calls).handle.claimName = "" := by
  have inv := World.run_inv named World.initial_inv
  refine ⟨fun c member => ?_, ?_, fun env c member fresh =>
    ((World.live_openHandle _ env c member).resolve_left fresh)⟩
  · rw [inv] at member
    split at member
    · simp at member
    · exact List.mem_singleton.mp member
  · rw [inv]
    split <;> simp

/-- An `Open` whose claim is created and whose rollback cannot delete it, a
second `Open` refused as orphaned, and a `Close` that deletes the claim. -/
def orphanThenClose : List LifecycleCall :=
  let failing : OpenEnv :=
    ⟨true, .ok "sandbox-claim-x7k2p", .error .other, true, .error .other, false, .error .other,
      .ok (), .error .other⟩
  [.open failing, .open failing, .close ⟨true, .ok ()⟩]

theorem sandbox_never_leaks_claim_orphanThenClose :
    (∀ call ∈ orphanThenClose, call.NamesClaims) ∧
      ((∀ c ∈ (World.initial.run orphanThenClose).live,
          c = (World.initial.run orphanThenClose).handle.claimName) ∧
        (World.initial.run orphanThenClose).live.length ≤ 1 ∧
        ∀ (env : OpenEnv), ∀ c ∈ ((World.initial.run orphanThenClose).openHandle env).2.live,
          c ∉ (World.initial.run orphanThenClose).live →
            (World.initial.run orphanThenClose).handle.claimName = "") := by
  have named : ∀ call ∈ orphanThenClose, call.NamesClaims := by
    intro call member
    simp only [orphanThenClose, List.mem_cons, List.not_mem_nil, or_false] at member
    rcases member with rfl | rfl | rfl
    · intro name created
      cases created
      decide
    · intro name created
      cases created
      decide
    · trivial
  exact ⟨named, sandbox_never_leaks_claim orphanThenClose named⟩

end AgentSandbox.GoClient
