import AgentSandbox.WarmPool.Scaling
import AgentSandbox.WarmPool.Staleness

/-!
# The members of a warm pool

Model of what `filterActiveSandboxes` decides about one listed Sandbox, of
`setWarmLaunchTypeLabelIfNeeded` and of the owner reference `adoptSandbox` writes
(`extensions/controllers/sandboxwarmpool_controller.go`), with
`controllerutil.SetControllerReference` as controller-runtime documents it.

A listed Sandbox is a `PoolMember`: the fields the controller reads or writes, with owner
references that carry the owner's name and UID.  The models of `isSandboxStale` and of the
scaling read it through views (`staleView`, `scalingView`).

`isSandboxStale` keeps a memo, `vettedHashes`, from a template-hash label to the verdict of
the full comparison for the first owned Sandbox that carried it, and answers every later owned
Sandbox with that label from it.  When the label decides the comparison (`Coherent`: two owned
Sandboxes with one label compare alike), a memo that holds only full verdicts (`MemoSound`)
gives every Sandbox the verdict the full check gives, and holds only full verdicts after the
call (`isSandboxStale_sound`).
-/

set_option autoImplicit false

namespace AgentSandbox.WarmPool

open Meta
open Claim.Adoption (OwnerRef SandboxLaunchTypeLabel SandboxLaunchTypeWarm SandboxTemplateHashLabel)
open Controller (SandboxTemplateRefHashLabel)

deriving instance DecidableEq for PodTemplate, SandboxBlueprint, SandboxTemplate, SandboxWarmPool

def RecreateSandboxWarmPoolUpdateStrategyType : String := "Recreate"

def OnReplenishSandboxWarmPoolUpdateStrategyType : String := "OnReplenish"

/-- The two strategies `filterActiveSandboxes` tells apart. -/
inductive UpdateStrategy
  | recreate
  | onReplenish
deriving DecidableEq, Repr

/-- The `switch` of `filterActiveSandboxes`: `Recreate` as asked; `OnReplenish` for
`OnReplenish`, for no strategy, and for an unknown one. -/
def updateStrategyOf (updateStrategyType : String) : UpdateStrategy :=
  if updateStrategyType == RecreateSandboxWarmPoolUpdateStrategyType then .recreate else .onReplenish

structure PoolStatus where
  replicas : Int
  readyReplicas : Int
  selector : String
deriving DecidableEq, Repr

/-- A `SandboxWarmPool` with the fields the reconcile reads or writes. -/
structure WarmPoolObject where
  pool : SandboxWarmPool
  uid : String
  resourceVersion : Nat
  deleting : Bool
  /-- `Spec.Replicas`, `none` for nil. -/
  replicas : Option Int
  /-- `Spec.UpdateStrategy.Type`, `""` when `UpdateStrategy` is nil. -/
  updateStrategyType : String
  status : PoolStatus
deriving DecidableEq

/-- A Sandbox of the pool's namespace, with the fields the warm-pool controller reads or
writes. -/
structure PoolMember (σ ν : Type) where
  name : String
  resourceVersion : Nat
  ownerReferences : List OwnerRef
  labels : StrMap
  deleting : Bool
  conditions : List Condition
  /-- Seconds since Go's zero time; `0` before the API server stamps it. -/
  creationTimestamp : Nat
  blueprint : SandboxBlueprint σ ν
deriving DecidableEq

namespace PoolMember

variable {σ ν : Type} (sb : PoolMember σ ν)

/-- `metav1.GetControllerOf`. -/
def controllerRef : Option OwnerRef := Claim.Adoption.getControllerOf sb.ownerReferences

/-- The Sandbox as the model of `isSandboxStale` reads it, whose owner references keep only
their API version, kind and controller flag. -/
def staleView : Sandbox σ ν :=
  ⟨"", "", sb.labels, ∅, sb.ownerReferences.map fun ref => ⟨ref.apiVersion, ref.kind, some ref.controller⟩,
    sb.blueprint⟩

/-- The Sandbox as the scaling reads it. -/
def scalingView : PoolSandbox := ⟨sb.name, sb.conditions, sb.creationTimestamp⟩

@[simp] theorem staleView_labels : sb.staleView.labels = sb.labels := rfl

@[simp] theorem staleView_blueprint : sb.staleView.blueprint = sb.blueprint := rfl

theorem getControllerOf_staleView :
    Controller.getControllerOf sb.staleView.ownerReferences =
      sb.controllerRef.map fun ref => ⟨ref.apiVersion, ref.kind, some ref.controller⟩ := by
  unfold staleView controllerRef Controller.getControllerOf Claim.Adoption.getControllerOf
  rw [List.find?_map]
  congr 2
  funext ref
  simp only [Function.comp_apply]
  cases ref.controller <;> rfl

end PoolMember

/-- `setWarmLaunchTypeLabelIfNeeded` on a Sandbox's labels: whether it set the launch type, and
the labels after. -/
def setWarmLaunchTypeLabelIfNeeded (labels : StrMap) : Bool × StrMap :=
  if labels.get SandboxLaunchTypeLabel == SandboxLaunchTypeWarm then (false, labels)
  else (true, labels.set SandboxLaunchTypeLabel SandboxLaunchTypeWarm)

theorem get_setWarmLaunchTypeLabelIfNeeded (labels : StrMap) :
    (setWarmLaunchTypeLabelIfNeeded labels).2.get SandboxLaunchTypeLabel = SandboxLaunchTypeWarm := by
  unfold setWarmLaunchTypeLabelIfNeeded
  split
  · rename_i warm
    exact beq_iff_eq.mp warm
  · exact StrMap.get_set_self _ _ _

theorem lookup_setWarmLaunchTypeLabelIfNeeded_of_ne (labels : StrMap) {key : String}
    (other : key ≠ SandboxLaunchTypeLabel) :
    (setWarmLaunchTypeLabelIfNeeded labels).2.lookup key = labels.lookup key := by
  unfold setWarmLaunchTypeLabelIfNeeded
  split
  · rfl
  · exact StrMap.lookup_set_of_ne _ _ other

/-! ## `SetControllerReference` -/

section Owner

-- the group `schema.ParseGroupVersion` reads from an `APIVersion`
variable (apiGroupOf : String → String)

/-- controller-runtime's `referSameObject`: the same group, kind and name. -/
def referSameObject (a b : OwnerRef) : Bool :=
  apiGroupOf a.apiVersion == apiGroupOf b.apiVersion && a.kind == b.kind && a.name == b.name

/-- controller-runtime's `upsertOwnerRef`: the reference replaces the one to the same object,
or is appended. -/
def upsertOwnerRef (ref : OwnerRef) (owners : List OwnerRef) : List OwnerRef :=
  match owners.findIdx? (referSameObject apiGroupOf · ref) with
  | none => owners ++ [ref]
  | some idx => owners.set idx ref

/-- `controllerutil.SetControllerReference(warmPool, sb, r.Scheme)` on the Sandbox `name`: its
owner references after the call, or the error.  The reference names the pool under the API
version and kind the scheme gives (`poolKind`); a controller other than the pool refuses it. -/
def setControllerReference (poolKind : Except String (String × String)) (warmPool : WarmPoolObject)
    (name : String) (owners : List OwnerRef) : Except String (List OwnerRef) :=
  match poolKind with
  | .error err => .error err
  | .ok (apiVersion, kind) =>
    let ref : OwnerRef := ⟨apiVersion, kind, warmPool.pool.name, warmPool.uid, true⟩
    match Claim.Adoption.getControllerOf owners with
    | some existing =>
        if !referSameObject apiGroupOf existing ref then
          .error ("Object " ++ warmPool.pool.namespace ++ "/" ++ name ++ " is already owned by another " ++
            existing.kind ++ " controller " ++ existing.name)
        else .ok (upsertOwnerRef apiGroupOf ref owners)
    | none => .ok (upsertOwnerRef apiGroupOf ref owners)

/-- In owners none of which is a controller, the reference `upsertOwnerRef` writes is the
controller. -/
theorem getControllerOf_upsertOwnerRef {owners : List OwnerRef} (orphan : Claim.Adoption.getControllerOf owners = none)
    {ref : OwnerRef} (controls : ref.controller = true) :
    Claim.Adoption.getControllerOf (upsertOwnerRef apiGroupOf ref owners) = some ref := by
  have others : ∀ x ∈ owners, x.controller = false := by
    simpa [Claim.Adoption.getControllerOf] using orphan
  unfold Claim.Adoption.getControllerOf at orphan
  unfold upsertOwnerRef Claim.Adoption.getControllerOf
  split
  · rw [List.find?_append, orphan]
    simp [controls]
  · rename_i idx found
    have inside : idx < owners.length := (List.findIdx?_eq_some_iff_getElem.mp found).1
    -- the only controller left is the reference written at `idx`
    have written : ref ∈ owners.set idx ref := List.mem_set inside ref
    obtain ⟨y, first⟩ := Option.isSome_iff_exists.mp
      (List.find?_isSome.mpr ⟨ref, written, by simpa using controls⟩)
    rw [first]
    have picked := List.mem_of_find?_eq_some first
    have isController : y.controller = true := by simpa using List.find?_some first
    rcases List.mem_or_eq_of_mem_set picked with old | same
    · rw [others y old] at isController
      cases isController
    · rw [same]

theorem setControllerReference_of_orphan {poolKind : Except String (String × String)} {warmPool : WarmPoolObject}
    {name : String} {owners owners' : List OwnerRef} (orphan : Claim.Adoption.getControllerOf owners = none)
    (set : setControllerReference apiGroupOf poolKind warmPool name owners = .ok owners') :
    ∃ ref, Claim.Adoption.getControllerOf owners' = some ref ∧ ref.uid = warmPool.uid := by
  unfold setControllerReference at set
  rcases poolKind with err | ⟨apiVersion, kind⟩
  · cases set
  · simp only [orphan, Except.ok.injEq] at set
    subst set
    exact ⟨_, getControllerOf_upsertOwnerRef apiGroupOf orphan rfl, rfl⟩

end Owner

/-! ## The memo of `isSandboxStale` -/

section Vetted

variable {σ ν : Type} (eq : DeepEqual σ ν) (template : SandboxTemplate σ ν) (currentSandboxBlueprintHash : String)

/-- The check with no memo: the full comparison every time. -/
def isSandboxStaleUncached (sandbox : Sandbox σ ν) : Bool :=
  (isSandboxStale eq sandbox template currentSandboxBlueprintHash fun _ => none).1

/-- Owned Sandboxes of `members` that carry one template-hash label compare alike against the
template. -/
def Coherent (members : List (PoolMember σ ν)) : Prop :=
  ∀ a ∈ members, ∀ b ∈ members, a.controllerRef.isSome → b.controllerRef.isSome →
    a.labels.get SandboxTemplateHashLabel = b.labels.get SandboxTemplateHashLabel →
    compareSandboxBlueprint eq template a.blueprint = compareSandboxBlueprint eq template b.blueprint

instance [DecidableEq σ] [DecidableEq ν] (members : List (PoolMember σ ν)) :
    Decidable (Coherent eq template members) :=
  inferInstanceAs (Decidable (∀ a ∈ members, ∀ b ∈ members, _))

/-- Every verdict the memo holds is the full comparison's, for each owned Sandbox of `members`
that carries the label it is recorded under. -/
def MemoSound (members : List (PoolMember σ ν)) (vettedHashes : String → Option Bool) : Prop :=
  ∀ hash isStale, vettedHashes hash = some isStale →
    ∀ b ∈ members, b.controllerRef.isSome → b.labels.get SandboxTemplateHashLabel = hash →
      isStale = !compareSandboxBlueprint eq template b.blueprint

theorem memoSound_empty (members : List (PoolMember σ ν)) : MemoSound eq template members fun _ => none :=
  fun _ _ recorded => by cases recorded

variable {eq template currentSandboxBlueprintHash}

/-- One call of `isSandboxStale` on a member: its verdict is the full check's, and the memo
it leaves holds only full verdicts.  The cases are the branches of `isSandboxStale`; only the
memo's two differ from the full check, and coherence closes both. -/
theorem isSandboxStale_sound {members : List (PoolMember σ ν)} (coherent : Coherent eq template members)
    {vettedHashes : String → Option Bool} (sound : MemoSound eq template members vettedHashes)
    {sb : PoolMember σ ν} (listed : sb ∈ members) :
    (isSandboxStale eq sb.staleView template currentSandboxBlueprintHash vettedHashes).1 =
        isSandboxStaleUncached eq template currentSandboxBlueprintHash sb.staleView ∧
      MemoSound eq template members (isSandboxStale eq sb.staleView template currentSandboxBlueprintHash vettedHashes).2 := by
  unfold isSandboxStaleUncached isSandboxStale
  dsimp only
  split
  · exact ⟨rfl, sound⟩
  · split
    · exact ⟨rfl, sound⟩
    · rename_i owned
      have isOwned : sb.controllerRef.isSome := by
        rw [PoolMember.getControllerOf_staleView, Option.isNone_map] at owned
        cases controller : sb.controllerRef with
        | none => simp [controller] at owned
        | some _ => rfl
      split
      · exact ⟨rfl, sound⟩
      · split
        · exact ⟨rfl, sound⟩
        · -- the memo path: a recorded verdict is the full one, and a new one is recorded
          simp only [PoolMember.staleView_labels, PoolMember.staleView_blueprint]
          by_cases unlabelled : sb.labels.get SandboxTemplateHashLabel = ""
          · simp only [unlabelled, bne_self_eq_false, Bool.false_eq_true, if_false]
            exact ⟨trivial, sound⟩
          · have labelled : (sb.labels.get SandboxTemplateHashLabel != "") = true := bne_iff_ne.mpr unlabelled
            simp only [labelled, if_true]
            cases hit : vettedHashes (sb.labels.get SandboxTemplateHashLabel) with
            | some isStale => exact ⟨sound _ isStale hit sb listed isOwned rfl, sound⟩
            | none =>
              refine ⟨rfl, fun hash isStale recorded b member bOwned bLabel => ?_⟩
              dsimp only at recorded
              by_cases same : hash = sb.labels.get SandboxTemplateHashLabel
              · subst same
                rw [Function.update_self, Option.some.injEq] at recorded
                rw [← recorded, coherent b member sb listed bOwned isOwned bLabel]
              · rw [Function.update_of_ne same] at recorded
                exact sound hash isStale recorded b member bOwned bLabel

end Vetted

end AgentSandbox.WarmPool
