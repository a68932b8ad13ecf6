import AgentSandbox.Controller.Reconcile

/-!
# The Sandbox's conditions

Model of the conditions `reconcileChildResources` writes into a Sandbox's
status (`controllers/sandbox_controller.go`).  `computeConditions` builds the
`Suspended`, `Finished` and `Ready` conditions from the Pod and Service the
reconcile found and from its error; each is written with `SetStatusCondition`,
and `Finished` is removed when it was not computed.

`reconcileConditions_spec`: after a reconcile, `Ready` is the computed one
(`computeReadyCondition_status_eq_true_iff` says when it is `True`),
`Finished` is present exactly for a Pod that succeeded or failed, and
`Suspended` is the computed one while the Sandbox is suspended.  While it
runs, `Suspended` is left as it was: nothing removes it, so a Sandbox resumed
after a suspension keeps `Suspended=True` beside `Ready=True`.
-/

set_option autoImplicit false

namespace AgentSandbox.Controller

open Meta

def SandboxConditionSuspended : String := "Suspended"

def SandboxReasonSuspendedPodTerminated : String := "PodTerminated"

def SandboxReasonSuspendedPodNotTerminated : String := "PodNotTerminated"

def SandboxReasonDependenciesReady : String := "DependenciesReady"

def SandboxReasonDependenciesNotReady : String := "DependenciesNotReady"

def SandboxReasonSuspended : String := "SandboxSuspended"

def SandboxConditionFinished : String := "Finished"

def SandboxReasonPodSucceeded : String := "PodSucceeded"

def SandboxReasonPodFailed : String := "PodFailed"

inductive SandboxOperatingMode
  | running
  | suspended
deriving DecidableEq, Repr

inductive PodPhase
  | pending
  | running
  | succeeded
  | failed
  | unknown
deriving DecidableEq, Repr

def PodPhase.toString : PodPhase → String
  | .pending => "Pending"
  | .running => "Running"
  | .succeeded => "Succeeded"
  | .failed => "Failed"
  | .unknown => "Unknown"

def PodReady : String := "Ready"

structure PodCondition where
  type : String
  status : ConditionStatus
deriving DecidableEq, Repr

/-- The fields of a Pod's status that the conditions read. -/
structure Pod where
  phase : PodPhase
  conditions : List PodCondition
  podIPs : List String
deriving DecidableEq, Repr

/-- The fields of a Sandbox's spec that the conditions read. -/
structure SandboxSpec where
  operatingMode : SandboxOperatingMode
  service : Option Bool
deriving DecidableEq, Repr

/-! ## The computed conditions -/

def computeSuspendedCondition (spec : SandboxSpec) (pod : Option Pod) : Option Condition :=
  if spec.operatingMode ≠ .suspended then none
  else
    match pod with
    | none =>
        some { type := SandboxConditionSuspended, status := .conditionTrue,
               reason := SandboxReasonSuspendedPodTerminated,
               message := "Pod has been terminated. Sandbox is not operational.", lastTransitionTime := none }
    | some _ =>
        some { type := SandboxConditionSuspended, status := .conditionFalse,
               reason := SandboxReasonSuspendedPodNotTerminated,
               message := "Pod has not been terminated. Sandbox is operational.", lastTransitionTime := none }

/-- The loop over a running Pod's conditions: the first `PodReady` condition
decides, and a ready Pod also needs an IP.  Returns `podReady` and the
message. -/
def podReadiness (pod : Pod) : Bool × String :=
  match pod.conditions.find? (·.type == PodReady) with
  | some condition =>
      if condition.status = .conditionTrue then
        if pod.podIPs.length = 0 then (false, "Pod is Ready but has no podIPs yet")
        else (true, "Pod is Ready")
      else (false, "Pod is Running but not Ready")
  | none => (false, "Pod is Running but not Ready")

/-- `svcRequired`: what the spec asks for, or whether a Service exists when it
asks nothing. -/
def serviceRequired (spec : SandboxSpec) (svc : Bool) : Bool :=
  match spec.service with
  | some required => required
  | none => svc

/-- `computeReadyCondition`, with `err` the text of the joined error and
`svc` whether the Service exists. -/
def computeReadyCondition (spec : SandboxSpec) (err : Option String) (svc : Bool) (pod : Option Pod) :
    Condition :=
  let readyCondition : Condition :=
    { type := SandboxConditionReady, status := .conditionFalse, reason := SandboxReasonDependenciesNotReady,
      message := "", lastTransitionTime := none }
  match err with
  | some err => { readyCondition with reason := "ReconcilerError", message := "Error seen: " ++ err }
  | none =>
    if spec.operatingMode = .suspended then
      { readyCondition with
        reason := SandboxReasonSuspended
        message := if pod.isSome then "Sandbox is suspending" else "Sandbox is suspended" }
    else
      match pod.map Pod.phase with
      | some .succeeded =>
          { readyCondition with reason := SandboxReasonPodSucceeded, message := "Pod completed successfully" }
      | some .failed => { readyCondition with reason := SandboxReasonPodFailed, message := "Pod failed" }
      | _ =>
        let (podReady, message) :=
          match pod with
          | some p =>
              if p.phase = .running then podReadiness p
              else (false, "Pod exists with phase: " ++ p.phase.toString)
          | none => (false, "Pod does not exist")
        let required := serviceRequired spec svc
        let svcReady := !required || svc
        let message :=
          if required then message ++ (if svc then "; Service Exists" else "; Service does not exist")
          else message
        if podReady && svcReady then
          { readyCondition with message, status := .conditionTrue, reason := SandboxReasonDependenciesReady }
        else { readyCondition with message }

def computeFinishedCondition (pod : Option Pod) : Option Condition :=
  match pod.map Pod.phase with
  | some .succeeded =>
      some { type := SandboxConditionFinished, status := .conditionTrue, reason := SandboxReasonPodSucceeded,
             message := "Pod completed successfully", lastTransitionTime := none }
  | some .failed =>
      some { type := SandboxConditionFinished, status := .conditionTrue, reason := SandboxReasonPodFailed,
             message := "Pod failed", lastTransitionTime := none }
  | _ => none

def computeConditions (spec : SandboxSpec) (err : Option String) (svc : Bool) (pod : Option Pod) :
    List Condition :=
  (computeSuspendedCondition spec pod).toList ++ (computeFinishedCondition pod).toList ++
    [computeReadyCondition spec err svc pod]

/-! ## Writing them -/

/-- One turn of the loop over the computed conditions, with `hasFinished`. -/
def setCondition (now : Int) (acc : List Condition × Bool) (condition : Condition) : List Condition × Bool :=
  (setStatusCondition now acc.1 condition, acc.2 || condition.type == SandboxConditionFinished)

def writeConditions (now : Int) (conditions computed : List Condition) : List Condition :=
  let (written, hasFinished) := computed.foldl (setCondition now) (conditions, false)
  if !hasFinished then removeStatusCondition written SandboxConditionFinished else written

/-- The status conditions after `reconcileChildResources` found `pod` and
whether a Service exists, with the joined error `err`. -/
def reconcileConditions (now : Int) (conditions : List Condition) (spec : SandboxSpec) (err : Option String)
    (svc : Bool) (pod : Option Pod) : List Condition :=
  writeConditions now conditions (computeConditions spec err svc pod)

/-! ## What the writes leave -/

/-- A condition read back carries the status, reason and message written. -/
def Carries (found : Option Condition) (new : Condition) : Prop :=
  ∃ c, found = some c ∧ c.status = new.status ∧ c.reason = new.reason ∧ c.message = new.message

theorem foldl_setCondition (now : Int) (computed : List Condition) (acc : List Condition × Bool) :
    computed.foldl (setCondition now) acc =
      (computed.foldl (setStatusCondition now) acc.1,
        acc.2 || computed.any (·.type == SandboxConditionFinished)) := by
  induction computed generalizing acc with
  | nil => simp
  | cons c rest ih => simp [setCondition, ih, Bool.or_assoc]

theorem writeConditions_eq (now : Int) (conditions computed : List Condition) :
    writeConditions now conditions computed =
      if computed.any (·.type == SandboxConditionFinished) then computed.foldl (setStatusCondition now) conditions
      else removeStatusCondition (computed.foldl (setStatusCondition now) conditions) SandboxConditionFinished := by
  rw [writeConditions, foldl_setCondition]
  cases computed.any (·.type == SandboxConditionFinished) <;> rfl

theorem findStatusCondition_foldl_set_of_not_mem (now : Int) {conditionType : String} :
    ∀ (computed : List Condition), (∀ c ∈ computed, c.type ≠ conditionType) → ∀ conditions,
      findStatusCondition (computed.foldl (setStatusCondition now) conditions) conditionType =
        findStatusCondition conditions conditionType
  | [], _, _ => rfl
  | c :: rest, absent, conditions => by
      rw [List.foldl_cons, findStatusCondition_foldl_set_of_not_mem now rest
        (fun d member => absent d (.tail c member))]
      exact findStatusCondition_set_of_ne now c (Ne.symm (absent c (.head rest))) conditions

theorem findStatusCondition_foldl_set_of_mem (now : Int) :
    ∀ (computed : List Condition), (computed.map (·.type)).Nodup → ∀ new ∈ computed, ∀ conditions,
      Carries (findStatusCondition (computed.foldl (setStatusCondition now) conditions) new.type) new
  | [], _, _, member, _ => nomatch member
  | c :: rest, distinct, new, member, conditions => by
      rw [List.map_cons, List.nodup_cons] at distinct
      rw [List.foldl_cons]
      rcases List.mem_cons.mp member with rfl | later
      · -- the later conditions have other types, so this write is the one read
        have others : ∀ d ∈ rest, d.type ≠ new.type := fun d inRest same =>
          distinct.1 (List.mem_map.mpr ⟨d, inRest, same⟩)
        rw [findStatusCondition_foldl_set_of_not_mem now rest others]
        exact findStatusCondition_set_self now new conditions
      · exact findStatusCondition_foldl_set_of_mem now rest distinct.2 new later _

theorem findStatusCondition_writeConditions_of_ne (now : Int) (conditions computed : List Condition)
    {conditionType : String} (other : conditionType ≠ SandboxConditionFinished) :
    findStatusCondition (writeConditions now conditions computed) conditionType =
      findStatusCondition (computed.foldl (setStatusCondition now) conditions) conditionType := by
  rw [writeConditions_eq]
  split
  · rfl
  · exact findStatusCondition_remove_of_ne other

/-! ## The computed conditions' types -/

theorem computeSuspendedCondition_type {spec : SandboxSpec} {pod : Option Pod} {c : Condition}
    (computed : computeSuspendedCondition spec pod = some c) : c.type = SandboxConditionSuspended := by
  unfold computeSuspendedCondition at computed
  split at computed
  · cases computed
  · split at computed <;> (cases computed; rfl)

theorem computeFinishedCondition_type {pod : Option Pod} {c : Condition}
    (computed : computeFinishedCondition pod = some c) : c.type = SandboxConditionFinished := by
  unfold computeFinishedCondition at computed
  split at computed <;> first | (cases computed; rfl) | cases computed

theorem computeFinishedCondition_isSome_iff (pod : Option Pod) :
    (computeFinishedCondition pod).isSome ↔ ∃ p, pod = some p ∧ (p.phase = .succeeded ∨ p.phase = .failed) := by
  rcases pod with _ | ⟨phase, podConditions, podIPs⟩
  · simp [computeFinishedCondition]
  · cases phase <;> simp [computeFinishedCondition]

theorem computeReadyCondition_type (spec : SandboxSpec) (err : Option String) (svc : Bool) (pod : Option Pod) :
    (computeReadyCondition spec err svc pod).type = SandboxConditionReady := by
  unfold computeReadyCondition
  dsimp only
  repeat' split
  all_goals rfl

theorem nodup_computeConditions_types (spec : SandboxSpec) (err : Option String) (svc : Bool)
    (pod : Option Pod) : ((computeConditions spec err svc pod).map (·.type)).Nodup := by
  have one : ∀ (c? : Option Condition) (t : String), (∀ c, c? = some c → c.type = t) →
      List.Sublist (c?.toList.map (·.type)) [t] := by
    rintro (_ | c) t typed
    · exact List.nil_sublist _
    · simp [typed c rfl]
  have types : List.Sublist ((computeConditions spec err svc pod).map (·.type))
      [SandboxConditionSuspended, SandboxConditionFinished, SandboxConditionReady] := by
    simp only [computeConditions, List.map_append, List.map_cons, List.map_nil, computeReadyCondition_type]
    exact ((one _ _ fun _ => computeSuspendedCondition_type).append
      (one _ _ fun _ => computeFinishedCondition_type)).append (List.Sublist.refl _)
  exact types.nodup (by decide)

theorem any_computeConditions_finished (spec : SandboxSpec) (err : Option String) (svc : Bool)
    (pod : Option Pod) :
    (computeConditions spec err svc pod).any (·.type == SandboxConditionFinished) =
      (computeFinishedCondition pod).isSome := by
  have suspended : ∀ c ∈ (computeSuspendedCondition spec pod).toList, c.type ≠ SandboxConditionFinished := by
    intro c member
    rw [Option.mem_toList] at member
    rw [computeSuspendedCondition_type member]
    decide
  cases finished : computeFinishedCondition pod with
  | none =>
    simp only [computeConditions, finished, Option.toList_none, List.append_nil, List.any_append,
      List.any_cons, List.any_nil, computeReadyCondition_type, Option.isSome_none]
    simp only [Bool.or_eq_false_iff, List.any_eq_false, beq_iff_eq]
    exact ⟨suspended, by decide⟩
  | some c =>
    simp [computeConditions, finished, computeFinishedCondition_type finished]

/-! ## When the Sandbox is ready -/

theorem podReadiness_fst_eq_true_iff (pod : Pod) :
    (podReadiness pod).1 = true ↔
      (∃ c, pod.conditions.find? (·.type == PodReady) = some c ∧ c.status = .conditionTrue) ∧
        pod.podIPs ≠ [] := by
  unfold podReadiness
  split
  · rename_i c found
    by_cases ready : c.status = .conditionTrue
    · by_cases noIPs : pod.podIPs.length = 0
      · simp [ready, found, List.length_eq_zero_iff.mp noIPs]
      · simp [ready, noIPs, found, ← List.length_eq_zero_iff]
    · simp [ready, found]
  · rename_i missing
    simp [missing]

/-- `Ready` is `True` exactly when there is no error, the Sandbox runs, its
Pod is running with a first `PodReady` condition that is `True` and an IP,
and the Service exists if one is required. -/
theorem computeReadyCondition_status_eq_true_iff (spec : SandboxSpec) (err : Option String) (svc : Bool)
    (pod : Option Pod) :
    (computeReadyCondition spec err svc pod).status = .conditionTrue ↔
      err = none ∧ spec.operatingMode ≠ .suspended ∧
      ∃ p, pod = some p ∧ p.phase = .running ∧
        (∃ c, p.conditions.find? (·.type == PodReady) = some c ∧ c.status = .conditionTrue) ∧
        p.podIPs ≠ [] ∧ (serviceRequired spec svc = true → svc = true) := by
  rcases err with _ | err
  swap
  · simp [computeReadyCondition]
  by_cases suspended : spec.operatingMode = .suspended
  · simp [computeReadyCondition, suspended]
  rcases pod with _ | ⟨phase, podConditions, podIPs⟩
  · simp [computeReadyCondition, suspended]
  · cases phase <;> simp [computeReadyCondition, suspended]
    -- a running Pod: `Ready` is `True` when both it and the Service are
    have readiness := podReadiness_fst_eq_true_iff ⟨.running, podConditions, podIPs⟩
    simp only at readiness
    rw [← and_assoc, ← readiness]
    generalize (podReadiness ⟨.running, podConditions, podIPs⟩).1 = podReady
    generalize serviceRequired spec svc = required
    cases podReady <;> cases required <;> cases svc <;> simp

/-! ## After a reconcile -/

/-- What `reconcileChildResources` leaves in the status: `Ready` as computed,
`Finished` exactly for a terminated Pod, and `Suspended` as computed if it was
computed and as it was otherwise. -/
theorem reconcileConditions_spec (now : Int) (conditions : List Condition) (spec : SandboxSpec)
    (err : Option String) (svc : Bool) (pod : Option Pod) :
    let result := reconcileConditions now conditions spec err svc pod
    Carries (findStatusCondition result SandboxConditionReady) (computeReadyCondition spec err svc pod) ∧
    ((findStatusCondition result SandboxConditionFinished).isSome ↔
      ∃ p, pod = some p ∧ (p.phase = .succeeded ∨ p.phase = .failed)) ∧
    match computeSuspendedCondition spec pod with
    | some suspended => Carries (findStatusCondition result SandboxConditionSuspended) suspended
    | none => findStatusCondition result SandboxConditionSuspended =
        findStatusCondition conditions SandboxConditionSuspended := by
  dsimp only
  have distinct := nodup_computeConditions_types spec err svc pod
  have readyNotFinished : SandboxConditionReady ≠ SandboxConditionFinished := by decide
  have suspendedNotFinished : SandboxConditionSuspended ≠ SandboxConditionFinished := by decide
  refine ⟨?_, ?_, ?_⟩
  · -- `Ready` is always computed
    have carried := findStatusCondition_foldl_set_of_mem now _ distinct (computeReadyCondition spec err svc pod)
      (by simp [computeConditions]) conditions
    rw [computeReadyCondition_type] at carried
    rwa [reconcileConditions, findStatusCondition_writeConditions_of_ne _ _ _ readyNotFinished]
  · -- `Finished` is written when computed and removed otherwise
    rw [← computeFinishedCondition_isSome_iff, reconcileConditions, writeConditions_eq,
      any_computeConditions_finished]
    cases finished : computeFinishedCondition pod with
    | none => simp
    | some c =>
      have carried := findStatusCondition_foldl_set_of_mem now _ distinct c
        (by simp [computeConditions, finished]) conditions
      rw [computeFinishedCondition_type finished] at carried
      obtain ⟨found, written, -⟩ := carried
      simp [written]
  · rw [reconcileConditions, findStatusCondition_writeConditions_of_ne _ _ _ suspendedNotFinished]
    cases suspended : computeSuspendedCondition spec pod with
    | some c =>
      have carried := findStatusCondition_foldl_set_of_mem now _ distinct c
        (by simp [computeConditions, suspended]) conditions
      rwa [computeSuspendedCondition_type suspended] at carried
    | none =>
      -- no computed condition is `Suspended`, so it is left as it was
      refine findStatusCondition_foldl_set_of_not_mem now _ (fun c member => ?_) conditions
      simp only [computeConditions, suspended, Option.toList_none, List.nil_append, List.mem_append,
        Option.mem_toList, List.mem_singleton] at member
      rcases member with finished | rfl
      · rw [computeFinishedCondition_type finished]
        decide
      · rw [computeReadyCondition_type]
        decide

theorem reconcileConditions_suspended_of_running (now : Int) (conditions : List Condition) {spec : SandboxSpec}
    (err : Option String) (svc : Bool) (pod : Option Pod) (running : spec.operatingMode = .running) :
    findStatusCondition (reconcileConditions now conditions spec err svc pod) SandboxConditionSuspended =
      findStatusCondition conditions SandboxConditionSuspended := by
  have notComputed : computeSuspendedCondition spec pod = none := by
    simp [computeSuspendedCondition, running]
  have suspended := (reconcileConditions_spec now conditions spec err svc pod).2.2
  rwa [notComputed] at suspended

theorem reconcileConditions_not_ready_of_finished (now : Int) (conditions : List Condition) (spec : SandboxSpec)
    (err : Option String) (svc : Bool) (pod : Option Pod) :
    let result := reconcileConditions now conditions spec err svc pod
    (findStatusCondition result SandboxConditionFinished).isSome →
      ∀ ready, findStatusCondition result SandboxConditionReady = some ready → ready.status ≠ .conditionTrue := by
  intro result finished ready found readyTrue
  obtain ⟨carried, terminated, -⟩ := reconcileConditions_spec now conditions spec err svc pod
  obtain ⟨p, rfl, phase⟩ := terminated.mp finished
  obtain ⟨c, written, sameStatus, -⟩ := carried
  have same : c = ready := Option.some_inj.mp (written.symm.trans found)
  have computedTrue : (computeReadyCondition spec err svc (some p)).status = .conditionTrue := by
    rw [← sameStatus, same, readyTrue]
  obtain ⟨-, -, q, same, running, -⟩ := (computeReadyCondition_status_eq_true_iff _ _ _ _).mp computedTrue
  cases Option.some_inj.mp same
  rcases phase with succeeded | failed
  · rw [running] at succeeded
    cases succeeded
  · rw [running] at failed
    cases failed

/-! ## Runs -/

/-- What one `reconcileChildResources` observes: the time, the spec, the
joined error, whether the Service exists, and the Pod. -/
structure Observation where
  now : Int
  spec : SandboxSpec
  err : Option String
  svc : Bool
  pod : Option Pod

/-- The status conditions after a run of reconciles. -/
def runConditions (conditions : List Condition) (run : List Observation) : List Condition :=
  run.foldl (fun current o => reconcileConditions o.now current o.spec o.err o.svc o.pod) conditions

/-- A run in which the Sandbox never is suspended leaves `Suspended` as it
was; induction on the run, one reconcile per step. -/
theorem runConditions_suspended_of_running (run : List Observation)
    (running : ∀ o ∈ run, o.spec.operatingMode = .running) :
    ∀ conditions, findStatusCondition (runConditions conditions run) SandboxConditionSuspended =
      findStatusCondition conditions SandboxConditionSuspended := by
  induction run with
  | nil => intro conditions; rfl
  | cons o rest ih =>
    intro conditions
    rw [runConditions, List.foldl_cons, ← runConditions,
      ih (fun o' member => running o' (.tail o member)),
      reconcileConditions_suspended_of_running _ _ _ _ _ (running o (.head rest))]

/-- A Sandbox created suspended, with no Pod, then resumed: its new Pod is
created and then becomes ready with an IP. -/
def resumedSandbox : List Observation :=
  [⟨0, ⟨.suspended, none⟩, none, false, none⟩,
   ⟨1, ⟨.running, none⟩, none, false, some ⟨.pending, [], []⟩⟩,
   ⟨2, ⟨.running, none⟩, none, false, some ⟨.running, [⟨PodReady, .conditionTrue⟩], ["10.0.0.7"]⟩⟩]

/-- After the run, the status has `Ready=True` and still `Suspended=True`. -/
theorem resumedSandbox_readyWhileSuspended :
    (findStatusCondition (runConditions [] resumedSandbox) SandboxConditionReady).map (·.status) =
        some .conditionTrue ∧
      (findStatusCondition (runConditions [] resumedSandbox) SandboxConditionSuspended).map (·.status) =
        some .conditionTrue := by
  decide

end AgentSandbox.Controller
