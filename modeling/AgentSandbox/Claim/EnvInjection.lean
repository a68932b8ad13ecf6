import AgentSandbox.Lib.GoErrors
import AgentSandbox.Lib.KeyedList

/-! # Injecting a claim's environment variables

Model of `injectEnvs` and of the block of `createSandbox` that injects a
SandboxClaim's `Env` into the pod spec copied from its template, in
`extensions/controllers/sandboxclaim_controller.go`.  A claim variable names
its container, or names none and goes to `Containers[0]` after that
container's own variables.  Under `Allowed` a variable may only add a name;
under `Overrides` it overwrites the entry of its name in place.

The logger and the claim's name, which the functions only log, are left out,
and so are the fields of `corev1.Container` that injection neither reads nor
writes.

`injectClaimEnvs_spec`: a non-empty claim env list is rejected exactly for a
policy other than `Allowed` and `Overrides`, a container that does not exist,
or under `Allowed` a name clash or an `EnvFrom` in a container it targets;
what it returns is the template's env with the claim's appended (`Allowed`) or
upserted by name (`Overrides`).  An empty list is never rejected
(`injectClaimEnvs_nil`). -/

set_option autoImplicit false

namespace AgentSandbox.Claim

open GoErrors KeyedList

def EnvVarsInjectionPolicyAllowed : String := "Allowed"

def EnvVarsInjectionPolicyOverrides : String := "Overrides"

def EnvVarsInjectionPolicyDisallowed : String := "Disallowed"

/-- `corev1.EnvVar`; `valueFrom` stands for its `EnvVarSource`, which the code
only drops. -/
structure EnvVar where
  name : String
  value : String
  valueFrom : Option String
deriving DecidableEq, Repr

/-- `extensionsv1beta1.EnvVar`, a variable a claim asks for. -/
structure ClaimEnvVar where
  name : String
  value : String
  containerName : String
deriving DecidableEq, Repr

/-- `corev1.EnvVar{Name: claimEnv.Name, Value: claimEnv.Value}`. -/
def ClaimEnvVar.toEnvVar (claimEnv : ClaimEnvVar) : EnvVar := ⟨claimEnv.name, claimEnv.value, none⟩

@[simp] theorem ClaimEnvVar.name_toEnvVar (claimEnv : ClaimEnvVar) : claimEnv.toEnvVar.name = claimEnv.name := rfl

/-- The fields of `corev1.Container` that injection reads or writes; the
`EnvFromSource`s are only counted. -/
structure Container where
  name : String
  env : List EnvVar
  envFrom : List String
deriving DecidableEq, Repr

structure PodSpec where
  initContainers : List Container
  containers : List Container
deriving DecidableEq, Repr

inductive EnvInjectionError
  /-- `%w: environment variable injection is not allowed by the template
  policy`, wrapping `ErrEnvVarsInjectionRejected` -/
  | policyRejected
  /-- `target container %q not found in template for environment variable %q` -/
  | containerNotFound (containerName envName : String)
  /-- `%w: container %q uses EnvFrom sources; Allowed policy cannot safely
  prevent overriding EnvFrom-provided variables`, wrapping
  `ErrEnvVarsInjectionRejected` -/
  | envFromRejected (containerName : String)
  /-- `environment variable override is not allowed by the template policy for
  variable %q` -/
  | overrideRejected (envName : String)
deriving DecidableEq, Repr

/-! ## `injectEnvs` -/

/-- One pass of the loop of `injectEnvs`: search the container's env for the
claim variable's name, then overwrite that entry or append. -/
def injectEnv (policy : String) (env : List EnvVar) (claimEnv : ClaimEnvVar) :
    Except EnvInjectionError (List EnvVar) :=
  match env.findIdx? (·.name == claimEnv.name) with
  | some existingIdx =>
      if policy ≠ EnvVarsInjectionPolicyOverrides then throw (.overrideRejected claimEnv.name)
      else pure (env.set existingIdx claimEnv.toEnvVar)
  | none => pure (env ++ [claimEnv.toEnvVar])

def injectEnvs (container : Container) (envsToInject : List ClaimEnvVar) (policy : String) :
    Except EnvInjectionError Container := do
  if policy = EnvVarsInjectionPolicyAllowed ∧ container.envFrom.length > 0 then
    throw (.envFromRejected container.name)
  let env ← envsToInject.foldlM (injectEnv policy) container.env
  pure { container with env }

/-! ## The env block of `createSandbox` -/

abbrev EnvsByContainer := String → Option (List ClaimEnvVar)

/-- The body of the grouping loop.  `envsByContainer` is a Go map that is only
indexed and appended to, so it is a function. -/
def groupEnv (grouped : EnvsByContainer × List ClaimEnvVar) (env : ClaimEnvVar) :
    EnvsByContainer × List ClaimEnvVar :=
  if env.containerName = "" then (grouped.1, grouped.2 ++ [env])
  else
    (Function.update grouped.1 env.containerName (some ((grouped.1 env.containerName).getD [] ++ [env])),
      grouped.2)

/-- `envsByContainer` and `defaultEnvs`. -/
def groupEnvs (env : List ClaimEnvVar) : EnvsByContainer × List ClaimEnvVar :=
  env.foldl groupEnv (fun _ => none, [])

/-- `allContainerNames`, a Go set, as the list of its members. -/
def allContainerNames (spec : PodSpec) : List String :=
  spec.initContainers.map (·.name) ++ spec.containers.map (·.name)

/-- The check that every targeted container exists.  Go ranges over
`envsByContainer` in no fixed order and reports a missing container with its
first variable; the model visits the claim's variables in order, so it reports
the first missing container the claim names, with its first variable. -/
def validateTargets (spec : PodSpec) (env : List ClaimEnvVar) : Except EnvInjectionError Unit :=
  env.forM fun e =>
    if e.containerName ≠ "" ∧ e.containerName ∉ allContainerNames spec then
      throw (.containerNotFound e.containerName e.name)
    else pure ()

def injectInitContainer (policy : String) (envsByContainer : EnvsByContainer) (container : Container) :
    Except EnvInjectionError Container :=
  match envsByContainer container.name with
  | some envs => injectEnvs container envs policy
  | none => pure container

def injectInitContainers (policy : String) (envsByContainer : EnvsByContainer)
    (initContainers : List Container) : Except EnvInjectionError (List Container) :=
  initContainers.mapM (injectInitContainer policy envsByContainer)

/-- The body of the loop over `Containers`, at index `i`: the default
variables go to the first container. -/
def injectContainer (policy : String) (envsByContainer : EnvsByContainer) (defaultEnvs : List ClaimEnvVar)
    (entry : Container × Nat) : Except EnvInjectionError Container :=
  let envsToInject := (envsByContainer entry.1.name).getD [] ++ if entry.2 = 0 then defaultEnvs else []
  if envsToInject.length > 0 then injectEnvs entry.1 envsToInject policy else pure entry.1

def injectContainers (policy : String) (envsByContainer : EnvsByContainer) (defaultEnvs : List ClaimEnvVar)
    (containers : List Container) : Except EnvInjectionError (List Container) :=
  containers.zipIdx.mapM (injectContainer policy envsByContainer defaultEnvs)

/-- The block of `createSandbox` under `if len(claim.Spec.Env) > 0`, on the
pod spec copied from the template. -/
def injectClaimEnvs (env : List ClaimEnvVar) (policy : String) (spec : PodSpec) :
    Except EnvInjectionError PodSpec :=
  if env.length > 0 then do
    if policy ≠ EnvVarsInjectionPolicyAllowed ∧ policy ≠ EnvVarsInjectionPolicyOverrides then
      throw .policyRejected
    let grouped := groupEnvs env
    validateTargets spec env
    let initContainers ← injectInitContainers policy grouped.1 spec.initContainers
    let containers ← injectContainers policy grouped.1 grouped.2 spec.containers
    pure { initContainers, containers }
  else pure spec

/-! ## What the block promises

Each container comes with the claim variables it is given: those naming it,
and for `Containers[0]` also the default ones, after its own. -/

/-- `envsByContainer[name]`, in claim order. -/
def envsFor (env : List ClaimEnvVar) (name : String) : List ClaimEnvVar :=
  env.filter fun e => e.containerName ≠ "" ∧ e.containerName = name

def defaultEnvsOf (env : List ClaimEnvVar) : List ClaimEnvVar :=
  env.filter (·.containerName = "")

def initTargets (env : List ClaimEnvVar) (spec : PodSpec) : List (Container × List ClaimEnvVar) :=
  spec.initContainers.map fun c => (c, envsFor env c.name)

def containerTargets (env : List ClaimEnvVar) (spec : PodSpec) : List (Container × List ClaimEnvVar) :=
  match spec.containers with
  | [] => []
  | first :: rest =>
      (first, envsFor env first.name ++ defaultEnvsOf env) :: rest.map fun c => (c, envsFor env c.name)

def targets (env : List ClaimEnvVar) (spec : PodSpec) : List (Container × List ClaimEnvVar) :=
  initTargets env spec ++ containerTargets env spec

/-- A claim variable meets a name already in its container: there in the
template, or injected before it. -/
def Collides : List EnvVar → List ClaimEnvVar → Prop
  | _, [] => False
  | env, e :: rest => e.name ∈ env.map (·.name) ∨ Collides (env ++ [e.toEnvVar]) rest

instance instDecidableCollides : (env : List EnvVar) → (envsToInject : List ClaimEnvVar) →
    Decidable (Collides env envsToInject)
  | _, [] => inferInstanceAs (Decidable False)
  | env, e :: rest =>
      have := instDecidableCollides (env ++ [e.toEnvVar]) rest
      inferInstanceAs (Decidable (_ ∨ _))

/-- What `createSandbox` rejects in a non-empty claim env list. -/
def InjectionRejected (env : List ClaimEnvVar) (policy : String) (spec : PodSpec) : Prop :=
  (policy ≠ EnvVarsInjectionPolicyAllowed ∧ policy ≠ EnvVarsInjectionPolicyOverrides) ∨
    (∃ e ∈ env, e.containerName ≠ "" ∧ e.containerName ∉ allContainerNames spec) ∨
    (policy = EnvVarsInjectionPolicyAllowed ∧
      ∃ t ∈ targets env spec, t.2 ≠ [] ∧ (t.1.envFrom ≠ [] ∨ Collides t.1.env t.2))

/-- `Allowed`: the template's env, then the claim's variables. -/
def Appended (template : List EnvVar) (envsToInject : List ClaimEnvVar) (env : List EnvVar) : Prop :=
  env = template ++ envsToInject.map ClaimEnvVar.toEnvVar

/-- `Overrides`: one entry per name, each name the claim sets holding its last
variable of that name, and the entries of other names as in the template. -/
structure Overridden (template : List EnvVar) (envsToInject : List ClaimEnvVar) (env : List EnvVar) : Prop where
  nodup : (env.map (·.name)).Nodup
  last : ∀ n ∈ envsToInject.map (·.name),
    env.find? (·.name = n) = ((envsToInject.filter (·.name = n)).getLast?).map ClaimEnvVar.toEnvVar
  untouched : env.filter (·.name ∉ envsToInject.map (·.name)) =
    template.filter (·.name ∉ envsToInject.map (·.name))

/-- `result` has one container for each target, in order, related to it by
`R`. -/
def TargetsRelated (R : Container × List ClaimEnvVar → Container → Prop) (env : List ClaimEnvVar)
    (spec result : PodSpec) : Prop :=
  List.Forall₂ R (initTargets env spec) result.initContainers ∧
    List.Forall₂ R (containerTargets env spec) result.containers

/-- Each container of `result` is its template container changed only in its
env, which `injected` relates to the template's and the variables it is
given. -/
def EnvsInjected (injected : List EnvVar → List ClaimEnvVar → List EnvVar → Prop) (env : List ClaimEnvVar)
    (spec result : PodSpec) : Prop :=
  TargetsRelated (fun t c => c = { t.1 with env := c.env } ∧ injected t.1.env t.2 c.env) env spec result

/-! ## The loop of `injectEnvs` -/

section Loop

variable {policy : String}

/-- Outside `Overrides` a variable whose name is there is rejected, and any
other is appended. -/
theorem injectEnv_eq_ok_iff (notOverrides : policy ≠ EnvVarsInjectionPolicyOverrides) {env : List EnvVar}
    {claimEnv : ClaimEnvVar} {r : List EnvVar} :
    injectEnv policy env claimEnv = .ok r ↔
      claimEnv.name ∉ env.map (·.name) ∧ r = env ++ [claimEnv.toEnvVar] := by
  unfold injectEnv
  split
  · next existingIdx found =>
      obtain ⟨bound, hit, -⟩ := List.findIdx?_eq_some_iff_getElem.mp found
      have present : claimEnv.name ∈ env.map (·.name) :=
        List.mem_map.mpr ⟨_, List.getElem_mem bound, by simpa using hit⟩
      simp [notOverrides, present, throw, throwThe, MonadExceptOf.throw]
  · next missing =>
      have absent : claimEnv.name ∉ env.map (·.name) := by
        simpa [List.findIdx?_eq_none_iff] using missing
      simp only [pure_eq_ok]
      simp [absent, eq_comm]

theorem injectEnv_overrides (env : List EnvVar) (claimEnv : ClaimEnvVar) :
    injectEnv EnvVarsInjectionPolicyOverrides env claimEnv =
      .ok (upsertBy EnvVar.name env claimEnv.toEnvVar) := by
  rw [upsertBy_eq_findIdx?, ClaimEnvVar.name_toEnvVar]
  unfold injectEnv
  cases env.findIdx? (·.name == claimEnv.name) <;> simp

theorem foldlM_injectEnv_eq_ok_iff (notOverrides : policy ≠ EnvVarsInjectionPolicyOverrides)
    (envsToInject : List ClaimEnvVar) {env r : List EnvVar} :
    envsToInject.foldlM (injectEnv policy) env = .ok r ↔
      ¬Collides env envsToInject ∧ r = env ++ envsToInject.map ClaimEnvVar.toEnvVar := by
  induction envsToInject generalizing env with
  | nil => simp [Collides, pure, Except.pure, eq_comm]
  | cons e rest ih =>
      -- the variable is appended, and the rest of the loop runs on the longer env
      rw [List.foldlM_cons, bind_eq_ok]
      simp only [injectEnv_eq_ok_iff notOverrides, ih, Collides]
      constructor
      · rintro ⟨_, ⟨fresh, rfl⟩, clear, rfl⟩
        exact ⟨not_or.mpr ⟨fresh, clear⟩, by simp⟩
      · rintro ⟨collides, rfl⟩
        obtain ⟨fresh, clear⟩ := not_or.mp collides
        exact ⟨_, ⟨fresh, rfl⟩, clear, by simp⟩

theorem foldlM_injectEnv_overrides (envsToInject : List ClaimEnvVar) (env : List EnvVar) :
    envsToInject.foldlM (injectEnv EnvVarsInjectionPolicyOverrides) env =
      .ok ((envsToInject.map ClaimEnvVar.toEnvVar).foldl (upsertBy EnvVar.name) env) := by
  induction envsToInject generalizing env with
  | nil => rfl
  | cons e rest ih =>
      rw [List.foldlM_cons, injectEnv_overrides]
      exact ih _

theorem injectEnvs_allowed_eq_ok_iff {container : Container} {envsToInject : List ClaimEnvVar}
    {result : Container} :
    injectEnvs container envsToInject EnvVarsInjectionPolicyAllowed = .ok result ↔
      container.envFrom = [] ∧ ¬Collides container.env envsToInject ∧
        result = { container with env := container.env ++ envsToInject.map ClaimEnvVar.toEnvVar } := by
  have notOverrides : EnvVarsInjectionPolicyAllowed ≠ EnvVarsInjectionPolicyOverrides := by decide
  unfold injectEnvs
  by_cases noSources : container.envFrom = []
  · simp only [noSources, List.length_nil, true_and, gt_iff_lt, Nat.lt_irrefl, if_false]
    simp only [bind_eq_ok, foldlM_injectEnv_eq_ok_iff notOverrides, pure_eq_ok]
    constructor
    · rintro ⟨_, ⟨clear, rfl⟩, rfl⟩
      exact ⟨clear, rfl⟩
    · rintro ⟨clear, rfl⟩
      exact ⟨_, ⟨clear, rfl⟩, rfl⟩
  · have counted : container.envFrom.length > 0 := List.length_pos_iff.mpr noSources
    simp [noSources, counted, throw, throwThe, MonadExceptOf.throw]

theorem injectEnvs_overrides (container : Container) (envsToInject : List ClaimEnvVar) :
    injectEnvs container envsToInject EnvVarsInjectionPolicyOverrides =
      .ok { container with
        env := (envsToInject.map ClaimEnvVar.toEnvVar).foldl (upsertBy EnvVar.name) container.env } := by
  have notAllowed : EnvVarsInjectionPolicyOverrides ≠ EnvVarsInjectionPolicyAllowed := by decide
  simp only [injectEnvs, notAllowed, false_and, if_false, foldlM_injectEnv_overrides]
  rfl

end Loop

/-! ## The loops of `createSandbox` over the containers

Both loops run one body on a container and the variables it is given. -/

def injectTarget (policy : String) (target : Container × List ClaimEnvVar) :
    Except EnvInjectionError Container :=
  if target.2.length > 0 then injectEnvs target.1 target.2 policy else pure target.1

section Targets

variable {policy : String}

@[simp] theorem injectTarget_nil (container : Container) : injectTarget policy (container, []) = .ok container := rfl

theorem injectTarget_allowed_eq_ok_iff {t : Container × List ClaimEnvVar} {result : Container} :
    injectTarget EnvVarsInjectionPolicyAllowed t = .ok result ↔
      ¬(t.2 ≠ [] ∧ (t.1.envFrom ≠ [] ∨ Collides t.1.env t.2)) ∧
        result = { t.1 with env := t.1.env ++ t.2.map ClaimEnvVar.toEnvVar } := by
  obtain ⟨container, envsToInject⟩ := t
  cases envsToInject with
  | nil => simp [eq_comm]
  | cons e rest =>
      simp only [injectTarget, List.length_cons, gt_iff_lt, Nat.zero_lt_succ, if_true,
        injectEnvs_allowed_eq_ok_iff]
      simp [and_assoc]

theorem injectTarget_allowed_eq_error_iff (t : Container × List ClaimEnvVar) :
    (∃ err, injectTarget EnvVarsInjectionPolicyAllowed t = .error err) ↔
      t.2 ≠ [] ∧ (t.1.envFrom ≠ [] ∨ Collides t.1.env t.2) := by
  rw [exists_eq_error_iff]
  simp only [ne_eq, injectTarget_allowed_eq_ok_iff]
  constructor
  · intro never
    by_contra clean
    exact never _ ⟨clean, rfl⟩
  · rintro blocked _ ⟨clean, -⟩
    exact clean blocked

theorem injectTarget_overrides (t : Container × List ClaimEnvVar) :
    injectTarget EnvVarsInjectionPolicyOverrides t =
      .ok { t.1 with env := (t.2.map ClaimEnvVar.toEnvVar).foldl (upsertBy EnvVar.name) t.1.env } := by
  obtain ⟨container, envsToInject⟩ := t
  cases envsToInject with
  | nil => rfl
  | cons e rest => exact injectEnvs_overrides container (e :: rest)

end Targets

/-! ## Grouping the claim's variables -/

theorem foldl_groupEnv_snd (env : List ClaimEnvVar) (grouped : EnvsByContainer × List ClaimEnvVar) :
    (env.foldl groupEnv grouped).2 = grouped.2 ++ defaultEnvsOf env := by
  induction env generalizing grouped with
  | nil => simp [defaultEnvsOf]
  | cons e rest ih =>
      rw [List.foldl_cons, ih]
      by_cases unnamed : e.containerName = "" <;> simp [groupEnv, defaultEnvsOf, unnamed]

theorem foldl_groupEnv_fst (env : List ClaimEnvVar) (grouped : EnvsByContainer × List ClaimEnvVar)
    (name : String) :
    (env.foldl groupEnv grouped).1 name =
      if envsFor env name = [] then grouped.1 name else some ((grouped.1 name).getD [] ++ envsFor env name) := by
  induction env generalizing grouped with
  | nil => simp [envsFor]
  | cons e rest ih =>
      rw [List.foldl_cons, ih]
      by_cases unnamed : e.containerName = ""
      · simp [groupEnv, envsFor, unnamed]
      · -- a named variable is appended under its container's name only
        by_cases aimed : e.containerName = name
        · subst aimed
          simp [groupEnv, envsFor, unnamed]
        · simp [groupEnv, envsFor, unnamed, aimed, Function.update_of_ne (Ne.symm aimed)]

theorem groupEnvs_fst (env : List ClaimEnvVar) (name : String) :
    (groupEnvs env).1 name = if envsFor env name = [] then none else some (envsFor env name) := by
  simp [groupEnvs, foldl_groupEnv_fst]

theorem groupEnvs_snd (env : List ClaimEnvVar) : (groupEnvs env).2 = defaultEnvsOf env := by
  simp [groupEnvs, foldl_groupEnv_snd]

section Loops

variable (policy : String) (env : List ClaimEnvVar)

theorem injectInitContainer_groupEnvs (container : Container) :
    injectInitContainer policy (groupEnvs env).1 container = injectTarget policy (container, envsFor env container.name) := by
  unfold injectInitContainer injectTarget
  rw [groupEnvs_fst]
  by_cases none : envsFor env container.name = []
  · simp [none]
  · simp [none, List.length_pos_iff]

theorem injectContainer_groupEnvs (container : Container) (i : Nat) :
    injectContainer policy (groupEnvs env).1 (groupEnvs env).2 (container, i) =
      injectTarget policy (container, envsFor env container.name ++ if i = 0 then defaultEnvsOf env else []) := by
  unfold injectContainer injectTarget
  rw [groupEnvs_fst, groupEnvs_snd]
  by_cases none : envsFor env container.name = [] <;> simp [none]

theorem injectInitContainers_groupEnvs (spec : PodSpec) :
    injectInitContainers policy (groupEnvs env).1 spec.initContainers = (initTargets env spec).mapM (injectTarget policy) := by
  unfold injectInitContainers initTargets
  rw [List.mapM_map]
  congr 1
  funext container
  exact injectInitContainer_groupEnvs policy env container

theorem mapM_zipIdx_injectContainer (containers : List Container) (k : Nat) :
    (containers.zipIdx (k + 1)).mapM (injectContainer policy (groupEnvs env).1 (groupEnvs env).2) =
      (containers.map fun c => (c, envsFor env c.name)).mapM (injectTarget policy) := by
  induction containers generalizing k with
  | nil => rfl
  | cons c rest ih =>
      rw [List.zipIdx_cons, List.mapM_cons, List.map_cons, List.mapM_cons, ih, injectContainer_groupEnvs]
      simp

theorem injectContainers_groupEnvs (spec : PodSpec) :
    injectContainers policy (groupEnvs env).1 (groupEnvs env).2 spec.containers =
      (containerTargets env spec).mapM (injectTarget policy) := by
  unfold injectContainers containerTargets
  cases spec.containers with
  | nil => rfl
  | cons first rest =>
      rw [List.zipIdx_cons, List.mapM_cons, List.mapM_cons, mapM_zipIdx_injectContainer,
        injectContainer_groupEnvs]
      simp

end Loops

/-! ## The block -/

section Block

variable {env : List ClaimEnvVar} {policy : String} {spec : PodSpec}

theorem injectClaimEnvs_nil (policy : String) (spec : PodSpec) : injectClaimEnvs [] policy spec = .ok spec := rfl

theorem validateTargets_eq_ok_iff :
    validateTargets spec env = .ok () ↔
      ∀ e ∈ env, e.containerName ≠ "" → e.containerName ∈ allContainerNames spec := by
  unfold validateTargets
  rw [forM_eq_ok]
  refine forall₂_congr fun e _ => ?_
  by_cases missing : e.containerName ≠ "" ∧ e.containerName ∉ allContainerNames spec
  · simp [missing, throw, throwThe, MonadExceptOf.throw]
  · simp only [missing, if_false]
    simpa using missing

/-- Past the policy check, the block is the two loops with the body on each
target. -/
theorem injectClaimEnvs_of_ne_nil (nonempty : env ≠ []) :
    injectClaimEnvs env policy spec = (do
      if policy ≠ EnvVarsInjectionPolicyAllowed ∧ policy ≠ EnvVarsInjectionPolicyOverrides then
        throw .policyRejected
      validateTargets spec env
      let initContainers ← (initTargets env spec).mapM (injectTarget policy)
      let containers ← (containerTargets env spec).mapM (injectTarget policy)
      pure { initContainers, containers }) := by
  rw [injectClaimEnvs, if_pos (List.length_pos_iff.mpr nonempty)]
  simp only [injectInitContainers_groupEnvs, injectContainers_groupEnvs]

theorem map_fst_targets (env : List ClaimEnvVar) (spec : PodSpec) :
    (targets env spec).map Prod.fst = spec.initContainers ++ spec.containers := by
  unfold targets initTargets containerTargets
  cases spec.containers <;> simp [Function.comp_def]

theorem targetsRelated_nil (policy : String) (spec : PodSpec) :
    TargetsRelated (fun t c => injectTarget policy t = .ok c) [] spec spec := by
  obtain ⟨initContainers, containers⟩ := spec
  -- with no claim variables every target is a container with nothing to inject
  have unchanged : ∀ cs : List Container,
      List.Forall₂ (fun t c => injectTarget policy t = .ok c) (cs.map fun c => (c, envsFor [] c.name)) cs := by
    intro cs
    rw [List.forall₂_map_left_iff, List.forall₂_same]
    intro c _
    rfl
  refine ⟨unchanged initContainers, ?_⟩
  cases containers with
  | nil => exact List.Forall₂.nil
  | cons first rest => exact List.Forall₂.cons rfl (unchanged rest)

theorem TargetsRelated.imp {R S : Container × List ClaimEnvVar → Container → Prop} {result : PodSpec}
    (h : ∀ t ∈ targets env spec, ∀ c, R t c → S t c) (related : TargetsRelated R env spec result) :
    TargetsRelated S env spec result := by
  have inInit : ∀ t ∈ initTargets env spec, ∀ c, R t c → S t c :=
    fun t mem => h t (List.mem_append_left _ mem)
  have inContainers : ∀ t ∈ containerTargets env spec, ∀ c, R t c → S t c :=
    fun t mem => h t (List.mem_append_right _ mem)
  exact ⟨((List.forall₂_and_left _ _).mpr ⟨inInit, related.1⟩).imp fun t c both => both.1 c both.2,
    ((List.forall₂_and_left _ _).mpr ⟨inContainers, related.2⟩).imp fun t c both => both.1 c both.2⟩

theorem targetsRun_of_ok {result : PodSpec} (ok : injectClaimEnvs env policy spec = .ok result) :
    TargetsRelated (fun t c => injectTarget policy t = .ok c) env spec result := by
  by_cases nonempty : env = []
  · subst nonempty
    cases (injectClaimEnvs_nil policy spec).symm.trans ok
    exact targetsRelated_nil policy spec
  rw [injectClaimEnvs_of_ne_nil nonempty] at ok
  by_cases invalid : policy ≠ EnvVarsInjectionPolicyAllowed ∧ policy ≠ EnvVarsInjectionPolicyOverrides
  · rw [if_pos invalid] at ok
    cases ok
  rw [if_neg invalid] at ok
  simp only [bind_eq_ok, pure_eq_ok, mapM_eq_ok] at ok
  obtain ⟨_, -, initContainers, inits, containers, conts, rfl⟩ := ok
  exact ⟨inits, conts⟩

theorem injectClaimEnvs_eq_error_iff :
    (∃ err, injectClaimEnvs env policy spec = .error err) ↔
      env ≠ [] ∧ ((policy ≠ EnvVarsInjectionPolicyAllowed ∧ policy ≠ EnvVarsInjectionPolicyOverrides) ∨
        (∃ e ∈ env, e.containerName ≠ "" ∧ e.containerName ∉ allContainerNames spec) ∨
        ∃ t ∈ targets env spec, ∃ err, injectTarget policy t = .error err) := by
  by_cases nonempty : env = []
  · subst nonempty
    simp [injectClaimEnvs_nil]
  by_cases invalid : policy ≠ EnvVarsInjectionPolicyAllowed ∧ policy ≠ EnvVarsInjectionPolicyOverrides
  · have rejected : ∃ err, injectClaimEnvs env policy spec = .error err := by
      rw [injectClaimEnvs_of_ne_nil nonempty, if_pos invalid]
      exact ⟨_, rfl⟩
    exact iff_of_true rejected ⟨nonempty, .inl invalid⟩
  by_cases found : ∀ e ∈ env, e.containerName ≠ "" → e.containerName ∈ allContainerNames spec
  · -- the checks pass; the block fails exactly when one of the loops does
    have noneMissing : ¬∃ e ∈ env, e.containerName ≠ "" ∧ e.containerName ∉ allContainerNames spec := by
      simpa using found
    have loops : (∃ err, injectClaimEnvs env policy spec = .error err) ↔
        (∃ err, (initTargets env spec).mapM (injectTarget policy) = .error err) ∨
          ∃ err, (containerTargets env spec).mapM (injectTarget policy) = .error err := by
      rw [injectClaimEnvs_of_ne_nil nonempty, if_neg invalid, validateTargets_eq_ok_iff.mpr found]
      exact exists_pair_eq_error
    rw [loops, mapM_eq_error, mapM_eq_error, targets]
    simp only [List.mem_append, or_and_right, exists_or, ne_eq, nonempty, not_false_eq_true, invalid,
      noneMissing, true_and, false_or]
  · have missing : ∃ e ∈ env, e.containerName ≠ "" ∧ e.containerName ∉ allContainerNames spec := by
      simpa using found
    obtain ⟨err, failed⟩ := exists_eq_error_iff.mpr fun _ ok => found (validateTargets_eq_ok_iff.mp ok)
    have rejected : ∃ err, injectClaimEnvs env policy spec = .error err := by
      rw [injectClaimEnvs_of_ne_nil nonempty, if_neg invalid, failed]
      exact ⟨_, rfl⟩
    exact iff_of_true rejected ⟨nonempty, .inr (.inl missing)⟩

end Block

/-! ## What each target gets -/

theorem overridden_foldl_upsertBy {template : List EnvVar} (nodup : (template.map (·.name)).Nodup)
    (envsToInject : List ClaimEnvVar) :
    Overridden template envsToInject
      ((envsToInject.map ClaimEnvVar.toEnvVar).foldl (upsertBy EnvVar.name) template) := by
  have names : (envsToInject.map ClaimEnvVar.toEnvVar).map EnvVar.name = envsToInject.map (·.name) := by
    simp [Function.comp_def]
  refine ⟨nodup_foldl_upsertBy _ nodup, fun n mem => ?_, ?_⟩
  · have written : n ∈ (envsToInject.map ClaimEnvVar.toEnvVar).map EnvVar.name := names ▸ mem
    rw [find?_foldl_upsertBy_of_mem template written, List.filter_map, List.getLast?_map]
    rfl
  · have kept := filter_foldl_upsertBy EnvVar.name (envsToInject.map ClaimEnvVar.toEnvVar) template
    rwa [names] at kept

theorem appended_of_injectTarget {t : Container × List ClaimEnvVar} {c : Container}
    (run : injectTarget EnvVarsInjectionPolicyAllowed t = .ok c) :
    c = { t.1 with env := c.env } ∧ Appended t.1.env t.2 c.env := by
  obtain ⟨-, rfl⟩ := injectTarget_allowed_eq_ok_iff.mp run
  exact ⟨rfl, rfl⟩

theorem overridden_of_injectTarget {t : Container × List ClaimEnvVar} {c : Container}
    (nodup : (t.1.env.map (·.name)).Nodup) (run : injectTarget EnvVarsInjectionPolicyOverrides t = .ok c) :
    c = { t.1 with env := c.env } ∧ Overridden t.1.env t.2 c.env := by
  rw [injectTarget_overrides, Except.ok.injEq] at run
  subst run
  exact ⟨rfl, overridden_foldl_upsertBy nodup t.2⟩

/-- Among valid policies, only `Allowed` rejects a target, for a clash or an
`EnvFrom`. -/
theorem exists_injectTarget_eq_error_iff {policy : String}
    (valid : policy = EnvVarsInjectionPolicyAllowed ∨ policy = EnvVarsInjectionPolicyOverrides)
    (ts : List (Container × List ClaimEnvVar)) :
    (∃ t ∈ ts, ∃ err, injectTarget policy t = .error err) ↔
      policy = EnvVarsInjectionPolicyAllowed ∧ ∃ t ∈ ts, t.2 ≠ [] ∧ (t.1.envFrom ≠ [] ∨ Collides t.1.env t.2) := by
  rcases valid with rfl | rfl
  · simp only [injectTarget_allowed_eq_error_iff, true_and]
  · have notAllowed : EnvVarsInjectionPolicyOverrides ≠ EnvVarsInjectionPolicyAllowed := by decide
    simp [injectTarget_overrides, notAllowed]

theorem injectClaimEnvs_spec (env : List ClaimEnvVar) (policy : String) (spec : PodSpec)
    (distinct : ∀ c ∈ spec.initContainers ++ spec.containers, (c.env.map (·.name)).Nodup) :
    ((∃ err, injectClaimEnvs env policy spec = .error err) ↔ env ≠ [] ∧ InjectionRejected env policy spec) ∧
      ∀ result, injectClaimEnvs env policy spec = .ok result →
        (policy = EnvVarsInjectionPolicyAllowed → EnvsInjected Appended env spec result) ∧
          (policy = EnvVarsInjectionPolicyOverrides → EnvsInjected Overridden env spec result) := by
  refine ⟨?_, fun result ok => ⟨fun allowed => ?_, fun overrides => ?_⟩⟩
  · rw [injectClaimEnvs_eq_error_iff, InjectionRejected]
    by_cases valid : policy = EnvVarsInjectionPolicyAllowed ∨ policy = EnvVarsInjectionPolicyOverrides
    · rw [exists_injectTarget_eq_error_iff valid]
    · -- an unknown policy is rejected before anything else is looked at
      have invalid : policy ≠ EnvVarsInjectionPolicyAllowed ∧ policy ≠ EnvVarsInjectionPolicyOverrides := by
        simpa [not_or] using valid
      simp [invalid]
  · subst allowed
    exact (targetsRun_of_ok ok).imp fun t _ c run => appended_of_injectTarget run
  · subst overrides
    have nodup : ∀ t ∈ targets env spec, (t.1.env.map (·.name)).Nodup := fun t mem =>
      distinct t.1 (map_fst_targets env spec ▸ List.mem_map_of_mem mem)
    exact (targetsRun_of_ok ok).imp fun t mem c run => overridden_of_injectTarget (nodup t mem) run

/-- A template with an init container `setup` and a container `agent` that
sets `MODE`; the claim sets `MODE` twice by default and `DEBUG` for `setup`. -/
def agentSpec : PodSpec :=
  ⟨[⟨"setup", [], []⟩], [⟨"agent", [⟨"MODE", "warm", none⟩, ⟨"PORT", "8888", none⟩], []⟩]⟩

def agentEnvs : List ClaimEnvVar := [⟨"MODE", "cold", ""⟩, ⟨"DEBUG", "1", "setup"⟩, ⟨"MODE", "hot", ""⟩]

theorem injectClaimEnvs_spec_agentOverrides :
    (∀ c ∈ agentSpec.initContainers ++ agentSpec.containers, (c.env.map (·.name)).Nodup) ∧
      injectClaimEnvs agentEnvs EnvVarsInjectionPolicyOverrides agentSpec =
        .ok ⟨[⟨"setup", [⟨"DEBUG", "1", none⟩], []⟩], [⟨"agent", [⟨"MODE", "hot", none⟩, ⟨"PORT", "8888", none⟩], []⟩]⟩ ∧
      EnvsInjected Overridden agentEnvs agentSpec
        ⟨[⟨"setup", [⟨"DEBUG", "1", none⟩], []⟩], [⟨"agent", [⟨"MODE", "hot", none⟩, ⟨"PORT", "8888", none⟩], []⟩]⟩ :=
  have distinct : ∀ c ∈ agentSpec.initContainers ++ agentSpec.containers, (c.env.map (·.name)).Nodup := by
    decide
  ⟨distinct, rfl, ((injectClaimEnvs_spec agentEnvs _ agentSpec distinct).2 _ rfl).2 rfl⟩

/-- With no claim variables the block is skipped, so a template policy of
`Disallowed` rejects nothing. -/
theorem injectClaimEnvs_emptyUnderDisallowed :
    (EnvVarsInjectionPolicyDisallowed ≠ EnvVarsInjectionPolicyAllowed ∧
        EnvVarsInjectionPolicyDisallowed ≠ EnvVarsInjectionPolicyOverrides) ∧
      injectClaimEnvs [] EnvVarsInjectionPolicyDisallowed agentSpec = .ok agentSpec :=
  ⟨by decide, rfl⟩

end AgentSandbox.Claim
