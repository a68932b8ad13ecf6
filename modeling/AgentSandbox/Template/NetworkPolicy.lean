import AgentSandbox.WarmPool.Staleness
import AgentSandbox.Controller.ServicePorts

/-!
# The shared NetworkPolicy of a SandboxTemplate

Model of `SandboxTemplateReconciler.Reconcile`, `ensureTemplateRefHashLabel` and
`buildDefaultNetworkPolicySpec` (`extensions/controllers/sandboxtemplate_controller.go`): a
program of `Resumption` against an API server that keeps every version it stored, so that a
read may be answered from an informer cache some versions behind.  `Reconcile` is cut at the
steps its comments name: the opt-out (`handleUnmanagedOptOut`), the comparison with the desired
spec and the creation (`reconcileExistingVsDesired`), and what follows the label
(`manageNetworkPolicy`).

Run alone with fresh reads, a reconcile leaves the policy as the template asks, and a second
reconcile right after it writes nothing.  Among any other threads and clients, with any stale
reads, an Update it sends applies only over a policy the template controls: the Update carries
the `resourceVersion` it read, and every stored version has its own.  The Delete of the
opt-out carries no precondition, so when the read came from a stale cache it removes whatever
policy another client put in the controlled one's place.
-/

set_option autoImplicit false

namespace AgentSandbox.Template

open Resumption
open Claim.Adoption (OwnerRef getControllerOf ApiError Answer)
open Controller (SandboxTemplateRefHashLabel)
open Controller.ServicePorts (IntOrString)
open WarmPool (SandboxTemplateRefHash NetworkPolicyManagementManaged)

def NetworkPolicyManagementUnmanaged : String := "Unmanaged"

/-! ## NetworkPolicy specs -/

structure LabelSelectorRequirement where
  key : String
  operator : String
  values : List String
deriving DecidableEq

structure LabelSelector where
  matchLabels : StrMap
  matchExpressions : List LabelSelectorRequirement
deriving DecidableEq

structure IPBlock where
  cidr : String
  except : List String
deriving DecidableEq

structure NetworkPolicyPeer where
  podSelector : Option LabelSelector
  namespaceSelector : Option LabelSelector
  ipBlock : Option IPBlock
deriving DecidableEq

structure NetworkPolicyPort where
  protocol : Option String
  port : Option IntOrString
  endPort : Option Int
deriving DecidableEq

structure NetworkPolicyIngressRule where
  ports : List NetworkPolicyPort
  «from» : List NetworkPolicyPeer
deriving DecidableEq

structure NetworkPolicyEgressRule where
  ports : List NetworkPolicyPort
  «to» : List NetworkPolicyPeer
deriving DecidableEq

inductive PolicyType
  | ingress
  | egress
deriving DecidableEq, Repr

structure NetworkPolicySpec where
  podSelector : LabelSelector
  ingress : List NetworkPolicyIngressRule
  egress : List NetworkPolicyEgressRule
  policyTypes : List PolicyType
deriving DecidableEq

/-- `extensionsv1beta1.NetworkPolicySpec`: the rules a template gives. -/
structure TemplateNetworkPolicySpec where
  ingress : List NetworkPolicyIngressRule
  egress : List NetworkPolicyEgressRule
deriving DecidableEq

/-- `equality.Semantic.DeepEqual` on NetworkPolicy specs: any reflexive test. -/
structure DeepEqual where
  spec : NetworkPolicySpec → NetworkPolicySpec → Bool
  spec_refl : ∀ s, spec s s = true

/-- Structural equality, the finest reflexive test. -/
def DeepEqual.structural : DeepEqual := ⟨(· == ·), fun _ => beq_self_eq_true _⟩

def buildDefaultNetworkPolicySpec (templateName : String) : NetworkPolicySpec :=
  let peers : List NetworkPolicyPeer :=
    [{ namespaceSelector := some ⟨(∅ : StrMap).set "kubernetes.io/metadata.name" "agent-sandbox-system", []⟩
       podSelector := some ⟨(∅ : StrMap).set "app" "sandbox-router", []⟩
       ipBlock := none }]
  { podSelector := ⟨(∅ : StrMap).set SandboxTemplateRefHashLabel (SandboxTemplateRefHash templateName), []⟩
    policyTypes := [.ingress, .egress]
    -- only the Sandbox Router may connect
    ingress := [⟨[], peers⟩]
    -- public addresses only: the private, link-local and unique-local ranges are cut out
    egress := [⟨[], [
      ⟨none, none, some ⟨"0.0.0.0/0", ["10.0.0.0/8", "172.16.0.0/12", "192.168.0.0/16", "169.254.0.0/16"]⟩⟩,
      ⟨none, none, some ⟨"::/0", ["fc00::/7", "fe80::/10"]⟩⟩]⟩] }

/-! ## Objects and requests -/

/-- A SandboxTemplate with the fields the controller reads and writes. -/
structure TemplateObject where
  name : String
  uid : String
  resourceVersion : Nat
  labels : StrMap
  /-- `!DeletionTimestamp.IsZero()`. -/
  deleting : Bool
  networkPolicy : Option TemplateNetworkPolicySpec
  networkPolicyManagement : String
deriving DecidableEq

structure NetworkPolicyObject where
  name : String
  resourceVersion : Nat
  ownerReferences : List OwnerRef
  spec : NetworkPolicySpec
deriving DecidableEq

/-- `metav1.IsControlledBy(np, template)`: the controller reference carries the template's UID. -/
def isControlledBy (np : NetworkPolicyObject) (template : TemplateObject) : Bool :=
  (getControllerOf np.ownerReferences).any (·.uid == template.uid)

/-- Step 4 of `Reconcile`: the default spec, or the template's rules for the template's Pods. -/
def desiredNetworkPolicySpec (template : TemplateObject) : NetworkPolicySpec :=
  match template.networkPolicy with
  | none => buildDefaultNetworkPolicySpec template.name
  | some policy =>
    { podSelector := ⟨(∅ : StrMap).set SandboxTemplateRefHashLabel (SandboxTemplateRefHash template.name), []⟩
      policyTypes := [.ingress, .egress]
      ingress := policy.ingress
      egress := policy.egress }

inductive Call
  | getTemplate (name : String)
  | patchTemplate (original modified : TemplateObject)
  | getNetworkPolicy (name : String)
  | createNetworkPolicy (np : NetworkPolicyObject)
  | updateNetworkPolicy (np : NetworkPolicyObject)
  | deleteNetworkPolicy (np : NetworkPolicyObject)
deriving DecidableEq

def Call.Response : Call → Type
  | .getTemplate _ | .patchTemplate .. => Except ApiError TemplateObject
  | .getNetworkPolicy _ | .createNetworkPolicy _ | .updateNetworkPolicy _ => Except ApiError NetworkPolicyObject
  | .deleteNetworkPolicy _ => Except ApiError Unit

abbrev Api := Prog Call Call.Response

def getTemplate (name : String) : Api (Except ApiError TemplateObject) := request (Call.getTemplate name)

def patchTemplate (original modified : TemplateObject) : Api (Except ApiError TemplateObject) :=
  request (Call.patchTemplate original modified)

def getNetworkPolicy (name : String) : Api (Except ApiError NetworkPolicyObject) :=
  request (Call.getNetworkPolicy name)

def createNetworkPolicy (np : NetworkPolicyObject) : Api (Except ApiError NetworkPolicyObject) :=
  request (Call.createNetworkPolicy np)

def updateNetworkPolicy (np : NetworkPolicyObject) : Api (Except ApiError NetworkPolicyObject) :=
  request (Call.updateNetworkPolicy np)

def deleteNetworkPolicy (np : NetworkPolicyObject) : Api (Except ApiError Unit) :=
  request (Call.deleteNetworkPolicy np)

/-! ## The API server -/

structure Store where
  templates : List TemplateObject
  /-- Every version of a template stored, newest first. -/
  templateHistory : List TemplateObject
  networkPolicies : List NetworkPolicyObject
  networkPolicyHistory : List NetworkPolicyObject
  /-- The last `resourceVersion` handed out. -/
  revision : Nat
deriving DecidableEq

namespace Store

variable (s : Store)

def template? (name : String) : Option TemplateObject := s.templates.find? (·.name == name)

def networkPolicy? (name : String) : Option NetworkPolicyObject := s.networkPolicies.find? (·.name == name)

def writeTemplate (template : TemplateObject) : Except ApiError TemplateObject × Store :=
  let stored := { template with resourceVersion := s.revision + 1 }
  (.ok stored, { s with
    templates := stored :: s.templates.filter (·.name != template.name)
    templateHistory := stored :: s.templateHistory
    revision := s.revision + 1 })

def writeNetworkPolicy (np : NetworkPolicyObject) : Except ApiError NetworkPolicyObject × Store :=
  let stored := { np with resourceVersion := s.revision + 1 }
  (.ok stored, { s with
    networkPolicies := stored :: s.networkPolicies.filter (·.name != np.name)
    networkPolicyHistory := stored :: s.networkPolicyHistory
    revision := s.revision + 1 })

/-- The merge Patch `client.MergeFrom(original)` sends for the template's labels, the only
field the code patches, applied to the stored template. -/
def patchTemplate (original modified : TemplateObject) : Except ApiError TemplateObject × Store :=
  match s.template? original.name with
  | none => (.error .notFound, s)
  | some current =>
      s.writeTemplate { current with labels := StrMap.mergePatch original.labels modified.labels current.labels }

def createNetworkPolicy (np : NetworkPolicyObject) : Except ApiError NetworkPolicyObject × Store :=
  match s.networkPolicy? np.name with
  | some _ => (.error .alreadyExists, s)
  | none => s.writeNetworkPolicy np

/-- `Update` is refused unless the object carries the stored `resourceVersion`. -/
def updateNetworkPolicy (np : NetworkPolicyObject) : Except ApiError NetworkPolicyObject × Store :=
  match s.networkPolicy? np.name with
  | none => (.error .notFound, s)
  | some current =>
      if np.resourceVersion != current.resourceVersion then (.error .conflict, s)
      else s.writeNetworkPolicy np

/-- `Delete` with no preconditions removes whatever is stored under the name. -/
def deleteNetworkPolicy (np : NetworkPolicyObject) : Except ApiError Unit × Store :=
  match s.networkPolicy? np.name with
  | none => (.error .notFound, s)
  | some _ => (.ok (), { s with networkPolicies := s.networkPolicies.filter (·.name != np.name) })

def write {β : Type} (answer : Answer) (perform : Except ApiError β × Store) : Except ApiError β × Store :=
  match answer with
  | .fail err => (.error err, s)
  | _ => perform

end Store

/-- The answer to one request: a read of the stored object or of a cached version, or a write. -/
def Store.answer (s : Store) : (c : Call) → Answer → c.Response × Store
  | .getTemplate name, a =>
      (Claim.Adoption.Store.read (s.template? name) (s.templateHistory.filter (·.name == name)) a, s)
  | .getNetworkPolicy name, a =>
      (Claim.Adoption.Store.read (s.networkPolicy? name) (s.networkPolicyHistory.filter (·.name == name)) a, s)
  | .patchTemplate original modified, a => s.write a (s.patchTemplate original modified)
  | .createNetworkPolicy np, a => s.write a (s.createNetworkPolicy np)
  | .updateNetworkPolicy np, a => s.write a (s.updateNetworkPolicy np)
  | .deleteNetworkPolicy np, a => s.write a (s.deleteNetworkPolicy np)

/-! ## The reconcile of one template -/

section Reconciler

variable (quote : String → String) (eq : DeepEqual) (templateKind : Except String (String × String))
  (ns : String)

def ensureTemplateRefHashLabel (template : TemplateObject) : Api (Except String TemplateObject) :=
  if template.deleting then pure (.ok template)
  else
    let expectedHash := SandboxTemplateRefHash template.name
    if template.labels.get SandboxTemplateRefHashLabel == expectedHash then pure (.ok template)
    else do
      -- `r.Patch` overwrites `template` with the stored object
      match ← patchTemplate template { template with labels := template.labels.set SandboxTemplateRefHashLabel expectedHash } with
      | .ok patched => pure (.ok patched)
      | .error err =>
        pure (.error ("failed to label sandbox template " ++ quote (ns ++ "/" ++ template.name) ++
          " with template ref hash: " ++ err.text))

/-- Step 3 of `Reconcile`: under `Unmanaged`, the policy goes if the template controls it. -/
def handleUnmanagedOptOut (template : TemplateObject) (npName : String) : Api (Except String Unit) := do
  match ← getNetworkPolicy npName with
  | .ok existingNP =>
      if !isControlledBy existingNP template then pure (.ok ())
      else
        match ← deleteNetworkPolicy existingNP with
        | .ok () => pure (.ok ())
        | .error err => pure (.error err.text)
  | .error .notFound => pure (.ok ())
  | .error err => pure (.error ("failed to get NetworkPolicy: " ++ err.text))

/-- Steps 5 and 6 of `Reconcile`: the policy the template controls is updated to the desired
spec, or created. -/
def reconcileExistingVsDesired (template : TemplateObject) (npName : String) (desiredSpec : NetworkPolicySpec) :
    Api (Except String Unit) := do
  match ← getNetworkPolicy npName with
  | .ok existingNP =>
      if !isControlledBy existingNP template then
        pure (.error ("refusing to update NetworkPolicy " ++ quote npName ++
          " as it is not controlled by SandboxTemplate " ++ quote template.name))
      else if eq.spec existingNP.spec desiredSpec then pure (.ok ())
      else
        match ← updateNetworkPolicy { existingNP with spec := desiredSpec } with
        | .ok _ => pure (.ok ())
        | .error err => pure (.error err.text)
  | .error .notFound =>
      -- `SetControllerReference` on the new object, which has no owner yet, fails only when the
      -- scheme does not know the template's kind
      match templateKind with
      | .error err => pure (.error err)
      | .ok (apiVersion, kind) =>
        match ← createNetworkPolicy ⟨npName, 0, [⟨apiVersion, kind, template.name, template.uid, true⟩], desiredSpec⟩ with
        | .ok _ => pure (.ok ())
        | .error err => pure (.error err.text)
  | .error err => pure (.error ("failed to get NetworkPolicy: " ++ err.text))

/-- Steps 2 to 6 of `Reconcile`, once the template is labelled. -/
def manageNetworkPolicy (template : TemplateObject) : Api (Except String Unit) :=
  if template.deleting then pure (.ok ())
  else
    let npName := template.name ++ "-network-policy"
    let management :=
      if template.networkPolicyManagement == "" then NetworkPolicyManagementManaged else template.networkPolicyManagement
    if management == NetworkPolicyManagementUnmanaged then handleUnmanagedOptOut template npName
    else reconcileExistingVsDesired quote eq templateKind template npName (desiredNetworkPolicySpec template)

def reconcile (name : String) : Api (Except String Unit) := do
  match ← getTemplate name with
  | .error .notFound => pure (.ok ())
  | .error err => pure (.error ("failed to get sandbox template " ++ quote (ns ++ "/" ++ name) ++ ": " ++ err.text))
  | .ok template =>
    match ← ensureTemplateRefHashLabel quote ns template with
    | .error msg => pure (.error msg)
    | .ok template => manageNetworkPolicy quote eq templateKind template

/-- A worker's run of `Reconcile`; the requeue after an error is a later run. -/
def reconcileHandler (name : String) : Api Unit := do
  let _ ← reconcile quote eq templateKind ns name
  pure ()

end Reconciler

/-! ## What the API server keeps -/

namespace Store

variable {s : Store}

theorem template?_eq_some {name : String} {t : TemplateObject} (found : s.template? name = some t) :
    t.name = name ∧ t ∈ s.templates :=
  ⟨by simpa using List.find?_some found, List.mem_of_find?_eq_some found⟩

theorem networkPolicy?_eq_some {name : String} {np : NetworkPolicyObject} (found : s.networkPolicy? name = some np) :
    np.name = name ∧ np ∈ s.networkPolicies :=
  ⟨by simpa using List.find?_some found, List.mem_of_find?_eq_some found⟩

theorem write_snd {β : Type} (a : Answer) (perform : Except ApiError β × Store) :
    (s.write a perform).2 = s ∨ (s.write a perform).2 = perform.2 := by
  cases a with
  | fail err => exact .inl rfl
  | latest => exact .inr rfl
  | cached age => exact .inr rfl

end Store

/-- Every stored object is one of the versions kept, each kept version of a NetworkPolicy has
its own `resourceVersion`, and none is newer than the last one handed out. -/
structure Versioned (s : Store) : Prop where
  templates_kept : ∀ t ∈ s.templates, t ∈ s.templateHistory
  networkPolicies_kept : ∀ np ∈ s.networkPolicies, np ∈ s.networkPolicyHistory
  distinct : (s.networkPolicyHistory.map (·.resourceVersion)).Nodup
  bounded : ∀ np ∈ s.networkPolicyHistory, np.resourceVersion ≤ s.revision

namespace Versioned

variable {s : Store}

theorem writeTemplate (inv : Versioned s) (t : TemplateObject) : Versioned (s.writeTemplate t).2 where
  templates_kept := by
    intro t' stored
    simp only [Store.writeTemplate, List.mem_cons, List.mem_filter] at stored ⊢
    rcases stored with new | ⟨old, -⟩
    · exact .inl new
    · exact .inr (inv.templates_kept t' old)
  networkPolicies_kept := inv.networkPolicies_kept
  distinct := inv.distinct
  bounded np kept := Nat.le_succ_of_le (inv.bounded np kept)

theorem writeNetworkPolicy (inv : Versioned s) (np : NetworkPolicyObject) : Versioned (s.writeNetworkPolicy np).2 where
  templates_kept := inv.templates_kept
  networkPolicies_kept := by
    intro np' stored
    simp only [Store.writeNetworkPolicy, List.mem_cons, List.mem_filter] at stored ⊢
    rcases stored with new | ⟨old, -⟩
    · exact .inl new
    · exact .inr (inv.networkPolicies_kept np' old)
  distinct := by
    simp only [Store.writeNetworkPolicy, List.map_cons, List.nodup_cons, List.mem_map, not_exists, not_and]
    refine ⟨fun old kept same => ?_, inv.distinct⟩
    have older := inv.bounded old kept
    omega
  bounded := by
    intro np' kept
    simp only [Store.writeNetworkPolicy, List.mem_cons] at kept ⊢
    rcases kept with rfl | old
    · exact Nat.le_refl _
    · exact Nat.le_succ_of_le (inv.bounded np' old)

theorem write {β : Type} (inv : Versioned s) (a : Answer) {perform : Except ApiError β × Store}
    (performed : Versioned perform.2) : Versioned (s.write a perform).2 := by
  rcases Store.write_snd a perform with same | done
  · exact same ▸ inv
  · exact done ▸ performed

theorem answer (inv : Versioned s) (c : Call) (a : Answer) : Versioned (s.answer c a).2 := by
  cases c with
  | getTemplate name => exact inv
  | getNetworkPolicy name => exact inv
  | patchTemplate original modified =>
      refine inv.write a ?_
      unfold Store.patchTemplate
      split
      · exact inv
      · exact inv.writeTemplate _
  | createNetworkPolicy np =>
      refine inv.write a ?_
      unfold Store.createNetworkPolicy
      split
      · exact inv
      · exact inv.writeNetworkPolicy _
  | updateNetworkPolicy np =>
      refine inv.write a ?_
      unfold Store.updateNetworkPolicy
      split
      · exact inv
      · split
        · exact inv
        · exact inv.writeNetworkPolicy _
  | deleteNetworkPolicy np =>
      refine inv.write a ?_
      unfold Store.deleteNetworkPolicy
      split
      · exact inv
      · exact { inv with
          networkPolicies_kept := fun np' stored => inv.networkPolicies_kept np' (List.mem_filter.mp stored).1 }

end Versioned

/-- The versions `s` keeps are kept in `s'`. -/
def Keeps (s s' : Store) : Prop :=
  (∀ t ∈ s.templateHistory, t ∈ s'.templateHistory) ∧ ∀ np ∈ s.networkPolicyHistory, np ∈ s'.networkPolicyHistory

theorem keeps_refl (s : Store) : Keeps s s := ⟨fun _ => id, fun _ => id⟩

theorem keeps_writeTemplate (s : Store) (t : TemplateObject) : Keeps s (s.writeTemplate t).2 :=
  ⟨fun _ kept => List.mem_cons_of_mem _ kept, fun _ => id⟩

theorem keeps_writeNetworkPolicy (s : Store) (np : NetworkPolicyObject) : Keeps s (s.writeNetworkPolicy np).2 :=
  ⟨fun _ => id, fun _ kept => List.mem_cons_of_mem _ kept⟩

theorem keeps_write {β : Type} (s : Store) (a : Answer) {perform : Except ApiError β × Store}
    (performed : Keeps s perform.2) : Keeps s (s.write a perform).2 := by
  rcases Store.write_snd a perform with same | done
  · exact same ▸ keeps_refl s
  · exact done ▸ performed

/-- No answer forgets a version: reads change nothing, writes add one, a Delete only
unstores. -/
theorem keeps_answer (s : Store) (c : Call) (a : Answer) : Keeps s (s.answer c a).2 := by
  cases c with
  | getTemplate name => exact keeps_refl s
  | getNetworkPolicy name => exact keeps_refl s
  | patchTemplate original modified =>
      refine keeps_write s a ?_
      unfold Store.patchTemplate
      split
      · exact keeps_refl s
      · exact keeps_writeTemplate s _
  | createNetworkPolicy np =>
      refine keeps_write s a ?_
      unfold Store.createNetworkPolicy
      split
      · exact keeps_refl s
      · exact keeps_writeNetworkPolicy s _
  | updateNetworkPolicy np =>
      refine keeps_write s a ?_
      unfold Store.updateNetworkPolicy
      split
      · exact keeps_refl s
      · split
        · exact keeps_refl s
        · exact keeps_writeNetworkPolicy s _
  | deleteNetworkPolicy np =>
      refine keeps_write s a ?_
      unfold Store.deleteNetworkPolicy
      split
      · exact keeps_refl s
      · exact keeps_refl s

theorem keeps_of_answered {s s' : Store} (moved : Answered Store.answer s s') : Keeps s s' :=
  Answered.keeps Store.answer keeps_refl
    (fun _ _ _ first second => ⟨fun t kept => second.1 t (first.1 t kept), fun np kept => second.2 np (first.2 np kept)⟩)
    keeps_answer moved

theorem Keeps.trans {s₁ s₂ s₃ : Store} (first : Keeps s₁ s₂) (second : Keeps s₂ s₃) : Keeps s₁ s₃ :=
  ⟨fun t kept => second.1 t (first.1 t kept), fun np kept => second.2 np (first.2 np kept)⟩

theorem Store.write_eq_of_ok {s : Store} {β : Type} {a : Answer} {perform : Except ApiError β × Store} {x : β}
    (succeeded : (s.write a perform).1 = .ok x) : s.write a perform = perform := by
  cases a with
  | fail err => cases succeeded
  | latest => rfl
  | cached age => rfl

/-! ## Updates among other threads

A reconcile runs among other workers and clients, each sending requests between any two of
its own, and its reads may come from a cache.  What it knows of a read version stays true: the
API server never forgets a version (`keeps_of_answered`).  So when its Update is answered, the
stored policy that carries the `resourceVersion` it read is the version it read
(`Versioned.distinct`), the one it found controlled by the template. -/

/-- An Update of a NetworkPolicy, where it applies, replaces a policy controlled by a template
whose policy name it bears. -/
def UpdatesControlled (s : Store) : Call → Prop
  | .updateNetworkPolicy np => ∀ current, s.networkPolicy? np.name = some current →
      current.resourceVersion = np.resourceVersion →
      ∃ t ∈ s.templateHistory, np.name = t.name ++ "-network-policy" ∧ isControlledBy current t = true
  | _ => True

/-- `p`, started in `s`, sends only Updates over policies its templates control, whatever the
other threads do, and ends with `Q`. -/
abbrev Guarded {α : Type} (Q : Store → α → Prop) (s : Store) (p : Api α) : Prop :=
  p.Guarantees Store.answer Versioned UpdatesControlled Q s

section Guarded

variable {K : Store → Prop} (stable : ∀ s s', Keeps s s' → K s → K s') {s : Store}

theorem request_guarded {c : Call} (notUpdate : ∀ np, c ≠ .updateNetworkPolicy np) :
    Guarded (fun _ _ => True) s (request c) := by
  refine guarantees_request c fun s' _ _ => ⟨?_, fun _ => trivial⟩
  cases c with
  | updateNetworkPolicy np => exact absurd rfl (notUpdate np)
  | _ => trivial

include stable in
theorem getTemplate_guarded (name : String) (known : K s) :
    Guarded (fun s r => K s ∧ ∀ t, r = .ok t → t.name = name ∧ t ∈ s.templateHistory) s (getTemplate name) := by
  refine guarantees_request (Call.getTemplate name) fun s' moved inv => ?_
  refine ⟨trivial, fun a => ⟨stable _ _ (keeps_of_answered moved) known, fun t read => ?_⟩⟩
  rcases Claim.Adoption.Store.read_eq_ok read with found | kept
  · obtain ⟨named, stored⟩ := Store.template?_eq_some found
    exact ⟨named, inv.templates_kept t stored⟩
  · rw [List.mem_filter] at kept
    exact ⟨by simpa using kept.2, kept.1⟩

include stable in
theorem getNetworkPolicy_guarded (name : String) (known : K s) :
    Guarded (fun s r => K s ∧ ∀ np, r = .ok np → np.name = name ∧ np ∈ s.networkPolicyHistory) s
      (getNetworkPolicy name) := by
  refine guarantees_request (Call.getNetworkPolicy name) fun s' moved inv => ?_
  refine ⟨trivial, fun a => ⟨stable _ _ (keeps_of_answered moved) known, fun np read => ?_⟩⟩
  rcases Claim.Adoption.Store.read_eq_ok read with found | kept
  · obtain ⟨named, stored⟩ := Store.networkPolicy?_eq_some found
    exact ⟨named, inv.networkPolicies_kept np stored⟩
  · rw [List.mem_filter] at kept
    exact ⟨by simpa using kept.2, kept.1⟩

theorem patchTemplate_guarded (original modified : TemplateObject) :
    Guarded (fun s r => ∀ t, r = .ok t → t ∈ s.templateHistory) s (patchTemplate original modified) := by
  refine guarantees_request (Call.patchTemplate original modified) fun s' _ _ => ?_
  refine ⟨trivial, fun a t patched => ?_⟩
  have performed : s'.answer (.patchTemplate original modified) a = s'.patchTemplate original modified :=
    Store.write_eq_of_ok patched
  rw [performed] at patched ⊢
  unfold Store.patchTemplate at patched ⊢
  cases found : s'.template? original.name with
  | none => simp [found] at patched
  | some current =>
      simp only [found, Store.writeTemplate, Except.ok.injEq] at patched ⊢
      subst patched
      exact List.mem_cons_self

theorem updateNetworkPolicy_guarded {template : TemplateObject} {existingNP : NetworkPolicyObject}
    (known : template ∈ s.templateHistory) (read : existingNP ∈ s.networkPolicyHistory)
    (named : existingNP.name = template.name ++ "-network-policy") (controlled : isControlledBy existingNP template = true)
    (spec : NetworkPolicySpec) : Guarded (fun _ _ => True) s (updateNetworkPolicy { existingNP with spec := spec }) := by
  refine guarantees_request (Call.updateNetworkPolicy { existingNP with spec := spec }) fun s' moved inv => ?_
  refine ⟨fun current stored admits => ?_, fun _ => trivial⟩
  have keeps := keeps_of_answered moved
  -- the stored version that carries the read version's `resourceVersion` is the read version
  have same : current = existingNP :=
    List.inj_on_of_nodup_map inv.distinct (inv.networkPolicies_kept current (Store.networkPolicy?_eq_some stored).2)
      (keeps.2 _ read) admits
  subst same
  exact ⟨template, keeps.1 _ known, named, controlled⟩

end Guarded

section Reconciler

variable (quote : String → String) (eq : DeepEqual) (templateKind : Except String (String × String))
  (ns : String)

theorem handleUnmanagedOptOut_guarded (template : TemplateObject) (npName : String) (s : Store) :
    Guarded (fun _ _ => True) s (handleUnmanagedOptOut template npName) := by
  unfold handleUnmanagedOptOut
  refine (request_guarded (by simp)).bind fun s r _ => ?_
  split
  · split
    · exact guarantees_pure trivial
    · refine (request_guarded (by simp)).bind fun s r _ => ?_
      split
      · exact guarantees_pure trivial
      · exact guarantees_pure trivial
  · exact guarantees_pure trivial
  · exact guarantees_pure trivial

theorem reconcileExistingVsDesired_guarded (template : TemplateObject) (desiredSpec : NetworkPolicySpec) {s : Store}
    (known : template ∈ s.templateHistory) :
    Guarded (fun _ _ => True) s
      (reconcileExistingVsDesired quote eq templateKind template (template.name ++ "-network-policy") desiredSpec) := by
  unfold reconcileExistingVsDesired
  refine (getNetworkPolicy_guarded (fun _ _ keeps kept => keeps.1 _ kept) _ known).bind fun s r ⟨known, read⟩ => ?_
  rcases r with err | existingNP
  · -- a failed read: create on `NotFound`, else report
    cases err
    case notFound =>
      dsimp only
      split
      · exact guarantees_pure trivial
      · refine (request_guarded (by simp)).bind fun _ r _ => ?_
        rcases r with _ | _
        · exact guarantees_pure trivial
        · exact guarantees_pure trivial
    all_goals exact guarantees_pure trivial
  · obtain ⟨named, kept⟩ := read existingNP rfl
    dsimp only
    split
    · exact guarantees_pure trivial
    · rename_i controlled
      split
      · exact guarantees_pure trivial
      · refine (updateNetworkPolicy_guarded known kept named (by simpa using controlled) desiredSpec).bind
          fun _ r _ => ?_
        rcases r with _ | _
        · exact guarantees_pure trivial
        · exact guarantees_pure trivial

theorem manageNetworkPolicy_guarded (template : TemplateObject) {s : Store} (known : template ∈ s.templateHistory) :
    Guarded (fun _ _ => True) s (manageNetworkPolicy quote eq templateKind template) := by
  unfold manageNetworkPolicy
  split
  · exact guarantees_pure trivial
  · dsimp only
    generalize (if template.networkPolicyManagement == "" then NetworkPolicyManagementManaged
      else template.networkPolicyManagement) = management
    split
    · exact handleUnmanagedOptOut_guarded _ _ s
    · exact reconcileExistingVsDesired_guarded quote eq templateKind template _ known

theorem ensureTemplateRefHashLabel_guarded (template : TemplateObject) {s : Store} (known : template ∈ s.templateHistory) :
    Guarded (fun s r => ∀ t, r = .ok t → t ∈ s.templateHistory) s (ensureTemplateRefHashLabel quote ns template) := by
  unfold ensureTemplateRefHashLabel
  split
  · exact guarantees_pure fun t same => by cases same; exact known
  · dsimp only
    split
    · exact guarantees_pure fun t same => by cases same; exact known
    · refine (patchTemplate_guarded _ _).bind fun s r patched => ?_
      split
      · exact guarantees_pure fun t same => by cases same; exact patched _ rfl
      · exact guarantees_pure fun t same => by cases same

theorem reconcile_guarded (name : String) (s : Store) :
    Guarded (fun _ _ => True) s (reconcile quote eq templateKind ns name) := by
  unfold reconcile
  refine (getTemplate_guarded (fun _ _ _ _ => trivial) name trivial).bind fun s r ⟨_, read⟩ => ?_
  rcases r with err | template
  · cases err
    all_goals exact guarantees_pure trivial
  · refine (ensureTemplateRefHashLabel_guarded quote ns template (read template rfl).2).bind fun s r labelled => ?_
    rcases r with msg | template
    · exact guarantees_pure trivial
    · exact manageNetworkPolicy_guarded quote eq templateKind _ (labelled _ rfl)

theorem reconcileHandler_guarded (name : String) (s : Store) :
    Guarded (fun _ _ => True) s (reconcileHandler quote eq templateKind ns name) :=
  (reconcile_guarded quote eq templateKind ns name s).bind fun _ _ _ => guarantees_pure trivial

end Reconciler

section System

variable (quote : String → String) (eq : DeepEqual) (templateKind : Except String (String × String))
  (ns : String)

/-- In every run of workers reconciling SandboxTemplates among clients running any programs,
whatever the answers (stale reads from the cache, failures), started idle from a store whose
versions are consistent: an Update a worker sends next, if the stored NetworkPolicy carries the
`resourceVersion` it names, replaces a policy controlled by a template whose policy name it
bears. -/
theorem update_only_controlled {ι : Type} [DecidableEq ι] (program : ι → Api Unit)
    (S : System ι Store Call Call.Response) (idle : ∀ i, S.threads i = none) (versioned : Versioned S.state)
    (events : List (Event ι Answer)) {i : ι} {name : String}
    (worker : program i = reconcileHandler quote eq templateKind ns name) {np : NetworkPolicyObject}
    (next : (S.run program Store.answer events).pending i = some (.updateNetworkPolicy np))
    {current : NetworkPolicyObject}
    (stored : (S.run program Store.answer events).state.networkPolicy? np.name = some current)
    (admits : current.resourceVersion = np.resourceVersion) :
    ∃ t ∈ (S.run program Store.answer events).state.templateHistory,
      np.name = t.name ++ "-network-policy" ∧ isControlledBy current t = true := by
  have starts : ∀ j, (∃ name', program j = reconcileHandler quote eq templateKind ns name') →
      ∀ s, Guarded (fun _ _ => True) s (program j) := by
    rintro j ⟨name', running⟩ s
    rw [running]
    exact reconcileHandler_guarded quote eq templateKind ns name' s
  have good : UpdatesControlled (S.run program Store.answer events).state (.updateNetworkPolicy np) :=
    pending_good (fun s c a inv => inv.answer c a) starts S (fun j _ => idle j) versioned events ⟨name, worker⟩ next
  exact good current stored admits

/-- The template `python`, labelled, with the default policy. -/
def pythonTemplate : TemplateObject :=
  ⟨"python", "uid-python", 1, (∅ : StrMap).set SandboxTemplateRefHashLabel (SandboxTemplateRefHash "python"), false,
    none, ""⟩

/-- Its policy, controlled by it, with a spec that drifted from the default. -/
def driftedPolicy : NetworkPolicyObject :=
  ⟨"python-network-policy", 2, [⟨"extensions.agents.x-k8s.io/v1beta1", "SandboxTemplate", "python", "uid-python", true⟩],
    ⟨⟨∅, []⟩, [], [], []⟩⟩

def driftedStore : Store := ⟨[pythonTemplate], [pythonTemplate], [driftedPolicy], [driftedPolicy], 2⟩

/-- One worker reconciling `python`, after its two reads. -/
def driftedRun : System Unit Store Call Call.Response :=
  (⟨driftedStore, fun _ => none⟩ : System Unit Store Call Call.Response).run
    (fun _ => reconcileHandler id DeepEqual.structural (.ok ("extensions.agents.x-k8s.io/v1beta1", "SandboxTemplate"))
      "default" "python")
    Store.answer [.start (), .step () .latest, .step () .latest]

theorem update_only_controlled_driftedPolicy :
    ∃ t ∈ driftedRun.state.templateHistory,
      ({ driftedPolicy with spec := buildDefaultNetworkPolicySpec "python" }).name = t.name ++ "-network-policy" ∧
        isControlledBy driftedPolicy t = true :=
  @update_only_controlled id DeepEqual.structural (.ok ("extensions.agents.x-k8s.io/v1beta1", "SandboxTemplate"))
    "default" Unit _ _ ⟨driftedStore, fun _ => none⟩ (fun _ => rfl)
    ⟨by decide +kernel, by decide +kernel, by decide +kernel, by decide +kernel⟩
    [.start (), .step () .latest, .step () .latest] () "python" rfl
    { driftedPolicy with spec := buildDefaultNetworkPolicySpec "python" } (by decide +kernel)
    driftedPolicy (by decide +kernel) rfl

end System

/-! ## A reconcile run alone

With every request answered in turn from the stored objects (`fresh`), each step of `Reconcile`
is a function of the store (`exec_handleUnmanagedOptOut`, `exec_reconcileExistingVsDesired`,
`exec_reconcile_of_some`).  From those: a reconcile leaves the policy as the template asks, and
a second one right after it changes nothing.  With reads of NetworkPolicies from a stale cache
(`cachedNetworkPolicies`), the opt-out deletes what is stored now on the strength of what the
cache shows. -/

/-- Every request answered from the stored objects. -/
def fresh (s : Store) (c : Call) : c.Response × Store := s.answer c .latest

namespace Store

variable (s : Store)

@[simp] theorem template?_writeNetworkPolicy (np : NetworkPolicyObject) (name : String) :
    (s.writeNetworkPolicy np).2.template? name = s.template? name := rfl

@[simp] theorem networkPolicy?_writeNetworkPolicy_self (np : NetworkPolicyObject) :
    (s.writeNetworkPolicy np).2.networkPolicy? np.name = some { np with resourceVersion := s.revision + 1 } := by
  simp [writeNetworkPolicy, networkPolicy?]

@[simp] theorem template?_writeTemplate_self (t : TemplateObject) :
    (s.writeTemplate t).2.template? t.name = some { t with resourceVersion := s.revision + 1 } := by
  simp [writeTemplate, template?]

theorem networkPolicy?_congr {s' : Store} (same : s'.networkPolicies = s.networkPolicies) (name : String) :
    s'.networkPolicy? name = s.networkPolicy? name := by
  simp only [networkPolicy?, same]

@[simp] theorem networkPolicy?_unstore (name : String) :
    ({ s with networkPolicies := s.networkPolicies.filter (·.name != name) } : Store).networkPolicy? name = none := by
  unfold networkPolicy?
  rw [List.find?_eq_none]
  intro np kept
  simp only [List.mem_filter, bne_iff_ne, ne_eq] at kept
  simpa using kept.2

end Store

section Fresh

variable (quote : String → String) (eq : DeepEqual) (templateKind : Except String (String × String))
  (ns : String)

theorem exec_getNetworkPolicy_of_some {name : String} {s : Store} {np : NetworkPolicyObject}
    (found : s.networkPolicy? name = some np) : (getNetworkPolicy name).exec fresh s = (.ok np, s) := by
  show (Claim.Adoption.Store.read (s.networkPolicy? name) (s.networkPolicyHistory.filter (·.name == name)) .latest, s) = _
  rw [found]
  rfl

theorem exec_getNetworkPolicy_of_none {name : String} {s : Store}
    (absent : s.networkPolicy? name = none) : (getNetworkPolicy name).exec fresh s = (.error .notFound, s) := by
  show (Claim.Adoption.Store.read (s.networkPolicy? name) (s.networkPolicyHistory.filter (·.name == name)) .latest, s) = _
  rw [absent]
  rfl

theorem exec_deleteNetworkPolicy_of_some {s : Store} {np : NetworkPolicyObject} (found : s.networkPolicy? np.name = some np) :
    (deleteNetworkPolicy np).exec fresh s =
      (.ok (), { s with networkPolicies := s.networkPolicies.filter (·.name != np.name) }) := by
  show s.deleteNetworkPolicy np = _
  unfold Store.deleteNetworkPolicy
  rw [found]

theorem exec_handleUnmanagedOptOut (template : TemplateObject) (npName : String) (s : Store) :
    (handleUnmanagedOptOut template npName).exec fresh s =
      match s.networkPolicy? npName with
      | some np =>
          if isControlledBy np template then
            (.ok (), { s with networkPolicies := s.networkPolicies.filter (·.name != npName) })
          else (.ok (), s)
      | none => (.ok (), s) := by
  unfold handleUnmanagedOptOut
  rw [exec_bind]
  cases found : s.networkPolicy? npName with
  | none => rw [exec_getNetworkPolicy_of_none found]; rfl
  | some np =>
      have named := (Store.networkPolicy?_eq_some found).1
      rw [exec_getNetworkPolicy_of_some found]
      by_cases controlled : isControlledBy np template = true
      · simp only [controlled, Bool.not_true, Bool.false_eq_true, if_false, if_true]
        rw [exec_bind, exec_deleteNetworkPolicy_of_some (named ▸ found), named]
        rfl
      · simp only [Bool.not_eq_true] at controlled
        simp only [controlled, Bool.not_false, if_true]
        rfl

theorem exec_updateNetworkPolicy_of_some {s : Store} {np : NetworkPolicyObject} (found : s.networkPolicy? np.name = some np)
    (spec : NetworkPolicySpec) :
    (updateNetworkPolicy { np with spec := spec }).exec fresh s = s.writeNetworkPolicy { np with spec := spec } := by
  show s.updateNetworkPolicy { np with spec := spec } = _
  unfold Store.updateNetworkPolicy
  rw [show ({ np with spec := spec } : NetworkPolicyObject).name = np.name from rfl, found]
  simp

theorem exec_createNetworkPolicy_of_none {s : Store} {np : NetworkPolicyObject} (absent : s.networkPolicy? np.name = none) :
    (createNetworkPolicy np).exec fresh s = s.writeNetworkPolicy np := by
  show s.createNetworkPolicy np = _
  unfold Store.createNetworkPolicy
  rw [absent]

theorem exec_reconcileExistingVsDesired (template : TemplateObject) (npName : String) (desiredSpec : NetworkPolicySpec)
    (s : Store) :
    (reconcileExistingVsDesired quote eq templateKind template npName desiredSpec).exec fresh s =
      match s.networkPolicy? npName with
      | some np =>
          if isControlledBy np template then
            if eq.spec np.spec desiredSpec then (.ok (), s)
            else (.ok (), (s.writeNetworkPolicy { np with spec := desiredSpec }).2)
          else
            (.error ("refusing to update NetworkPolicy " ++ quote npName ++
              " as it is not controlled by SandboxTemplate " ++ quote template.name), s)
      | none =>
          match templateKind with
          | .error err => (.error err, s)
          | .ok (apiVersion, kind) =>
              (.ok (), (s.writeNetworkPolicy
                ⟨npName, 0, [⟨apiVersion, kind, template.name, template.uid, true⟩], desiredSpec⟩).2) := by
  unfold reconcileExistingVsDesired
  rw [exec_bind]
  cases found : s.networkPolicy? npName with
  | none =>
      rw [exec_getNetworkPolicy_of_none found]
      rcases templateKind with err | ⟨apiVersion, kind⟩
      · rfl
      · dsimp only
        rw [exec_bind, exec_createNetworkPolicy_of_none found]
        rfl
  | some np =>
      have named := (Store.networkPolicy?_eq_some found).1
      rw [exec_getNetworkPolicy_of_some found]
      by_cases controlled : isControlledBy np template = true
      · by_cases same : eq.spec np.spec desiredSpec = true
        · simp only [controlled, same, Bool.not_true, Bool.false_eq_true, if_false, if_true]
          rfl
        · simp only [Bool.not_eq_true] at same
          simp only [controlled, same, Bool.not_true, Bool.false_eq_true, if_false, if_true]
          rw [exec_bind, exec_updateNetworkPolicy_of_some (named ▸ found)]
          rfl
      · simp only [Bool.not_eq_true] at controlled
        simp only [controlled, Bool.not_false, if_true, Bool.false_eq_true, if_false]
        rfl

theorem handleUnmanagedOptOut_idem (template : TemplateObject) (npName : String) (s : Store) :
    (handleUnmanagedOptOut template npName).exec fresh ((handleUnmanagedOptOut template npName).exec fresh s).2 =
      (handleUnmanagedOptOut template npName).exec fresh s := by
  rw [exec_handleUnmanagedOptOut template npName s]
  cases found : s.networkPolicy? npName with
  | none => rw [exec_handleUnmanagedOptOut, found]
  | some np =>
      by_cases controlled : isControlledBy np template = true
      · simp only [controlled, if_true]
        rw [exec_handleUnmanagedOptOut, Store.networkPolicy?_unstore]
      · simp only [controlled, Bool.false_eq_true, if_false]
        rw [exec_handleUnmanagedOptOut, found]
        simp only [controlled, Bool.false_eq_true, if_false]

theorem isControlledBy_created (npName apiVersion kind : String) (rv : Nat) (template : TemplateObject)
    (spec : NetworkPolicySpec) :
    isControlledBy ⟨npName, rv, [⟨apiVersion, kind, template.name, template.uid, true⟩], spec⟩ template = true := by
  simp [isControlledBy, getControllerOf]

theorem reconcileExistingVsDesired_idem (template : TemplateObject) (npName : String) (desiredSpec : NetworkPolicySpec)
    (s : Store) :
    (reconcileExistingVsDesired quote eq templateKind template npName desiredSpec).exec fresh
        ((reconcileExistingVsDesired quote eq templateKind template npName desiredSpec).exec fresh s).2 =
      (reconcileExistingVsDesired quote eq templateKind template npName desiredSpec).exec fresh s := by
  rw [exec_reconcileExistingVsDesired quote eq templateKind template npName desiredSpec s]
  cases found : s.networkPolicy? npName with
  | none =>
      rcases templateKind with err | ⟨apiVersion, kind⟩
      · dsimp only
        rw [exec_reconcileExistingVsDesired, found]
      · dsimp only
        rw [exec_reconcileExistingVsDesired, Store.networkPolicy?_writeNetworkPolicy_self]
        simp only [isControlledBy_created, eq.spec_refl, if_true]
  | some np =>
      have named := (Store.networkPolicy?_eq_some found).1
      by_cases controlled : isControlledBy np template = true
      · by_cases same : eq.spec np.spec desiredSpec = true
        · simp only [controlled, same, if_true]
          rw [exec_reconcileExistingVsDesired, found]
          simp only [controlled, same, if_true]
        · simp only [controlled, same, Bool.false_eq_true, if_false, if_true]
          rw [exec_reconcileExistingVsDesired, ← named, Store.networkPolicy?_writeNetworkPolicy_self]
          have stillControlled : isControlledBy { np with spec := desiredSpec, resourceVersion := s.revision + 1 } template =
              true := controlled
          simp only [stillControlled, eq.spec_refl, if_true]
      · simp only [controlled, Bool.false_eq_true, if_false]
        rw [exec_reconcileExistingVsDesired, found]
        simp only [controlled, Bool.false_eq_true, if_false]

theorem templates_exec_manageNetworkPolicy (template : TemplateObject) (s : Store) :
    ((manageNetworkPolicy quote eq templateKind template).exec fresh s).2.templates = s.templates := by
  unfold manageNetworkPolicy
  split
  · rfl
  · dsimp only
    generalize (if template.networkPolicyManagement == "" then NetworkPolicyManagementManaged
      else template.networkPolicyManagement) = management
    split
    · rw [exec_handleUnmanagedOptOut]
      split
      · split
        · rfl
        · rfl
      · rfl
    · rw [exec_reconcileExistingVsDesired]
      split
      · split
        · split
          · rfl
          · rfl
        · rfl
      · split
        · rfl
        · rfl

theorem manageNetworkPolicy_idem (template : TemplateObject) (s : Store) :
    (manageNetworkPolicy quote eq templateKind template).exec fresh
        ((manageNetworkPolicy quote eq templateKind template).exec fresh s).2 =
      (manageNetworkPolicy quote eq templateKind template).exec fresh s := by
  unfold manageNetworkPolicy
  split
  · rfl
  · dsimp only
    generalize (if template.networkPolicyManagement == "" then NetworkPolicyManagementManaged
      else template.networkPolicyManagement) = management
    split
    · exact handleUnmanagedOptOut_idem _ _ s
    · exact reconcileExistingVsDesired_idem quote eq templateKind _ _ _ s

/-- A template `ensureTemplateRefHashLabel` leaves as it is: deleting, or labelled. -/
def Settled (template : TemplateObject) : Prop :=
  template.deleting = true ∨ template.labels.get SandboxTemplateRefHashLabel = SandboxTemplateRefHash template.name

theorem ensureTemplateRefHashLabel_of_settled {template : TemplateObject} (settled : Settled template) :
    ensureTemplateRefHashLabel quote ns template = pure (.ok template) := by
  unfold ensureTemplateRefHashLabel
  rcases settled with deleting | labelled
  · simp [deleting]
  · split
    · rfl
    · simp [labelled]

theorem get_mergePatch_set (m : StrMap) (k v : String) : (StrMap.mergePatch m (m.set k v) m).get k = v := by
  unfold StrMap.get
  rw [StrMap.lookup_mergePatch_of_lookup_eq_some m (StrMap.lookup_set_self m k v)]
  split
  · rename_i present
    rw [present]
    rfl
  · rfl

theorem exec_patchTemplate_of_some {s : Store} {original modified current : TemplateObject}
    (found : s.template? original.name = some current) :
    (patchTemplate original modified).exec fresh s =
      s.writeTemplate { current with labels := StrMap.mergePatch original.labels modified.labels current.labels } := by
  show s.patchTemplate original modified = _
  unfold Store.patchTemplate
  rw [found]

theorem exec_getTemplate_of_some {name : String} {s : Store} {t : TemplateObject}
    (found : s.template? name = some t) : (getTemplate name).exec fresh s = (.ok t, s) := by
  show (Claim.Adoption.Store.read (s.template? name) (s.templateHistory.filter (·.name == name)) .latest, s) = _
  rw [found]
  rfl

theorem exec_getTemplate_of_none {name : String} {s : Store}
    (absent : s.template? name = none) : (getTemplate name).exec fresh s = (.error .notFound, s) := by
  show (Claim.Adoption.Store.read (s.template? name) (s.templateHistory.filter (·.name == name)) .latest, s) = _
  rw [absent]
  rfl

theorem exec_reconcile_of_none {name : String} {s : Store} (absent : s.template? name = none) :
    (reconcile quote eq templateKind ns name).exec fresh s = (.ok (), s) := by
  unfold reconcile
  rw [exec_bind, exec_getTemplate_of_none absent]
  rfl

theorem exec_reconcile_of_settled {name : String} {s : Store} {t : TemplateObject} (found : s.template? name = some t)
    (settled : Settled t) :
    (reconcile quote eq templateKind ns name).exec fresh s = (manageNetworkPolicy quote eq templateKind t).exec fresh s := by
  unfold reconcile
  rw [exec_bind, exec_getTemplate_of_some found]
  dsimp only
  rw [ensureTemplateRefHashLabel_of_settled quote ns settled]
  rfl

/-- Run fresh, the label step labels a stored template if it is not yet; only the template is
written. -/
theorem exec_ensureTemplateRefHashLabel {s : Store} {t : TemplateObject} (found : s.template? t.name = some t) :
    ∃ t' s', (ensureTemplateRefHashLabel quote ns t).exec fresh s = (.ok t', s') ∧
      s'.template? t.name = some t' ∧ Settled t' ∧
      t' = { t with labels := t'.labels, resourceVersion := t'.resourceVersion } ∧
      s'.networkPolicies = s.networkPolicies ∧ s'.networkPolicyHistory = s.networkPolicyHistory := by
  by_cases settled : Settled t
  · refine ⟨t, s, ?_, found, settled, rfl, rfl, rfl⟩
    rw [ensureTemplateRefHashLabel_of_settled quote ns settled]
    rfl
  · have live : t.deleting = false := by simpa [Settled] using (not_or.mp settled).1
    have unlabelled := (not_or.mp settled).2
    let labelled := { t with
      labels := StrMap.mergePatch t.labels (t.labels.set SandboxTemplateRefHashLabel (SandboxTemplateRefHash t.name))
        t.labels }
    refine ⟨{ labelled with resourceVersion := s.revision + 1 }, (s.writeTemplate labelled).2, ?_,
      Store.template?_writeTemplate_self s labelled, .inr (get_mergePatch_set t.labels _ _), rfl, rfl, rfl⟩
    unfold ensureTemplateRefHashLabel
    simp only [live, Bool.false_eq_true, if_false, beq_iff_eq, unlabelled, exec_bind]
    rw [exec_patchTemplate_of_some found]
    rfl

/-- A fresh reconcile of a stored template labels it, if it is not yet, and goes on with the
labelled version; only the template is written. -/
theorem exec_reconcile_of_some {name : String} {s : Store} {t : TemplateObject} (found : s.template? name = some t) :
    ∃ t' s', (reconcile quote eq templateKind ns name).exec fresh s =
        (manageNetworkPolicy quote eq templateKind t').exec fresh s' ∧
      s'.template? name = some t' ∧ Settled t' ∧
      t' = { t with labels := t'.labels, resourceVersion := t'.resourceVersion } ∧
      s'.networkPolicies = s.networkPolicies := by
  have named := (Store.template?_eq_some found).1
  obtain ⟨t', s', ensured, stored, settled, shape, kept, -⟩ :=
    exec_ensureTemplateRefHashLabel quote ns (show s.template? t.name = some t by rw [named]; exact found)
  refine ⟨t', s', ?_, named ▸ stored, settled, shape, kept⟩
  unfold reconcile
  rw [exec_bind, exec_getTemplate_of_some found]
  dsimp only
  rw [exec_bind, ensured]

/-- The label step changes only the labels and the resourceVersion: what the policy steps read
of the template stays. -/
theorem relabelled_reads {t t' : TemplateObject}
    (shape : t' = { t with labels := t'.labels, resourceVersion := t'.resourceVersion }) :
    t'.name = t.name ∧ t'.deleting = t.deleting ∧ t'.networkPolicyManagement = t.networkPolicyManagement ∧
      desiredNetworkPolicySpec t' = desiredNetworkPolicySpec t ∧ ∀ np, isControlledBy np t' = isControlledBy np t := by
  rw [shape]
  exact ⟨rfl, rfl, rfl, rfl, fun _ => rfl⟩

theorem Settled.labelled_of_live {t : TemplateObject} (settled : Settled t) (live : t.deleting = false) :
    t.labels.get SandboxTemplateRefHashLabel = SandboxTemplateRefHash t.name := by
  rcases settled with deleting | labelled
  · rw [live] at deleting
    cases deleting
  · exact labelled

theorem manageNetworkPolicy_of_managed {template : TemplateObject} (live : template.deleting = false)
    (managed : template.networkPolicyManagement ≠ NetworkPolicyManagementUnmanaged) :
    manageNetworkPolicy quote eq templateKind template =
      reconcileExistingVsDesired quote eq templateKind template (template.name ++ "-network-policy")
        (desiredNetworkPolicySpec template) := by
  have defaulted : (if template.networkPolicyManagement == "" then NetworkPolicyManagementManaged
      else template.networkPolicyManagement) ≠ NetworkPolicyManagementUnmanaged := by
    split
    · decide
    · exact managed
  unfold manageNetworkPolicy
  simp only [live, Bool.false_eq_true, if_false]
  exact if_neg fun same => defaulted (beq_iff_eq.mp same)

theorem manageNetworkPolicy_of_unmanaged {template : TemplateObject} (live : template.deleting = false)
    (unmanaged : template.networkPolicyManagement = NetworkPolicyManagementUnmanaged) :
    manageNetworkPolicy quote eq templateKind template =
      handleUnmanagedOptOut template (template.name ++ "-network-policy") := by
  have named : (NetworkPolicyManagementUnmanaged == "") = false := by decide
  unfold manageNetworkPolicy
  simp [live, unmanaged, named]

/-- A reconcile right after a reconcile, with nothing in between, writes nothing and reports
the same: no template keeps the controller writing. -/
theorem reconcile_idempotent (name : String) (s : Store) :
    (reconcile quote eq templateKind ns name).exec fresh ((reconcile quote eq templateKind ns name).exec fresh s).2 =
      (reconcile quote eq templateKind ns name).exec fresh s := by
  cases found : s.template? name with
  | none =>
      rw [exec_reconcile_of_none quote eq templateKind ns found]
      exact exec_reconcile_of_none quote eq templateKind ns found
  | some t =>
      obtain ⟨t', s', first, stored, settled, -, -⟩ := exec_reconcile_of_some quote eq templateKind ns found
      -- the policy steps leave the labelled template stored, so the second run skips the label
      have still : ((manageNetworkPolicy quote eq templateKind t').exec fresh s').2.template? name = some t' := by
        unfold Store.template?
        rw [templates_exec_manageNetworkPolicy]
        exact stored
      rw [first, exec_reconcile_of_settled quote eq templateKind ns still settled, manageNetworkPolicy_idem]

/-- A fresh reconcile of a live template that manages its policy, where no policy the
template does not control holds the name, ends with the policy controlled by the template and
equal to the desired spec, and with the template labelled. -/
theorem reconcile_converges {name : String} {s : Store} {t : TemplateObject} {apiVersion kind : String}
    (found : s.template? name = some t) (live : t.deleting = false)
    (managed : t.networkPolicyManagement ≠ NetworkPolicyManagementUnmanaged)
    (known : templateKind = .ok (apiVersion, kind))
    (free : ∀ np, s.networkPolicy? (name ++ "-network-policy") = some np → isControlledBy np t = true) :
    ((reconcile quote eq templateKind ns name).exec fresh s).1 = .ok () ∧
      (∃ np, ((reconcile quote eq templateKind ns name).exec fresh s).2.networkPolicy? (name ++ "-network-policy") =
          some np ∧ isControlledBy np t = true ∧ eq.spec np.spec (desiredNetworkPolicySpec t) = true) ∧
      ∃ t', ((reconcile quote eq templateKind ns name).exec fresh s).2.template? name = some t' ∧
        t'.labels.get SandboxTemplateRefHashLabel = SandboxTemplateRefHash name := by
  obtain ⟨t', s', first, stored, settled, shape, unchanged⟩ := exec_reconcile_of_some quote eq templateKind ns found
  obtain ⟨renamed, deleting, management, desired, controlledBy⟩ := relabelled_reads shape
  have named : t'.name = name := renamed.trans (Store.template?_eq_some found).1
  have live' : t'.deleting = false := deleting.trans live
  have managed' : t'.networkPolicyManagement ≠ NetworkPolicyManagementUnmanaged := management ▸ managed
  have labelled := settled.labelled_of_live live'
  rw [named] at labelled
  have free' : ∀ np, s'.networkPolicy? (name ++ "-network-policy") = some np → isControlledBy np t = true := by
    intro np stored'
    apply free np
    unfold Store.networkPolicy? at stored' ⊢
    rw [← unchanged]
    exact stored'
  rw [first, manageNetworkPolicy_of_managed quote eq templateKind live' managed', exec_reconcileExistingVsDesired,
    named, desired]
  cases stored' : s'.networkPolicy? (name ++ "-network-policy") with
  | none =>
      -- created, under the controller reference of the labelled template
      rw [known]
      refine ⟨rfl, ⟨_, Store.networkPolicy?_writeNetworkPolicy_self s' _, ?_, eq.spec_refl _⟩, t', stored, labelled⟩
      rw [← controlledBy]
      simp [isControlledBy, getControllerOf]
  | some np =>
      have owned := free' np stored'
      rw [← controlledBy] at owned
      dsimp only
      by_cases same : eq.spec np.spec (desiredNetworkPolicySpec t) = true
      · rw [if_pos owned, if_pos same]
        exact ⟨rfl, ⟨np, stored', by rw [← controlledBy]; exact owned, same⟩, t', stored, labelled⟩
      · rw [if_pos owned, if_neg same]
        have name' := (Store.networkPolicy?_eq_some stored').1
        refine ⟨rfl, ⟨{ np with spec := desiredNetworkPolicySpec t, resourceVersion := s'.revision + 1 }, ?_, ?_,
          eq.spec_refl _⟩, t', stored, labelled⟩
        · rw [← name']
          exact Store.networkPolicy?_writeNetworkPolicy_self s' _
        · rw [← controlledBy]
          exact owned

/-- The drifted policy of `python` is brought back to the default spec. -/
theorem reconcile_converges_driftedStore :
    ((reconcile id DeepEqual.structural (.ok ("extensions.agents.x-k8s.io/v1beta1", "SandboxTemplate")) "default" "python").exec fresh driftedStore).1 = .ok () ∧
      (∃ np, ((reconcile id DeepEqual.structural (.ok ("extensions.agents.x-k8s.io/v1beta1", "SandboxTemplate")) "default" "python").exec fresh
          driftedStore).2.networkPolicy? ("python" ++ "-network-policy") = some np ∧
        isControlledBy np pythonTemplate = true ∧
        DeepEqual.structural.spec np.spec (desiredNetworkPolicySpec pythonTemplate) = true) ∧
      ∃ t', ((reconcile id DeepEqual.structural (.ok ("extensions.agents.x-k8s.io/v1beta1", "SandboxTemplate")) "default" "python").exec fresh
          driftedStore).2.template? "python" = some t' ∧
        t'.labels.get SandboxTemplateRefHashLabel = SandboxTemplateRefHash "python" :=
  reconcile_converges id DeepEqual.structural (.ok ("extensions.agents.x-k8s.io/v1beta1", "SandboxTemplate")) "default" (by decide +kernel) rfl (by decide) rfl
    fun np stored => by
      have current : driftedStore.networkPolicy? ("python" ++ "-network-policy") = some driftedPolicy := by
        decide +kernel
      rw [current] at stored
      cases stored
      decide +kernel

/-- A fresh reconcile of a live template that opted out leaves no policy under its name that the
template controls, keeps one of another owner, and leaves the template labelled. -/
theorem reconcile_unmanaged_cleans {name : String} {s : Store} {t : TemplateObject}
    (found : s.template? name = some t) (live : t.deleting = false)
    (unmanaged : t.networkPolicyManagement = NetworkPolicyManagementUnmanaged) :
    ((reconcile quote eq templateKind ns name).exec fresh s).1 = .ok () ∧
      (∀ np, ((reconcile quote eq templateKind ns name).exec fresh s).2.networkPolicy? (name ++ "-network-policy") =
          some np → isControlledBy np t = false) ∧
      (∀ np, s.networkPolicy? (name ++ "-network-policy") = some np → isControlledBy np t = false →
        ((reconcile quote eq templateKind ns name).exec fresh s).2.networkPolicy? (name ++ "-network-policy") =
          some np) ∧
      ∃ t', ((reconcile quote eq templateKind ns name).exec fresh s).2.template? name = some t' ∧
        t'.labels.get SandboxTemplateRefHashLabel = SandboxTemplateRefHash name := by
  obtain ⟨t', s', first, stored, settled, shape, kept⟩ := exec_reconcile_of_some quote eq templateKind ns found
  obtain ⟨renamed, deleting, management, -, controlledBy⟩ := relabelled_reads shape
  have named : t'.name = name := renamed.trans (Store.template?_eq_some found).1
  have live' : t'.deleting = false := deleting.trans live
  have unmanaged' : t'.networkPolicyManagement = NetworkPolicyManagementUnmanaged := management.trans unmanaged
  have labelled := settled.labelled_of_live live'
  rw [named] at labelled
  -- the label step writes no policy, so the policy under the name is the one stored before
  have before := Store.networkPolicy?_congr s kept (name ++ "-network-policy")
  rw [first, manageNetworkPolicy_of_unmanaged quote eq templateKind live' unmanaged', exec_handleUnmanagedOptOut, named]
  cases stored' : s'.networkPolicy? (name ++ "-network-policy") with
  | none =>
      refine ⟨rfl, fun np none => ?_, fun np was _ => ?_, t', stored, labelled⟩
      · rw [stored'] at none
        cases none
      · rw [← before, stored'] at was
        cases was
  | some np =>
      dsimp only
      by_cases owned : isControlledBy np t' = true
      · -- deleted
        rw [if_pos owned]
        refine ⟨rfl, fun np' gone => ?_, fun np' was foreign => ?_, t', stored, labelled⟩
        · rw [Store.networkPolicy?_unstore] at gone
          cases gone
        · -- the policy stored was the template's own, not another owner's
          rw [← before, stored'] at was
          cases was
          rw [← controlledBy, owned] at foreign
          cases foreign
      · -- another's policy, left as it is
        rw [if_neg owned]
        refine ⟨rfl, fun np' same => ?_, fun np' was _ => ?_, t', stored, labelled⟩
        · rw [stored'] at same
          cases same
          simpa [← controlledBy] using owned
        · rw [← before, stored'] at was
          rw [stored', was]

/-- `python` opted out; a user replaced its policy with one of their own, which the cache does
not show yet. -/
def optedOutTemplate : TemplateObject := { pythonTemplate with networkPolicyManagement := NetworkPolicyManagementUnmanaged }

def userPolicy : NetworkPolicyObject := ⟨"python-network-policy", 4, [], ⟨⟨∅, []⟩, [], [], []⟩⟩

def replacedStore : Store := ⟨[optedOutTemplate], [optedOutTemplate], [userPolicy], [userPolicy, driftedPolicy], 4⟩

theorem reconcile_unmanaged_cleans_optedOut :
    ((reconcile id DeepEqual.structural (.ok ("extensions.agents.x-k8s.io/v1beta1", "SandboxTemplate")) "default" "python").exec fresh replacedStore).1 = .ok () ∧
      (∀ np, ((reconcile id DeepEqual.structural (.ok ("extensions.agents.x-k8s.io/v1beta1", "SandboxTemplate")) "default" "python").exec fresh
          replacedStore).2.networkPolicy? ("python" ++ "-network-policy") = some np →
        isControlledBy np optedOutTemplate = false) ∧
      (∀ np, replacedStore.networkPolicy? ("python" ++ "-network-policy") = some np → isControlledBy np optedOutTemplate = false →
        ((reconcile id DeepEqual.structural (.ok ("extensions.agents.x-k8s.io/v1beta1", "SandboxTemplate")) "default" "python").exec fresh
          replacedStore).2.networkPolicy? ("python" ++ "-network-policy") = some np) ∧
      ∃ t', ((reconcile id DeepEqual.structural (.ok ("extensions.agents.x-k8s.io/v1beta1", "SandboxTemplate")) "default" "python").exec fresh
          replacedStore).2.template? "python" = some t' ∧
        t'.labels.get SandboxTemplateRefHashLabel = SandboxTemplateRefHash "python" :=
  reconcile_unmanaged_cleans id DeepEqual.structural (.ok ("extensions.agents.x-k8s.io/v1beta1", "SandboxTemplate")) "default" (by decide +kernel) rfl rfl

/-- Reads of NetworkPolicies from an informer cache `age` versions behind; every other request
answered from the stored objects. -/
def cachedNetworkPolicies (age : Nat) (s : Store) : (c : Call) → c.Response × Store
  | .getNetworkPolicy name => s.answer (.getNetworkPolicy name) (.cached age)
  | c => s.answer c .latest

/-- Whether a request reads a NetworkPolicy, the one kind the informer cache answers. -/
def Call.readsNetworkPolicy : Call → Bool
  | .getNetworkPolicy _ => true
  | _ => false

theorem cachedNetworkPolicies_eq_fresh (age : Nat) (s : Store) (c : Call) (other : c.readsNetworkPolicy = false) :
    cachedNetworkPolicies age s c = fresh s c := by
  cases c
  case getNetworkPolicy => cases other
  all_goals rfl

theorem patchTemplate_sends (original modified : TemplateObject) :
    (patchTemplate original modified).Satisfies (fun c => c.readsNetworkPolicy = false) fun _ => True :=
  .call rfl fun _ => .done trivial

theorem ensureTemplateRefHashLabel_sends (template : TemplateObject) :
    (ensureTemplateRefHashLabel quote ns template).Satisfies (fun c => c.readsNetworkPolicy = false) fun _ => True := by
  unfold ensureTemplateRefHashLabel
  split
  · exact pure_satisfies trivial
  · dsimp only
    split
    · exact pure_satisfies trivial
    · refine bind_satisfies (patchTemplate_sends _ _) fun res _ => ?_
      split
      · exact pure_satisfies trivial
      · exact pure_satisfies trivial

/-- The opt-out deletes by name with no precondition.  When the cache still shows a version the
template controlled, a reconcile deletes whatever is now stored under the name, though another
client may have put there a policy the template does not control; the label step before it
writes no policy. -/
theorem unmanaged_deletes_stored {name : String} {s : Store} {t : TemplateObject} (age : Nat)
    (found : s.template? name = some t) (live : t.deleting = false)
    (unmanaged : t.networkPolicyManagement = NetworkPolicyManagementUnmanaged)
    {current cached : NetworkPolicyObject} (stored : s.networkPolicy? (name ++ "-network-policy") = some current)
    (stale : (s.networkPolicyHistory.filter (·.name == name ++ "-network-policy"))[age]? = some cached)
    (owned : isControlledBy cached t = true) :
    ((reconcile quote eq templateKind ns name).exec (cachedNetworkPolicies age) s).1 = .ok () ∧
      ((reconcile quote eq templateKind ns name).exec (cachedNetworkPolicies age) s).2.networkPolicies =
        s.networkPolicies.filter (·.name != name ++ "-network-policy") := by
  have named : t.name = name := (Store.template?_eq_some found).1
  obtain ⟨t', s', ensured, -, -, shape, kept, keptHistory⟩ :=
    exec_ensureTemplateRefHashLabel quote ns (show s.template? t.name = some t by rw [named]; exact found)
  obtain ⟨renamed, deleting, management, -, controlledBy⟩ := relabelled_reads shape
  have cachedName : cached.name = name ++ "-network-policy" := by
    have kept := List.mem_filter.mp (List.mem_of_getElem? stale)
    simpa using kept.2
  have readTemplate : (getTemplate name).exec (cachedNetworkPolicies age) s = (.ok t, s) := by
    show (Claim.Adoption.Store.read (s.template? name) (s.templateHistory.filter (·.name == name)) .latest, s) = _
    rw [found]
    rfl
  have readCache : (getNetworkPolicy (name ++ "-network-policy")).exec (cachedNetworkPolicies age) s' =
      (.ok cached, s') := by
    show (Claim.Adoption.Store.read (s'.networkPolicy? (name ++ "-network-policy"))
      (s'.networkPolicyHistory.filter (·.name == name ++ "-network-policy")) (.cached age), s') = _
    simp only [Claim.Adoption.Store.read, keptHistory, stale]
  have storedNow : s'.networkPolicy? (name ++ "-network-policy") = some current :=
    (Store.networkPolicy?_congr s kept _).trans stored
  have deleted : (deleteNetworkPolicy cached).exec (cachedNetworkPolicies age) s' =
      (.ok (), { s' with networkPolicies := s'.networkPolicies.filter (·.name != cached.name) }) := by
    show s'.deleteNetworkPolicy cached = _
    unfold Store.deleteNetworkPolicy
    rw [cachedName, storedNow]
  have run : (reconcile quote eq templateKind ns name).exec (cachedNetworkPolicies age) s =
      (.ok (), { s' with networkPolicies := s'.networkPolicies.filter (·.name != name ++ "-network-policy") }) := by
    unfold reconcile
    rw [exec_bind, readTemplate]
    dsimp only
    -- the label step sends no read of a policy, so the cache does not change it
    rw [exec_bind, (ensureTemplateRefHashLabel_sends quote ns t).exec_congr (cachedNetworkPolicies_eq_fresh age) s,
      ensured]
    show (manageNetworkPolicy quote eq templateKind t').exec (cachedNetworkPolicies age) s' = _
    rw [manageNetworkPolicy_of_unmanaged quote eq templateKind (deleting.trans live) (management.trans unmanaged),
      renamed.trans named]
    unfold handleUnmanagedOptOut
    rw [exec_bind, readCache]
    dsimp only
    rw [if_neg (by simpa [controlledBy] using owned), exec_bind, deleted, cachedName]
    rfl
  rw [run, kept]
  exact ⟨rfl, rfl⟩

/-- The cache one version behind still shows the policy `python` controlled: the user's policy
goes. -/
theorem unmanaged_deletes_stored_replacedPolicy :
    ((reconcile id DeepEqual.structural (.ok ("extensions.agents.x-k8s.io/v1beta1", "SandboxTemplate")) "default" "python").exec
        (cachedNetworkPolicies 1) replacedStore).1 = .ok () ∧
      ((reconcile id DeepEqual.structural (.ok ("extensions.agents.x-k8s.io/v1beta1", "SandboxTemplate")) "default" "python").exec
        (cachedNetworkPolicies 1) replacedStore).2.networkPolicies =
        replacedStore.networkPolicies.filter (·.name != "python" ++ "-network-policy") :=
  unmanaged_deletes_stored id DeepEqual.structural (.ok ("extensions.agents.x-k8s.io/v1beta1", "SandboxTemplate")) "default" 1
    (by decide +kernel : replacedStore.template? "python" = some optedOutTemplate) rfl rfl
    (by decide +kernel : replacedStore.networkPolicy? ("python" ++ "-network-policy") = some userPolicy)
    (by decide +kernel : (replacedStore.networkPolicyHistory.filter (·.name == "python" ++ "-network-policy"))[1]? =
      some driftedPolicy)
    (by decide +kernel)

end Fresh

end AgentSandbox.Template
