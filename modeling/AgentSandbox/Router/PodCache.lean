import AgentSandbox.Lib.LastWrite
import AgentSandbox.Controller.SandboxConditions

/-!
# The router's Pod-IP cache

Model of `sandbox-router/cache/cache.go`: the map from a Sandbox's UID to the
address of its Pod that a Pod informer keeps (`onAddOrUpdate`, `onDelete`,
`upsert`, `remove`) and that the proxy reads and evicts (`Get`, `Invalidate`).
The informer hands its handlers an `any`; here that is an `Object`: a Pod, the
`DeletedFinalStateUnknown` tombstone around the last state the informer knew, or
a value of another type.  Logging, the informer's list options and its
lifecycle (`Start`, `WaitForSync`) are left out.

Each informer event is one write to the map or none (`handle_entries`), so the
cache after any run of events holds, for each UID, what the last event about
that UID said (`get_run`): the address of a Ready Pod that the Sandbox controls,
or nothing, and an entry is always the address of such a Pod as some event
delivered it (`get_run_eq_some`).
-/

set_option autoImplicit false

namespace AgentSandbox.Router

open LastWrite
open Controller (PodCondition PodReady)

def SandboxAPIGroup : String := "agents.x-k8s.io"
def SandboxKind : String := "Sandbox"

/-- The fields of a Pod's `metav1.OwnerReference` that the cache reads. -/
structure OwnerReference where
  apiVersion : String
  kind : String
  uid : String
  controller : Option Bool
deriving DecidableEq, Repr

/-- The fields of a `corev1.Pod` that the cache reads. -/
structure Pod where
  name : String
  «namespace» : String
  ownerReferences : List OwnerReference
  /-- `Status.PodIP` -/
  podIP : String
  /-- `Status.Conditions` -/
  conditions : List PodCondition
deriving DecidableEq, Repr

/-- An informer's `obj any`. -/
inductive Object
  | pod (pod : Pod)
  /-- `cache.DeletedFinalStateUnknown`, with its `Obj` -/
  | deletedFinalStateUnknown (obj : Object)
  | other
deriving DecidableEq, Repr

/-- `apiVersionInGroup`: the version is the group itself, or its part before the
first `/` is.  Go's loop runs over bytes; `/` is one byte, and no byte of a
multi-byte character is `/`, so the first `/` byte is the first `/` character. -/
def apiVersionInGroup (apiVersion group : String) : Bool :=
  if apiVersion == group then true
  else if '/' ∈ apiVersion.toList then String.ofList (apiVersion.toList.takeWhile (· != '/')) == group
  else false

/-- `sandboxUIDOf`: the UID of the first controller reference to a Sandbox of the group. -/
def sandboxUIDOf (pod : Pod) : Option String :=
  (pod.ownerReferences.find? fun ref =>
      ref.controller == some true && ref.kind == SandboxKind &&
        apiVersionInGroup ref.apiVersion SandboxAPIGroup).map OwnerReference.uid

/-- `podReady`: the first `PodReady` condition decides. -/
def podReady (pod : Pod) : Bool :=
  match pod.conditions.find? (·.type == PodReady) with
  | some c => c.status == .conditionTrue
  | none => false

structure Entry where
  podIP : String
  sandboxName : String
  «namespace» : String
deriving DecidableEq, Repr

/-- `Cache.entries`, a `map[types.UID]Entry`. -/
structure Cache where
  entries : AList fun _ : String => Entry

namespace Cache

/-- The cache `New` builds: no entries. -/
def new : Cache := ⟨∅⟩

def get (c : Cache) (uid : String) : Option Entry := c.entries.lookup uid

def len (c : Cache) : Nat := c.entries.entries.length

def upsert (c : Cache) (uid : String) (e : Entry) : Cache := ⟨c.entries.insert uid e⟩

def remove (c : Cache) (uid : String) : Cache := ⟨c.entries.erase uid⟩

/-- `Invalidate`: evict `uid`, and say whether it had an entry. -/
def invalidate (c : Cache) (uid : String) : Bool × Cache :=
  ((c.entries.lookup uid).isSome, ⟨c.entries.erase uid⟩)

def onAddOrUpdate (c : Cache) (obj : Object) : Cache :=
  match obj with
  | .pod pod =>
      match sandboxUIDOf pod with
      | none => c
      | some uid =>
          if !podReady pod || pod.podIP == "" then c.remove uid
          else c.upsert uid ⟨pod.podIP, pod.name, pod.namespace⟩
  | _ => c

/-- The object `onDelete` reads: a tombstone is unwrapped once. -/
def unwrapDeleted : Object → Object
  | .deletedFinalStateUnknown obj => obj
  | obj => obj

def onDelete (c : Cache) (obj : Object) : Cache :=
  match unwrapDeleted obj with
  | .pod pod =>
      match sandboxUIDOf pod with
      | some uid => c.remove uid
      | none => c
  | _ => c

end Cache

/-- The calls of the handlers `New` registers with the informer. -/
inductive InformerEvent
  | add (obj : Object)
  | update (oldObj newObj : Object)
  | delete (obj : Object)
deriving DecidableEq, Repr

namespace Cache

/-- `AddFunc`, `UpdateFunc` (which reads only the new object) and `DeleteFunc`. -/
def handle (c : Cache) : InformerEvent → Cache
  | .add obj => c.onAddOrUpdate obj
  | .update _ newObj => c.onAddOrUpdate newObj
  | .delete obj => c.onDelete obj

def run (c : Cache) (events : List InformerEvent) : Cache := events.foldl handle c

end Cache

/-! ## What an event says about a Sandbox's entry -/

/-- The entry a Pod's state asks for: its address, when it is Ready and has one. -/
def Pod.entry? (pod : Pod) : Option Entry :=
  if podReady pod && pod.podIP != "" then some ⟨pod.podIP, pod.name, pod.namespace⟩ else none

/-- The Pod state an add or an update delivers. -/
def InformerEvent.current? : InformerEvent → Option Pod
  | .add (.pod pod) => some pod
  | .update _ (.pod pod) => some pod
  | _ => none

/-- The Pod a delete reports gone, through one tombstone. -/
def InformerEvent.deleted? : InformerEvent → Option Pod
  | .delete obj =>
      match Cache.unwrapDeleted obj with
      | .pod pod => some pod
      | _ => none
  | _ => none

/-- The write an event asks of the map: for the Sandbox that controls the Pod, the entry
the Pod's new state asks for, or a removal when the Pod is deleted. -/
def InformerEvent.write (event : InformerEvent) : Option (Write String Entry) :=
  match event.current?, event.deleted? with
  | some pod, _ => (sandboxUIDOf pod).map fun uid => ⟨uid, pod.entry?⟩
  | none, some pod => (sandboxUIDOf pod).map fun uid => ⟨uid, none⟩
  | none, none => none

theorem Pod.entry?_eq_some_iff {pod : Pod} {e : Entry} :
    pod.entry? = some e ↔ podReady pod = true ∧ pod.podIP ≠ "" ∧ e = ⟨pod.podIP, pod.name, pod.namespace⟩ := by
  unfold Pod.entry?
  by_cases ready : podReady pod = true <;> by_cases noIP : pod.podIP = "" <;>
    simp [ready, noIP, @eq_comm _ _ e]

namespace Cache

variable (c : Cache)

@[simp] theorem entries_remove (uid : String) : (c.remove uid).entries = c.entries.erase uid := rfl

@[simp] theorem entries_upsert (uid : String) (e : Entry) :
    (c.upsert uid e).entries = c.entries.insert uid e := rfl

theorem entries_onAddOrUpdate_pod (pod : Pod) :
    (c.onAddOrUpdate (.pod pod)).entries =
      ((sandboxUIDOf pod).map fun uid => (⟨uid, pod.entry?⟩ : Write String Entry)).elim c.entries
        (Write.apply c.entries) := by
  cases controlled : sandboxUIDOf pod with
  | none => simp [onAddOrUpdate, controlled]
  | some uid =>
      -- the guard `!podReady pod || pod.podIP == ""` is the negation of `Pod.entry?`'s
      by_cases ready : podReady pod = true <;> by_cases noIP : pod.podIP = "" <;>
        simp [onAddOrUpdate, controlled, ready, noIP, Pod.entry?, Write.apply]

theorem handle_entries (event : InformerEvent) :
    (c.handle event).entries = event.write.elim c.entries (Write.apply c.entries) := by
  cases event with
  | add obj =>
      cases obj with
      | pod pod => exact entries_onAddOrUpdate_pod c pod
      | deletedFinalStateUnknown obj => rfl
      | other => rfl
  | update oldObj newObj =>
      cases newObj with
      | pod pod => exact entries_onAddOrUpdate_pod c pod
      | deletedFinalStateUnknown obj => rfl
      | other => rfl
  | delete obj =>
      -- after one unwrapping, only a Pod is read
      have unwrapped : ∀ inner, unwrapDeleted obj = inner →
          (c.handle (.delete obj)).entries = (InformerEvent.delete obj).write.elim c.entries
            (Write.apply c.entries) := by
        rintro (pod | inner | _) found <;>
          simp only [handle, onDelete, found, InformerEvent.write, InformerEvent.current?,
            InformerEvent.deleted?]
        all_goals try rfl
        cases sandboxUIDOf pod <;> rfl
      exact unwrapped _ rfl

theorem acts : Acts entries InformerEvent.write handle := handle_entries

end Cache

/-! ## Whole runs of the informer -/

/-- After any run of informer events, the cache holds for each UID what the last event
about that UID asked for, or what it held before when no event is about it. -/
theorem get_run (c : Cache) (events : List InformerEvent) (uid : String) :
    (c.run events).get uid = (lastWrite (events.filterMap InformerEvent.write) uid).getD (c.get uid) :=
  lookup_entries_foldl Cache.acts events c uid

/-- The event behind a write that sets an entry: an add or update of a Ready Pod with an
address, controlled by the Sandbox. -/
theorem write_eq_some_entry {event : InformerEvent} {uid : String} {e : Entry}
    (wrote : event.write = some ⟨uid, some e⟩) :
    ∃ pod, event.current? = some pod ∧ sandboxUIDOf pod = some uid ∧ pod.entry? = some e := by
  unfold InformerEvent.write at wrote
  cases current : event.current? with
  | some pod =>
      rw [current] at wrote
      obtain ⟨uid', controlled, written⟩ := Option.map_eq_some_iff.mp wrote
      simp only [Write.mk.injEq] at written
      obtain ⟨rfl, asked⟩ := written
      exact ⟨pod, rfl, controlled, asked⟩
  | none =>
      rw [current] at wrote
      cases deleted : event.deleted? with
      | none => simp [deleted] at wrote
      | some pod => simp [deleted] at wrote

/-- Every entry of a cache that started empty is the address of a Ready Pod controlled by
the Sandbox, as an add or update of the run delivered it, and no later event of the run
is about that Sandbox. -/
theorem get_run_eq_some {events : List InformerEvent} {uid : String} {e : Entry}
    (found : (Cache.new.run events).get uid = some e) :
    ∃ pre event post pod, events = pre ++ event :: post ∧ event.current? = some pod ∧
      sandboxUIDOf pod = some uid ∧ podReady pod = true ∧ pod.podIP ≠ "" ∧
      e = ⟨pod.podIP, pod.name, pod.namespace⟩ ∧
      ∀ later ∈ post, ∀ w, later.write = some w → w.key ≠ uid := by
  rw [get_run] at found
  cases last : lastWrite (events.filterMap InformerEvent.write) uid with
  | none => simp [last, Cache.get, Cache.new, AList.lookup_empty] at found
  | some said =>
      rw [last, Option.getD_some] at found
      subst found
      obtain ⟨pre, event, post, split, wrote, quiet⟩ := lastWrite_filterMap_eq_some last
      obtain ⟨pod, current, controlled, asked⟩ := write_eq_some_entry wrote
      obtain ⟨ready, hasIP, rfl⟩ := Pod.entry?_eq_some_iff.mp asked
      exact ⟨pre, event, post, pod, split, current, controlled, ready, hasIP, rfl, quiet⟩

end AgentSandbox.Router
