import Mathlib.Data.Finset.Basic
import Mathlib.Logic.Function.Basic

/-! # The warm-pool sandbox queue

Model of `extensions/controllers/queue/simple_sandbox_queue.go`.  A
`synchronizedQueue` keeps a slice of keys together with a set of
`Namespace + "/" + Name` strings used for deduplication, and a
`SimpleSandboxQueue` maps namespaced warm-pool names to such queues.

Each method body is one critical section of the queue's mutex and is one
function here.  `PopWithStrategy` releases the mutex between taking a snapshot
and removing the picked key: its two critical sections are `snapshot` and
`verifyAndRemove`, the pick runs between them, and its `for` loop is driven by
explicit fuel (`none` only when the fuel runs out).  The `sync.Map` of pools is
a function from pool names to optional queues. -/

set_option autoImplicit false

namespace AgentSandbox.Queue

structure SandboxKey where
  «namespace» : String
  name : String
  nodeName : String
deriving DecidableEq, Repr

/-- `SandboxKey{}`, returned together with `false`. -/
def SandboxKey.zero : SandboxKey := ⟨"", "", ""⟩

/-- `key.Namespace + "/" + key.Name`, the string the set deduplicates on. -/
def uniqueID (key : SandboxKey) : String := key.namespace ++ "/" ++ key.name

/-- The field-by-field comparison used when scanning the slice. -/
def sameKey (k key : SandboxKey) : Bool :=
  k.namespace == key.namespace && k.name == key.name

/-- `synchronizedQueue` without its mutex. -/
structure SynchronizedQueue where
  items : List SandboxKey
  set : Finset String

def newSynchronizedQueue : SynchronizedQueue := ⟨[], ∅⟩

namespace SynchronizedQueue

/-- The update loop of `Push`: refresh the `NodeName` of the first item that
matches `key`, then `break`. -/
def setNodeName (key : SandboxKey) : List SandboxKey → List SandboxKey
  | [] => []
  | k :: rest =>
      if sameKey k key then { k with nodeName := key.nodeName } :: rest
      else k :: setNodeName key rest

/-- Shift-left removal of the first item matching `key`, as in `Remove` and
`PopWithStrategy`. -/
def removeFirst (key : SandboxKey) (items : List SandboxKey) : List SandboxKey :=
  items.eraseP fun k => sameKey k key

/-- `Push`: add the key if its `uniqueID` is new, otherwise update the
`NodeName` of the queued item in place. -/
def push (q : SynchronizedQueue) (key : SandboxKey) : SynchronizedQueue :=
  if uniqueID key ∉ q.set then
    { items := q.items ++ [key], set := insert (uniqueID key) q.set }
  else
    { q with items := setNodeName key q.items }

/-- `Pop`: remove and return the first item. -/
def pop (q : SynchronizedQueue) : (SandboxKey × Bool) × SynchronizedQueue :=
  match q.items with
  | [] => ((SandboxKey.zero, false), q)
  | item :: rest => ((item, true), { items := rest, set := q.set.erase (uniqueID item) })

/-- `Remove`: delete the key from the set, then its first match from the
slice; nothing happens when the set does not hold it. -/
def remove (q : SynchronizedQueue) (key : SandboxKey) : SynchronizedQueue :=
  if uniqueID key ∉ q.set then q
  else { items := removeFirst key q.items, set := q.set.erase (uniqueID key) }

/-- First critical section of `PopWithStrategy`: `none` when the queue is
empty, otherwise a copy of its items. -/
def snapshot (q : SynchronizedQueue) : Option (List SandboxKey) :=
  if q.items.isEmpty then none else some q.items

/-- Second critical section of `PopWithStrategy`: `none` when the picked key
has vanished from the set (the loop goes round again), otherwise the queue
with the key removed from the slice and the set. -/
def verifyAndRemove (q : SynchronizedQueue) (key : SandboxKey) :
    Option SynchronizedQueue :=
  if uniqueID key ∉ q.set then none
  else some { items := removeFirst key q.items, set := q.set.erase (uniqueID key) }

/-- `PopWithStrategy` run alone on the queue, one unit of fuel per pass of its
`for` loop.  The result is `none` only when the fuel runs out. -/
def popWithStrategy (pick : List SandboxKey → SandboxKey × Bool) :
    Nat → SynchronizedQueue → Option ((SandboxKey × Bool) × SynchronizedQueue)
  | 0, _ => none
  | fuel + 1, q =>
      match q.snapshot with
      | none => some ((SandboxKey.zero, false), q)
      | some items =>
          if (pick items).2 then
            match q.verifyAndRemove (pick items).1 with
            | none => popWithStrategy pick fuel q
            | some next => some (((pick items).1, true), next)
          else some ((SandboxKey.zero, false), q)

end SynchronizedQueue

/-- `SimpleSandboxQueue`: the `sync.Map` from namespaced warm-pool names to
queues. -/
structure SimpleSandboxQueue where
  queues : String → Option SynchronizedQueue

def newSimpleSandboxQueue : SimpleSandboxQueue := ⟨fun _ => none⟩

def getNamespacedWarmPoolName (namespace_ warmPoolName : String) : String :=
  namespace_ ++ "/" ++ warmPoolName

/-- One call through the `SandboxQueue` interface. -/
inductive QueueOp
  | add (pool : String) (item : SandboxKey)
  | get (pool : String)
  | getWithStrategy (pool : String) (pick : List SandboxKey → SandboxKey × Bool)
  | removeItem (pool : String) (item : SandboxKey)
  | removeQueue (pool : String)

namespace SimpleSandboxQueue

def store (s : SimpleSandboxQueue) (pool : String) (q : SynchronizedQueue) :
    SimpleSandboxQueue :=
  ⟨Function.update s.queues pool (some q)⟩

/-- `Add`: `LoadOrStore` a fresh queue, then `Push`. -/
def add (s : SimpleSandboxQueue) (pool : String) (item : SandboxKey) :
    SimpleSandboxQueue :=
  s.store pool (((s.queues pool).getD newSynchronizedQueue).push item)

/-- `Get`: `(SandboxKey{}, false)` for an unknown pool, otherwise `Pop`. -/
def get (s : SimpleSandboxQueue) (pool : String) :
    (SandboxKey × Bool) × SimpleSandboxQueue :=
  match s.queues pool with
  | none => ((SandboxKey.zero, false), s)
  | some q => (q.pop.1, s.store pool q.pop.2)

/-- `GetWithStrategy`: `(SandboxKey{}, false)` for an unknown pool, otherwise
`PopWithStrategy` with the given fuel. -/
def getWithStrategy (s : SimpleSandboxQueue) (pool : String)
    (pick : List SandboxKey → SandboxKey × Bool) (fuel : Nat) :
    Option ((SandboxKey × Bool) × SimpleSandboxQueue) :=
  match s.queues pool with
  | none => some ((SandboxKey.zero, false), s)
  | some q => (q.popWithStrategy pick fuel).map fun out => (out.1, s.store pool out.2)

/-- `RemoveItem`: `Remove` on the pool's queue, if the pool is known. -/
def removeItem (s : SimpleSandboxQueue) (pool : String) (item : SandboxKey) :
    SimpleSandboxQueue :=
  match s.queues pool with
  | none => s
  | some q => s.store pool (q.remove item)

/-- `RemoveQueue`: drop the pool's queue from the map. -/
def removeQueue (s : SimpleSandboxQueue) (pool : String) : SimpleSandboxQueue :=
  ⟨Function.update s.queues pool none⟩

@[simp] theorem queues_store (s : SimpleSandboxQueue) (pool : String)
    (q : SynchronizedQueue) (other : String) :
    (s.store pool q).queues other = if other = pool then some q else s.queues other := by
  simp [store, Function.update_apply]

@[simp] theorem queues_removeQueue (s : SimpleSandboxQueue) (pool other : String) :
    (s.removeQueue pool).queues other = if other = pool then none else s.queues other := by
  simp [removeQueue, Function.update_apply]

/-- Run one call; `Get` and `GetWithStrategy` report their result, the other
calls report `none`.  The fuel bounds each `PopWithStrategy` loop. -/
def exec (fuel : Nat) (s : SimpleSandboxQueue) :
    QueueOp → Option (Option (SandboxKey × Bool) × SimpleSandboxQueue)
  | .add pool item => some (none, s.add pool item)
  | .get pool => some (some (s.get pool).1, (s.get pool).2)
  | .getWithStrategy pool pick =>
      (s.getWithStrategy pool pick fuel).map fun out => (some out.1, out.2)
  | .removeItem pool item => some (none, s.removeItem pool item)
  | .removeQueue pool => some (none, s.removeQueue pool)

def run (fuel : Nat) :
    List QueueOp → SimpleSandboxQueue →
      Option (List (Option (SandboxKey × Bool)) × SimpleSandboxQueue)
  | [], s => some ([], s)
  | op :: rest, s =>
      match s.exec fuel op with
      | none => none
      | some (result, next) =>
          (run fuel rest next).map fun out => (result :: out.1, out.2)

end SimpleSandboxQueue

end AgentSandbox.Queue
