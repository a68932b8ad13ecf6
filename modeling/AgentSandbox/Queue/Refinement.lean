import AgentSandbox.Lib.KeyedFifo
import AgentSandbox.Lib.GoStrings
import AgentSandbox.Queue.SimpleSandboxQueue

/-! # The sandbox queue refines a keyed FIFO per pool

The set of a `synchronizedQueue` is keyed by the string
`Namespace + "/" + Name` while its slice is scanned field by field.  The two
agree because Kubernetes namespaces never contain `/`: on such keys `uniqueID`
determines namespace and name.  Under that guarantee every operation keeps the
representation invariant `Valid` (the set is exactly the image of the slice,
no two items share namespace and name), and the items evolve exactly as the
entries of an abstract keyed FIFO. -/

set_option autoImplicit false

namespace AgentSandbox.Queue

/-- The identity of a key in the abstract model: namespace and name. -/
def keyOf (k : SandboxKey) : String × String := (k.namespace, k.name)

/-- The key's namespace contains no `/`, as Kubernetes namespace validation
guarantees. -/
def SlashFree (k : SandboxKey) : Prop := '/' ∉ k.namespace.toList

instance : DecidablePred SlashFree := fun k =>
  inferInstanceAs (Decidable ('/' ∉ k.namespace.toList))

theorem uniqueID_eq_iff {k k' : SandboxKey} (free : SlashFree k)
    (free' : SlashFree k') : uniqueID k = uniqueID k' ↔ keyOf k = keyOf k' := by
  constructor
  · intro same
    have split := GoStrings.append_singleton_append_inj '/' free free' same
    simp [keyOf, split.1, split.2]
  · intro same
    simp only [keyOf, Prod.mk.injEq] at same
    simp [uniqueID, same.1, same.2]

theorem sameKey_eq (k key : SandboxKey) :
    sameKey k key = decide (keyOf k = keyOf key) := by
  unfold sameKey keyOf
  by_cases sameNamespace : k.namespace = key.namespace <;>
    by_cases sameName : k.name = key.name <;> simp [sameNamespace, sameName]

namespace SynchronizedQueue

/-- The representation invariant of a `synchronizedQueue`. -/
structure Valid (q : SynchronizedQueue) : Prop where
  slashFree : ∀ k ∈ q.items, SlashFree k
  keys_nodup : (q.items.map keyOf).Nodup
  set_eq : q.set = (q.items.map uniqueID).toFinset

theorem valid_new : newSynchronizedQueue.Valid :=
  ⟨by simp [newSynchronizedQueue], by simp [newSynchronizedQueue], rfl⟩

section Spec
variable {q : SynchronizedQueue} {key : SandboxKey}

/-- On a valid queue, set membership of a `/`-free key is membership of its
namespace and name among the items. -/
theorem mem_set_iff (valid : q.Valid) (free : SlashFree key) :
    uniqueID key ∈ q.set ↔ keyOf key ∈ q.items.map keyOf := by
  rw [valid.set_eq, List.mem_toFinset, List.mem_map, List.mem_map]
  constructor
  · rintro ⟨k, member, same⟩
    exact ⟨k, member, (uniqueID_eq_iff (valid.slashFree k member) free).mp same⟩
  · rintro ⟨k, member, same⟩
    exact ⟨k, member, (uniqueID_eq_iff (valid.slashFree k member) free).mpr same⟩

theorem nodup_map_uniqueID (valid : q.Valid) : (q.items.map uniqueID).Nodup := by
  have distinct := valid.keys_nodup
  refine List.Nodup.map_on ?_ (List.Nodup.of_map keyOf distinct)
  intro x memberX y memberY same
  exact List.inj_on_of_nodup_map distinct memberX memberY
    ((uniqueID_eq_iff (valid.slashFree x memberX) (valid.slashFree y memberY)).mp same)

theorem map_uniqueID_eq (items : List SandboxKey) :
    items.map uniqueID = (items.map keyOf).map fun p => p.1 ++ "/" ++ p.2 := by
  simp [Function.comp_def, uniqueID, keyOf]

theorem removeFirst_eq_dropKey (distinct : (q.items.map keyOf).Nodup) :
    removeFirst key q.items = dropKey keyOf (keyOf key) q.items := by
  simp only [removeFirst, sameKey_eq]
  exact eraseP_eq_dropKey keyOf (keyOf key) distinct

theorem setNodeName_eq_replaceKey :
    ∀ {items : List SandboxKey}, (items.map keyOf).Nodup →
      setNodeName key items = replaceKey keyOf key items
  | [], _ => rfl
  | k :: rest, distinct => by
      rw [List.map_cons, List.nodup_cons] at distinct
      by_cases hit : keyOf k = keyOf key
      · have refreshed : { k with nodeName := key.nodeName } = key := by
          simp only [keyOf, Prod.mk.injEq] at hit
          cases k
          cases key
          simp_all
        have untouched : replaceKey keyOf key rest = rest := by
          refine (List.map_congr_left fun y member => ?_).trans (List.map_id rest)
          have other : keyOf y ≠ keyOf key := fun same =>
            distinct.1 (hit ▸ same ▸ List.mem_map_of_mem member)
          simp [other]
        simp [setNodeName, replaceKey, sameKey_eq, hit, refreshed] at untouched ⊢
        exact untouched.symm
      · simp only [setNodeName, sameKey_eq, hit, decide_false, Bool.false_eq_true,
          if_false, replaceKey, List.map_cons, List.cons.injEq, true_and]
        exact setNodeName_eq_replaceKey distinct.2

/-- `Push` of a `/`-free key keeps the queue valid and acts on the items as
the keyed FIFO's push. -/
theorem push_spec (valid : q.Valid) (free : SlashFree key) :
    (q.push key).Valid ∧ (q.push key).items = pushEntry keyOf key q.items := by
  by_cases present : keyOf key ∈ q.items.map keyOf
  · have inSet : uniqueID key ∈ q.set := (mem_set_iff valid free).mpr present
    have items : (q.push key).items = replaceKey keyOf key q.items := by
      simp [push, inSet, setNodeName_eq_replaceKey valid.keys_nodup]
    refine ⟨⟨?_, ?_, ?_⟩, by simp [items, pushEntry, present]⟩
    · rw [items]
      intro k member
      obtain ⟨y, memberY, rfl⟩ := List.mem_map.mp member
      by_cases hit : keyOf y = keyOf key
      · simpa [hit] using free
      · simpa [hit] using valid.slashFree y memberY
    · rw [items, map_key_replaceKey]
      exact valid.keys_nodup
    · simp only [push, inSet, not_true_eq_false, if_false]
      rw [valid.set_eq, setNodeName_eq_replaceKey valid.keys_nodup, map_uniqueID_eq,
        map_uniqueID_eq, map_key_replaceKey]
  · have notInSet : uniqueID key ∉ q.set := fun member =>
      present ((mem_set_iff valid free).mp member)
    have items : (q.push key).items = q.items ++ [key] := by simp [push, notInSet]
    refine ⟨⟨?_, ?_, ?_⟩, by simp [items, pushEntry, present]⟩
    · rw [items]
      intro k member
      rcases List.mem_append.mp member with old | new
      · exact valid.slashFree k old
      · rw [List.mem_singleton.mp new]
        exact free
    · rw [items]
      have pushed := nodup_pushEntry keyOf key valid.keys_nodup
      simpa [pushEntry, present] using pushed
    · simp only [push, notInSet, not_false_eq_true, if_true]
      rw [valid.set_eq]
      ext id
      simp only [Finset.mem_insert, List.mem_toFinset, List.map_append, List.mem_append, List.mem_singleton,
        List.map_cons, List.map_nil]
      exact or_comm

theorem pop_spec (valid : q.Valid) :
    q.pop.2.Valid ∧ q.pop.2.items = q.items.tail ∧
      q.pop.1 = (q.items.head?.map fun item => (item, true)).getD (SandboxKey.zero, false) := by
  have unique := nodup_map_uniqueID valid
  have setEq := valid.set_eq
  have free := valid.slashFree
  have distinct := valid.keys_nodup
  cases q with
  | mk items set =>
      cases items with
      | nil => exact ⟨valid, rfl, rfl⟩
      | cons item rest =>
          simp only [List.map_cons, List.nodup_cons] at unique distinct
          simp only [List.mem_cons, forall_eq_or_imp] at free
          refine ⟨⟨free.2, distinct.2, ?_⟩, rfl, rfl⟩
          simp only [pop] at setEq ⊢
          rw [setEq, List.map_cons, List.toFinset_cons, Finset.erase_insert]
          simpa using unique.1

/-- `Remove` of a `/`-free key keeps the queue valid and drops the key's
entry, keeping the others in order. -/
theorem remove_spec (valid : q.Valid) (free : SlashFree key) :
    (q.remove key).Valid ∧ (q.remove key).items = dropKey keyOf (keyOf key) q.items := by
  by_cases present : keyOf key ∈ q.items.map keyOf
  · have inSet : uniqueID key ∈ q.set := (mem_set_iff valid free).mpr present
    have items : (q.remove key).items = dropKey keyOf (keyOf key) q.items := by
      simp [remove, inSet, removeFirst_eq_dropKey valid.keys_nodup]
    refine ⟨⟨?_, ?_, ?_⟩, items⟩
    · rw [items]
      intro k member
      exact valid.slashFree k (List.mem_filter.mp member).1
    · rw [items]
      exact nodup_dropKey keyOf (keyOf key) valid.keys_nodup
    · simp only [remove, inSet, not_true_eq_false, if_false]
      rw [removeFirst_eq_dropKey valid.keys_nodup, valid.set_eq]
      ext id
      simp only [Finset.mem_erase, List.mem_toFinset, List.mem_map, dropKey,
        List.mem_filter, decide_eq_true_eq]
      constructor
      · rintro ⟨other, k, member, rfl⟩
        refine ⟨k, ⟨member, fun same => other ?_⟩, rfl⟩
        exact (uniqueID_eq_iff (valid.slashFree k member) free).mpr same
      · rintro ⟨k, ⟨member, other⟩, rfl⟩
        refine ⟨fun same => other ?_, k, member, rfl⟩
        exact (uniqueID_eq_iff (valid.slashFree k member) free).mp same
  · have notInSet : uniqueID key ∉ q.set := fun member =>
      present ((mem_set_iff valid free).mp member)
    have unchanged : q.remove key = q := by simp [remove, notInSet]
    rw [unchanged, dropKey_of_not_mem keyOf present]
    exact ⟨valid, rfl⟩

/-- Run alone, the verify-and-remove section finds every key whose namespace
and name are queued, and then does what `Remove` does. -/
theorem verifyAndRemove_eq (valid : q.Valid) (free : SlashFree key) :
    q.verifyAndRemove key =
      if keyOf key ∈ q.items.map keyOf then some (q.remove key) else none := by
  by_cases present : keyOf key ∈ q.items.map keyOf
  · have inSet : uniqueID key ∈ q.set := (mem_set_iff valid free).mpr present
    simp [verifyAndRemove, remove, inSet, present]
  · have notInSet : uniqueID key ∉ q.set := fun member =>
      present ((mem_set_iff valid free).mp member)
    simp [verifyAndRemove, notInSet, present]

/-- A pick that only ever chooses one of the keys it is shown. -/
def PickInArgument (pick : List SandboxKey → SandboxKey × Bool) : Prop :=
  ∀ items, (pick items).2 = true → (pick items).1 ∈ items

/-- Run alone with a pick that chooses among its argument, `PopWithStrategy`
finishes in its first pass: it reports `false` on an empty queue or a declined
pick, and otherwise removes and returns the picked key. -/
theorem popWithStrategy_spec {pick : List SandboxKey → SandboxKey × Bool}
    (picks : PickInArgument pick) (valid : q.Valid) {fuel : Nat} (enough : 0 < fuel) :
    q.popWithStrategy pick fuel =
      some (if q.items = [] then ((SandboxKey.zero, false), q)
        else if (pick q.items).2 then (((pick q.items).1, true), q.remove (pick q.items).1)
        else ((SandboxKey.zero, false), q)) := by
  obtain ⟨fuel, rfl⟩ := Nat.exists_eq_add_of_lt enough
  by_cases empty : q.items = []
  · simp [popWithStrategy, snapshot, empty]
  · have taken : q.snapshot = some q.items := by simp [snapshot, empty]
    by_cases chosen : (pick q.items).2 = true
    · have member := picks q.items chosen
      have found : keyOf (pick q.items).1 ∈ q.items.map keyOf := List.mem_map_of_mem member
      have verified := verifyAndRemove_eq valid (valid.slashFree _ member)
      rw [if_pos found] at verified
      simp [popWithStrategy, taken, chosen, verified, empty]
    · simp [popWithStrategy, taken, chosen, empty]

end Spec

end SynchronizedQueue

open SynchronizedQueue

/-! ## The abstract warm pools -/

/-- The abstract queues: one keyed FIFO of keys per namespaced warm-pool name,
keyed by namespace and name. -/
structure WarmPools where
  pool : String → KeyedFifo keyOf

namespace WarmPools

/-- No pool holds any key. -/
def empty : WarmPools := ⟨fun _ => KeyedFifo.empty⟩

/-- Replace the FIFO of one pool. -/
def update (P : WarmPools) (name : String) (F : KeyedFifo keyOf) : WarmPools :=
  ⟨Function.update P.pool name F⟩

@[simp] theorem pool_update (P : WarmPools) (name other : String) (F : KeyedFifo keyOf) :
    (P.update name F).pool other = if other = name then F else P.pool other := by
  simp [update, Function.update_apply]

@[simp] theorem update_self (P : WarmPools) (name : String) :
    P.update name (P.pool name) = P := by
  simp [update]

/-- What each call does to the abstract pools: `Add` appends an absent key or
refreshes it in place, `Get` removes and returns the head, `GetWithStrategy`
removes the picked key, `RemoveItem` removes the key and `RemoveQueue` empties
the pool.  The surviving keys keep their order. -/
def exec (P : WarmPools) : QueueOp → Option (SandboxKey × Bool) × WarmPools
  | .add name item => (none, P.update name ((P.pool name).push item))
  | .get name =>
      (some (((P.pool name).entries.head?.map fun item => (item, true)).getD
          (SandboxKey.zero, false)),
        P.update name (P.pool name).pop.2)
  | .getWithStrategy name pick =>
      if (P.pool name).entries = [] then (some (SandboxKey.zero, false), P)
      else if (pick (P.pool name).entries).2 then
        (some ((pick (P.pool name).entries).1, true),
          P.update name ((P.pool name).erase (keyOf (pick (P.pool name).entries).1)))
      else (some (SandboxKey.zero, false), P)
  | .removeItem name item => (none, P.update name ((P.pool name).erase (keyOf item)))
  | .removeQueue name => (none, P.update name KeyedFifo.empty)

/-- Run a sequence of calls on the abstract pools. -/
def run : List QueueOp → WarmPools → List (Option (SandboxKey × Bool)) × WarmPools
  | [], P => ([], P)
  | op :: rest, P => ((P.exec op).1 :: (run rest (P.exec op).2).1, (run rest (P.exec op).2).2)

end WarmPools

/-- The calls the controller makes: added and removed keys come from
Kubernetes objects, so their namespaces are `/`-free, and every pick chooses
among the keys it is shown. -/
def QueueOp.Admissible : QueueOp → Prop
  | .add _ item => SlashFree item
  | .get _ => True
  | .getWithStrategy _ pick => PickInArgument pick
  | .removeItem _ item => SlashFree item
  | .removeQueue _ => True

/-- The concrete queues represent the abstract pools: each stored queue is
valid and holds exactly its pool's entries, and a pool without a stored queue
is empty. -/
def Refines (s : SimpleSandboxQueue) (P : WarmPools) : Prop :=
  ∀ name, match s.queues name with
    | none => (P.pool name).entries = []
    | some q => q.Valid ∧ q.items = (P.pool name).entries

namespace Refines

variable {s : SimpleSandboxQueue} {P : WarmPools}

theorem new : Refines newSimpleSandboxQueue WarmPools.empty := fun _ => rfl

theorem loaded (refines : Refines s P) (name : String) :
    ((s.queues name).getD newSynchronizedQueue).Valid ∧
      ((s.queues name).getD newSynchronizedQueue).items = (P.pool name).entries := by
  have here := refines name
  cases stored : s.queues name with
  | none =>
      rw [stored] at here
      exact ⟨valid_new, here.symm⟩
  | some q =>
      rw [stored] at here
      exact here

theorem store (refines : Refines s P) {name : String} {q : SynchronizedQueue}
    {F : KeyedFifo keyOf} (valid : q.Valid) (same : q.items = F.entries) :
    Refines (s.store name q) (P.update name F) := by
  intro other
  by_cases hit : other = name
  · simp [hit, valid, same]
  · simpa [hit] using refines other

theorem store_same (refines : Refines s P) {name : String} {q : SynchronizedQueue}
    (valid : q.Valid) (same : q.items = (P.pool name).entries) :
    Refines (s.store name q) P := by
  have stored : Refines (s.store name q) (P.update name (P.pool name)) :=
    refines.store valid same
  rwa [WarmPools.update_self] at stored

theorem removeQueue (refines : Refines s P) (name : String) :
    Refines (s.removeQueue name) (P.update name KeyedFifo.empty) := by
  intro other
  by_cases hit : other = name
  · simp [hit]
  · simpa [hit] using refines other

end Refines

/-- One call on a represented state: the concrete call returns what the
abstract call returns, and the new states are again related. -/
theorem exec_refines {s : SimpleSandboxQueue} {P : WarmPools} {fuel : Nat}
    (enough : 0 < fuel) (refines : Refines s P) (op : QueueOp)
    (admissible : op.Admissible) :
    ∃ next, s.exec fuel op = some ((P.exec op).1, next) ∧ Refines next (P.exec op).2 := by
  cases op with
  | add name item =>
      obtain ⟨valid, same⟩ := refines.loaded name
      obtain ⟨pushed, items⟩ := push_spec valid admissible
      refine ⟨_, rfl, refines.store pushed ?_⟩
      rw [items, same]
      rfl
  | get name =>
      have here := refines name
      cases stored : s.queues name with
      | none =>
          rw [stored] at here
          refine ⟨s, by simp [SimpleSandboxQueue.exec, SimpleSandboxQueue.get, stored,
            WarmPools.exec, here], ?_⟩
          intro other
          by_cases hit : other = name
          · simp [WarmPools.exec, hit, stored, here]
          · simpa [WarmPools.exec, hit] using refines other
      | some q =>
          rw [stored] at here
          obtain ⟨valid, same⟩ := here
          obtain ⟨popped, items, result⟩ := pop_spec valid
          refine ⟨_, by simp [SimpleSandboxQueue.exec, SimpleSandboxQueue.get, stored,
            WarmPools.exec, result, same], refines.store popped ?_⟩
          rw [items, same]
          rfl
  | getWithStrategy name pick =>
      have here := refines name
      cases stored : s.queues name with
      | none =>
          rw [stored] at here
          exact ⟨s, by simp [SimpleSandboxQueue.exec, SimpleSandboxQueue.getWithStrategy,
            stored, WarmPools.exec, here], by simpa [WarmPools.exec, here] using refines⟩
      | some q =>
          rw [stored] at here
          obtain ⟨valid, same⟩ := here
          have ran := popWithStrategy_spec admissible valid enough
          rw [same] at ran
          by_cases empty : (P.pool name).entries = []
          · refine ⟨s.store name q, by simp [SimpleSandboxQueue.exec,
              SimpleSandboxQueue.getWithStrategy, stored, ran, empty, WarmPools.exec], ?_⟩
            simpa [WarmPools.exec, empty] using refines.store_same valid same
          · by_cases chosen : (pick (P.pool name).entries).2 = true
            · have member : (pick (P.pool name).entries).1 ∈ q.items := by
                rw [same]
                exact admissible _ chosen
              obtain ⟨removed, items⟩ := remove_spec valid (valid.slashFree _ member)
              have abstract : P.exec (.getWithStrategy name pick) =
                  (some ((pick (P.pool name).entries).1, true),
                    P.update name
                      ((P.pool name).erase (keyOf (pick (P.pool name).entries).1))) := by
                simp [WarmPools.exec, empty, chosen]
              rw [abstract]
              refine ⟨s.store name (q.remove (pick (P.pool name).entries).1),
                by simp [SimpleSandboxQueue.exec, SimpleSandboxQueue.getWithStrategy, stored,
                  ran, empty, chosen], refines.store removed ?_⟩
              rw [items, same]
              rfl
            · refine ⟨s.store name q, by simp [SimpleSandboxQueue.exec,
                SimpleSandboxQueue.getWithStrategy, stored, ran, empty, chosen,
                WarmPools.exec], ?_⟩
              simpa [WarmPools.exec, empty, chosen] using refines.store_same valid same
  | removeItem name item =>
      have here := refines name
      cases stored : s.queues name with
      | none =>
          rw [stored] at here
          refine ⟨s, by simp [SimpleSandboxQueue.exec, SimpleSandboxQueue.removeItem,
            stored, WarmPools.exec], ?_⟩
          intro other
          by_cases hit : other = name
          · simp [WarmPools.exec, hit, stored, here, dropKey]
          · simpa [WarmPools.exec, hit] using refines other
      | some q =>
          rw [stored] at here
          obtain ⟨valid, same⟩ := here
          obtain ⟨removed, items⟩ := remove_spec valid admissible
          refine ⟨_, by simp [SimpleSandboxQueue.exec, SimpleSandboxQueue.removeItem,
            stored, WarmPools.exec], refines.store removed ?_⟩
          rw [items, same]
          rfl
  | removeQueue name => exact ⟨_, rfl, refines.removeQueue name⟩

/-- Any sequence of admissible calls on a represented state: the concrete run
terminates with the abstract run's results and a state that again represents
the abstract pools. -/
theorem run_refines {fuel : Nat} (enough : 0 < fuel) :
    ∀ (ops : List QueueOp) (s : SimpleSandboxQueue) (P : WarmPools),
      (∀ op ∈ ops, op.Admissible) → Refines s P →
      ∃ final, SimpleSandboxQueue.run fuel ops s = some ((P.run ops).1, final) ∧
        Refines final (P.run ops).2
  | [], s, _, _, refines => ⟨s, rfl, refines⟩
  | op :: rest, s, P, admissible, refines => by
      obtain ⟨next, step, related⟩ :=
        exec_refines enough refines op (admissible op List.mem_cons_self)
      obtain ⟨final, tail, finalRelated⟩ :=
        run_refines enough rest next (P.exec op).2
          (fun op' member => admissible op' (List.mem_cons_of_mem op member)) related
      exact ⟨final, by simp [SimpleSandboxQueue.run, step, tail, WarmPools.run],
        finalRelated⟩

/-- The pick that takes the oldest key. -/
def pickOldest (items : List SandboxKey) : SandboxKey × Bool :=
  match items with
  | [] => (SandboxKey.zero, false)
  | item :: _ => (item, true)

theorem pickOldest_inArgument : PickInArgument pickOldest := by
  intro items chosen
  cases items with
  | nil => simp [pickOldest] at chosen
  | cons item rest => simp [pickOldest]

/-- Every sequence of admissible calls on a new `SimpleSandboxQueue`
terminates (one pass of each `PopWithStrategy` loop suffices) with exactly
the results of the abstract keyed FIFOs, and leaves every per-pool queue
valid, holding its pool's abstract entries in order. -/
theorem simpleSandboxQueue_refines_keyedFifo {fuel : Nat} (enough : 0 < fuel)
    (ops : List QueueOp) (admissible : ∀ op ∈ ops, op.Admissible) :
    ∃ final, SimpleSandboxQueue.run fuel ops newSimpleSandboxQueue =
        some ((WarmPools.empty.run ops).1, final) ∧
      Refines final (WarmPools.empty.run ops).2 :=
  run_refines enough ops newSimpleSandboxQueue WarmPools.empty admissible Refines.new

/-- Refreshing a queued key keeps its place: the pick still sees `sb-1` first. -/
example : (SimpleSandboxQueue.run 1
      [QueueOp.add "default/pool" ⟨"default", "sb-1", ""⟩,
        QueueOp.add "default/pool" ⟨"default", "sb-2", "node-a"⟩,
        QueueOp.add "default/pool" ⟨"default", "sb-1", "node-b"⟩,
        QueueOp.getWithStrategy "default/pool" pickOldest] newSimpleSandboxQueue).map (·.1) =
    some [none, none, none, some (⟨"default", "sb-1", "node-b"⟩, true)] := by
  decide

theorem simpleSandboxQueue_refines_keyedFifo_twoAddsThenPick :
    0 < 1 ∧
      (∀ op ∈ [QueueOp.add "default/pool" ⟨"default", "sb-1", ""⟩,
          QueueOp.add "default/pool" ⟨"default", "sb-2", "node-a"⟩,
          QueueOp.getWithStrategy "default/pool" pickOldest], op.Admissible) ∧
      ∃ final, SimpleSandboxQueue.run 1
          [QueueOp.add "default/pool" ⟨"default", "sb-1", ""⟩,
            QueueOp.add "default/pool" ⟨"default", "sb-2", "node-a"⟩,
            QueueOp.getWithStrategy "default/pool" pickOldest] newSimpleSandboxQueue =
          some ((WarmPools.empty.run
            [QueueOp.add "default/pool" ⟨"default", "sb-1", ""⟩,
              QueueOp.add "default/pool" ⟨"default", "sb-2", "node-a"⟩,
              QueueOp.getWithStrategy "default/pool" pickOldest]).1, final) ∧
        Refines final (WarmPools.empty.run
          [QueueOp.add "default/pool" ⟨"default", "sb-1", ""⟩,
            QueueOp.add "default/pool" ⟨"default", "sb-2", "node-a"⟩,
            QueueOp.getWithStrategy "default/pool" pickOldest]).2 := by
  have admissible : ∀ op ∈ [QueueOp.add "default/pool" ⟨"default", "sb-1", ""⟩,
      QueueOp.add "default/pool" ⟨"default", "sb-2", "node-a"⟩,
      QueueOp.getWithStrategy "default/pool" pickOldest], op.Admissible := by
    intro op member
    simp only [List.mem_cons, List.not_mem_nil, or_false] at member
    rcases member with rfl | rfl | rfl
    · simp [QueueOp.Admissible, SlashFree]
    · simp [QueueOp.Admissible, SlashFree]
    · exact pickOldest_inArgument
  exact ⟨Nat.one_pos, admissible,
    simpleSandboxQueue_refines_keyedFifo Nat.one_pos _ admissible⟩

end AgentSandbox.Queue
