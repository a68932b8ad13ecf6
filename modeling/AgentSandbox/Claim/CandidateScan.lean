import AgentSandbox.Claim.Adoption
import AgentSandbox.Queue.Refinement

/-!
# The candidate scan of `getCandidate`

`getCandidate` (`extensions/controllers/sandboxclaim_controller.go`) pops its
pool's queue with `GetWithStrategy(pool, pickSmart)`.  `PopWithStrategy` loops
until the key it picked is still queued when it comes to remove it, so it ends
only because `pickSmart` returns one of the keys it is shown.  Run alone on a
queue that a sequential run of admissible calls built, it ends in its first
pass and removes exactly the picked key.
-/

set_option autoImplicit false

namespace AgentSandbox.Claim.Adoption

open Queue SynchronizedQueue

/-! ## `pickSmart` -/

/-- The number of keys scheduled on `node`. -/
def nodeCount (keys : List SandboxKey) (node : String) : Nat :=
  (keys.filter (·.nodeName == node)).length

/-- The keys with a node, which `pickSmart` groups and counts. -/
def scheduledKeys (keys : List SandboxKey) : List SandboxKey := keys.filter (·.nodeName != "")

theorem nodeCount_scheduledKeys (keys : List SandboxKey) {node : String} (named : node ≠ "") :
    nodeCount (scheduledKeys keys) node = nodeCount keys node := by
  unfold nodeCount scheduledKeys
  rw [List.filter_filter]
  congr 1
  refine List.filter_congr fun k _ => ?_
  by_cases hit : k.nodeName = node
  · simp [hit, named]
  · simp [hit]

theorem mem_scheduledKeys {keys : List SandboxKey} {k : SandboxKey} :
    k ∈ scheduledKeys keys ↔ k ∈ keys ∧ k.nodeName ≠ "" := by
  simp [scheduledKeys]

/-- What `pickSmart` returns among scheduled keys: the first key of the
largest count. -/
def FirstOfLargestNode (keys : List SandboxKey) (k : SandboxKey) : Prop :=
  ∃ pre post, keys = pre ++ k :: post ∧ k.nodeName ≠ "" ∧
    (∀ k' ∈ keys, k'.nodeName ≠ "" → nodeCount keys k'.nodeName ≤ nodeCount keys k.nodeName) ∧
    ∀ k' ∈ pre, k'.nodeName ≠ "" → nodeCount keys k'.nodeName < nodeCount keys k.nodeName

/-- The scheduled branch of `pickSmart`: the largest count is attained, and the
first key attaining it is the first of the largest node.  The counts are read
through `List.max`, of which the code's fold from `0` is a form. -/
theorem firstOfLargestNode_scheduled (keys : List SandboxKey) (scheduled : scheduledKeys keys ≠ []) :
    FirstOfLargestNode keys
      ((scheduledKeys keys).filter (fun key =>
        nodeCount (scheduledKeys keys) key.nodeName ==
          ((scheduledKeys keys).map fun key => nodeCount (scheduledKeys keys) key.nodeName).foldl max 0)
        |>.headD SandboxKey.zero) := by
  have countsNonempty : ((scheduledKeys keys).map fun key => nodeCount (scheduledKeys keys) key.nodeName) ≠ [] := by
    simpa using scheduled
  set counts := (scheduledKeys keys).map fun key => nodeCount (scheduledKeys keys) key.nodeName
  have maxCount : counts.foldl max 0 = counts.max countsNonempty := by
    rw [List.foldl_max_eq_max countsNonempty, Nat.zero_max]
  rw [maxCount]
  -- the largest count is some scheduled key's count, and bounds all of them
  obtain ⟨k0, k0Scheduled, k0Count⟩ := List.mem_map.mp (List.max_mem countsNonempty)
  have bounded : ∀ k ∈ scheduledKeys keys, nodeCount keys k.nodeName ≤ counts.max countsNonempty := by
    intro k scheduledK
    have member : nodeCount (scheduledKeys keys) k.nodeName ∈ counts := List.mem_map_of_mem scheduledK
    rw [← nodeCount_scheduledKeys keys (mem_scheduledKeys.mp scheduledK).2]
    exact List.le_max_of_mem member
  set p : SandboxKey → Bool := fun key => nodeCount (scheduledKeys keys) key.nodeName == counts.max countsNonempty
  have found : (keys.find? fun key => p key && key.nodeName != "").isSome := by
    refine List.find?_isSome.mpr ⟨k0, (mem_scheduledKeys.mp k0Scheduled).1, ?_⟩
    simp [p, k0Count, (mem_scheduledKeys.mp k0Scheduled).2]
  obtain ⟨k, picked⟩ := Option.isSome_iff_exists.mp found
  have head : ((scheduledKeys keys).filter p).headD SandboxKey.zero = k := by
    rw [List.headD_eq_head?_getD, scheduledKeys, List.filter_filter, List.head?_filter, picked]
    rfl
  rw [head]
  obtain ⟨holds, pre, post, split, before⟩ := List.find?_eq_some_iff_append.mp picked
  have named : k.nodeName ≠ "" := by simpa using (Bool.and_eq_true_iff.mp holds).2
  have largest : nodeCount keys k.nodeName = counts.max countsNonempty := by
    have := (Bool.and_eq_true_iff.mp holds).1
    simp only [p, beq_iff_eq] at this
    rwa [nodeCount_scheduledKeys keys named] at this
  refine ⟨pre, post, split, named, fun k' member named' => ?_, fun k' earlier named' => ?_⟩
  · rw [largest]
    exact bounded k' (mem_scheduledKeys.mpr ⟨member, named'⟩)
  · have notLargest : nodeCount keys k'.nodeName ≠ counts.max countsNonempty := by
      have scheduledName : (k'.nodeName != "") = true := by simpa using named'
      have notP : p k' = false := by simpa [scheduledName] using before k' earlier
      simp only [p, beq_eq_false_iff_ne] at notP
      rwa [nodeCount_scheduledKeys keys named'] at notP
    have member : k' ∈ keys := split ▸ List.mem_append_left _ earlier
    have := bounded k' (mem_scheduledKeys.mpr ⟨member, named'⟩)
    omega

/-- `pickSmart` on a non-empty list: it always picks, the first key of the
node with the most keys when some key is scheduled, and the oldest key
otherwise. -/
theorem pickSmart_spec (keys : List SandboxKey) (nonempty : keys ≠ []) :
    (pickSmart keys).2 = true ∧
      ((∃ k ∈ keys, k.nodeName ≠ "") → FirstOfLargestNode keys (pickSmart keys).1) ∧
      ((∀ k ∈ keys, k.nodeName = "") → (pickSmart keys).1 = keys.head nonempty) := by
  match keys, nonempty with
  | [key], _ =>
    refine ⟨rfl, fun ⟨k, member, named⟩ => ?_, fun _ => rfl⟩
    rw [List.mem_singleton.mp member] at named
    refine ⟨[], [], rfl, named, fun k' member' _ => ?_, by simp⟩
    rw [List.mem_singleton.mp member']
    exact Nat.le_refl _
  | a :: b :: rest, _ =>
    by_cases scheduled : scheduledKeys (a :: b :: rest) = []
    · have unscheduled : (a :: b :: rest).filter (·.nodeName == "") = a :: b :: rest := by
        refine List.filter_eq_self.mpr fun k member => ?_
        have := List.filter_eq_nil_iff.mp scheduled k member
        simpa using this
      have result : pickSmart (a :: b :: rest) = (a, true) := by
        simp only [pickSmart]
        rw [show ((a :: b :: rest).filter (·.nodeName != "")).isEmpty = true from
          List.isEmpty_iff.mpr scheduled, if_pos rfl, unscheduled]
        rfl
      refine ⟨by rw [result], fun ⟨k, member, named⟩ => ?_, fun _ => by rw [result]; rfl⟩
      exact absurd (List.filter_eq_nil_iff.mp scheduled k member) (by simpa using named)
    · have result : pickSmart (a :: b :: rest) =
          (((scheduledKeys (a :: b :: rest)).filter (fun key =>
            nodeCount (scheduledKeys (a :: b :: rest)) key.nodeName ==
              ((scheduledKeys (a :: b :: rest)).map fun key =>
                nodeCount (scheduledKeys (a :: b :: rest)) key.nodeName).foldl max 0)).headD
            SandboxKey.zero, true) := by
        simp only [pickSmart]
        rw [show ((a :: b :: rest).filter (·.nodeName != "")).isEmpty = false from
          Bool.eq_false_iff.mpr fun empty => scheduled (List.isEmpty_iff.mp empty), if_neg Bool.false_ne_true]
        rfl
      refine ⟨by rw [result], fun _ => ?_, fun unscheduled => ?_⟩
      · rw [result]
        exact firstOfLargestNode_scheduled _ scheduled
      · exact absurd (List.filter_eq_nil_iff.mpr fun k member => by simp [unscheduled k member]) scheduled

theorem pickSmart_inArgument : PickInArgument pickSmart := by
  intro keys chosen
  have nonempty : keys ≠ [] := by
    rintro rfl
    simp [pickSmart] at chosen
  obtain ⟨_, ofScheduled, ofUnscheduled⟩ := pickSmart_spec keys nonempty
  by_cases scheduled : ∃ k ∈ keys, k.nodeName ≠ ""
  · obtain ⟨pre, post, split, _⟩ := ofScheduled scheduled
    have member : (pickSmart keys).1 ∈ pre ++ (pickSmart keys).1 :: post :=
      List.mem_append_right _ List.mem_cons_self
    rwa [← split] at member
  · rw [ofUnscheduled fun k member => by simpa using fun named => scheduled ⟨k, member, named⟩]
    exact List.head_mem nonempty


/-! ## One pass of `PopWithStrategy` -/

/-- On a valid non-empty queue, `PopWithStrategy` with a pick that chooses
among its argument ends in its first pass: it declines and leaves the queue
as it was, or returns the picked key and removes exactly that key from the
slice and from the set. -/
theorem popWithStrategy_onePass {pick : List SandboxKey → SandboxKey × Bool} (picks : PickInArgument pick)
    {q : SynchronizedQueue} (valid : q.Valid) (nonempty : q.items ≠ []) :
    q.popWithStrategy pick 1 =
        some (if (pick q.items).2 then (((pick q.items).1, true), q.remove (pick q.items).1)
          else ((SandboxKey.zero, false), q)) ∧
      ((pick q.items).2 = true →
        (q.remove (pick q.items).1).items = q.items.erase (pick q.items).1 ∧
          (q.remove (pick q.items).1).set = q.set.erase (uniqueID (pick q.items).1)) := by
  refine ⟨by rw [popWithStrategy_spec picks valid Nat.one_pos, if_neg nonempty], fun chosen => ?_⟩
  have member := picks q.items chosen
  have free := valid.slashFree _ member
  have inSet : uniqueID (pick q.items).1 ∈ q.set := (mem_set_iff valid free).mpr (List.mem_map_of_mem member)
  refine ⟨?_, by simp [remove, inSet]⟩
  rw [(remove_spec valid free).2, dropKey_eq_erase keyOf valid.keys_nodup member]

theorem valid_of_run {fuel : Nat} (enough : 0 < fuel) {ops : List QueueOp}
    (admissible : ∀ op ∈ ops, op.Admissible) {results : List (Option (SandboxKey × Bool))}
    {s : SimpleSandboxQueue} (ran : SimpleSandboxQueue.run fuel ops newSimpleSandboxQueue = some (results, s))
    {pool : String} {q : SynchronizedQueue} (stored : s.queues pool = some q) : q.Valid := by
  obtain ⟨final, finalRun, refines⟩ := run_refines enough ops newSimpleSandboxQueue WarmPools.empty admissible Refines.new
  have same : s = final := by
    rw [ran, Option.some.injEq] at finalRun
    exact (Prod.mk.inj finalRun).2
  have here := refines pool
  rw [← same, stored] at here
  exact here.1

/-- `PopWithStrategy` ends in one pass and removes exactly what the pick
chose, on every non-empty queue a sequential run of the controller's calls
leaves, for every pick that chooses among the keys it is shown; `pickSmart`
is such a pick, and it returns the first key of the node with the most keys,
or the oldest key when none is scheduled. -/
theorem popWithStrategy_terminates_pickSmart {pick : List SandboxKey → SandboxKey × Bool}
    (picks : PickInArgument pick) {fuel : Nat} (enough : 0 < fuel) {ops : List QueueOp}
    (admissible : ∀ op ∈ ops, op.Admissible) {results : List (Option (SandboxKey × Bool))}
    {s : SimpleSandboxQueue} (ran : SimpleSandboxQueue.run fuel ops newSimpleSandboxQueue = some (results, s))
    (pool : String) {q : SynchronizedQueue} (stored : s.queues pool = some q) (nonempty : q.items ≠ []) :
    (q.popWithStrategy pick 1 =
        some (if (pick q.items).2 then (((pick q.items).1, true), q.remove (pick q.items).1)
          else ((SandboxKey.zero, false), q)) ∧
      ((pick q.items).2 = true →
        (q.remove (pick q.items).1).items = q.items.erase (pick q.items).1 ∧
          (q.remove (pick q.items).1).set = q.set.erase (uniqueID (pick q.items).1))) ∧
    PickInArgument pickSmart ∧
    ∀ keys : List SandboxKey, ∀ nonemptyKeys : keys ≠ [],
      (pickSmart keys).2 = true ∧
        ((∃ k ∈ keys, k.nodeName ≠ "") → FirstOfLargestNode keys (pickSmart keys).1) ∧
        ((∀ k ∈ keys, k.nodeName = "") → (pickSmart keys).1 = keys.head nonemptyKeys) :=
  ⟨popWithStrategy_onePass picks (valid_of_run enough admissible ran stored) nonempty, pickSmart_inArgument,
    pickSmart_spec⟩

/-- Three warm keys, two of them on `node-b`. -/
def threeWarmKeys : List QueueOp :=
  [.add "default/pool" ⟨"default", "sb-1", "node-a"⟩, .add "default/pool" ⟨"default", "sb-2", "node-b"⟩,
    .add "default/pool" ⟨"default", "sb-3", "node-b"⟩]

theorem popWithStrategy_terminates_pickSmart_threeWarmKeys :
    ∃ results s q, SimpleSandboxQueue.run 1 threeWarmKeys newSimpleSandboxQueue = some (results, s) ∧
      s.queues "default/pool" = some q ∧ q.items ≠ [] ∧
      q.popWithStrategy pickSmart 1 =
        some (if (pickSmart q.items).2 then (((pickSmart q.items).1, true), q.remove (pickSmart q.items).1)
          else ((SandboxKey.zero, false), q)) := by
  have admissible : ∀ op ∈ threeWarmKeys, op.Admissible := by
    intro op member
    simp only [threeWarmKeys, List.mem_cons, List.not_mem_nil, or_false] at member
    rcases member with rfl | rfl | rfl <;> simp [QueueOp.Admissible, SlashFree]
  refine ⟨_, _, _, rfl, rfl, by decide, ?_⟩
  exact (popWithStrategy_terminates_pickSmart pickSmart_inArgument Nat.one_pos admissible rfl "default/pool" rfl
    (by decide)).1.1

end AgentSandbox.Claim.Adoption
