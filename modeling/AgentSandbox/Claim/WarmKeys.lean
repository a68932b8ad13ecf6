import AgentSandbox.Claim.CandidateScan

/-!
# The warm keys of `getCandidate`

`getCandidate` (`extensions/controllers/sandboxclaim_controller.go`) pops its
pool's queue with `GetWithStrategy(pool, pickSmart)` until it finds a Ready
Sandbox that `verifySandboxCandidate` accepts or the queue runs dry.  It reads
each key's Sandbox with `Get` in the key's own namespace, so a key of another
namespace names a Sandbox that verification rejects as a cross-namespace
adoption.  Each popped key is dropped (a ghost, or a Sandbox that cannot be
adopted), put aside (another namespace, or a second unready Sandbox), parked as
the unready fallback, or returned; a deferred function puts the keys aside
back, and the fallback too unless it is the one returned.

Here the loop runs alone on the queue, with a `Get` that reads a fixed store.
Every key it pops keeps the queue's keys, popped or queued, a permutation of
those at entry (`ScanInv`); so every key whose Sandbox could be adopted is the
candidate or back in the queue, no key is queued twice, and an unready
candidate comes back only when no queued key named a Ready one
(`getCandidate_conservesWarmKeys`).  A key the loop never popped, because it
found a Ready candidate first, stays queued whatever its Sandbox is.
-/

set_option autoImplicit false

namespace AgentSandbox.Claim.WarmKeys

open Queue SynchronizedQueue
open Adoption (SandboxObject ClaimObject ApiError isSandboxReady pickSmart pickSmart_spec pickSmart_inArgument
  popWithStrategy_onePass)

/-- The errors of `verifySandboxCandidate` that `getCandidate` tells apart:
`ErrCrossNamespaceAdoption`, and all the others. -/
inductive VerifyError
  | crossNamespace
  | rejected
deriving DecidableEq, Repr

section Model

variable (apiGroupOf : String → String)

/-- `verifySandboxCandidate(candidate, claim)`, with the namespaces that the
objects of `Claim.Adoption` do not carry: the candidate's and the claim's. -/
def verifySandboxCandidate (candidateNamespace : String) (candidate : SandboxObject) (claimNamespace : String)
    (claim : ClaimObject) : Except VerifyError Unit :=
  if candidateNamespace ≠ claimNamespace then .error .crossNamespace
  else if Adoption.verifySandboxCandidate apiGroupOf candidate claim then .ok ()
  else .error .rejected

/-- The locals of `getCandidate` that outlive a pass of its loop. -/
structure Scan where
  skipped : List SandboxKey
  fallback : Option (SandboxObject × SandboxKey)

/-- How the loop returns: the result, `adoptingFallback`, the locals the
deferred function reads, and the queue. -/
structure Outcome where
  result : Except ApiError (Option (SandboxObject × SandboxKey))
  adoptingFallback : Bool
  scan : Scan
  queue : SimpleSandboxQueue

/-- `GetWithStrategy(pool, pickSmart)` run alone: its loop makes one pass. -/
def popCandidate (queue : SimpleSandboxQueue) (pool : String) : (SandboxKey × Bool) × SimpleSandboxQueue :=
  match queue.getWithStrategy pool pickSmart 1 with
  | some popped => popped
  | none => ((SandboxKey.zero, false), queue)

/-- The return when the queue has no more keys: the unready fallback, if any. -/
def Scan.exhausted (scan : Scan) (queue : SimpleSandboxQueue) : Outcome :=
  match scan.fallback with
  | some candidate => ⟨.ok (some candidate), true, scan, queue⟩
  | none => ⟨.ok none, false, scan, queue⟩

variable (get : SandboxKey → Except ApiError SandboxObject) (pool claimNamespace : String) (claim : ClaimObject)

/-- The loop of `getCandidate`, one pop a pass; `get key` is
`r.Get(ctx, {key.Namespace, key.Name}, adopted)`.  The fuel bounds the
passes, and a loop out of fuel returns as one whose queue ran dry. -/
def scanCandidates : Nat → Scan → SimpleSandboxQueue → Outcome
  | 0, scan, queue => scan.exhausted queue
  | fuel + 1, scan, queue =>
    let next := popCandidate queue pool
    if !next.1.2 then scan.exhausted next.2
    else
      let key := next.1.1
      let queue := next.2
      match get key with
      -- a ghost: deleted from the cluster but still queued
      | .error .notFound => scanCandidates fuel scan queue
      | .error err => ⟨.error err, false, scan, queue.add pool key⟩
      | .ok adopted =>
        match verifySandboxCandidate apiGroupOf key.namespace adopted claimNamespace claim with
        | .error .crossNamespace => scanCandidates fuel { scan with skipped := scan.skipped ++ [key] } queue
        | .error .rejected => scanCandidates fuel scan queue
        | .ok () =>
          if isSandboxReady adopted then ⟨.ok (some (adopted, key)), false, scan, queue⟩
          else
            match scan.fallback with
            | none => scanCandidates fuel { scan with fallback := some (adopted, key) } queue
            | some _ => scanCandidates fuel { scan with skipped := scan.skipped ++ [key] } queue

/-- The keys queued under `pool`. -/
def queuedKeys (queue : SimpleSandboxQueue) (pool : String) : List SandboxKey :=
  ((queue.queues pool).map (·.items)).getD []

/-- The deferred function of `getCandidate`: the keys put aside go back, and
the fallback too unless it is the candidate returned. -/
def requeue (out : Outcome) : SimpleSandboxQueue :=
  let queue := out.scan.skipped.foldl (fun queue key => queue.add pool key) out.queue
  match out.scan.fallback with
  | some (_, fallbackKey) => if !out.adoptingFallback then queue.add pool fallbackKey else queue
  | none => queue

/-- The keys the deferred function puts back, in order. -/
def Outcome.putBack (out : Outcome) : List SandboxKey :=
  out.scan.skipped ++ if out.adoptingFallback then [] else (out.scan.fallback.map Prod.snd).toList

/-- `getCandidate` on the pool `claimNamespace/warmPoolName`.  Each pass pops
a key, so one pass more than the keys queued lets the loop end by the queue
running dry. -/
def getCandidate (queue : SimpleSandboxQueue) :
    Except ApiError (Option (SandboxObject × SandboxKey)) × SimpleSandboxQueue :=
  let pool := getNamespacedWarmPoolName claimNamespace claim.claim.warmPoolName
  let out := scanCandidates apiGroupOf get pool claimNamespace claim ((queuedKeys queue pool).length + 1)
    ⟨[], none⟩ queue
  (out.result, requeue pool out)

end Model

/-! ## Where a popped key goes -/

/-- Where the loop sends a key it pops, by what `Get` and
`verifySandboxCandidate` say of it; a verified Sandbox comes with it. -/
inductive Route
  /-- gone from the store, or a Sandbox that cannot be adopted -/
  | dropped
  /-- a Sandbox in another namespace -/
  | requeued
  | unready (adopted : SandboxObject)
  | ready (adopted : SandboxObject)
deriving DecidableEq

/-- The keys the deferred function puts back unless one is returned. -/
def Route.kept : Route → Bool
  | .requeued | .unready _ => true
  | .dropped | .ready _ => false

section Routes

variable (apiGroupOf : String → String) (get : SandboxKey → Except ApiError SandboxObject)
  (claimNamespace : String) (claim : ClaimObject)

/-- The route of a key, for a `Get` that fails only with NotFound. -/
def route (key : SandboxKey) : Route :=
  match get key with
  | .error _ => .dropped
  | .ok adopted =>
    match verifySandboxCandidate apiGroupOf key.namespace adopted claimNamespace claim with
    | .error .crossNamespace => .requeued
    | .error .rejected => .dropped
    | .ok () => if isSandboxReady adopted then .ready adopted else .unready adopted

/-- The keys the deferred function may put back: those put aside and the
fallback. -/
def Scan.held (scan : Scan) : List SandboxKey :=
  scan.skipped ++ (scan.fallback.map Prod.snd).toList

/-- The locals after a pass that does not return. -/
def Scan.pass (scan : Scan) (key : SandboxKey) : Route → Scan
  | .requeued => { scan with skipped := scan.skipped ++ [key] }
  | .unready adopted =>
    match scan.fallback with
    | none => { scan with fallback := some (adopted, key) }
    | some _ => { scan with skipped := scan.skipped ++ [key] }
  | .dropped | .ready _ => scan

variable {apiGroupOf get claimNamespace claim} {key : SandboxKey} {adopted : SandboxObject}

/-- A key routes to a verified Sandbox exactly when `Get` finds it and
`verifySandboxCandidate` accepts it; readiness picks the route. -/
theorem route_of_verified (found : get key = .ok adopted)
    (verified : verifySandboxCandidate apiGroupOf key.namespace adopted claimNamespace claim = .ok ()) :
    route apiGroupOf get claimNamespace claim key =
      if isSandboxReady adopted then .ready adopted else .unready adopted := by
  simp only [route, found, verified]

theorem verified_of_route
    (routed : route apiGroupOf get claimNamespace claim key = .ready adopted ∨
      route apiGroupOf get claimNamespace claim key = .unready adopted) :
    get key = .ok adopted ∧
      verifySandboxCandidate apiGroupOf key.namespace adopted claimNamespace claim = .ok () ∧
      (route apiGroupOf get claimNamespace claim key = .ready adopted ↔ isSandboxReady adopted = true) := by
  unfold route at routed ⊢
  cases found : get key with
  | error err => simp [found] at routed
  | ok sandbox =>
    cases verified : verifySandboxCandidate apiGroupOf key.namespace sandbox claimNamespace claim with
    | error err => cases err <;> simp [found, verified] at routed
    | ok u =>
      cases ready : isSandboxReady sandbox <;> simp_all

theorem held_pass (scan : Scan) (key : SandboxKey) (r : Route) :
    (scan.pass key r).held.Perm (scan.held ++ if r.kept then [key] else []) := by
  cases r with
  | dropped => simp [Scan.pass, Route.kept]
  | ready a => simp [Scan.pass, Route.kept]
  | requeued =>
    simp only [Scan.pass, Scan.held, Route.kept, if_true, List.append_assoc]
    exact List.Perm.append_left _ List.perm_append_comm
  | unready a =>
    cases fallback : scan.fallback with
    | none => simp [Scan.pass, Scan.held, Route.kept, fallback]
    | some held =>
      simp only [Scan.pass, Scan.held, Route.kept, fallback, if_true, List.append_assoc]
      exact List.Perm.append_left _ List.perm_append_comm

theorem fallback_pass {scan : Scan} {r : Route} {candidate : SandboxObject × SandboxKey}
    (parked : (scan.pass key r).fallback = some candidate) :
    scan.fallback = some candidate ∨ r = .unready candidate.1 ∧ candidate.2 = key := by
  cases r with
  | dropped | requeued | ready a => exact .inl parked
  | unready a =>
    cases fallback : scan.fallback with
    | none =>
      simp only [Scan.pass, fallback, Option.some.injEq] at parked
      exact .inr ⟨by rw [← parked], by rw [← parked]⟩
    | some held => exact .inl (by simpa [Scan.pass, fallback] using parked)

end Routes

/-! ## One pass of the loop -/

section Pass

variable {apiGroupOf : String → String} {get : SandboxKey → Except ApiError SandboxObject}
  {pool claimNamespace : String} {claim : ClaimObject} {queue : SimpleSandboxQueue} {q : SynchronizedQueue}

@[simp] theorem Scan.exhausted_result (scan : Scan) : (scan.exhausted queue).result = .ok scan.fallback := by
  cases fallback : scan.fallback <;> simp [Scan.exhausted, fallback]

@[simp] theorem Scan.exhausted_queue (scan : Scan) : (scan.exhausted queue).queue = queue := by
  cases fallback : scan.fallback <;> simp [Scan.exhausted, fallback]

/-- A loop whose queue ran dry puts back only the keys put aside: the fallback
is returned when there is one. -/
theorem Scan.putBack_exhausted (scan : Scan) : (scan.exhausted queue).putBack = scan.skipped := by
  cases fallback : scan.fallback <;> simp [Scan.exhausted, Outcome.putBack, fallback]

theorem popCandidate_of_absent (absent : queue.queues pool = none) :
    popCandidate queue pool = ((SandboxKey.zero, false), queue) := by
  simp [popCandidate, SimpleSandboxQueue.getWithStrategy, absent]

theorem popCandidate_of_empty (stored : queue.queues pool = some q) (empty : q.items = []) :
    popCandidate queue pool = ((SandboxKey.zero, false), queue.store pool q) := by
  simp [popCandidate, SimpleSandboxQueue.getWithStrategy, stored, popWithStrategy, snapshot, empty]

theorem popCandidate_of_nonempty (stored : queue.queues pool = some q) (valid : q.Valid) (nonempty : q.items ≠ []) :
    popCandidate queue pool =
      (((pickSmart q.items).1, true), queue.store pool (q.remove (pickSmart q.items).1)) := by
  have popped := (popWithStrategy_onePass pickSmart_inArgument valid nonempty).1
  rw [if_pos (pickSmart_spec q.items nonempty).1] at popped
  simp [popCandidate, SimpleSandboxQueue.getWithStrategy, stored, popped]

theorem scanCandidates_succ_of_absent (absent : queue.queues pool = none) (fuel : Nat) (scan : Scan) :
    scanCandidates apiGroupOf get pool claimNamespace claim (fuel + 1) scan queue = scan.exhausted queue := by
  simp [scanCandidates, popCandidate_of_absent absent]

theorem scanCandidates_succ_of_empty (stored : queue.queues pool = some q) (empty : q.items = []) (fuel : Nat)
    (scan : Scan) :
    scanCandidates apiGroupOf get pool claimNamespace claim (fuel + 1) scan queue =
      scan.exhausted (queue.store pool q) := by
  simp [scanCandidates, popCandidate_of_empty stored empty]

/-- A pass on a non-empty queue, for a `Get` that fails only with NotFound:
the key `pickSmart` pops is returned when it routes to a Ready Sandbox, and
otherwise the loop goes on with the locals `Scan.pass` gives. -/
theorem scanCandidates_succ (neverFails : ∀ key err, get key = .error err → err = .notFound)
    (stored : queue.queues pool = some q) (valid : q.Valid) (nonempty : q.items ≠ []) (fuel : Nat) (scan : Scan) :
    scanCandidates apiGroupOf get pool claimNamespace claim (fuel + 1) scan queue =
      match route apiGroupOf get claimNamespace claim (pickSmart q.items).1 with
      | .ready adopted =>
        ⟨.ok (some (adopted, (pickSmart q.items).1)), false, scan, queue.store pool (q.remove (pickSmart q.items).1)⟩
      | r => scanCandidates apiGroupOf get pool claimNamespace claim fuel (scan.pass (pickSmart q.items).1 r)
          (queue.store pool (q.remove (pickSmart q.items).1)) := by
  simp only [scanCandidates, popCandidate_of_nonempty stored valid nonempty, Bool.not_true, Bool.false_eq_true,
    if_false]
  generalize (pickSmart q.items).1 = key
  unfold route
  cases found : get key with
  | error err => rw [neverFails key err found]; rfl
  | ok adopted =>
    dsimp only
    cases verified : verifySandboxCandidate apiGroupOf key.namespace adopted claimNamespace claim with
    | error err => cases err <;> rfl
    | ok u =>
      cases ready : isSandboxReady adopted
      · cases fallback : scan.fallback <;> simp [Scan.pass, fallback]
      · rfl

end Pass

/-! ## The loop's invariant -/

section Invariant

variable (apiGroupOf : String → String) (get : SandboxKey → Except ApiError SandboxObject)
  (claimNamespace : String) (claim : ClaimObject) (entry : List SandboxKey)

/-- What holds after the loop has popped the keys `popped`, in order, from
the keys `entry` queued at entry: no key is lost or made up, none of the
popped keys is Ready, and the locals hold exactly the popped keys that go back
unless returned, the fallback an unready one. -/
structure ScanInv (popped : List SandboxKey) (scan : Scan) (q : SynchronizedQueue) : Prop where
  valid : q.Valid
  perm : (popped ++ q.items).Perm entry
  nodup : ((popped ++ q.items).map keyOf).Nodup
  poppedFree : ∀ k ∈ popped, SlashFree k
  notReady : ∀ k ∈ popped, ∀ adopted, route apiGroupOf get claimNamespace claim k ≠ .ready adopted
  held : scan.held.Perm (popped.filter fun k => (route apiGroupOf get claimNamespace claim k).kept)
  parked : ∀ candidate, scan.fallback = some candidate →
    route apiGroupOf get claimNamespace claim candidate.2 = .unready candidate.1

variable {apiGroupOf get claimNamespace claim entry}

theorem ScanInv.start {q : SynchronizedQueue} (valid : q.Valid) :
    ScanInv apiGroupOf get claimNamespace claim q.items [] ⟨[], none⟩ q where
  valid := valid
  perm := List.Perm.refl _
  nodup := valid.keys_nodup
  poppedFree := by simp
  notReady := by simp
  held := by simp [Scan.held]
  parked := by simp

theorem perm_pop (popped : List SandboxKey) {items : List SandboxKey} {key : SandboxKey} (member : key ∈ items) :
    (popped ++ [key] ++ items.erase key).Perm (popped ++ items) := by
  rw [List.append_assoc, List.singleton_append]
  exact List.Perm.append_left _ (List.perm_cons_erase member).symm

theorem items_remove {q : SynchronizedQueue} {key : SandboxKey} (valid : q.Valid) (member : key ∈ q.items) :
    (q.remove key).items = q.items.erase key := by
  rw [(remove_spec valid (valid.slashFree key member)).2, dropKey_eq_erase keyOf valid.keys_nodup member]

/-- The step lemma: a pass that pops a queued key that is not Ready keeps the
invariant. -/
theorem ScanInv.pass {popped : List SandboxKey} {scan : Scan} {q : SynchronizedQueue} {key : SandboxKey}
    (inv : ScanInv apiGroupOf get claimNamespace claim entry popped scan q) (member : key ∈ q.items)
    (notReady : ∀ adopted, route apiGroupOf get claimNamespace claim key ≠ .ready adopted) :
    ScanInv apiGroupOf get claimNamespace claim entry (popped ++ [key])
      (scan.pass key (route apiGroupOf get claimNamespace claim key)) (q.remove key) := by
  have free := inv.valid.slashFree key member
  have items := items_remove inv.valid member
  have moved := perm_pop popped member
  refine ⟨(remove_spec inv.valid free).1, ?_, ?_, ?_, ?_, ?_, ?_⟩
  · rw [items]
    exact moved.trans inv.perm
  · rw [items]
    exact (moved.map keyOf).nodup_iff.mpr inv.nodup
  · intro k popped'
    rcases List.mem_append.mp popped' with old | new
    · exact inv.poppedFree k old
    · rw [List.mem_singleton.mp new]
      exact free
  · intro k popped'
    rcases List.mem_append.mp popped' with old | new
    · exact inv.notReady k old
    · rw [List.mem_singleton.mp new]
      exact notReady
  · refine (held_pass scan key _).trans ?_
    rw [List.filter_append]
    refine inv.held.append ?_
    cases kept : (route apiGroupOf get claimNamespace claim key).kept <;> simp [kept]
  · intro candidate parked
    rcases fallback_pass parked with old | ⟨routed, rfl⟩
    · exact inv.parked candidate old
    · exact routed

theorem ScanInv.entry_nodup {popped : List SandboxKey} {scan : Scan} {q : SynchronizedQueue}
    (inv : ScanInv apiGroupOf get claimNamespace claim entry popped scan q) : (entry.map keyOf).Nodup :=
  (inv.perm.map keyOf).nodup_iff.mp inv.nodup

theorem ScanInv.popped_of_held {popped : List SandboxKey} {scan : Scan} {q : SynchronizedQueue} {k : SandboxKey}
    (inv : ScanInv apiGroupOf get claimNamespace claim entry popped scan q) (held : k ∈ scan.held) : k ∈ popped :=
  (List.mem_filter.mp (inv.held.mem_iff.mp held)).1

variable (apiGroupOf get claimNamespace claim entry) (pool : String)

/-- How the loop returns with the invariant: with the Ready candidate it popped
last, or with its queue dry. -/
inductive Ended : Outcome → Prop
  | ready {popped : List SandboxKey} {scan : Scan} {q : SynchronizedQueue} {queue : SimpleSandboxQueue}
      {adopted : SandboxObject} {key : SandboxKey}
      (inv : ScanInv apiGroupOf get claimNamespace claim entry popped scan q) (member : key ∈ q.items)
      (routed : route apiGroupOf get claimNamespace claim key = .ready adopted)
      (stored : queue.queues pool = some (q.remove key)) :
      Ended ⟨.ok (some (adopted, key)), false, scan, queue⟩
  | dry {popped : List SandboxKey} {scan : Scan} {q : SynchronizedQueue} {queue : SimpleSandboxQueue}
      (inv : ScanInv apiGroupOf get claimNamespace claim entry popped scan q) (empty : q.items = [])
      (stored : queue.queues pool = some q) :
      Ended (scan.exhausted queue)

variable {apiGroupOf get claimNamespace claim entry pool}

/-- The run lemma: from the invariant, and fuel for more passes than keys are
queued, the loop ends by returning a Ready candidate or by its queue running
dry. -/
theorem scanCandidates_ended (neverFails : ∀ key err, get key = .error err → err = .notFound) (fuel : Nat) :
    ∀ {popped : List SandboxKey} {scan : Scan} {queue : SimpleSandboxQueue} {q : SynchronizedQueue},
      queue.queues pool = some q → ScanInv apiGroupOf get claimNamespace claim entry popped scan q →
      q.items.length < fuel →
      Ended apiGroupOf get claimNamespace claim entry pool
        (scanCandidates apiGroupOf get pool claimNamespace claim fuel scan queue) := by
  induction fuel with
  | zero =>
    intro _ _ _ _ _ _ short
    exact absurd short (Nat.not_lt_zero _)
  | succ fuel ih =>
    intro popped scan queue q stored inv short
    by_cases empty : q.items = []
    · rw [scanCandidates_succ_of_empty stored empty]
      exact .dry inv empty (by simp)
    · have chosen := (pickSmart_spec q.items empty).1
      have member := pickSmart_inArgument q.items chosen
      have erased := ((popWithStrategy_onePass pickSmart_inArgument inv.valid empty).2 chosen).1
      -- every pass that does not return pops one key, so the fuel left still exceeds the queue
      have next : ∀ r, route apiGroupOf get claimNamespace claim (pickSmart q.items).1 = r →
          (∀ adopted, r ≠ .ready adopted) →
          Ended apiGroupOf get claimNamespace claim entry pool
            (scanCandidates apiGroupOf get pool claimNamespace claim fuel (scan.pass (pickSmart q.items).1 r)
              (queue.store pool (q.remove (pickSmart q.items).1))) := by
        rintro r rfl notReady
        refine ih (by simp) (inv.pass member notReady) ?_
        rw [erased, List.length_erase_of_mem member]
        have positive := List.length_pos_of_ne_nil empty
        omega
      rw [scanCandidates_succ neverFails stored inv.valid empty]
      cases routed : route apiGroupOf get claimNamespace claim (pickSmart q.items).1 with
      | ready adopted => exact .ready inv member routed (by simp)
      | dropped => exact next _ routed (by simp)
      | requeued => exact next _ routed (by simp)
      | unready adopted => exact next _ routed (by simp)

end Invariant

/-! ## What the deferred function puts back -/

section Requeue

variable {pool : String} {queue : SimpleSandboxQueue} {q : SynchronizedQueue}

theorem requeue_eq (out : Outcome) :
    requeue pool out = out.putBack.foldl (fun queue key => queue.add pool key) out.queue := by
  rcases out with ⟨result, adoptingFallback, ⟨skipped, fallback⟩, queue⟩
  cases fallback with
  | none => simp [requeue, Outcome.putBack]
  | some candidate => cases adoptingFallback <;> simp [requeue, Outcome.putBack]

theorem add_of_absent {key : SandboxKey} (stored : queue.queues pool = some q) (valid : q.Valid)
    (free : SlashFree key) (absent : keyOf key ∉ q.items.map keyOf) :
    (queue.add pool key).queues pool = some (q.push key) ∧ (q.push key).Valid ∧
      (q.push key).items = q.items ++ [key] := by
  obtain ⟨pushedValid, pushed⟩ := push_spec valid free
  refine ⟨by simp [SimpleSandboxQueue.add, stored], pushedValid, ?_⟩
  rw [pushed, pushEntry, if_neg absent]

theorem foldl_add (keys : List SandboxKey) :
    ∀ {queue : SimpleSandboxQueue} {q : SynchronizedQueue}, queue.queues pool = some q → q.Valid →
      (∀ k ∈ keys, SlashFree k) → ((q.items ++ keys).map keyOf).Nodup →
      ∃ q', (keys.foldl (fun queue key => queue.add pool key) queue).queues pool = some q' ∧ q'.Valid ∧
        q'.items = q.items ++ keys := by
  induction keys with
  | nil =>
    intro queue q stored valid _ _
    exact ⟨q, stored, valid, by simp⟩
  | cons key rest ih =>
    intro queue q stored valid free distinct
    rw [List.map_append, List.map_cons, List.nodup_middle, List.nodup_cons, ← List.map_append] at distinct
    have absent : keyOf key ∉ q.items.map keyOf := fun member =>
      distinct.1 (by rw [List.map_append]; exact List.mem_append_left _ member)
    obtain ⟨pushedStored, pushedValid, pushedItems⟩ :=
      add_of_absent stored valid (free key List.mem_cons_self) absent
    have pushedDistinct : (((q.push key).items ++ rest).map keyOf).Nodup := by
      rw [pushedItems, List.append_assoc, List.singleton_append, List.map_append, List.map_cons,
        List.nodup_middle, List.nodup_cons, ← List.map_append]
      exact distinct
    obtain ⟨q', added, addedValid, addedItems⟩ :=
      ih pushedStored pushedValid (fun k member => free k (List.mem_cons_of_mem _ member)) pushedDistinct
    refine ⟨q', added, addedValid, ?_⟩
    rw [addedItems, pushedItems, List.append_assoc, List.singleton_append]

/-- The queue the deferred function leaves, when the keys it puts back are new
and distinct. -/
theorem queuedKeys_requeue {out : Outcome} (stored : out.queue.queues pool = some q) (valid : q.Valid)
    (free : ∀ k ∈ out.putBack, SlashFree k) (distinct : ((q.items ++ out.putBack).map keyOf).Nodup) :
    queuedKeys (requeue pool out) pool = q.items ++ out.putBack := by
  obtain ⟨q', added, _, addedItems⟩ := foldl_add out.putBack stored valid free distinct
  rw [queuedKeys, requeue_eq, added, Option.map_some, Option.getD_some, addedItems]

end Requeue

/-! ## What `getCandidate` keeps -/

section Conservation

variable (apiGroupOf : String → String) (get : SandboxKey → Except ApiError SandboxObject)
  (claimNamespace : String) (claim : ClaimObject)

/-- What `getCandidate` does with the keys `entry` queued at entry, given the
keys `final` queued on return and the candidate `returned`: no key is queued
twice or made up; the candidate is a key whose Sandbox is found and verified;
every such key is the candidate or queued again; an unready candidate means no
key names a verified Ready Sandbox; and for some keys `reached` (all of them
unless a Ready candidate is returned) exactly the keys not reached stay queued,
and of those reached the ones `Route.kept` holds of, the candidate apart. -/
structure ConservesWarmKeys (entry final : List SandboxKey) (returned : Option (SandboxObject × SandboxKey)) :
    Prop where
  nodup : (final.map keyOf).Nodup
  subset : ∀ k ∈ final, k ∈ entry
  returned_verified : ∀ adopted key, returned = some (adopted, key) →
    key ∈ entry ∧ key ∉ final ∧ get key = .ok adopted ∧
      verifySandboxCandidate apiGroupOf key.namespace adopted claimNamespace claim = .ok ()
  verified_kept : ∀ k ∈ entry, ∀ adopted, get k = .ok adopted →
    verifySandboxCandidate apiGroupOf k.namespace adopted claimNamespace claim = .ok () →
      returned.map Prod.snd = some k ∨ k ∈ final
  ready_first : ∀ adopted key, returned = some (adopted, key) → isSandboxReady adopted = false →
    ∀ k ∈ entry, ∀ sandbox, get k = .ok sandbox →
      verifySandboxCandidate apiGroupOf k.namespace sandbox claimNamespace claim = .ok () →
        isSandboxReady sandbox = false
  routed : ∃ reached : List SandboxKey, (∀ k ∈ reached, k ∈ entry) ∧
    ((∀ adopted key, returned = some (adopted, key) → isSandboxReady adopted = false) → ∀ k ∈ entry, k ∈ reached) ∧
    ∀ k ∈ entry, (k ∈ final ↔ k ∉ reached ∨
      (route apiGroupOf get claimNamespace claim k).kept = true ∧ returned.map Prod.snd ≠ some k)

variable {apiGroupOf get claimNamespace claim}

theorem nodup_rest_back {entry reached rest back : List SandboxKey} (perm : (reached ++ rest).Perm entry)
    (distinct : (entry.map keyOf).Nodup) (fromReached : back.Subperm reached) :
    ((rest ++ back).map keyOf).Nodup := by
  obtain ⟨l, permuted, sub⟩ :=
    ((List.subperm_append_left rest).mpr fromReached).trans (List.perm_append_comm.trans perm).subperm
  exact (permuted.map keyOf).nodup_iff.mp (distinct.sublist (sub.map keyOf))

/-- The conservation of the keys, from how they split: `reached` and `rest`
are the keys at entry, the keys put back are those of `reached` that go back
and are not returned, the candidate is reached and verified, a Ready key
reached is the candidate, and an unready or no candidate means every key was
reached. -/
theorem conservesWarmKeys_of {entry reached rest back : List SandboxKey}
    {returned : Option (SandboxObject × SandboxKey)} (perm : (reached ++ rest).Perm entry)
    (distinct : (entry.map keyOf).Nodup)
    (putBack : back.Perm (reached.filter fun k =>
      (route apiGroupOf get claimNamespace claim k).kept && returned.map Prod.snd != some k))
    (returnedRoute : ∀ adopted key, returned = some (adopted, key) → key ∈ reached ∧
      (route apiGroupOf get claimNamespace claim key = .ready adopted ∨
        route apiGroupOf get claimNamespace claim key = .unready adopted))
    (readyReturned : ∀ k ∈ reached, ∀ adopted, route apiGroupOf get claimNamespace claim k = .ready adopted →
      returned.map Prod.snd = some k)
    (dry : (∀ adopted key, returned = some (adopted, key) → isSandboxReady adopted = false) → rest = []) :
    ConservesWarmKeys apiGroupOf get claimNamespace claim entry (rest ++ back) returned := by
  have apart : ∀ k ∈ reached, k ∉ rest := fun k inReached inRest =>
    List.disjoint_of_nodup_append (perm.nodup_iff.mpr (List.Nodup.of_map keyOf distinct)) inReached inRest
  have mem_entry : ∀ k, k ∈ entry ↔ k ∈ reached ∨ k ∈ rest := fun k => by
    rw [← perm.mem_iff, List.mem_append]
  have mem_back : ∀ k, k ∈ back ↔ k ∈ reached ∧
      (route apiGroupOf get claimNamespace claim k).kept = true ∧ returned.map Prod.snd ≠ some k := by
    intro k
    rw [putBack.mem_iff, List.mem_filter]
    simp
  refine ⟨nodup_rest_back perm distinct (putBack.subperm.trans List.filter_sublist.subperm), ?_, ?_, ?_, ?_, ?_⟩
  · intro k kept
    rcases List.mem_append.mp kept with inRest | inBack
    · exact (mem_entry k).mpr (.inr inRest)
    · exact (mem_entry k).mpr (.inl ((mem_back k).mp inBack).1)
  · intro adopted key returnedEq
    obtain ⟨reachedKey, routedKey⟩ := returnedRoute adopted key returnedEq
    obtain ⟨found, verified, _⟩ := verified_of_route routedKey
    refine ⟨(mem_entry key).mpr (.inl reachedKey), ?_, found, verified⟩
    rw [List.mem_append, mem_back]
    rintro (inRest | ⟨-, -, other⟩)
    · exact apart key reachedKey inRest
    · exact other (by simp [returnedEq])
  · intro k inEntry adopted found verified
    have routedK := route_of_verified found verified
    rcases (mem_entry k).mp inEntry with inReached | inRest
    · cases ready : isSandboxReady adopted
      · by_cases isReturned : returned.map Prod.snd = some k
        · exact .inl isReturned
        · refine .inr (List.mem_append_right _ ((mem_back k).mpr ⟨inReached, ?_, isReturned⟩))
          simp [routedK, ready, Route.kept]
      · exact .inl (readyReturned k inReached adopted (by simp [routedK, ready]))
    · exact .inr (List.mem_append_left _ inRest)
  · intro adopted key returnedEq unready k inEntry sandbox found verified
    have everyReached := dry fun a key' same => by
      rw [returnedEq, Option.some.injEq, Prod.mk.injEq] at same
      rw [← same.1]
      exact unready
    have inReached : k ∈ reached := by simpa [everyReached] using (mem_entry k).mp inEntry
    cases ready : isSandboxReady sandbox
    · rfl
    · -- a Ready key reached is the candidate, whose route is then Ready and not unready
      have routedK : route apiGroupOf get claimNamespace claim k = .ready sandbox := by
        simp [route_of_verified found verified, ready]
      have isReturned := readyReturned k inReached sandbox routedK
      rw [returnedEq, Option.map_some, Option.some.injEq] at isReturned
      subst isReturned
      rcases (returnedRoute adopted key returnedEq).2 with routedKey | routedKey <;>
        rw [routedK] at routedKey <;> cases routedKey
      rw [unready] at ready
      cases ready
  · refine ⟨reached, fun k reachedK => (mem_entry k).mpr (.inl reachedK), fun notReady k inEntry => ?_,
      fun k inEntry => ?_⟩
    · simpa [dry notReady] using (mem_entry k).mp inEntry
    · rw [List.mem_append, mem_back]
      by_cases inReached : k ∈ reached
      · simp [inReached, apart k inReached]
      · simp [inReached, ((mem_entry k).mp inEntry).resolve_left inReached]

section Ends

variable {entry : List SandboxKey} {pool : String} {popped : List SandboxKey} {scan : Scan}
  {q : SynchronizedQueue} {queue : SimpleSandboxQueue}

/-- A loop that returns a Ready candidate: the keys reached are those popped
and the candidate, and the ones put back are those popped that go back. -/
theorem conserves_of_ready {adopted : SandboxObject} {key : SandboxKey}
    (inv : ScanInv apiGroupOf get claimNamespace claim entry popped scan q) (member : key ∈ q.items)
    (routed : route apiGroupOf get claimNamespace claim key = .ready adopted)
    (stored : queue.queues pool = some (q.remove key)) :
    ConservesWarmKeys apiGroupOf get claimNamespace claim entry
      (queuedKeys (requeue pool ⟨.ok (some (adopted, key)), false, scan, queue⟩) pool) (some (adopted, key)) := by
  have moved := (perm_pop popped member).trans inv.perm
  have distinct := inv.entry_nodup
  have apart : ∀ k ∈ popped, k ≠ key := fun k inPopped same =>
    List.disjoint_of_nodup_append (List.Nodup.of_map keyOf inv.nodup) inPopped (same ▸ member)
  have putBack : Outcome.putBack ⟨.ok (some (adopted, key)), false, scan, queue⟩ = scan.held := by
    simp [Outcome.putBack, Scan.held]
  -- the candidate does not go back, and no popped key is the candidate
  have heldPerm : scan.held.Perm ((popped ++ [key]).filter fun k =>
      (route apiGroupOf get claimNamespace claim k).kept && (some (adopted, key)).map Prod.snd != some k) := by
    have others : popped.filter (fun k => (route apiGroupOf get claimNamespace claim k).kept &&
        (some (adopted, key)).map Prod.snd != some k) =
        popped.filter fun k => (route apiGroupOf get claimNamespace claim k).kept :=
      List.filter_congr fun k inPopped => by simp [(apart k inPopped).symm]
    rw [List.filter_append, List.filter_singleton, routed, others]
    simpa [Route.kept] using inv.held
  have heldFree : ∀ k ∈ scan.held, SlashFree k := fun k held => inv.poppedFree k (inv.popped_of_held held)
  have fromReached : scan.held.Subperm (popped ++ [key]) := heldPerm.subperm.trans List.filter_sublist.subperm
  rw [queuedKeys_requeue stored (remove_spec inv.valid (inv.valid.slashFree key member)).1 (putBack ▸ heldFree)
    (by rw [putBack, items_remove inv.valid member]; exact nodup_rest_back moved distinct fromReached),
    putBack, items_remove inv.valid member]
  refine conservesWarmKeys_of moved distinct heldPerm ?_ ?_ ?_
  · intro a k same
    cases same
    exact ⟨List.mem_append_right _ (List.mem_singleton_self _), .inl routed⟩
  · intro k inReached a routedK
    rcases List.mem_append.mp inReached with inPopped | isKey
    · exact absurd routedK (inv.notReady k inPopped a)
    · rw [List.mem_singleton.mp isKey]
      rfl
  · intro unready
    have ready := (verified_of_route (.inl routed)).2.2.mp routed
    rw [unready adopted key rfl] at ready
    cases ready

/-- A loop whose queue ran dry: every key was reached, and the ones put back
are those popped that go back, the fallback apart since it is returned. -/
theorem conserves_of_dry (inv : ScanInv apiGroupOf get claimNamespace claim entry popped scan q)
    (empty : q.items = []) (stored : queue.queues pool = some q) :
    ConservesWarmKeys apiGroupOf get claimNamespace claim entry
      (queuedKeys (requeue pool (scan.exhausted queue)) pool) scan.fallback := by
  have distinct := inv.entry_nodup
  have poppedNodup : popped.Nodup := by
    simpa [empty] using List.Nodup.of_map keyOf inv.nodup
  have skippedPerm : scan.skipped.Perm (popped.filter fun k =>
      (route apiGroupOf get claimNamespace claim k).kept && scan.fallback.map Prod.snd != some k) := by
    have held := inv.held
    rw [Scan.held] at held
    cases fallback : scan.fallback with
    | none => simpa [fallback, bne] using held
    | some candidate =>
      -- the fallback is returned: take it out of both sides
      rw [fallback, Option.map_some, Option.toList_some] at held
      have heldNodup := held.nodup_iff.mpr (poppedNodup.filter _)
      have fresh : candidate.2 ∉ scan.skipped := fun member =>
        List.disjoint_of_nodup_append heldNodup member (List.mem_singleton_self _)
      have erased := held.erase candidate.2
      rw [List.erase_append_right _ fresh, List.erase_cons_head, List.append_nil,
        (poppedNodup.filter _).erase_eq_filter, List.filter_filter] at erased
      refine erased.trans (List.Perm.of_eq (List.filter_congr fun k _ => ?_))
      rw [Bool.and_comm]
      by_cases same : k = candidate.2
      · simp [same]
      · simp [bne, beq_false_of_ne same, beq_false_of_ne (Ne.symm same)]
  have skippedFree : ∀ k ∈ scan.skipped, SlashFree k := fun k skipped =>
    inv.poppedFree k (inv.popped_of_held (List.mem_append_left _ skipped))
  have fromPopped : scan.skipped.Subperm popped := skippedPerm.subperm.trans List.filter_sublist.subperm
  rw [queuedKeys_requeue (by rw [Scan.exhausted_queue]; exact stored) inv.valid
    (by rw [Scan.putBack_exhausted]; exact skippedFree)
    (by rw [Scan.putBack_exhausted]; exact nodup_rest_back inv.perm distinct fromPopped),
    Scan.putBack_exhausted]
  refine conservesWarmKeys_of inv.perm distinct skippedPerm ?_ ?_ fun _ => empty
  · intro adopted key parked
    exact ⟨inv.popped_of_held (by simp [Scan.held, parked]), .inr (inv.parked _ parked)⟩
  · intro k inPopped adopted routedK
    exact absurd routedK (inv.notReady k inPopped adopted)

theorem Ended.conserves {out : Outcome} (ended : Ended apiGroupOf get claimNamespace claim entry pool out) :
    ∃ returned, out.result = .ok returned ∧
      ConservesWarmKeys apiGroupOf get claimNamespace claim entry (queuedKeys (requeue pool out) pool) returned := by
  cases ended with
  | ready inv member routed stored => exact ⟨_, rfl, conserves_of_ready inv member routed stored⟩
  | dry inv empty stored => exact ⟨_, Scan.exhausted_result _, conserves_of_dry inv empty stored⟩

end Ends

end Conservation

/-! ## `getCandidate` -/

section GetCandidate

variable (apiGroupOf : String → String) (get : SandboxKey → Except ApiError SandboxObject)
  (claimNamespace : String) (claim : ClaimObject)

/-- `getCandidate` run alone, with a `Get` that fails only with NotFound, on a
queue whose pool queue is valid (as every queue a run of the controller's
calls leaves is, `valid_of_run`): it returns without error, and it keeps the
warm keys of its pool as `ConservesWarmKeys` says. -/
theorem getCandidate_conservesWarmKeys (neverFails : ∀ key err, get key = .error err → err = .notFound)
    (queue : SimpleSandboxQueue)
    (valid : ∀ q, queue.queues (getNamespacedWarmPoolName claimNamespace claim.claim.warmPoolName) = some q →
      q.Valid) :
    ∃ returned, (getCandidate apiGroupOf get claimNamespace claim queue).1 = .ok returned ∧
      ConservesWarmKeys apiGroupOf get claimNamespace claim
        (queuedKeys queue (getNamespacedWarmPoolName claimNamespace claim.claim.warmPoolName))
        (queuedKeys (getCandidate apiGroupOf get claimNamespace claim queue).2
          (getNamespacedWarmPoolName claimNamespace claim.claim.warmPoolName)) returned := by
  simp only [getCandidate]
  generalize getNamespacedWarmPoolName claimNamespace claim.claim.warmPoolName = pool at valid ⊢
  cases stored : queue.queues pool with
  | none =>
    -- no queue for the pool: the loop stops at once and puts nothing back
    have entry : queuedKeys queue pool = [] := by simp [queuedKeys, stored]
    have unchanged : requeue pool (Scan.exhausted ⟨[], none⟩ queue) = queue := by
      simp [requeue, Scan.exhausted]
    rw [entry, List.length_nil, scanCandidates_succ_of_absent stored, unchanged, entry]
    exact ⟨none, rfl, by simp, by simp, by simp, by simp, by simp, ⟨[], by simp, by simp, by simp⟩⟩
  | some q =>
    have entry : queuedKeys queue pool = q.items := by simp [queuedKeys, stored]
    rw [entry]
    exact (scanCandidates_ended neverFails _ stored (ScanInv.start (valid q stored)) (Nat.lt_succ_self _)).conserves

/-- The key of a Ready warm Sandbox of `default/pool`, and one of a Sandbox
deleted since it was queued. -/
def readyKey : SandboxKey := ⟨"default", "warm-1", ""⟩

def deletedKey : SandboxKey := ⟨"default", "deleted", ""⟩

/-- `Get` on a store that holds `warmSandbox` only. -/
def storeGet (key : SandboxKey) : Except ApiError SandboxObject :=
  if key = readyKey then .ok Adoption.warmSandbox else .error .notFound

/-- The pool queue holds the Ready key, then the deleted one. -/
def warmQueue : SimpleSandboxQueue :=
  (newSimpleSandboxQueue.add (getNamespacedWarmPoolName "default" "pool") readyKey).add
    (getNamespacedWarmPoolName "default" "pool") deletedKey

theorem getCandidate_conservesWarmKeys_warmQueue :
    ∃ returned, (getCandidate Adoption.groupOf storeGet "default" (Adoption.pendingClaim "claim-a" "uid-a" 2)
        warmQueue).1 = .ok returned ∧
      ConservesWarmKeys Adoption.groupOf storeGet "default" (Adoption.pendingClaim "claim-a" "uid-a" 2)
        (queuedKeys warmQueue (getNamespacedWarmPoolName "default" "pool"))
        (queuedKeys (getCandidate Adoption.groupOf storeGet "default" (Adoption.pendingClaim "claim-a" "uid-a" 2)
          warmQueue).2 (getNamespacedWarmPoolName "default" "pool")) returned :=
  getCandidate_conservesWarmKeys Adoption.groupOf storeGet "default" (Adoption.pendingClaim "claim-a" "uid-a" 2)
    (fun key err found => by
      unfold storeGet at found
      split at found
      · cases found
      · cases found
        rfl)
    warmQueue
    (fun q stored => by
      have readyFree : SlashFree readyKey := by decide
      have deletedFree : SlashFree deletedKey := by decide
      have poolName : (Adoption.pendingClaim "claim-a" "uid-a" 2).claim.warmPoolName = "pool" := rfl
      rw [poolName] at stored
      simp only [warmQueue, SimpleSandboxQueue.add, SimpleSandboxQueue.queues_store, if_true,
        Option.some.injEq] at stored
      rw [← stored]
      simp only [newSimpleSandboxQueue, Option.getD_none, Option.getD_some]
      exact (push_spec (push_spec valid_new readyFree).1 deletedFree).1)

/-- The loop returns the Ready key it pops first, so the key of the deleted
Sandbox behind it is never popped and stays queued. -/
theorem getCandidate_keepsDeletedKey :
    storeGet deletedKey = .error .notFound ∧
      deletedKey ∈ queuedKeys (getCandidate Adoption.groupOf storeGet "default"
        (Adoption.pendingClaim "claim-a" "uid-a" 2) warmQueue).2 (getNamespacedWarmPoolName "default" "pool") := by
  decide +kernel

end GetCandidate

end AgentSandbox.Claim.WarmKeys
