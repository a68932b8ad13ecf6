import Mathlib
import AgentSandbox.Kube.Conditions

/-!
# Scaling a warm pool

Model of the scaling part of `reconcilePool`
(`extensions/controllers/sandboxwarmpool_controller.go`).  The members that
`filterActiveSandboxes` kept are the input; the stuck ones are deleted, then
the pool grows by `slowStartBatch` creations or shrinks by deleting a prefix
of the members sorted not-Ready first, newest first.  Go's `int32` values are
`Int`s, with `toInt32` where the code converts.

`reconcilePool_scaling`: with a batch size below `2^31` and every call
succeeding, one reconcile creates `min(d - n, MaxBatchSize)` members or
deletes `min(n - d, MaxBatchSize)`, never both, and the deleted ones come
first in the order.  `MaxBatchSize` is an `int` that is only checked to be
positive, and `int32(r.MaxBatchSize)` wraps it.
-/

set_option autoImplicit false

namespace AgentSandbox.WarmPool

open Meta

/-- Go's `int32(x)`: the low 32 bits of `x`, read in two's complement. -/
def toInt32 (x : Int) : Int :=
  let low : Nat := (x % 2 ^ 32).toNat
  if low < 2 ^ 31 then (low : Int) else (low : Int) - 2 ^ 32

theorem toInt32_of_lt {x : Int} (lo : -2 ^ 31 ≤ x) (hi : x < 2 ^ 31) : toInt32 x = x := by
  unfold toInt32
  dsimp only
  split <;> omega

def SandboxConditionReady : String := "Ready"

/-- `isSandboxReady`: some condition is `Ready=True`. -/
def isSandboxReady (conditions : List Condition) : Bool :=
  conditions.any fun cond => cond.type == SandboxConditionReady && cond.status == .conditionTrue

/-- A member of the pool as the scaling reads it. -/
structure PoolSandbox where
  name : String
  conditions : List Condition
  /-- Seconds since Go's zero time, which is what `IsZero` tests. -/
  creationTimestamp : Nat
deriving DecidableEq, Repr

def warmPoolReadinessGracePeriod : Nat := 5 * 60

/-- Not Ready, created, and older than the grace period: deleted as stuck. -/
def isStuck (now : Nat) (sb : PoolSandbox) : Bool :=
  !isSandboxReady sb.conditions && sb.creationTimestamp != 0 &&
    decide (now - sb.creationTimestamp > warmPoolReadinessGracePeriod)

/-- The comparator of the scale-down sort: not-Ready members first, then
newest first. -/
def compareForDeletion (a b : PoolSandbox) : Ordering :=
  let aReady := isSandboxReady a.conditions
  let bReady := isSandboxReady b.conditions
  if aReady != bReady then (if aReady then .gt else .lt)
  else compare b.creationTimestamp a.creationTimestamp

/-- `slices.SortFunc`: a sort by the comparator. -/
def sortFunc {α : Type} (l : List α) (cmp : α → α → Ordering) : List α :=
  l.mergeSort fun a b => cmp a b != .gt

/-! ## `slowStartBatch` -/

/-- What `slowStartBatch` did: the batches of indices it called `fn` on, in
order, the count it returns, and whether it returns an error. -/
structure SlowStart where
  batches : List (List Nat)
  successes : Nat
  failed : Bool

/-- The indices `fn` was called on, in order. -/
def SlowStart.called (result : SlowStart) : List Nat := result.batches.flatten

/-- The loop of `slowStartBatch` after `successes` calls, with `remaining`
calls left and `nextSize` the batch size before `remaining` caps it.
`fn i` says whether the call with index `i` succeeds.  A batch's calls all
run, and `eg.Wait` reports a failure after the whole batch. -/
def slowStartLoop (fn : Nat → Bool) (successes remaining nextSize : Nat) : SlowStart :=
  let batchSize := min nextSize remaining
  if batchSize > 0 then
    let batch := (List.range batchSize).map (successes + ·)
    let batchSuccesses := (batch.filter fn).length
    if batch.all fn then
      let rest := slowStartLoop fn (successes + batchSuccesses) (remaining - batchSize) (2 * batchSize)
      { rest with batches := batch :: rest.batches }
    else ⟨[batch], successes + batchSuccesses, true⟩
  else ⟨[], successes, false⟩
termination_by remaining
decreasing_by omega

def slowStartBatch (count : Int) (initialBatchSize : Nat) (fn : Nat → Bool) : SlowStart :=
  slowStartLoop fn 0 count.toNat initialBatchSize

/-- With every call succeeding, the loop calls each remaining index once, in
order; induction follows the loop, one batch per step. -/
theorem slowStartLoop_of_succeeds {fn : Nat → Bool} (succeeds : ∀ i, fn i = true)
    (successes remaining nextSize : Nat) (started : 0 < nextSize) :
    (slowStartLoop fn successes remaining nextSize).called = (List.range remaining).map (successes + ·) ∧
      (slowStartLoop fn successes remaining nextSize).failed = false := by
  fun_induction slowStartLoop fn successes remaining nextSize with
  | case1 successes remaining nextSize batchSize positive batch batchSuccesses batchSucceeds rest ih =>
    obtain ⟨called, failed⟩ := ih (by omega)
    have counted : batchSuccesses = batchSize := by
      show (batch.filter fn).length = batchSize
      rw [List.filter_eq_self.mpr fun x _ => succeeds x]
      simp [batch]
    refine ⟨?_, failed⟩
    rw [SlowStart.called] at called ⊢
    rw [List.flatten_cons, called, counted]
    -- the batch and the rest make up the whole range
    have split : remaining = batchSize + (remaining - batchSize) := by omega
    conv => rhs; rw [split, List.range_add]
    simp [batch, Function.comp_def, Nat.add_assoc]
  | case2 successes remaining nextSize batchSize positive batch batchSuccesses batchFails =>
    exact absurd (by simp [batch, succeeds]) batchFails
  | case3 successes remaining nextSize batchSize empty =>
    have done : remaining = 0 := by omega
    simp [done, SlowStart.called]

theorem slowStartBatch_of_succeeds {fn : Nat → Bool} (succeeds : ∀ i, fn i = true) (count : Int) :
    (slowStartBatch count 1 fn).called = List.range count.toNat ∧ (slowStartBatch count 1 fn).failed = false := by
  rw [slowStartBatch]
  obtain ⟨called, failed⟩ := slowStartLoop_of_succeeds succeeds 0 count.toNat 1 Nat.one_pos
  exact ⟨by simpa using called, failed⟩

/-! ### Every run of the loop -/

/-- What a run of the loop from `successes`, with `remaining` calls left and
first batch size `nextSize`, returns: consecutive indices from `successes`,
in batches that double until `remaining` caps them, every batch but the last
succeeding, and the count of the calls that succeeded. -/
structure LoopSpec (fn : Nat → Bool) (successes remaining nextSize : Nat) (result : SlowStart) : Prop where
  called : result.called = List.range' successes result.called.length
  bounded : result.called.length ≤ remaining
  batchSizes : ∀ i (h : i < result.batches.length),
    result.batches[i].length = min (nextSize * 2 ^ i) (remaining - (result.batches.take i).flatten.length)
  earlierSucceed : ∀ i (h : i + 1 < result.batches.length), ∀ x ∈ result.batches[i], fn x = true
  failed_iff : result.failed = true ↔ ∃ x ∈ result.called, fn x = false
  successes_eq : result.successes = successes + (result.called.filter fn).length
  complete : 0 < nextSize → result.failed = false → result.called.length = remaining

theorem batches_slowStartLoop_zero (fn : Nat → Bool) (successes nextSize : Nat) :
    (slowStartLoop fn successes 0 nextSize).batches = [] := by
  unfold slowStartLoop
  simp

/-- The loop meets `LoopSpec`; induction follows the loop, one batch per
step, and each field of the rest's spec gives the same field one batch
earlier. -/
theorem loopSpec_slowStartLoop (fn : Nat → Bool) (successes remaining nextSize : Nat) :
    LoopSpec fn successes remaining nextSize (slowStartLoop fn successes remaining nextSize) := by
  fun_induction slowStartLoop fn successes remaining nextSize with
  | case1 successes remaining nextSize batchSize positive batch batchSuccesses batchSucceeds rest ih =>
    have ihRest : LoopSpec fn (successes + batchSuccesses) (remaining - batchSize) (2 * batchSize) rest := ih
    have succeeding : ∀ x ∈ batch, fn x = true := by simpa using batchSucceeds
    have counted : batchSuccesses = batchSize := by
      show (batch.filter fn).length = batchSize
      rw [List.filter_eq_self.mpr succeeding]
      simp [batch]
    have batchLength : batch.length = batchSize := by simp [batch]
    have isRange : batch = List.range' successes batchSize := by simp [batch, List.range'_eq_map_range]
    have called : ({ rest with batches := batch :: rest.batches } : SlowStart).called = batch ++ rest.called := rfl
    constructor
    · rw [called, ihRest.called, counted, isRange, List.length_append, List.length_range',
        List.length_range', List.range'_append_1]
    · rw [called, List.length_append, batchLength]
      have := ihRest.bounded
      omega
    · intro i h
      cases i with
      | zero => simp [batchLength, batchSize]
      | succ i =>
        have restSize := ihRest.batchSizes i (by simpa using h)
        simp only [List.getElem_cons_succ, List.take_succ_cons, List.flatten_cons, List.length_append]
        rw [restSize, batchLength]
        -- a second batch exists only when the first was a whole `nextSize`
        by_cases full : nextSize ≤ remaining
        · have first : batchSize = nextSize := by simp [batchSize, full]
          rw [first, Nat.pow_succ, Nat.mul_comm 2 nextSize, Nat.mul_assoc, Nat.mul_comm 2 (2 ^ i)]
          congr 1
          omega
        · have emptied : remaining - batchSize = 0 := by simp only [batchSize]; omega
          have noRest := batches_slowStartLoop_zero fn (successes + batchSuccesses) (2 * batchSize)
          rw [← emptied] at noRest
          have : i < rest.batches.length := by simpa using h
          simp [rest, noRest] at this
    · intro i h x member
      cases i with
      | zero => exact succeeding x member
      | succ i => exact ihRest.earlierSucceed i (by simpa using h) x member
    · rw [called]
      refine ihRest.failed_iff.trans ⟨fun ⟨x, mem, fails⟩ => ⟨x, List.mem_append_right _ mem, fails⟩, ?_⟩
      rintro ⟨x, mem, fails⟩
      rcases List.mem_append.mp mem with inBatch | inRest
      · exact absurd (succeeding x inBatch) (by simp [fails])
      · exact ⟨x, inRest, fails⟩
    · rw [called, List.filter_append, List.length_append, List.filter_eq_self.mpr succeeding, batchLength]
      have := ihRest.successes_eq
      show rest.successes = _
      omega
    · intro _ notFailed
      have restLength := ihRest.complete (by omega) notFailed
      rw [called, List.length_append, restLength, batchLength]
      omega
  | case2 successes remaining nextSize batchSize positive batch batchSuccesses batchFails =>
    have called : (⟨[batch], successes + batchSuccesses, true⟩ : SlowStart).called = batch := by
      simp [SlowStart.called]
    have isRange : batch = List.range' successes batchSize := by simp [batch, List.range'_eq_map_range]
    constructor
    · rw [called, isRange, List.length_range']
    · rw [called]
      simp [batch, batchSize]
    · intro i h
      cases i with
      | zero => simp [batch, batchSize]
      | succ i => simp at h
    · intro i h
      simp at h
    · simpa [called] using batchFails
    · rw [called]
    · intro _ notFailed
      cases notFailed
  | case3 successes remaining nextSize batchSize empty =>
    constructor
    · rfl
    · simp [SlowStart.called]
    · intro i h
      simp at h
    · intro i h
      simp at h
    · simp [SlowStart.called]
    · simp [SlowStart.called]
    · intro started _
      simp only [SlowStart.called, List.flatten_nil, List.length_nil]
      omega

section Batch

variable (count : Int) {initialBatchSize : Nat} (fn : Nat → Bool)

theorem loopSpec_slowStartBatch :
    LoopSpec fn 0 count.toNat initialBatchSize (slowStartBatch count initialBatchSize fn) :=
  loopSpec_slowStartLoop fn 0 count.toNat initialBatchSize

theorem called_lt_of_mem {x : Nat} (mem : x ∈ (slowStartBatch count initialBatchSize fn).called) :
    x < count.toNat := by
  have spec := @loopSpec_slowStartBatch count initialBatchSize fn
  have bounded := spec.bounded
  rw [spec.called, List.mem_range'_1] at mem
  omega

/-- With every call in `[0, count)` succeeding, the batches call each index
once and `slowStartBatch` returns `(count, nil)`. -/
theorem slowStartBatch_of_all (started : 1 ≤ initialBatchSize) (succeeds : ∀ i < count.toNat, fn i = true) :
    (slowStartBatch count initialBatchSize fn).called = List.range count.toNat ∧
      (slowStartBatch count initialBatchSize fn).successes = count.toNat ∧
      (slowStartBatch count initialBatchSize fn).failed = false := by
  have spec := @loopSpec_slowStartBatch count initialBatchSize fn
  have calledSucceed : ∀ x ∈ (slowStartBatch count initialBatchSize fn).called, fn x = true :=
    fun x mem => succeeds x (called_lt_of_mem count fn mem)
  have notFailed : (slowStartBatch count initialBatchSize fn).failed = false := by
    refine Bool.eq_false_iff.mpr fun failed => ?_
    obtain ⟨x, mem, fails⟩ := spec.failed_iff.mp failed
    rw [calledSucceed x mem] at fails
    cases fails
  have length := spec.complete (by omega) notFailed
  refine ⟨by rw [spec.called, length, List.range_eq_range'], ?_, notFailed⟩
  rw [spec.successes_eq, List.filter_eq_self.mpr calledSucceed, length, Nat.zero_add]

/-- When a call in `[0, count)` fails, `slowStartBatch` returns the error, and
the last batch it started holds a failing call. -/
theorem slowStartBatch_of_fails (started : 1 ≤ initialBatchSize) (fails : ∃ i < count.toNat, fn i = false) :
    (slowStartBatch count initialBatchSize fn).failed = true ∧
      ∃ x ∈ (slowStartBatch count initialBatchSize fn).batches.getLast?.getD [], fn x = false := by
  have spec := @loopSpec_slowStartBatch count initialBatchSize fn
  have failed : (slowStartBatch count initialBatchSize fn).failed = true := by
    by_contra notFailed
    obtain ⟨i, below, failing⟩ := fails
    have length := spec.complete (by omega) (by simpa using notFailed)
    have mem : i ∈ (slowStartBatch count initialBatchSize fn).called := by
      rw [spec.called, length, List.mem_range'_1]
      omega
    exact notFailed (spec.failed_iff.mpr ⟨i, mem, failing⟩)
  refine ⟨failed, ?_⟩
  obtain ⟨x, mem, failing⟩ := spec.failed_iff.mp failed
  obtain ⟨batch, inBatches, inBatch⟩ := List.mem_flatten.mp mem
  obtain ⟨j, below, rfl⟩ := List.getElem_of_mem inBatches
  -- every batch before the last succeeds, so the failing one is the last
  have last : j + 1 = (slowStartBatch count initialBatchSize fn).batches.length := by
    by_contra notLast
    have earlier := spec.earlierSucceed j (by omega) x inBatch
    rw [earlier] at failing
    cases failing
  refine ⟨x, ?_, failing⟩
  rw [List.getLast?_eq_getElem?, ← last, Nat.add_sub_cancel, List.getElem?_eq_getElem below]
  exact inBatch

/-- `slowStartBatch` with a first batch of at least one call: it calls `fn`
once on each of `0, …, e - 1` in order, in batches of
`min(initialBatchSize · 2^i, remaining)`, every batch but the last one
succeeding, and returns the number of calls that succeeded.  With every call
in `[0, count)` succeeding, `e = count` and it returns `(count, nil)`; when one
fails, it returns the error and the last batch it started holds a failing
call. -/
theorem slowStartBatch_spec (started : 1 ≤ initialBatchSize) :
    LoopSpec fn 0 count.toNat initialBatchSize (slowStartBatch count initialBatchSize fn) ∧
      ((∀ i < count.toNat, fn i = true) →
        (slowStartBatch count initialBatchSize fn).called = List.range count.toNat ∧
          (slowStartBatch count initialBatchSize fn).successes = count.toNat ∧
          (slowStartBatch count initialBatchSize fn).failed = false) ∧
      ((∃ i < count.toNat, fn i = false) →
        (slowStartBatch count initialBatchSize fn).failed = true ∧
          ∃ x ∈ (slowStartBatch count initialBatchSize fn).batches.getLast?.getD [], fn x = false) :=
  ⟨loopSpec_slowStartBatch count fn, slowStartBatch_of_all count fn started, slowStartBatch_of_fails count fn started⟩

end Batch

theorem slowStartBatch_spec_failAtThree :
    1 ≤ 1 ∧ (∃ i < (5 : Int).toNat, (i != 3) = false) ∧
      (slowStartBatch 5 1 (· != 3)).failed = true ∧
        ∃ x ∈ (slowStartBatch 5 1 (· != 3)).batches.getLast?.getD [], (x != 3) = false :=
  ⟨Nat.le_refl 1, ⟨3, by decide, rfl⟩, (slowStartBatch_spec 5 (· != 3) (Nat.le_refl 1)).2.2 ⟨3, by decide, rfl⟩⟩

/-! ## The deletion order -/

/-- The order the sort puts members in: `a` may precede `b`. -/
def DeletedBefore (a b : PoolSandbox) : Prop := compareForDeletion a b ≠ .gt

theorem deletedBefore_iff (a b : PoolSandbox) :
    DeletedBefore a b ↔
      (isSandboxReady a.conditions = true → isSandboxReady b.conditions = true) ∧
        (isSandboxReady a.conditions = isSandboxReady b.conditions →
          b.creationTimestamp ≤ a.creationTimestamp) := by
  unfold DeletedBefore compareForDeletion
  cases isSandboxReady a.conditions <;> cases isSandboxReady b.conditions <;>
    simp [Nat.compare_eq_gt]

theorem deletedBefore_total (a b : PoolSandbox) : DeletedBefore a b ∨ DeletedBefore b a := by
  rw [deletedBefore_iff, deletedBefore_iff]
  cases isSandboxReady a.conditions <;> cases isSandboxReady b.conditions <;> simp <;> omega

theorem deletedBefore_trans {a b c : PoolSandbox} (first : DeletedBefore a b) (second : DeletedBefore b c) :
    DeletedBefore a c := by
  rw [deletedBefore_iff] at first second ⊢
  obtain ⟨readyFirst, newerFirst⟩ := first
  obtain ⟨readySecond, newerSecond⟩ := second
  refine ⟨fun ready => readySecond (readyFirst ready), fun same => ?_⟩
  -- readiness can only rise along the order, so equal at both ends means equal throughout
  have ab : isSandboxReady a.conditions = isSandboxReady b.conditions := by
    revert readyFirst readySecond same
    cases isSandboxReady a.conditions <;> cases isSandboxReady b.conditions <;>
      cases isSandboxReady c.conditions <;> simp
  have bc : isSandboxReady b.conditions = isSandboxReady c.conditions := ab ▸ same
  exact Nat.le_trans (newerSecond bc) (newerFirst ab)

theorem sortFunc_compareForDeletion (members : List PoolSandbox) :
    (sortFunc members compareForDeletion).Perm members ∧
      (sortFunc members compareForDeletion).Pairwise DeletedBefore := by
  have le_iff : ∀ a b, (compareForDeletion a b != .gt) = true ↔ DeletedBefore a b := by
    simp [DeletedBefore]
  refine ⟨List.mergeSort_perm _ _, ?_⟩
  have sorted := @List.pairwise_mergeSort _ (fun a b => compareForDeletion a b != .gt)
    (fun a b c first second => (le_iff a c).mpr
      (deletedBefore_trans ((le_iff a b).mp first) ((le_iff b c).mp second)))
    (fun a b => by
      rcases deletedBefore_total a b with before | after
      · simp [(le_iff a b).mpr before]
      · simp [(le_iff b a).mpr after])
    members
  exact sorted.imp fun before => (le_iff _ _).mp before

/-! ## One `reconcilePool` -/

inductive TemplateError
  | notFound
  | other
deriving DecidableEq, Repr

/-- The API server's answers: whether the `i`-th create, and the delete of a
member, succeed. -/
structure PoolAnswers where
  create : Nat → Bool
  delete : PoolSandbox → Bool

/-- What one `reconcilePool` does to the pool. -/
structure PoolActions where
  stuckDeleted : List PoolSandbox
  /-- The indices `createPoolSandbox` was called with. -/
  created : List Nat
  /-- The members deleted to scale down, in call order. -/
  deleted : List PoolSandbox
  failed : Bool

/-- `Create new sandboxes if we need more`: the indices created and whether a
call failed. -/
def createSandboxes (desiredReplicas currentReplicas maxBatchSize : Int) (tmplErr : Option TemplateError)
    (blueprintBuilt : Bool) (create : Nat → Bool) : List Nat × Bool :=
  if currentReplicas < desiredReplicas ∧ tmplErr = none then
    let sandboxesToCreate := min (toInt32 (desiredReplicas - currentReplicas)) maxBatchSize
    if blueprintBuilt then
      let result := slowStartBatch sandboxesToCreate 1 create
      (result.called, result.failed)
    else ([], true)
  else ([], false)

/-- `Delete excess sandboxes if we have too many`: the members deleted, in call
order, and whether a call failed. -/
def deleteExcess (desiredReplicas currentReplicas maxBatchSize : Int) (activeSandboxes : List PoolSandbox)
    (delete : PoolSandbox → Bool) : List PoolSandbox × Bool :=
  if currentReplicas > desiredReplicas then
    let sandboxesToDelete := min (toInt32 (currentReplicas - desiredReplicas)) maxBatchSize
    let sorted := sortFunc activeSandboxes compareForDeletion
    let toDeleteCount := min sandboxesToDelete (toInt32 sorted.length)
    let result := slowStartBatch toDeleteCount 1 fun idx => sorted[idx]?.all delete
    (result.called.filterMap (sorted[·]?), result.failed)
  else ([], false)

/-- The members that are not stuck. -/
def healthyOf (now : Nat) (activeSandboxes : List PoolSandbox) : List PoolSandbox :=
  activeSandboxes.filter fun sb => !isStuck now sb

/-- The scaling of `reconcilePool` on the members `filterActiveSandboxes`
kept, with the reconciler's `MaxBatchSize`, the pool's `Spec.Replicas`, the
error of `fetchTemplateAndHash` and whether `buildSandboxCR` succeeds. -/
def reconcilePool (MaxBatchSize : Int) (replicas : Option Int) (tmplErr : Option TemplateError)
    (blueprintBuilt : Bool) (now : Nat) (answers : PoolAnswers) (activeSandboxes : List PoolSandbox) :
    PoolActions :=
  let stuck := activeSandboxes.filter (isStuck now)
  let healthy := healthyOf now activeSandboxes
  let desiredReplicas := replicas.getD 1
  let currentReplicas := toInt32 healthy.length
  let maxBatchSize := toInt32 MaxBatchSize
  let creation := createSandboxes desiredReplicas currentReplicas maxBatchSize tmplErr blueprintBuilt answers.create
  let deletion := deleteExcess desiredReplicas currentReplicas maxBatchSize healthy answers.delete
  { stuckDeleted := stuck
    created := creation.1
    deleted := deletion.1
    failed := !stuck.all answers.delete || creation.2 || deletion.2 || tmplErr.any (· != .notFound) }

/-! ## What one reconcile does -/

theorem filterMap_getElem?_range {α : Type} (l : List α) (k : Nat) :
    (List.range k).filterMap (l[·]?) = l.take k := by
  induction k with
  | zero => simp
  | succ k ih =>
    rw [List.range_succ, List.filterMap_append, ih, List.take_add_one, List.filterMap_cons, List.filterMap_nil]
    cases l[k]? <;> rfl

section Blocks

variable (desiredReplicas currentReplicas maxBatchSize : Int)

/-- With every create succeeding and the counts in `int32` range, the pool
grows by `min(d - n, maxBatchSize)` when it is short and the template and
blueprint are there. -/
theorem createSandboxes_length (tmplErr : Option TemplateError) (blueprintBuilt : Bool) {create : Nat → Bool}
    (succeeds : ∀ i, create i = true) (current : 0 ≤ currentReplicas)
    (desired : 0 ≤ desiredReplicas ∧ desiredReplicas < 2 ^ 31) (batch : 1 ≤ maxBatchSize) :
    ((createSandboxes desiredReplicas currentReplicas maxBatchSize tmplErr blueprintBuilt create).1.length : Int) =
      if currentReplicas < desiredReplicas ∧ tmplErr = none ∧ blueprintBuilt then
        min (desiredReplicas - currentReplicas) maxBatchSize
      else 0 := by
  unfold createSandboxes
  by_cases grow : currentReplicas < desiredReplicas ∧ tmplErr = none
  · rw [if_pos grow, toInt32_of_lt (by omega) (by omega)]
    cases blueprintBuilt
    · rw [if_neg Bool.false_ne_true, if_neg fun h => Bool.false_ne_true h.2.2]
      rfl
    · rw [if_pos rfl]
      dsimp only
      rw [(slowStartBatch_of_succeeds succeeds _).1, List.length_range, if_pos ⟨grow.1, grow.2, rfl⟩]
      omega
  · rw [if_neg grow, if_neg fun h => grow ⟨h.1, h.2.1⟩]
    rfl

/-- With every delete succeeding and the counts in `int32` range, the pool
shrinks by the first `min(n - d, maxBatchSize)` members of the deletion order
when it is over. -/
theorem deleteExcess_eq (activeSandboxes : List PoolSandbox) {delete : PoolSandbox → Bool}
    (succeeds : ∀ sb, delete sb = true) (current : currentReplicas = activeSandboxes.length)
    (currentFits : currentReplicas < 2 ^ 31) (desired : 0 ≤ desiredReplicas) :
    (deleteExcess desiredReplicas currentReplicas maxBatchSize activeSandboxes delete).1 =
      if desiredReplicas < currentReplicas then
        (sortFunc activeSandboxes compareForDeletion).take (min (currentReplicas - desiredReplicas) maxBatchSize).toNat
      else [] := by
  unfold deleteExcess
  by_cases shrink : desiredReplicas < currentReplicas
  · have sortedLength : ((sortFunc activeSandboxes compareForDeletion).length : Int) = currentReplicas := by
      rw [(sortFunc_compareForDeletion activeSandboxes).1.length_eq, current]
    have called : ∀ idx : Nat, (sortFunc activeSandboxes compareForDeletion)[idx]?.all delete = true := by
      intro idx
      cases (sortFunc activeSandboxes compareForDeletion)[idx]? <;> simp [succeeds]
    rw [if_pos shrink, if_pos shrink]
    dsimp only
    rw [toInt32_of_lt (by omega) (by omega), sortedLength, toInt32_of_lt (by omega) currentFits,
      (slowStartBatch_of_succeeds called _).1, filterMap_getElem?_range]
    congr 2
    omega
  · rw [if_neg shrink, if_neg shrink]

end Blocks

/-- Every call succeeds. -/
def allSucceed : PoolAnswers := ⟨fun _ => true, fun _ => true⟩

theorem reconcilePool_created_eq (MaxBatchSize : Int) (replicas : Option Int) (tmplErr : Option TemplateError)
    (blueprintBuilt : Bool) (now : Nat) (answers : PoolAnswers) (activeSandboxes : List PoolSandbox) :
    (reconcilePool MaxBatchSize replicas tmplErr blueprintBuilt now answers activeSandboxes).created =
      (createSandboxes (replicas.getD 1) (toInt32 (healthyOf now activeSandboxes).length) (toInt32 MaxBatchSize)
        tmplErr blueprintBuilt answers.create).1 := rfl

theorem reconcilePool_deleted_eq (MaxBatchSize : Int) (replicas : Option Int) (tmplErr : Option TemplateError)
    (blueprintBuilt : Bool) (now : Nat) (answers : PoolAnswers) (activeSandboxes : List PoolSandbox) :
    (reconcilePool MaxBatchSize replicas tmplErr blueprintBuilt now answers activeSandboxes).deleted =
      (deleteExcess (replicas.getD 1) (toInt32 (healthyOf now activeSandboxes).length) (toInt32 MaxBatchSize)
        (healthyOf now activeSandboxes) answers.delete).1 := rfl

/-- A member deleted from the front of the order is `DeletedBefore` every
member kept: in particular no Ready member goes while a not-Ready one stays. -/
theorem deletedBefore_kept {deleted sorted : List PoolSandbox} (front : List.IsPrefix deleted sorted)
    (ordered : sorted.Pairwise DeletedBefore) :
    ∀ x ∈ deleted, ∀ y ∈ sorted.drop deleted.length, DeletedBefore x y := by
  obtain ⟨kept, rfl⟩ := front
  rw [List.drop_left]
  exact (List.pairwise_append.mp ordered).2.2

/-- One reconcile with every call succeeding and a batch size below `2^31`:
it creates `min(d - n, MaxBatchSize)` members when the pool is short,
deletes `min(n - d, MaxBatchSize)` when it is over, never both, and the
deleted members are a prefix of the members in the deletion order, so that
no Ready member is deleted while a not-Ready one is kept. -/
theorem reconcilePool_scaling (MaxBatchSize : Int) (replicas : Option Int) (tmplErr : Option TemplateError)
    (blueprintBuilt : Bool) (now : Nat) (activeSandboxes : List PoolSandbox)
    (batchPositive : 1 ≤ MaxBatchSize) (batchFits : MaxBatchSize < 2 ^ 31)
    (replicasFit : 0 ≤ replicas.getD 1 ∧ replicas.getD 1 < 2 ^ 31)
    (poolFits : (healthyOf now activeSandboxes).length < 2 ^ 31) :
    let actions := reconcilePool MaxBatchSize replicas tmplErr blueprintBuilt now allSucceed activeSandboxes
    let n : Int := (healthyOf now activeSandboxes).length
    let d := replicas.getD 1
    (actions.created.length : Int) =
        (if n < d ∧ tmplErr = none ∧ blueprintBuilt then min (d - n) MaxBatchSize else 0) ∧
      (actions.deleted.length : Int) = (if d < n then min (n - d) MaxBatchSize else 0) ∧
      (actions.created = [] ∨ actions.deleted = []) ∧
      ∃ sorted, sorted.Perm (healthyOf now activeSandboxes) ∧ sorted.Pairwise DeletedBefore ∧
        List.IsPrefix actions.deleted sorted ∧
        ∀ x ∈ actions.deleted, ∀ y ∈ sorted.drop actions.deleted.length,
          isSandboxReady x.conditions = true → isSandboxReady y.conditions = true := by
  intro actions n d
  have currentFits : toInt32 n = n := toInt32_of_lt (by omega) (by omega)
  have batchSize : toInt32 MaxBatchSize = MaxBatchSize := toInt32_of_lt (by omega) batchFits
  have created : actions.created = (createSandboxes d n MaxBatchSize tmplErr blueprintBuilt allSucceed.create).1 := by
    rw [reconcilePool_created_eq, currentFits, batchSize]
  have deleted : actions.deleted =
      (deleteExcess d n MaxBatchSize (healthyOf now activeSandboxes) allSucceed.delete).1 := by
    rw [reconcilePool_deleted_eq, currentFits, batchSize]
  have createdLength := createSandboxes_length d n MaxBatchSize tmplErr blueprintBuilt
    (fun _ => rfl : ∀ i, allSucceed.create i = true) (by omega) replicasFit batchPositive
  rw [← created] at createdLength
  have deletedFront := deleteExcess_eq d n MaxBatchSize (healthyOf now activeSandboxes)
    (fun _ => rfl : ∀ sb, allSucceed.delete sb = true) rfl (by omega) replicasFit.1
  rw [← deleted] at deletedFront
  obtain ⟨perm, ordered⟩ := sortFunc_compareForDeletion (healthyOf now activeSandboxes)
  have sortedLength : ((sortFunc (healthyOf now activeSandboxes) compareForDeletion).length : Int) = n := by
    rw [perm.length_eq]
  have front : List.IsPrefix actions.deleted (sortFunc (healthyOf now activeSandboxes) compareForDeletion) := by
    rw [deletedFront]
    split
    · exact List.take_prefix _ _
    · exact List.nil_prefix
  refine ⟨createdLength, ?_, ?_, _, perm, ordered, front, fun x deletedX y keptY ready => ?_⟩
  · rw [deletedFront]
    split
    · rw [List.length_take]
      omega
    · rfl
  · -- growing needs `n < d` and shrinking `d < n`
    by_cases grow : n < d
    · right
      rw [deletedFront, if_neg (by omega)]
    · left
      rw [if_neg fun h => grow h.1] at createdLength
      exact List.length_eq_zero_iff.mp (by omega)
  · exact ((deletedBefore_iff x y).mp (deletedBefore_kept front ordered x deletedX y keptY)).1 ready

/-- An empty pool with the default one replica and `MaxBatchSize = 2^32`, a
positive `int` that the flag check accepts: `int32` wraps the batch size to
`0`, and the pool is not grown although `min(d - n, MaxBatchSize) = 1`. -/
theorem reconcilePool_wrappedBatchSize :
    (reconcilePool (2 ^ 32) none none true 0 allSucceed []).created = [] ∧
      min ((none : Option Int).getD 1 - ([] : List PoolSandbox).length) (2 ^ 32) = 1 := by
  have current : toInt32 (healthyOf 0 []).length = 0 := by decide
  have wrapped : toInt32 (2 ^ 32) = 0 := by decide
  have difference : toInt32 ((none : Option Int).getD 1 - 0) = 1 := by decide
  refine ⟨?_, by decide⟩
  rw [reconcilePool_created_eq, current, wrapped, createSandboxes, if_pos ⟨by decide, rfl⟩]
  dsimp only
  rw [difference, if_pos rfl]
  dsimp only
  rw [(slowStartBatch_of_succeeds (fun _ => rfl : ∀ i, allSucceed.create i = true) _).1]
  rfl

end AgentSandbox.WarmPool
