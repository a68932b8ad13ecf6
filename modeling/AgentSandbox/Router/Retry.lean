import Mathlib

/-!
# The router's retry transport

Model of `sandbox-router/proxy/retry.go`: `newRetryTransport`,
`retryTransport.RoundTrip` and `isRetriableDialError`.  The base transport is
the sequence of its outcomes, the `k`-th call returning `base k`; the
request's context is an oracle saying whether it fires during the wait after
attempt `k` (when the timer and the context are both ready Go's `select` picks
either, and the oracle picks for it).  What the caller sees is the list of
events: the calls of `base` and of `onRetry`, and the waits with the delay
given to `timer.Reset`.

An error is the sequence of values `errors.As` visits: the error, then depth
first what `Unwrap` returns.  `time.Duration` is an `Int` of nanoseconds, and
`delay *= 2` wraps as `int64` does.

`RoundTrip` calls `base` until an outcome ends the loop, the budget is spent or
the context fires during a wait, and returns the outcome of its last call
(`roundTrip_of_ending`, `roundTrip_of_cancelled`).  The `i`-th wait is
`delayAfter (i - 1)`, which is `min(initialDelay · 2^(i-1), maxDelay)` while
`initialDelay ≤ maxDelay < 2^62` ns (`delayAfter_eq_backoffDelay`); from
`2^62` on, doubling the delay wraps to a negative one.
-/

set_option autoImplicit false

namespace AgentSandbox.Router

/-- `time.Millisecond`, in nanoseconds. -/
def Millisecond : Int := 1000000

/-- Go's `int64(x)`: the low 64 bits of `x`, read in two's complement. -/
def toInt64 (x : Int) : Int :=
  let low : Nat := (x % 2 ^ 64).toNat
  if low < 2 ^ 63 then (low : Int) else (low : Int) - 2 ^ 64

theorem toInt64_of_lt {x : Int} (lo : -2 ^ 63 ≤ x) (hi : x < 2 ^ 63) : toInt64 x = x := by
  unfold toInt64
  dsimp only
  split <;> omega

/-- The concrete error types `isRetriableDialError` asks `errors.As` for. -/
inductive NetError
  /-- `*net.DNSError` -/
  | dnsError
  /-- `*net.OpError`, with its `Op` -/
  | opError (op : String)
  /-- a value of any other type -/
  | other
deriving DecidableEq, Repr

/-- A non-nil error, as the values `errors.As` visits in order. -/
abbrev GoError := List NetError

def NetError.asDNSError : NetError → Option Unit
  | .dnsError => some ()
  | _ => none

def NetError.asOpError : NetError → Option String
  | .opError op => some op
  | _ => none

/-- `errors.As(err, &target)`: the first value of the target's type. -/
def errorsAs {β : Type} (target : NetError → Option β) (err : GoError) : Option β :=
  err.findSome? target

def isRetriableDialError (err : Option GoError) : Bool :=
  match err with
  | none => false
  | some err =>
    if (errorsAs NetError.asDNSError err).isSome then true
    else
      match errorsAs NetError.asOpError err with
      | some op => op == "dial"
      | none => false

/-- What `RoundTrip` does that its caller can see. -/
inductive RetryEvent
  /-- `t.base.RoundTrip(req)`, at this attempt -/
  | roundTrip (attempt : Nat)
  /-- `t.onRetry(req, err, attempt)` -/
  | onRetry (attempt : Nat)
  /-- `timer.Reset(delay)`, then the `select` on the timer and the context;
  a delay in nanoseconds -/
  | wait (delay : Int)
deriving DecidableEq, Repr

structure RetryTransport (ρ : Type) where
  base : Nat → Except GoError ρ
  maxAttempts : Int
  /-- nanoseconds, as `maxDelay` -/
  initialDelay : Int
  maxDelay : Int
  /-- `onRetry != nil` -/
  onRetry : Bool

def newRetryTransport {ρ : Type} (base : Nat → Except GoError ρ) (attempts : Int) (initialDelay maxDelay : Int)
    (onRetry : Bool) : RetryTransport ρ :=
  let attempts := if attempts < 1 then 1 else attempts
  let initialDelay := if initialDelay ≤ 0 then 200 * Millisecond else initialDelay
  let maxDelay := if maxDelay ≤ 0 then 800 * Millisecond else maxDelay
  ⟨base, attempts, initialDelay, maxDelay, onRetry⟩

/-- Every transport `newRetryTransport` builds makes at least one attempt and
has positive delays. -/
theorem newRetryTransport_valid {ρ : Type} (base : Nat → Except GoError ρ) (attempts : Int) (initialDelay maxDelay : Int)
    (onRetry : Bool) :
    1 ≤ (newRetryTransport base attempts initialDelay maxDelay onRetry).maxAttempts ∧
      0 < (newRetryTransport base attempts initialDelay maxDelay onRetry).initialDelay ∧
      0 < (newRetryTransport base attempts initialDelay maxDelay onRetry).maxDelay := by
  simp only [newRetryTransport, Millisecond]
  refine ⟨?_, ?_, ?_⟩ <;> split <;> omega

namespace RetryTransport

variable {ρ : Type}

/-- `delay *= 2`, then capped at `maxDelay`. -/
def nextDelay (t : RetryTransport ρ) (delay : Int) : Int :=
  let doubled := toInt64 (delay * 2)
  if doubled > t.maxDelay then t.maxDelay else doubled

/-- The events of an attempt whose dial error is retried. -/
def retriedEvents (t : RetryTransport ρ) (attempt : Nat) (delay : Int) : List RetryEvent :=
  .roundTrip attempt :: (if t.onRetry then [.onRetry attempt] else []) ++ [.wait delay]

/-- The `for` loop of `RoundTrip` from `attempt` on, `left` counting the
iterations before `attempt <= t.maxAttempts` fails.  It returns the events and
`(resp, err)`, where `.error none` is `(nil, nil)`. -/
def retryLoop (t : RetryTransport ρ) (cancelled : Nat → Bool) :
    (left attempt : Nat) → (delay : Int) → (lastErr : Option GoError) →
      List RetryEvent × Except (Option GoError) ρ
  | 0, _, _, lastErr => ([], .error lastErr)
  | left + 1, attempt, delay, _ =>
    match t.base attempt with
    | .ok resp => ([.roundTrip attempt], .ok resp)
    | .error err =>
      if !isRetriableDialError (some err) || (attempt : Int) == t.maxAttempts then
        ([.roundTrip attempt], .error (some err))
      -- the context fires first: the dial error, not the context's
      else if cancelled attempt then (t.retriedEvents attempt delay, .error (some err))
      else
        let rest := retryLoop t cancelled left (attempt + 1) (t.nextDelay delay) (some err)
        (t.retriedEvents attempt delay ++ rest.1, rest.2)

def RoundTrip (t : RetryTransport ρ) (cancelled : Nat → Bool) : List RetryEvent × Except (Option GoError) ρ :=
  t.retryLoop cancelled t.maxAttempts.toNat 1 t.initialDelay none

/-! ## The loop, attempt by attempt -/

/-- An outcome that ends the loop by itself: a response, or an error that is
not a dial error. -/
def isFinal (outcome : Except GoError ρ) : Bool :=
  match outcome with
  | .ok _ => true
  | .error err => !isRetriableDialError (some err)

/-- The delay of the wait after `n` doublings. -/
def delayAfter (t : RetryTransport ρ) : Nat → Int
  | 0 => t.initialDelay
  | n + 1 => t.nextDelay (t.delayAfter n)

/-- The `i`-th wait of a backoff that starts at `initialDelay` and doubles up to
`maxDelay`. -/
def backoffDelay (t : RetryTransport ρ) (i : Nat) : Int :=
  if i = 1 then t.initialDelay else min (t.initialDelay * 2 ^ (i - 1)) t.maxDelay

variable (t : RetryTransport ρ) (cancelled : Nat → Bool)

theorem not_isFinal {outcome : Except GoError ρ} (retried : isFinal outcome = false) :
    ∃ err, outcome = .error err ∧ isRetriableDialError (some err) = true := by
  cases outcome with
  | ok resp => cases retried
  | error err => exact ⟨err, rfl, by simpa [isFinal] using retried⟩

theorem retryLoop_of_final (left attempt : Nat) (delay : Int) (lastErr : Option GoError)
    (ends : isFinal (t.base attempt) = true ∨ (attempt : Int) = t.maxAttempts) :
    t.retryLoop cancelled (left + 1) attempt delay lastErr = ([.roundTrip attempt], (t.base attempt).mapError some) := by
  rw [retryLoop]
  cases outcome : t.base attempt with
  | ok resp => rfl
  | error err =>
    rw [outcome] at ends
    have stops : (!isRetriableDialError (some err) || (attempt : Int) == t.maxAttempts) = true := by
      rcases ends with final | last
      · exact Bool.or_eq_true_iff.mpr (.inl (by simpa [isFinal] using final))
      · simp [last]
    simp only [stops, if_true]
    rfl

theorem retryLoop_of_retried (left attempt : Nat) (delay : Int) (lastErr : Option GoError)
    {err : GoError} (failed : t.base attempt = .error err) (retriable : isRetriableDialError (some err) = true)
    (notLast : (attempt : Int) ≠ t.maxAttempts) :
    t.retryLoop cancelled (left + 1) attempt delay lastErr =
      if cancelled attempt then (t.retriedEvents attempt delay, .error (some err))
      else
        ((t.retriedEvents attempt delay ++ (t.retryLoop cancelled left (attempt + 1) (t.nextDelay delay) (some err)).1),
          (t.retryLoop cancelled left (attempt + 1) (t.nextDelay delay) (some err)).2) := by
  rw [retryLoop, failed]
  simp only [retriable, notLast, Bool.not_true, Bool.false_or, beq_iff_eq, if_false]

/-- Over attempts whose dial errors are retried and whose waits run out, the
loop emits their events and goes on at the next attempt; induction on the
number of such attempts, the delay advancing with `delayAfter`. -/
theorem retryLoop_run : ∀ (n left attempt : Nat) (lastErr : Option GoError),
    1 ≤ attempt → (left : Int) = t.maxAttempts - attempt + 1 →
    (∀ k, attempt ≤ k → k < attempt + n →
      isFinal (t.base k) = false ∧ (k : Int) < t.maxAttempts ∧ cancelled k = false) →
    ∃ err, t.retryLoop cancelled left attempt (t.delayAfter (attempt - 1)) lastErr =
      ((List.range' attempt n).flatMap (fun k => t.retriedEvents k (t.delayAfter (k - 1))) ++
          (t.retryLoop cancelled (left - n) (attempt + n) (t.delayAfter (attempt + n - 1)) err).1,
        (t.retryLoop cancelled (left - n) (attempt + n) (t.delayAfter (attempt + n - 1)) err).2)
  | 0, left, attempt, lastErr, _, _, _ => ⟨lastErr, by simp⟩
  | n + 1, left, attempt, lastErr, first, counted, retrying => by
    obtain ⟨retried, notLast, waited⟩ := retrying attempt (Nat.le_refl _) (by omega)
    obtain ⟨err, failed, retriable⟩ := not_isFinal retried
    obtain ⟨left, rfl⟩ : ∃ l, left = l + 1 := ⟨left - 1, by omega⟩
    have advanced : t.nextDelay (t.delayAfter (attempt - 1)) = t.delayAfter (attempt + 1 - 1) := by
      obtain ⟨a, rfl⟩ : ∃ a, attempt = a + 1 := ⟨attempt - 1, by omega⟩
      rfl
    obtain ⟨last, rest⟩ := retryLoop_run n left (attempt + 1) (some err) (by omega) (by push_cast at counted ⊢; omega)
      fun k lo hi => retrying k (by omega) (by omega)
    refine ⟨last, ?_⟩
    rw [retryLoop_of_retried t cancelled left attempt _ lastErr failed retriable (Int.ne_of_lt notLast), if_neg (by simp [waited]),
      advanced, rest, List.range'_succ, List.flatMap_cons, List.append_assoc]
    simp only [show left + 1 - (n + 1) = left - n by omega, show attempt + (n + 1) = attempt + 1 + n by omega]

/-- Without a cancelled wait, `RoundTrip` calls `base` at attempts `1, …, j`,
where `j` is the first attempt whose outcome is final, or the last one, and
returns the outcome of attempt `j`. -/
theorem roundTrip_of_ending {j : Nat} (first : 1 ≤ j) (budget : (j : Int) ≤ t.maxAttempts)
    (retrying : ∀ k, 1 ≤ k → k < j → isFinal (t.base k) = false ∧ cancelled k = false)
    (ending : isFinal (t.base j) = true ∨ (j : Int) = t.maxAttempts) :
    t.RoundTrip cancelled =
      ((List.range' 1 (j - 1)).flatMap (fun k => t.retriedEvents k (t.delayAfter (k - 1))) ++ [.roundTrip j],
        (t.base j).mapError some) := by
  obtain ⟨err, run⟩ := t.retryLoop_run cancelled (j - 1) t.maxAttempts.toNat 1 none (Nat.le_refl 1) (by omega)
    fun k lo hi => ⟨(retrying k lo (by omega)).1, by omega, (retrying k lo (by omega)).2⟩
  obtain ⟨left, counted⟩ : ∃ l, t.maxAttempts.toNat - (j - 1) = l + 1 := ⟨t.maxAttempts.toNat - j, by omega⟩
  have landed : 1 + (j - 1) = j := by omega
  rw [RoundTrip, show t.initialDelay = t.delayAfter (1 - 1) from rfl, run, counted, landed,
    retryLoop_of_final t cancelled left j _ err ending]

/-- When the context fires during the wait after attempt `i`, before any
attempt's outcome ends the loop, `RoundTrip` returns the dial error of attempt
`i` and calls `base` no more. -/
theorem roundTrip_of_cancelled {i : Nat} (first : 1 ≤ i) (notLast : (i : Int) < t.maxAttempts)
    (retrying : ∀ k, 1 ≤ k → k ≤ i → isFinal (t.base k) = false) (fired : cancelled i = true)
    (waited : ∀ k, k < i → cancelled k = false) :
    t.RoundTrip cancelled =
      ((List.range' 1 i).flatMap (fun k => t.retriedEvents k (t.delayAfter (k - 1))), (t.base i).mapError some) := by
  obtain ⟨err, run⟩ := t.retryLoop_run cancelled (i - 1) t.maxAttempts.toNat 1 none (Nat.le_refl 1) (by omega)
    fun k lo hi => ⟨retrying k lo (by omega), by omega, waited k (by omega)⟩
  obtain ⟨left, counted⟩ : ∃ l, t.maxAttempts.toNat - (i - 1) = l + 1 := ⟨t.maxAttempts.toNat - i, by omega⟩
  obtain ⟨last, failed, retriable⟩ := not_isFinal (retrying i first (Nat.le_refl i))
  have landed : 1 + (i - 1) = i := by omega
  have split : List.range' 1 i = List.range' 1 (i - 1) ++ [i] := by
    obtain ⟨m, rfl⟩ : ∃ m, i = m + 1 := ⟨i - 1, by omega⟩
    rw [List.range'_concat, Nat.add_sub_cancel, Nat.one_mul, Nat.add_comm]
  rw [RoundTrip, show t.initialDelay = t.delayAfter (1 - 1) from rfl, run, counted, landed,
    retryLoop_of_retried t cancelled left i _ err failed retriable (Int.ne_of_lt notLast), if_pos fired, split,
    List.flatMap_append, List.flatMap_singleton, failed]
  rfl

/-! ## The backoff -/

theorem backoffDelay_eq_min (ordered : t.initialDelay ≤ t.maxDelay) {i : Nat} (first : 1 ≤ i) :
    t.backoffDelay i = min (t.initialDelay * 2 ^ (i - 1)) t.maxDelay := by
  unfold backoffDelay
  split
  case isTrue one =>
    subst one
    rw [Nat.sub_self, Int.pow_zero, Int.mul_one, Int.min_eq_left ordered]
  case isFalse => rfl

/-- Doubling a delay in `(0, maxDelay]` does not wrap while `maxDelay < 2^62`,
so each wait is the claimed backoff; induction on the number of doublings. -/
theorem delayAfter_eq_backoffDelay (positive : 0 < t.initialDelay) (ordered : t.initialDelay ≤ t.maxDelay)
    (fits : t.maxDelay < 2 ^ 62) : ∀ n, t.delayAfter n = t.backoffDelay (n + 1)
  | 0 => by simp [delayAfter, backoffDelay]
  | n + 1 => by
    have previous := delayAfter_eq_backoffDelay positive ordered fits n
    rw [backoffDelay_eq_min t ordered (by omega), Nat.add_sub_cancel] at previous
    rw [delayAfter, previous, backoffDelay_eq_min t ordered (by omega), Nat.add_sub_cancel, nextDelay]
    have scaled : 0 < t.initialDelay * 2 ^ n := Int.mul_pos positive (Int.pow_pos (by decide))
    have doubled : t.initialDelay * 2 ^ (n + 1) = t.initialDelay * 2 ^ n * 2 := by
      rw [Int.pow_succ, Int.mul_assoc]
    have noWrap : toInt64 (min (t.initialDelay * 2 ^ n) t.maxDelay * 2) = min (t.initialDelay * 2 ^ n) t.maxDelay * 2 :=
      toInt64_of_lt (by omega) (by omega)
    rw [noWrap, doubled]
    split <;> omega

/-- Let `j` be the first attempt whose outcome is a response or an error that
is not a dial error, or the last attempt.  Without a cancelled wait,
`RoundTrip` calls `base` at attempts `1, …, j`, calls `onRetry` (when set) and
waits `delayAfter (k - 1)` after each attempt `k < j`, and returns the outcome
of attempt `j`.  When the context fires during the wait after attempt `i < j`,
it returns attempt `i`'s dial error and calls `base` no more.  With
`0 < initialDelay ≤ maxDelay < 2^62` ns, the `i`-th wait is `backoffDelay i`. -/
theorem roundTrip_retriesDialErrors {j : Nat} (first : 1 ≤ j) (budget : (j : Int) ≤ t.maxAttempts)
    (retrying : ∀ k, 1 ≤ k → k < j → isFinal (t.base k) = false)
    (ending : isFinal (t.base j) = true ∨ (j : Int) = t.maxAttempts) :
    ((∀ k, cancelled k = false) →
      t.RoundTrip cancelled =
        ((List.range' 1 (j - 1)).flatMap (fun k => t.retriedEvents k (t.delayAfter (k - 1))) ++ [.roundTrip j],
          (t.base j).mapError some)) ∧
    (∀ i, 1 ≤ i → i < j → cancelled i = true → (∀ k, k < i → cancelled k = false) →
      t.RoundTrip cancelled =
        ((List.range' 1 i).flatMap (fun k => t.retriedEvents k (t.delayAfter (k - 1))), (t.base i).mapError some)) ∧
    (0 < t.initialDelay → t.initialDelay ≤ t.maxDelay → t.maxDelay < 2 ^ 62 →
      ∀ i, 1 ≤ i → t.delayAfter (i - 1) = t.backoffDelay i) := by
  refine ⟨fun never => ?_, fun i lo hi fired waited => ?_, fun positive ordered fits i lo => ?_⟩
  · exact roundTrip_of_ending t cancelled first budget (fun k lo hi => ⟨retrying k lo hi, never k⟩) ending
  · exact roundTrip_of_cancelled t cancelled lo (by omega) (fun k above below => retrying k above (by omega)) fired waited
  · rw [delayAfter_eq_backoffDelay t positive ordered fits, Nat.sub_add_cancel lo]

end RetryTransport

/-- A transport whose first two dials are refused and whose third call
answers; its delays are the defaults. -/
def dialRefusedTwice : RetryTransport Unit :=
  newRetryTransport (fun k => if k < 3 then .error [.other, .opError "dial"] else .ok ()) 4 0 0 true

theorem roundTrip_retriesDialErrors_dialRefusedTwice :
    dialRefusedTwice.RoundTrip (fun _ => false) =
      ([.roundTrip 1, .onRetry 1, .wait 200000000, .roundTrip 2, .onRetry 2, .wait 400000000, .roundTrip 3], .ok ()) := by
  have retrying : ∀ k, 1 ≤ k → k < 3 → RetryTransport.isFinal (dialRefusedTwice.base k) = false := by
    intro k lo hi
    obtain rfl | rfl : k = 1 ∨ k = 2 := by omega
    all_goals decide
  rw [(RetryTransport.roundTrip_retriesDialErrors dialRefusedTwice (fun _ => false) (j := 3) (by decide) (by decide)
    retrying (.inl (by decide))).1 fun _ => rfl]
  rfl

/-- A transport capped at `2^62` ns whose every call fails to resolve. -/
def unresolvableAtCap : RetryTransport Unit := ⟨fun _ => .error [.dnsError], 3, 2 ^ 62, 2 ^ 62, false⟩

/-- At `initialDelay = maxDelay = 2^62` ns the second wait is not
`min(2 · 2^62, 2^62)`: doubling wraps the delay to `-2^63`, and the timer
fires at once. -/
theorem roundTrip_unresolvableAtCap :
    unresolvableAtCap.RoundTrip (fun _ => false) =
        ([.roundTrip 1, .wait (2 ^ 62), .roundTrip 2, .wait (-2 ^ 63), .roundTrip 3], .error (some [.dnsError])) ∧
      unresolvableAtCap.backoffDelay 2 = 2 ^ 62 :=
  ⟨rfl, by decide⟩

end AgentSandbox.Router
