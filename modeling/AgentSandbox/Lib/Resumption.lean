import Mathlib.Logic.Function.Basic
import Mathlib.Logic.Relation

/-!
# Threads that call a shared environment

A program that talks to a server is a tree of requests: `call c k` sends the
request `c` and continues with `k` applied to the answer, whose type `R c`
depends on the request.  Sequential code is written in this monad, and its
interleaving with other threads is a separate semantics: a `System` holds the
shared state and one program per thread, and an `Event` starts a thread's
program or lets one thread send its next request, which the environment
answers from the shared state and a `choice` (a failure, a stale read).

So every interleaving of the threads' requests, at request granularity, is a
list of events, and a property of all reachable systems is an invariant of
`System.step` (`run_inv`).
-/

set_option autoImplicit false

namespace Resumption

inductive Prog (C : Type) (R : C → Type) (α : Type) : Type where
  | done (a : α)
  | call (c : C) (k : R c → Prog C R α)

variable {C : Type} {R : C → Type} {α β : Type}

def Prog.bind : Prog C R α → (α → Prog C R β) → Prog C R β
  | .done a, f => f a
  | .call c k, f => .call c fun r => (k r).bind f

instance : Monad (Prog C R) where
  pure := .done
  bind := Prog.bind

/-- Send one request and return its answer. -/
def request (c : C) : Prog C R (R c) := .call c .done

/-! ## Programs that send only allowed requests

`Satisfies P Q p`: on every path, whatever the answers, every request `p`
sends satisfies `P` and the result satisfies `Q`.  The rules follow the
program's shape, so the obligation of a composite program is discharged
function by function. -/

inductive Prog.Satisfies (P : C → Prop) (Q : α → Prop) : Prog C R α → Prop
  | done {a : α} : Q a → Prog.Satisfies P Q (.done a)
  | call {c : C} {k : R c → Prog C R α} : P c → (∀ r, Prog.Satisfies P Q (k r)) → Prog.Satisfies P Q (.call c k)

section Satisfies

variable {P : C → Prop} {Q : α → Prop} {Q' : β → Prop}

theorem pure_satisfies {a : α} (holds : Q a) : (pure a : Prog C R α).Satisfies P Q := .done holds

theorem bind_satisfies {p : Prog C R α} {f : α → Prog C R β} (first : p.Satisfies P Q)
    (rest : ∀ a, Q a → (f a).Satisfies P Q') : (p >>= f).Satisfies P Q' := by
  induction first with
  | done holds => exact rest _ holds
  | call allowed _ ih => exact .call allowed ih

theorem forM_satisfies {γ : Type} (body : γ → Prog C R PUnit)
    (each : ∀ x, (body x).Satisfies P fun _ => True) :
    ∀ l : List γ, (l.forM body).Satisfies P fun _ => True
  | [] => pure_satisfies trivial
  | x :: rest => bind_satisfies (each x) fun _ _ => forM_satisfies body each rest

end Satisfies

/-- The shared state and the threads, each idle or running a program. -/
structure System (ι σ C : Type) (R : C → Type) where
  state : σ
  threads : ι → Option (Prog C R Unit)

inductive Event (ι χ : Type)
  /-- Start thread `i`'s program, when the thread is idle. -/
  | start (i : ι)
  /-- Thread `i` sends its next request, answered under `choice`; a finished
  thread becomes idle. -/
  | step (i : ι) (choice : χ)
deriving DecidableEq, Repr

section Semantics

variable {ι σ χ : Type} [DecidableEq ι]
  (program : ι → Prog C R Unit) (answer : σ → (c : C) → χ → R c × σ)

def System.step (S : System ι σ C R) : Event ι χ → System ι σ C R
  | .start i =>
      match S.threads i with
      | none => { S with threads := Function.update S.threads i (some (program i)) }
      | some _ => S
  | .step i choice =>
      match S.threads i with
      | some (.call c k) =>
          { state := (answer S.state c choice).2
            threads := Function.update S.threads i (some (k (answer S.state c choice).1)) }
      | some (.done ()) => { S with threads := Function.update S.threads i none }
      | none => S

def System.run (S : System ι σ C R) (events : List (Event ι χ)) : System ι σ C R :=
  events.foldl (System.step program answer) S

theorem run_inv (Inv : System ι σ C R → Prop)
    (step_inv : ∀ S e, Inv S → Inv (S.step program answer e)) :
    ∀ (events : List (Event ι χ)) (S : System ι σ C R), Inv S → Inv (S.run program answer events)
  | [], _, holds => holds
  | e :: events, S, holds => run_inv Inv step_inv events _ (step_inv S e holds)

/-- Every running thread sends only requests satisfying `P`. -/
def System.Sends (P : C → Prop) (S : System ι σ C R) : Prop :=
  ∀ i p, S.threads i = some p → p.Satisfies P fun _ => True

/-- When every thread's program sends only requests satisfying `P`, and every
answer to such a request keeps `Inv` of the shared state, `Inv` holds along
every run.  The invariant of the induction is `Sends P` together with `Inv`. -/
theorem run_state_inv {P : C → Prop} (Inv : σ → Prop)
    (programs : ∀ i, (program i).Satisfies P fun _ => True)
    (answer_inv : ∀ s c choice, P c → Inv s → Inv (answer s c choice).2)
    (events : List (Event ι χ)) (S : System ι σ C R) (sends : S.Sends P) (holds : Inv S.state) :
    Inv (S.run program answer events).state := by
  refine (run_inv program answer (fun S => S.Sends P ∧ Inv S.state) (fun S e inv => ?_) events S
    ⟨sends, holds⟩).2
  obtain ⟨sends, holds⟩ := inv
  cases e with
  | start i =>
      simp only [System.step]
      split
      · refine ⟨fun j p running => ?_, holds⟩
        by_cases same : j = i
        · subst same
          simp only [Function.update_self, Option.some.injEq] at running
          exact running ▸ programs j
        · simp only [Function.update_of_ne same] at running
          exact sends j p running
      · exact ⟨sends, holds⟩
  | step i choice =>
      simp only [System.step]
      split
      · -- the thread's next request is allowed, and so is the rest of its program
        rename_i c k running
        cases sends i _ running with
        | call allowed rest =>
            refine ⟨fun j p now => ?_, answer_inv _ _ _ allowed holds⟩
            by_cases same : j = i
            · subst same
              simp only [Function.update_self, Option.some.injEq] at now
              exact now ▸ rest _
            · simp only [Function.update_of_ne same] at now
              exact sends j p now
      · refine ⟨fun j p now => ?_, holds⟩
        by_cases same : j = i
        · subst same
          simp at now
        · simp only [Function.update_of_ne same] at now
          exact sends j p now
      · exact ⟨sends, holds⟩

end Semantics

/-! ## A program run alone

`p.exec answer s` runs `p` from `s`, every request answered by `answer` in the
state it is sent in: a run of one thread with nothing between its requests. -/

section Exec

variable {σ : Type} (answer : σ → (c : C) → R c × σ)

def Prog.exec : Prog C R α → σ → α × σ
  | .done a, s => (a, s)
  | .call c k, s => (k (answer s c).1).exec (answer s c).2

@[simp] theorem exec_pure (a : α) (s : σ) : (pure a : Prog C R α).exec answer s = (a, s) := rfl

@[simp] theorem exec_request (c : C) (s : σ) : (request c : Prog C R (R c)).exec answer s = answer s c := rfl

theorem exec_bind (p : Prog C R α) (f : α → Prog C R β) (s : σ) :
    (p >>= f).exec answer s = (f (p.exec answer s).1).exec answer (p.exec answer s).2 := by
  induction p generalizing s with
  | done a => rfl
  | call c k ih => exact ih (answer s c).1 (answer s c).2

end Exec

/-- Two ways of answering that agree on every request a program may send run it alike;
induction on the judgement. -/
theorem Prog.Satisfies.exec_congr {σ : Type} {P : C → Prop} {Q : α → Prop} {p : Prog C R α} (sends : p.Satisfies P Q)
    {answer answer' : σ → (c : C) → R c × σ} (agree : ∀ s c, P c → answer s c = answer' s c) (s : σ) :
    p.exec answer s = p.exec answer' s := by
  induction sends generalizing s with
  | done _ => rfl
  | @call c k allowed _ ih =>
    show (k (answer s c).1).exec answer (answer s c).2 = (k (answer' s c).1).exec answer' (answer' s c).2
    rw [agree s c allowed]
    exact ih _ _

/-! ## One thread among others

Between two requests of a thread, the other threads may have any number of
theirs answered (`Answered`).  `p.Guarantees answer Inv Good Q s` says that,
started in `s`, the program sends only requests that are `Good` in the state
they are answered in, whatever was answered before, in every state with the
invariant `Inv`, and ends with `Q` of its state and result.  The judgement
quantifies over every state the others can reach, so it survives their steps
(`Prog.Guarantees.of_answered`); a program's judgement is assembled along its binds
(`Prog.Guarantees.bind`) from one rule per request (`guarantees_request`); and in a
`System` every thread started on such a program keeps it, so the next request
of such a thread is always `Good` (`pending_good`). -/

section Guarantees

variable {σ χ : Type} (answer : σ → (c : C) → χ → R c × σ)

/-- Requests of any threads answered one after the other, from the first state to the second. -/
def Answered : σ → σ → Prop := Relation.ReflTransGen fun s s' => ∃ c ch, s' = (answer s c ch).2

theorem answered_step (s : σ) (c : C) (ch : χ) : Answered answer s (answer s c ch).2 :=
  Relation.ReflTransGen.single ⟨c, ch, rfl⟩

theorem Answered.keeps {P : σ → σ → Prop} (refl : ∀ s, P s s) (trans : ∀ s₁ s₂ s₃, P s₁ s₂ → P s₂ s₃ → P s₁ s₃)
    (step : ∀ s c ch, P s (answer s c ch).2) {s s' : σ} (moved : Answered answer s s') : P s s' := by
  induction moved with
  | refl => exact refl s
  | tail _ last ih =>
      obtain ⟨c, ch, rfl⟩ := last
      exact trans _ _ _ ih (step _ c ch)

variable (Inv : σ → Prop) (Good : σ → C → Prop)

inductive Prog.Guarantees (Q : σ → α → Prop) : σ → Prog C R α → Prop
  | done {s : σ} {a : α} (post : Q s a) : Prog.Guarantees Q s (.done a)
  | call {s : σ} {c : C} {k : R c → Prog C R α}
      (good : ∀ s', Answered answer s s' → Inv s' → Good s' c)
      (next : ∀ s', Answered answer s s' → Inv s' → ∀ ch, Prog.Guarantees Q (answer s' c ch).2 (k (answer s' c ch).1)) :
      Prog.Guarantees Q s (.call c k)

/-- The invariant holds, and every watched thread that runs keeps its guarantee. -/
def System.Guaranteed {ι : Type} (watched : ι → Prop) (S : System ι σ C R) : Prop :=
  Inv S.state ∧ ∀ i, watched i → ∀ p, S.threads i = some p → p.Guarantees answer Inv Good (fun _ _ => True) S.state

variable {answer Inv Good}

theorem guarantees_pure {Q : σ → α → Prop} {s : σ} {a : α} (post : Q s a) :
    (pure a : Prog C R α).Guarantees answer Inv Good Q s := .done post

theorem guarantees_request (c : C) {Q : σ → R c → Prop} {s : σ}
    (next : ∀ s', Answered answer s s' → Inv s' → Good s' c ∧ ∀ ch, Q (answer s' c ch).2 (answer s' c ch).1) :
    (request c : Prog C R (R c)).Guarantees answer Inv Good Q s :=
  .call (fun s' moved holds => (next s' moved holds).1) fun s' moved holds ch => .done ((next s' moved holds).2 ch)

theorem Prog.Guarantees.bind {p : Prog C R α} {f : α → Prog C R β} {Q : σ → α → Prop} {Q' : σ → β → Prop} {s : σ}
    (first : p.Guarantees answer Inv Good Q s) (rest : ∀ s a, Q s a → (f a).Guarantees answer Inv Good Q' s) :
    (p >>= f).Guarantees answer Inv Good Q' s := by
  induction first with
  | done post => exact rest _ _ post
  | call good _ ih => exact .call good ih

theorem Prog.Guarantees.of_answered {Q : σ → α → Prop} (stable : ∀ s s' a, Answered answer s s' → Q s a → Q s' a)
    {p : Prog C R α} {s s' : σ} (holds : p.Guarantees answer Inv Good Q s) (moved : Answered answer s s') :
    p.Guarantees answer Inv Good Q s' := by
  cases holds with
  | done post => exact .done (stable _ _ _ moved post)
  | call good next => exact .call (fun s'' later => good s'' (moved.trans later)) fun s'' later => next s'' (moved.trans later)

/-- A program each of whose requests is good in every state guarantees it among any threads,
with a postcondition the others' requests keep; induction on what the program sends. -/
theorem Prog.Satisfies.guarantees {P : C → Prop} (good : ∀ s c, P c → Good s c) {K : σ → Prop}
    (stable : ∀ s s', Answered answer s s' → K s → K s') {p : Prog C R α} (sends : p.Satisfies P fun _ => True)
    {s : σ} (known : K s) : p.Guarantees answer Inv Good (fun s _ => K s) s := by
  induction sends generalizing s with
  | done _ => exact .done known
  | call allowed _ ih =>
      exact .call (fun s' _ _ => good s' _ allowed)
        fun s' moved _ ch => ih _ (stable _ _ (moved.trans (answered_step answer s' _ ch)) known)

/-- The request a thread sends next, if it is running and not finished. -/
def System.pending {ι : Type} (S : System ι σ C R) (i : ι) : Option C :=
  match S.threads i with
  | some (.call c _) => some c
  | _ => none

variable {ι : Type} [DecidableEq ι] {program : ι → Prog C R Unit} {watched : ι → Prop}

/-- One event keeps `Guaranteed`: a started thread's program guarantees from any state, a
thread's own step moves it to the continuation its judgement covers, and another thread's step
is a move the judgement quantifies over. -/
theorem guaranteed_step (keeps : ∀ s c ch, Inv s → Inv (answer s c ch).2)
    (starts : ∀ i, watched i → ∀ s, (program i).Guarantees answer Inv Good (fun _ _ => True) s)
    {S : System ι σ C R} (holds : S.Guaranteed answer Inv Good watched) (e : Event ι χ) :
    (S.step program answer e).Guaranteed answer Inv Good watched := by
  obtain ⟨inv, running⟩ := holds
  cases e with
  | start i =>
      simp only [System.step]
      split
      · refine ⟨inv, fun j w p now => ?_⟩
        by_cases same : j = i
        · subst same
          simp only [Function.update_self, Option.some.injEq] at now
          exact now ▸ starts j w S.state
        · simp only [Function.update_of_ne same] at now
          exact running j w p now
      · exact ⟨inv, running⟩
  | step i ch =>
      simp only [System.step]
      split
      · rename_i c k sending
        refine ⟨keeps _ c ch inv, fun j w p now => ?_⟩
        by_cases same : j = i
        · -- the thread's own request, answered where its judgement was made
          subst same
          simp only [Function.update_self, Option.some.injEq] at now
          cases running j w _ sending with
          | call _ next => exact now ▸ next S.state .refl inv ch
        · simp only [Function.update_of_ne same] at now
          exact (running j w p now).of_answered (fun _ _ _ _ _ => trivial) (answered_step answer S.state c ch)
      · refine ⟨inv, fun j w p now => ?_⟩
        by_cases same : j = i
        · subst same
          simp at now
        · simp only [Function.update_of_ne same] at now
          exact running j w p now
      · exact ⟨inv, running⟩

/-- In every run from a system whose watched threads are idle, the next request of a watched
thread is `Good` in the current state. -/
theorem pending_good (keeps : ∀ s c ch, Inv s → Inv (answer s c ch).2)
    (starts : ∀ i, watched i → ∀ s, (program i).Guarantees answer Inv Good (fun _ _ => True) s)
    (S : System ι σ C R) (idle : ∀ i, watched i → S.threads i = none) (holds : Inv S.state)
    (events : List (Event ι χ)) {i : ι} (w : watched i) {c : C}
    (next : (S.run program answer events).pending i = some c) : Good (S.run program answer events).state c := by
  have reached := run_inv program answer (System.Guaranteed answer Inv Good watched)
    (fun _ e holds => guaranteed_step keeps starts holds e) events S
    ⟨holds, fun j w' p now => by simp [idle j w'] at now⟩
  unfold System.pending at next
  split at next
  · rename_i c' k sending
    cases next
    cases reached.2 i w _ sending with
    | call good _ => exact good _ .refl reached.1
  · cases next

end Guarantees

end Resumption
