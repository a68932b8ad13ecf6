import Mathlib.Data.List.Basic

/-!
# Programs that issue requests

A controller's reconcile function is a sequence of reads and writes against an
API server that may fail at any of them.  Here it is a program in
`ExceptT ε (StateM (List ω))`: the state is the log of the requests issued so
far, in order, and an error ends the program as a Go `return err` does.

`EmitsOnly P p`: every request `p` appends to the log satisfies `P`.  The rules
below follow the shape of a program (`pure`, `throw`, `emit`, bind, a caught
error, a loop), so a safety property of every request is proved by following
the program's branches.
-/

set_option autoImplicit false

namespace Emit

/-- A program that may fail with an `ε` and logs the requests `ω` it issues. -/
abbrev Prog (ε ω α : Type) := ExceptT ε (StateM (List ω)) α

variable {ε ω α β : Type}

def emit (w : ω) : Prog ε ω Unit := modify fun log => log ++ [w]

/-- Run `p` and return its outcome, error or value, instead of failing. -/
def attempt (p : Prog ε ω α) : Prog ε ω (Except ε α) :=
  tryCatch (do let a ← p; pure (.ok a)) fun e => pure (.error e)

/-- The requests of `p` run from an empty log. -/
def requests (p : Prog ε ω α) : List ω := (p.run.run []).2

def result (p : Prog ε ω α) : Except ε α := (p.run.run []).1

/-- Every request `p` appends to the log satisfies `P`. -/
def EmitsOnly (P : ω → Prop) (p : Prog ε ω α) : Prop :=
  ∀ log, ∃ more, (p.run.run log).2 = log ++ more ∧ ∀ w ∈ more, P w

variable {P : ω → Prop}

theorem pure_emitsOnly (a : α) : EmitsOnly P (pure a : Prog ε ω α) :=
  fun log => ⟨[], (List.append_nil log).symm, by simp⟩

theorem throw_emitsOnly (e : ε) : EmitsOnly P (throw e : Prog ε ω α) :=
  fun log => ⟨[], (List.append_nil log).symm, by simp⟩

theorem emit_emitsOnly {w : ω} (allowed : P w) : EmitsOnly P (emit w : Prog ε ω Unit) :=
  fun log => ⟨[w], by simp [emit, ExceptT.run, StateT.run, modify, modifyGet, MonadStateOf.modifyGet,
    StateT.modifyGet, ExceptT.lift, ExceptT.mk, monadLift, MonadLift.monadLift, pure, bind, Functor.map,
    StateT.map], by simpa using allowed⟩

theorem bind_emitsOnly {p : Prog ε ω α} {f : α → Prog ε ω β} (first : EmitsOnly P p)
    (rest : ∀ a, EmitsOnly P (f a)) : EmitsOnly P (p >>= f) := by
  intro log
  obtain ⟨more, ran, allowed⟩ := first log
  have unfolded : ((p >>= f).run.run log) =
      match (p.run.run log) with
      | (.ok a, log') => ((f a).run.run log')
      | (.error e, log') => (.error e, log') := by
    simp only [ExceptT.run, StateT.run, bind, ExceptT.bind, ExceptT.mk, StateT.bind]
    rcases (p log) with ⟨_ | _, _⟩ <;> rfl
  rw [unfolded]
  rcases outcome : p.run.run log with ⟨_ | a, log'⟩
  · rw [outcome] at ran
    exact ⟨more, ran, allowed⟩
  · rw [outcome] at ran
    dsimp only at ran ⊢
    obtain ⟨more', ran', allowed'⟩ := rest a log'
    refine ⟨more ++ more', by rw [ran', ran, List.append_assoc], ?_⟩
    intro w member
    rcases List.mem_append.mp member with early | late
    · exact allowed w early
    · exact allowed' w late

theorem tryCatch_emitsOnly {p : Prog ε ω α} {handler : ε → Prog ε ω α} (first : EmitsOnly P p)
    (handled : ∀ e, EmitsOnly P (handler e)) : EmitsOnly P (tryCatch p handler) := by
  intro log
  obtain ⟨more, ran, allowed⟩ := first log
  have unfolded : ((tryCatch p handler).run.run log) =
      match (p.run.run log) with
      | (.ok a, log') => (.ok a, log')
      | (.error e, log') => ((handler e).run.run log') := by
    simp only [ExceptT.run, StateT.run, tryCatch, MonadExcept.tryCatch, tryCatchThe,
      MonadExceptOf.tryCatch, ExceptT.tryCatch, ExceptT.mk, bind, StateT.bind]
    rcases (p log) with ⟨_ | _, _⟩ <;> rfl
  rw [unfolded]
  rcases outcome : p.run.run log with ⟨e | a, log'⟩
  · rw [outcome] at ran
    dsimp only at ran ⊢
    obtain ⟨more', ran', allowed'⟩ := handled e log'
    refine ⟨more ++ more', by rw [ran', ran, List.append_assoc], ?_⟩
    intro w member
    rcases List.mem_append.mp member with early | late
    · exact allowed w early
    · exact allowed' w late
  · rw [outcome] at ran
    exact ⟨more, ran, allowed⟩

theorem attempt_emitsOnly {p : Prog ε ω α} (inner : EmitsOnly P p) : EmitsOnly P (attempt p) :=
  tryCatch_emitsOnly (bind_emitsOnly inner fun _ => pure_emitsOnly _) fun _ => pure_emitsOnly _

/-- A loop over a list issues only allowed requests when each iteration does;
induction on the list. -/
theorem forM_emitsOnly {γ : Type} (body : γ → Prog ε ω PUnit) (each : ∀ x, EmitsOnly P (body x)) :
    ∀ l : List γ, EmitsOnly P (l.forM body)
  | [] => pure_emitsOnly _
  | x :: rest => bind_emitsOnly (each x) fun _ => forM_emitsOnly body each rest

theorem EmitsOnly.requests_allowed {p : Prog ε ω α} (safe : EmitsOnly P p) : ∀ w ∈ requests p, P w := by
  obtain ⟨more, ran, allowed⟩ := safe []
  intro w member
  rw [Emit.requests, ran, List.nil_append] at member
  exact allowed w member

end Emit
