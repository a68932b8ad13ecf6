import Mathlib.Data.List.Forall2

/-! # Go error results

A Go function that returns `(T, error)` is modelled as a value of `Except ε T`:
the first non-nil error returns early, which is `Except`'s bind.  The lemmas
here read back what a successful run established, guard by guard. -/

set_option autoImplicit false

namespace GoErrors

variable {ε ε' α β : Type}

@[simp] theorem bind_eq_ok {x : Except ε α} {f : α → Except ε β} {b : β} :
    (x >>= f) = .ok b ↔ ∃ a, x = .ok a ∧ f a = .ok b := by
  cases x <;> simp [bind, Except.bind]

@[simp] theorem pure_eq_ok {a b : α} : (pure a : Except ε α) = .ok b ↔ a = b := by
  simp [pure, Except.pure]

@[simp] theorem pure_ne_error {a : α} {e : ε} : (pure a : Except ε α) ≠ .error e := by
  simp [pure, Except.pure]

@[simp] theorem throw_eq_error {e e' : ε} : (throw e : Except ε α) = .error e' ↔ e = e' := by
  simp [throw, throwThe, MonadExceptOf.throw]

theorem exists_eq_error_iff {x : Except ε α} : (∃ e, x = .error e) ↔ ∀ a, x ≠ .ok a := by
  cases x <;> simp

/-- Two steps whose results are only combined fail exactly when one of them
does. -/
theorem exists_pair_eq_error {γ : Type} {x : Except ε α} {y : Except ε β} {g : α → β → γ} :
    (∃ e, (do let a ← x; let b ← y; pure (g a b)) = .error e) ↔ (∃ e, x = .error e) ∨ ∃ e, y = .error e := by
  cases x <;> cases y <;> simp [bind, Except.bind, pure, Except.pure]

@[simp] theorem mapError_eq_ok {x : Except ε α} {f : ε → ε'} {a : α} :
    x.mapError f = .ok a ↔ x = .ok a := by
  cases x <;> simp [Except.mapError]

/-- A loop over a list that returns the first error succeeds exactly when
every element's body does. -/
theorem forM_eq_ok {f : α → Except ε PUnit} {l : List α} :
    l.forM f = .ok PUnit.unit ↔ ∀ x ∈ l, f x = .ok PUnit.unit := by
  induction l with
  | nil => simp [pure, Except.pure]
  | cons x rest ih =>
      rw [List.forall_mem_cons, ← ih]
      show (f x >>= fun _ => rest.forM f) = _ ↔ _
      -- the first error stops the loop
      cases f x with
      | error e => simp [bind, Except.bind]
      | ok u => simp [bind, Except.bind]

/-- A loop that builds a slice and returns the first error succeeds exactly
when every element's body does, and returns their results in order. -/
theorem mapM_eq_ok {f : α → Except ε β} {l : List α} {r : List β} :
    l.mapM f = .ok r ↔ List.Forall₂ (fun a b => f a = .ok b) l r := by
  induction l generalizing r with
  | nil => simp [pure, Except.pure, eq_comm]
  | cons a rest ih =>
      rw [List.mapM_cons, List.forall₂_cons_left_iff]
      simp only [bind_eq_ok, pure_eq_ok, ih]
      constructor
      · rintro ⟨b, head, bs, tail, rfl⟩
        exact ⟨b, bs, head, tail, rfl⟩
      · rintro ⟨b, bs, head, tail, rfl⟩
        exact ⟨b, head, bs, tail, rfl⟩

theorem mapM_eq_error {f : α → Except ε β} {l : List α} :
    (∃ e, l.mapM f = .error e) ↔ ∃ a ∈ l, ∃ e, f a = .error e := by
  induction l with
  | nil => simp [pure, Except.pure]
  | cons a rest ih =>
      rw [List.mapM_cons]
      cases head : f a with
      | error e => exact ⟨fun _ => ⟨a, List.mem_cons_self, e, head⟩, fun _ => ⟨e, rfl⟩⟩
      | ok b =>
          -- the head succeeds, so the loop fails exactly when the tail does
          have tail : ∀ r : Except ε (List β), (∃ e, (r >>= fun bs => pure (b :: bs)) = .error e) ↔
              ∃ e, r = .error e := by
            intro r
            cases r <;> simp [bind, Except.bind, pure, Except.pure]
          have skip : (∃ x ∈ a :: rest, ∃ e, f x = .error e) ↔ ∃ x ∈ rest, ∃ e, f x = .error e := by
            simp [head]
          rw [skip, ← ih]
          exact tail _

/-! ## Errors over a state

A Go function that writes through a pointer and returns an error runs in
`ExceptT ε (StateM σ)`, on the pointee as its state. -/

section State

variable {σ : Type}

@[simp] theorem run_liftExcept_error_bind (e : ε) (f : α → ExceptT ε (StateM σ) β) (s : σ) :
    ((liftExcept (Except.error e : Except ε α) : ExceptT ε (StateM σ) α) >>= f).run.run s = (.error e, s) := rfl

@[simp] theorem run_liftExcept_ok_bind (a : α) (f : α → ExceptT ε (StateM σ) β) (s : σ) :
    ((liftExcept (Except.ok a : Except ε α) : ExceptT ε (StateM σ) α) >>= f).run.run s = (f a).run.run s := rfl

@[simp] theorem run_get_bind (f : σ → ExceptT ε (StateM σ) β) (s : σ) :
    ((get : ExceptT ε (StateM σ) σ) >>= f).run.run s = (f s).run.run s := rfl

@[simp] theorem run_modify_bind (g : σ → σ) (f : PUnit → ExceptT ε (StateM σ) β) (s : σ) :
    ((modify g : ExceptT ε (StateM σ) PUnit) >>= f).run.run s = (f ⟨⟩).run.run (g s) := rfl

@[simp] theorem run_modify (g : σ → σ) (s : σ) :
    (modify g : ExceptT ε (StateM σ) PUnit).run.run s = (.ok ⟨⟩, g s) := rfl

@[simp] theorem run_pure (a : α) (s : σ) :
    (pure a : ExceptT ε (StateM σ) α).run.run s = (.ok a, s) := rfl

end State

end GoErrors
