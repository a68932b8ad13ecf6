import Mathlib.Data.List.Sort
import Mathlib.Data.List.Perm.Basic

/-!
# Results that do not depend on an iteration order

A loop over a hash map visits its entries in an order the program does not
choose.  When the loop writes into another map, the order of the writes shows
in the representation of the result but not in its contents: the steps commute
only up to an equivalence, such as "the same lookups".  `Perm.foldl_rel` is
`List.Perm.foldl_eq'` up to such an equivalence, and `foldl_skip_rel` applies
it to a loop over two maps with the same entries outside the keys it skips.
Sorting forgets the order altogether (`mergeSort_eq_of_perm`).
-/

set_option autoImplicit false

namespace Unordered

section Fold

variable {α β : Type*} {R : β → β → Prop} {f : β → α → β}

/-- Two folds whose steps take related states to related states keep them
related. -/
theorem foldl_congr {g : β → α → β} (congr : ∀ a {b b'}, R b b' → R (f b a) (g b' a)) :
    ∀ (l : List α) {b b' : β}, R b b' → R (l.foldl f b) (l.foldl g b')
  | [], _, _, related => related
  | a :: rest, _, _, related => foldl_congr congr rest (congr a related)

variable (equiv : Equivalence R) (congr : ∀ a {b b'}, R b b' → R (f b a) (f b' a))
include equiv congr

/-- Folds over permuted lists are related when any two of the steps commute up
to `R`; induction on the permutation, as for `List.Perm.foldl_eq'`. -/
theorem Perm.foldl_rel {l₁ l₂ : List α} (p : l₁.Perm l₂) :
    (∀ x ∈ l₁, ∀ y ∈ l₁, ∀ b, R (f (f b x) y) (f (f b y) x)) →
      ∀ {b b' : β}, R b b' → R (l₁.foldl f b) (l₂.foldl f b') := by
  induction p using List.Perm.recOnSwap' with
  | nil =>
      intro _ b b' related
      exact related
  | cons x _ ih =>
      intro comm b b' related
      exact ih (fun a ha c hc => comm a (.tail _ ha) c (.tail _ hc)) (congr x related)
  | swap' x y _ ih =>
      intro comm b b' related
      -- the two first steps are taken in the other order on the right
      have swapped : R (f (f b y) x) (f (f b' x) y) :=
        equiv.trans (congr x (congr y related)) (comm y (.head _) x (.tail _ (.head _)) b')
      exact ih (fun a ha c hc => comm a (.tail _ (.tail _ ha)) c (.tail _ (.tail _ hc))) swapped
  | trans p₁ _ ih₁ ih₂ =>
      intro comm b b' related
      have comm₂ : ∀ x ∈ _, ∀ y ∈ _, ∀ b, R (f (f b x) y) (f (f b y) x) :=
        fun x hx y hy => comm x (p₁.symm.subset hx) y (p₁.symm.subset hy)
      exact equiv.trans (ih₁ comm related) (ih₂ comm₂ (equiv.refl b'))

end Fold

/-- A loop over the entries of a map that skips the keys `skip`, and whose
other steps commute up to `R` for distinct keys, gives related results on two
maps with the same entries outside the skipped keys, whatever the order in
which it visits either of them. -/
theorem foldl_skip_rel {β κ ν : Type*} {f : β → κ × ν → β} {R : β → β → Prop} (equiv : Equivalence R)
    (congr : ∀ a {b b'}, R b b' → R (f b a) (f b' a)) (skip : κ → Bool)
    (comm : ∀ x y : κ × ν, x.1 ≠ y.1 → ∀ b, R (f (f b x) y) (f (f b y) x))
    {l₁ l₂ : List (κ × ν)} (nodup₁ : (l₁.map Prod.fst).Nodup) (nodup₂ : (l₂.map Prod.fst).Nodup)
    (same : ∀ e : κ × ν, skip e.1 = false → (e ∈ l₁ ↔ e ∈ l₂)) {b b' : β} (related : R b b') :
    R (l₁.foldl (fun s e => if skip e.1 then s else f s e) b)
      (l₂.foldl (fun s e => if skip e.1 then s else f s e) b') := by
  -- a skipped step is the identity, so the loops are folds over the unskipped entries
  have unskipped : ∀ (l : List (κ × ν)) (s : β), l.foldl (fun s e => if skip e.1 then s else f s e) s =
      (l.filter fun e => !skip e.1).foldl f s := by
    intro l s
    rw [List.foldl_filter]
    congr 1
    funext s e
    cases skip e.1 <;> rfl
  have perm : (l₁.filter fun e => !skip e.1).Perm (l₂.filter fun e => !skip e.1) := by
    rw [List.perm_ext_iff_of_nodup (List.Nodup.filter _ (nodup₁.of_map _)) (List.Nodup.filter _ (nodup₂.of_map _))]
    intro e
    simp only [List.mem_filter, Bool.not_eq_eq_eq_not, Bool.not_true]
    constructor
    · rintro ⟨member, kept⟩
      exact ⟨(same e kept).mp member, kept⟩
    · rintro ⟨member, kept⟩
      exact ⟨(same e kept).mpr member, kept⟩
  rw [unskipped, unskipped]
  refine Perm.foldl_rel equiv congr perm ?_ related
  intro x hx y hy s
  by_cases keys : x.1 = y.1
  · -- entries of one key of a map are the same entry
    have same_entry : x = y :=
      List.inj_on_of_nodup_map nodup₁ (List.mem_of_mem_filter hx) (List.mem_of_mem_filter hy) keys
    subst same_entry
    exact equiv.refl _
  · exact comm x y keys s

theorem mergeSort_eq_of_perm {α : Type*} [LinearOrder α] {l₁ l₂ : List α} (p : l₁.Perm l₂) :
    l₁.mergeSort (fun a b => decide (a ≤ b)) = l₂.mergeSort (fun a b => decide (a ≤ b)) :=
  ((List.mergeSort_perm _ _).trans (p.trans (List.mergeSort_perm _ _).symm)).eq_of_pairwise'
    (List.pairwise_mergeSort' _ _) (List.pairwise_mergeSort' _ _)

end Unordered
