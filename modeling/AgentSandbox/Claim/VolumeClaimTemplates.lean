import Mathlib.Logic.Function.Basic
import Mathlib.Data.List.Nodup

/-!
# Merging volume claim templates

Model of `mergeVolumeClaimTemplates` and `validateVolumeClaimTemplates` in
`extensions/controllers/sandboxclaim_controller.go`: the volume claim templates
a claim asks for are added to its template's according to the template's
`VolumeClaimTemplatesPolicy`.  The code reads only a template's name and copies
the rest, so the rest is a type parameter.

`mergeVolumeClaimTemplates_spec`: the merge fails exactly when a list is
invalid, the policy forbids claim templates, or `Allowed` meets a name clash;
what it returns has valid names and is the concatenation under `Allowed` and
the by-name override under `Overrides`.
-/

set_option autoImplicit false

namespace AgentSandbox.Claim

def VolumeClaimTemplatesPolicyDisallowed : String := "Disallowed"

def VolumeClaimTemplatesPolicyAllowed : String := "Allowed"

def VolumeClaimTemplatesPolicyOverrides : String := "Overrides"

structure PersistentVolumeClaimTemplate (Spec : Type) where
  name : String
  spec : Spec
deriving DecidableEq, Repr

/-- The errors of `validateVolumeClaimTemplates`, both wrapping
`ErrVolumeClaimTemplatesInvalid`. -/
inductive InvalidVolumeClaimTemplates
  /-- `%w: name at index %d is empty` -/
  | emptyName (index : Nat)
  /-- `%w: duplicate name %q` -/
  | duplicateName (name : String)
deriving DecidableEq, Repr

inductive VolumeClaimTemplatesError
  /-- `template: %w` -/
  | template (err : InvalidVolumeClaimTemplates)
  /-- `claim: %w` -/
  | claim (err : InvalidVolumeClaimTemplates)
  /-- `ErrVolumeClaimTemplatesDisallowed` -/
  | disallowed
  /-- `%w: cannot override template volume %q`, wrapping
  `ErrVolumeClaimTemplatesOverrideForbidden` -/
  | overrideForbidden (name : String)
  /-- `unknown volume claim templates policy %q` -/
  | unknownPolicy (policy : String)
deriving DecidableEq, Repr

section Merge

variable {Spec : Type}

/-- The loop of `validateVolumeClaimTemplates` from index `i`, with the names
already seen. -/
def validateFrom :
    Nat → List String → List (PersistentVolumeClaimTemplate Spec) → Except InvalidVolumeClaimTemplates Unit
  | _, _, [] => pure ()
  | i, names, vct :: rest =>
      if vct.name = "" then throw (.emptyName i)
      else if vct.name ∈ names then throw (.duplicateName vct.name)
      else validateFrom (i + 1) (vct.name :: names) rest

def validateVolumeClaimTemplates (vcts : List (PersistentVolumeClaimTemplate Spec)) :
    Except InvalidVolumeClaimTemplates Unit :=
  validateFrom 0 [] vcts

/-- `claimMap`: each claim template under its name, a later one replacing an
earlier one.  The Go map is only indexed, assigned and deleted from, so it is a
function. -/
def claimIndex (claimVCTs : List (PersistentVolumeClaimTemplate Spec)) :
    String → Option (PersistentVolumeClaimTemplate Spec) :=
  claimVCTs.foldl (fun m vct => Function.update m vct.name (some vct)) fun _ => none

/-- The loop over the template's templates in the `Overrides` branch: a claim
template of the same name replaces one and leaves `claimMap`. -/
def keepTemplates
    (acc : List (PersistentVolumeClaimTemplate Spec) × (String → Option (PersistentVolumeClaimTemplate Spec)))
    (vct : PersistentVolumeClaimTemplate Spec) :
    List (PersistentVolumeClaimTemplate Spec) × (String → Option (PersistentVolumeClaimTemplate Spec)) :=
  match acc.2 vct.name with
  | some override => (acc.1 ++ [override], Function.update acc.2 vct.name none)
  | none => (acc.1 ++ [vct], acc.2)

/-- The `Overrides` branch: the template's templates with claim replacements,
then the claim templates still in `claimMap`, in claim order. -/
def overrideByName (templateVCTs claimVCTs : List (PersistentVolumeClaimTemplate Spec)) :
    List (PersistentVolumeClaimTemplate Spec) :=
  let kept := templateVCTs.foldl keepTemplates ([], claimIndex claimVCTs)
  kept.1 ++ claimVCTs.filter fun vct => (kept.2 vct.name).isSome

def mergeVolumeClaimTemplates (templateVCTs claimVCTs : List (PersistentVolumeClaimTemplate Spec))
    (policy : String) : Except VolumeClaimTemplatesError (List (PersistentVolumeClaimTemplate Spec)) := do
  (validateVolumeClaimTemplates templateVCTs).mapError .template
  if claimVCTs.length = 0 then return templateVCTs
  (validateVolumeClaimTemplates claimVCTs).mapError .claim
  if policy = VolumeClaimTemplatesPolicyDisallowed ∨ policy = "" then throw .disallowed
  else if policy = VolumeClaimTemplatesPolicyAllowed then
    -- `templateMap`, the set of the template's names
    let templateMap := templateVCTs.map (·.name)
    match claimVCTs.find? fun vct => templateMap.contains vct.name with
    | some vct => throw (.overrideForbidden vct.name)
    | none => return templateVCTs ++ claimVCTs
  else if policy = VolumeClaimTemplatesPolicyOverrides then return overrideByName templateVCTs claimVCTs
  else throw (.unknownPolicy policy)

/-! ## What the merge does -/

/-- Every name non-empty and no name twice: what validation accepts. -/
def ValidNames (vcts : List (PersistentVolumeClaimTemplate Spec)) : Prop :=
  (∀ vct ∈ vcts, vct.name ≠ "") ∧ (vcts.map (·.name)).Nodup

/-- The loop accepts a list of valid names none of which it has seen; induction
on the list, the seen names growing. -/
theorem validateFrom_eq_ok_iff (i : Nat) (names : List String) (vcts : List (PersistentVolumeClaimTemplate Spec)) :
    validateFrom i names vcts = .ok () ↔ ValidNames vcts ∧ ∀ vct ∈ vcts, vct.name ∉ names := by
  induction vcts generalizing i names with
  | nil => simp [validateFrom, ValidNames, pure, Except.pure]
  | cons vct rest ih =>
    by_cases empty : vct.name = ""
    · simp [validateFrom, empty, ValidNames, throw, throwThe, MonadExceptOf.throw]
    · by_cases seen : vct.name ∈ names
      · simp [validateFrom, empty, seen, throw, throwThe, MonadExceptOf.throw]
      · rw [validateFrom, if_neg empty, if_neg seen, ih]
        simp only [ValidNames, List.mem_cons, List.map_cons, List.nodup_cons, List.mem_map,
          forall_eq_or_imp, not_or]
        constructor
        · rintro ⟨⟨named, distinct⟩, fresh⟩
          exact ⟨⟨⟨empty, named⟩, fun ⟨other, member, same⟩ => (fresh other member).1 same, distinct⟩,
            seen, fun other member => (fresh other member).2⟩
        · rintro ⟨⟨⟨-, named⟩, unique, distinct⟩, -, fresh⟩
          exact ⟨⟨named, distinct⟩, fun other member => ⟨fun same => unique ⟨other, member, same⟩,
            fresh other member⟩⟩

theorem validateVolumeClaimTemplates_eq_ok_iff (vcts : List (PersistentVolumeClaimTemplate Spec)) :
    validateVolumeClaimTemplates vcts = .ok () ↔ ValidNames vcts := by
  simpa [validateVolumeClaimTemplates] using validateFrom_eq_ok_iff 0 [] vcts

theorem foldl_update_apply (vcts : List (PersistentVolumeClaimTemplate Spec))
    (distinct : (vcts.map (·.name)).Nodup) (start : String → Option (PersistentVolumeClaimTemplate Spec))
    (name : String) :
    vcts.foldl (fun (m : String → Option (PersistentVolumeClaimTemplate Spec)) vct =>
        Function.update m vct.name (some vct)) start name =
      (vcts.find? (·.name == name)).or (start name) := by
  induction vcts generalizing start with
  | nil => rfl
  | cons vct rest ih =>
    rw [List.map_cons, List.nodup_cons] at distinct
    rw [List.foldl_cons, ih distinct.2, List.find?_cons]
    by_cases same : vct.name = name
    · -- the later templates have other names, so the update is what is read
      have later : rest.find? (·.name == name) = none := by
        rw [List.find?_eq_none]
        intro other member named
        exact distinct.1 (List.mem_map.mpr ⟨other, member, (beq_iff_eq.mp named).trans same.symm⟩)
      simp [later, same]
    · have skipped : (vct.name == name) = false := beq_false_of_ne same
      simp [skipped, Function.update_of_ne (Ne.symm same)]

theorem claimIndex_apply (claimVCTs : List (PersistentVolumeClaimTemplate Spec))
    (distinct : (claimVCTs.map (·.name)).Nodup) (name : String) :
    claimIndex claimVCTs name = claimVCTs.find? (·.name == name) := by
  simpa [claimIndex] using foldl_update_apply claimVCTs distinct (fun _ => none) name

theorem keepTemplates_eq (acc : List (PersistentVolumeClaimTemplate Spec))
    (m : String → Option (PersistentVolumeClaimTemplate Spec)) (vct : PersistentVolumeClaimTemplate Spec) :
    keepTemplates (acc, m) vct = (acc ++ [(m vct.name).getD vct], Function.update m vct.name none) := by
  unfold keepTemplates
  split
  · rename_i override found
    dsimp only at found
    simp [found]
  · rename_i missing
    dsimp only at missing
    simp [missing]

/-- The template loop over distinct names: each template is read before its
name is deleted, so it sees the claim map as it was. -/
theorem foldl_keepTemplates (templateVCTs : List (PersistentVolumeClaimTemplate Spec))
    (distinct : (templateVCTs.map (·.name)).Nodup) (acc : List (PersistentVolumeClaimTemplate Spec))
    (m : String → Option (PersistentVolumeClaimTemplate Spec)) :
    templateVCTs.foldl keepTemplates (acc, m) =
      (acc ++ templateVCTs.map (fun vct => (m vct.name).getD vct),
        fun name => if name ∈ templateVCTs.map (·.name) then none else m name) := by
  induction templateVCTs generalizing acc m with
  | nil => simp
  | cons vct rest ih =>
    rw [List.map_cons, List.nodup_cons] at distinct
    rw [List.foldl_cons, keepTemplates_eq, ih distinct.2]
    have others : ∀ other ∈ rest, other.name ≠ vct.name := fun other member same =>
      distinct.1 (List.mem_map.mpr ⟨other, member, same⟩)
    refine Prod.ext ?_ (funext fun name => ?_)
    · simp only [List.append_assoc, List.map_cons, List.singleton_append]
      congr 2
      exact List.map_congr_left fun other member => by rw [Function.update_of_ne (others other member)]
    · by_cases deleted : name = vct.name
      · subst deleted
        simp
      · simp [deleted]

/-- The `Overrides` branch on valid lists: each template's template replaced by
the claim's of the same name, then the claim's new names in claim order. -/
theorem overrideByName_eq (templateVCTs claimVCTs : List (PersistentVolumeClaimTemplate Spec))
    (templateDistinct : (templateVCTs.map (·.name)).Nodup) (claimDistinct : (claimVCTs.map (·.name)).Nodup) :
    overrideByName templateVCTs claimVCTs =
      templateVCTs.map (fun vct => (claimVCTs.find? (·.name == vct.name)).getD vct) ++
        claimVCTs.filter fun vct => !(templateVCTs.map (·.name)).contains vct.name := by
  unfold overrideByName
  rw [foldl_keepTemplates templateVCTs templateDistinct]
  simp only [List.nil_append, claimIndex_apply claimVCTs claimDistinct]
  congr 1
  refine List.filter_congr fun vct member => ?_
  by_cases taken : vct.name ∈ templateVCTs.map (·.name)
  · simp [taken]
  · have found : (claimVCTs.find? (·.name == vct.name)).isSome := by
      rw [List.find?_isSome]
      exact ⟨vct, member, beq_self_eq_true _⟩
    simp [taken, found]

theorem validateVolumeClaimTemplates_eq_error (vcts : List (PersistentVolumeClaimTemplate Spec))
    (invalid : ¬ValidNames vcts) : ∃ err, validateVolumeClaimTemplates vcts = .error err := by
  cases validated : validateVolumeClaimTemplates vcts with
  | error err => exact ⟨err, rfl⟩
  | ok u => exact absurd ((validateVolumeClaimTemplates_eq_ok_iff vcts).mp validated) invalid

theorem validNames_append (vcts others : List (PersistentVolumeClaimTemplate Spec)) :
    ValidNames (vcts ++ others) ↔
      ValidNames vcts ∧ ValidNames others ∧ ∀ x ∈ vcts, ∀ y ∈ others, x.name ≠ y.name := by
  simp only [ValidNames, List.mem_append, List.map_append, List.nodup_append, List.mem_map]
  constructor
  · rintro ⟨named, distinct, distinct', apart⟩
    exact ⟨⟨fun x m => named x (.inl m), distinct⟩, ⟨fun y m => named y (.inr m), distinct'⟩,
      fun x mx y my => apart _ ⟨x, mx, rfl⟩ _ ⟨y, my, rfl⟩⟩
  · rintro ⟨⟨named, distinct⟩, ⟨named', distinct'⟩, apart⟩
    refine ⟨fun x m => m.elim (named x) (named' x), distinct, distinct', ?_⟩
    rintro _ ⟨x, mx, rfl⟩ _ ⟨y, my, rfl⟩
    exact apart x mx y my

theorem ValidNames.filter {vcts : List (PersistentVolumeClaimTemplate Spec)} (valid : ValidNames vcts)
    (p : PersistentVolumeClaimTemplate Spec → Bool) : ValidNames (vcts.filter p) :=
  ⟨fun vct member => valid.1 vct (List.mem_of_mem_filter member),
    valid.2.sublist ((List.filter_sublist).map _)⟩

/-- A claim template found by name has that name, so overriding keeps the
template's names. -/
theorem name_find?_getD (claimVCTs : List (PersistentVolumeClaimTemplate Spec))
    (vct : PersistentVolumeClaimTemplate Spec) :
    ((claimVCTs.find? (·.name == vct.name)).getD vct).name = vct.name := by
  cases found : claimVCTs.find? (·.name == vct.name) with
  | none => rfl
  | some override => simpa using List.find?_some found

/-- The `Overrides` result keeps the template's names and adds only claim names
that are new, so it passes validation again. -/
theorem validNames_overridden {templateVCTs claimVCTs : List (PersistentVolumeClaimTemplate Spec)}
    (templateValid : ValidNames templateVCTs) (claimValid : ValidNames claimVCTs) :
    ValidNames (templateVCTs.map (fun vct => (claimVCTs.find? (·.name == vct.name)).getD vct) ++
      claimVCTs.filter fun vct => !(templateVCTs.map (·.name)).contains vct.name) := by
  have names : (templateVCTs.map fun vct => (claimVCTs.find? (·.name == vct.name)).getD vct).map (·.name) =
      templateVCTs.map (·.name) := by
    rw [List.map_map]
    exact List.map_congr_left fun vct _ => name_find?_getD claimVCTs vct
  refine (validNames_append _ _).mpr ⟨⟨?_, names ▸ templateValid.2⟩, claimValid.filter _, ?_⟩
  · intro vct member
    obtain ⟨original, kept, rfl⟩ := List.mem_map.mp member
    rw [name_find?_getD]
    exact templateValid.1 original kept
  · intro x mx y my same
    have taken : x.name ∈ templateVCTs.map (·.name) := names ▸ List.mem_map_of_mem mx
    have fresh := (List.mem_filter.mp my).2
    simp_all

theorem find?_taken_eq_some {templateVCTs claimVCTs : List (PersistentVolumeClaimTemplate Spec)}
    {vct : PersistentVolumeClaimTemplate Spec}
    (found : claimVCTs.find? (fun vct => (templateVCTs.map (·.name)).contains vct.name) = some vct) :
    vct ∈ claimVCTs ∧ ∃ y ∈ templateVCTs, y.name = vct.name :=
  ⟨List.mem_of_find?_eq_some found, by simpa using List.find?_some found⟩

theorem find?_taken_eq_none_iff (templateVCTs claimVCTs : List (PersistentVolumeClaimTemplate Spec)) :
    claimVCTs.find? (fun vct => (templateVCTs.map (·.name)).contains vct.name) = none ↔
      ∀ x ∈ templateVCTs, ∀ y ∈ claimVCTs, x.name ≠ y.name := by
  rw [List.find?_eq_none]
  constructor
  · intro untaken x mx y my same
    exact untaken y my (by simpa using ⟨x, mx, same⟩)
  · intro apart y my taken
    obtain ⟨x, mx, same⟩ : ∃ x ∈ templateVCTs, x.name = y.name := by simpa using taken
    exact apart x mx y my same

/-- When the merge fails, in the terms the policy documentation uses. -/
def MergeRejected (templateVCTs claimVCTs : List (PersistentVolumeClaimTemplate Spec)) (policy : String) :
    Prop :=
  ¬ValidNames templateVCTs ∨ ¬ValidNames claimVCTs ∨
    (claimVCTs ≠ [] ∧ (policy = VolumeClaimTemplatesPolicyDisallowed ∨ policy = "" ∨
      policy ∉ [VolumeClaimTemplatesPolicyDisallowed, VolumeClaimTemplatesPolicyAllowed,
        VolumeClaimTemplatesPolicyOverrides])) ∨
    (policy = VolumeClaimTemplatesPolicyAllowed ∧ ∃ x ∈ claimVCTs, ∃ y ∈ templateVCTs, x.name = y.name)

section Outcome

variable {ε α : Type} {x : Except ε α} {Rejected : Prop} {Good : α → Prop}

/-- The two ways a specification of a fallible function is met: by an error
where it rejects, and by a good value where it does not. -/
theorem spec_of_eq_error (err : ε) (failed : x = .error err) (rejected : Rejected) :
    ((∃ err, x = .error err) ↔ Rejected) ∧ ∀ result, x = .ok result → Good result := by
  subst failed
  exact ⟨iff_of_true ⟨err, rfl⟩ rejected, fun _ h => nomatch h⟩

theorem spec_of_eq_ok (result : α) (succeeded : x = .ok result) (accepted : ¬Rejected)
    (good : Good result) :
    ((∃ err, x = .error err) ↔ Rejected) ∧ ∀ result, x = .ok result → Good result := by
  subst succeeded
  refine ⟨iff_of_false (fun ⟨_, h⟩ => nomatch h) accepted, ?_⟩
  rintro _ ⟨⟩
  exact good

end Outcome

/-- The merge fails exactly as `MergeRejected` says; what it returns has valid
names, is the concatenation under `Allowed` and the by-name override under
`Overrides`.  The cases follow the checks of the source in order. -/
theorem mergeVolumeClaimTemplates_spec (templateVCTs claimVCTs : List (PersistentVolumeClaimTemplate Spec))
    (policy : String) :
    ((∃ err, mergeVolumeClaimTemplates templateVCTs claimVCTs policy = .error err) ↔
        MergeRejected templateVCTs claimVCTs policy) ∧
      ∀ result, mergeVolumeClaimTemplates templateVCTs claimVCTs policy = .ok result →
        ValidNames result ∧
        (policy = VolumeClaimTemplatesPolicyAllowed → result = templateVCTs ++ claimVCTs) ∧
        (policy = VolumeClaimTemplatesPolicyOverrides →
          result = templateVCTs.map (fun vct => (claimVCTs.find? (·.name == vct.name)).getD vct) ++
            claimVCTs.filter fun vct => !(templateVCTs.map (·.name)).contains vct.name) := by
  by_cases templateValid : ValidNames templateVCTs
  swap
  · obtain ⟨err, invalid⟩ := validateVolumeClaimTemplates_eq_error templateVCTs templateValid
    refine spec_of_eq_error (.template err) ?_ (.inl templateValid)
    simp [mergeVolumeClaimTemplates, invalid, Except.mapError, bind, Except.bind]
  have templateChecked := (validateVolumeClaimTemplates_eq_ok_iff templateVCTs).mpr templateValid
  by_cases empty : claimVCTs = []
  · -- no claim templates: the template's are returned before the policy is read
    subst empty
    have nilValid : ValidNames ([] : List (PersistentVolumeClaimTemplate Spec)) := ⟨by simp, by simp⟩
    refine spec_of_eq_ok templateVCTs ?_ ?_ ⟨templateValid, by simp, by simp⟩
    · simp [mergeVolumeClaimTemplates, templateChecked, Except.mapError, bind, Except.bind]
      rfl
    · simp [MergeRejected, templateValid, nilValid]
  by_cases claimValid : ValidNames claimVCTs
  swap
  · obtain ⟨err, invalid⟩ := validateVolumeClaimTemplates_eq_error claimVCTs claimValid
    refine spec_of_eq_error (.claim err) ?_ (.inr (.inl claimValid))
    simp [mergeVolumeClaimTemplates, templateChecked, invalid, empty, Except.mapError, bind, Except.bind]
  have claimChecked := (validateVolumeClaimTemplates_eq_ok_iff claimVCTs).mpr claimValid
  -- both lists valid and claim templates present: the policy decides
  generalize merged : mergeVolumeClaimTemplates templateVCTs claimVCTs policy = outcome
  simp only [mergeVolumeClaimTemplates, templateChecked, claimChecked, List.length_eq_zero_iff, empty,
    Except.mapError, bind, Except.bind, if_false] at merged
  split_ifs at merged with disallowed allowed overrides
  · refine spec_of_eq_error VolumeClaimTemplatesError.disallowed merged.symm ?_
    exact Or.inr (Or.inr (Or.inl ⟨empty, disallowed.elim Or.inl (Or.inr ∘ Or.inl)⟩))
  · -- `Allowed`: the first claim name the template has is the error
    have notOverrides : policy ≠ VolumeClaimTemplatesPolicyOverrides := by
      simp [allowed, VolumeClaimTemplatesPolicyAllowed, VolumeClaimTemplatesPolicyOverrides]
    cases found : claimVCTs.find? fun vct => (templateVCTs.map (·.name)).contains vct.name <;>
      rw [found] at merged
    case some vct =>
      obtain ⟨member, other, kept, same⟩ := find?_taken_eq_some found
      refine spec_of_eq_error (VolumeClaimTemplatesError.overrideForbidden vct.name) merged.symm ?_
      exact Or.inr (Or.inr (Or.inr ⟨allowed, vct, member, other, kept, same.symm⟩))
    case none =>
      have apart := (find?_taken_eq_none_iff templateVCTs claimVCTs).mp found
      refine spec_of_eq_ok (templateVCTs ++ claimVCTs) merged.symm ?_
        ⟨(validNames_append _ _).mpr ⟨templateValid, claimValid, apart⟩, fun _ => rfl,
          fun h => absurd h notOverrides⟩
      simp only [MergeRejected, not_or, not_and, not_exists]
      refine ⟨not_not.mpr templateValid, not_not.mpr claimValid, fun _ => ?_,
        fun _ y my x mx same => apart x mx y my same.symm⟩
      simp [allowed, VolumeClaimTemplatesPolicyAllowed, VolumeClaimTemplatesPolicyDisallowed,
        VolumeClaimTemplatesPolicyOverrides]
  · -- `Overrides`: the by-name override, which keeps the names valid
    have overridden := overrideByName_eq templateVCTs claimVCTs templateValid.2 claimValid.2
    have notAllowed : policy ≠ VolumeClaimTemplatesPolicyAllowed := allowed
    refine spec_of_eq_ok _ merged.symm ?_
      ⟨overridden ▸ validNames_overridden templateValid claimValid, fun h => absurd h notAllowed,
        fun _ => overridden⟩
    simp [MergeRejected, templateValid, claimValid, overrides, VolumeClaimTemplatesPolicyAllowed,
      VolumeClaimTemplatesPolicyDisallowed, VolumeClaimTemplatesPolicyOverrides]
  · -- any other policy is unknown
    have unknown : policy ∉ [VolumeClaimTemplatesPolicyDisallowed, VolumeClaimTemplatesPolicyAllowed,
        VolumeClaimTemplatesPolicyOverrides] := by
      simp only [List.mem_cons, List.not_mem_nil, or_false, not_or]
      exact ⟨(not_or.mp disallowed).1, allowed, overrides⟩
    refine spec_of_eq_error (VolumeClaimTemplatesError.unknownPolicy policy) merged.symm ?_
    exact Or.inr (Or.inr (Or.inl ⟨empty, Or.inr (Or.inr unknown)⟩))

end Merge

end AgentSandbox.Claim
