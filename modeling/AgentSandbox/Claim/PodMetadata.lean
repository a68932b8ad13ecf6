import AgentSandbox.Kube.Meta
import AgentSandbox.Lib.GoErrors
import AgentSandbox.Lib.GoStrings

/-! # Validating the pod metadata a claim asks for

Model of `isRestrictedDomain` and `validateAdditionalPodMetadata` in
`extensions/controllers/sandboxclaim_controller.go`.  Label keys must carry a
domain prefix from the allowlist (`AllowedLabelDomains`, or
`sandbox.users.io` when it is empty); annotation keys must not use a
restricted system domain unless they are exempted.

The functions the validator calls outside this repository are parameters:
apimachinery's `IsQualifiedName` and `IsValidLabelValue` (their lists of
error strings) and Go's Unicode `strings.ToLower` and `strings.EqualFold`.
The results below hold for every choice of them, except that the key shape
uses what apimachinery guarantees: a qualified name has at most one `/`. -/

set_option autoImplicit false

namespace AgentSandbox.Claim

open GoStrings GoErrors

structure PodMetadata where
  labels : StrMap
  annotations : StrMap

def restrictedDomains : List String := ["kubernetes.io", "k8s.io", "agents.x-k8s.io"]

def autoscalerSafeToEvictAnnotation : String := "cluster-autoscaler.kubernetes.io/safe-to-evict"

def exemptedMetadataKeys : List String := [ autoscalerSafeToEvictAnnotation]

/-- A domain equals `d` or is a subdomain of it: `domain == d ||
strings.HasSuffix(domain, "."+d)`, the test both lists use. -/
def matchesDomain (domain d : String) : Bool := domain == d || hasSuffix domain ("." ++ d)

def isRestrictedDomain (domain : String) : Bool := restrictedDomains.any (matchesDomain domain)

/-- The library functions the validator calls. -/
structure ValidationLib where
  isQualifiedName : String → List String
  isValidLabelValue : String → List String
  toLower : String → String
  equalFold : String → String → Bool

/-- What apimachinery documents of `IsQualifiedName`: an accepted key has at
most one `/`. -/
def ValidationLib.QualifiedNamesHaveOneSlash (lib : ValidationLib) : Prop :=
  ∀ key, lib.isQualifiedName key = [] → key.toList.count '/' ≤ 1

/-- The errors of the `validate` closure, with the values their messages
print. -/
inductive MetadataError
  /-- `invalid %s key: %q: %s` -/
  | invalidKey (kind key : String) (errs : List String)
  /-- `restricted system label value: %q=%q is not allowed in AdditionalPodMetadata` -/
  | restrictedLabelValue (key value : String)
  /-- `label %q must have a domain prefix (e.g. 'sandbox.users.io/my-label') ...` -/
  | missingDomainPrefix (key : String)
  /-- `label domain %q is not in the allowlist` -/
  | domainNotAllowed (domain : String)
  /-- `restricted system domain: %q is not allowed in AdditionalPodMetadata` -/
  | restrictedDomain (key : String)
  /-- `invalid label value: %q does not match allowed pattern: %s` -/
  | invalidLabelValue (value : String) (errs : List String)
deriving DecidableEq, Repr

/-- The wrapping `failed to validate label %q: %w` and
`failed to validate annotation %q: %w`. -/
inductive ValidationError
  | labelKey (key : String) (err : MetadataError)
  | annotationKey (key : String) (err : MetadataError)
deriving DecidableEq, Repr

section Validate
variable (lib : ValidationLib)

/-- The domain the validator reads off a key: the lower-cased part before
the first `/`, or `""` when the key has none. -/
def keyDomain (key : String) : String :=
  match splitN2 key '/' with
  | [pre, _] => lib.toLower pre
  | _ => ""

/-- The `validate` closure of `validateAdditionalPodMetadata`. -/
def validate (allowedDomains : List String) (key value : String) (isLabel : Bool) :
    Except MetadataError Unit := do
  if lib.isQualifiedName key ≠ [] then
    throw (.invalidKey (if isLabel then "label" else "annotation") key (lib.isQualifiedName key))
  if isLabel && lib.equalFold key "app" && lib.equalFold value "sandbox-router" then
    throw (.restrictedLabelValue key value)
  let domain ← match splitN2 key '/' with
    | [pre, _] => pure (lib.toLower pre)
    | _ => if isLabel then throw (.missingDomainPrefix key) else pure ""
  if isLabel then
    if !allowedDomains.any (matchesDomain domain) then
      throw (.domainNotAllowed domain)
  else if isRestrictedDomain domain then
    if !exemptedMetadataKeys.contains key then
      throw (.restrictedDomain key)
  if isLabel && lib.isValidLabelValue value ≠ [] then
    throw (.invalidLabelValue value (lib.isValidLabelValue value))

/-- `validateAdditionalPodMetadata`, with the reconciler's
`AllowedLabelDomains`: labels first, then annotations, each in map order. -/
def validateAdditionalPodMetadata (allowedLabelDomains : List String)
    (claimMeta : Option PodMetadata) : Except ValidationError Unit :=
  match claimMeta with
  | none => pure ()
  | some requested => do
      let allowedDomains :=
        if allowedLabelDomains.isEmpty then ["sandbox.users.io"] else allowedLabelDomains
      requested.labels.pairs.forM fun (k, v) =>
        (validate lib allowedDomains k v true).mapError (.labelKey k)
      requested.annotations.pairs.forM fun (k, v) =>
        (validate lib allowedDomains k v false).mapError (.annotationKey k)

theorem isRestrictedDomain_eq_false_iff {domain : String} :
    isRestrictedDomain domain = false ↔
      domain ∉ restrictedDomains ∧ ∀ d ∈ restrictedDomains, hasSuffix domain ("." ++ d) = false := by
  simp only [isRestrictedDomain, matchesDomain, List.any_eq_false, Bool.or_eq_true, beq_iff_eq,
    not_or]
  constructor
  · intro none
    refine ⟨fun member => (none _ member).1 rfl, fun d member => ?_⟩
    simpa using (none d member).2
  · rintro ⟨notListed, noSuffix⟩ d member
    refine ⟨fun same => notListed (same ▸ member), ?_⟩
    simp [noSuffix d member]

/-- What `validate` establishes of a label it accepts.  The key has a domain
prefix, and it is the only `/` because apimachinery accepts no key with two. -/
theorem validate_label_ok {allowedDomains : List String} {key value : String}
    (qualified : lib.QualifiedNamesHaveOneSlash)
    (ok : validate lib allowedDomains key value true = .ok ()) :
    ∃ pre name, key = pre ++ "/" ++ name ∧ '/' ∉ pre.toList ∧ '/' ∉ name.toList ∧
      (∃ d ∈ allowedDomains, matchesDomain (lib.toLower pre) d = true) ∧
      ¬ (lib.equalFold key "app" = true ∧ lib.equalFold value "sandbox-router" = true) := by
  -- each guard is read back in the order the closure runs them
  have qualifiedKey : lib.isQualifiedName key = [] := by
    by_contra bad
    simp [validate, bad] at ok
  have notRouter : (lib.equalFold key "app" && lib.equalFold value "sandbox-router") = false := by
    by_contra router
    simp only [Bool.not_eq_false, Bool.and_eq_true] at router
    simp [validate, qualifiedKey, router] at ok
  obtain ⟨pre, name, split⟩ : ∃ pre name, splitN2 key '/' = [pre, name] := by
    rcases splitN2_shape key '/' with single | pair
    · simp [validate, qualifiedKey, notRouter, single] at ok
    · exact pair
  have allowed : ∃ d ∈ allowedDomains, matchesDomain (lib.toLower pre) d = true := by
    by_contra bad
    simp only [not_exists, not_and, Bool.not_eq_true] at bad
    simp +contextual [validate, qualifiedKey, notRouter, split, bad] at ok
  obtain ⟨joined, fresh⟩ := splitN2_eq_pair split
  refine ⟨pre, name, joined, fresh, ?_, allowed, ?_⟩
  · rw [joined] at qualifiedKey
    exact not_mem_after_of_count_le_one (qualified _ qualifiedKey)
  · simpa using notRouter

/-- What `validate` establishes of an annotation it accepts: the key is
exempted or its domain is not restricted.  A key without `/` has the empty
domain and passes. -/
theorem validate_annotation_ok {allowedDomains : List String} {key value : String}
    (ok : validate lib allowedDomains key value false = .ok ()) :
    key ∈ exemptedMetadataKeys ∨ isRestrictedDomain (keyDomain lib key) = false := by
  rw [or_iff_not_imp_left]
  intro notExempt
  have qualifiedKey : lib.isQualifiedName key = [] := by
    by_contra bad
    simp [validate, bad] at ok
  by_contra restricted
  rw [Bool.not_eq_false] at restricted
  rcases splitN2_shape key '/' with single | ⟨pre, name, pair⟩
  · simp only [keyDomain, single] at restricted
    exact absurd restricted (by decide)
  · simp only [keyDomain, pair] at restricted
    simp [validate, qualifiedKey, pair, restricted, notExempt] at ok

/-- The domain read off `pre/name` is the lower-cased `pre` when `pre` has no
`/`. -/
theorem keyDomain_join {pre name : String} (fresh : '/' ∉ pre.toList) :
    keyDomain lib (pre ++ "/" ++ name) = lib.toLower pre := by
  have slash : ("/" : String) = String.singleton '/' := rfl
  simp only [keyDomain, slash, splitN2_join fresh]

end Validate

/-- Pod metadata that passes `validateAdditionalPodMetadata` puts every label
under an allowed domain, never sets `app=sandbox-router` in any letter case,
and sets no annotation under a restricted domain other than the exempted
one. -/
theorem validateAdditionalPodMetadata_restricts (lib : ValidationLib)
    (qualified : lib.QualifiedNamesHaveOneSlash) (allowedLabelDomains : List String)
    (requested : PodMetadata)
    (accepted : validateAdditionalPodMetadata lib allowedLabelDomains (some requested) = .ok ()) :
    (∀ k v, requested.labels.lookup k = some v →
      (∃ pre name, k = pre ++ "/" ++ name ∧ '/' ∉ pre.toList ∧ '/' ∉ name.toList ∧
        ∃ d ∈ (if allowedLabelDomains.isEmpty then ["sandbox.users.io"] else allowedLabelDomains),
          lib.toLower pre = d ∨ hasSuffix (lib.toLower pre) ("." ++ d) = true) ∧
      ¬ (lib.equalFold k "app" = true ∧ lib.equalFold v "sandbox-router" = true)) ∧
    (∀ k v, requested.annotations.lookup k = some v →
      k = autoscalerSafeToEvictAnnotation ∨
        ∀ pre name, k = pre ++ "/" ++ name → '/' ∉ pre.toList →
          lib.toLower pre ∉ restrictedDomains ∧
            ∀ d ∈ restrictedDomains, hasSuffix (lib.toLower pre) ("." ++ d) = false) := by
  simp only [validateAdditionalPodMetadata, bind_eq_ok] at accepted
  obtain ⟨⟨⟩, labelsOk, annotationsOk⟩ := accepted
  simp only [forM_eq_ok, mapError_eq_ok] at labelsOk annotationsOk
  constructor
  · intro k v found
    obtain ⟨pre, name, joined, fresh, slashFree, ⟨d, member, matched⟩, notRouter⟩ :=
      validate_label_ok lib qualified (labelsOk (k, v) (StrMap.mem_pairs.mpr found))
    refine ⟨⟨pre, name, joined, fresh, slashFree, d, member, ?_⟩, notRouter⟩
    simpa [matchesDomain] using matched
  · intro k v found
    rcases validate_annotation_ok lib (annotationsOk (k, v) (StrMap.mem_pairs.mpr found)) with
      exempt | unrestricted
    · left
      simpa [exemptedMetadataKeys] using exempt
    · right
      rintro pre name rfl fresh
      rw [keyDomain_join lib fresh] at unrestricted
      exact isRestrictedDomain_eq_false_iff.mp unrestricted

/-! ## Merging the claim's metadata into the pod template -/

inductive MergeError
  /-- the error of `validateAdditionalPodMetadata`, returned as it is -/
  | invalid (err : ValidationError)
  /-- `metadata override conflict: %s %q is defined in template with value %q, but claim requests %q` -/
  | overrideConflict (kind key templateValue claimValue : String)
deriving DecidableEq, Repr

/-- The loops `Check for overrides in labels` and `... in annotations`: the
first claim entry whose key the template has with another value. -/
def checkOverrides (kind : String) (templateMap claimMap : StrMap) : Except MergeError Unit :=
  claimMap.pairs.forM fun (k, v) =>
    match templateMap.lookup k with
    | some tv => if tv ≠ v then throw (.overrideConflict kind k tv v) else pure ()
    | none => pure ()

/-- `mergePodMetadata`, run on the template's metadata as its state: the
claim's metadata is validated and checked against the template before either
map is written. -/
def mergePodMetadata (lib : ValidationLib) (allowedLabelDomains : List String)
    (claimMeta : PodMetadata) : ExceptT MergeError (StateM PodMetadata) Unit := do
  liftExcept ((validateAdditionalPodMetadata lib allowedLabelDomains (some claimMeta)).mapError MergeError.invalid)
  let templateMeta ← get
  liftExcept (checkOverrides "label" templateMeta.labels claimMeta.labels)
  liftExcept (checkOverrides "annotation" templateMeta.annotations claimMeta.annotations)
  if claimMeta.labels.keys.length > 0 then
    modify fun current => { current with labels := current.labels.copy claimMeta.labels }
  if claimMeta.annotations.keys.length > 0 then
    modify fun current => { current with annotations := current.annotations.copy claimMeta.annotations }

theorem checkOverrides_eq_ok_iff (kind : String) (templateMap claimMap : StrMap) :
    checkOverrides kind templateMap claimMap = .ok () ↔
      ∀ k tv v, templateMap.lookup k = some tv → claimMap.lookup k = some v → tv = v := by
  rw [checkOverrides, forM_eq_ok]
  constructor
  · intro agree k tv v inTemplate inClaim
    have entry := agree (k, v) (StrMap.mem_pairs.mpr inClaim)
    by_contra differ
    simp [inTemplate, differ, throw, throwThe, MonadExceptOf.throw] at entry
  · rintro agree ⟨k, v⟩ member
    cases inTemplate : templateMap.lookup k with
    | none => simp [inTemplate, pure, Except.pure]
    | some tv => simp [inTemplate, agree k tv v inTemplate (StrMap.mem_pairs.mp member), pure, Except.pure]

/-- The write `if len(src) > 0 { maps.Copy(dst, src) }` leaves a map whose
lookups are those of the copy, also when `src` is empty. -/
theorem lookup_copy_of_nonempty (dst src : StrMap) (k : String) :
    (if src.keys.length > 0 then dst.copy src else dst).lookup k = (src.lookup k).or (dst.lookup k) := by
  split
  · exact StrMap.lookup_copy dst src k
  · rename_i empty
    rw [StrMap.lookup_eq_none_of_keys_length src (by omega), Option.none_or]

/-- On maps that agree where both have a key, the conditional copy is their
union and keeps every entry of the template's map. -/
theorem copy_of_nonempty_equiv_union (dst src : StrMap)
    (agree : ∀ k tv v, dst.lookup k = some tv → src.lookup k = some v → tv = v) :
    (if src.keys.length > 0 then dst.copy src else dst).Equiv (dst ∪ src) := by
  intro k
  rw [lookup_copy_of_nonempty, ← StrMap.lookup_copy]
  exact StrMap.copy_equiv_union dst src agree k

/-- The run once every check has passed: both maps are written, each only
when the claim's is non-empty. -/
theorem mergePodMetadata_run_of_checked {lib : ValidationLib} {allowedLabelDomains : List String}
    {templateMeta claimMeta : PodMetadata}
    (validated : validateAdditionalPodMetadata lib allowedLabelDomains (some claimMeta) = .ok ())
    (labelsAgree : checkOverrides "label" templateMeta.labels claimMeta.labels = .ok ())
    (annotationsAgree : checkOverrides "annotation" templateMeta.annotations claimMeta.annotations = .ok ()) :
    (mergePodMetadata lib allowedLabelDomains claimMeta).run.run templateMeta =
      (.ok (), { labels := if claimMeta.labels.keys.length > 0 then templateMeta.labels.copy claimMeta.labels
                  else templateMeta.labels
                 annotations := if claimMeta.annotations.keys.length > 0 then
                    templateMeta.annotations.copy claimMeta.annotations else templateMeta.annotations }) := by
  simp only [mergePodMetadata, validated, Except.mapError, run_liftExcept_ok_bind, run_get_bind, labelsAgree,
    annotationsAgree]
  split_ifs <;> rfl

/-- `mergePodMetadata` is atomic and conservative: it fails and leaves the
template's metadata as it was, or it succeeds and each map becomes the union
of the template's and the claim's (the same lookups: a Go map has no order),
no template entry changing.  A claim key the template has with another value
always fails it. -/
theorem mergePodMetadata_atomic (lib : ValidationLib) (allowedLabelDomains : List String)
    (templateMeta claimMeta : PodMetadata) :
    let run := (mergePodMetadata lib allowedLabelDomains claimMeta).run.run templateMeta
    ((∃ err, run.1 = .error err) ∧ run.2 = templateMeta ∨
      run.1 = .ok () ∧ run.2.labels.Equiv (templateMeta.labels ∪ claimMeta.labels) ∧
        run.2.annotations.Equiv (templateMeta.annotations ∪ claimMeta.annotations) ∧
        (∀ k v, templateMeta.labels.lookup k = some v → run.2.labels.lookup k = some v) ∧
        (∀ k v, templateMeta.annotations.lookup k = some v → run.2.annotations.lookup k = some v)) ∧
    ((∃ k tv v, templateMeta.labels.lookup k = some tv ∧ claimMeta.labels.lookup k = some v ∧ tv ≠ v) ∨
      (∃ k tv v, templateMeta.annotations.lookup k = some tv ∧ claimMeta.annotations.lookup k = some v ∧
        tv ≠ v) →
      ∃ err, run.1 = .error err) := by
  intro run
  -- the checks in the order the source makes them; each failure returns before any write
  cases validated : validateAdditionalPodMetadata lib allowedLabelDomains (some claimMeta) with
  | error err =>
    have failed : run = (.error (.invalid err), templateMeta) := by
      simp only [run, mergePodMetadata, validated, Except.mapError, run_liftExcept_error_bind]
    simp [failed]
  | ok u =>
    cases labelsChecked : checkOverrides "label" templateMeta.labels claimMeta.labels with
    | error err =>
      have failed : run = (.error err, templateMeta) := by
        simp only [run, mergePodMetadata, validated, labelsChecked, Except.mapError, run_liftExcept_ok_bind,
          run_get_bind, run_liftExcept_error_bind]
      simp [failed]
    | ok u' =>
      cases annotationsChecked : checkOverrides "annotation" templateMeta.annotations claimMeta.annotations with
      | error err =>
        have failed : run = (.error err, templateMeta) := by
          simp only [run, mergePodMetadata, validated, labelsChecked, annotationsChecked, Except.mapError,
            run_liftExcept_ok_bind, run_get_bind, run_liftExcept_error_bind]
        simp [failed]
      | ok u'' =>
        have labelsAgree := (checkOverrides_eq_ok_iff _ _ _).mp labelsChecked
        have annotationsAgree := (checkOverrides_eq_ok_iff _ _ _).mp annotationsChecked
        have labels := copy_of_nonempty_equiv_union _ _ labelsAgree
        have annotations := copy_of_nonempty_equiv_union _ _ annotationsAgree
        have merged := mergePodMetadata_run_of_checked validated labelsChecked annotationsChecked
        simp only [run, merged]
        refine ⟨Or.inr ⟨trivial, labels, annotations, fun k v found => ?_, fun k v found => ?_⟩, ?_⟩
        · rw [labels k]
          simp [found]
        · rw [annotations k]
          simp [found]
        · rintro (⟨k, tv, v, inTemplate, inClaim, differ⟩ | ⟨k, tv, v, inTemplate, inClaim, differ⟩)
          · exact absurd (labelsAgree k tv v inTemplate inClaim) differ
          · exact absurd (annotationsAgree k tv v inTemplate inClaim) differ

/-- A library that accepts every key with at most one `/` and every value,
and folds ASCII case.  On the keys of `teamMetadata` below, all lower-case
qualified names, it answers as apimachinery and Go do. -/
def asciiLib : ValidationLib where
  isQualifiedName key := if key.toList.count '/' ≤ 1 then [] else ["at most one '/' is allowed"]
  isValidLabelValue _ := []
  toLower s := String.ofList (s.toList.map Char.toLower)
  equalFold a b := a.toList.map Char.toLower == b.toList.map Char.toLower

theorem asciiLib_qualifiedNamesHaveOneSlash : asciiLib.QualifiedNamesHaveOneSlash := by
  intro key accepted
  by_contra many
  simp [asciiLib, many] at accepted

/-- A label under the default domain, the exempted annotation, and one more
annotation. -/
def teamMetadata : PodMetadata where
  labels := (∅ : StrMap).set "sandbox.users.io/team" "ml"
  annotations :=
    ((∅ : StrMap).set autoscalerSafeToEvictAnnotation "false").set "example.com/note" "x"

theorem validateAdditionalPodMetadata_restricts_teamMetadata :
    asciiLib.QualifiedNamesHaveOneSlash ∧
      validateAdditionalPodMetadata asciiLib [] (some teamMetadata) = .ok () ∧
      (∀ k v, teamMetadata.labels.lookup k = some v →
        (∃ pre name, k = pre ++ "/" ++ name ∧ '/' ∉ pre.toList ∧ '/' ∉ name.toList ∧
          ∃ d ∈ (if ([] : List String).isEmpty then ["sandbox.users.io"] else []),
            asciiLib.toLower pre = d ∨ hasSuffix (asciiLib.toLower pre) ("." ++ d) = true) ∧
        ¬ (asciiLib.equalFold k "app" = true ∧ asciiLib.equalFold v "sandbox-router" = true)) ∧
      (∀ k v, teamMetadata.annotations.lookup k = some v →
        k = autoscalerSafeToEvictAnnotation ∨
          ∀ pre name, k = pre ++ "/" ++ name → '/' ∉ pre.toList →
            asciiLib.toLower pre ∉ restrictedDomains ∧
              ∀ d ∈ restrictedDomains, hasSuffix (asciiLib.toLower pre) ("." ++ d) = false) := by
  have accepted : validateAdditionalPodMetadata asciiLib [] (some teamMetadata) = .ok () := by
    decide
  exact ⟨asciiLib_qualifiedNamesHaveOneSlash, accepted,
    validateAdditionalPodMetadata_restricts asciiLib asciiLib_qualifiedNamesHaveOneSlash []
      teamMetadata accepted⟩

end AgentSandbox.Claim
