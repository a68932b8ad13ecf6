import AgentSandbox.WarmPool.Reconcile

/-!
# Whose Sandboxes the warm pool changes

A warm-pool reconcile runs among other workers and clients: a claim adopting a Sandbox of the
pool, another pool's reconcile, anyone with any request.  Its list of Sandboxes may come from an
informer some writes behind, and any answer may fail.  Still, an Update it sends applies only
over a live Sandbox in the index of the pool it reconciles that is an orphan or that pool's
(`update_only_owned`): the Update carries the `resourceVersion` of the version it listed, the
API server never forgets a version (`keeps_of_answered`), and every stored version has its own
(`Versioned.distinct`), so the stored Sandbox the Update replaces is the version it listed.  A
Delete carries no such precondition; what the pool can be held to is that the name it deletes is
one it listed as such a member, from its own list or from what its Updates stored
(`delete_only_members`).

The proof is a guarantee in the sense of `Resumption`: one rule per request the reconcile sends
and one per function, assembled along the program.
-/

set_option autoImplicit false

namespace AgentSandbox.WarmPool

open Resumption
open Claim.Adoption (ApiError Answer)
open Controller (NameHash SandboxWarmPoolLabel)

variable {σ ν : Type}

namespace Store

variable {s : Store σ ν}

theorem pool?_eq_some {name : String} {p : WarmPoolObject} (found : s.pool? name = some p) :
    p.pool.name = name ∧ p ∈ s.pools :=
  ⟨by simpa using List.find?_some found, List.mem_of_find?_eq_some found⟩

theorem sandbox?_eq_some {name : String} {sb : PoolMember σ ν} (found : s.sandbox? name = some sb) :
    sb.name = name ∧ sb ∈ s.sandboxes :=
  ⟨by simpa using List.find?_some found, List.mem_of_find?_eq_some found⟩

theorem write_snd {β : Type} (a : Answer) (perform : Except ApiError β × Store σ ν) :
    (s.write a perform).2 = s ∨ (s.write a perform).2 = perform.2 := by
  cases a with
  | fail err => exact .inl rfl
  | latest => exact .inr rfl
  | cached age => exact .inr rfl

end Store

/-! ## What the API server keeps -/

/-- Every stored or listed object is one of the versions kept, each kept version of a Sandbox
has its own `resourceVersion`, and none is newer than the last one handed out. -/
structure Versioned (s : Store σ ν) : Prop where
  pools_kept : ∀ p ∈ s.pools, p ∈ s.poolHistory
  sandboxes_kept : ∀ sb ∈ s.sandboxes, sb ∈ s.sandboxHistory
  snapshots_kept : ∀ snapshot ∈ s.sandboxSnapshots, ∀ sb ∈ snapshot, sb ∈ s.sandboxHistory
  distinct : (s.sandboxHistory.map (·.resourceVersion)).Nodup
  bounded : ∀ sb ∈ s.sandboxHistory, sb.resourceVersion ≤ s.revision

namespace Versioned

variable {s : Store σ ν}

theorem setSandboxes (inv : Versioned s) {sandboxes : List (PoolMember σ ν)}
    (kept : ∀ sb ∈ sandboxes, sb ∈ s.sandboxHistory) : Versioned (s.setSandboxes sandboxes) where
  pools_kept := inv.pools_kept
  sandboxes_kept := kept
  snapshots_kept := by
    intro snapshot listed
    rcases List.mem_cons.mp listed with now | before
    · exact now ▸ kept
    · exact inv.snapshots_kept snapshot before
  distinct := inv.distinct
  bounded := inv.bounded

theorem writeSandbox (inv : Versioned s) (sb : PoolMember σ ν) : Versioned (s.writeSandbox sb).2 where
  pools_kept := inv.pools_kept
  sandboxes_kept := by
    intro x listed
    simp only [Store.writeSandbox, Store.setSandboxes, List.mem_cons, List.mem_filter] at listed ⊢
    rcases listed with now | ⟨before, -⟩
    · exact .inl now
    · exact .inr (inv.sandboxes_kept x before)
  snapshots_kept := by
    intro snapshot listed x member
    simp only [Store.writeSandbox, Store.setSandboxes, List.mem_cons] at listed ⊢
    rcases listed with now | before
    · subst now
      simp only [List.mem_cons, List.mem_filter] at member
      rcases member with new | ⟨old, -⟩
      · exact .inl new
      · exact .inr (inv.sandboxes_kept x old)
    · exact .inr (inv.snapshots_kept snapshot before x member)
  distinct := by
    have fresh : s.revision + 1 ∉ s.sandboxHistory.map (·.resourceVersion) := by
      intro taken
      obtain ⟨old, kept, same⟩ := List.mem_map.mp taken
      have := inv.bounded old kept
      omega
    simp only [Store.writeSandbox, Store.setSandboxes, List.map_cons]
    exact List.nodup_cons.mpr ⟨fresh, inv.distinct⟩
  bounded := by
    intro x kept
    simp only [Store.writeSandbox, Store.setSandboxes, List.mem_cons] at kept ⊢
    rcases kept with new | old
    · subst new
      exact Nat.le_refl _
    · exact Nat.le_succ_of_le (inv.bounded x old)

theorem writePool (inv : Versioned s) (p : WarmPoolObject) : Versioned (s.writePool p).2 where
  pools_kept := by
    intro x stored
    simp only [Store.writePool, List.mem_cons, List.mem_filter] at stored ⊢
    rcases stored with now | ⟨before, -⟩
    · exact .inl now
    · exact .inr (inv.pools_kept x before)
  sandboxes_kept := inv.sandboxes_kept
  snapshots_kept := inv.snapshots_kept
  distinct := inv.distinct
  bounded := fun x kept => Nat.le_succ_of_le (inv.bounded x kept)

end Versioned

/-- What one answer can do to the store: nothing, unstore the Sandboxes of one name, store a
new version of a Sandbox, or of a pool. -/
theorem answer_cases (s : Store σ ν) (c : Call σ ν) (a : Answer) :
    (s.answer c a).2 = s ∨ (∃ name, (s.answer c a).2 = s.setSandboxes (s.sandboxes.filter (·.name != name))) ∨
      (∃ sb, (s.answer c a).2 = (s.writeSandbox sb).2) ∨ ∃ p, (s.answer c a).2 = (s.writePool p).2 := by
  cases c with
  | getPool name => exact .inl rfl
  | listSandboxes poolNameHash => exact .inl rfl
  | getTemplate name => exact .inl rfl
  | createSandbox sb =>
      dsimp only [Store.answer]
      rcases Store.write_snd a (s.createSandbox sb) with same | done
      · exact .inl same
      · rw [done]
        unfold Store.createSandbox
        dsimp only
        split
        · exact .inl rfl
        · exact .inr (.inr (.inl ⟨_, rfl⟩))
  | updateSandbox sb =>
      dsimp only [Store.answer]
      rcases Store.write_snd a (s.updateSandbox sb) with same | done
      · exact .inl same
      · rw [done]
        unfold Store.updateSandbox
        split
        · exact .inl rfl
        · split
          · exact .inl rfl
          · exact .inr (.inr (.inl ⟨_, rfl⟩))
  | patchSandbox sb =>
      dsimp only [Store.answer]
      rcases Store.write_snd a (s.patchSandbox sb) with same | done
      · exact .inl same
      · rw [done]
        unfold Store.patchSandbox
        split
        · exact .inl rfl
        · exact .inr (.inr (.inl ⟨_, rfl⟩))
  | deleteSandbox sb =>
      dsimp only [Store.answer]
      rcases Store.write_snd a (s.deleteSandbox sb) with same | done
      · exact .inl same
      · rw [done]
        unfold Store.deleteSandbox
        split
        · exact .inl rfl
        · exact .inr (.inl ⟨_, rfl⟩)
  | patchPoolStatus original modified =>
      dsimp only [Store.answer]
      rcases Store.write_snd a (s.patchPoolStatus original modified) with same | done
      · exact .inl same
      · rw [done]
        unfold Store.patchPoolStatus
        split
        · exact .inl rfl
        · exact .inr (.inr (.inr ⟨_, rfl⟩))

theorem Versioned.answer {s : Store σ ν} (inv : Versioned s) (c : Call σ ν) (a : Answer) :
    Versioned (s.answer c a).2 := by
  rcases answer_cases s c a with same | ⟨name, unstored⟩ | ⟨sb, written⟩ | ⟨p, written⟩
  · rw [same]
    exact inv
  · rw [unstored]
    exact inv.setSandboxes fun x kept => inv.sandboxes_kept x (List.mem_filter.mp kept).1
  · rw [written]
    exact inv.writeSandbox sb
  · rw [written]
    exact inv.writePool p

/-- The versions `s` keeps are kept in `s'`. -/
def Keeps (s s' : Store σ ν) : Prop :=
  (∀ p ∈ s.poolHistory, p ∈ s'.poolHistory) ∧ ∀ sb ∈ s.sandboxHistory, sb ∈ s'.sandboxHistory

theorem keeps_refl (s : Store σ ν) : Keeps s s := ⟨fun _ => id, fun _ => id⟩

theorem Keeps.trans {s₁ s₂ s₃ : Store σ ν} (first : Keeps s₁ s₂) (second : Keeps s₂ s₃) : Keeps s₁ s₃ :=
  ⟨fun p kept => second.1 p (first.1 p kept), fun sb kept => second.2 sb (first.2 sb kept)⟩

theorem keeps_answer (s : Store σ ν) (c : Call σ ν) (a : Answer) : Keeps s (s.answer c a).2 := by
  rcases answer_cases s c a with same | ⟨name, unstored⟩ | ⟨sb, written⟩ | ⟨p, written⟩
  · rw [same]
    exact keeps_refl s
  · rw [unstored]
    exact keeps_refl s
  · rw [written]
    exact ⟨fun _ => id, fun _ kept => List.mem_cons_of_mem _ kept⟩
  · rw [written]
    exact ⟨fun _ kept => List.mem_cons_of_mem _ kept, fun _ => id⟩

theorem keeps_of_answered {s s' : Store σ ν} (moved : Answered Store.answer s s') : Keeps s s' :=
  Answered.keeps Store.answer keeps_refl (fun _ _ _ first second => first.trans second) keeps_answer moved

/-! ## What the pool's writes touch -/

/-- A version the pool may act on: kept by the API server, live, in the pool's index, and the
pool's or an orphan. -/
def Member (warmPool : WarmPoolObject) (s : Store σ ν) (sb : PoolMember σ ν) : Prop :=
  sb ∈ s.sandboxHistory ∧ inPool (NameHash warmPool.pool.name) sb = true ∧ sb.deleting = false ∧
    sb.controllerRef.all (·.uid == warmPool.uid) = true

theorem Member.keeps {warmPool : WarmPoolObject} {s s' : Store σ ν} {sb : PoolMember σ ν} (keeps : Keeps s s')
    (member : Member warmPool s sb) : Member warmPool s' sb :=
  ⟨keeps.2 _ member.1, member.2⟩

/-- The version an Update stores is a member when the object sent is one in all but its
`resourceVersion`. -/
theorem member_of_updated {warmPool : WarmPoolObject} {s : Store σ ν} {sb updated : PoolMember σ ν}
    (stored : updated ∈ s.sandboxHistory) (same : updated = { sb with resourceVersion := updated.resourceVersion })
    (indexed : inPool (NameHash warmPool.pool.name) sb = true) (live : sb.deleting = false)
    (owned : sb.controllerRef.all (·.uid == warmPool.uid) = true) : Member warmPool s updated := by
  rw [same] at stored ⊢
  exact ⟨stored, indexed, live, owned⟩

theorem Store.updateSandbox_ok (s : Store σ ν) {sb updated : PoolMember σ ν} (ok : (s.updateSandbox sb).1 = .ok updated) :
    updated ∈ (s.updateSandbox sb).2.sandboxHistory ∧ updated = { sb with resourceVersion := updated.resourceVersion } := by
  unfold Store.updateSandbox at ok ⊢
  split at ok
  · cases ok
  · split at ok
    · cases ok
    · rename_i admitted
      rw [if_neg admitted]
      simp only [Store.writeSandbox, Except.ok.injEq] at ok ⊢
      subst ok
      exact ⟨List.mem_cons_self, rfl⟩

theorem answer_updateSandbox_ok {s : Store σ ν} {sb updated : PoolMember σ ν} {a : Answer}
    (ok : (s.answer (.updateSandbox sb) a).1 = .ok updated) :
    updated ∈ (s.answer (.updateSandbox sb) a).2.sandboxHistory ∧
      updated = { sb with resourceVersion := updated.resourceVersion } := by
  cases a with
  | fail err => cases ok
  | latest => exact s.updateSandbox_ok ok
  | cached age => exact s.updateSandbox_ok ok

/-! ## Writes among other threads -/

/-- What the requests of a worker reconciling the pool `name` may do in `s`: an Update, where it
applies, replaces a member of a version of that pool, and a Delete names one. -/
def PoolSafe (name : String) (s : Store σ ν) : Call σ ν → Prop
  | .updateSandbox sb => ∀ current, s.sandbox? sb.name = some current → current.resourceVersion = sb.resourceVersion →
      ∃ warmPool ∈ s.poolHistory, warmPool.pool.name = name ∧ Member warmPool s current
  | .deleteSandbox sb => ∃ warmPool ∈ s.poolHistory, warmPool.pool.name = name ∧ Member warmPool s sb
  | _ => True

/-- `p`, started in `s`, changes only members of the pool `name`, whatever the other threads do,
and ends with `Q`. -/
abbrev Guarded (name : String) {α : Type} (Q : Store σ ν → α → Prop) (s : Store σ ν) (p : Api σ ν α) : Prop :=
  p.Guarantees Store.answer Versioned (PoolSafe name) Q s

/-- Whether a request changes or removes a stored Sandbox. -/
def Call.changesSandbox : Call σ ν → Bool
  | .updateSandbox _ => true
  | .deleteSandbox _ => true
  | _ => false

/-- A request that leaves the stored Sandboxes as they are, or adds one. -/
def LeavesSandboxes (c : Call σ ν) : Prop := c.changesSandbox = false

theorem request_sends (c : Call σ ν) (leaves : LeavesSandboxes c) :
    (request c : Api σ ν _).Satisfies LeavesSandboxes fun _ => True :=
  .call leaves fun _ => .done trivial

theorem poolSafe_of_leaves (name : String) (s : Store σ ν) (c : Call σ ν) (leaves : LeavesSandboxes c) :
    PoolSafe name s c := by
  cases c
  case updateSandbox sb => cases leaves
  case deleteSandbox sb => cases leaves
  all_goals trivial

section Guarded

variable {K : Store σ ν → Prop} (stable : ∀ s s', Keeps s s' → K s → K s') {s : Store σ ν} {name : String}

include stable in
theorem guarded_of_sends {α : Type} {p : Api σ ν α} (sends : p.Satisfies LeavesSandboxes fun _ => True) (known : K s) :
    Guarded name (fun s _ => K s) s p :=
  sends.guarantees (poolSafe_of_leaves name) (fun s s' moved => stable s s' (keeps_of_answered moved)) known

include stable in
theorem getPool_guarded (known : K s) :
    Guarded name (fun s r => K s ∧ ∀ p, r = .ok p → p ∈ s.poolHistory ∧ p.pool.name = name) s
      (request (Call.getPool name)) := by
  refine guarantees_request (Call.getPool name) fun s' moved inv => ?_
  refine ⟨trivial, fun a => ⟨stable _ _ (keeps_of_answered moved) known, fun p read => ?_⟩⟩
  rcases Claim.Adoption.Store.read_eq_ok read with found | kept
  · exact ⟨inv.pools_kept p (Store.pool?_eq_some found).2, (Store.pool?_eq_some found).1⟩
  · obtain ⟨kept, named⟩ := List.mem_filter.mp kept
    exact ⟨kept, by simpa using named⟩

include stable in
theorem listSandboxes_guarded (poolNameHash : String) (known : K s) :
    Guarded name (fun s r => K s ∧ ∀ l, r = .ok l → ∀ sb ∈ l, sb ∈ s.sandboxHistory ∧ inPool poolNameHash sb = true) s
      (request (Call.listSandboxes poolNameHash)) := by
  refine guarantees_request (Call.listSandboxes poolNameHash) fun s' moved inv => ?_
  refine ⟨trivial, fun a => ⟨stable _ _ (keeps_of_answered moved) known, fun l listed sb member => ?_⟩⟩
  change s'.listSandboxes poolNameHash a = .ok l at listed
  cases a with
  | latest =>
      cases listed
      obtain ⟨stored, indexed⟩ := List.mem_filter.mp member
      exact ⟨inv.sandboxes_kept sb stored, indexed⟩
  | cached age =>
      simp only [Store.listSandboxes] at listed
      split at listed
      · rename_i snapshot taken
        cases listed
        obtain ⟨stored, indexed⟩ := List.mem_filter.mp member
        exact ⟨inv.snapshots_kept snapshot (List.mem_of_getElem? taken) sb stored, indexed⟩
      · cases listed
  | fail err => cases listed

include stable in
/-- The Update of a listed member, changed in its owner references or labels only: where it
applies, it replaces that version; where it succeeds, it stores the object sent. -/
theorem updateSandbox_guarded {warmPool : WarmPoolObject} (listed sb : PoolMember σ ν)
    (same : sb.resourceVersion = listed.resourceVersion) (poolKept : warmPool ∈ s.poolHistory)
    (member : Member warmPool s listed) (known : K s) :
    Guarded warmPool.pool.name (fun s r => K s ∧ ∀ updated, r = .ok updated →
        updated ∈ s.sandboxHistory ∧ updated = { sb with resourceVersion := updated.resourceVersion }) s
      (request (Call.updateSandbox sb)) := by
  refine guarantees_request (Call.updateSandbox sb) fun s' moved inv => ⟨fun current stored admits => ?_,
    fun a => ⟨stable _ _ ((keeps_of_answered moved).trans (keeps_answer s' _ a)) known,
      fun _ ok => answer_updateSandbox_ok ok⟩⟩
  have keeps := keeps_of_answered moved
  -- the stored version that carries the listed version's `resourceVersion` is the listed version
  have identical : current = listed :=
    List.inj_on_of_nodup_map inv.distinct (inv.sandboxes_kept current (Store.sandbox?_eq_some stored).2)
      (keeps.2 _ member.1) (admits.trans same)
  subst identical
  exact ⟨warmPool, keeps.1 _ poolKept, rfl, member.keeps keeps⟩

include stable in
theorem deleteSandbox_guarded {warmPool : WarmPoolObject} (sb : PoolMember σ ν) (poolKept : warmPool ∈ s.poolHistory)
    (member : Member warmPool s sb) (known : K s) :
    Guarded warmPool.pool.name (fun s _ => K s) s (request (Call.deleteSandbox sb)) :=
  guarantees_request (Call.deleteSandbox sb) fun s' moved _ =>
    ⟨⟨warmPool, (keeps_of_answered moved).1 _ poolKept, rfl, member.keeps (keeps_of_answered moved)⟩,
      fun a => stable _ _ ((keeps_of_answered moved).trans (keeps_answer s' _ a)) known⟩

variable {fn : Nat → Api σ ν (Except String Unit)} (each : ∀ i s, K s → Guarded name (fun s _ => K s) s (fn i))

include each in
theorem runBatch_guarded (indices : List Nat) (batchSuccesses : Nat) (firstErr : Option String) (known : K s) :
    Guarded name (fun s _ => K s) s (Reconciler.runBatch fn indices batchSuccesses firstErr) := by
  induction indices generalizing s batchSuccesses firstErr with
  | nil => exact guarantees_pure known
  | cons index indices ih =>
      rw [Reconciler.runBatch]
      refine (each index s known).bind fun s' res known => ?_
      split
      · exact ih _ _ known
      · exact ih _ _ known

include each in
theorem slowStartLoop_guarded (successes remaining nextSize : Nat) (known : K s) :
    Guarded name (fun s _ => K s) s (Reconciler.slowStartLoop fn successes remaining nextSize) := by
  induction remaining using Nat.strong_induction_on generalizing s successes nextSize with
  | _ remaining ih =>
    rw [Reconciler.slowStartLoop]
    split
    · rename_i started
      refine (runBatch_guarded each _ 0 none known).bind fun s' batch known => ?_
      split
      · exact guarantees_pure known
      · exact ih _ (by omega) _ _ known
    · exact guarantees_pure known

end Guarded

/-! ## The reconcile's requests -/

/-- The pool was read, and each of `activeSandboxes` is a member of it. -/
def Holds (warmPool : WarmPoolObject) (activeSandboxes : List (PoolMember σ ν)) (s : Store σ ν) : Prop :=
  warmPool ∈ s.poolHistory ∧ ∀ sb ∈ activeSandboxes, Member warmPool s sb

theorem Holds.stable (warmPool : WarmPoolObject) (activeSandboxes : List (PoolMember σ ν)) :
    ∀ s s', Keeps s s' → Holds warmPool activeSandboxes s → Holds warmPool activeSandboxes s' :=
  fun _ _ keeps holds => ⟨keeps.1 _ holds.1, fun sb active => (holds.2 sb active).keeps keeps⟩

theorem Holds.nil {warmPool : WarmPoolObject} {s : Store σ ν} (read : warmPool ∈ s.poolHistory) :
    Holds warmPool ([] : List (PoolMember σ ν)) s :=
  ⟨read, fun _ absent => by cases absent⟩

theorem Holds.append {warmPool : WarmPoolObject} {activeSandboxes : List (PoolMember σ ν)} {s : Store σ ν}
    (holds : Holds warmPool activeSandboxes s) {sb : PoolMember σ ν} (member : Member warmPool s sb) :
    Holds warmPool (activeSandboxes ++ [sb]) s := by
  refine ⟨holds.1, fun x active => ?_⟩
  rcases List.mem_append.mp active with before | now
  · exact holds.2 x before
  · rw [List.mem_singleton.mp now]
    exact member

/-- What a reconcile knows while it goes through its list: the pool and the active Sandboxes so
far, and of the listed ones still to go, that they are kept and in the pool's index. -/
def Knows (warmPool : WarmPoolObject) (sandboxes activeSandboxes : List (PoolMember σ ν)) (s : Store σ ν) : Prop :=
  Holds warmPool activeSandboxes s ∧ ∀ sb ∈ sandboxes, sb ∈ s.sandboxHistory ∧ inPool (NameHash warmPool.pool.name) sb = true

theorem Knows.stable (warmPool : WarmPoolObject) (sandboxes activeSandboxes : List (PoolMember σ ν)) :
    ∀ s s', Keeps s s' → Knows warmPool sandboxes activeSandboxes s → Knows warmPool sandboxes activeSandboxes s' :=
  fun s s' keeps knows => ⟨Holds.stable warmPool activeSandboxes s s' keeps knows.1,
    fun sb listed => ⟨keeps.2 _ (knows.2 sb listed).1, (knows.2 sb listed).2⟩⟩

theorem Knows.tail {warmPool : WarmPoolObject} {sb : PoolMember σ ν} {sandboxes activeSandboxes : List (PoolMember σ ν)}
    {s : Store σ ν} (knows : Knows warmPool (sb :: sandboxes) activeSandboxes s) : Knows warmPool sandboxes activeSandboxes s :=
  ⟨knows.1, fun x listed => knows.2 x (List.mem_cons_of_mem sb listed)⟩

theorem all_of_owner_check {ref : Option Claim.Adoption.OwnerRef} {uid : String}
    (ownedOrOrphan : ¬(!ref.isNone && !ref.any (·.uid == uid)) = true) : ref.all (·.uid == uid) = true := by
  cases ref with
  | none => rfl
  | some ref => simpa using ownedOrOrphan

theorem controllerRef_eq_none {sb : PoolMember σ ν} {uid : String}
    (ownedOrOrphan : ¬(!sb.controllerRef.isNone && !sb.controllerRef.any (·.uid == uid)) = true)
    (notControlled : ¬sb.controllerRef.any (·.uid == uid) = true) : sb.controllerRef = none := by
  cases ref : sb.controllerRef with
  | none => rfl
  | some ref' =>
      rw [ref] at ownedOrOrphan notControlled
      simp_all

theorem inPool_setWarmLaunchTypeLabelIfNeeded (poolNameHash : String) (sb : PoolMember σ ν) :
    inPool poolNameHash { sb with labels := (setWarmLaunchTypeLabelIfNeeded sb.labels).2 } = inPool poolNameHash sb := by
  unfold inPool
  rw [lookup_setWarmLaunchTypeLabelIfNeeded_of_ne _ (by decide)]

section Guaranteed

variable (r : Reconciler σ ν)

theorem getTemplate_sends (warmPool : WarmPoolObject) :
    (r.getTemplate warmPool).Satisfies LeavesSandboxes fun _ => True := by
  refine bind_satisfies (request_sends (.getTemplate _) rfl) fun res _ => ?_
  rcases res with err | template
  · cases err
    all_goals exact pure_satisfies trivial
  · exact pure_satisfies trivial

theorem fetchTemplateAndHash_sends (warmPool : WarmPoolObject) :
    (r.fetchTemplateAndHash warmPool).Satisfies LeavesSandboxes fun _ => True := by
  refine bind_satisfies (getTemplate_sends r warmPool) fun fetched _ => ?_
  split
  · exact pure_satisfies trivial
  · split
    · exact pure_satisfies trivial
    · split
      · exact pure_satisfies trivial
      · exact pure_satisfies trivial

theorem createPoolSandbox_sends (sandboxCR : PoolMember σ ν) :
    (Reconciler.createPoolSandbox sandboxCR).Satisfies LeavesSandboxes fun _ => True := by
  refine bind_satisfies (request_sends (.createSandbox _) rfl) fun res _ => ?_
  split
  · exact pure_satisfies trivial
  · exact pure_satisfies trivial

theorem updateStatus_sends (oldStatus : PoolStatus) (warmPool : WarmPoolObject) :
    (Reconciler.updateStatus oldStatus warmPool : Api σ ν _).Satisfies LeavesSandboxes fun _ => True := by
  unfold Reconciler.updateStatus
  split
  · exact pure_satisfies trivial
  · refine bind_satisfies (request_sends (.patchPoolStatus _ _) rfl) fun res _ => ?_
    split
    · exact pure_satisfies trivial
    · exact pure_satisfies trivial

theorem deletePoolSandbox_guarded {warmPool : WarmPoolObject} {activeSandboxes : List (PoolMember σ ν)}
    {s : Store σ ν} (holds : Holds warmPool activeSandboxes s) {sb : PoolMember σ ν} (active : sb ∈ activeSandboxes) :
    Guarded warmPool.pool.name (fun s _ => Holds warmPool activeSandboxes s) s (Reconciler.deletePoolSandbox sb) := by
  refine (deleteSandbox_guarded (Holds.stable warmPool activeSandboxes) sb holds.1 (holds.2 sb active) holds).bind
    fun s' res holds => ?_
  split
  · exact guarantees_pure holds
  · exact guarantees_pure holds
  · exact guarantees_pure holds

theorem deleteStuck_guarded (now : Nat) {warmPool : WarmPoolObject} (activeSandboxes : List (PoolMember σ ν)) :
    ∀ (healthySandboxes : List (PoolMember σ ν)) (allErrors : List String) (s : Store σ ν),
      Holds warmPool activeSandboxes s → Holds warmPool healthySandboxes s →
      Guarded warmPool.pool.name (fun s result => Holds warmPool result.1 s) s
        (Reconciler.deleteStuck now activeSandboxes healthySandboxes allErrors) := by
  induction activeSandboxes with
  | nil => exact fun _ _ _ _ healthy => guarantees_pure healthy
  | cons sb activeSandboxes ih =>
      intro healthySandboxes allErrors s holds healthy
      have rest : Holds warmPool activeSandboxes s :=
        ⟨holds.1, fun x active => holds.2 x (List.mem_cons_of_mem sb active)⟩
      rw [Reconciler.deleteStuck]
      split
      · -- the rest and the healthy ones so far are carried across the Delete
        have both : Holds warmPool (activeSandboxes ++ healthySandboxes) s :=
          ⟨holds.1, fun x mem => (List.mem_append.mp mem).elim (rest.2 x) (healthy.2 x)⟩
        refine (deleteSandbox_guarded (Holds.stable warmPool _) sb holds.1 (holds.2 sb List.mem_cons_self) both).bind
          fun s' res both => ?_
        have rest' : Holds warmPool activeSandboxes s' := ⟨both.1, fun x mem => both.2 x (List.mem_append_left _ mem)⟩
        have healthy' : Holds warmPool healthySandboxes s' :=
          ⟨both.1, fun x mem => both.2 x (List.mem_append_right _ mem)⟩
        split
        · exact ih _ _ s' rest' healthy'
        · exact ih _ _ s' rest' healthy'
      · exact ih _ _ s rest (healthy.append (holds.2 sb List.mem_cons_self))

theorem createNewSandboxes_guarded {K : Store σ ν → Prop} (stable : ∀ s s', Keeps s s' → K s → K s') {name : String}
    (warmPool : WarmPoolObject) (poolNameHash : String)
    (fetched : Except (TemplateError × String) (SandboxTemplate σ ν × String × String))
    (desiredReplicas currentReplicas maxBatchSize : Int) {s : Store σ ν} (known : K s) :
    Guarded name (fun s _ => K s) s (r.createNewSandboxes warmPool poolNameHash fetched desiredReplicas currentReplicas maxBatchSize) := by
  unfold Reconciler.createNewSandboxes
  split
  · split
    · dsimp only
      split
      · exact guarantees_pure known
      · refine (slowStartLoop_guarded (fun _ _ known => guarded_of_sends stable (createPoolSandbox_sends _) known)
          _ _ _ known).bind fun _ _ known => guarantees_pure known
    · exact guarantees_pure known
  · exact guarantees_pure known

theorem deleteExcessSandboxes_guarded {warmPool : WarmPoolObject} (activeSandboxes : List (PoolMember σ ν))
    (desiredReplicas currentReplicas maxBatchSize : Int) {s : Store σ ν} (holds : Holds warmPool activeSandboxes s) :
    Guarded warmPool.pool.name (fun _ _ => True) s
      (Reconciler.deleteExcessSandboxes activeSandboxes desiredReplicas currentReplicas maxBatchSize) := by
  unfold Reconciler.deleteExcessSandboxes
  split
  · refine (slowStartLoop_guarded (fun idx s holds => ?_) _ _ _ holds).bind
      fun _ _ _ => guarantees_pure trivial
    split
    · rename_i sb taken
      have sorted := List.mem_of_getElem? taken
      exact deletePoolSandbox_guarded holds (List.mem_mergeSort.mp sorted)
    · exact guarantees_pure holds
  · exact guarantees_pure trivial

theorem adoptSandbox_guarded {warmPool : WarmPoolObject} {sb : PoolMember σ ν}
    {sandboxes activeSandboxes : List (PoolMember σ ν)} {s : Store σ ν} (orphan : sb.controllerRef = none)
    (live : sb.deleting = false) (knows : Knows warmPool (sb :: sandboxes) activeSandboxes s) :
    Guarded warmPool.pool.name (fun s res => Knows warmPool sandboxes activeSandboxes s ∧ ∀ adopted, res = .ok adopted →
      Member warmPool s adopted) s (r.adoptSandbox warmPool sb) := by
  unfold Reconciler.adoptSandbox
  split
  · exact guarantees_pure ⟨knows.tail, fun _ absent => by cases absent⟩
  · rename_i owners set
    have listed := knows.2 sb List.mem_cons_self
    obtain ⟨ref, controller, pool⟩ := setControllerReference_of_orphan r.apiGroupOf orphan set
    refine (updateSandbox_guarded (Knows.stable warmPool sandboxes activeSandboxes) sb
      { sb with ownerReferences := owners, labels := (setWarmLaunchTypeLabelIfNeeded sb.labels).2 } rfl
      knows.1.1 ⟨listed.1, listed.2, live, by rw [orphan]; rfl⟩ knows.tail).bind fun s' res post => ?_
    obtain ⟨known, updated⟩ := post
    rcases res with err | adopted
    · exact guarantees_pure ⟨known, fun _ absent => by cases absent⟩
    · obtain ⟨stored, same⟩ := updated adopted rfl
      refine guarantees_pure ⟨known, fun x ok => ?_⟩
      cases ok
      refine member_of_updated stored same ?_ live ?_
      · exact (inPool_setWarmLaunchTypeLabelIfNeeded _ sb).trans listed.2
      · change (Claim.Adoption.getControllerOf owners).all (·.uid == warmPool.uid) = true
        rw [controller, Option.all_some, pool, beq_self_eq_true]

/-- The loop deletes and updates only listed members, and what it keeps are members; induction
on the list, with what the reconcile knows carried across each request. -/
theorem filterActiveSandboxesWith_guarded (isStale : Option (PoolMember σ ν → Memo → Bool × Memo))
    (warmPool : WarmPoolObject) (sandboxes : List (PoolMember σ ν)) :
    ∀ (activeSandboxes : List (PoolMember σ ν)) (allErrors : List String) (vettedHashes : Memo) (s : Store σ ν),
      Knows warmPool sandboxes activeSandboxes s →
      Guarded warmPool.pool.name (fun s result => Holds warmPool result.1 s) s
        (r.filterActiveSandboxesWith isStale warmPool sandboxes activeSandboxes allErrors vettedHashes) := by
  induction sandboxes with
  | nil => exact fun _ _ _ _ knows => guarantees_pure knows.1
  | cons sb sandboxes ih =>
    intro activeSandboxes allErrors vettedHashes s knows
    have listed := knows.2 sb List.mem_cons_self
    rw [Reconciler.filterActiveSandboxesWith]
    split
    · exact ih _ _ _ s knows.tail
    · rename_i alive
      have live : sb.deleting = false := by simpa using alive
      dsimp only
      split
      · exact ih _ _ _ s knows.tail
      · rename_i ownedOrOrphan
        have member : Member warmPool s sb := ⟨listed.1, listed.2, live, all_of_owner_check ownedOrOrphan⟩
        -- whatever the check says, the loop goes on with the rest
        generalize Reconciler.checkStale isStale warmPool sb vettedHashes = checked
        split
        · -- a stale Sandbox is deleted
          refine (deleteSandbox_guarded (Knows.stable warmPool sandboxes activeSandboxes) sb knows.1.1 member
            knows.tail).bind fun s' res known => ?_
          split
          · exact ih _ _ _ s' known
          · exact ih _ _ _ s' known
        · split
          · -- the pool's: its launch type is set
            split
            · refine (updateSandbox_guarded (Knows.stable warmPool sandboxes activeSandboxes) sb
                { sb with labels := (setWarmLaunchTypeLabelIfNeeded sb.labels).2 } rfl knows.1.1 member
                knows.tail).bind fun s' res post => ?_
              obtain ⟨known, updated⟩ := post
              rcases res with err | labelled
              · exact ih _ _ _ s' known
              · obtain ⟨stored, same⟩ := updated labelled rfl
                refine ih _ _ _ s' ⟨known.1.append ?_, known.2⟩
                exact member_of_updated stored same ((inPool_setWarmLaunchTypeLabelIfNeeded _ sb).trans listed.2)
                  live member.2.2.2
            · exact ih _ _ _ s ⟨knows.1.append member, knows.tail.2⟩
          · -- an orphan is adopted
            rename_i notControlled
            refine (adoptSandbox_guarded r (controllerRef_eq_none ownedOrOrphan notControlled) live knows).bind
              fun s' res post => ?_
            obtain ⟨known, adopted⟩ := post
            split
            · exact ih _ _ _ s' ⟨known.1.append (adopted _ rfl), known.2⟩
            · exact ih _ _ _ s' known

theorem reconcilePool_guarded (now : Nat) (warmPool : WarmPoolObject) {s : Store σ ν} (known : warmPool ∈ s.poolHistory) :
    Guarded warmPool.pool.name (fun _ _ => True) s (r.reconcilePool now warmPool) := by
  unfold Reconciler.reconcilePool
  dsimp only
  refine (listSandboxes_guarded (fun _ _ keeps kept => keeps.1 warmPool kept) _ known).bind fun s res post => ?_
  obtain ⟨known, listed⟩ := post
  rcases res with err | sandboxList
  · exact guarantees_pure trivial
  · have knows : Knows warmPool sandboxList [] s := ⟨Holds.nil known, listed sandboxList rfl⟩
    refine (guarded_of_sends (Knows.stable warmPool sandboxList []) (fetchTemplateAndHash_sends r warmPool) knows).bind
      fun s fetched knows => ?_
    refine (filterActiveSandboxesWith_guarded r _ warmPool sandboxList [] [] _ s knows).bind fun s filtered holds => ?_
    refine (deleteStuck_guarded now _ [] _ s holds (Holds.nil holds.1)).bind fun s healthy holds => ?_
    refine (createNewSandboxes_guarded r (Holds.stable warmPool healthy.1) _ _ fetched _ _ _ holds).bind
      fun s _ holds => ?_
    exact (deleteExcessSandboxes_guarded _ _ _ _ holds).bind fun _ _ _ => guarantees_pure trivial

theorem reconcile_guarded (now : Nat) (name : String) (s : Store σ ν) :
    Guarded name (fun _ _ => True) s (r.reconcile now name) := by
  unfold Reconciler.reconcile
  refine (getPool_guarded (fun _ _ _ _ => trivial) trivial).bind fun s res post => ?_
  obtain ⟨_, read⟩ := post
  rcases res with err | warmPool
  · cases err
    all_goals exact guarantees_pure trivial
  · dsimp only
    split
    · exact guarantees_pure trivial
    · obtain ⟨kept, named⟩ := read warmPool rfl
      subst named
      refine (reconcilePool_guarded r now warmPool kept).bind fun s reconciled _ => ?_
      split
      · exact guarded_of_sends (fun _ _ _ _ => trivial) (updateStatus_sends _ _) trivial
      · exact guarantees_pure trivial

theorem reconcileHandler_guarded (now : Nat) (name : String) (s : Store σ ν) :
    Guarded name (fun _ _ => True) s (r.reconcileHandler now name) :=
  (reconcile_guarded r now name s).bind fun _ _ _ => guarantees_pure trivial

end Guaranteed

/-! ## Every interleaving

Workers reconciling pools run beside any other clients (a claim adopting a warm Sandbox, a user
deleting one), answered from any informer age.  The pool's Updates carry the listed
`resourceVersion`, so one that applies replaces exactly the version the pool listed: a live
member of the pool that was an orphan or the pool's own.  A Sandbox a claim took over in the
meantime has a newer version, and the Update fails with a conflict. -/

/-- The next request of a worker reconciling the pool `name`, in any run from idle threads and a
versioned store, is safe for that pool in the state it meets.  The threads watched are the workers
of `name`; every other thread, a worker of another pool included, is one of the other clients. -/
theorem pending_poolSafe {ι : Type} [DecidableEq ι] (r : Reconciler σ ν) (program : ι → Api σ ν Unit)
    (S : System ι (Store σ ν) (Call σ ν) Call.Response) (idle : ∀ i, S.threads i = none) (versioned : Versioned S.state)
    (events : List (Event ι Answer)) {i : ι} {now : Nat} {name : String}
    (worker : program i = r.reconcileHandler now name) {c : Call σ ν}
    (next : (S.run program Store.answer events).pending i = some c) :
    PoolSafe name (S.run program Store.answer events).state c := by
  have starts : ∀ j, (∃ now', program j = r.reconcileHandler now' name) →
      ∀ s, Guarded name (fun _ _ => True) s (program j) := by
    rintro j ⟨now', running⟩ s
    rw [running]
    exact reconcileHandler_guarded r now' name s
  exact pending_good (fun s c a inv => inv.answer c a) starts S (fun j _ => idle j) versioned events ⟨now, worker⟩ next

theorem update_only_owned {ι : Type} [DecidableEq ι] (r : Reconciler σ ν) (program : ι → Api σ ν Unit)
    (S : System ι (Store σ ν) (Call σ ν) Call.Response) (idle : ∀ i, S.threads i = none) (versioned : Versioned S.state)
    (events : List (Event ι Answer)) {i : ι} {now : Nat} {name : String}
    (worker : program i = r.reconcileHandler now name) {sb : PoolMember σ ν}
    (next : (S.run program Store.answer events).pending i = some (.updateSandbox sb))
    {current : PoolMember σ ν} (stored : (S.run program Store.answer events).state.sandbox? sb.name = some current)
    (admits : current.resourceVersion = sb.resourceVersion) :
    current.deleting = false ∧ ∃ warmPool ∈ (S.run program Store.answer events).state.poolHistory,
      warmPool.pool.name = name ∧ inPool (NameHash warmPool.pool.name) current = true ∧
        current.controllerRef.all (·.uid == warmPool.uid) = true := by
  obtain ⟨warmPool, kept, named, _, indexed, live, owned⟩ :=
    pending_poolSafe r program S idle versioned events worker next current stored admits
  exact ⟨live, warmPool, kept, named, indexed, owned⟩

/-- A member of `python-pool`, controlled by it, created before the launch-type label. -/
def unlabelledMember : PoolMember Unit Unit :=
  ⟨"python-pool-1", 2,
    [⟨"extensions.agents.x-k8s.io/v1beta1", "SandboxWarmPool", "python-pool", "uid-python-pool", true⟩],
    (∅ : StrMap).set SandboxWarmPoolLabel (NameHash "python-pool"), false, [], 1, pythonTemplate.blueprint⟩

def unlabelledStore : Store Unit Unit :=
  ⟨[pythonWarmPool], [pythonWarmPool], [pythonTemplate], [unlabelledMember], [unlabelledMember], [[unlabelledMember]], 2, 5⟩

/-- One worker reconciling `python-pool`, after its reads of the pool, its members and the template. -/
def unlabelledRun : System Unit (Store Unit Unit) (Call Unit Unit) Call.Response :=
  (⟨unlabelledStore, fun _ => none⟩ : System Unit (Store Unit Unit) (Call Unit Unit) Call.Response).run
    (fun _ => defaultReconciler.reconcileHandler 0 "python-pool") Store.answer
    [.start (), .step () .latest, .step () .latest, .step () .latest]

theorem update_only_owned_unlabelledMember :
    unlabelledMember.deleting = false ∧ ∃ warmPool ∈ unlabelledRun.state.poolHistory,
      warmPool.pool.name = "python-pool" ∧ inPool (NameHash warmPool.pool.name) unlabelledMember = true ∧
        unlabelledMember.controllerRef.all (·.uid == warmPool.uid) = true :=
  @update_only_owned Unit Unit Unit _ defaultReconciler (fun _ => defaultReconciler.reconcileHandler 0 "python-pool")
    ⟨unlabelledStore, fun _ => none⟩ (fun _ => rfl)
    ⟨by decide +kernel, by decide +kernel, by decide +kernel, by decide +kernel, by decide +kernel⟩
    [.start (), .step () .latest, .step () .latest, .step () .latest] () 0 "python-pool" rfl
    { unlabelledMember with labels := (setWarmLaunchTypeLabelIfNeeded unlabelledMember.labels).2 } (by decide +kernel)
    unlabelledMember (by decide +kernel) rfl

/-- A Delete is sent by name with no precondition, so it removes whatever is stored under the
name by then; still, the name is one the pool listed as a live member of its index, its own or an
orphan. -/
theorem delete_only_members {ι : Type} [DecidableEq ι] (r : Reconciler σ ν) (program : ι → Api σ ν Unit)
    (S : System ι (Store σ ν) (Call σ ν) Call.Response) (idle : ∀ i, S.threads i = none) (versioned : Versioned S.state)
    (events : List (Event ι Answer)) {i : ι} {now : Nat} {name : String}
    (worker : program i = r.reconcileHandler now name) {sb : PoolMember σ ν}
    (next : (S.run program Store.answer events).pending i = some (.deleteSandbox sb)) :
    sb ∈ (S.run program Store.answer events).state.sandboxHistory ∧ sb.deleting = false ∧
      ∃ warmPool ∈ (S.run program Store.answer events).state.poolHistory, warmPool.pool.name = name ∧
        inPool (NameHash warmPool.pool.name) sb = true ∧ sb.controllerRef.all (·.uid == warmPool.uid) = true := by
  obtain ⟨warmPool, kept, named, stored, indexed, live, owned⟩ :=
    pending_poolSafe r program S idle versioned events worker next
  exact ⟨stored, live, warmPool, kept, named, indexed, owned⟩

/-- A warm member of `python-pool`, controlled by it. -/
def warmMember : PoolMember Unit Unit :=
  ⟨"python-pool-1", 2,
    [⟨"extensions.agents.x-k8s.io/v1beta1", "SandboxWarmPool", "python-pool", "uid-python-pool", true⟩],
    ((∅ : StrMap).set SandboxWarmPoolLabel (NameHash "python-pool")).set Claim.Adoption.SandboxLaunchTypeLabel
      Claim.Adoption.SandboxLaunchTypeWarm, false, [], 1, pythonTemplate.blueprint⟩

/-- The pool scaled down to no replicas, with its one member still stored. -/
def scaledDownStore : Store Unit Unit :=
  ⟨[{ pythonWarmPool with replicas := some 0 }], [{ pythonWarmPool with replicas := some 0 }], [pythonTemplate],
    [warmMember], [warmMember], [[warmMember]], 2, 5⟩

/-- One worker reconciling `python-pool`, after its reads of the pool, its members and the template. -/
def scaledDownRun : System Unit (Store Unit Unit) (Call Unit Unit) Call.Response :=
  (⟨scaledDownStore, fun _ => none⟩ : System Unit (Store Unit Unit) (Call Unit Unit) Call.Response).run
    (fun _ => defaultReconciler.reconcileHandler 0 "python-pool") Store.answer
    [.start (), .step () .latest, .step () .latest, .step () .latest]

theorem delete_only_members_warmMember :
    warmMember ∈ scaledDownRun.state.sandboxHistory ∧ warmMember.deleting = false ∧
      ∃ warmPool ∈ scaledDownRun.state.poolHistory, warmPool.pool.name = "python-pool" ∧
        inPool (NameHash warmPool.pool.name) warmMember = true ∧ warmMember.controllerRef.all (·.uid == warmPool.uid) = true :=
  @delete_only_members Unit Unit Unit _ defaultReconciler (fun _ => defaultReconciler.reconcileHandler 0 "python-pool")
    ⟨scaledDownStore, fun _ => none⟩ (fun _ => rfl)
    ⟨by decide +kernel, by decide +kernel, by decide +kernel, by decide +kernel, by decide +kernel⟩
    [.start (), .step () .latest, .step () .latest, .step () .latest] () 0 "python-pool" rfl warmMember (by decide +kernel)

end AgentSandbox.WarmPool
