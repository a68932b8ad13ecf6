import AgentSandbox.Queue.Refinement

/-! # Concurrent calls on one queue: no double pop

Each critical section of a `synchronizedQueue` is one atomic step: the bodies
of `Push`, `Pop` and `Remove`, and the two sections of `PopWithStrategy`.  An
in-flight `PopWithStrategy` call is a caller with its own pick; between its
snapshot and its verify-and-remove section it runs the pick, which touches no
shared state.  A schedule is any list of calls and caller steps; `step`
refuses a caller step whose caller is not at that point of its loop.

A ghost log records every inserting `Push` and every call that returns a key.
Replaying the log for one namespace and name shows that between two inserting
pushes of a key at most one call returns it. -/

set_option autoImplicit false

namespace AgentSandbox.Queue

open SynchronizedQueue

/-- Where an in-flight `PopWithStrategy` call stands. -/
inductive CallerPhase
  | ready
  | snapshotted (items : List SandboxKey)
  | picked (key : SandboxKey)
  | finished (result : SandboxKey × Bool)

/-- An in-flight `PopWithStrategy` call and the pick it was given. -/
structure Caller where
  pick : List SandboxKey → SandboxKey × Bool
  phase : CallerPhase

/-- The ghost events: a `Push` that inserted a new key, and a `Pop` or
`PopWithStrategy` that returned a key. -/
inductive QueueEvent
  | inserted (key : SandboxKey)
  | returned (key : SandboxKey)

def QueueEvent.key : QueueEvent → SandboxKey
  | .inserted key => key
  | .returned key => key

/-- One queue, the in-flight `PopWithStrategy` callers and the ghost log. -/
structure QueueSystem where
  queue : SynchronizedQueue
  callers : List Caller
  log : List QueueEvent

def QueueSystem.initial : QueueSystem := ⟨newSynchronizedQueue, [], []⟩

/-- One atomic step of the schedule. -/
inductive QueueCall
  | push (key : SandboxKey)
  | pop
  | remove (key : SandboxKey)
  | startPopWithStrategy (pick : List SandboxKey → SandboxKey × Bool)
  | snapshot (caller : Nat)
  | pick (caller : Nat)
  | verifyAndRemove (caller : Nat)

namespace QueueSystem

/-- Move one caller to a new phase. -/
def setPhase (S : QueueSystem) (i : Nat) (c : Caller) (phase : CallerPhase) : QueueSystem :=
  { S with callers := S.callers.set i ⟨c.pick, phase⟩ }

/-- Run one step; `none` when a caller step names a caller that is not at
that point of its loop. -/
def step (S : QueueSystem) : QueueCall → Option QueueSystem
  | .push key =>
      some { S with
        queue := S.queue.push key
        log := S.log ++ if uniqueID key ∉ S.queue.set then [.inserted key] else [] }
  | .pop =>
      some { S with
        queue := S.queue.pop.2
        log := S.log ++ if S.queue.pop.1.2 then [.returned S.queue.pop.1.1] else [] }
  | .remove key => some { S with queue := S.queue.remove key }
  | .startPopWithStrategy pick => some { S with callers := S.callers ++ [⟨pick, .ready⟩] }
  | .snapshot i =>
      match S.callers[i]? with
      | some ⟨pick, .ready⟩ =>
          some (S.setPhase i ⟨pick, .ready⟩
            (match S.queue.snapshot with
              | none => .finished (SandboxKey.zero, false)
              | some items => .snapshotted items))
      | _ => none
  | .pick i =>
      match S.callers[i]? with
      | some ⟨pick, .snapshotted items⟩ =>
          some (S.setPhase i ⟨pick, .snapshotted items⟩
            (if (pick items).2 then .picked (pick items).1
              else .finished (SandboxKey.zero, false)))
      | _ => none
  | .verifyAndRemove i =>
      match S.callers[i]? with
      | some ⟨pick, .picked key⟩ =>
          match S.queue.verifyAndRemove key with
          | none => some (S.setPhase i ⟨pick, .picked key⟩ .ready)
          | some next =>
              some { S.setPhase i ⟨pick, .picked key⟩ (.finished (key, true)) with
                queue := next
                log := S.log ++ [.returned key] }
      | _ => none

/-- Run a schedule. -/
def runCalls : List QueueCall → QueueSystem → Option QueueSystem
  | [], S => some S
  | call :: rest, S =>
      match S.step call with
      | none => none
      | some next => runCalls rest next

end QueueSystem

/-! ## Replaying the ghost log -/

/-- Replay the events of one namespace and name, starting with `pending`
(an insert waiting for its pop): `none` when a key is returned with no insert
waiting. -/
def replay (id : String × String) : Bool → List QueueEvent → Option Bool
  | pending, [] => some pending
  | pending, .inserted key :: rest =>
      if keyOf key = id then replay id true rest else replay id pending rest
  | pending, .returned key :: rest =>
      if keyOf key = id then (if pending then replay id false rest else none)
      else replay id pending rest

/-- Each inserting `Push` of a key is matched by at most one call returning
that key before the next inserting `Push` of it, and no call returns a key
that was never inserted. -/
def AtMostOnePopPerInsert (log : List QueueEvent) : Prop :=
  ∀ id, replay id false log ≠ none

theorem replay_append (id : String × String) :
    ∀ (pending : Bool) (log more : List QueueEvent),
      replay id pending (log ++ more) = (replay id pending log).bind (replay id · more)
  | pending, [], more => rfl
  | pending, .inserted key :: rest, more => by
      by_cases hit : keyOf key = id <;> simp [replay, hit, replay_append id _ rest more]
  | pending, .returned key :: rest, more => by
      by_cases hit : keyOf key = id
      · cases pending <;> simp [replay, hit, replay_append id _ rest more]
      · simp [replay, hit, replay_append id _ rest more]

/-- The ghost log agrees with the queue: every replay succeeds, and a key
that is queued has an insert waiting for its pop. -/
def Ghost (log : List QueueEvent) (items : List SandboxKey) : Prop :=
  ∀ id, ∃ pending, replay id false log = some pending ∧
    (id ∈ items.map keyOf → pending = true)

namespace Ghost

variable {log : List QueueEvent} {items items' : List SandboxKey}

theorem initial : Ghost [] [] := fun _ => ⟨false, rfl, by simp⟩

theorem mono (ghost : Ghost log items)
    (smaller : ∀ id, id ∈ items'.map keyOf → id ∈ items.map keyOf) :
    Ghost log items' := by
  intro id
  obtain ⟨pending, replayed, waiting⟩ := ghost id
  exact ⟨pending, replayed, fun member => waiting (smaller id member)⟩

theorem inserted (ghost : Ghost log items) {key : SandboxKey}
    (grown : ∀ id, id ∈ items'.map keyOf → id = keyOf key ∨ id ∈ items.map keyOf) :
    Ghost (log ++ [.inserted key]) items' := by
  intro id
  obtain ⟨pending, replayed, waiting⟩ := ghost id
  by_cases hit : keyOf key = id
  · refine ⟨true, ?_, fun _ => rfl⟩
    simp [replay_append, replayed, replay, hit]
  · refine ⟨pending, by simp [replay_append, replayed, replay, hit], fun member => ?_⟩
    rcases grown id member with same | old
    · exact absurd same.symm hit
    · exact waiting old

theorem returned (ghost : Ghost log items) {key : SandboxKey}
    (present : keyOf key ∈ items.map keyOf)
    (taken : ∀ id, id ∈ items'.map keyOf → id ≠ keyOf key ∧ id ∈ items.map keyOf) :
    Ghost (log ++ [.returned key]) items' := by
  intro id
  obtain ⟨pending, replayed, waiting⟩ := ghost id
  by_cases hit : keyOf key = id
  · have waited : pending = true := waiting (hit ▸ present)
    refine ⟨false, by simp [replay_append, replayed, replay, hit, waited], ?_⟩
    intro member
    exact absurd hit.symm (taken id member).1
  · refine ⟨pending, by simp [replay_append, replayed, replay, hit], fun member => ?_⟩
    exact waiting (taken id member).2

theorem atMostOnePopPerInsert (ghost : Ghost log items) : AtMostOnePopPerInsert log := by
  intro id
  obtain ⟨pending, replayed, _⟩ := ghost id
  rw [replayed]
  exact Option.some_ne_none pending

end Ghost

/-- Shown `/`-free keys, the pick chooses a `/`-free key: a key of some
Kubernetes object, not necessarily one it was shown. -/
def PickSlashFree (pick : List SandboxKey → SandboxKey × Bool) : Prop :=
  ∀ items, (∀ k ∈ items, SlashFree k) → (pick items).2 = true → SlashFree (pick items).1

theorem SynchronizedQueue.PickInArgument.pickSlashFree {pick : List SandboxKey → SandboxKey × Bool}
    (picks : PickInArgument pick) : PickSlashFree pick :=
  fun items free chosen => free _ (picks items chosen)

/-- The keys a caller holds are `/`-free, and so are the keys its pick
chooses. -/
def CallerSound (c : Caller) : Prop :=
  PickSlashFree c.pick ∧
    match c.phase with
    | .snapshotted items => ∀ k ∈ items, SlashFree k
    | .picked key => SlashFree key
    | _ => True

/-- The schedule's atomic steps as the controller issues them: every key,
pushed, removed or picked, is the key of a Kubernetes object. -/
def QueueCall.Admissible : QueueCall → Prop
  | .push key => SlashFree key
  | .remove key => SlashFree key
  | .startPopWithStrategy choose => PickSlashFree choose
  | _ => True

/-- The invariant of the concurrent system. -/
structure SystemInv (S : QueueSystem) : Prop where
  valid : S.queue.Valid
  callers : ∀ c ∈ S.callers, CallerSound c
  ghost : Ghost S.log S.queue.items

theorem SystemInv.initial : SystemInv QueueSystem.initial :=
  ⟨valid_new, by simp [QueueSystem.initial], Ghost.initial⟩

theorem callers_setPhase {S : QueueSystem} {i : Nat} {c : Caller} {phase : CallerPhase}
    (sound : ∀ c ∈ S.callers, CallerSound c)
    (phaseSound : CallerSound ⟨c.pick, phase⟩) :
    ∀ c' ∈ (S.setPhase i c phase).callers, CallerSound c' := by
  intro c' member
  rcases List.mem_or_eq_of_mem_set member with old | new
  · exact sound c' old
  · exact new ▸ phaseSound

theorem caller_sound_of_get {S : QueueSystem} {i : Nat} {c : Caller}
    (sound : ∀ c ∈ S.callers, CallerSound c) (found : S.callers[i]? = some c) :
    CallerSound c :=
  sound c (List.mem_of_getElem? found)

theorem step_inv {S S' : QueueSystem} {call : QueueCall} (inv : SystemInv S)
    (admissible : call.Admissible) (stepped : S.step call = some S') : SystemInv S' := by
  obtain ⟨valid, sound, ghost⟩ := inv
  cases call with
  | push key =>
      cases stepped
      obtain ⟨pushed, items⟩ := push_spec valid admissible
      refine ⟨pushed, sound, ?_⟩
      by_cases present : keyOf key ∈ S.queue.items.map keyOf
      · have inSet : uniqueID key ∈ S.queue.set := (mem_set_iff valid admissible).mpr present
        simp only [inSet, not_true_eq_false, if_false, List.append_nil]
        apply ghost.mono
        intro id member
        rwa [items, map_key_pushEntry, if_pos present] at member
      · have notInSet : uniqueID key ∉ S.queue.set := fun member =>
          present ((mem_set_iff valid admissible).mp member)
        simp only [notInSet, not_false_eq_true, if_true]
        apply ghost.inserted
        intro id member
        rw [items, map_key_pushEntry, if_neg present, List.mem_append,
          List.mem_singleton] at member
        exact member.symm
  | pop =>
      cases stepped
      obtain ⟨popped, items, result⟩ := pop_spec valid
      refine ⟨popped, sound, ?_⟩
      cases queued : S.queue.items with
      | nil =>
          rw [queued] at result items
          have quiet : S.queue.pop.1.2 = false := by simp [result]
          simp only [quiet, Bool.false_eq_true, if_false, List.append_nil]
          apply ghost.mono
          intro id member
          rw [items] at member
          simp at member
      | cons item rest =>
          rw [queued] at result items
          have answered : S.queue.pop.1 = (item, true) := by simp [result]
          simp only [answered, if_true]
          have distinct := valid.keys_nodup
          rw [queued, List.map_cons, List.nodup_cons] at distinct
          apply ghost.returned (by simp [queued])
          intro id member
          rw [items, List.tail_cons] at member
          refine ⟨fun same => distinct.1 (same ▸ member), ?_⟩
          simp [queued, member]
  | remove key =>
      cases stepped
      obtain ⟨removed, items⟩ := remove_spec valid admissible
      refine ⟨removed, sound, ghost.mono fun id member => ?_⟩
      rw [items] at member
      exact ((mem_map_key_dropKey keyOf).mp member).2
  | startPopWithStrategy choose =>
      cases stepped
      refine ⟨valid, ?_, ghost⟩
      intro c member
      rcases List.mem_append.mp member with old | new
      · exact sound c old
      · rw [List.mem_singleton.mp new]
        exact ⟨admissible, trivial⟩
  | snapshot i =>
      simp only [QueueSystem.step] at stepped
      split at stepped
      · rename_i choose found
        cases stepped
        have pickSound := (caller_sound_of_get sound found).1
        refine ⟨valid, callers_setPhase sound ⟨pickSound, ?_⟩, ghost⟩
        cases taken : S.queue.snapshot with
        | none => trivial
        | some items =>
            simp only [snapshot] at taken
            split at taken
            · cases taken
            · cases taken
              exact valid.slashFree
      · cases stepped
  | pick i =>
      simp only [QueueSystem.step] at stepped
      split at stepped
      · rename_i choose items found
        cases stepped
        obtain ⟨pickSound, itemsSound⟩ := caller_sound_of_get sound found
        refine ⟨valid, callers_setPhase sound ⟨pickSound, ?_⟩, ghost⟩
        by_cases chosen : (choose items).2 = true
        · simp only [chosen, if_true]
          exact pickSound items itemsSound chosen
        · simp [chosen]
      · cases stepped
  | verifyAndRemove i =>
      simp only [QueueSystem.step] at stepped
      split at stepped
      · rename_i choose key found
        obtain ⟨pickSound, free⟩ := caller_sound_of_get sound found
        have verified := verifyAndRemove_eq valid free
        by_cases present : keyOf key ∈ S.queue.items.map keyOf
        · rw [if_pos present] at verified
          simp only [verified] at stepped
          cases stepped
          obtain ⟨removed, items⟩ := remove_spec valid free
          refine ⟨removed, callers_setPhase sound ⟨pickSound, trivial⟩, ?_⟩
          apply ghost.returned present
          intro id member
          rw [items, mem_map_key_dropKey] at member
          exact member
        · rw [if_neg present] at verified
          simp only [verified] at stepped
          cases stepped
          exact ⟨valid, callers_setPhase sound ⟨pickSound, trivial⟩, ghost⟩
      · cases stepped

theorem runCalls_inv :
    ∀ (calls : List QueueCall) {S S' : QueueSystem}, (∀ c ∈ calls, c.Admissible) →
      SystemInv S → S.runCalls calls = some S' → SystemInv S'
  | [], _, _, _, inv, ran => by
      cases ran
      exact inv
  | call :: rest, S, S', admissible, inv, ran => by
      simp only [QueueSystem.runCalls] at ran
      split at ran
      · cases ran
      · rename_i next stepped
        exact runCalls_inv rest (fun c member => admissible c (List.mem_cons_of_mem call member))
          (step_inv inv (admissible call List.mem_cons_self) stepped) ran

/-- No double pop: under every admissible schedule of concurrent `Push`,
`Pop`, `PopWithStrategy` and `Remove` calls on a new queue, each inserting
`Push` of a key is matched by at most one call returning it before the next
inserting `Push` of it.  In particular two `PopWithStrategy` calls never both
return the same key. -/
theorem popWithStrategy_noDoublePop (calls : List QueueCall)
    (admissible : ∀ c ∈ calls, c.Admissible) {S : QueueSystem}
    (ran : QueueSystem.initial.runCalls calls = some S) : AtMostOnePopPerInsert S.log :=
  (runCalls_inv calls admissible SystemInv.initial ran).ghost.atMostOnePopPerInsert

/-- Two callers race for one key: the second one's verify finds the key gone
and goes back round its loop. -/
def raceForOneKey : List QueueCall :=
  [.startPopWithStrategy pickOldest, .startPopWithStrategy pickOldest,
    .push ⟨"default", "sb-1", ""⟩, .snapshot 0, .snapshot 1, .pick 0, .pick 1,
    .verifyAndRemove 0, .verifyAndRemove 1]

theorem popWithStrategy_noDoublePop_raceForOneKey :
    (∀ c ∈ raceForOneKey, c.Admissible) ∧
      QueueSystem.initial.runCalls raceForOneKey =
        some ⟨⟨[], ∅⟩,
          [⟨pickOldest, .finished (⟨"default", "sb-1", ""⟩, true)⟩, ⟨pickOldest, .ready⟩],
          [.inserted ⟨"default", "sb-1", ""⟩, .returned ⟨"default", "sb-1", ""⟩]⟩ ∧
      AtMostOnePopPerInsert
        [.inserted ⟨"default", "sb-1", ""⟩, .returned ⟨"default", "sb-1", ""⟩] := by
  have admissible : ∀ c ∈ raceForOneKey, c.Admissible := by
    intro c member
    simp only [raceForOneKey, List.mem_cons, List.not_mem_nil, or_false] at member
    rcases member with rfl | rfl | rfl | rfl | rfl | rfl | rfl | rfl | rfl
    all_goals first
      | exact pickOldest_inArgument.pickSlashFree
      | trivial
      | simp [QueueCall.Admissible, SlashFree]
  have ran : QueueSystem.initial.runCalls raceForOneKey =
      some ⟨⟨[], ∅⟩,
        [⟨pickOldest, .finished (⟨"default", "sb-1", ""⟩, true)⟩, ⟨pickOldest, .ready⟩],
        [.inserted ⟨"default", "sb-1", ""⟩, .returned ⟨"default", "sb-1", ""⟩]⟩ := rfl
  exact ⟨admissible, ran, popWithStrategy_noDoublePop raceForOneKey admissible ran⟩

/-- Why namespaces must be `/`-free: `a/b`+`c` and `a`+`b/c` share a
`uniqueID`.  Removing the second deletes the set entry of the first while the
first stays in the slice, so the next `Push` of the first inserts it twice and
two pops return it. -/
theorem doublePop_of_slash_in_namespace :
    ∃ S, QueueSystem.initial.runCalls
        [.push ⟨"a/b", "c", ""⟩, .remove ⟨"a", "b/c", ""⟩, .push ⟨"a/b", "c", ""⟩,
          .pop, .pop] = some S ∧ ¬ AtMostOnePopPerInsert S.log := by
  refine ⟨_, rfl, fun matched => matched ("a/b", "c") ?_⟩
  decide

end AgentSandbox.Queue
