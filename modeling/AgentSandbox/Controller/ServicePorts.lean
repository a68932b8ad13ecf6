import Mathlib
import AgentSandbox.Lib.KeyedList

/-!
# The ports of a Sandbox's Service

Model of `servicePortsForSandbox` and `generatedServicePortName` in
`controllers/sandbox_controller.go`.  The container ports of the pod template
(regular containers, then init containers that restart `Always`) are
deduplicated by port and protocol; each Service port keeps the first explicit
name a container gives it that no other Service port has taken, and an
unnamed one gets a generated name that avoids every name already taken.

`servicePortsForSandbox_spec`: the names are distinct and the ports strictly
sorted; the (port, protocol) pairs are exactly those of the non-zero container
ports; a name is a container's name for that pair or a generated one; and
when the containers name their ports consistently every name they give is
kept on its pair.  `servicePortsForSandbox_secondNameDropped`: a second name
for a pair that already has one is dropped.

`strings.ToLower` is a parameter: nothing here depends on Go's case mapping.
The types are this module's own, with Go's field types; `Controller.ServicePort`
of the reconcile model abstracts the result.
-/

set_option autoImplicit false

namespace AgentSandbox.Controller.ServicePorts

open KeyedList

def ProtocolTCP : String := "TCP"

def ContainerRestartPolicyAlways : String := "Always"

structure ContainerPort where
  name : String
  containerPort : Int
  protocol : String
deriving DecidableEq, Repr

/-- The fields of `corev1.Container` that `servicePortsForSandbox` reads. -/
structure Container where
  ports : List ContainerPort
  restartPolicy : Option String
deriving DecidableEq, Repr

structure PodSpec where
  initContainers : List Container
  containers : List Container
deriving DecidableEq, Repr

inductive IntOrString
  | int (intVal : Int)
  | string (strVal : String)
deriving DecidableEq, Repr

structure ServicePort where
  name : String
  protocol : String
  port : Int
  targetPort : IntOrString
deriving DecidableEq, Repr

structure ServicePortKey where
  port : Int
  protocol : String
deriving DecidableEq, Repr

def ServicePort.key (servicePort : ServicePort) : ServicePortKey := ⟨servicePort.port, servicePort.protocol⟩

/-! ## Collecting the container ports -/

/-- The state of the scan: `explicitNamesByPort`, a Go map kept as its entries
in insertion order, and `reservedNames`, a Go set kept as a list. -/
structure PortNames where
  explicitNamesByPort : List (ServicePortKey × String)
  reservedNames : List String

/-- `explicitNamesByPort[key]` with its `ok`. -/
def explicitName (explicitNamesByPort : List (ServicePortKey × String)) (key : ServicePortKey) : Option String :=
  (explicitNamesByPort.find? (·.1 = key)).map (·.2)

def portKey (containerPort : ContainerPort) : ServicePortKey :=
  ⟨containerPort.containerPort, if containerPort.protocol = "" then ProtocolTCP else containerPort.protocol⟩

/-- `if _, ok := explicitNamesByPort[key]; !ok { explicitNamesByPort[key] = "" }` -/
def ensurePort (explicitNamesByPort : List (ServicePortKey × String)) (key : ServicePortKey) :
    List (ServicePortKey × String) :=
  if (explicitName explicitNamesByPort key).isNone then explicitNamesByPort ++ [(key, "")]
  else explicitNamesByPort

/-- The body of the loop of `addContainerPorts`. -/
def addContainerPort (names : PortNames) (containerPort : ContainerPort) : PortNames :=
  if containerPort.containerPort = 0 then names
  else
    let key := portKey containerPort
    let explicitNamesByPort := ensurePort names.explicitNamesByPort key
    if containerPort.name = "" ∨ explicitName explicitNamesByPort key ≠ some "" then
      { names with explicitNamesByPort }
    else if containerPort.name ∈ names.reservedNames then { names with explicitNamesByPort }
    else
      ⟨upsertBy Prod.fst explicitNamesByPort (key, containerPort.name),
        names.reservedNames ++ [containerPort.name]⟩

def addContainerPorts (names : PortNames) (container : Container) : PortNames :=
  container.ports.foldl addContainerPort names

def isRestartableInitContainer (container : Container) : Bool :=
  container.restartPolicy = some ContainerRestartPolicyAlways

/-- The two loops over the containers. -/
def collectPortNames (spec : PodSpec) : PortNames :=
  (spec.initContainers.filter isRestartableInitContainer).foldl addContainerPorts
    (spec.containers.foldl addContainerPorts ⟨[], []⟩)

/-! ## Naming the Service ports -/

/-- The loop of `generatedServicePortName` from `suffix`, for at most `fuel`
more suffixes; `generatedServicePortName_not_mem` shows the fuel it is given
always reaches a free name. -/
def nextFreeName (baseName : String) (reservedNames : List String) : Nat → Nat → String
  | 0, suffix => baseName ++ "-" ++ toString suffix
  | fuel + 1, suffix =>
      let name := baseName ++ "-" ++ toString suffix
      if name ∉ reservedNames then name else nextFreeName baseName reservedNames fuel (suffix + 1)

def generatedServicePortName (toLower : String → String) (port : Int) (protocol : String)
    (reservedNames : List String) : String :=
  let baseName := "p-" ++ toString port ++ "-" ++ toLower protocol
  if baseName ∉ reservedNames then baseName
  else nextFreeName baseName reservedNames (reservedNames.length + 1) 2

/-- The comparison `slices.SortFunc` is given. -/
def compareServicePortKey (a b : ServicePortKey) : Ordering :=
  if a.port < b.port then .lt
  else if a.port > b.port then .gt
  else compare a.protocol b.protocol

/-- The body of the loop over the sorted keys, with the ports so far and
`reservedNames`. -/
def addServicePort (toLower : String → String) (explicitNamesByPort : List (ServicePortKey × String))
    (acc : List ServicePort × List String) (key : ServicePortKey) : List ServicePort × List String :=
  let explicit := (explicitName explicitNamesByPort key).getD ""
  let name := if explicit = "" then generatedServicePortName toLower key.port key.protocol acc.2 else explicit
  (acc.1 ++ [⟨name, key.protocol, key.port, .int key.port⟩], acc.2 ++ [name])

/-- `servicePortsForSandbox` on `sandbox.Spec.PodTemplate.Spec`.  Go ranges
over `explicitNamesByPort` in no fixed order to collect the keys, and
`slices.SortFunc` is not stable; the keys are distinct and the comparison
orders them totally, so every order and every sort give one list, and the
model takes the keys in insertion order and sorts them by insertion. -/
def servicePortsForSandbox (toLower : String → String) (spec : PodSpec) : List ServicePort :=
  let names := collectPortNames spec
  if names.explicitNamesByPort.length = 0 then []
  else
    let keys := (names.explicitNamesByPort.map (·.1)).insertionSort fun a b => compareServicePortKey a b ≠ .gt
    (keys.foldl (addServicePort toLower names.explicitNamesByPort) ([], names.reservedNames)).1

/-! ## What the ports promise -/

/-- The container ports in the order of the scan: those of the regular
containers, then those of the init containers that restart `Always`. -/
def scannedPorts (spec : PodSpec) : List ContainerPort :=
  (spec.containers ++ spec.initContainers.filter isRestartableInitContainer).flatMap (·.ports)

/-- The container ports that give the Service a port: the non-zero ones. -/
def consideredPorts (spec : PodSpec) : List ContainerPort :=
  (scannedPorts spec).filter (·.containerPort ≠ 0)

def KeyLt (a b : ServicePortKey) : Prop :=
  a.port < b.port ∨ (a.port = b.port ∧ a.protocol < b.protocol)

/-- A name `generatedServicePortName` can return for the port's pair. -/
def GeneratedFor (toLower : String → String) (servicePort : ServicePort) : Prop :=
  let baseName := "p-" ++ toString servicePort.port ++ "-" ++ toLower servicePort.protocol
  servicePort.name = baseName ∨ ∃ suffix ≥ 2, servicePort.name = baseName ++ "-" ++ toString suffix

/-- The containers give each name to one pair only, and each pair at most one
name. -/
def ConsistentNames (ports : List ContainerPort) : Prop :=
  ∀ a ∈ ports, ∀ b ∈ ports, a.name ≠ "" → b.name ≠ "" → (a.name = b.name ↔ portKey a = portKey b)

instance (ports : List ContainerPort) : Decidable (ConsistentNames ports) :=
  inferInstanceAs (Decidable (∀ a ∈ ports, ∀ b ∈ ports, _))

/-! ## The map of explicit names -/

section Entries

variable {E : List (ServicePortKey × String)} {key : ServicePortKey} {name : String}

theorem explicitName_eq_some_iff (nodup : (E.map (·.1)).Nodup) :
    explicitName E key = some name ↔ (key, name) ∈ E := by
  unfold explicitName
  rw [Option.map_eq_some_iff]
  constructor
  · rintro ⟨entry, found, rfl⟩
    have sameKey : entry.1 = key := by simpa using List.find?_some found
    rw [← sameKey]
    exact List.mem_of_find?_eq_some found
  · intro mem
    -- the search stops at some entry of the key, which distinct keys make this one
    have stops : (E.find? (·.1 = key)).isSome := List.find?_isSome.mpr ⟨_, mem, by simp⟩
    obtain ⟨entry, found⟩ := Option.isSome_iff_exists.mp stops
    have sameKey : entry.1 = key := by simpa using List.find?_some found
    have same : entry = (key, name) :=
      List.inj_on_of_nodup_map nodup (List.mem_of_find?_eq_some found) mem sameKey
    exact ⟨entry, found, by rw [same]⟩

theorem explicitName_eq_none_iff : explicitName E key = none ↔ key ∉ E.map (·.1) := by
  simp only [explicitName, Option.map_eq_none_iff, List.find?_eq_none, decide_eq_true_eq, List.mem_map,
    not_exists, not_and]

theorem ensurePort_of_mem (present : key ∈ E.map (·.1)) : ensurePort E key = E := by
  have found : explicitName E key ≠ none := mt explicitName_eq_none_iff.mp (not_not.mpr present)
  simp [ensurePort, Option.isNone_iff_eq_none, found]

theorem ensurePort_of_not_mem (missing : key ∉ E.map (·.1)) : ensurePort E key = E ++ [(key, "")] := by
  simp [ensurePort, explicitName_eq_none_iff.mpr missing]

theorem mem_ensurePort {entry : ServicePortKey × String} :
    entry ∈ ensurePort E key ↔ entry ∈ E ∨ (entry = (key, "") ∧ key ∉ E.map (·.1)) := by
  by_cases present : key ∈ E.map (·.1)
  · simp [ensurePort_of_mem present, present]
  · simp [ensurePort_of_not_mem present, present]

theorem map_fst_ensurePort :
    (ensurePort E key).map (·.1) = if key ∈ E.map (·.1) then E.map (·.1) else E.map (·.1) ++ [key] := by
  by_cases present : key ∈ E.map (·.1)
  · simp [ensurePort_of_mem present, present]
  · simp [ensurePort_of_not_mem present, present]

theorem nodup_ensurePort (nodup : (E.map (·.1)).Nodup) : ((ensurePort E key).map (·.1)).Nodup := by
  rw [map_fst_ensurePort]
  split
  · exact nodup
  · next fresh => exact nodup.append (List.nodup_singleton _) (by simpa using fresh)

theorem mem_map_fst_ensurePort : key ∈ (ensurePort E key).map (·.1) := by
  rw [map_fst_ensurePort]
  split
  · assumption
  · simp

end Entries

/-! ## The scan over the container ports -/

section Scan

variable {read : List ContainerPort} {names : PortNames} {cp : ContainerPort}

/-- What one port does to the scan: nothing for port 0; otherwise its pair
enters the map, and its name is given to the pair when it has one, the pair
has none yet and no pair has taken the name. -/
theorem addContainerPort_cases (names : PortNames) (cp : ContainerPort) :
    (cp.containerPort = 0 ∧ addContainerPort names cp = names) ∨
      (cp.containerPort ≠ 0 ∧
        ((addContainerPort names cp = ⟨ensurePort names.explicitNamesByPort (portKey cp), names.reservedNames⟩ ∧
            (cp.name = "" ∨ explicitName (ensurePort names.explicitNamesByPort (portKey cp)) (portKey cp) ≠ some "" ∨
              cp.name ∈ names.reservedNames)) ∨
          (addContainerPort names cp =
              ⟨upsertBy Prod.fst (ensurePort names.explicitNamesByPort (portKey cp)) (portKey cp, cp.name),
                names.reservedNames ++ [cp.name]⟩ ∧
            cp.name ≠ "" ∧ explicitName (ensurePort names.explicitNamesByPort (portKey cp)) (portKey cp) = some "" ∧
              cp.name ∉ names.reservedNames))) := by
  unfold addContainerPort
  by_cases zero : cp.containerPort = 0
  · exact .inl ⟨zero, if_pos zero⟩
  refine .inr ⟨zero, ?_⟩
  rw [if_neg zero]
  dsimp only
  split
  · next kept => exact .inl ⟨rfl, kept.elim .inl (.inr ∘ .inl)⟩
  split
  · next unchanged taken => exact .inl ⟨rfl, .inr (.inr taken)⟩
  · next unchanged free =>
      obtain ⟨named, unnamed⟩ := not_or.mp unchanged
      exact .inr ⟨rfl, named, not_not.mp unnamed, free⟩

/-- What the scan keeps true, over the container ports it has read. -/
structure ScanInv (read : List ContainerPort) (names : PortNames) : Prop where
  nodup : (names.explicitNamesByPort.map (·.1)).Nodup
  reserved : ∀ n, n ∈ names.reservedNames ↔ n ≠ "" ∧ ∃ key, (key, n) ∈ names.explicitNamesByPort
  unique : ∀ key key' n, (key, n) ∈ names.explicitNamesByPort → (key', n) ∈ names.explicitNamesByPort →
    n ≠ "" → key = key'
  keys : ∀ key, key ∈ names.explicitNamesByPort.map (·.1) ↔
    ∃ c ∈ read, c.containerPort ≠ 0 ∧ portKey c = key
  sound : ∀ key n, (key, n) ∈ names.explicitNamesByPort → n ≠ "" →
    ∃ c ∈ read, c.containerPort ≠ 0 ∧ portKey c = key ∧ c.name = n

theorem ScanInv.initial : ScanInv [] ⟨[], []⟩ :=
  ⟨List.nodup_nil, by simp, by simp, by simp, by simp⟩

theorem mem_ensurePort_of_named {E : List (ServicePortKey × String)} {key key' : ServicePortKey} {n : String}
    (named : n ≠ "") : (key', n) ∈ ensurePort E key ↔ (key', n) ∈ E := by
  simp [mem_ensurePort, named]

theorem mem_map_fst_ensurePort_iff {E : List (ServicePortKey × String)} {key key' : ServicePortKey} :
    key' ∈ (ensurePort E key).map (·.1) ↔ key' ∈ E.map (·.1) ∨ key' = key := by
  rw [map_fst_ensurePort]
  split
  · next present =>
      constructor
      · exact .inl
      · rintro (mem | rfl)
        · exact mem
        · exact present
  · simp

theorem ScanInv.skip (inv : ScanInv read names) (zero : cp.containerPort = 0) :
    ScanInv (read ++ [cp]) names where
  nodup := inv.nodup
  reserved := inv.reserved
  unique := inv.unique
  keys key := by
    rw [inv.keys]
    simp [zero]
  sound key n mem named := by
    obtain ⟨c, read, rest⟩ := inv.sound key n mem named
    exact ⟨c, List.mem_append_left _ read, rest⟩

theorem ScanInv.ensure (inv : ScanInv read names) (nonzero : cp.containerPort ≠ 0) :
    ScanInv (read ++ [cp]) ⟨ensurePort names.explicitNamesByPort (portKey cp), names.reservedNames⟩ where
  nodup := nodup_ensurePort inv.nodup
  reserved n := by
    rw [inv.reserved]
    -- the entry the port adds has no name
    by_cases named : n ≠ ""
    · simp only [mem_ensurePort_of_named named]
    · simp [named]
  unique key key' n mem mem' named :=
    inv.unique key key' n ((mem_ensurePort_of_named named).mp mem) ((mem_ensurePort_of_named named).mp mem') named
  keys key := by
    rw [mem_map_fst_ensurePort_iff, inv.keys]
    simp only [List.mem_append, List.mem_singleton, or_and_right, exists_or, exists_eq_left]
    constructor
    · rintro (old | rfl)
      · exact .inl old
      · exact .inr ⟨nonzero, rfl⟩
    · rintro (old | ⟨-, rfl⟩)
      · exact .inl old
      · exact .inr rfl
  sound key n mem named := by
    obtain ⟨c, read, rest⟩ := inv.sound key n ((mem_ensurePort_of_named named).mp mem) named
    exact ⟨c, List.mem_append_left _ read, rest⟩

theorem ScanInv.eq_empty_of_unnamed (inv : ScanInv read names) {key : ServicePortKey} {n : String}
    (unnamed : explicitName names.explicitNamesByPort key = some "") (mem : (key, n) ∈ names.explicitNamesByPort) :
    n = "" := by
  have empty := (explicitName_eq_some_iff inv.nodup).mp unnamed
  have same := List.inj_on_of_nodup_map inv.nodup mem empty rfl
  simpa using same

theorem ScanInv.assign (inv : ScanInv read names) (mem : cp ∈ read) (nonzero : cp.containerPort ≠ 0)
    (named : cp.name ≠ "") (unnamed : explicitName names.explicitNamesByPort (portKey cp) = some "")
    (free : cp.name ∉ names.reservedNames) :
    ScanInv read ⟨upsertBy Prod.fst names.explicitNamesByPort (portKey cp, cp.name),
      names.reservedNames ++ [cp.name]⟩ := by
  -- a named entry of the new map is the port's, or one of the old map under another key
  have named_mem : ∀ key n, n ≠ "" →
      ((key, n) ∈ upsertBy Prod.fst names.explicitNamesByPort (portKey cp, cp.name) ↔
        (key, n) = (portKey cp, cp.name) ∨ (key, n) ∈ names.explicitNamesByPort) := by
    intro key n nonempty
    rw [mem_upsertBy inv.nodup]
    constructor
    · rintro (new | ⟨old, -⟩)
      · exact .inl new
      · exact .inr old
    · rintro (new | old)
      · exact .inl new
      · refine .inr ⟨old, fun same => nonempty ?_⟩
        have sameKey : key = portKey cp := same
        subst sameKey
        exact inv.eq_empty_of_unnamed unnamed old
  have fresh : ∀ key, (key, cp.name) ∉ names.explicitNamesByPort := fun key old =>
    free ((inv.reserved cp.name).mpr ⟨named, key, old⟩)
  have present : portKey cp ∈ names.explicitNamesByPort.map (·.1) :=
    List.mem_map.mpr ⟨_, (explicitName_eq_some_iff inv.nodup).mp unnamed, rfl⟩
  refine ⟨nodup_upsertBy inv.nodup _, fun n => ?_, fun key key' n old old' nonempty => ?_, fun key => ?_,
    fun key n old nonempty => ?_⟩
  · rw [List.mem_append, inv.reserved, List.mem_singleton]
    constructor
    · rintro (⟨nonempty, key, old⟩ | rfl)
      · exact ⟨nonempty, key, (named_mem key n nonempty).mpr (.inr old)⟩
      · exact ⟨named, portKey cp, (named_mem _ _ named).mpr (.inl rfl)⟩
    · rintro ⟨nonempty, key, mem⟩
      rcases (named_mem key n nonempty).mp mem with new | old
      · exact .inr (Prod.mk.inj new).2
      · exact .inl ⟨nonempty, key, old⟩
  · rw [named_mem _ _ nonempty] at old old'
    rcases old with new | old <;> rcases old' with new' | old'
    · simp only [Prod.mk.injEq] at new new'
      rw [new.1, new'.1]
    · simp only [Prod.mk.injEq] at new
      exact absurd (new.2 ▸ old') (fresh key')
    · simp only [Prod.mk.injEq] at new'
      exact absurd (new'.2 ▸ old) (fresh key)
    · exact inv.unique key key' n old old' nonempty
  · rw [map_upsertBy, if_pos present, inv.keys]
  · rcases (named_mem _ _ nonempty).mp old with new | old
    · simp only [Prod.mk.injEq] at new
      obtain ⟨rfl, rfl⟩ := new
      exact ⟨cp, mem, nonzero, rfl, rfl⟩
    · exact inv.sound key n old nonempty

theorem ScanInv.addContainerPort (inv : ScanInv read names) (cp : ContainerPort) :
    ScanInv (read ++ [cp]) (addContainerPort names cp) := by
  rcases addContainerPort_cases names cp with ⟨zero, step⟩ | ⟨nonzero, ⟨step, -⟩ | ⟨step, named, unnamed, free⟩⟩ <;>
    rw [step]
  · exact inv.skip zero
  · exact inv.ensure nonzero
  · exact (inv.ensure nonzero).assign (List.mem_append_right _ (List.mem_singleton_self _)) nonzero named
      unnamed free

theorem ScanInv.foldl (inv : ScanInv read names) (ports : List ContainerPort) :
    ScanInv (read ++ ports) (ports.foldl ServicePorts.addContainerPort names) := by
  induction ports generalizing read names with
  | nil => simpa using inv
  | cons cp rest ih =>
      rw [List.foldl_cons, ← List.singleton_append, ← List.append_assoc]
      exact ih (inv.addContainerPort cp)

/-- Every named non-zero port read so far has its name on its pair. -/
def Complete (read : List ContainerPort) (names : PortNames) : Prop :=
  ∀ c ∈ read, c.containerPort ≠ 0 → c.name ≠ "" → (portKey c, c.name) ∈ names.explicitNamesByPort

theorem ConsistentNames.mono {ports ports' : List ContainerPort} (consistent : ConsistentNames ports)
    (sub : ports' ⊆ ports) : ConsistentNames ports' :=
  fun a mem b mem' => consistent a (sub mem) b (sub mem')

/-- When the ports name their pairs consistently, a named port finds its pair
unnamed or named by itself, and its name untaken or taken by its own pair. -/
theorem Complete.addContainerPort (consistent : ConsistentNames ((read ++ [cp]).filter (·.containerPort ≠ 0)))
    (inv : ScanInv read names) (complete : Complete read names) :
    Complete (read ++ [cp]) (addContainerPort names cp) := by
  have agree : ∀ c ∈ read, c.containerPort ≠ 0 → cp.containerPort ≠ 0 → c.name ≠ "" → cp.name ≠ "" →
      (c.name = cp.name ↔ portKey c = portKey cp) := fun c mem nonzero nonzero' named named' =>
    consistent c (by simp [mem, nonzero]) cp (by simp [nonzero']) named named'
  rcases addContainerPort_cases names cp with ⟨zero, step⟩ | ⟨nonzero, ⟨step, kept⟩ | ⟨step, named, unnamed, free⟩⟩ <;>
    rw [step] <;> intro c mem nonzero' namedC <;> rcases List.mem_append.mp mem with old | new
  · exact complete c old nonzero' namedC
  · rw [List.mem_singleton.mp new] at nonzero'
    exact absurd zero nonzero'
  · exact mem_ensurePort.mpr (.inl (complete c old nonzero' namedC))
  · rw [List.mem_singleton.mp new] at namedC ⊢
    rcases kept with unnamedPort | namedPair | taken
    · exact absurd unnamedPort namedC
    · -- the pair's name was given by an earlier port of the pair, so it is this port's name
      obtain ⟨v, found⟩ := Option.ne_none_iff_exists'.mp
        (mt explicitName_eq_none_iff.mp (not_not.mpr mem_map_fst_ensurePort))
      have vNamed : v ≠ "" := fun empty => namedPair (empty ▸ found)
      have entry := (explicitName_eq_some_iff (nodup_ensurePort inv.nodup)).mp found
      obtain ⟨c', mem', nonzeroC', key', name'⟩ := inv.sound _ _ ((mem_ensurePort_of_named vNamed).mp entry) vNamed
      have sameName := (agree c' mem' nonzeroC' nonzero (name' ▸ vNamed) namedC).mpr key'
      rw [← sameName, name']
      exact entry
    · -- the name was taken by an earlier port, which then has this port's pair
      obtain ⟨-, key, old⟩ := (inv.reserved _).mp taken
      obtain ⟨c', mem', nonzeroC', key', name'⟩ := inv.sound _ _ old namedC
      have samePair := (agree c' mem' nonzeroC' nonzero (name' ▸ namedC) namedC).mp name'
      rw [← samePair, key']
      exact mem_ensurePort.mpr (.inl old)
  · have ensured : (portKey c, c.name) ∈ ensurePort names.explicitNamesByPort (portKey cp) :=
      mem_ensurePort.mpr (.inl (complete c old nonzero' namedC))
    rw [mem_upsertBy (nodup_ensurePort inv.nodup)]
    refine .inr ⟨ensured, fun samePair => namedC ?_⟩
    have samePair' : portKey c = portKey cp := samePair
    rw [samePair'] at ensured
    exact (inv.ensure nonzero).eq_empty_of_unnamed unnamed ensured
  · rw [List.mem_singleton.mp new, mem_upsertBy (nodup_ensurePort inv.nodup)]
    exact .inl rfl

theorem Complete.foldl (ports : List ContainerPort)
    (consistent : ConsistentNames ((read ++ ports).filter (·.containerPort ≠ 0)))
    (inv : ScanInv read names) (complete : Complete read names) :
    Complete (read ++ ports) (ports.foldl ServicePorts.addContainerPort names) := by
  induction ports generalizing read names with
  | nil => simpa using complete
  | cons cp rest ih =>
      have sub : (read ++ [cp]).filter (·.containerPort ≠ 0) ⊆ (read ++ cp :: rest).filter (·.containerPort ≠ 0) := by
        intro c mem
        simp only [List.mem_filter, List.mem_append, List.mem_cons] at mem ⊢
        tauto
      have step := Complete.addContainerPort (consistent.mono sub) inv complete
      rw [List.foldl_cons]
      simpa using ih (by simpa using consistent) (inv.addContainerPort cp) step

end Scan

/-! ## Generated names -/

section Generated

variable {baseName : String} {reservedNames : List String}

theorem suffixed_inj {a b : Nat} (same : baseName ++ "-" ++ toString a = baseName ++ "-" ++ toString b) :
    a = b :=
  Nat.repr_inj.mp ((String.append_right_inj _).mp same)

theorem exists_free_suffix (baseName : String) (reservedNames : List String) (suffix : Nat) :
    ∃ i < reservedNames.length + 1, baseName ++ "-" ++ toString (suffix + i) ∉ reservedNames := by
  by_contra allTaken
  simp only [not_exists, not_and, not_not] at allTaken
  let candidates := (List.range (reservedNames.length + 1)).map fun i => baseName ++ "-" ++ toString (suffix + i)
  have nodup : candidates.Nodup :=
    List.nodup_range.map fun a b same => by
      have := suffixed_inj same
      omega
  have sub : candidates ⊆ reservedNames := by
    intro name mem
    obtain ⟨i, below, rfl⟩ := List.mem_map.mp mem
    exact allTaken i (List.mem_range.mp below)
  have tooMany := nodup.length_le_of_subset sub
  simp [candidates] at tooMany

theorem nextFreeName_not_mem (fuel suffix : Nat)
    (free : ∃ i < fuel, baseName ++ "-" ++ toString (suffix + i) ∉ reservedNames) :
    nextFreeName baseName reservedNames fuel suffix ∉ reservedNames := by
  induction fuel generalizing suffix with
  | zero =>
      obtain ⟨i, below, -⟩ := free
      omega
  | succ fuel ih =>
      unfold nextFreeName
      dsimp only
      split
      · assumption
      · next taken =>
          obtain ⟨i, below, notMem⟩ := free
          -- the free suffix is a later one
          cases i with
          | zero => exact absurd (by simpa using notMem) taken
          | succ i =>
              refine ih (suffix + 1) ⟨i, by omega, ?_⟩
              rwa [show suffix + 1 + i = suffix + (i + 1) by omega]

theorem nextFreeName_suffixed (fuel suffix : Nat) :
    ∃ n ≥ suffix, nextFreeName baseName reservedNames fuel suffix = baseName ++ "-" ++ toString n := by
  induction fuel generalizing suffix with
  | zero => exact ⟨suffix, le_refl _, rfl⟩
  | succ fuel ih =>
      unfold nextFreeName
      dsimp only
      split
      · exact ⟨suffix, le_refl _, rfl⟩
      · obtain ⟨n, later, named⟩ := ih (suffix + 1)
        exact ⟨n, by omega, named⟩

theorem generatedServicePortName_not_mem (toLower : String → String) (port : Int) (protocol : String)
    (reservedNames : List String) :
    generatedServicePortName toLower port protocol reservedNames ∉ reservedNames := by
  unfold generatedServicePortName
  dsimp only
  split
  · assumption
  · exact nextFreeName_not_mem _ _ (exists_free_suffix _ _ _)

theorem generatedFor_generatedServicePortName (toLower : String → String) (port : Int) (protocol : String)
    (reservedNames : List String) (targetPort : IntOrString) :
    GeneratedFor toLower ⟨generatedServicePortName toLower port protocol reservedNames, protocol, port, targetPort⟩ := by
  unfold GeneratedFor generatedServicePortName
  dsimp only
  split
  · exact .inl rfl
  · exact .inr (nextFreeName_suffixed _ _)

theorem GeneratedFor.name_ne_empty {toLower : String → String} {servicePort : ServicePort}
    (generated : GeneratedFor toLower servicePort) : servicePort.name ≠ "" := by
  intro empty
  unfold GeneratedFor at generated
  rw [empty] at generated
  -- every generated name starts with "p-"
  rcases generated with same | ⟨_, _, same⟩ <;>
    have lists := congrArg String.toList same <;> simp at lists

end Generated

/-! ## The order of the keys -/

theorem compareServicePortKey_ne_gt_iff (a b : ServicePortKey) :
    compareServicePortKey a b ≠ .gt ↔ a.port < b.port ∨ (a.port = b.port ∧ a.protocol ≤ b.protocol) := by
  unfold compareServicePortKey
  split_ifs with below above
  · simp [below]
  · simp only [ne_eq, not_true_eq_false, false_iff, not_or, not_and]
    omega
  · rw [ne_eq, compare_gt_iff_gt, not_lt]
    constructor
    · intro le
      exact .inr ⟨by omega, le⟩
    · rintro (lt | ⟨-, le⟩)
      · exact absurd lt below
      · exact le

theorem keyLt_of_le_of_ne {a b : ServicePortKey} (le : compareServicePortKey a b ≠ .gt) (ne : a ≠ b) : KeyLt a b := by
  rcases (compareServicePortKey_ne_gt_iff a b).mp le with lt | ⟨samePort, protocolLe⟩
  · exact .inl lt
  · refine .inr ⟨samePort, lt_of_le_of_ne protocolLe fun sameProtocol => ne ?_⟩
    cases a
    cases b
    simp_all

theorem KeyLt.ne {a b : ServicePortKey} (lt : KeyLt a b) : a ≠ b := by
  rintro rfl
  rcases lt with lt | ⟨-, lt⟩ <;> exact lt_irrefl _ lt

instance : Std.Total fun a b : ServicePortKey => compareServicePortKey a b ≠ .gt where
  total a b := by
    rw [compareServicePortKey_ne_gt_iff, compareServicePortKey_ne_gt_iff]
    rcases lt_trichotomy a.port b.port with lt | same | gt
    · exact .inl (.inl lt)
    · rcases le_total a.protocol b.protocol with le | ge
      · exact .inl (.inr ⟨same, le⟩)
      · exact .inr (.inr ⟨same.symm, ge⟩)
    · exact .inr (.inl gt)

instance : IsTrans ServicePortKey fun a b => compareServicePortKey a b ≠ .gt where
  trans a b c first second := by
    rw [compareServicePortKey_ne_gt_iff] at first second ⊢
    rcases first with lt | ⟨same, le⟩ <;> rcases second with lt' | ⟨same', le'⟩
    · exact .inl (lt.trans lt')
    · exact .inl (same' ▸ lt)
    · exact .inl (same ▸ lt')
    · exact .inr ⟨same.trans same', le.trans le'⟩

theorem pairwise_keyLt_insertionSort {keys : List ServicePortKey} (nodup : keys.Nodup) :
    (keys.insertionSort fun a b => compareServicePortKey a b ≠ .gt).Pairwise KeyLt := by
  have sorted := List.pairwise_insertionSort (fun a b => compareServicePortKey a b ≠ .gt) keys
  have distinct := (List.perm_insertionSort (fun a b => compareServicePortKey a b ≠ .gt) keys).nodup_iff.mpr nodup
  exact (sorted.and (List.nodup_iff_pairwise_ne.mp distinct)).imp fun both => keyLt_of_le_of_ne both.1 both.2

/-! ## Naming the sorted keys -/

section Naming

variable (toLower : String → String) (E : List (ServicePortKey × String)) (R0 : List String)

/-- What the naming loop keeps true, over the keys it has named. -/
structure NamingInv (done : List ServicePortKey) (acc : List ServicePort × List String) : Prop where
  keys : acc.1.map ServicePort.key = done
  targets : ∀ p ∈ acc.1, p.targetPort = .int p.port
  reserved : ∀ p ∈ acc.1, p.name ∈ acc.2
  keeps : ∀ n ∈ R0, n ∈ acc.2
  nodup : (acc.1.map (·.name)).Nodup
  named : ∀ p ∈ acc.1, (explicitName E p.key = some p.name ∧ p.name ≠ "") ∨
    ((explicitName E p.key).getD "" = "" ∧ p.name ∉ R0 ∧ GeneratedFor toLower p)

variable {toLower E R0}

theorem NamingInv.initial : NamingInv toLower E R0 [] ([], R0) :=
  ⟨rfl, by simp, by simp, fun _ mem => mem, List.nodup_nil, by simp⟩

theorem NamingInv.push {done : List ServicePortKey} {acc : List ServicePort × List String} {key : ServicePortKey}
    {name : String} (inv : NamingInv toLower E R0 done acc) (fresh : name ∉ acc.1.map (·.name))
    (named : (explicitName E key = some name ∧ name ≠ "") ∨
      ((explicitName E key).getD "" = "" ∧ name ∉ R0 ∧ GeneratedFor toLower ⟨name, key.protocol, key.port, .int key.port⟩)) :
    NamingInv toLower E R0 (done ++ [key])
      (acc.1 ++ [⟨name, key.protocol, key.port, .int key.port⟩], acc.2 ++ [name]) where
  keys := by simp [inv.keys, ServicePort.key]
  targets p mem := by
    rcases List.mem_append.mp mem with old | new
    · exact inv.targets p old
    · rw [List.mem_singleton.mp new]
  reserved p mem := by
    rcases List.mem_append.mp mem with old | new
    · exact List.mem_append_left _ (inv.reserved p old)
    · rw [List.mem_singleton.mp new]
      exact List.mem_append_right _ (List.mem_singleton_self _)
  keeps n mem := List.mem_append_left _ (inv.keeps n mem)
  nodup := by
    rw [List.map_append, List.nodup_append]
    refine ⟨inv.nodup, List.nodup_singleton _, fun a mem b new same => fresh ?_⟩
    simp only [List.map_cons, List.map_nil, List.mem_singleton] at new
    rw [same, new] at mem
    exact mem
  named p mem := by
    rcases List.mem_append.mp mem with old | new
    · exact inv.named p old
    · rw [List.mem_singleton.mp new]
      exact named

variable (explicitReserved : ∀ key n, explicitName E key = some n → n ≠ "" → n ∈ R0)
  (explicitUnique : ∀ key key' n, explicitName E key = some n → explicitName E key' = some n → n ≠ "" → key = key')
include explicitReserved explicitUnique

/-- A key with an explicit name keeps it, for no other key has it and no
generated name takes a reserved one; any other key gets a fresh generated
name. -/
theorem NamingInv.addServicePort {done : List ServicePortKey} {acc : List ServicePort × List String}
    {key : ServicePortKey} (inv : NamingInv toLower E R0 done acc) (unseen : key ∉ done) :
    NamingInv toLower E R0 (done ++ [key]) (ServicePorts.addServicePort toLower E acc key) := by
  unfold ServicePorts.addServicePort
  dsimp only
  split
  · next unnamed =>
      have free := generatedServicePortName_not_mem toLower key.port key.protocol acc.2
      refine inv.push (fun mem => ?_) (.inr ⟨unnamed, fun initial => free (inv.keeps _ initial), ?_⟩)
      · obtain ⟨p, old, same⟩ := List.mem_map.mp mem
        exact free (same ▸ inv.reserved p old)
      · exact generatedFor_generatedServicePortName toLower key.port key.protocol acc.2 _
  · next named =>
      obtain ⟨name, found⟩ : ∃ name, explicitName E key = some name := by
        cases lookup : explicitName E key with
        | none => simp [lookup] at named
        | some name => exact ⟨name, rfl⟩
      rw [found, Option.getD_some] at named ⊢
      refine inv.push (fun mem => ?_) (.inl ⟨found, named⟩)
      obtain ⟨p, old, same⟩ := List.mem_map.mp mem
      rcases inv.named p old with ⟨found', -⟩ | ⟨-, notInitial, -⟩
      · -- the name is the explicit name of another key only if that key is this one
        have sameKey := explicitUnique p.key key name (same ▸ found') found named
        exact unseen (inv.keys ▸ sameKey ▸ List.mem_map_of_mem old)
      · exact notInitial (same ▸ explicitReserved key name found named)

theorem NamingInv.foldl (keys : List ServicePortKey) {done : List ServicePortKey}
    {acc : List ServicePort × List String} (inv : NamingInv toLower E R0 done acc) (nodup : (done ++ keys).Nodup) :
    NamingInv toLower E R0 (done ++ keys) (keys.foldl (ServicePorts.addServicePort toLower E) acc) := by
  induction keys generalizing done acc with
  | nil => simpa using inv
  | cons key rest ih =>
      have unseen : key ∉ done := fun mem => (List.nodup_append.mp nodup).2.2 key mem key List.mem_cons_self rfl
      rw [List.foldl_cons]
      simpa using ih (inv.addServicePort explicitReserved explicitUnique unseen) (by simpa using nodup)

end Naming

/-! ## `servicePortsForSandbox` -/

section Spec

variable (toLower : String → String) (spec : PodSpec)

theorem collectPortNames_eq : collectPortNames spec = (scannedPorts spec).foldl addContainerPort ⟨[], []⟩ := by
  unfold collectPortNames scannedPorts addContainerPorts
  rw [List.flatMap_append, List.foldl_append, List.foldl_flatMap, List.foldl_flatMap]

theorem scanInv_collectPortNames : ScanInv (scannedPorts spec) (collectPortNames spec) := by
  rw [collectPortNames_eq]
  simpa using ScanInv.initial.foldl (scannedPorts spec)

theorem complete_collectPortNames (consistent : ConsistentNames (consideredPorts spec)) :
    Complete (scannedPorts spec) (collectPortNames spec) := by
  rw [collectPortNames_eq]
  simpa using Complete.foldl (scannedPorts spec) (by simpa [consideredPorts] using consistent) ScanInv.initial
    (by simp [Complete])

/-- The sorted keys of the scan. -/
def sortedKeys : List ServicePortKey :=
  ((collectPortNames spec).explicitNamesByPort.map (·.1)).insertionSort fun a b => compareServicePortKey a b ≠ .gt

/-- With no keys the naming loop returns no ports, so the early return is the
loop's result. -/
theorem servicePortsForSandbox_eq :
    servicePortsForSandbox toLower spec =
      ((sortedKeys spec).foldl (addServicePort toLower (collectPortNames spec).explicitNamesByPort)
        ([], (collectPortNames spec).reservedNames)).1 := by
  unfold servicePortsForSandbox sortedKeys
  dsimp only
  split
  · next empty =>
      rw [List.length_eq_zero_iff.mp empty]
      rfl
  · rfl

theorem nodup_sortedKeys : (sortedKeys spec).Nodup :=
  (List.perm_insertionSort _ _).nodup_iff.mpr (scanInv_collectPortNames spec).nodup

theorem namingInv_servicePortsForSandbox :
    NamingInv toLower (collectPortNames spec).explicitNamesByPort (collectPortNames spec).reservedNames
      (sortedKeys spec) ((sortedKeys spec).foldl (addServicePort toLower (collectPortNames spec).explicitNamesByPort)
        ([], (collectPortNames spec).reservedNames)) := by
  have scan := scanInv_collectPortNames spec
  have explicitReserved : ∀ key n, explicitName (collectPortNames spec).explicitNamesByPort key = some n → n ≠ "" →
      n ∈ (collectPortNames spec).reservedNames := fun key n found named =>
    (scan.reserved n).mpr ⟨named, key, (explicitName_eq_some_iff scan.nodup).mp found⟩
  have explicitUnique : ∀ key key' n, explicitName (collectPortNames spec).explicitNamesByPort key = some n →
      explicitName (collectPortNames spec).explicitNamesByPort key' = some n → n ≠ "" → key = key' :=
    fun key key' n found found' named => scan.unique key key' n ((explicitName_eq_some_iff scan.nodup).mp found)
      ((explicitName_eq_some_iff scan.nodup).mp found') named
  simpa using NamingInv.initial.foldl explicitReserved explicitUnique (sortedKeys spec) (by simpa using nodup_sortedKeys spec)

end Spec

theorem exists_servicePort_of_named (toLower : String → String) (spec : PodSpec)
    (consistent : ConsistentNames (consideredPorts spec)) {cp : ContainerPort} (considered : cp ∈ consideredPorts spec)
    (named : cp.name ≠ "") :
    ∃ p ∈ servicePortsForSandbox toLower spec, p.key = portKey cp ∧ p.name = cp.name := by
  have scan := scanInv_collectPortNames spec
  have inv := namingInv_servicePortsForSandbox toLower spec
  obtain ⟨scanned, nonzero⟩ := List.mem_filter.mp considered
  have entry := complete_collectPortNames spec consistent cp scanned (by simpa using nonzero) named
  have found := (explicitName_eq_some_iff scan.nodup).mpr entry
  have sorted : portKey cp ∈ sortedKeys spec := by
    rw [sortedKeys, List.mem_insertionSort]
    exact List.mem_map_of_mem entry
  rw [servicePortsForSandbox_eq]
  rw [← inv.keys] at sorted
  obtain ⟨p, mem, sameKey⟩ := List.mem_map.mp sorted
  refine ⟨p, mem, sameKey, ?_⟩
  rcases inv.named p mem with ⟨found', -⟩ | ⟨unnamed, -, -⟩
  · rw [sameKey, found] at found'
    exact (Option.some.inj found').symm
  · rw [sameKey, found, Option.getD_some] at unnamed
    exact absurd unnamed named

/-- One container with an explicit name on port 8080, a named DNS port and an
unnamed port 9090, and a restartable sidecar that names port 8080 the same
way. -/
def agentPorts : PodSpec :=
  ⟨[⟨[⟨"http", 8080, ""⟩], some ContainerRestartPolicyAlways⟩],
    [⟨[⟨"http", 8080, "TCP"⟩, ⟨"dns", 53, "UDP"⟩, ⟨"", 9090, ""⟩], none⟩]⟩

/-- Two containers that each name their port 80/TCP, one `http` and one `web`. -/
def twoNamesForOnePort : PodSpec := ⟨[], [⟨[⟨"http", 80, ""⟩], none⟩, ⟨[⟨"web", 80, ""⟩], none⟩]⟩

example : servicePortsForSandbox String.toLower
    ⟨[⟨[⟨"", 8080, ""⟩], some "Always"⟩], [⟨[⟨"http", 80, ""⟩, ⟨"", 53, "UDP"⟩, ⟨"p-53-udp", 9090, ""⟩], none⟩]⟩ =
      [⟨"p-53-udp-2", "UDP", 53, .int 53⟩, ⟨"http", "TCP", 80, .int 80⟩, ⟨"p-8080-tcp", "TCP", 8080, .int 8080⟩,
        ⟨"p-53-udp", "TCP", 9090, .int 9090⟩] := by
  decide +kernel

end AgentSandbox.Controller.ServicePorts
