import Mathlib.Tactic.DeriveFintype
import AgentSandbox.Lib.GoFlag
import AgentSandbox.Router.Retry

/-!
# The router's configuration layers

Model of the router's `config` package: `Config` and `Defaults`
(config.go), `RegisterFlags`, `applyEnvDefaults`, `ApplyPostParseEnvDefaults`
and `csvFlag` (flags.go), `LoadFromFile`, `scalarToString` and
`FileFromArgsAndEnv` (file.go), over the flag set of `Lib.GoFlag`.

`Config` is a record of thirty fields, read here as a dependent function from
`Field` to each field's type, so that a flag bound to one field leaves every
other one alone by `Function.update`.  The variables of the flag set are that
`Config` and the variable of the `kubeconfig` flag that controller-runtime
defines on `flag.CommandLine` in its package init, when it does
(`commandLine`).

`configure` is the order main applies them in: `Defaults`, `RegisterFlags`,
`LoadFromFile`, `Parse`, `ApplyPostParseEnvDefaults`.  Each field then ends
with what its flag parses from the last value the arguments give it, else from
the file's value for its key, else what the environment makes of it
(`envFallback`), whether or not controller-runtime owns the `kubeconfig` flag
(`configure_layers`).
-/

set_option autoImplicit false

namespace AgentSandbox.Router

open GoFlag

/-- The flag type bound to a field, which decides what the field holds. -/
inductive Kind
  | string
  | duration
  | int
  | int64
  | bool
  | stringSlice
deriving DecidableEq, Repr

/-- A `time.Duration` is a count of nanoseconds. -/
abbrev Kind.type : Kind → Type
  | .string => String
  | .duration => Int
  | .int => Int
  | .int64 => Int
  | .bool => Bool
  | .stringSlice => List String

instance Kind.decEq : (k : Kind) → DecidableEq k.type
  | .string => inferInstanceAs (DecidableEq String)
  | .duration => inferInstanceAs (DecidableEq Int)
  | .int => inferInstanceAs (DecidableEq Int)
  | .int64 => inferInstanceAs (DecidableEq Int)
  | .bool => inferInstanceAs (DecidableEq Bool)
  | .stringSlice => inferInstanceAs (DecidableEq (List String))

/-- The fields of `Config`. -/
inductive Field
  | HTTPAddr
  | HTTPSAddr
  | MetricsAddr
  | ProbeAddr
  | TLSCertFile
  | TLSKeyFile
  | TLSClientCAFile
  | MTLSMode
  | ClusterDomain
  | ProxyTimeout
  | ResponseHeaderTimeout
  | ShutdownTimeout
  | UpstreamMaxRetries
  | UpstreamRetryInitialDelay
  | UpstreamRetryMaxDelay
  | MaxRequestBodyBytes
  | AllowLoopbackPodIP
  | EnableTracing
  | EnableOTelMetrics
  | AccessLog
  | PrintVersion
  | ConfigFile
  | CacheEnabled
  | CacheNamespace
  | Kubeconfig
  | AuthzMode
  | AuthzTokenReviewTTL
  | AuthzTokenReviewCacheSize
  | AuthzTokenReviewRequireToken
  | AuthzTokenReviewAudiences
deriving DecidableEq, Repr

/-- The flag type `RegisterFlags` binds to each field; `MTLSMode` and
`AuthzMode` are string types. -/
abbrev Field.kind : Field → Kind
  | .ProxyTimeout | .ResponseHeaderTimeout | .ShutdownTimeout | .UpstreamRetryInitialDelay
  | .UpstreamRetryMaxDelay | .AuthzTokenReviewTTL => .duration
  | .UpstreamMaxRetries | .AuthzTokenReviewCacheSize => .int
  | .MaxRequestBodyBytes => .int64
  | .AllowLoopbackPodIP | .EnableTracing | .EnableOTelMetrics | .AccessLog | .PrintVersion
  | .CacheEnabled | .AuthzTokenReviewRequireToken => .bool
  | .AuthzTokenReviewAudiences => .stringSlice
  | _ => .string

/-- The name of the flag `RegisterFlags` binds to each field. -/
def Field.flagName : Field → String
  | .HTTPAddr => "http-bind-address"
  | .HTTPSAddr => "https-bind-address"
  | .MetricsAddr => "metrics-bind-address"
  | .ProbeAddr => "health-probe-bind-address"
  | .TLSCertFile => "tls-cert-file"
  | .TLSKeyFile => "tls-key-file"
  | .TLSClientCAFile => "tls-client-ca-file"
  | .MTLSMode => "mtls-mode"
  | .ClusterDomain => "cluster-domain"
  | .ProxyTimeout => "proxy-timeout"
  | .ResponseHeaderTimeout => "response-header-timeout"
  | .ShutdownTimeout => "shutdown-timeout"
  | .UpstreamMaxRetries => "upstream-max-retries"
  | .UpstreamRetryInitialDelay => "upstream-retry-initial-delay"
  | .UpstreamRetryMaxDelay => "upstream-retry-max-delay"
  | .MaxRequestBodyBytes => "max-request-body-bytes"
  | .AllowLoopbackPodIP => "allow-loopback-pod-ip"
  | .EnableTracing => "enable-tracing"
  | .EnableOTelMetrics => "enable-otel-metrics"
  | .AccessLog => "access-log"
  | .PrintVersion => "version"
  | .ConfigFile => "config"
  | .CacheEnabled => "cache-enabled"
  | .CacheNamespace => "cache-namespace"
  | .Kubeconfig => "kubeconfig"
  | .AuthzMode => "authz-mode"
  | .AuthzTokenReviewTTL => "authz-tokenreview-ttl"
  | .AuthzTokenReviewCacheSize => "authz-tokenreview-cache-size"
  | .AuthzTokenReviewRequireToken => "authz-tokenreview-require-token"
  | .AuthzTokenReviewAudiences => "authz-tokenreview-audiences"

abbrev Config : Type := (f : Field) → f.kind.type

def Config.set (c : Config) (f : Field) (v : f.kind.type) : Config := Function.update c f v

/-- `time.Second`, in nanoseconds. -/
def Second : Int := 1000 * Millisecond

def MTLSOff : String := "off"

def AuthzAllowAll : String := "allow-all"

def Defaults : Config
  | .HTTPAddr => ":8080"
  | .HTTPSAddr => ""
  | .MetricsAddr => ":9090"
  | .ProbeAddr => ":8081"
  | .MTLSMode => MTLSOff
  | .ClusterDomain => "cluster.local"
  | .ProxyTimeout => 180 * Second
  | .ResponseHeaderTimeout => 30 * Second
  | .ShutdownTimeout => 30 * Second
  | .UpstreamMaxRetries => (3 : Int)
  | .UpstreamRetryInitialDelay => 200 * Millisecond
  | .UpstreamRetryMaxDelay => 800 * Millisecond
  | .AccessLog => true
  | .AuthzMode => AuthzAllowAll
  | .AuthzTokenReviewTTL => 30 * Second
  | .AuthzTokenReviewCacheSize => (2048 : Int)
  -- the fields Defaults leaves at their zero value
  | .TLSCertFile => ""
  | .TLSKeyFile => ""
  | .TLSClientCAFile => ""
  | .MaxRequestBodyBytes => (0 : Int)
  | .AllowLoopbackPodIP => false
  | .EnableTracing => false
  | .EnableOTelMetrics => false
  | .PrintVersion => false
  | .ConfigFile => ""
  | .CacheEnabled => false
  | .CacheNamespace => ""
  | .Kubeconfig => ""
  | .AuthzTokenReviewRequireToken => false
  | .AuthzTokenReviewAudiences => []

@[simp] theorem Config.set_same (c : Config) (f : Field) (v : f.kind.type) : c.set f v f = v := by
  simp [Config.set]

@[simp] theorem Config.set_of_ne (c : Config) {f g : Field} (other : g ≠ f) (v : f.kind.type) :
    c.set f v g = c g := by
  simp [Config.set, other]

/-- What the configuration takes from Go's standard library, left as
parameters; `F` is `float64`. -/
structure ConfigLib (F : Type) where
  /-- strconv.ParseInt(s, 0, 64), which the int and int64 flags both call -/
  parseInt : String → Except NumError Int
  /-- time.ParseDuration, none on an error -/
  parseDuration : String → Option Int
  /-- time.Duration.String -/
  formatDuration : Int → String
  /-- strings.TrimSpace -/
  trimSpace : String → String
  /-- strconv.ParseFloat(v, 64), none on an error -/
  parseFloat : String → Option F
  /-- secs > 0 -/
  positive : F → Bool
  /-- time.Duration(secs * float64(time.Second)) -/
  toDuration : F → Int
  /-- int64(x), when x == float64(int64(x)) -/
  whole : F → Option Int
  /-- strconv.FormatFloat(x, 'f', -1, 64) -/
  formatFloat : F → String

variable {F : Type}

/-- `csvFlag.Set`: the empty text clears the list, any other is split at commas,
each part trimmed and the empty ones dropped. -/
def csvSet (trimSpace : String → String) (v : String) : List String :=
  if v = "" then []
  else
    (v.toList.splitOn ',').filterMap fun part =>
      let p := trimSpace (String.ofList part)
      if p = "" then none else some p

/-- The `Set` of the value each kind of flag is bound through: `stringValue`,
`durationValue`, `intValue`, `int64Value`, `boolValue` and `csvFlag`.  The
flag package reports a parser's error as errParse or errRange. -/
def Kind.parse (lib : ConfigLib F) : (k : Kind) → String → Except String k.type
  | .string, s => .ok s
  | .duration, s =>
    match lib.parseDuration s with
    | some d => .ok d
    | none => .error NumError.errSyntax.text
  | .int, s => (lib.parseInt s).mapError NumError.text
  | .int64, s => (lib.parseInt s).mapError NumError.text
  | .bool, s =>
    match parseBool s with
    | some b => .ok b
    | none => .error NumError.errSyntax.text
  | .stringSlice, s => .ok (csvSet lib.trimSpace s)

/-- The `String` of the same values. -/
def Kind.format (lib : ConfigLib F) : (k : Kind) → k.type → String
  | .string, s => s
  | .duration, d => lib.formatDuration d
  | .int, i => toString i
  | .int64, i => toString i
  | .bool, b => formatBool b
  | .stringSlice, items => ",".intercalate items

/-- The variables the router's flag set writes: the `Config`, and the variable
controller-runtime binds its own `kubeconfig` flag to. -/
structure Vars where
  config : Config
  kubeconfig : String

/-- The flag `RegisterFlags` binds to the field `f`. -/
def configFlag (lib : ConfigLib F) (f : Field) : Flag Vars where
  name := f.flagName
  isBool := f.kind == .bool
  set v s := (f.kind.parse lib v).map fun a => { s with config := s.config.set f a }
  get s := f.kind.format lib (s.config f)

/-- `os.LookupEnv`: the variable's value, if it is set. -/
abbrev LookupEnvFunc := String → Option String

def EnvClusterDomain : String := "CLUSTER_DOMAIN"

def EnvProxyTimeout : String := "PROXY_TIMEOUT_SECONDS"

def EnvKubeconfig : String := "KUBECONFIG"

def EnvOTLPEndpoint : String := "OTEL_EXPORTER_OTLP_ENDPOINT"

def EnvOTLPTracesEndpoint : String := "OTEL_EXPORTER_OTLP_TRACES_ENDPOINT"

def EnvOTLPMetricsEndpoint : String := "OTEL_EXPORTER_OTLP_METRICS_ENDPOINT"

def EnvConfigFile : String := "SANDBOX_ROUTER_CONFIG"

/-- The test `v, ok := lookup(name); ok && v != ""`, with the value it passes. -/
def envValue (lookup : LookupEnvFunc) (name : String) : Option String :=
  (lookup name).filter (· != "")

def applyEnvDefaults (lib : ConfigLib F) (c : Config) (lookup : LookupEnvFunc) : Config :=
  let c := match envValue lookup EnvClusterDomain with
    | some v => c.set .ClusterDomain v
    | none => c
  let c := match envValue lookup EnvProxyTimeout with
    | some v =>
      -- numeric seconds, as the Python router took them; anything else is ignored
      match lib.parseFloat v with
      | some secs => if lib.positive secs then c.set .ProxyTimeout (lib.toDuration secs) else c
      | none => c
    | none => c
  match envValue lookup EnvKubeconfig with
  | some v => c.set .Kubeconfig v
  | none => c

/-- The fields whose flags `RegisterFlags` defines before it looks for a
`kubeconfig` flag, in its order. -/
def flagsBeforeKubeconfig : List Field :=
  [.HTTPAddr, .HTTPSAddr, .MetricsAddr, .ProbeAddr, .TLSCertFile, .TLSKeyFile, .TLSClientCAFile, .MTLSMode,
    .ClusterDomain, .ProxyTimeout, .ResponseHeaderTimeout, .ShutdownTimeout, .MaxRequestBodyBytes,
    .AllowLoopbackPodIP, .UpstreamMaxRetries, .UpstreamRetryInitialDelay, .UpstreamRetryMaxDelay,
    .EnableTracing, .EnableOTelMetrics, .AuthzMode, .AuthzTokenReviewTTL, .AuthzTokenReviewCacheSize,
    .AuthzTokenReviewRequireToken, .AuthzTokenReviewAudiences, .CacheEnabled, .CacheNamespace]

/-- The fields whose flags it defines after. -/
def flagsAfterKubeconfig : List Field := [.AccessLog, .PrintVersion, .ConfigFile]

/-- `RegisterFlags` with a non-nil lookup (a nil one is the empty environment,
`fun _ => none`). -/
def RegisterFlags (lib : ConfigLib F) (fs : FlagSet Vars) (lookup : LookupEnvFunc) : FlagSet Vars :=
  let fs := { fs with vars := { fs.vars with config := applyEnvDefaults lib fs.vars.config lookup } }
  let fs := flagsBeforeKubeconfig.foldl (fun fs f => fs.define (configFlag lib f)) fs
  -- controller-runtime may own the flag already; Go panics on a second definition
  let fs := match fs.lookup "kubeconfig" with
    | none => fs.define (configFlag lib .Kubeconfig)
    | some _ => fs
  flagsAfterKubeconfig.foldl (fun fs f => fs.define (configFlag lib f)) fs

/-- The `endpointSet` closure of `ApplyPostParseEnvDefaults`. -/
def endpointSet (lookup : LookupEnvFunc) (specific : String) : Bool :=
  (envValue lookup specific).isSome || (envValue lookup EnvOTLPEndpoint).isSome

/-- `ApplyPostParseEnvDefaults` on the flag set's `Config`, returning it. -/
def ApplyPostParseEnvDefaults (fs : FlagSet Vars) (lookup : LookupEnvFunc) : Config :=
  let c := fs.vars.config
  let setExplicitly := fs.visited
  let c := if !setExplicitly "enable-tracing" && endpointSet lookup EnvOTLPTracesEndpoint then
    c.set .EnableTracing true else c
  let c := if !setExplicitly "enable-otel-metrics" && endpointSet lookup EnvOTLPMetricsEndpoint then
    c.set .EnableOTelMetrics true else c
  -- a kubeconfig flag controller-runtime owns is not bound to the field: copy its value in
  match fs.lookup "kubeconfig" with
  | none => c
  | some f =>
    let v := f.get fs.vars
    if setExplicitly "kubeconfig" then c.set .Kubeconfig v
    else if c .Kubeconfig = "" ∧ v ≠ "" then c.set .Kubeconfig v
    else c

/-- A value the YAML decoder puts in an `any`. -/
inductive Scalar (F : Type)
  | null
  | string (s : String)
  | bool (b : Bool)
  | int (i : Int)
  | int64 (i : Int)
  | float64 (x : F)
  /-- a []any or a map[string]any -/
  | composite
  /-- any other dynamic type, by the name %T prints for it -/
  | other (typeName : String)

def scalarToString (lib : ConfigLib F) : Scalar F → Except String String
  | .null => .ok ""
  | .string x => .ok x
  | .bool x => .ok (formatBool x)
  | .int x => .ok (toString x)
  | .int64 x => .ok (toString x)
  | .float64 x =>
    -- a whole number is written as an integer
    match lib.whole x with
    | some i => .ok (toString i)
    | none => .ok (lib.formatFloat x)
  | .composite => .error "must be a scalar; got composite value"
  | .other typeName => .error s!"unsupported scalar type {typeName}"

/-- The file's top-level map, its entries in the order range visits them; a Go
map holds each key once. -/
structure YamlMap (F : Type) where
  entries : List (String × Scalar F)
  keysNodup : (entries.map Prod.fst).Nodup

/-- What os.ReadFile and yaml.Unmarshal make of the file. -/
inductive Decoded (F : Type)
  | readError (err : String)
  | yamlError (err : String)
  | map (raw : YamlMap F)

/-- The errors of `LoadFromFile`, each with the text it prints. -/
inductive LoadError
  /-- read config file: ERR -/
  | read (err : String)
  /-- parse config YAML: ERR -/
  | parse (err : String)
  /-- unknown config key "KEY" in PATH (must match a --flag name) -/
  | unknownKey (key path : String)
  /-- config key "KEY": ERR -/
  | notScalar (key err : String)
  /-- apply config key "KEY"="VALUE": ERR -/
  | apply (key value : String) (err : FlagError)
deriving DecidableEq, Repr

section Load

variable {σ : Type}

/-- The body of `LoadFromFile`'s loop, on one key of the file. -/
def applyKey (lib : ConfigLib F) (path : String) (fs : FlagSet σ) : String × Scalar F → Except LoadError (FlagSet σ)
  | (key, value) =>
    match fs.lookup key with
    | none => .error (.unknownKey key path)
    | some _ =>
      match scalarToString lib value with
      | .error err => .error (.notScalar key err)
      | .ok s =>
        match fs.setFlag key s with
        | .error err => .error (.apply key s err)
        | .ok fs => .ok fs

def LoadFromFile (lib : ConfigLib F) (path : String) (file : Decoded F) (fs : FlagSet σ) : Except LoadError (FlagSet σ) :=
  match file with
  | .readError err => .error (.read err)
  | .yamlError err => .error (.parse err)
  | .map raw => raw.entries.foldlM (applyKey lib path) fs

end Load

/-- `FileFromArgsAndEnv`: the value of the first `--config` or `-config`
argument that has one, else `SANDBOX_ROUTER_CONFIG`. -/
def FileFromArgsAndEnv (args : List String) (getenv : String → String) : String :=
  match fromArgs args with
  | some path => path
  | none => if getenv EnvConfigFile ≠ "" then getenv EnvConfigFile else ""
where
  fromArgs : List String → Option String
    | [] => none
    | a :: rest =>
      if a = "--config" ∨ a = "-config" then
        match rest with
        | path :: _ => some path
        | [] => none
      else if "--config=".toList.isPrefixOf a.toList then some (String.ofList (a.toList.drop 9))
      else if "-config=".toList.isPrefixOf a.toList then some (String.ofList (a.toList.drop 8))
      else fromArgs rest

/-- The `kubeconfig` flag controller-runtime defines in its package init, bound
to its own variable, with the empty default. -/
def controllerRuntimeKubeconfig : Flag Vars where
  name := "kubeconfig"
  isBool := false
  set v s := .ok { s with kubeconfig := v }
  get s := s.kubeconfig

/-- `flag.CommandLine` holding `Defaults()`, before `RegisterFlags`: empty, or
with controller-runtime's `kubeconfig` flag. -/
def commandLine (controllerRuntime : Bool) : FlagSet Vars where
  formal := if controllerRuntime then [controllerRuntimeKubeconfig] else []
  actual := []
  vars := ⟨Defaults, ""⟩

inductive ConfigError
  | load (err : LoadError)
  | parse (err : FlagError)
deriving DecidableEq, Repr

/-- `Defaults`, `RegisterFlags`, `LoadFromFile`, `Parse` and
`ApplyPostParseEnvDefaults`, in main's order, on `flag.CommandLine`.  The flags
main binds besides, `zapOpts.BindFlags(flag.CommandLine)`, and its
`cfg.ConfigFile = path` after loading are not modelled. -/
def configure (lib : ConfigLib F) (controllerRuntime : Bool) (lookup : LookupEnvFunc) (path : String)
    (file : Decoded F) (args : List String) : Except ConfigError Config := do
  let fs := RegisterFlags lib (commandLine controllerRuntime) lookup
  let fs ← (LoadFromFile lib path file fs).mapError .load
  let parsed ← (fs.parse args).mapError .parse
  pure (ApplyPostParseEnvDefaults parsed.1 lookup)

/-! ## The flags `RegisterFlags` defines -/

/-- The flags of `flag.CommandLine` after `RegisterFlags`. -/
def routerFlags (lib : ConfigLib F) (controllerRuntime : Bool) : List (Flag Vars) :=
  if controllerRuntime then
    controllerRuntimeKubeconfig :: (flagsBeforeKubeconfig ++ flagsAfterKubeconfig).map (configFlag lib)
  else (flagsBeforeKubeconfig ++ .Kubeconfig :: flagsAfterKubeconfig).map (configFlag lib)

/-- `RegisterFlags` on `commandLine` defines `routerFlags`, none of them set,
over the defaults the environment leaves. -/
theorem foldl_define (lib : ConfigLib F) (fields : List Field) :
    ∀ fs : FlagSet Vars, fields.foldl (fun fs f => fs.define (configFlag lib f)) fs =
      { fs with formal := fs.formal ++ fields.map (configFlag lib) } := by
  induction fields with
  | nil => simp
  | cons f rest ih =>
    intro fs
    rw [List.foldl_cons, ih]
    simp

theorem findFlag_kubeconfig_before (lib : ConfigLib F) (pre : List (Flag Vars)) :
    findFlag (pre ++ flagsBeforeKubeconfig.map (configFlag lib)) "kubeconfig" = findFlag pre "kubeconfig" := by
  have unnamed : ∀ f ∈ flagsBeforeKubeconfig, f.flagName ≠ "kubeconfig" := by decide
  have notFound : (flagsBeforeKubeconfig.map (configFlag lib)).find? (·.name == "kubeconfig") = none := by
    rw [List.find?_eq_none]
    simp only [List.mem_map, forall_exists_index, and_imp, forall_apply_eq_imp_iff₂]
    intro f listed
    simpa [configFlag] using unnamed f listed
  rw [findFlag, List.find?_append, notFound, Option.or_none]
  rfl

theorem registerFlags_commandLine (lib : ConfigLib F) (controllerRuntime : Bool) (lookup : LookupEnvFunc) :
    RegisterFlags lib (commandLine controllerRuntime) lookup =
      ⟨routerFlags lib controllerRuntime, [], ⟨applyEnvDefaults lib Defaults lookup, ""⟩⟩ := by
  simp only [RegisterFlags, foldl_define, FlagSet.lookup, findFlag_kubeconfig_before]
  cases controllerRuntime
  case false => simp [commandLine, routerFlags, findFlag]
  case true => simp [commandLine, routerFlags, findFlag, controllerRuntimeKubeconfig]

/-- A flag `RegisterFlags` leaves is controller-runtime's, when it defined one,
or the flag of a field, `Kubeconfig`'s only when controller-runtime did not. -/
theorem mem_routerFlags {lib : ConfigLib F} {controllerRuntime : Bool} {flag : Flag Vars}
    (mem : flag ∈ routerFlags lib controllerRuntime) :
    (controllerRuntime = true ∧ flag = controllerRuntimeKubeconfig) ∨
      ∃ g, flag = configFlag lib g ∧ (controllerRuntime = true → g ≠ .Kubeconfig) := by
  cases controllerRuntime
  case false =>
    simp only [routerFlags, Bool.false_eq_true, if_false, List.mem_map] at mem
    obtain ⟨g, _, rfl⟩ := mem
    exact .inr ⟨g, rfl, nofun⟩
  case true =>
    simp only [routerFlags, if_true, List.mem_cons, List.mem_map] at mem
    rcases mem with rfl | ⟨g, listed, rfl⟩
    · exact .inl ⟨rfl, rfl⟩
    · refine .inr ⟨g, rfl, fun _ => ?_⟩
      rintro rfl
      revert listed
      decide

theorem findFlag_routerFlags (lib : ConfigLib F) (controllerRuntime : Bool) (f : Field)
    (own : controllerRuntime = true → f ≠ .Kubeconfig) :
    findFlag (routerFlags lib controllerRuntime) f.flagName = some (configFlag lib f) := by
  cases controllerRuntime
  case false => cases f <;> rfl
  case true => cases f <;> first | rfl | exact absurd rfl (own rfl)

theorem findFlag_routerFlags_kubeconfig (lib : ConfigLib F) :
    findFlag (routerFlags lib true) "kubeconfig" = some controllerRuntimeKubeconfig := rfl

theorem configFlag_set {lib : ConfigLib F} {g : Field} {v : String} {s s' : Vars}
    (changed : (configFlag lib g).set v s = .ok s') :
    ∃ a, g.kind.parse lib v = .ok a ∧ s' = { s with config := s.config.set g a } := by
  simp only [configFlag] at changed
  cases parsed : g.kind.parse lib v with
  | error err =>
    rw [parsed] at changed
    cases changed
  | ok a =>
    rw [parsed] at changed
    cases changed
    exact ⟨a, rfl, rfl⟩

theorem binds_config (lib : ConfigLib F) (controllerRuntime : Bool) (f : Field)
    (own : controllerRuntime = true → f ≠ .Kubeconfig) :
    Binds (fun s : Vars => s.config f) f.flagName (fun v a => f.kind.parse lib v = .ok a)
      (routerFlags lib controllerRuntime) where
  writes flag found v s s' changed := by
    rw [findFlag_routerFlags lib controllerRuntime f own, Option.some.injEq] at found
    subst found
    obtain ⟨a, parsed, rfl⟩ := configFlag_set changed
    simpa using parsed
  keeps n flag other found v s s' changed := by
    obtain ⟨mem, named⟩ := findFlag_mem found
    rcases mem_routerFlags mem with ⟨-, rfl⟩ | ⟨g, rfl, -⟩
    · cases changed
      rfl
    · obtain ⟨a, -, rfl⟩ := configFlag_set changed
      have another : f ≠ g := by
        rintro rfl
        exact other named.symm
      exact Config.set_of_ne _ another _

theorem keeps_kubeconfig (lib : ConfigLib F) (n : String) (flag : Flag Vars)
    (found : findFlag (routerFlags lib true) n = some flag) (v : String) (s s' : Vars)
    (changed : flag.set v s = .ok s') : s'.config .Kubeconfig = s.config .Kubeconfig := by
  rcases mem_routerFlags (findFlag_mem found).1 with ⟨-, rfl⟩ | ⟨g, rfl, own⟩
  · cases changed
    rfl
  · obtain ⟨a, -, rfl⟩ := configFlag_set changed
    exact Config.set_of_ne _ (own rfl).symm _

theorem binds_controllerRuntime (lib : ConfigLib F) :
    Binds (fun s : Vars => s.kubeconfig) "kubeconfig" (fun v a => Field.Kubeconfig.kind.parse lib v = .ok a)
      (routerFlags lib true) where
  writes flag found v s s' changed := by
    rw [findFlag_routerFlags_kubeconfig, Option.some.injEq] at found
    subst found
    cases changed
    rfl
  keeps n flag other found v s s' changed := by
    obtain ⟨mem, named⟩ := findFlag_mem found
    rcases mem_routerFlags mem with ⟨-, rfl⟩ | ⟨g, rfl, -⟩
    · exact absurd named.symm other
    · obtain ⟨a, -, rfl⟩ := configFlag_set changed
      rfl

/-! ## The file's `Set`s -/

/-- The assignments a file's entries make: each key with its value as
`scalarToString` writes it. -/
def fileAssignments (lib : ConfigLib F) (entries : List (String × Scalar F)) : List (String × String) :=
  entries.filterMap fun entry => (scalarToString lib entry.2).toOption.map fun s => (entry.1, s)

/-- The file's value for the key `name`, as `scalarToString` writes it. -/
def fileValue (lib : ConfigLib F) (file : YamlMap F) (name : String) : Option String :=
  (file.entries.lookup name).bind fun value => (scalarToString lib value).toOption

section Load

variable {σ : Type} {lib : ConfigLib F} {path : String}

theorem applyKey_ok {fs fs' : FlagSet σ} {key : String} {value : Scalar F}
    (applied : applyKey lib path fs (key, value) = .ok fs') :
    ∃ s, scalarToString lib value = .ok s ∧ fs.setFlag key s = .ok fs' := by
  simp only [applyKey] at applied
  cases found : fs.lookup key with
  | none => simp [found] at applied
  | some flag =>
    cases converted : scalarToString lib value with
    | error err => simp [found, converted] at applied
    | ok s =>
      cases set : fs.setFlag key s with
      | error err => simp [found, converted, set] at applied
      | ok fs₁ =>
        simp only [found, converted, set, Except.ok.injEq] at applied
        subst applied
        exact ⟨s, rfl, set⟩

theorem fileAssignments_cons_ok {key : String} {value : Scalar F} {s : String} (rest : List (String × Scalar F))
    (converted : scalarToString lib value = .ok s) :
    fileAssignments lib ((key, value) :: rest) = (key, s) :: fileAssignments lib rest := by
  simp [fileAssignments, converted, Except.toOption]

theorem fileAssignments_cons_error {key : String} {value : Scalar F} {err : String} (rest : List (String × Scalar F))
    (failed : scalarToString lib value = .error err) :
    fileAssignments lib ((key, value) :: rest) = fileAssignments lib rest := by
  simp [fileAssignments, failed, Except.toOption]

/-- A successful `LoadFromFile` is the run of the `Set`s of the file's
entries, in the order the loop visits them. -/
theorem loadEntries_sets :
    ∀ (entries : List (String × Scalar F)) (fs fs' : FlagSet σ),
      entries.foldlM (applyKey lib path) fs = .ok fs' → Sets fs (fileAssignments lib entries) fs'
  | [], fs, fs', loaded => by
    cases loaded
    exact .nil fs
  | (key, value) :: rest, fs, fs', loaded => by
    rw [List.foldlM_cons, GoErrors.bind_eq_ok] at loaded
    obtain ⟨fs₁, applied, later⟩ := loaded
    obtain ⟨s, converted, set⟩ := applyKey_ok applied
    rw [fileAssignments_cons_ok rest converted]
    exact Sets.of_setFlag set (loadEntries_sets rest fs₁ fs' later)

theorem mem_fileAssignments_names {n : String} :
    ∀ entries : List (String × Scalar F), n ∈ (fileAssignments lib entries).map Prod.fst → n ∈ entries.map Prod.fst
  | [], mem => by simp [fileAssignments] at mem
  | (key, value) :: rest, mem => by
    rw [List.map_cons, List.mem_cons]
    cases converted : scalarToString lib value with
    | error err =>
      rw [fileAssignments_cons_error rest converted] at mem
      exact .inr (mem_fileAssignments_names rest mem)
    | ok s =>
      rw [fileAssignments_cons_ok rest converted, List.map_cons, List.mem_cons] at mem
      exact mem.imp id (mem_fileAssignments_names rest)

/-- Since the map holds each key once, the last assignment to a key is the
file's value for it. -/
theorem lastValue_fileAssignments (name : String) :
    ∀ entries : List (String × Scalar F), (entries.map Prod.fst).Nodup →
      lastValue name (fileAssignments lib entries) =
        (entries.lookup name).bind fun value => (scalarToString lib value).toOption
  | [], _ => rfl
  | (key, value) :: rest, distinct => by
    rw [List.map_cons, List.nodup_cons] at distinct
    have later := lastValue_fileAssignments name rest distinct.2
    by_cases same : key = name
    · subst same
      -- no later entry has the key, so this one decides
      have none : lastValue key (fileAssignments lib rest) = none :=
        (lastValue_eq_none_iff key _).mpr fun mem => distinct.1 (mem_fileAssignments_names rest mem)
      rw [List.lookup_cons_self, Option.bind_some]
      cases converted : scalarToString lib value with
      | error err => rw [fileAssignments_cons_error rest converted, none]; rfl
      | ok s => rw [fileAssignments_cons_ok rest converted, lastValue, none, if_pos rfl]; rfl
    · have skipped : ((key, value) :: rest).lookup name = rest.lookup name := by
        rw [List.lookup_cons, beq_false_of_ne (Ne.symm same)]
      rw [skipped, ← later]
      cases converted : scalarToString lib value with
      | error err => rw [fileAssignments_cons_error rest converted]
      | ok s => rw [fileAssignments_cons_ok rest converted, lastValue, if_neg same, Option.or_none]

end Load

theorem lastValue_fileAssignments_eq_fileValue (lib : ConfigLib F) (file : YamlMap F) (name : String) :
    lastValue name (fileAssignments lib file.entries) = fileValue lib file name :=
  lastValue_fileAssignments name file.entries file.keysNodup

/-! ## What the environment sets -/

/-- The duration `applyEnvDefaults` reads from `PROXY_TIMEOUT_SECONDS`: a
number of seconds `ParseFloat` accepts and that is positive. -/
def proxyTimeoutEnv (lib : ConfigLib F) (lookup : LookupEnvFunc) : Option Int :=
  (((envValue lookup EnvProxyTimeout).bind lib.parseFloat).filter lib.positive).map lib.toDuration

/-- What the environment makes of a field that neither the arguments nor the
file set: its alias variable (`CLUSTER_DOMAIN`, a positive numeric
`PROXY_TIMEOUT_SECONDS`, `KUBECONFIG`) when one applies, the tracing and
metrics switches on when their OTLP endpoint is set, else the default. -/
def envFallback (lib : ConfigLib F) (lookup : LookupEnvFunc) : Config := fun f =>
  match f with
  | .ClusterDomain => (envValue lookup EnvClusterDomain).getD (Defaults .ClusterDomain)
  | .ProxyTimeout => (proxyTimeoutEnv lib lookup).getD (Defaults .ProxyTimeout)
  | .Kubeconfig => (envValue lookup EnvKubeconfig).getD (Defaults .Kubeconfig)
  | .EnableTracing => if endpointSet lookup EnvOTLPTracesEndpoint then true else Defaults .EnableTracing
  | .EnableOTelMetrics => if endpointSet lookup EnvOTLPMetricsEndpoint then true else Defaults .EnableOTelMetrics
  | f => Defaults f

/-- The field set to the value, when there is one. -/
def Config.setOption (c : Config) (f : Field) : Option f.kind.type → Config
  | some v => c.set f v
  | none => c

@[simp] theorem Config.setOption_same (c : Config) (f : Field) (o : Option f.kind.type) :
    c.setOption f o f = o.getD (c f) := by
  cases o <;> simp [Config.setOption]

@[simp] theorem Config.setOption_of_ne (c : Config) {f g : Field} (other : g ≠ f) (o : Option f.kind.type) :
    c.setOption f o g = c g := by
  cases o <;> simp [Config.setOption, other]

section Environment

variable (lib : ConfigLib F) (c : Config) (lookup : LookupEnvFunc)

/-- `applyEnvDefaults` is three steps, each setting its field when the
environment gives a value for it. -/
theorem applyEnvDefaults_eq :
    applyEnvDefaults lib c lookup =
      ((c.setOption .ClusterDomain (envValue lookup EnvClusterDomain)).setOption .ProxyTimeout
        (proxyTimeoutEnv lib lookup)).setOption .Kubeconfig (envValue lookup EnvKubeconfig) := by
  unfold applyEnvDefaults proxyTimeoutEnv
  cases envValue lookup EnvClusterDomain <;> cases envValue lookup EnvKubeconfig <;>
    cases envValue lookup EnvProxyTimeout
  all_goals try rfl
  -- the timeout's own two guards: ParseFloat succeeds and the number is positive
  all_goals
    dsimp only [Option.bind_some]
    cases lib.parseFloat _ with
    | none => rfl
    | some secs =>
      dsimp only
      cases positive : lib.positive secs <;> simp [Option.filter, positive, Config.setOption]

/-- Where the environment has no say, `applyEnvDefaults` on `Defaults` is
`envFallback`. -/
theorem applyEnvDefaults_Defaults {f : Field} (notTracing : f ≠ .EnableTracing) (notMetrics : f ≠ .EnableOTelMetrics) :
    applyEnvDefaults lib Defaults lookup f = envFallback lib lookup f := by
  rw [applyEnvDefaults_eq]
  cases f <;> first | contradiction | simp [envFallback]

theorem applyEnvDefaults_of_switch {f : Field} (switch : f = .EnableTracing ∨ f = .EnableOTelMetrics) :
    applyEnvDefaults lib c lookup f = c f := by
  rw [applyEnvDefaults_eq]
  rcases switch with rfl | rfl <;> simp

end Environment

section ApplyPost

variable (fs : FlagSet Vars) (lookup : LookupEnvFunc)

/-- `ApplyPostParseEnvDefaults` is three steps, each setting its field when its
guard holds: the two switches, then the kubeconfig copied back. -/
theorem applyPost_eq :
    ApplyPostParseEnvDefaults fs lookup =
      let c := (fs.vars.config.setOption .EnableTracing
        (if !fs.visited "enable-tracing" && endpointSet lookup EnvOTLPTracesEndpoint then some true else none)).setOption
        .EnableOTelMetrics
        (if !fs.visited "enable-otel-metrics" && endpointSet lookup EnvOTLPMetricsEndpoint then some true else none)
      c.setOption .Kubeconfig
        (match fs.lookup "kubeconfig" with
          | none => none
          | some flag =>
            if fs.visited "kubeconfig" then some (flag.get fs.vars)
            else if c .Kubeconfig = "" ∧ flag.get fs.vars ≠ "" then some (flag.get fs.vars)
            else none) := by
  have switch : ∀ (c : Config) (f : Field) (b : Bool) (v : f.kind.type),
      (if b then c.set f v else c) = c.setOption f (if b then some v else none) := by
    intro c f b v
    cases b <;> rfl
  simp only [ApplyPostParseEnvDefaults, switch]
  cases fs.lookup "kubeconfig" <;> dsimp only <;> split_ifs <;> rfl

theorem applyPost_of_ne {f : Field} (notTracing : f ≠ .EnableTracing) (notMetrics : f ≠ .EnableOTelMetrics)
    (notKubeconfig : f ≠ .Kubeconfig) : ApplyPostParseEnvDefaults fs lookup f = fs.vars.config f := by
  rw [applyPost_eq]
  dsimp only
  rw [Config.setOption_of_ne _ notKubeconfig, Config.setOption_of_ne _ notMetrics,
    Config.setOption_of_ne _ notTracing]

theorem applyPost_EnableTracing :
    ApplyPostParseEnvDefaults fs lookup .EnableTracing =
      if !fs.visited "enable-tracing" && endpointSet lookup EnvOTLPTracesEndpoint then true
      else fs.vars.config .EnableTracing := by
  rw [applyPost_eq]
  dsimp only
  rw [Config.setOption_of_ne _ (by decide), Config.setOption_of_ne _ (by decide), Config.setOption_same]
  split <;> rfl

theorem applyPost_EnableOTelMetrics :
    ApplyPostParseEnvDefaults fs lookup .EnableOTelMetrics =
      if !fs.visited "enable-otel-metrics" && endpointSet lookup EnvOTLPMetricsEndpoint then true
      else fs.vars.config .EnableOTelMetrics := by
  rw [applyPost_eq]
  dsimp only
  rw [Config.setOption_of_ne _ (by decide), Config.setOption_same, Config.setOption_of_ne _ (by decide)]
  split <;> rfl

/-- When the field's own flag is found under `kubeconfig`, the value copied
back is the field's own. -/
theorem applyPost_Kubeconfig_own {lib : ConfigLib F}
    (found : fs.lookup "kubeconfig" = some (configFlag lib .Kubeconfig)) :
    ApplyPostParseEnvDefaults fs lookup .Kubeconfig = fs.vars.config .Kubeconfig := by
  simp only [ApplyPostParseEnvDefaults, found, configFlag, Kind.format]
  split_ifs <;> simp

theorem applyPost_Kubeconfig_controllerRuntime (found : fs.lookup "kubeconfig" = some controllerRuntimeKubeconfig) :
    ApplyPostParseEnvDefaults fs lookup .Kubeconfig =
      if fs.visited "kubeconfig" then fs.vars.kubeconfig
      else if fs.vars.config .Kubeconfig = "" ∧ fs.vars.kubeconfig ≠ "" then fs.vars.kubeconfig
      else fs.vars.config .Kubeconfig := by
  simp only [ApplyPostParseEnvDefaults, found, controllerRuntimeKubeconfig]
  split_ifs <;> simp_all

end ApplyPost

/-! ## The layers -/

/-- The last value the arguments give the flag `name`, as `Parse` reads them
against the flags `RegisterFlags` defines. -/
def argValue (lib : ConfigLib F) (controllerRuntime : Bool) (args : List String) (name : String) : Option String :=
  lastValue name (assignments (routerFlags lib controllerRuntime) args)

/-- A field's value under CLI > file > env > defaults: what its flag parses
from the last value the arguments give it, else from the file's value for its
key, else `fallback`. -/
structure Layered (lib : ConfigLib F) (f : Field) (cli file : Option String) (fallback value : f.kind.type) : Prop where
  fromArgs : ∀ v, cli = some v → f.kind.parse lib v = .ok value
  fromFile : cli = none → ∀ v, file = some v → f.kind.parse lib v = .ok value
  fromEnv : cli = none → file = none → value = fallback

section Layered

variable {lib : ConfigLib F} {f : Field} {cli file : Option String}

/-- Two runs of `Set`s, the file's and then the arguments', layer the value a
single flag writes. -/
theorem Layered.of_settled {initial middle final : f.kind.type}
    (fromFile : Settled (fun v a => f.kind.parse lib v = .ok a) file initial middle)
    (fromArgs : Settled (fun v a => f.kind.parse lib v = .ok a) cli middle final) :
    Layered lib f cli file initial final := by
  cases cli with
  | some v =>
    refine ⟨fun w given => ?_, fun absent => (nomatch absent), fun absent => (nomatch absent)⟩
    cases given
    exact fromArgs
  | none =>
    rw [settled_none] at fromArgs
    subst fromArgs
    cases file with
    | some v =>
      refine ⟨fun _ absent => (nomatch absent), fun _ w given => ?_, fun _ absent => (nomatch absent)⟩
      cases given
      exact fromFile
    | none => exact ⟨fun _ absent => (nomatch absent), fun _ _ absent => (nomatch absent), fun _ _ => fromFile⟩

/-- A value that is the layered one when the flag was set, and `fallback'`
when it was not, is layered over `fallback'`. -/
theorem Layered.of_visited {fallback value result fallback' : f.kind.type} {visited : Bool}
    (layered : Layered lib f cli file fallback value) (unset : visited = false ↔ cli = none ∧ file = none)
    (whenSet : visited = true → result = value) (whenUnset : visited = false → result = fallback') :
    Layered lib f cli file fallback' result := by
  have setOf : ¬ (cli = none ∧ file = none) → result = value := by
    intro given
    cases visited
    · exact absurd (unset.mp rfl) given
    · exact whenSet rfl
  refine ⟨fun v given => ?_, fun noArg v given => ?_, fun noArg noFile => whenUnset (unset.mpr ⟨noArg, noFile⟩)⟩
  · rw [setOf (by rw [given]; exact fun absent => (nomatch absent.1))]
    exact layered.fromArgs v given
  · rw [setOf (by rw [given]; exact fun absent => (nomatch absent.2))]
    exact layered.fromFile noArg v given

end Layered

section Runs

variable {lib : ConfigLib F} {controllerRuntime : Bool} {lookup : LookupEnvFunc} {file : YamlMap F}
  {args : List String} {loaded parsed : FlagSet Vars}

/-- A successful `configure` is the file's run of `Set`s and then the
arguments' from the registered flag set, and `ApplyPostParseEnvDefaults` on
the result. -/
theorem configure_runs {path : String} {c : Config}
    (configured : configure lib controllerRuntime lookup path (.map file) args = .ok c) :
    ∃ loaded parsed : FlagSet Vars,
      Sets (RegisterFlags lib (commandLine controllerRuntime) lookup) (fileAssignments lib file.entries) loaded ∧
      Sets loaded (assignments (routerFlags lib controllerRuntime) args) parsed ∧
      c = ApplyPostParseEnvDefaults parsed lookup := by
  simp only [configure, LoadFromFile, GoErrors.bind_eq_ok, GoErrors.mapError_eq_ok, GoErrors.pure_eq_ok]
    at configured
  obtain ⟨loaded, load, ⟨parsed, left⟩, parse, rfl⟩ := configured
  have fileRun := loadEntries_sets _ _ _ load
  have formal : loaded.formal = routerFlags lib controllerRuntime := by
    rw [fileRun.formal_eq, registerFlags_commandLine]
  refine ⟨loaded, parsed, fileRun, ?_, rfl⟩
  rw [← formal]
  exact parse_sets parse

variable (fileRun : Sets (RegisterFlags lib (commandLine controllerRuntime) lookup)
    (fileAssignments lib file.entries) loaded)
  (argRun : Sets loaded (assignments (routerFlags lib controllerRuntime) args) parsed)

include fileRun argRun

theorem parsed_formal : parsed.formal = routerFlags lib controllerRuntime := by
  rw [argRun.formal_eq, fileRun.formal_eq, registerFlags_commandLine]

/-- A flag is left unvisited exactly when neither the arguments nor the file
give it a value. -/
theorem unvisited_iff (name : String) :
    parsed.visited name = false ↔ argValue lib controllerRuntime args name = none ∧ fileValue lib file name = none := by
  rw [argValue, ← lastValue_fileAssignments_eq_fileValue, lastValue_eq_none_iff, lastValue_eq_none_iff,
    Bool.eq_false_iff, ne_eq, argRun.visited_iff, fileRun.visited_iff, registerFlags_commandLine]
  simp only [FlagSet.visited, List.contains_nil, Bool.false_eq_true, false_or]
  rw [not_or, and_comm]

/-- A field its own flag alone writes is layered over what `applyEnvDefaults`
left in it. -/
theorem layered_bound (f : Field) (own : controllerRuntime = true → f ≠ .Kubeconfig) :
    Layered lib f (argValue lib controllerRuntime args f.flagName) (fileValue lib file f.flagName)
      (applyEnvDefaults lib Defaults lookup f) (parsed.vars.config f) := by
  have binds := binds_config lib controllerRuntime f own
  have fromFile := fileRun.settled (by rw [registerFlags_commandLine]; exact binds)
  have fromArgs := argRun.settled (by rw [fileRun.formal_eq, registerFlags_commandLine]; exact binds)
  rw [lastValue_fileAssignments_eq_fileValue, registerFlags_commandLine] at fromFile
  exact Layered.of_settled fromFile fromArgs

/-- A switch `ApplyPostParseEnvDefaults` forces on when its flag was not set
and the endpoint variable is, as tracing and metrics are. -/
theorem layered_switch {f : Field} {endpoint : String} {forced : f.kind.type} (notKubeconfig : f ≠ .Kubeconfig)
    (notEnv : applyEnvDefaults lib Defaults lookup f = Defaults f)
    (fallback : envFallback lib lookup f = if endpointSet lookup endpoint then forced else Defaults f)
    (applied : ApplyPostParseEnvDefaults parsed lookup f =
      if !parsed.visited f.flagName && endpointSet lookup endpoint then forced else parsed.vars.config f) :
    Layered lib f (argValue lib controllerRuntime args f.flagName) (fileValue lib file f.flagName)
      (envFallback lib lookup f) (ApplyPostParseEnvDefaults parsed lookup f) := by
  have layered := layered_bound fileRun argRun f fun _ => notKubeconfig
  rw [notEnv] at layered
  have unset := unvisited_iff fileRun argRun f.flagName
  refine layered.of_visited unset (fun set => ?_) (fun notSet => ?_)
  · rw [applied, set]
    rfl
  · obtain ⟨noArg, noFile⟩ := unset.mp notSet
    rw [applied, notSet, fallback, layered.fromEnv noArg noFile]
    rfl

/-- With controller-runtime's `kubeconfig` flag, the field takes that flag's
value when the arguments or the file set it, and keeps what the environment
gave it otherwise. -/
theorem layered_controllerRuntime (cr : controllerRuntime = true) :
    Layered lib .Kubeconfig (argValue lib controllerRuntime args "kubeconfig") (fileValue lib file "kubeconfig")
      (envFallback lib lookup .Kubeconfig) (ApplyPostParseEnvDefaults parsed lookup .Kubeconfig) := by
  subst cr
  -- the field itself: no flag writes it
  have keeps := keeps_kubeconfig lib
  have field : parsed.vars.config .Kubeconfig = envFallback lib lookup .Kubeconfig := by
    rw [argRun.proj_eq (fun s => s.config .Kubeconfig) (by rw [fileRun.formal_eq, registerFlags_commandLine]; exact keeps),
      fileRun.proj_eq (fun s => s.config .Kubeconfig) (by rw [registerFlags_commandLine]; exact keeps),
      registerFlags_commandLine]
    exact applyEnvDefaults_Defaults lib lookup (by decide) (by decide)
  -- controller-runtime's variable: layered over its empty default
  have binds := binds_controllerRuntime lib
  have fromFile := fileRun.settled (by rw [registerFlags_commandLine]; exact binds)
  have fromArgs := argRun.settled (by rw [fileRun.formal_eq, registerFlags_commandLine]; exact binds)
  rw [lastValue_fileAssignments_eq_fileValue, registerFlags_commandLine] at fromFile
  have variable_ := Layered.of_settled fromFile fromArgs
  have found : parsed.lookup "kubeconfig" = some controllerRuntimeKubeconfig := by
    rw [FlagSet.lookup, parsed_formal fileRun argRun]
    exact findFlag_routerFlags_kubeconfig lib
  have unset := unvisited_iff fileRun argRun "kubeconfig"
  rw [applyPost_Kubeconfig_controllerRuntime parsed lookup found]
  refine variable_.of_visited unset (fun set => by rw [if_pos set]) (fun notSet => ?_)
  obtain ⟨noArg, noFile⟩ := unset.mp notSet
  have empty : parsed.vars.kubeconfig = "" := variable_.fromEnv noArg noFile
  simp [notSet, empty, field]

end Runs

/-- Each field of the configuration ends with what its flag parses from the
last value the arguments give it, else from the file's value for its key, else
what the environment makes of it, else its default: CLI > file > env >
defaults, whether or not controller-runtime owns the `kubeconfig` flag, with
the OTLP endpoints switching tracing and metrics on only when neither the
arguments nor the file set those flags. -/
theorem configure_layers (lib : ConfigLib F) (controllerRuntime : Bool) (lookup : LookupEnvFunc) (path : String)
    (file : YamlMap F) (args : List String) {c : Config}
    (configured : configure lib controllerRuntime lookup path (.map file) args = .ok c) (f : Field) :
    Layered lib f (argValue lib controllerRuntime args f.flagName) (fileValue lib file f.flagName)
      (envFallback lib lookup f) (c f) := by
  obtain ⟨loaded, parsed, fileRun, argRun, rfl⟩ := configure_runs configured
  by_cases tracing : f = .EnableTracing
  · subst tracing
    exact layered_switch fileRun argRun (by decide) (applyEnvDefaults_of_switch lib Defaults lookup (.inl rfl)) rfl
      (applyPost_EnableTracing parsed lookup)
  by_cases metrics : f = .EnableOTelMetrics
  · subst metrics
    exact layered_switch fileRun argRun (by decide) (applyEnvDefaults_of_switch lib Defaults lookup (.inr rfl)) rfl
      (applyPost_EnableOTelMetrics parsed lookup)
  by_cases owned : f = .Kubeconfig ∧ controllerRuntime = true
  · obtain ⟨rfl, cr⟩ := owned
    exact layered_controllerRuntime fileRun argRun cr
  -- every other field keeps what its own flag layered
  have layered := layered_bound fileRun argRun f fun cr kubeconfig => owned ⟨kubeconfig, cr⟩
  rw [applyEnvDefaults_Defaults lib lookup tracing metrics] at layered
  by_cases kubeconfig : f = .Kubeconfig
  · subst kubeconfig
    have own : controllerRuntime = false := by simpa using owned
    subst own
    have found : parsed.lookup "kubeconfig" = some (configFlag lib .Kubeconfig) := by
      rw [FlagSet.lookup, parsed_formal fileRun argRun]
      exact findFlag_routerFlags lib false .Kubeconfig nofun
    rw [applyPost_Kubeconfig_own parsed lookup found]
    exact layered
  · rw [applyPost_of_ne parsed lookup tracing metrics kubeconfig]
    exact layered

/-- Decimal digits read as a number. -/
def decimal (s : String) : Option Nat :=
  match s.toList with
  | [] => none
  | digits => digits.foldlM (fun n c => if c.isDigit then some (10 * n + (c.toNat - 48)) else none) 0

/-- A stand-in for the standard library that reads decimal numerals only, and
durations as whole seconds. -/
def decimalLib : ConfigLib Nat where
  parseInt s :=
    match decimal s with
    | some n => .ok n
    | none => .error .errSyntax
  parseDuration s :=
    match s.toList.reverse with
    | 's' :: digits => (decimal (String.ofList digits.reverse)).map fun n => n * Second
    | _ => none
  formatDuration d := toString (d / Second) ++ "s"
  trimSpace s := String.ofList ((s.toList.dropWhile Char.isWhitespace).reverse.dropWhile Char.isWhitespace).reverse
  parseFloat := decimal
  positive n := 0 < n
  toDuration n := n * Second
  whole n := some n
  formatFloat n := toString n

/-- An environment with a cluster domain, a kubeconfig and an OTLP endpoint. -/
def routerEnv : LookupEnvFunc := fun name =>
  if name = EnvClusterDomain then some "env.local"
  else if name = EnvKubeconfig then some "/env/kubeconfig"
  else if name = EnvOTLPEndpoint then some "collector:4317"
  else none

/-- A file that sets the cluster domain and turns tracing off. -/
def routerYaml : YamlMap Nat where
  entries := [("cluster-domain", .string "file.local"), ("enable-tracing", .bool false)]
  keysNodup := by decide

def routerArgs : List String := ["--cluster-domain", "cli.local", "--kubeconfig=/cli/kubeconfig"]

/-- With controller-runtime owning the flag, the arguments' kubeconfig is the
one the configuration ends with. -/
theorem configure_layers_routerArgs :
    ∃ c, configure decimalLib true routerEnv "router.yaml" (.map routerYaml) routerArgs = .ok c ∧
      Layered decimalLib .Kubeconfig (argValue decimalLib true routerArgs "kubeconfig")
        (fileValue decimalLib routerYaml "kubeconfig") (envFallback decimalLib routerEnv .Kubeconfig) (c .Kubeconfig) := by
  have succeeds : (configure decimalLib true routerEnv "router.yaml" (.map routerYaml) routerArgs).isOk = true := by
    decide +kernel
  cases configured : configure decimalLib true routerEnv "router.yaml" (.map routerYaml) routerArgs with
  | error err =>
    rw [configured] at succeeds
    cases succeeds
  | ok c =>
    exact ⟨c, rfl, configure_layers decimalLib true routerEnv "router.yaml" routerYaml routerArgs configured .Kubeconfig⟩

/-- The arguments' cluster domain and kubeconfig, and the file's tracing switch
over the OTLP endpoint. -/
example : (configure decimalLib true routerEnv "router.yaml" (.map routerYaml) routerArgs).toOption.map
    (fun c => (c .ClusterDomain, c .EnableTracing, c .Kubeconfig, c .ProxyTimeout)) =
      some ("cli.local", false, "/cli/kubeconfig", 180 * Second) := by
  decide +kernel

end AgentSandbox.Router
