import Mathlib.Data.List.Basic
import AgentSandbox.Lib.GoErrors

/-!
# Go's flag package

A model of a `flag.FlagSet` over the variables its flags are bound to.  A
flag's value is what its `Set` does to those variables, or the error it
returns, and what its `String` reads from them; `isBool` marks the boolean
flags, which take no argument.  `FlagSet.setFlag` is `FlagSet.Set`, which
records the flag among those `Visit` walks, and `FlagSet.parse` is `Parse`.

What `Parse` reads from its arguments depends only on which flags are defined
and which of them are boolean, never on the variables; so it is written as
`scan`, the `Set` calls its grammar makes and how it ends, followed by those
calls in order, the first failing one ending the parse as in `parseOne`.

`Sets fs as fs'` is a run of successful `Set`s.  A variable that one flag alone
writes ends as the last value given to that flag says, or as it was when the
run gives that flag nothing (`Sets.settled`); the flags visited afterwards are
those visited before and those given a value (`Sets.visited_iff`).  A
successful `parse` is such a run over its `assignments` (`parse_sets`).
-/

set_option autoImplicit false

namespace GoFlag

/-- A defined flag: what its `Value.Set` does to the variables, or its error,
its `Value.String`, and whether it is a boolean flag. -/
structure Flag (σ : Type) where
  name : String
  isBool : Bool
  set : String → σ → Except String σ
  get : σ → String

/-- A `FlagSet`: `formal`, the flags in definition order; `actual`, the names
of the flags set so far; `vars`, the variables the flags are bound to. -/
structure FlagSet (σ : Type) where
  formal : List (Flag σ)
  actual : List String
  vars : σ

/-- The errors of `Set` and `Parse`, each with the text Go prints for it. -/
inductive FlagError
  /-- no such flag -NAME -/
  | noSuchFlag (name : String)
  /-- the error of the flag's own `Set`, as it is -/
  | value (err : String)
  /-- bad flag syntax: ARG -/
  | badSyntax (arg : String)
  /-- flag.ErrHelp, for an undefined -help or -h -/
  | help
  /-- flag provided but not defined: -NAME -/
  | notDefined (name : String)
  /-- invalid boolean value "VALUE" for -NAME: ERR -/
  | invalidBoolean (value name err : String)
  /-- invalid boolean flag NAME: ERR -/
  | invalidBooleanFlag (name err : String)
  /-- flag needs an argument: -NAME -/
  | needsArgument (name : String)
  /-- invalid value "VALUE" for flag -NAME: ERR -/
  | invalidValue (value name err : String)
deriving DecidableEq, Repr

/-- The text of strconv.ErrSyntax and strconv.ErrRange as the flag package's
own values report them, errParse and errRange. -/
inductive NumError
  | errSyntax
  | errRange
deriving DecidableEq, Repr

def NumError.text : NumError → String
  | .errSyntax => "parse error"
  | .errRange => "value out of range"

/-- strconv.ParseBool. -/
def parseBool (s : String) : Option Bool :=
  if s ∈ ["1", "t", "T", "TRUE", "true", "True"] then some true
  else if s ∈ ["0", "f", "F", "FALSE", "false", "False"] then some false
  else none

/-- strconv.FormatBool. -/
def formatBool (b : Bool) : String := if b then "true" else "false"

variable {σ : Type}

/-- The flag of `formal` called `name`.  Go panics on a second definition of a
name, so the first one found is the only one. -/
def findFlag (formal : List (Flag σ)) (name : String) : Option (Flag σ) :=
  formal.find? (·.name == name)

theorem findFlag_mem {formal : List (Flag σ)} {name : String} {flag : Flag σ}
    (found : findFlag formal name = some flag) : flag ∈ formal ∧ flag.name = name := by
  have named := List.find?_some found
  exact ⟨List.mem_of_find?_eq_some found, beq_iff_eq.mp named⟩

namespace FlagSet

def lookup (fs : FlagSet σ) (name : String) : Option (Flag σ) := findFlag fs.formal name

/-- `Var`: the flag is defined after the others. -/
def define (fs : FlagSet σ) (flag : Flag σ) : FlagSet σ := { fs with formal := fs.formal ++ [flag] }

/-- Whether `Visit` reaches the flag `name`, that is whether it has been set. -/
def visited (fs : FlagSet σ) (name : String) : Bool := fs.actual.contains name

/-- The end of a successful `Set`: the new variables, and `name` among the
flags set. -/
def record (fs : FlagSet σ) (name : String) (vars : σ) : FlagSet σ :=
  { fs with actual := name :: fs.actual, vars }

/-- `flag.Value.Set(value)` on the flag found under `name`, its error reported
through `failed`. -/
def apply (fs : FlagSet σ) (flag : Flag σ) (name value : String) (failed : String → FlagError) :
    Except FlagError (FlagSet σ) :=
  match flag.set value fs.vars with
  | .error err => .error (failed err)
  | .ok vars => .ok (fs.record name vars)

/-- `FlagSet.Set`. -/
def setFlag (fs : FlagSet σ) (name value : String) : Except FlagError (FlagSet σ) :=
  match fs.lookup name with
  | none => .error (.noSuchFlag name)
  | some flag => fs.apply flag name value .value

end FlagSet

/-- How `parseOne` reads one argument. -/
inductive Arg
  /-- not a flag: `Parse` stops before it -/
  | positional
  /-- the argument `--`: `Parse` stops after it -/
  | terminator
  | badSyntax
  | flag (name : String) (value : Option String)
deriving DecidableEq, Repr

/-- `parseOne`'s reading of an argument: one or two dashes, the name, and the
value after the first `=` that is not the name's first character. -/
def readArg (arg : String) : Arg :=
  match arg.toList with
  | '-' :: second :: rest =>
    if second = '-' ∧ rest = [] then .terminator
    else
      match (if second = '-' then rest else second :: rest) with
      | [] => .badSyntax
      | first :: more =>
        if first = '-' ∨ first = '=' then .badSyntax
        else
          match more.span (· != '=') with
          | (name, []) => .flag (String.ofList (first :: name)) none
          | (name, _ :: value) => .flag (String.ofList (first :: name)) (some (String.ofList value))
  | _ => .positional

/-- One `Set` that `Parse` makes: the flag found, the name it was found under,
the value, and the error a failing `Set` is reported as. -/
structure Call (σ : Type) where
  flag : Flag σ
  name : String
  value : String
  failed : String → FlagError

/-- The calls of a scan, and how `Parse` ends when they all succeed: with the
arguments left, or with a syntax error. -/
abbrev Scan (σ : Type) := List (Call σ) × Except FlagError (List String)

def Call.before (call : Call σ) (rest : Scan σ) : Scan σ := (call :: rest.1, rest.2)

/-- `parseOne` repeated until it stops, without running the `Set`s it calls. -/
def scan (formal : List (Flag σ)) : List String → Scan σ
  | [] => ([], .ok [])
  | arg :: rest =>
    match readArg arg with
    | .positional => ([], .ok (arg :: rest))
    | .terminator => ([], .ok rest)
    | .badSyntax => ([], .error (.badSyntax arg))
    | .flag name value =>
      match findFlag formal name with
      | none => ([], .error (if name = "help" ∨ name = "h" then .help else .notDefined name))
      | some flag =>
        if flag.isBool then
          -- a boolean flag takes no argument: `-name` alone is `-name=true`
          match value with
          | some v => Call.before ⟨flag, name, v, .invalidBoolean v name⟩ (scan formal rest)
          | none => Call.before ⟨flag, name, "true", .invalidBooleanFlag name⟩ (scan formal rest)
        else
          match value with
          | some v => Call.before ⟨flag, name, v, .invalidValue v name⟩ (scan formal rest)
          | none =>
            -- the value is the next argument
            match rest with
            | v :: more => Call.before ⟨flag, name, v, .invalidValue v name⟩ (scan formal more)
            | [] => ([], .error (.needsArgument name))

namespace FlagSet

/-- The calls made in order, the first failing one ending the run. -/
def applyAll (fs : FlagSet σ) (calls : List (Call σ)) : Except FlagError (FlagSet σ) :=
  calls.foldlM (fun fs call => fs.apply call.flag call.name call.value call.failed) fs

/-- `Parse`: the flag set after the arguments' `Set`s, and the arguments left. -/
def parse (fs : FlagSet σ) (args : List String) : Except FlagError (FlagSet σ × List String) := do
  let fs' ← fs.applyAll (scan fs.formal args).1
  let left ← (scan fs.formal args).2
  pure (fs', left)

end FlagSet

/-- The `(name, value)` pairs the arguments set, in order. -/
def assignments (formal : List (Flag σ)) (args : List String) : List (String × String) :=
  (scan formal args).1.map fun call => (call.name, call.value)

/-- The value the last assignment to `name` gives, if there is one. -/
def lastValue (name : String) : List (String × String) → Option String
  | [] => none
  | (n, v) :: rest => (lastValue name rest).or (if n = name then some v else none)

/-- Setting the assignments `as` in order from `fs` succeeds, ending in `fs'`. -/
inductive Sets : FlagSet σ → List (String × String) → FlagSet σ → Prop
  | nil (fs : FlagSet σ) : Sets fs [] fs
  | cons {fs fs' : FlagSet σ} {flag : Flag σ} {name value : String} {vars : σ}
      {rest : List (String × String)} :
      fs.lookup name = some flag → flag.set value fs.vars = .ok vars →
      Sets (fs.record name vars) rest fs' → Sets fs ((name, value) :: rest) fs'

section FlagSet

variable {fs fs' : FlagSet σ}

@[simp] theorem define_vars (flag : Flag σ) : (fs.define flag).vars = fs.vars := rfl

@[simp] theorem define_actual (flag : Flag σ) : (fs.define flag).actual = fs.actual := rfl

@[simp] theorem define_formal (flag : Flag σ) : (fs.define flag).formal = fs.formal ++ [flag] := rfl

@[simp] theorem record_formal (name : String) (vars : σ) : (fs.record name vars).formal = fs.formal := rfl

@[simp] theorem record_vars (name : String) (vars : σ) : (fs.record name vars).vars = vars := rfl

@[simp] theorem visited_record (name n : String) (vars : σ) :
    (fs.record name vars).visited n = true ↔ n = name ∨ fs.visited n = true := by
  simp [FlagSet.record, FlagSet.visited]

theorem lastValue_eq_none_iff (name : String) :
    ∀ as : List (String × String), lastValue name as = none ↔ name ∉ as.map Prod.fst
  | [] => by simp [lastValue]
  | (n, v) :: rest => by
    rw [lastValue, Option.or_eq_none_iff, lastValue_eq_none_iff name rest]
    by_cases same : n = name
    · simp [same]
    · simp [same, Ne.symm same]

theorem apply_ok {flag : Flag σ} {name value : String} {failed : String → FlagError}
    (applied : fs.apply flag name value failed = .ok fs') :
    ∃ vars, flag.set value fs.vars = .ok vars ∧ fs' = fs.record name vars := by
  unfold FlagSet.apply at applied
  split at applied
  case h_1 => cases applied
  case h_2 vars changed =>
    cases applied
    exact ⟨vars, changed, rfl⟩

theorem Sets.of_setFlag {fs₁ : FlagSet σ} {name value : String} {rest : List (String × String)}
    (set : fs.setFlag name value = .ok fs₁) (run : Sets fs₁ rest fs') : Sets fs ((name, value) :: rest) fs' := by
  unfold FlagSet.setFlag at set
  split at set
  case h_1 => cases set
  case h_2 flag found =>
    obtain ⟨vars, changed, rfl⟩ := apply_ok set
    exact .cons found changed run

theorem Sets.formal_eq {as : List (String × String)} (run : Sets fs as fs') : fs'.formal = fs.formal := by
  induction run with
  | nil => rfl
  | cons _ _ _ ih => exact ih

theorem Sets.visited_iff {as : List (String × String)} (run : Sets fs as fs') (n : String) :
    fs'.visited n = true ↔ fs.visited n = true ∨ n ∈ as.map Prod.fst := by
  induction run with
  | nil => simp
  | @cons fs fs' flag name value vars rest _ _ _ ih =>
    rw [ih, visited_record, List.map_cons, List.mem_cons]
    tauto

end FlagSet

section Binding

variable {π : Type} (proj : σ → π) (name : String) (accepts : String → π → Prop)

/-- Among `formal`, the flag `name` alone writes the variable `proj`, to a value
that `accepts` relates to the text it was given. -/
structure Binds (formal : List (Flag σ)) : Prop where
  writes : ∀ flag, findFlag formal name = some flag → ∀ v s s', flag.set v s = .ok s' → accepts v (proj s')
  keeps : ∀ n flag, n ≠ name → findFlag formal n = some flag →
    ∀ v s s', flag.set v s = .ok s' → proj s' = proj s

/-- Where a run of `Set`s leaves a variable, given the last value its flag got
in the run: what that value says, or as it was before. -/
def Settled (last : Option String) (before after : π) : Prop :=
  match last with
  | some v => accepts v after
  | none => after = before

@[simp] theorem settled_some (v : String) (before after : π) :
    Settled accepts (some v) before after ↔ accepts v after := Iff.rfl

@[simp] theorem settled_none (before after : π) : Settled accepts none before after ↔ after = before := Iff.rfl

theorem Sets.proj_eq {fs fs' : FlagSet σ} {as : List (String × String)}
    (keeps : ∀ n flag, findFlag fs.formal n = some flag → ∀ v s s', flag.set v s = .ok s' → proj s' = proj s)
    (run : Sets fs as fs') : proj fs'.vars = proj fs.vars := by
  induction run with
  | nil => rfl
  | @cons fs fs' flag n v vars rest found changed _ ih =>
    rw [ih keeps, record_vars]
    exact keeps n flag found v _ _ changed

variable {proj name accepts}

/-- The last value a run gives the flag `name` decides the variable it alone
writes, by induction on the run. -/
theorem Sets.settled {fs fs' : FlagSet σ} {as : List (String × String)}
    (binds : Binds proj name accepts fs.formal) (run : Sets fs as fs') :
    Settled accepts (lastValue name as) (proj fs.vars) (proj fs'.vars) := by
  induction run with
  | nil => rfl
  | @cons fs fs' flag n v vars rest found changed _ ih =>
    have later := ih binds
    rw [lastValue]
    cases last : lastValue name rest with
    | some w =>
      rw [last] at later
      exact later
    | none =>
      rw [last, settled_none, record_vars] at later
      -- no later assignment to `name`: this `Set` decides
      by_cases same : n = name
      · subst same
        rw [if_pos rfl, Option.none_or, settled_some, later]
        exact binds.writes flag found v _ _ changed
      · rw [if_neg same, Option.none_or, settled_none, later]
        exact binds.keeps n flag same found v _ _ changed

end Binding

section Parse

variable {formal : List (Flag σ)}

theorem scan_findFlag (args : List String) : ∀ call ∈ (scan formal args).1, findFlag formal call.name = some call.flag := by
  fun_induction scan formal args <;>
    simp_all [Call.before, or_imp]

theorem applyAll_sets {fs fs' : FlagSet σ} :
    ∀ calls : List (Call σ), (∀ call ∈ calls, findFlag fs.formal call.name = some call.flag) →
      fs.applyAll calls = .ok fs' → Sets fs (calls.map fun call => (call.name, call.value)) fs'
  | [], _, ran => by
    cases ran
    exact .nil fs
  | call :: calls, found, ran => by
    rw [FlagSet.applyAll, List.foldlM_cons, GoErrors.bind_eq_ok] at ran
    obtain ⟨fs₁, applied, later⟩ := ran
    obtain ⟨vars, changed, rfl⟩ := apply_ok applied
    have rest : ∀ c ∈ calls, findFlag (fs.record call.name vars).formal c.name = some c.flag :=
      fun c mem => found c (List.mem_cons_of_mem _ mem)
    exact .cons (found call List.mem_cons_self) changed (applyAll_sets calls rest later)

theorem parse_sets {fs fs' : FlagSet σ} {args left : List String} (parsed : fs.parse args = .ok (fs', left)) :
    Sets fs (assignments fs.formal args) fs' := by
  simp only [FlagSet.parse, GoErrors.bind_eq_ok, GoErrors.pure_eq_ok, Prod.mk.injEq] at parsed
  obtain ⟨fs₁, ran, _, _, rfl, _⟩ := parsed
  exact applyAll_sets _ (scan_findFlag args) ran

end Parse

end GoFlag
