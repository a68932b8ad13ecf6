import Mathlib.Data.List.Basic

/-!
# Status conditions

`metav1.Condition` and the helpers of `k8s.io/apimachinery/pkg/api/meta` that
the controllers use on condition lists, as their documentation states them:
`FindStatusCondition` returns the first condition of a type,
`RemoveStatusCondition` removes every condition of a type, and
`SetStatusCondition` updates the first condition of the new condition's type
(moving its transition time only when the status changes) or appends the new
condition.  Times are seconds; `none` is Go's zero time.
-/

set_option autoImplicit false

namespace AgentSandbox.Meta

inductive ConditionStatus
  | conditionTrue
  | conditionFalse
  | conditionUnknown
deriving DecidableEq, Repr

structure Condition where
  type : String
  status : ConditionStatus
  reason : String
  message : String
  lastTransitionTime : Option Int
deriving DecidableEq, Repr

def findStatusCondition (conditions : List Condition) (conditionType : String) : Option Condition :=
  conditions.find? fun c => c.type == conditionType

def removeStatusCondition (conditions : List Condition) (conditionType : String) : List Condition :=
  conditions.filter fun c => c.type != conditionType

/-- What `SetStatusCondition` writes into the existing condition of the type. -/
def Condition.update (now : Int) (existing new : Condition) : Condition :=
  { existing with
    status := new.status
    lastTransitionTime :=
      if existing.status != new.status then some (new.lastTransitionTime.getD now)
      else existing.lastTransitionTime
    reason := new.reason
    message := new.message }

def setStatusCondition (now : Int) : List Condition → Condition → List Condition
  | [], new => [{ new with lastTransitionTime := some (new.lastTransitionTime.getD now) }]
  | c :: rest, new =>
      if c.type == new.type then c.update now new :: rest else c :: setStatusCondition now rest new

/-! ## Reading a list after an edit -/

variable {conditions : List Condition} {conditionType : String}

theorem findStatusCondition_type {c : Condition} (found : findStatusCondition conditions conditionType = some c) :
    c.type = conditionType := by
  simpa using List.find?_some found

/-- After `SetStatusCondition`, the condition of the new type carries the new
status, reason and message. -/
theorem findStatusCondition_set_self (now : Int) (new : Condition) :
    ∀ conditions : List Condition, ∃ c, findStatusCondition (setStatusCondition now conditions new) new.type = some c ∧
      c.status = new.status ∧ c.reason = new.reason ∧ c.message = new.message
  | [] => ⟨{ new with lastTransitionTime := some (new.lastTransitionTime.getD now) },
      by simp [setStatusCondition, findStatusCondition], rfl, rfl, rfl⟩
  | c :: rest => by
      by_cases same : c.type = new.type
      · refine ⟨c.update now new, ?_, rfl, rfl, rfl⟩
        simp [setStatusCondition, findStatusCondition, same, Condition.update]
      · obtain ⟨found, search, facts⟩ := findStatusCondition_set_self now new rest
        refine ⟨found, ?_, facts⟩
        simpa [setStatusCondition, findStatusCondition, same] using search

theorem findStatusCondition_set_of_ne (now : Int) (new : Condition) (other : conditionType ≠ new.type) :
    ∀ conditions : List Condition,
      findStatusCondition (setStatusCondition now conditions new) conditionType =
        findStatusCondition conditions conditionType
  | [] => by simp [setStatusCondition, findStatusCondition, Ne.symm other]
  | c :: rest => by
      have ih := findStatusCondition_set_of_ne now new other rest
      by_cases same : c.type = new.type
      · -- the updated condition keeps its type, which is not the one sought
        simp only [findStatusCondition, setStatusCondition, same, beq_self_eq_true, if_true,
          List.find?_cons, Condition.update]
        rw [beq_eq_false_iff_ne.mpr (Ne.symm other)]
      · simp only [findStatusCondition] at ih ⊢
        simp only [setStatusCondition, beq_iff_eq, same, if_false, List.find?_cons, ih]

@[simp] theorem findStatusCondition_remove_self :
    findStatusCondition (removeStatusCondition conditions conditionType) conditionType = none := by
  simp [findStatusCondition, removeStatusCondition]

theorem findStatusCondition_remove_of_ne {other : String} (differs : other ≠ conditionType) :
    findStatusCondition (removeStatusCondition conditions conditionType) other =
      findStatusCondition conditions other := by
  simp only [findStatusCondition, removeStatusCondition, List.find?_filter]
  congr 1
  funext c
  by_cases same : c.type = other
  · simp [same, differs]
  · simp [same]

end AgentSandbox.Meta
