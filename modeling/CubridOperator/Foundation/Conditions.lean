import CubridOperator.Foundation.Clock
import Mathlib.Data.List.Basic

/-!
The conditions of an object's status: setting one keeps the time of its last
change while its status stays the same.
-/
namespace Foundation

inductive ConditionStatus where
  | conditionTrue
  | conditionFalse
  | conditionUnknown
  deriving DecidableEq

structure Condition (κ : Type) where
  type : κ
  status : ConditionStatus
  reason : String
  message : String
  observedGeneration : Int
  lastTransitionTime : Int
  deriving DecidableEq

variable {κ : Type}

def Condition.after (new : Condition κ) : Option (Condition κ) → Condition κ
  | none => new
  | some old =>
    { new with
      lastTransitionTime :=
        if old.status = new.status then old.lastTransitionTime else new.lastTransitionTime }

@[simp] theorem Condition.after_status (new : Condition κ) (old : Option (Condition κ)) :
    (new.after old).status = new.status := by
  cases old <;> rfl

@[simp] theorem Condition.after_reason (new : Condition κ) (old : Option (Condition κ)) :
    (new.after old).reason = new.reason := by
  cases old <;> rfl

@[simp] theorem Condition.after_message (new : Condition κ) (old : Option (Condition κ)) :
    (new.after old).message = new.message := by
  cases old <;> rfl

variable [DecidableEq κ]

def findStatusCondition (type : κ) (conditions : List (Condition κ)) : Option (Condition κ) :=
  conditions.find? (·.type = type)

def isStatusConditionTrue (type : κ) (conditions : List (Condition κ)) : Bool :=
  (findStatusCondition type conditions).any (·.status = .conditionTrue)

def setStatusCondition (new : Condition κ) : List (Condition κ) → List (Condition κ)
  | [] => [new]
  | old :: rest =>
    if old.type = new.type then
      { new with
        lastTransitionTime :=
          if old.status = new.status then
            old.lastTransitionTime else new.lastTransitionTime } :: rest
    else old :: setStatusCondition new rest

def removeStatusCondition (type : κ) (conditions : List (Condition κ)) : List (Condition κ) :=
  conditions.filter (·.type ≠ type)

theorem find_setStatusCondition_self (new : Condition κ) (conditions : List (Condition κ)) :
    findStatusCondition new.type (setStatusCondition new conditions) =
      some (new.after (findStatusCondition new.type conditions)) := by
  induction conditions with
  | nil => simp [setStatusCondition, findStatusCondition, Condition.after]
  | cons old rest ih =>
    by_cases same : old.type = new.type
    · simp [setStatusCondition, findStatusCondition, same, Condition.after]
    · simpa [setStatusCondition, findStatusCondition, same] using ih

theorem find_setStatusCondition_other {type : κ} {new : Condition κ} (other : new.type ≠ type)
    (conditions : List (Condition κ)) :
    findStatusCondition type (setStatusCondition new conditions) =
      findStatusCondition type conditions := by
  induction conditions with
  | nil => simp [setStatusCondition, findStatusCondition, other]
  | cons old rest ih =>
    by_cases same : old.type = new.type
    · simp [setStatusCondition, findStatusCondition, same, other]
    · by_cases this : old.type = type
      · simp [setStatusCondition, findStatusCondition, this, Ne.symm other]
      · simpa [setStatusCondition, findStatusCondition, same, this] using ih

theorem find_removeStatusCondition_other {type removed : κ} (other : removed ≠ type)
    (conditions : List (Condition κ)) :
    findStatusCondition type (removeStatusCondition removed conditions) =
      findStatusCondition type conditions := by
  induction conditions with
  | nil => rfl
  | cons old rest ih =>
    by_cases gone : old.type = removed
    · simpa [removeStatusCondition, findStatusCondition, gone, other] using ih
    · by_cases this : old.type = type
      · simp [removeStatusCondition, findStatusCondition, this, Ne.symm other]
      · simpa [removeStatusCondition, findStatusCondition, gone, this] using ih

end Foundation
