import CubridOperator.Controller.HAStatus

/-!
The conditions of the Broker tier of an HA cluster after its objects were
written, could not be written, or were left.
-/
namespace Controller
open Foundation

variable {ρ : Type}

structure BrokersAvailable where
  rw : Int
  ro : Int
  deriving DecidableEq

inductive BrokerWrite where
  | done (available : BrokersAvailable)
  | conflict (cause : String)
  | terminating
  | failed (cause : String)
  deriving DecidableEq

def brokerReplicas : Int := 2

def endpointVerdict (n : Int) (mode service : String) : Verdict :=
  if n > 0 then
    ⟨.conditionTrue, "BrokerAvailable", toString n ++ " of " ++ toString brokerReplicas ++
      " " ++ mode ++
      " Broker Pods available behind " ++ service⟩
  else
    ⟨.conditionFalse, "NoBrokerAvailable",
      "no " ++ mode ++ " Broker Pod is available behind " ++ service⟩

def setEndpointConditions (s : ClusterStatus ρ) (ctx : PassContext) (available : BrokersAvailable) :
    ClusterStatus ρ :=
  let s := s.setCondition ctx .writeEndpointReady
    (endpointVerdict available.rw "rw" (ctx.cluster ++ "-rw"))
  let s :=
    s.setCondition ctx .readEndpointReady (endpointVerdict available.ro "ro" (ctx.cluster ++ "-ro"))
  s.setCondition ctx .brokerReady (if available.rw > 0 ∧ available.ro > 0 then
      ⟨.conditionTrue, "BrokersAvailable", "read-write and read-only Brokers are available"⟩
    else
      ⟨.conditionFalse, "BrokersNotAvailable", "not every access mode has an available Broker Pod"⟩)

def routingUnresolved (res : PrimaryResolution) : Option Verdict :=
  if res.status = .conditionTrue ∧ res.currentPrimary ≠ "" then none
  else some ⟨.conditionFalse, if res.reason ≠ "" then res.reason else "AmbiguousPrimary",
    "write-endpoint safety not claimed until a single primary is resolved"⟩

def routingText (primary : String) : String := "RW routing target resolved: " ++ primary

def setBrokerConditions (s : ClusterStatus ρ) (ctx : PassContext) (res : PrimaryResolution)
    (available : BrokersAvailable) : ClusterStatus ρ :=
  (setEndpointConditions s ctx available).setCondition ctx .routingReady <|
    match routingUnresolved res with
    | some verdict => verdict
    | none =>
      if available.rw > 0 then ⟨.conditionTrue, "PrimaryResolved", routingText res.currentPrimary⟩
      else ⟨.conditionFalse, "NoBrokerAvailable", "the primary is " ++ res.currentPrimary ++
        ", but no rw Broker Pod is available to route writes to it"⟩

def reasonBrokerReconcileFailed : String := "BrokerReconcileFailed"

def setBrokerConditionsUnobserved (s : ClusterStatus ρ) (ctx : PassContext)
    (res : PrimaryResolution) (cause : String) : ClusterStatus ρ :=
  let msg := "the Brokers were not observed in this reconcile: " ++ cause
  let unknown : Verdict := ⟨.conditionUnknown, reasonBrokerReconcileFailed, msg⟩
  let s := s.setCondition ctx .brokerReady ⟨.conditionFalse, reasonBrokerReconcileFailed, cause⟩
  let s := s.setCondition ctx .writeEndpointReady unknown
  let s := s.setCondition ctx .readEndpointReady unknown
  s.setCondition ctx .routingReady ((routingUnresolved res).getD unknown)

def conflictPatience : Int := seconds 30

/-- The tier is reconciled. A conflict that is still young, and a namespace that
    is being deleted, leave the conditions as they are. -/
def brokerTier (s : ClusterStatus ρ) (ctx : PassContext) (since : Option Int)
    (res : PrimaryResolution) : BrokerWrite → ClusterStatus ρ × Option Int
  | .done available => (setBrokerConditions s ctx res available, none)
  | .terminating => (s, none)
  | .failed cause => (setBrokerConditionsUnobserved s ctx res cause, none)
  | .conflict cause =>
    let start := since.getD ctx.now
    if ctx.now - start ≤ conflictPatience then (s, some start)
    else (setBrokerConditionsUnobserved s ctx res
      ("the write has been rejected as a conflict for more than 30s: " ++ cause), some start)

def leavesConditions (ctx : PassContext) (since : Option Int) : BrokerWrite → Bool
  | .terminating => true
  | .conflict _ => ctx.now - since.getD ctx.now ≤ conflictPatience
  | _ => false

section Effects

variable (s : ClusterStatus ρ) (ctx : PassContext) (since : Option Int) (res : PrimaryResolution)
  (write : BrokerWrite)

theorem brokerTier_left (leaves : leavesConditions ctx since write = true) :
    (brokerTier s ctx since res write).1 = s := by
  cases write with
  | terminating => rfl
  | conflict cause =>
    simp only [leavesConditions, decide_eq_true_eq] at leaves
    simp [brokerTier, leaves]
  | done | failed => cases leaves

theorem brokerTier_other {type : ConditionType}
    (other : type ∉ [.brokerReady, .writeEndpointReady, .readEndpointReady, .routingReady]) :
    (brokerTier s ctx since res write).1.condition type = s.condition type := by
  simp only [List.mem_cons, List.not_mem_nil, or_false, not_or] at other
  obtain ⟨broker, writing, read, routing⟩ := other
  cases write <;> simp only [brokerTier, setBrokerConditions, setEndpointConditions,
    setBrokerConditionsUnobserved] <;> try split_ifs
  all_goals simp [Ne.symm broker, Ne.symm writing, Ne.symm read, Ne.symm routing]

theorem brokerTier_currentPrimary :
    (brokerTier s ctx since res write).1.currentPrimary = s.currentPrimary := by
  cases write <;> simp only [brokerTier] <;> try split_ifs
  all_goals rfl

theorem brokerTier_instances : (brokerTier s ctx since res write).1.instances = s.instances := by
  cases write <;> simp only [brokerTier] <;> try split_ifs
  all_goals rfl

theorem brokerTier_routing (sets : leavesConditions ctx since write = false)
    {c : Condition ConditionType}
    (is : (brokerTier s ctx since res write).1.condition .routingReady = some c)
    (ready : c.status = .conditionTrue) :
    res.status = .conditionTrue ∧ c.message = routingText res.currentPrimary := by
  have unobserved : ∀ cause, (setBrokerConditionsUnobserved s ctx res cause).condition
      .routingReady = some c → c.status ≠ .conditionTrue := by
    intro cause set
    simp only [setBrokerConditionsUnobserved, ClusterStatus.condition_setCondition_self,
      Option.some.injEq] at set
    rw [← set]
    unfold routingUnresolved
    split_ifs <;> simp [ClusterStatus.newCondition]
  cases write with
  | terminating => cases sets
  | failed cause => exact absurd ready (unobserved cause is)
  | conflict cause =>
    simp only [leavesConditions, decide_eq_false_iff_not] at sets
    simp only [brokerTier, sets, if_false] at is
    exact absurd ready (unobserved _ is)
  | done available =>
    simp only [brokerTier, setBrokerConditions, ClusterStatus.condition_setCondition_self,
      Option.some.injEq] at is
    subst is
    unfold routingUnresolved at ready ⊢
    split_ifs at ready ⊢ with resolved
    all_goals simp_all [ClusterStatus.newCondition]

end Effects
end Controller
