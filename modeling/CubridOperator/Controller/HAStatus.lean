import CubridOperator.Controller.Replication

/-!
The part of a cluster's status that rests on the members' roles, with the
conditions PrimaryResolved, ReplicationHealthy and HAReady.
-/
namespace Controller
open Foundation

inductive ConditionType where
  | ready
  | progressing
  | haReady
  | primaryResolved
  | replicationHealthy
  | brokerReady
  | writeEndpointReady
  | readEndpointReady
  | routingReady
  | bootstrapReady
  | updating
  | memberPlacement
  deriving DecidableEq

structure InstanceStatus where
  name : String
  ordinal : Nat
  role : CubridRole
  ready : Bool
  observedEngineVersion : String
  replication : Option InstanceReplication
  lastObservedTime : Option Int
  unfinishedDatabase : Option InstanceUnfinishedDatabase
  deriving DecidableEq

/-- `ρ` is what the status holds besides. -/
structure ClusterStatus (ρ : Type) where
  currentPrimary : String := ""
  instances : List InstanceStatus := []
  lastObservedTime : Option Int := none
  conditions : List (Condition ConditionType) := []
  rest : ρ
  deriving DecidableEq

/-- What a pass is given besides the status: its cluster, the generation, the
    clock that judges observations and the one that dates conditions. -/
structure PassContext where
  cluster : String
  generation : Int
  now : Int
  wall : Int

structure Verdict where
  status : ConditionStatus
  reason : String
  message : String
  deriving DecidableEq

variable {ρ : Type}

namespace ClusterStatus

def condition (s : ClusterStatus ρ) (type : ConditionType) : Option (Condition ConditionType) :=
  findStatusCondition type s.conditions

def isTrue (s : ClusterStatus ρ) (type : ConditionType) : Bool :=
  isStatusConditionTrue type s.conditions

def newCondition (ctx : PassContext) (type : ConditionType) (verdict : Verdict) :
    Condition ConditionType :=
  { type, status := verdict.status, reason := verdict.reason, message := verdict.message,
    observedGeneration := ctx.generation, lastTransitionTime := ctx.wall }

def setCondition (s : ClusterStatus ρ) (ctx : PassContext) (type : ConditionType)
    (verdict : Verdict) : ClusterStatus ρ :=
  { s with conditions := setStatusCondition (newCondition ctx type verdict) s.conditions }

variable (s : ClusterStatus ρ) (ctx : PassContext) (type : ConditionType) (verdict : Verdict)

@[simp] theorem condition_setCondition_self :
    (s.setCondition ctx type verdict).condition type =
      some ((newCondition ctx type verdict).after (s.condition type)) :=
  find_setStatusCondition_self (newCondition ctx type verdict) s.conditions

@[simp] theorem condition_setCondition_other {other : ConditionType} (differs : type ≠ other) :
    (s.setCondition ctx type verdict).condition other = s.condition other :=
  find_setStatusCondition_other (show (newCondition ctx type verdict).type ≠ other from differs)
    s.conditions

theorem isTrue_eq : s.isTrue type = (s.condition type).any (·.status = .conditionTrue) := rfl

@[simp] theorem isTrue_setCondition_self :
    (s.setCondition ctx type verdict).isTrue type = decide (verdict.status = .conditionTrue) := by
  simp [isTrue_eq, newCondition]

@[simp] theorem isTrue_setCondition_other {other : ConditionType} (differs : type ≠ other) :
    (s.setCondition ctx type verdict).isTrue other = s.isTrue other := by
  simp only [isTrue_eq, s.condition_setCondition_other ctx type verdict differs]

end ClusterStatus

def entryOf (previous : List InstanceStatus) (m : String) : Option InstanceStatus :=
  previous.reverse.find? (·.name = m)

def withSourceLogEnd (r : ReplicationObservation) (obs : Observations) (now : Int) :
    ReplicationObservation :=
  if obs.counts now r.source ∧ (obs.of r.source).role = roleMaster ∧
    (obs.of r.source).logEnd ≠ none then
    { r with sourceLogEnd := (obs.of r.source).logEnd }
  else r

def instanceStatus (obs : Observations) (now : Int) (previous : List InstanceStatus)
    (positions : Positions) (ordinal : Nat) (m : String) : InstanceStatus :=
  let o := obs.of m
  let before := entryOf previous m
  let role := if obs.counts now m then o.role else roleUnknown
  let answered := (obs m).isSome && fresh o now
  -- An answer that contradicts itself is not counted as this member's.
  let counted := answered && !o.conflicting
  { name := m, ordinal, role
    ready := obs.counts now m ∧ (role = roleMaster ∨ role = roleSlave ∨ role = roleReplica)
    observedEngineVersion := if answered then o.engineVersion else ""
    lastObservedTime := if counted then some now else before.bind (·.lastObservedTime)
    unfinishedDatabase := if counted then o.unfinished else before.bind (·.unfinishedDatabase)
    replication := if role = roleSlave then
        nextReplication (before.bind (·.replication))
          (o.replication.map (withSourceLogEnd · obs now))
          (positions m) now
      else none }

def instanceStatuses (members : List String) (obs : Observations) (now : Int)
    (previous : List InstanceStatus) (positions : Positions) : List InstanceStatus :=
  members.mapIdx (instanceStatus obs now previous positions)

def reasonHealthyReplication : String := "HealthyReplication"
def reasonReplicasNotObserved : String := "ReplicasNotObserved"
def reasonRolesNotObserved : String := "RolesNotObserved"
def reasonReplicationStalled : String := "ReplicationStalled"
def reasonApplyFailures : String := "ApplyFailures"
def reasonLogCopyStalled : String := "LogCopyStalled"
def reasonReplicationNotObserved : String := "ReplicationNotObserved"
def reasonAppliersProgressing : String := "AppliersProgressing"

def joined (names : List String) : String := ", ".intercalate names

def lasted (since : Option Int) (now : Int) : Bool :=
  since.any fun t => now - t ≥ replicationStallWindow

inductive SlaveFinding where
  | unread
  | failing
  | stalled
  | notReceiving
  | applies
  deriving DecidableEq

def slaveFinding (inst : InstanceStatus) (obs : Observations) (now : Int) : SlaveFinding :=
  match inst.replication, (obs.of inst.name).replication with
  | some r, some _ =>
    if r.failCount > 0 then .failing
    else if lasted r.stalledSince now then .stalled
    else if lasted r.notReceivingSince now then .notReceiving
    else .applies
  | _, _ => .unread

def replicationCondition (instances : List InstanceStatus) (obs : Observations) (now : Int) :
    Verdict :=
  let slaves := instances.filter (·.role = roleSlave)
  let found :=
    fun finding => (slaves.filter fun inst => slaveFinding inst obs now = finding).map (·.name)
  if found .failing ≠ [] then
    ⟨.conditionFalse, reasonApplyFailures,
      "the log applier could not apply every change on: " ++ joined (found .failing)⟩
  else if found .stalled ≠ [] then
    ⟨.conditionFalse, reasonReplicationStalled,
      "log pages have waited for 1m0s or longer with nothing applied on: " ++ joined
        (found .stalled)⟩
  else if found .notReceiving ≠ [] then
    ⟨.conditionFalse, reasonLogCopyStalled,
      "the copy of the master's log has not grown for 1m0s or longer " ++
      "while pages of it waited to be copied, on: " ++ joined (found .notReceiving)⟩
  else if slaves = [] then
    ⟨.conditionUnknown, reasonReplicationNotObserved, "no slave was observed"⟩
  else if found .unread ≠ [] then
    ⟨.conditionUnknown, reasonReplicationNotObserved,
      "the log applier could not be read on: " ++ joined (found .unread)⟩
  else ⟨.conditionTrue, reasonAppliersProgressing, "every observed slave applies the master's log"⟩

def primaryResolvedMessage (res : PrimaryResolution) : String :=
  if res.currentPrimary ≠ "" then "current primary: " ++ res.currentPrimary
  else if res.reason = reasonTokenRefused then
    "no single authoritative primary observed: " ++
      (if res.tokenRefused.length > 1 then "the Instance Managers of "
        else "the Instance Manager of ") ++
      joined res.tokenRefused ++ " refused the cluster's token"
  else "no single authoritative primary observed"

def replicationDecided (c : Option (Condition ConditionType)) : Bool :=
  c.any fun c =>
    if c.reason = reasonHealthyReplication then c.status = .conditionTrue
    else c.reason ∈ [reasonReplicationStalled, reasonApplyFailures, reasonLogCopyStalled] ∧
      c.status = .conditionFalse

def young (t : Option Int) (now : Int) : Bool := t.any fun t => now - t < replicationStallWindow

def unreadRecently (instances : List InstanceStatus) (obs : Observations) (now : Int) : Bool :=
  instances.all fun inst =>
    inst.role ≠ roleSlave ∨ (obs.of inst.name).replication.isSome ∨
      young (inst.replication.bind (·.observedAt)) now

def resolvedText (primary : String) : String := "single primary resolved: " ++ primary

def unobservedAmong (primary : String) (instances : List InstanceStatus) : List InstanceStatus :=
  instances.filter fun inst => inst.name ≠ primary ∧ inst.role ≠ roleSlave

def haReadyCondition (res : PrimaryResolution) (instances : List InstanceStatus)
    (obs : Observations) (previous : Option (Condition ConditionType)) (repl : Verdict)
    (now : Int) : Verdict :=
  if res.status ≠ .conditionTrue then ⟨.conditionFalse, res.reason, primaryResolvedMessage res⟩
  else
    let resolved := resolvedText res.currentPrimary
    let unobserved := unobservedAmong res.currentPrimary instances
    let recent := unobserved.all fun inst => young inst.lastObservedTime now
    let hold := previous.filter fun _ => replicationDecided previous && recent && unreadRecently
      instances obs now
    if repl.status = .conditionFalse then
      ⟨.conditionFalse, repl.reason, resolved ++ "; replication: " ++ repl.message⟩
    else if unobserved ≠ [] then
      match hold with
      | some previous => ⟨previous.status, previous.reason, previous.message⟩
      | none => ⟨.conditionUnknown, reasonReplicasNotObserved,
          resolved ++ "; not observed as a slave: " ++ joined (unobserved.map (·.name))⟩
    else if instances.length ≤ 1 ∨ repl.status = .conditionTrue then
      ⟨.conditionTrue, reasonHealthyReplication, resolved⟩
    else
      match hold with
      | some previous => ⟨previous.status, previous.reason, previous.message⟩
      | none => ⟨repl.status, repl.reason, resolved ++ "; replication: " ++ repl.message⟩

/-- The observation of the roles, over the members' replies, and what the
    status says of them afterwards. -/
def reconcileHAStatus (s : ClusterStatus ρ) (ctx : PassContext) (members : List String)
    (answers : Answers) (positions : Positions) : ClusterStatus ρ × PrimaryResolution :=
  let obs := probeAll members answers
  let res := resolvePrimary members obs ctx.now
  let instances := instanceStatuses members obs ctx.now s.instances (positions.readings ctx.now)
  let s :=
    { s with currentPrimary := res.currentPrimary, instances, lastObservedTime := some ctx.now }
  let s := s.setCondition ctx .primaryResolved ⟨res.status, res.reason, primaryResolvedMessage res⟩
  let repl := replicationCondition instances obs ctx.now
  let s := s.setCondition ctx .replicationHealthy repl
  let ha := haReadyCondition res instances obs (s.condition .haReady) repl ctx.now
  (s.setCondition ctx .haReady ha, res)

/-- For a reconcile that ends before the roles are observed. -/
def markRolesNotObserved (s : ClusterStatus ρ) (ctx : PassContext) (why : String) :
    ClusterStatus ρ :=
  let s := { s with
    currentPrimary := ""
    instances := s.instances.map fun inst => { inst with role := roleUnknown } }
  [ConditionType.primaryResolved, .haReady, .routingReady, .replicationHealthy].foldl
    (fun s type => s.setCondition ctx type
      ⟨.conditionUnknown, reasonRolesNotObserved,
        "roles were not observed in this reconcile: " ++ why⟩) s

theorem markRolesNotObserved_isTrue (s : ClusterStatus ρ) (ctx : PassContext) (why : String)
    {type : ConditionType}
    (role : type ∈ [.primaryResolved, .haReady, .routingReady, .replicationHealthy]) :
    (markRolesNotObserved s ctx why).isTrue type = false := by
  simp only [List.mem_cons, List.not_mem_nil, or_false] at role
  rcases role with rfl | rfl | rfl | rfl <;> simp [markRolesNotObserved]

theorem markRolesNotObserved_other (s : ClusterStatus ρ) (ctx : PassContext) (why : String)
    {type : ConditionType}
    (other : type ∉ [.primaryResolved, .haReady, .routingReady, .replicationHealthy]) :
    (markRolesNotObserved s ctx why).condition type = s.condition type := by
  simp only [List.mem_cons, List.not_mem_nil, or_false, not_or] at other
  obtain ⟨primary, ha, routing, replication⟩ := other
  simp [markRolesNotObserved, Ne.symm primary, Ne.symm ha, Ne.symm routing, Ne.symm replication]
  rfl

def heldTime (stored current : Option Int) (now : Int) : Option Int :=
  match stored, current with
  | some before, some t =>
    if t < before then current
    else if now - before < 0 ∨ now - before ≥ observationWriteInterval then current
    else stored
  | _, _ => current

def holdInstance (stored : List InstanceStatus) (now : Int) (inst : InstanceStatus) :
    InstanceStatus :=
  match entryOf stored inst.name with
  | none => inst
  | some prev =>
    { inst with
      lastObservedTime := heldTime prev.lastObservedTime inst.lastObservedTime now
      replication := inst.replication.map fun r =>
        match prev.replication with
        | none => r
        | some before => { r with observedAt := heldTime before.observedAt r.observedAt now } }

/-- The stored times are kept when nothing but them would change. -/
def holdObservationTimes [DecidableEq ρ] (stored s : ClusterStatus ρ) (now : Int) :
    ClusterStatus ρ :=
  let held := { s with
    lastObservedTime := heldTime stored.lastObservedTime s.lastObservedTime now
    instances := s.instances.map (holdInstance stored.instances now) }
  if held = stored then held else s

end Controller
