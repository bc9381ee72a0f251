import CubridOperator.Controller.BootstrapReconcile
import Mathlib.Logic.Relation

/-!
The bootstrap of a cluster's first database as a machine over the records of its
steps. Every move rests on what its reconcile was told.
-/
namespace Controller
open Foundation InstanceManager

abbrev ClusterEntry := Entry CubridCluster StartBody ClusterQuery ClusterQuery.Ans
abbrev ClusterPart := OperatorPart CubridCluster StartBody ClusterQuery ClusterQuery.Ans

instance clusterDefinition : Coe CubridCluster ClusterDefinition :=
  ⟨CubridCluster.toClusterDefinition⟩

structure Boot where
  database : DatabaseStatus
  recovery : Option BootstrapStatus

def CubridCluster.boot (c : CubridCluster) : Boot := ⟨c.database, c.status.rest.bootstrap⟩

def ClusterDefinition.nextPeer (k : ClusterDefinition) (d : DatabaseStatus) : Option String :=
  (memberNames k.name k.spec.promotableMembers).find? fun m => m ≠ k.firstMember ∧
  m ∉ d.seededMembers

def DatabaseStatus.artifact (d : DatabaseStatus) (s : DatabaseSeeding) : String :=
  seedArtifact (d.seededMembers = []) s

def DatabaseStatus.retried (d : DatabaseStatus) : DatabaseStatus :=
  if d.bootstrapAttempts + 1 < maxBootstrapAttempts then
    { d with bootstrapAttempts := d.bootstrapAttempts + 1 }
  else { d with phase := .failed }

def BootstrapStatus.retried (r : BootstrapStatus) : BootstrapStatus :=
  if r.attempts + 1 < maxBootstrapAttempts then
    { r with attempts := r.attempts + 1, operationID := none }
  else { r with phase := .failed }

inductive BootStep where
  | create
  | backup (s : DatabaseSeeding)
  | restore (s : DatabaseSeeding)
  | recovery (uri : String) (r : BootstrapStatus)

namespace BootStep

variable (k : ClusterDefinition) (d : DatabaseStatus) (x : Boot)

def member : BootStep → String
  | create => k.firstMember
  | backup s => s.source
  | restore s => s.member
  | recovery _ _ => k.firstMember

def kind : BootStep → OperationKind
  | create => .haBootstrap
  | backup _ => .backup
  | restore _ => .restore
  | recovery _ _ => .restore

def key : BootStep → String
  | create => k.createKey d.bootstrapAttempts
  | backup s => k.seedBackupKey d.bootstrapAttempts (d.artifact s)
  | restore s => k.seedRestoreKey d.bootstrapAttempts s.member (d.artifact s)
  | recovery uri r => k.recoveryIdempotencyKey uri r.attempts

def recorded : BootStep → Option OperationID
  | create => d.bootstrapOperationID
  | backup s => s.backupOperationID
  | restore s => s.restoreOperationID
  | recovery _ r => r.operationID

/-- The time since which the record of the step's operation is missing. A copy
    keeps one time for both of its operations. -/
def since : BootStep → Option Int
  | create => d.bootstrapOperationMissingSince
  | backup s => s.operationMissingSince
  | restore s => s.operationMissingSince
  | recovery _ r => r.operationMissingSince

inductive At : BootStep → Prop
  | create (plain : k.spec.recovery = none) (new : x.database.primaryCreated = false) : At .create
  | backup {s : DatabaseSeeding} (there : x.database.primaryCreated = true)
      (is : x.database.seeding = some s)
      (unrestored : s.restoreOperationID = none) : At (.backup s)
  | restore {s : DatabaseSeeding} (there : x.database.primaryCreated = true)
      (is : x.database.seeding = some s) :
      At (.restore s)
  | recovery {uri : String} {r : BootstrapStatus} (recovers : k.spec.recovery = some uri)
      (is : x.recovery = some r)
      (new : k.spec.highAvailability = true → x.database.primaryCreated = false) :
        At (.recovery uri r)

def record (id : OperationID) (phase : BootstrapPhase) : BootStep → Boot
  | create => { x with database := { x.database with
      bootstrapOperationID := some id, bootstrapOperationMissingSince := none,
      phase := .creating } }
  | backup s => { x with database := { x.database with
      seeding := some { s with backupOperationID := some id, operationMissingSince := none } } }
  | restore s => { x with database := { x.database with
      seeding := some { s with restoreOperationID := some id, operationMissingSince := none } } }
  | recovery _ r => { x with recovery := some { r with operationID := some id, phase } }

def retry : BootStep → Boot
  | create => { x with database := { x.database with
      bootstrapOperationID := none, bootstrapOperationMissingSince := none }.retried }
  | backup _ => { x with database := { x.database with seeding := none }.retried }
  | restore _ => { x with database := { x.database with seeding := none }.retried }
  | recovery _ r => { x with recovery := some { r with operationMissingSince := none }.retried }

def miss (since : Option Int) : BootStep → Boot
  | create => { x with database := x.database.missedCreate since }
  | backup _ => { x with database := x.database.missedSeeding since }
  | restore _ => { x with database := x.database.missedSeeding since }
  | recovery _ r => { x with recovery := some { r with operationMissingSince := since } }

def fail : BootStep → Boot
  | recovery _ _ => { x with recovery := x.recovery.map ({ · with phase := .failed }) }
  | _ => { x with database := { x.database with phase := .failed } }

end BootStep

namespace Boot

section Evidence

variable (seen : List ClusterEntry)

/-- The operation of a step was read: under its recorded ID, or under its key
    when none is recorded. -/
inductive ReadAs (m : String) (kind : OperationKind) (key : String) (op : Operation) :
    Option OperationID → Prop
  | polled {id : OperationID} (told : .polled m id op ∈ seen) : ReadAs m kind key op (some id)
  | answered {req : Request StartBody} (told : .answered m req op ∈ seen)
      (of : req.kind = kind ∧ req.key = key) :
      ReadAs m kind key op none
  | found (told : .found m kind key op ∈ seen) : ReadAs m kind key op none

/-- The time since which an operation is missing: the one that is kept, or one
    that was read now. -/
def Since (kept : Option Int) (since : Int) : Prop :=
  kept = some since ∨ kept = none ∧ .time since ∈ seen

/-- After a missing record, and after its write, a reconcile starts nothing and
    counts nothing. -/
def breaks : ClusterEntry → Bool
  | .missing _ _ => true
  | .wrote _ _ => true
  | .unwritten => true
  | _ => false

def Unbroken : Prop := ∀ e ∈ seen, breaks e = false

variable (k : ClusterDefinition) (d : DatabaseStatus) (step : BootStep)

def Read (op : Operation) : Prop :=
  ReadAs seen (step.member k) step.kind (step.key k d) op (step.recorded d)

def Refused : Prop :=
  ∃ req e, .startFailed (step.member k) req e ∈ seen ∧ req.kind = step.kind ∧
    req.key = step.key k d ∧
    e.cause = .requestRefused

def AttemptFailed : Prop :=
  (∃ op, Read seen k d step op ∧ op.state = .failed) ∨ Refused seen k d step

def Observed (source : String) : Prop :=
  ∃ answers t, .told (.probe (k.firstMember :: d.seededMembers)) answers ∈ seen ∧ .time t ∈ seen ∧
    seedSourceAmong (k.firstMember :: d.seededMembers)
      (probeAll (k.firstMember :: d.seededMembers) answers) t =
      .ok source

/-- The restore brought the seed backup of a copy to its member. -/
inductive Restored (s : DatabaseSeeding) (op : Operation) : Prop
  | polled {id : OperationID} (told : .polled s.member id op ∈ seen) (kind : op.kind = .restore)
      (same : restoredSeed op k.uid (d.artifact s) k.firstDatabase = true)
  | found (told : .found s.member .restore
      (k.seedRestoreKey d.bootstrapAttempts s.member (d.artifact s)) op ∈ seen)
      (same : restoredSeed op k.uid (d.artifact s) k.firstDatabase = true)
  | answered {req : Request StartBody} (told : .answered s.member req op ∈ seen)
      (kind : req.kind = .restore)
      (body : req.body = .restore (k.seedRestoreBody s.source (d.artifact s)))

end Evidence

def SameCopy (s t : DatabaseSeeding) : Prop :=
  s.member = t.member ∧ s.source = t.source ∧ s.round = t.round

/-- The source of a copy was known before the reconcile: it is the holder, or
    was in the status that was read. -/
inductive Recorded (b : CubridCluster) (d : DatabaseStatus) (s : DatabaseSeeding) : Prop
  | first (none : d.seededMembers = []) (source : s.source = b.firstMember)
  | stored {s₀ : DatabaseSeeding} (same : d.seededMembers = b.database.seededMembers)
      (is : b.database.seeding = some s₀) (copy : SameCopy s₀ s)

section Moves

variable (b : CubridCluster) (seen : List ClusterEntry)

/-- A move that leads on. -/
inductive Advance : Boot → Boot → Prop
  | begun {d : DatabaseStatus} {uri : String} (recovers : b.spec.recovery = some uri) :
      Advance ⟨d, none⟩ ⟨d, some { manifestURI := uri, targetMember := b.firstMember }⟩
  | created {x : Boot} {op : Operation} (at_ : BootStep.At b x .create)
      (read : Read seen b x.database .create op) (done : op.state = .completed) :
      Advance x { x with database := { x.database with
        bootstrapOperationID := some op.id, bootstrapOperationMissingSince := none,
        phase := .created
        primaryCreated := true } }
  | restored {x : Boot} {r : BootstrapStatus} {uri : String} {id : OperationID} {op : Operation}
      (available : b.spec.highAvailability = true) (at_ : BootStep.At b x (.recovery uri r))
      (recorded : r.operationID = some id) (told : .polled b.firstMember id op ∈ seen)
        (done : op.state = .completed) :
      Advance x
        ⟨{ x.database with phase := .created, primaryCreated := true }, some
          { r with operationMissingSince := none }⟩
  | copying {d : DatabaseStatus} {r : BootstrapStatus} (there : d.primaryCreated = true) :
      Advance ⟨d, some r⟩ ⟨d, some { r with phase := .seedingReplicas }⟩
  | chose {x : Boot} {s : DatabaseSeeding} (there : x.database.primaryCreated = true)
      (next : b.nextPeer x.database = some s.member)
      (unstarted : s.restoreOperationID = none ∧ s.backupOperationID = none ∧
        s.operationMissingSince = none)
      (later : ∀ old, x.database.seeding = some old →
        old.member = s.member ∧ old.round < s.round ∧ x.database.seededMembers ≠ []) :
      Advance x { x with database := { x.database with seeding := some s } }
  | backedUp {x : Boot} {s : DatabaseSeeding} {op : Operation}
      (at_ : BootStep.At b x (.backup s))
      (read : Read seen b x.database (.backup s) op) (done : op.state = .completed) :
      Advance x { x with database := { x.database with
        seeding := some { s with backupOperationID := some op.id, operationMissingSince := none } }
          }
  | seeded {x : Boot} {s : DatabaseSeeding} {op : Operation}
      (at_ : BootStep.At b x (.restore s)) (recorded : Recorded b x.database s)
      (done : op.state = .completed) (restored : Restored seen b x.database s op) :
      Advance x { x with database := { x.database with
        seededMembers := x.database.seededMembers ++ [s.member], seeding := none } }

/-- What the bootstrap can have come to in this reconcile. -/
def Reaches (x : Boot) : Prop := Relation.ReflTransGen (Advance b seen) b.boot x

inductive Halt : Boot → Boot → Prop
  | hold {x : Boot} : Halt x x
  | running {x : Boot} {step : BootStep} {op : Operation} {phase : BootstrapPhase}
      (at_ : step.At b x) (read : Read seen b x.database step op)
      (going : phase = .preparing ∨ phase = .restoring) : Halt x (step.record x op.id phase)
  | progressing {x : Boot} {r : BootstrapStatus} {phase : BootstrapPhase} (is : x.recovery = some r)
      (going : phase = .preparing ∨ phase = .restoring) :
      Halt x { x with recovery := some { r with operationMissingSince := none, phase } }
  | failed {x : Boot} {step : BootStep} (at_ : step.At b x)
      (why : AttemptFailed seen b x.database step) (unbroken : Unbroken seen) :
      Halt x (step.retry x)
  | missing {x : Boot} {step : BootStep} {id : OperationID} {since : Int} (at_ : step.At b x)
      (recorded : step.recorded x.database = some id) (told : .missing (step.member b) id ∈ seen)
      (from_ : Since seen (step.since x.database) since) : Halt x (step.miss x (some since))
  | lost {x : Boot} {step : BootStep} {id : OperationID} {since t : Int} (at_ : step.At b x)
      (recorded : step.recorded x.database = some id) (told : .missing (step.member b) id ∈ seen)
      (from_ : Since seen (step.since x.database) since) (now_ : .time t ∈ seen)
      (late : t - since > bootstrapOperationMissingWait) :
        Halt x (step.fail (step.miss x (some since)))
  | stopped {x : Boot} {step : BootStep} (at_ : step.At b x) (unbroken : Unbroken seen) :
      Halt x (step.fail (step.miss x none))
  | contradicted {x : Boot} {s : DatabaseSeeding} (at_ : BootStep.At b x (.restore s))
      (unbroken : Unbroken seen) : Halt x ((BootStep.restore s).fail x)
  | invalid {x : Boot} (unbroken : Unbroken seen) :
      Halt x { x with recovery := x.recovery.map ({ · with phase := .failed }) }
  | mismatched {x : Boot} : Halt x { x with database := x.database.missedSeeding none }
  | configured {x : Boot} (there : x.database.primaryCreated = true)
      (all : b.nextPeer x.database = none) :
      Halt x { x with database := { x.database with seeding := none, haConfigured := true } }
  | recovered {x : Boot} {r : BootstrapStatus} {id : OperationID} {op : Operation}
      (standalone : b.spec.highAvailability = false) (is : x.recovery = some r)
        (recorded : r.operationID = some id)
      (told : .polled b.firstMember id op ∈ seen) (done : op.state = .completed) :
      Halt x { x with
        recovery := some { r with operationMissingSince := none, phase := .complete } }

def follow (x : Boot) : Boot :=
  { x with recovery := x.recovery.map fun r =>
      if x.database.haConfigured then { r with phase := .complete }
      else if x.database.phase = .failed then { r with phase := .failed }
      else r }

structure Live (x : Boot) : Prop where
  phase : x.database.phase ≠ .failed
  unconfigured : x.database.haConfigured = false
  recovery : ∀ r, x.recovery = some r → r.phase ≠ .failed ∧ r.phase ≠ .complete

def Complete (x : Boot) : Prop := ∃ r, x.recovery = some r ∧ r.phase = .complete

def GivenUp (x : Boot) : Prop := ∃ r, x.recovery = some r ∧ r.phase = .failed

structure Coherent (k : ClusterDefinition) (x : Boot) : Prop where
  plain : k.spec.recovery = none → x.recovery = none
  target : ∀ r, x.recovery = some r → r.targetMember = k.firstMember
  unmissedCreate : x.database.bootstrapOperationID = none →
    x.database.bootstrapOperationMissingSince = none
  unmissedRecovery : ∀ r, x.recovery = some r → r.operationID = none →
    r.operationMissingSince = none
  next : ∀ s, x.database.seeding = some s → k.nextPeer x.database = some s.member
  begun : k.spec.recovery.isSome = true → x.database.primaryCreated = true →
    x.recovery.isSome = true

/-- What holds of every stored status: a recovery ends with its database. -/
structure Sound (k : ClusterDefinition) (x : Boot) : Prop extends Coherent k x where
  configured : x.database.haConfigured = true → k.spec.recovery.isSome = true → x.Complete
  failed : x.database.phase = .failed → k.spec.recovery.isSome = true → x.GivenUp

inductive Moved (y : Boot) : Prop
  | same (is : y = b.boot)
  | moved {x z : Boot} (live : b.boot.Live) (reaches : Reaches b seen x) (halt : Halt b seen x z)
      (is : y = z.follow)

variable (hashRequest : StartBody → String)

/-- Why the restore of a copy may be started: its backup was read Completed, or
    the member is taken to hold a restore already. -/
inductive Prepared (x : Boot) (s : DatabaseSeeding) : Prop
  | backedUp {x₀ : Boot} {s₀ : DatabaseSeeding} {op : Operation} (reached : Reaches b seen x₀)
      (at_ : BootStep.At b x₀ (.backup s₀))
      (read : Read seen b x₀.database (.backup s₀) op) (done : op.state = .completed)
      (copy : SameCopy s₀ s) (same : x₀.database.seededMembers = x.database.seededMembers)
  | held {op : Operation} (found : .found s.member .restore
      (b.seedRestoreKey x.database.bootstrapAttempts s.member (x.database.artifact s)) op ∈ seen)
  | reused {op : Operation} {attempt : Nat} (earlier : attempt < x.database.bootstrapAttempts)
      (found : .found s.member .restore
        (b.seedRestoreKey attempt s.member (x.database.artifact s)) op ∈ seen)
      (state : op.state = .failed) (left : op.restored ≠ none)
      (request : op.requestHash = hashRequest
        (.restore (b.seedRestoreBody s.source (x.database.artifact s))))
      (same : restoredSeed op b.uid (x.database.artifact s) b.firstDatabase = true)

inductive Start (x : Boot) : String → Request StartBody → Prop
  | create (at_ : BootStep.At b x .create) (new : x.database.bootstrapOperationID = none) :
      Start x b.firstMember (b.createRequest hashRequest x.database.bootstrapAttempts)
  | backup {s : DatabaseSeeding} (at_ : BootStep.At b x (.backup s))
      (next : b.nextPeer x.database = some s.member) (new : s.backupOperationID = none) :
      Start x s.source
        (b.seedBackupRequest hashRequest x.database.bootstrapAttempts s.source s.member
        (x.database.artifact s))
  | restore {s : DatabaseSeeding} (at_ : BootStep.At b x (.restore s))
      (next : b.nextPeer x.database = some s.member) (new : s.restoreOperationID = none)
      (recorded : Recorded b x.database s)
      (observed : x.database.seededMembers ≠ [] → Observed seen b x.database s.source)
      (prepared : Prepared b seen hashRequest x s) :
      Start x s.member
        (b.seedRestoreRequest hashRequest x.database.bootstrapAttempts s.source s.member
        (x.database.artifact s))
  | recovery {uri bucket pathPrefix : String} {r : BootstrapStatus}
      (at_ : BootStep.At b x (.recovery uri r)) (new : r.operationID = none) :
      Start x b.firstMember (b.recoveryRequest hashRequest uri bucket pathPrefix r.attempts)

def Poll (m : String) (id : OperationID) : Prop :=
  ∃ x, ∃ step : BootStep, Reaches b seen x ∧ step.At b.toClusterDefinition x ∧
    step.member b.toClusterDefinition = m ∧
    step.recorded x.database = some id

structure Send (m : String) (req : Request StartBody) : Prop where
  live : b.boot.Live
  unbroken : Unbroken seen
  start : ∃ x, Reaches b seen x ∧ Start b seen hashRequest x m req

end Moves
end Boot

/-- A recovery gates what is said of the cluster: Ready and BootstrapReady do
    not become True before it is complete. -/
structure Gated (b s : CubridCluster) : Prop where
  ready : s.status.isTrue .ready = true → s.boot.Complete
  bootstrapReady : s.status.isTrue .bootstrapReady = true → b.status.isTrue .bootstrapReady = true ∨
    s.boot.Complete

structure ClusterMove (b s : CubridCluster) (seen : List ClusterEntry) : Prop where
  definition : s.toClusterDefinition = b.toClusterDefinition
  moved : Boot.Moved b seen s.boot
  gated : b.spec.recovery.isSome = true → Gated b s

def clusterRules (hashRequest : StartBody → String) :
    Rules CubridCluster StartBody ClusterQuery ClusterQuery.Ans where
  mayWrite := ClusterMove
  maySend b m req seen := Boot.Send b seen hashRequest m req
  mayPoll b m id seen := Boot.Poll b seen m id
  assumes b := b.boot.Sound b

end Controller
