import CubridOperator.Controller.BackupTarget
import CubridOperator.Controller.ManifestURI
import CubridOperator.Controller.Operator
import CubridOperator.Controller.StatusPass
import CubridOperator.InstanceManager.BackupRequest

/-!
The reconcile of a CubridBackup: it records a target before it starts anything
there, follows the operation, and bounds each wait.
-/
namespace Controller
open Foundation Program InstanceManager

inductive BackupPhase where
  | pending
  | running
  | uploading
  | completed
  | failed
  deriving DecidableEq

inductive DestinationType where
  | objectStorage
  | pvc
  deriving DecidableEq

def DestinationType.text : DestinationType → String
  | .objectStorage => "ObjectStorage"
  | .pvc => "PVC"

structure ObjectStorageDestination where
  bucket : String
  pathPrefix : String := ""
  deriving DecidableEq

structure CubridBackupSpec where
  clusterRef : String
  database : String
  preference : TargetPreference := .preferStandby
  destinationType : DestinationType := .objectStorage
  objectStorage : Option ObjectStorageDestination
  deriving DecidableEq

inductive BackupConditionType where
  | accepted
  | ready
  deriving DecidableEq

structure CubridBackupArtifact where
  uri : String
  manifestDigest : String
  sizeBytes : Int
  cubridVersion : String
  database : String
  deriving DecidableEq

structure CubridBackupStatus where
  observedGeneration : Int := 0
  phase : Option BackupPhase := none
  operationRef : Option OperationID := none
  targetInstance : String := ""
  targetRole : CubridRole := ""
  fallbackUsed : Bool := false
  clusterUID : String := ""
  targetRecordedAt : Option Int := none
  objectStorageNotAppliedSince : Option Int := none
  primaryLogEndNotReadSince : Option Int := none
  operationMissingSince : Option Int := none
  startedAt : Option Int := none
  completedAt : Option Int := none
  artifact : Option CubridBackupArtifact := none
  conditions : List (Condition BackupConditionType) := []
  deriving DecidableEq

structure CubridBackup where
  inNamespace : String
  name : String
  uid : String
  generation : Int := 1
  creationTimestamp : Int
  spec : CubridBackupSpec
  status : CubridBackupStatus := {}
  deriving DecidableEq

def CubridBackupStatus.persisted (s : CubridBackupStatus) : CubridBackupStatus :=
  { s with
    targetRecordedAt := s.targetRecordedAt.map wholeSeconds
    objectStorageNotAppliedSince := s.objectStorageNotAppliedSince.map wholeSeconds
    primaryLogEndNotReadSince := s.primaryLogEndNotReadSince.map wholeSeconds
    operationMissingSince := s.operationMissingSince.map wholeSeconds
    startedAt := s.startedAt.map wholeSeconds
    completedAt := s.completedAt.map wholeSeconds
    conditions := s.conditions.map fun c => { c with
      lastTransitionTime := wholeSeconds c.lastTransitionTime } }

def CubridBackup.persisted (backup : CubridBackup) : CubridBackup :=
  { backup with status := backup.status.persisted }

def CubridBackup.isTerminal (backup : CubridBackup) : Bool :=
  backup.status.phase = some .completed ∨ backup.status.phase = some .failed

def CubridBackup.pending (backup : CubridBackup) : CubridBackup :=
  { backup with status.phase := some (backup.status.phase.getD .pending) }

structure CubridObjectStorage where
  endpoint : String
  region : String := ""
  insecure : Bool := false
  bucket : String := ""
  pathPrefix : String := ""
  credentialsSecretRef : String
  deriving DecidableEq

structure BackedCluster where
  name : String
  uid : String
  promotableMembers : Nat
  version : String
  objectStorage : Option CubridObjectStorage
  instances : List InstanceStatus := []
  identified : uid ≠ ""

inductive EnvValue where
  | text (value : String)
  | secretKey (secret key : String)
  | other
  deriving DecidableEq

structure EnvVar where
  name : String
  value : EnvValue
  deriving DecidableEq

structure Container where
  name : String
  env : List EnvVar

inductive Reading (α : Type) where
  | found (value : α)
  | notFound
  | failed

inductive BackupQuery where
  | cluster (name : String)
  | probe (members : List String)
  | positions (uid : String)
  | pod (name : String)
  /-- When the operation that an answer brought was created, if the answer says. -/
  | createdAt (id : OperationID)

abbrev BackupQuery.Ans : BackupQuery → Type
  | .cluster _ => Reading BackedCluster
  | .probe _ => Answers
  | .positions _ => Positions
  | .pod _ => Reading (List Container)
  | .createdAt _ => Option Int

abbrev BackupM := OperatorM CubridBackup BackupRequest BackupQuery BackupQuery.Ans

def readCluster (name : String) : BackupM (Reading BackedCluster) :=
  query (BackupQuery.cluster name)
def probeMembers (members : List String) : BackupM Answers := query (BackupQuery.probe members)
def readPositions (uid : String) : BackupM Positions := query (BackupQuery.positions uid)
def readPod (name : String) : BackupM (Reading (List Container)) := query (BackupQuery.pod name)

def reasonRecordedTargetSelected : String := "RecordedTargetSelected"
def reasonRecordedTargetNotEligible : String := "RecordedTargetNotEligible"
def reasonUnsupportedDestination : String := "UnsupportedDestination"
def reasonObjectStorageNotApplied : String := "ObjectStorageNotApplied"
def reasonRecordedTargetNotStarted : String := "RecordedTargetNotStarted"
def reasonRecordedOperationMissing : String := "RecordedOperationMissing"
def reasonRecordedOperationLost : String := "RecordedOperationLost"
def reasonRecordedTargetUnverified : String := "RecordedTargetUnverified"
def reasonObjectStorageWaitExpired : String := "ObjectStorageWaitExpired"
def reasonRequestRefused : String := "InstanceManagerRequestRefused"

def backupStagingRoot : String := "/var/lib/cubrid/backup-staging"

def backupClusterWait : Int := minutes 10
def backupTargetWait : Int := minutes 30
def backupOperationMissingWait : Int := minutes 30

def backupClusterWaitText : String := "10m0s"
def backupTargetWaitText : String := "30m0s"
def backupOperationMissingWaitText : String := "30m0s"
def primaryLogEndWaitText : String := "30s"

def operationMissingText (member : String) (id : OperationID) : String :=
  "get operation " ++ id.text ++ " on " ++ member ++ ": the member holds no record of the operation"

section Requests

variable (backup : CubridBackup)

def idempotencyKey : String :=
  "cubridbackup:" ++ backup.inNamespace ++ ":" ++ backup.name ++ ":" ++ backup.uid

def joinPath (es : List String) : String := String.ofList (Path.joinedAll (es.map String.toList))

def backupArtifactPrefix (store : ObjectStorageDestination) (clusterUID : String) : String :=
  joinPath [store.pathPrefix, clusterUID, backup.spec.database, backup.uid]

def buildBackupRequest (cluster : BackedCluster) (sel : TargetSelection) : BackupRequest where
  database := backup.spec.database
  destination := joinPath [backupStagingRoot, backup.uid]
  level := 0
  upload := some
    { bucket := (backup.spec.objectStorage.map (·.bucket)).getD ""
      pathPrefix :=
        (backup.spec.objectStorage.map (backupArtifactPrefix backup · cluster.uid)).getD ""
      clusterUID := cluster.uid
      cubridVersion := cluster.version
      sourceInstance := sel.instanceName
      sourceRole := sel.role }

def startRequest (cluster : BackedCluster) (sel : TargetSelection) : Request BackupRequest where
  kind := .backup
  key := idempotencyKey backup
  database := backup.spec.database
  body := buildBackupRequest backup cluster sel

def validateBackupSpec : Option (String × String) :=
  if backup.spec.destinationType ≠ .objectStorage ∧ backup.status.operationRef = none then
    some (reasonUnsupportedDestination, "destination type " ++ backup.spec.destinationType.text ++
      " is not supported: a backup is stored in object storage only")
  else if backup.spec.destinationType = .objectStorage ∧ backup.spec.objectStorage = none then
    some ("InvalidDestination", "destination.objectStorage is required when type is ObjectStorage")
  else none

def backupDestinationRefusal (cluster : BackedCluster) : Option String :=
  backup.spec.objectStorage.bind fun store =>
    let attempt := backupAttemptPath (backupArtifactPrefix backup store cluster.uid).toList
      (List.replicate backupAttemptIDLength '0')
    let key := joinPath [String.ofList attempt, manifestObjectName]
    let uri := "s3://" ++ store.bucket ++ "/" ++ key
    if (parseManifestURI uri).isOk ∧ key.utf8ByteSize ≤ 1024 then none
    else
      some ("destination bucket " ++ quoted store.bucket ++ " and prefix " ++
        quoted store.pathPrefix ++
      " would give the artifact the URI " ++ quoted uri ++ ", which a recovery does not accept")

def objectStorageEnvPrefix : String := "IM_S3_"

def objectStorageEnv (storage : CubridObjectStorage) : List EnvVar :=
  [⟨"IM_S3_ENDPOINT", .text storage.endpoint⟩,
    ⟨"IM_S3_ACCESS_KEY", .secretKey storage.credentialsSecretRef "accessKey"⟩,
    ⟨"IM_S3_SECRET_KEY", .secretKey storage.credentialsSecretRef "secretKey"⟩] ++
  (if storage.region ≠ "" then [⟨"IM_S3_REGION", .text storage.region⟩] else []) ++
  (if storage.insecure then [⟨"IM_S3_INSECURE", .text "true"⟩] else [])

/-- The Pod runs with the settings: the variables of the manager's container
    under the prefix are the desired ones. -/
def objectStorageApplied (storage : CubridObjectStorage) (containers : List Container) : Bool :=
  let env := (containers.filter (·.name = "cubrid")).flatMap (·.env)
  let applied := env.filter fun e => objectStorageEnvPrefix.toList.isPrefixOf e.name.toList
  let desired := objectStorageEnv storage
  decide ((applied.map (·.name)).dedup.length = desired.length) &&
    desired.all fun e => decide (applied.reverse.find? (·.name = e.name) = some e)

end Requests

section Writes

def CubridBackup.withCondition (backup : CubridBackup) (type : BackupConditionType)
    (status : ConditionStatus) (reason msg : String) (t : Int) : CubridBackup :=
  { backup with
    status.conditions := setStatusCondition ⟨type, status, reason, msg, backup.generation, t⟩
      backup.status.conditions }

def setBackupCondition (backup : CubridBackup) (type : BackupConditionType)
    (status : ConditionStatus) (reason msg : String) : BackupM CubridBackup := do
  let t ← now
  return backup.withCondition type status reason msg t

variable (v : Nat) (backup : CubridBackup)

def CubridBackup.observed : CubridBackup :=
  { backup with status.observedGeneration := backup.generation }

def commit : BackupM Unit := do
  let _ ← writeStatus v backup.observed
  return ()

def holdUnready (reason msg : String) : BackupM Unit := do
  let backup ← setBackupCondition backup .ready .conditionFalse reason msg
  commit v backup

def CubridBackup.failedAt (t : Int) : CubridBackup :=
  { backup with status.phase := some .failed, status.completedAt := some t }

def ended (reason msg : String) : BackupM Unit := do
  let t ← now
  holdUnready v (backup.failedAt t) reason msg

def rejected (reason msg : String) : BackupM Unit := do
  let backup ← setBackupCondition backup .accepted .conditionFalse reason msg
  ended v backup reason msg

def clusterMissing : BackupM Unit := do
  let name := backup.spec.clusterRef
  if backup.status.clusterUID ≠ "" then
    ended v backup "ClusterDeleted"
      ("CubridCluster " ++ name ++ " was deleted after this backup was started on it")
  else
    let t ← now
    if t - backup.creationTimestamp > backupClusterWait then
      rejected v backup "ClusterNotFound"
        ("referenced CubridCluster " ++ name ++ " was not found within " ++
        backupClusterWaitText ++ " of the backup's creation")
    else
      let msg :=
        "referenced CubridCluster " ++ name ++ " is not found; waiting for it for at most " ++
        backupClusterWaitText ++ " from the backup's creation"
      let backup ← setBackupCondition backup.pending .accepted .conditionFalse "ClusterNotFound" msg
      holdUnready v backup "ClusterNotFound" msg

end Writes

section Polling

variable (v : Nat) (backup : CubridBackup)

def CubridBackup.completedWith (op : Operation) (t : Int) : CubridBackup :=
  { backup with
    status.phase := some .completed
    status.completedAt := some t
    status.artifact := match op.artifact with
      | some a => some
          { uri := a.manifestURI, manifestDigest := a.manifestDigest, sizeBytes := a.sizeBytes,
            cubridVersion := a.cubridVersion, database := a.database }
      | none => backup.status.artifact }

def completed (op : Operation) : BackupM Unit := do
  let t ← now
  let backup ← setBackupCondition (backup.completedWith op t) .ready .conditionTrue
    "BackupCompleted" "backup completed"
  commit v backup

def failedBackup (reason : String) : BackupM Unit := do
  let t ← now
  holdUnready v (backup.failedAt t) "BackupFailed" reason

def CubridBackup.missedSince (since : Int) : CubridBackup :=
  { backup with status.operationMissingSince := some since }

def waitForRecord (id : OperationID) (since : Int) : BackupM Unit := do
  let target := backup.status.targetInstance
  let backup := backup.missedSince since
  let t ← now
  if t - since > backupOperationMissingWait then
    ended v backup reasonRecordedOperationLost
      (target ++ " has held no record of this backup's operation " ++ id.text ++
      " since " ++ rfc3339 since ++ ", for " ++ backupOperationMissingWaitText ++ " or longer (" ++
      operationMissingText target id ++ "). A missing record " ++
      "does not show that the work ended: a backup may still be running on " ++ target ++
      " and upload under this backup's prefix; check that member and the prefix before " ++
      "relying on it. The backup is not started again, on " ++ target ++ " or another member")
  else
    holdUnready v backup reasonRecordedOperationMissing
      (target ++ " holds no record of this backup's operation " ++
      id.text ++ "; waiting for at most " ++ backupOperationMissingWaitText ++ " from " ++
      rfc3339 since ++
      " for it to be read again")

/-- The target holds no record of the operation: the time of the first such
    answer is kept until the operation is read. -/
def operationMissing (id : OperationID) : BackupM Unit := do
  let since ← firstTime backup.status.operationMissingSince
  waitForRecord v backup id since

def CubridBackup.read : CubridBackup := { backup with status.operationMissingSince := none }

def pollBackup (id : OperationID) : BackupM Unit := do
  match ← getOperation backup.status.targetInstance id with
  | .error .missing => operationMissing v backup id
  | .error (.failed e) => holdUnready v backup (instanceManagerFailureReason e) e.message
  | .ok op =>
    let backup := backup.read
    match op.state with
    | .completed => completed v backup op
    | .failed => failedBackup v backup op.failureReason
    | .uploading =>
      holdUnready v { backup with status.phase := some .uploading } "UploadRunning"
        "uploading artifact"
    | _ =>
      holdUnready v { backup with status.phase := some .running } "BackupRunning"
        "backup in progress"

def CubridBackup.following (id : OperationID) (startedAt : Int) : CubridBackup :=
  { backup with
    status.phase := some .running
    status.operationRef := some id
    status.startedAt := some startedAt }

def adoptBackup (op : Operation) : BackupM Unit := do
  let t ← now
  let created ← query (BackupQuery.createdAt op.id)
  pollBackup v (backup.following op.id (backup.status.startedAt.getD (created.getD t))) op.id

end Polling

section RecordedTarget

variable (v : Nat) (backup : CubridBackup)

def CubridBackup.recordedFrom (recordedAt : Int) : CubridBackup :=
  { backup with status.targetRecordedAt := some recordedAt }

def recordedTargetWaitExpired : BackupM (CubridBackup × Bool) := do
  let recordedAt ← firstTime backup.status.targetRecordedAt
  let t ← now
  return (backup.recordedFrom recordedAt, decide (t - recordedAt > backupTargetWait))

def waitOnRecordedTarget (reason msg : String) : BackupM Unit :=
  holdUnready v backup reason
    (msg ++ "; waiting for at most " ++ backupTargetWaitText ++
      " from when the target was recorded")

def endRecordedTargetWait : BackupM Unit := do
  let target := backup.status.targetInstance
  let last := match findStatusCondition .ready backup.status.conditions with
    | some ready => " (last: " ++ ready.reason ++ ": " ++ ready.message ++ ")"
    | none => ""
  match ← findOperation target .backup (idempotencyKey backup) with
  | .ok (some op) => adoptBackup v backup op
  | .error e =>
    ended v backup reasonRecordedTargetUnverified
      ("the backup was not started on its recorded target " ++ target ++
      " within " ++ backupTargetWaitText ++ last ++ ", and " ++ target ++
      " could not be asked whether it " ++
      "holds the backup's operation: " ++ e.message ++
      ". A backup may still be running on " ++ target ++
      " and upload under this backup's prefix; check that member before relying on that " ++
      "prefix. The backup is not started on another member")
  | .ok none =>
    ended v backup reasonRecordedTargetNotStarted
      ("the backup was not started on its recorded target " ++ target ++
      " within " ++ backupTargetWaitText ++ last ++ ", and " ++ target ++
      " holds no operation of it; " ++
      "nothing runs, and the backup is not started on another member")

def holdRecordedTarget (reason msg : String) : BackupM Unit := do
  let (backup, expired) ← recordedTargetWaitExpired backup
  if expired then endRecordedTargetWait v backup
  else
    match ← findOperation backup.status.targetInstance .backup (idempotencyKey backup) with
    | .ok (some op) => adoptBackup v backup op
    | .error e =>
      waitOnRecordedTarget v backup reason
        (msg ++ "; it could not be asked whether it runs the backup: " ++ e.message)
    | .ok none =>
      waitOnRecordedTarget v backup reason (msg ++ "; it holds no operation of this backup")

end RecordedTarget

section Starting

variable (v : Nat) (backup : CubridBackup) (cluster : BackedCluster)

def startRefused (e : CallError) : BackupM Unit := do
  if e.startConflict then holdRecordedTarget v backup (instanceManagerFailureReason e) e.message
  else if e.cause = .requestRefused then
    match ← findOperation backup.status.targetInstance .backup (idempotencyKey backup) with
    | .ok (some op) => adoptBackup v backup op
    | .ok none =>
      ended v backup reasonRequestRefused (e.message ++
        "; the target holds no operation of this backup, nothing was started, and the backup " ++
        "is not continued")
    | .error lookup =>
      waitOnRecordedTarget v backup reasonRequestRefused
        (e.message ++ "; it could not be asked whether it runs the backup: " ++ lookup.message)
  else waitOnRecordedTarget v backup (instanceManagerFailureReason e) e.message

def dispatch (sel : TargetSelection) : BackupM Unit := do
  match ← startOperation sel.instanceName (startRequest backup cluster sel) with
  | .error e => startRefused v backup e
  | .ok op =>
    let t ← now
    holdUnready v (backup.following op.id t) sel.reason ("backup started on " ++ sel.instanceName)

def CubridBackup.recorded (sel : TargetSelection) (t : Int) : CubridBackup :=
  { backup.pending with
    status.targetInstance := sel.instanceName
    status.targetRole := sel.role
    status.fallbackUsed := sel.fallbackUsed
    status.clusterUID := cluster.uid
    status.targetRecordedAt := some t
    status.objectStorageNotAppliedSince := none }

/-- The selected target is stored; the start is sent only once it is. -/
def recordTarget (sel : TargetSelection) : BackupM Unit := do
  let t ← now
  let backup ← setBackupCondition (backup.recorded cluster sel t) .ready .conditionFalse sel.reason
    ("starting the backup on " ++ sel.instanceName)
  match ← writeStatus v backup.observed with
  | none => return ()
  | some v => dispatch v backup.observed.persisted cluster sel

def waitForObjectStorage (notApplied : String) : BackupM Unit := do
  let since ← firstTime backup.status.objectStorageNotAppliedSince
  let backup := { backup with status.objectStorageNotAppliedSince := some since }
  let t ← now
  if t - since > backupTargetWait then
    ended v backup reasonObjectStorageWaitExpired (notApplied ++
      "; no selected Pod ran with the cluster's spec.objectStorage within " ++
      backupTargetWaitText ++ ", " ++
      "nothing was started, and the backup is not continued")
  else
    holdUnready v backup.pending reasonObjectStorageNotApplied
      (notApplied ++ "; waiting for at most " ++ backupTargetWaitText ++
        " from the first time this was found")

def startSelected (storage : CubridObjectStorage) (sel : TargetSelection) : BackupM Unit := do
  match ← readPod sel.instanceName with
  | .failed => return ()
  | .notFound =>
    waitForObjectStorage v backup ("Pod " ++ sel.instanceName ++
      " is not found; waiting for it to run with the cluster's spec.objectStorage")
  | .found containers =>
    if objectStorageApplied storage containers then recordTarget v backup cluster sel
    else
      waitForObjectStorage v backup ("Pod " ++ sel.instanceName ++
        " was started without the cluster's current spec.objectStorage; " ++
        "it picks the settings up when it is restarted")

def CubridBackup.logEndWaited (since : Option Int) : CubridBackup :=
  { backup with status.primaryLogEndNotReadSince := since }

def selectTarget (storage : CubridObjectStorage) (members : List String) (obs : Observations)
    (observedAt : Int) (res : PrimaryResolution) : BackupM Unit := do
  let since := backup.status.primaryLogEndNotReadSince
  let t ← now
  let logEndWaitOver := since.any fun s => t - s ≥ primaryLogEndWait
  let positions ← readPositions cluster.uid
  let sel := selectBackupTarget members obs (replicationHistory cluster.instances)
    (positions.readings observedAt) res
    backup.spec.preference (decide (cluster.promotableMembers ≤ 1)) logEndWaitOver observedAt
  let started ← now
  let backup := backup.logEndWaited
    (if sel.reason ≠ reasonPrimaryLogEndNotRead then none else some (since.getD started))
  if sel.selected then startSelected v backup cluster storage sel
  else
    let msg := if sel.reason = reasonPrimaryLogEndNotRead then
        "the master's own log end was not read, so no standby's copy of its log can be judged; " ++
          "asking again, and falling back to the master " ++ primaryLogEndWaitText ++
          " after this wait began"
      else "no safe backup target yet; waiting for a healthy target"
    holdUnready v { backup with status.objectStorageNotAppliedSince := none } sel.reason msg

def recordedSelection : TargetSelection where
  instanceName := backup.status.targetInstance
  role := backup.status.targetRole
  fallbackUsed := backup.status.fallbackUsed
  selected := true
  reason := reasonRecordedTargetSelected

/-- The target is recorded: the start is sent to it again, and to no other. -/
def startRecorded (members : List String) (obs : Observations) (observedAt : Int)
    (res : PrimaryResolution) : BackupM Unit := do
  let sel := recordedSelection backup
  let (backup, expired) ← recordedTargetWaitExpired backup
  if expired then endRecordedTargetWait v backup
  else if !recordedTargetEligible sel members obs res (decide (cluster.promotableMembers ≤ 1))
    observedAt then
    holdRecordedTarget v backup reasonRecordedTargetNotEligible
      ("recorded target " ++ sel.instanceName ++
      " is no longer eligible for its recorded role " ++ backup.status.targetRole)
  else dispatch v backup cluster sel

def startBackup (storage : CubridObjectStorage) : BackupM Unit := do
  let members := memberNames cluster.name cluster.promotableMembers
  let answers ← probeMembers members
  let obs := probeAll members answers
  let observedAt ← now
  let res := resolvePrimary members obs observedAt
  if backup.status.targetInstance ≠ "" then
    startRecorded v backup cluster members obs observedAt res
  else selectTarget v backup cluster storage members obs observedAt res

end Starting

section Reconcile

variable (v : Nat) (backup : CubridBackup) (cluster : BackedCluster)

/-- The cluster's DB Pods have no object storage. A recorded target may run the
    backup already: the wait on it stays bounded. -/
def withoutObjectStorage : BackupM Unit := do
  let msg := "CubridCluster " ++ cluster.name ++ " has no spec.objectStorage; "
  if backup.status.targetInstance ≠ "" then
    holdRecordedTarget v backup "ObjectStorageNotConfigured"
      (msg ++ "the start is not sent again to the recorded target " ++ backup.status.targetInstance)
  else
    holdUnready v { backup.pending with
        status.objectStorageNotAppliedSince := none, status.primaryLogEndNotReadSince := none }
      "ObjectStorageNotConfigured" (msg ++ "its DB Pods cannot upload the backup")

def reconcileAccepted : BackupM Unit := do
  let backup ← setBackupCondition backup .accepted .conditionTrue "BackupAccepted"
    "spec is valid and the referenced cluster exists"
  match backup.status.operationRef, cluster.objectStorage with
  | some id, _ => pollBackup v backup id
  | none, none => withoutObjectStorage v backup cluster
  | none, some storage => startBackup v backup cluster storage

def reconcileOn : BackupM Unit :=
  if backup.status.clusterUID ≠ "" ∧ backup.status.clusterUID ≠ cluster.uid then
    ended v backup "ClusterReplaced" ("CubridCluster " ++ cluster.name ++
      " was deleted and created again after this backup was started; the backup is not " ++
      "continued on the new cluster")
  else if backup.status.operationRef = none ∧ backup.status.targetInstance = "" then
    match backupDestinationRefusal backup cluster with
    | some msg => rejected v backup "InvalidBackupDestination" msg
    | none => reconcileAccepted v backup cluster
  else reconcileAccepted v backup cluster

def reconcileBackup : BackupM Unit := do
  match ← readObject with
  | none => return ()
  | some (v, backup) =>
    if backup.isTerminal then return ()
    else
      match validateBackupSpec backup with
      | some (reason, msg) => rejected v backup reason msg
      | none =>
        match ← readCluster backup.spec.clusterRef with
        | .failed => return ()
        | .notFound => clusterMissing v backup
        | .found cluster => reconcileOn v backup cluster

/-- What others may change of a backup; the API server refuses a change of the
    spec, on which nothing here rests. -/
structure BackupEdit where
  spec : CubridBackupSpec
  generation : Int

def backupModel :
    OperatorModel CubridBackup BackupRequest BackupQuery BackupQuery.Ans BackupEdit where
  reconcile := reconcileBackup
  persist := CubridBackup.persisted
  amend edit backup := { backup with spec := edit.spec, generation := edit.generation }

def CubridBackup.created (backup : CubridBackup) : CubridBackup := { backup with status := {} }

def backupRun (backup : CubridBackup)
    (events : List (OperatorEvent BackupQuery BackupQuery.Ans BackupEdit)) :
    OperatorPool CubridBackup BackupRequest BackupQuery BackupQuery.Ans :=
  backupModel.run backup.created events

end Reconcile
end Controller
