import CubridOperator.Controller.Bootstrap

/-!
The reconcile of a cluster's bootstrap: creation or recovery, the copies, and
the pass over the status.
-/
namespace Controller
open Foundation Program InstanceManager

section Seeding

variable (hashRequest : StartBody → String) (ctx : PassContext) (c : CubridCluster)

def earlierRestore (peer artifact : String) : Nat → ClusterM (Except CallError (Option Operation))
  | 0 => return .ok none
  | attempt + 1 => do
    match ← findOperation peer .restore (c.seedRestoreKey attempt peer artifact) with
    | .error e => return .error e
    | .ok (some op) => return .ok (some op)
    | .ok none => earlierRestore peer artifact attempt

/-- The member is predicted to take over what an earlier attempt restored. -/
def reusable (op : Operation) (source artifact : String) : Bool :=
  decide (op.state = .failed ∧ op.restored ≠ none ∧
    op.requestHash = hashRequest (.restore (c.seedRestoreBody source artifact))) &&
    restoredSeed op c.uid artifact c.firstDatabase

/-- A retry that has its restore, or whose restore is predicted to reuse the
    data of an earlier one, takes no new backup. -/
def retrySkipsSeedBackup (source peer artifact : String) : ClusterM (Except CallError Bool) := do
  let attempts := c.database.bootstrapAttempts
  if attempts = 0 then return .ok false
  else
    match ← findOperation peer .restore (c.seedRestoreKey attempts peer artifact) with
    | .error e => return .error e
    | .ok (some _) => return .ok true
    | .ok none =>
      match ← earlierRestore c peer artifact attempts with
      | .error e => return .error e
      | .ok none => return .ok false
      | .ok (some op) => return .ok (reusable hashRequest c op source artifact)

def seedBackupOperation (s : DatabaseSeeding) (artifact : String) :
    ClusterM (Except CubridCluster Operation) :=
  match s.backupOperationID with
  | some id =>
    pollStep ctx c s.operationMissingSince DatabaseStatus.missedSeeding s.source .backup
      "seed backup" id
      ("backupdb may still be running on " ++ s.source ++ " and upload to s3://" ++
        joinPath [(c.seedLocation artifact).1, (c.seedLocation artifact).2])
      (s.member ++ " is not recorded as seeded; check " ++ s.source ++ " and that prefix")
  | none =>
    match engineSeriesHold c s.source with
    | some msg => return .error (c.hold ctx reasonEngineVersionMismatch msg)
    | none => do
      let started ← startStep ctx c (c.withSeeding none) s.source
        (c.seedBackupRequest hashRequest c.database.bootstrapAttempts s.source s.member artifact)
          "SeedBackupFailed"
      return started.map (·.1)

def concludeSeedBackup (s : DatabaseSeeding) (op : Operation) :
    Except CubridCluster DatabaseSeeding :=
  let s := { s with backupOperationID := some op.id, operationMissingSince := none }
  match op.state with
  | .completed => .ok s
  | .failed =>
    .error (bootstrapStepFailed (c.withSeeding none) ctx "SeedBackupFailed"
      ("on " ++ s.source ++ ": " ++ op.failureReason))
  | _ =>
    .error ((c.withSeeding (some s)).hold ctx "SeedBackupInProgress"
      ("backing up database " ++ c.firstDatabase ++ " on " ++ s.source))

def seedBackup (s : DatabaseSeeding) (artifact : String) :
    ClusterM (Except CubridCluster DatabaseSeeding) := do
  let c := c.withSeeding (some s)
  match ← seedBackupOperation hashRequest ctx c s artifact with
  | .error c => return .error c
  | .ok op => return concludeSeedBackup ctx c s op

/-- A copy from the observed master: the recorded one, or a new one with a
    round of its own when the master has changed. -/
def copyFrom (recorded : Option DatabaseSeeding) (peer observed : String) :
    DatabaseSeeding × Bool :=
  match recorded with
  | none => ({ member := peer, source := observed }, false)
  | some s =>
    if s.source ≠ observed then
      ({ member := peer, source := observed, round := s.round + 1 }, false) else (s, true)

def followMaster (holder peer : String) (recorded : Option DatabaseSeeding) :
    ClusterM (Except CubridCluster (DatabaseSeeding × Bool)) := do
  match ← selectSeedSource c holder with
  | .error why =>
    return .error (c.hold ctx "SeedSourceNotResolved"
      ("waiting to copy database " ++ c.firstDatabase ++ " to " ++
      peer ++ ": the master among the members that hold it is not known (" ++ why ++ ")"))
  | .ok observed => return .ok (copyFrom recorded peer observed)

def chooseSeeding (holder peer : String) :
    ClusterM (Except CubridCluster (DatabaseSeeding × Bool)) := do
  let d := c.database
  let recorded := d.seeding.filter (·.member = peer)
  if d.seededMembers = [] then
    match recorded with
    | none => return .ok ({ member := peer, source := holder }, true)
    | some s =>
      if s.source ≠ holder then
        return .error (bootstrapStopped c ctx reasonSeedSourceContradicted
          ("the copy of database " ++ c.firstDatabase ++ " to " ++ peer ++
            " is recorded with " ++ s.source ++
            " as its source, but the first peer is copied only from " ++ holder ++
            ", which holds the database. " ++
            peer ++ " is not recorded as seeded, and the copy is not started again; check " ++
            peer ++
            " before relying on its data"))
      else return .ok (s, true)
  else
    -- Once the restore is recorded, its source is kept whatever the roles become.
    match recorded.filter (·.restoreOperationID.isSome) with
    | some s => return .ok (s, true)
    | none => followMaster ctx c holder peer recorded

/-- What has to be there before the restore is started: the backup, unless the
    member is taken to hold a restore already. -/
def prepareSeedRestore (s : DatabaseSeeding) (artifact : String) :
    ClusterM (Except CubridCluster DatabaseSeeding) := do
  match ← retrySkipsSeedBackup hashRequest c s.source s.member artifact with
  | .error e =>
    return .error ((c.withSeeding (some s)).hold ctx (instanceManagerFailureReason e)
      ("waiting to copy database " ++
      c.firstDatabase ++ " to " ++ s.member ++
      ": a restore of this step could not be looked up: " ++ e.message))
  | .ok true => return .ok s
  | .ok false => seedBackup hashRequest ctx c s artifact

/-- The restore is started by a reconcile that found its source recorded. -/
def startSeedRestore (s : DatabaseSeeding) (sourceRecorded : Bool) (artifact : String) :
    ClusterM (Except CubridCluster (Operation × Bool)) :=
  let held := c.withSeeding (some s)
  if !sourceRecorded then
    return .error (held.hold ctx "SeedSourceSelected"
      ("database " ++ c.firstDatabase ++ " will be copied to " ++
      s.member ++ " from " ++ s.source ++ ", the master"))
  else
    match engineSeriesHold c s.member with
    | some msg => return .error (held.hold ctx reasonEngineVersionMismatch msg)
    | none =>
      startStep ctx held (c.withSeeding none) s.member
        (c.seedRestoreRequest hashRequest c.database.bootstrapAttempts s.source s.member artifact)
          "SeedRestoreFailed"

def seedRestore (s : DatabaseSeeding) (sourceRecorded : Bool) (artifact : String) :
    ClusterM (Except CubridCluster (DatabaseSeeding × Operation × Bool)) := do
  match s.restoreOperationID with
  | some id =>
    let polled ← pollStep ctx (c.withSeeding (some s)) s.operationMissingSince
      DatabaseStatus.missedSeeding s.member
      .restore "seed restore" id
        ("restoredb may still be running on " ++ s.member ++ ", or have left data there")
      (s.member ++ " is not recorded as seeded; check it before relying on its data")
    -- The restore may have been followed when it was recorded.
    return polled.map (s, ·, true)
  | none =>
    match ← prepareSeedRestore hashRequest ctx c s artifact with
    | .error c => return .error c
    | .ok s =>
      let started ← startSeedRestore hashRequest ctx c s sourceRecorded artifact
      return started.map (s, ·)

/-- What the restore's operation makes of the copy, and whether the member
    holds the database now. -/
def concludeSeeding (s : DatabaseSeeding) (artifact : String) (op : Operation) (followed : Bool) :
    CubridCluster × Bool :=
  let s := { s with operationMissingSince := none }
  let d := c.database
  if followed ∧ op.state = .completed ∧ !restoredSeed op c.uid artifact c.firstDatabase then
    ((c.withSeeding (some s)).hold ctx "SeedRestoreSourceMismatch"
      ("the restore operation " ++ op.id.text ++
      " under the key " ++ quoted (c.seedRestoreKey d.bootstrapAttempts s.member artifact) ++
      " on " ++ s.member ++
      " completed, but it did not restore the backup of this step (" ++ seedLocationDir artifact ++
      "); " ++ s.member ++
      " is not recorded as seeded, and the operation is left for a person"), false)
  else
    match op.state with
    | .completed =>
      (c.withDatabase
        { d with seededMembers := d.seededMembers ++ [s.member], seeding := none }, true)
    | .failed =>
      (bootstrapStepFailed (c.withSeeding none) ctx "SeedRestoreFailed"
        ("on " ++ s.member ++ ": " ++ op.failureReason),
        false)
    | _ =>
      ((c.withSeeding (some { s with restoreOperationID := some op.id })).hold ctx
        "SeedRestoreInProgress"
        ("restoring database " ++ c.firstDatabase ++ " on " ++ s.member), false)

def seedMember (holder peer : String) : ClusterM (CubridCluster × Bool) := do
  match ← chooseSeeding ctx c holder peer with
  | .error c => return (c, false)
  | .ok (s, sourceRecorded) =>
    let artifact := seedArtifact (c.database.seededMembers = []) s
    match ← seedRestore hashRequest ctx c s sourceRecorded artifact with
    | .error c => return (c, false)
    | .ok (s, op, followed) => return concludeSeeding ctx c s artifact op followed

def seedMembers (holder : String) : List String → CubridCluster → ClusterM (CubridCluster × Bool)
  | [], c => return (c, true)
  | peer :: rest, c => do
    if peer = holder ∨ peer ∈ c.database.seededMembers then seedMembers holder rest c
    else
      let (c, seeded) ← seedMember hashRequest ctx c holder peer
      if seeded then seedMembers holder rest c else return (c, false)

def reconcileSeeding (holder : String) : ClusterM CubridCluster := do
  let origin := "database " ++ c.firstDatabase ++ " was " ++
    (if c.spec.recovery.isSome then "restored" else "created") ++
    " on " ++ holder
  match c.spec.objectStorage.filter (·.bucket ≠ "") with
  | none =>
    return c.hold ctx "SeedStorageNotConfigured" (origin ++
      "; spec.objectStorage with a bucket is needed to copy it to the other members")
  | some storage =>
    match seedPrefixRefusal storage.pathPrefix with
    | some why => return c.hold ctx "SeedStoragePrefixInvalid" (origin ++ "; " ++ why)
    | none =>
      let (c, seeded) ← seedMembers hashRequest ctx holder
        (memberNames c.name c.spec.promotableMembers) c
      if seeded then
        let c := c.withDatabase { c.database with seeding := none, haConfigured := true }
        return c.setCondition ctx .bootstrapReady
          ⟨.conditionTrue, "PeersSeeded", origin ++ " and copied to the other members"⟩
      else return c

end Seeding

section Creating

variable (hashRequest : StartBody → String) (ctx : PassContext) (c : CubridCluster)

def createOperation : ClusterM (Except CubridCluster Operation) := do
  let d := c.database
  let member := c.firstMember
  match d.bootstrapOperationID with
  | some id =>
    pollStep ctx c d.bootstrapOperationMissingSince DatabaseStatus.missedCreate member .haBootstrap
      "HA bootstrap" id
      ("createdb may still be running on " ++ member ++ ", or have left data there")
      ("the database is not recorded as created; check " ++ member ++ " before relying on its data")
  | none =>
    let started ← startStep ctx c c member (c.createRequest hashRequest d.bootstrapAttempts)
      "DatabaseCreationFailed"
    return started.map (·.1)

def concludeCreate (op : Operation) : ClusterM CubridCluster :=
  let d :=
    { c.database with bootstrapOperationID := some op.id, bootstrapOperationMissingSince := none }
  match op.state with
  | .completed =>
    reconcileSeeding hashRequest ctx
      (c.withDatabase { d with phase := .created, primaryCreated := true }) c.firstMember
  | .failed =>
    return bootstrapStepFailed (c.withDatabase { d with bootstrapOperationID := none }) ctx
      "DatabaseCreationFailed"
      ("on " ++ c.firstMember ++ ": " ++ op.failureReason)
  | _ =>
    return (c.withDatabase { d with phase := .creating }).hold ctx "DatabaseCreationInProgress"
      ("creating database " ++ c.firstDatabase ++ " on " ++ c.firstMember)

def reconcileHABootstrap : ClusterM CubridCluster := do
  if !c.spec.highAvailability ∨ c.spec.databases = [] ∨ c.spec.recovery.isSome then return c
  else
    let c := c.withDatabase c.database
    if c.database.phase = .failed ∨ c.database.haConfigured then return c
    else if c.database.primaryCreated then reconcileSeeding hashRequest ctx c c.firstMember
    else
      match ← createOperation hashRequest ctx c with
      | .error c => return c
      | .ok op => concludeCreate hashRequest ctx c op

end Creating

section Recovery

variable (hashRequest : StartBody → String) (ctx : PassContext) (c : CubridCluster)

def recoveryActive : Bool :=
  c.spec.recovery.isSome ∧ c.status.rest.bootstrap.map (·.phase) ≠ some .complete

def recoveryFailed (boot : BootstrapStatus) (reason msg : String) : CubridCluster :=
  (c.withBootstrap { boot with phase := .failed }).hold ctx reason msg

def restoreAttemptFailed (boot : BootstrapStatus) (why : String) : CubridCluster :=
  if boot.attempts + 1 < maxBootstrapAttempts then
    (c.withBootstrap { boot with attempts := boot.attempts + 1, operationID := none }).hold ctx
      "RestoreFailedRetrying"
      ("on " ++ c.firstMember ++ ": " ++ why ++ "; starting attempt " ++ toString
        (boot.attempts + 2) ++ " of " ++
        toString maxBootstrapAttempts)
  else
    recoveryFailed ctx c boot "RestoreFailed"
      ("on " ++ c.firstMember ++ ": " ++ why ++ "; giving up after " ++
      toString maxBootstrapAttempts ++ " attempts")

def restoreOperationMissing (boot : BootstrapStatus) (id : OperationID) : ClusterM CubridCluster :=
  do
  let target := c.firstMember
  let since ← firstTime boot.operationMissingSince
  let boot := { boot with operationMissingSince := some since }
  let t ← now
  if t - since > recoveryOperationMissingWait then
    return recoveryFailed ctx c boot reasonRecordedOperationLost
      (target ++ " has held no record of the restore " ++
      "operation " ++ id.text ++ " since " ++ rfc3339 since ++ ", for " ++
      operationMissingWaitText ++ " or longer (" ++
      operationMissingText target id ++ "). A missing record " ++
      "does not show that the restore ended: restoredb may still be running on " ++ target ++
      ", or have left data " ++
      "there. The restore is not started again; check " ++ target ++
      " before relying on its data, and delete and " ++
      "create the CubridCluster again to restore anew (ADR-0008)")
  else
    return (c.withBootstrap boot).hold ctx reasonRecordedOperationMissing
      (target ++ " holds no record of the restore " ++
      "operation " ++ id.text ++ "; waiting for at most " ++ operationMissingWaitText ++ " from " ++
      rfc3339 since ++
      " for it to be read again")

def restoreProgress (state : OperationState) : BootstrapPhase × String :=
  match state with
  | .restoring => (.restoring, "restoredb is running on ")
  | .starting => (.restoring, "the restored database is being started on ")
  | _ => (.preparing, "the backup is being verified and downloaded on ")

def setRestoreProgress (boot : BootstrapStatus) (state : OperationState) : CubridCluster :=
  (c.withBootstrap { boot with phase := (restoreProgress state).1 }).hold ctx "RestoreInProgress"
    ((restoreProgress state).2 ++ c.firstMember)

def restoredOnTarget : Bool := c.database.primaryCreated

def recoveryStarted (boot : BootstrapStatus) : Bool :=
  boot.operationID.isSome ∨ boot.attempts > 0 ∨ restoredOnTarget c

def manifestLocation (boot : BootstrapStatus) (uri : String) : Except String (String × String) :=
  match parseManifestURI uri with
  | .ok location => .ok location
  | .error why => if recoveryStarted c boot then startedManifestLocation uri else .error why

def concludeRecovery (boot : BootstrapStatus) : CubridCluster × Bool :=
  if c.database.haConfigured then (c.withBootstrap { boot with phase := .complete }, false)
  else if c.database.phase = .failed then (c.withBootstrap { boot with phase := .failed }, true)
  else (c, true)

def seedRecovered (boot : BootstrapStatus) : ClusterM (CubridCluster × Bool) := do
  if c.database.phase = .failed then return concludeRecovery c boot
  else
    let boot := { boot with phase := .seedingReplicas }
    let c ← reconcileSeeding hashRequest ctx (c.withBootstrap boot) boot.targetMember
    return concludeRecovery c boot

def reconcileRecoverySeeding (boot : BootstrapStatus) : ClusterM (CubridCluster × Bool) :=
  let d := c.database
  seedRecovered hashRequest ctx (if d.primaryCreated then c.withDatabase d
    else c.withDatabase { d with phase := .created, primaryCreated := true }) boot

def startRecovery (boot : BootstrapStatus) (uri bucket pathPrefix : String) :
    ClusterM CubridCluster := do
  match engineSeriesHold c c.firstMember with
  | some msg => return c.hold ctx reasonEngineVersionMismatch msg
  | none =>
    match ← startOrFollow c.firstMember
        (c.recoveryRequest hashRequest uri bucket pathPrefix boot.attempts) with
    | .ok (op, _) =>
      return setRestoreProgress ctx c { boot with operationID := some op.id } op.state
    | .error e =>
      if e.cause = .requestRefused then return restoreAttemptFailed ctx c boot e.message
      else
        let reason := instanceManagerFailureReason e
        return c.hold ctx (if reason = "InstanceManagerUnavailable" then "RestoreStartFailed"
          else reason) e.message

def pollRecovery (boot : BootstrapStatus) (id : OperationID) : ClusterM (CubridCluster × Bool) := do
  match ← getOperation c.firstMember id with
  | .error .missing => return (← restoreOperationMissing ctx c boot id, true)
  | .error (.failed e) => return (c.hold ctx (instanceManagerFailureReason e) e.message, true)
  | .ok op =>
    let boot := { boot with operationMissingSince := none }
    match op.state with
    | .completed =>
      if c.spec.highAvailability then
        reconcileRecoverySeeding hashRequest ctx (c.withBootstrap boot) boot
      else
        let c := c.withBootstrap { boot with phase := .complete }
        return (c.setCondition ctx .bootstrapReady
          ⟨.conditionTrue, "RecoveryComplete", "restore completed on " ++ c.firstMember⟩, false)
    | .failed => return (restoreAttemptFailed ctx c boot op.failureReason, true)
    | _ => return (setRestoreProgress ctx c boot op.state, true)

def continueRecovery (boot : BootstrapStatus) (uri : String) : ClusterM (CubridCluster × Bool) :=
  match manifestLocation c boot uri with
  | .error why => return (recoveryFailed ctx c boot "InvalidManifestURI" why, true)
  | .ok (bucket, pathPrefix) =>
    if c.spec.highAvailability && restoredOnTarget c then
      reconcileRecoverySeeding hashRequest ctx c boot
    else
      match boot.operationID with
      | none => do return (← startRecovery hashRequest ctx c boot uri bucket pathPrefix, true)
      | some id => pollRecovery hashRequest ctx c boot id

def reconcileRecovery (uri : String) : ClusterM (CubridCluster × Bool) :=
  let boot := c.status.rest.bootstrap.getD { manifestURI := uri, targetMember := c.firstMember }
  let c := c.withBootstrap boot
  if boot.phase = .failed then return (c, true) else continueRecovery hashRequest ctx c boot uri

end Recovery

section Standalone

variable {ρ : Type} (s : ClusterStatus ρ) (inputs : PassInputs ρ)

def setStandaloneBrokerConditions (server : String) (serverReady : Bool)
    (available : BrokersAvailable) : ClusterStatus ρ :=
  (setEndpointConditions s inputs.ctx available).setCondition inputs.ctx .routingReady <|
    if !serverReady then
      ⟨.conditionFalse, "InstancesNotReady", "the standalone server " ++ server ++ " is not ready"⟩
    else if available.rw > 0 then
      ⟨.conditionTrue, "StandaloneServerReady",
        "RW routing target: the standalone server " ++ server⟩
    else
      ⟨.conditionFalse, "NoBrokerAvailable", "the standalone server " ++ server ++
        " is ready, but no rw Broker Pod is available to route writes to it"⟩

def standaloneResolution (server : String) : PrimaryResolution :=
  { currentPrimary := server, status := .conditionTrue, reason := "", multipleMasters := false }

def standaloneBrokerTier (server : String) (since : Option Int) (write : BrokerWrite) :
    ClusterStatus ρ :=
  match write with
  | .done available =>
    setStandaloneBrokerConditions s inputs server
      (decide (inputs.ready ≥ inputs.desired ∧ inputs.desired > 0)) available
  | write => (brokerTier s inputs.ctx since (standaloneResolution server) write).1

def standaloneStatus (server : String) (instances : List InstanceStatus) (since : Option Int)
    (write : BrokerWrite) : ClusterStatus ρ :=
  let s := reportMemberPlacement s inputs
  let s := s.setCondition inputs.ctx .haReady
    ⟨.conditionFalse, "HADisabled", "highAvailability.enabled is false"⟩
  let s := setEach { s with instances } inputs.ctx .updating inputs.updating
  let s := standaloneBrokerTier s inputs server since write
  let s := setReady s inputs false
  let s := if inputs.dropUpdating then
    { s with conditions := removeStatusCondition .updating s.conditions } else s
  { s with rest := inputs.rest }

end Standalone

section Reconcile

variable (hashRequest : StartBody → String) (ctx : PassContext) (v : Nat) (c : CubridCluster)

def CubridCluster.inputs (s : Surroundings) : PassInputs BootstrapRecords :=
  { ctx, desired := c.spec.promotableMembers, ready := s.inputs.ready,
    placement := s.inputs.placement,
    updating := s.inputs.updating, dropUpdating := s.inputs.dropUpdating,
    writtenAt := s.inputs.writtenAt,
    rest := c.status.rest }

def CubridCluster.passed (s : Surroundings) : CubridCluster :=
  { c with
    status :=
      if c.spec.highAvailability then
        (updateStatus c.status (c.inputs ctx s) s.answers s.positions s.brokerConflicts s.brokers).1
      else
        standaloneStatus c.status (c.inputs ctx s) c.firstMember s.standalone
          s.brokerConflicts s.brokers }

def CubridCluster.recovering (s : Surroundings) : CubridCluster :=
  let ready := (c.status.condition .bootstrapReady).elim "" fun ready =>
    if ready.message = "" then "" else ": " ++ ready.message
  let (reason, msg, progressing) := match c.status.rest.bootstrap.map (·.phase) with
    | some .seedingReplicas =>
      ("RecoverySeedingReplicas", "copying the restored database to the other members",
        ConditionStatus.conditionTrue)
    | some .failed =>
      (reasonBootstrapRecoveryFailed, "the recovery failed" ++ ready,
        ConditionStatus.conditionFalse)
    | _ => ("BootstrapRecoveryInProgress", "restoring from backup", ConditionStatus.conditionTrue)
  { c with status := recoveringStatus c.status (c.inputs ctx s) reason msg progressing }

def CubridCluster.failedChild (reason cause : String) (progressing : ConditionStatus) :
    CubridCluster :=
  { c with status := failedStatus c.status ctx reason cause progressing }

def storeStatus (read : CubridCluster) (writtenAt : Int) : ClusterM Unit := do
  let _ ← writeStatus v { c with status := holdObservationTimes read.status c.status writtenAt }
  return ()

def reconcileBootstrap : ClusterM (CubridCluster × Bool) :=
  match c.spec.recovery with
  | some uri =>
    if recoveryActive c then reconcileRecovery hashRequest ctx c uri else return (c, false)
  | none => return (c, false)

def reconcileStatus : ClusterM Unit := do
  let (next, active) ← reconcileBootstrap hashRequest ctx c
  if active then
    let s ← query ClusterQuery.surroundings
    storeStatus v (next.recovering ctx s) c s.inputs.writtenAt
  else
    let next ← reconcileHABootstrap hashRequest ctx next
    let s ← query ClusterQuery.surroundings
    storeStatus v (next.passed ctx s) c s.inputs.writtenAt

def reconcileCluster : ClusterM Unit := do
  match ← readObject with
  | none => return ()
  | some (v, c) =>
    let t ← now
    let ctx : PassContext := { cluster := c.name, generation := c.generation, now := t, wall := t }
    match ← query ClusterQuery.children with
    | .retried => return ()
    | .failed reason cause progressing =>
      storeStatus v (c.failedChild ctx reason cause progressing) c t
    | .done => reconcileStatus hashRequest ctx v c

/-- What others may change of a cluster. The members, the database and the
    recovery are fixed when it is created. -/
structure ClusterEdit where
  version : String
  objectStorage : Option CubridObjectStorage
  generation : Int

def clusterModel :
    OperatorModel CubridCluster StartBody ClusterQuery ClusterQuery.Ans ClusterEdit where
  reconcile := reconcileCluster hashRequest
  persist := CubridCluster.persisted
  amend edit c :=
    { c with
      spec.version := edit.version, spec.objectStorage := edit.objectStorage
      generation := edit.generation }

def CubridCluster.created : CubridCluster := { c with status := { rest := {} } }

def clusterRun (events : List (OperatorEvent ClusterQuery ClusterQuery.Ans ClusterEdit)) :
    OperatorPool CubridCluster StartBody ClusterQuery ClusterQuery.Ans :=
  (clusterModel hashRequest).run c.created events

end Reconcile
end Controller
