import CubridOperator.Controller.BackupController
import CubridOperator.Controller.ClusterRuns

/-!
The bootstrap of a cluster's first database: created on one member or restored
there, then copied to the others one at a time. Every step is an operation under
a key of its own, recorded once started and only polled from then on.
-/
namespace Controller
open Foundation Program InstanceManager

inductive DatabasePhase where
  | pending
  | creating
  | created
  | failed
  deriving DecidableEq

structure DatabaseSeeding where
  member : String
  source : String
  round : Nat := 0
  restoreOperationID : Option OperationID := none
  backupOperationID : Option OperationID := none
  operationMissingSince : Option Int := none
  deriving DecidableEq

structure DatabaseStatus where
  name : String
  phase : DatabasePhase := .pending
  primaryCreated : Bool := false
  haConfigured : Bool := false
  seededMembers : List String := []
  seeding : Option DatabaseSeeding := none
  bootstrapAttempts : Nat := 0
  bootstrapOperationID : Option OperationID := none
  bootstrapOperationMissingSince : Option Int := none
  deriving DecidableEq

inductive BootstrapPhase where
  | preparing
  | restoring
  | seedingReplicas
  | complete
  | failed
  deriving DecidableEq

structure BootstrapStatus where
  mode : String := "Recovery"
  phase : BootstrapPhase := .preparing
  manifestURI : String
  operationID : Option OperationID := none
  targetMember : String
  attempts : Nat := 0
  operationMissingSince : Option Int := none
  deriving DecidableEq

structure BootstrapRecords where
  databases : List DatabaseStatus := []
  bootstrap : Option BootstrapStatus := none
  deriving DecidableEq

structure CubridClusterSpec where
  version : String
  databases : List String
  promotableMembers : Nat
  highAvailability : Bool
  objectStorage : Option CubridObjectStorage := none
  recovery : Option String := none
  deriving DecidableEq

structure ClusterDefinition where
  name : String
  uid : String
  generation : Int := 1
  spec : CubridClusterSpec
  deriving DecidableEq

structure CubridCluster extends ClusterDefinition where
  status : ClusterStatus BootstrapRecords := { rest := {} }
  deriving DecidableEq

def DatabaseSeeding.persisted (s : DatabaseSeeding) : DatabaseSeeding :=
  { s with operationMissingSince := s.operationMissingSince.map wholeSeconds }

def DatabaseStatus.persisted (d : DatabaseStatus) : DatabaseStatus :=
  { d with
    seeding := d.seeding.map DatabaseSeeding.persisted
    bootstrapOperationMissingSince := d.bootstrapOperationMissingSince.map wholeSeconds }

def BootstrapStatus.persisted (boot : BootstrapStatus) : BootstrapStatus :=
  { boot with operationMissingSince := boot.operationMissingSince.map wholeSeconds }

def CubridCluster.persisted (c : CubridCluster) : CubridCluster :=
  { c with status := { c.status.persisted with rest :=
      { databases := c.status.rest.databases.map DatabaseStatus.persisted
        bootstrap := c.status.rest.bootstrap.map BootstrapStatus.persisted } } }

structure HABootstrapRequest where
  database : String
  deriving DecidableEq

inductive StartBody where
  | haBootstrap (req : HABootstrapRequest)
  | backup (req : BackupRequest)
  | restore (req : RestoreRequest)
  deriving DecidableEq

inductive ChildrenOutcome where
  | done
  | failed (reason cause : String) (progressing : ConditionStatus)
  | retried

structure Surroundings where
  inputs : PassInputs Unit
  answers : Answers
  positions : Positions
  brokerConflicts : Option Int
  brokers : BrokerWrite
  standalone : List InstanceStatus

inductive ClusterQuery where
  | children
  | probe (members : List String)
  | surroundings

abbrev ClusterQuery.Ans : ClusterQuery → Type
  | .children => ChildrenOutcome
  | .probe _ => Answers
  | .surroundings => Surroundings

abbrev ClusterM := OperatorM CubridCluster StartBody ClusterQuery ClusterQuery.Ans

def reasonRecordedOperationMismatch : String := "RecordedOperationMismatch"
def reasonSeedSourceContradicted : String := "SeedSourceContradicted"
def reasonEngineVersionMismatch : String := "EngineVersionMismatch"
def reasonBootstrapRecoveryFailed : String := "BootstrapRecoveryFailed"

def restoreStagingRoot : String := "/var/lib/cubrid/restore-staging"
def restoreTargetRoot : String := "/var/lib/cubrid/databases"

def recoveryOperationMissingWait : Int := minutes 30
def bootstrapOperationMissingWait : Int := recoveryOperationMissingWait
def operationMissingWaitText : String := "30m0s"

def maxBootstrapAttempts : Nat := 3

def bootstrapRemedy : String :=
  "delete and create the CubridCluster again to bootstrap it anew. Do not clear the " ++
  "recorded operation or the seeding record in the status by hand: the step would be " ++
  "started again under the same key (ADR-0010)"

section Records

def ClusterDefinition.firstDatabase (k : ClusterDefinition) : String := k.spec.databases.headD ""

def ClusterDefinition.firstMember (k : ClusterDefinition) : String := k.name ++ "-0"

variable (c : CubridCluster)

def CubridCluster.database : DatabaseStatus :=
  (c.status.rest.databases.find? (·.name = c.firstDatabase)).getD { name := c.firstDatabase }

def putDatabase (d : DatabaseStatus) : List DatabaseStatus → List DatabaseStatus
  | [] => [d]
  | e :: rest => if e.name = d.name then d :: rest else e :: putDatabase d rest

def CubridCluster.withDatabase (d : DatabaseStatus) : CubridCluster :=
  { c with status.rest.databases := putDatabase d c.status.rest.databases }

def CubridCluster.withSeeding (s : Option DatabaseSeeding) : CubridCluster :=
  c.withDatabase { c.database with seeding := s }

def CubridCluster.withBootstrap (boot : BootstrapStatus) : CubridCluster :=
  { c with status.rest.bootstrap := some boot }

theorem CubridCluster.database_name : c.database.name = c.firstDatabase := by
  unfold CubridCluster.database
  cases found : c.status.rest.databases.find? (·.name = c.firstDatabase) with
  | none => rfl
  | some d => simpa using List.find?_some found

theorem find_putDatabase (d : DatabaseStatus) (ds : List DatabaseStatus) :
    (putDatabase d ds).find? (·.name = d.name) = some d := by
  induction ds with
  | nil => simp [putDatabase]
  | cons e rest ih =>
    by_cases same : e.name = d.name
    · simp [putDatabase, same]
    · simp [putDatabase, same, ih]

theorem CubridCluster.database_withDatabase {d : DatabaseStatus}
    (named : d.name = c.firstDatabase) : (c.withDatabase d).database = d := by
  have found := find_putDatabase d c.status.rest.databases
  rw [named] at found
  exact congrArg (fun e : Option DatabaseStatus => e.getD { name := c.firstDatabase }) found

variable (ctx : PassContext)

def CubridCluster.setCondition (type : ConditionType) (verdict : Verdict) : CubridCluster :=
  { c with status := c.status.setCondition ctx type verdict }

def CubridCluster.hold (reason msg : String) : CubridCluster :=
  c.setCondition ctx .bootstrapReady ⟨.conditionFalse, reason, msg⟩

/-- A failed step is started again under a new key while attempts remain. -/
def bootstrapStepFailed (reason msg : String) : CubridCluster :=
  let d := c.database
  if d.bootstrapAttempts + 1 < maxBootstrapAttempts then
    (c.withDatabase { d with bootstrapAttempts := d.bootstrapAttempts + 1 }).hold ctx
      (reason ++ "Retrying")
      (msg ++ "; starting attempt " ++ toString (d.bootstrapAttempts + 2) ++ " of " ++
        toString maxBootstrapAttempts)
  else
    (c.withDatabase { d with phase := .failed }).hold ctx reason
      (msg ++ "; giving up after " ++ toString maxBootstrapAttempts ++ " attempts")

def bootstrapStopped (reason msg : String) : CubridCluster :=
  (c.withDatabase { c.database with phase := .failed }).hold ctx reason
    (msg ++ ", and " ++ bootstrapRemedy)

/-- The time since which a step's operation is missing, where its step keeps it. -/
def DatabaseStatus.missedCreate (d : DatabaseStatus) (since : Option Int) : DatabaseStatus :=
  { d with bootstrapOperationMissingSince := since }

def DatabaseStatus.missedSeeding (d : DatabaseStatus) (since : Option Int) : DatabaseStatus :=
  { d with seeding := d.seeding.map fun s => { s with operationMissingSince := since } }

def stepOperationMissing (since : Option Int)
    (missed : DatabaseStatus → Option Int → DatabaseStatus) (member step : String)
    (id : OperationID) (running left : String) : ClusterM CubridCluster := do
  let since ← firstTime since
  let c := c.withDatabase (missed c.database (some since))
  let t ← now
  if t - since > bootstrapOperationMissingWait then
    return bootstrapStopped c ctx reasonRecordedOperationLost
      (member ++ " has held no record of the " ++ step ++
      " operation " ++ id.text ++ " since " ++ rfc3339 since ++ ", for " ++
      operationMissingWaitText ++
      " or longer (" ++ operationMissingText member id ++ "). A missing record does " ++
      "not show that the " ++ step ++ " ended: " ++ running ++ ". The " ++ step ++
      " is not started again; " ++ left)
  else
    return c.hold ctx reasonRecordedOperationMissing
      (member ++ " holds no record of the " ++ step ++ " operation " ++
      id.text ++ "; waiting for at most " ++ operationMissingWaitText ++ " from " ++
      rfc3339 since ++
      " for it to be read again")

def operationMismatch (database : String) (op : Operation) (kind : OperationKind) : Option String :=
  if op.kind ≠ kind then some ("a " ++ op.kind.text ++ " operation")
  else if op.database ≠ "" ∧ op.database ≠ database then
    some ("an operation on database " ++ op.database)
  else none

end Records

section Calls

/-- A start that was refused as a conflict is answered by the operation that
    the member holds under the key. -/
def operationOfKey (member : String) (req : Request StartBody) (e : CallError) :
    ClusterM (Except CallError Operation) :=
  if !e.startConflict ∨ e.cause ∈ [.operationInProgress, .stagingInUse, .notAnHAMember] then
    return .error e
  else do
    match ← findOperation member req.kind req.key with
    | .ok (some op) => return .ok op
    | .ok none => return .error ⟨e.cause, e.message ++ "; the member holds no " ++ req.kind.text ++
        " operation under the key " ++ quoted req.key⟩
    | .error lookup =>
      -- The refusal of the token and a manager without object storage are told before any conflict.
      return .error ⟨if lookup.cause ∈ [.tokenRefused, .objectStorageNotApplied] then lookup.cause
        else e.cause,
        e.message ++ "; the " ++ req.kind.text ++ " operation under the key " ++ quoted req.key ++
          " could not be looked up: " ++ lookup.message⟩

def startOrFollow (member : String) (req : Request StartBody) :
    ClusterM (Except CallError (Operation × Bool)) := do
  match ← startOperation member req with
  | .ok op => return .ok (op, false)
  | .error e =>
    match ← operationOfKey member req e with
    | .ok op => return .ok (op, true)
    | .error e => return .error e

variable (ctx : PassContext) (c : CubridCluster)

/-- A step that was not started yet. `retried` is what a refused request, which
    counts as a failed attempt, leaves. -/
def startStep (retried : CubridCluster) (member : String) (req : Request StartBody)
    (reason : String) : ClusterM (Except CubridCluster (Operation × Bool)) := do
  match ← startOrFollow member req with
  | .ok started => return .ok started
  | .error e =>
    if e.cause = .requestRefused then
      return .error (bootstrapStepFailed retried ctx reason e.message)
    else return .error (c.hold ctx (instanceManagerFailureReason e) e.message)

def pollStep (since : Option Int) (missed : DatabaseStatus → Option Int → DatabaseStatus)
    (member : String) (kind : OperationKind) (step : String) (id : OperationID)
    (running left : String) : ClusterM (Except CubridCluster Operation) := do
  match ← getOperation member id with
  | .error .missing =>
    return .error (← stepOperationMissing c ctx since missed member step id running left)
  | .error (.failed e) => return .error (c.hold ctx (instanceManagerFailureReason e) e.message)
  | .ok op =>
    match operationMismatch c.firstDatabase op kind with
    | some why =>
      return .error (bootstrapStopped (c.withDatabase (missed c.database none)) ctx
        reasonRecordedOperationMismatch
        (member ++ " answers for the " ++ step ++ " operation " ++ op.id.text ++
          " recorded for database " ++
          c.firstDatabase ++ " with " ++ why ++ ". It does not show whether the " ++ step ++ " " ++
          "ran or ended. The " ++ step ++ " is not started again; check " ++ member ++
          " before relying on its data"))
    | none => return .ok op

end Calls

def bootstrapKey (step uid database : String) (attempt : Nat) (member : String) : String :=
  let key := step ++ "-" ++ uid ++ "-" ++ database ++ "-a" ++ toString attempt
  if member = "" then key else key ++ "-" ++ member

def seedLocationDir (artifact : String) : String :=
  if artifact = "" then "seed" else "seed-" ++ artifact

def withoutLeadingSlashes (pathPrefix : String) : String :=
  String.ofList (pathPrefix.toList.dropWhile (· = '/'))

def seedPrefixRefusal (pathPrefix : String) : Option String :=
  let cleaned := Path.clean (withoutLeadingSlashes pathPrefix).toList
  if cleaned = "..".toList ∨ "../".toList.isPrefixOf cleaned then
    some ("spec.objectStorage.prefix " ++ quoted pathPrefix ++
      " leads above the bucket with \"..\" and names no key for the seed backups")
  else none

def restoredSeed (op : Operation) (uid artifact database : String) : Bool :=
  (op.restored <|> op.artifact).any fun restored =>
    ("/" ++ joinPath [uid, seedLocationDir artifact, database,
      manifestObjectName]).toList.isSuffixOf
      restored.manifestURI.toList

/-- What the seed backup of a copy is called; the copy to the first peer has
    the place without a name. -/
def seedArtifact (first : Bool) (s : DatabaseSeeding) : String :=
  if first then ""
  else s.member ++ "-from-" ++ s.source ++ if s.round > 0 then "-r" ++ toString s.round else ""

def engineSeriesHold (c : CubridCluster) (member : String) : Option String :=
  match c.status.instances.find? fun i => i.name = member ∧ i.observedEngineVersion ≠ "" with
  | none => none
  | some i =>
    let series := engineSeries i.observedEngineVersion
    if series ≠ "" ∧ series = engineSeries c.spec.version then none
    else
      some (member ++ " runs engine " ++ i.observedEngineVersion ++
        ", which is not of spec.version " ++
      c.spec.version ++ "; the step waits and uses up no attempt (ADR-0011)")

namespace ClusterDefinition

variable (k : ClusterDefinition)

def seedLocation (artifact : String) : String × String :=
  ((k.spec.objectStorage.map (·.bucket)).getD "",
    joinPath [withoutLeadingSlashes ((k.spec.objectStorage.map (·.pathPrefix)).getD ""), k.uid,
      seedLocationDir artifact, k.firstDatabase])

def createKey (attempt : Nat) : String :=
  bootstrapKey "ha-bootstrap" k.uid k.firstDatabase attempt ""

def seedBackupKey (attempt : Nat) (artifact : String) : String :=
  bootstrapKey "seed-backup" k.uid k.firstDatabase attempt artifact

def seedRestoreKey (attempt : Nat) (peer artifact : String) : String :=
  bootstrapKey "seed-restore" k.uid k.firstDatabase attempt (if artifact = "" then peer
    else artifact)

def recoveryIdempotencyKey (uri : String) (attempts : Nat) : String :=
  "restore:" ++ k.uid ++ ":" ++ uri ++ ":" ++ k.firstMember ++ if attempts > 0 then
    ":a" ++ toString attempts else ""

def seedRestoreBody (source artifact : String) : RestoreRequest where
  database := k.firstDatabase
  bucket := (k.seedLocation artifact).1
  pathPrefix := (k.seedLocation artifact).2
  expectedCubridVersion := k.spec.version
  stagingDir := joinPath [restoreStagingRoot, "seed-" ++ k.uid]
  targetDir := restoreTargetRoot
  seedFromMaster := source
  expectedClusterUID := k.uid

variable (hashRequest : StartBody → String)

def startOf (kind : OperationKind) (key : String) (body : StartBody) : Request StartBody :=
  { kind, key, database := k.firstDatabase, body, hash := hashRequest body }

def createRequest (attempt : Nat) : Request StartBody :=
  k.startOf hashRequest .haBootstrap (k.createKey attempt)
    (.haBootstrap { database := k.firstDatabase })

def seedBackupRequest (attempt : Nat) (source peer artifact : String) : Request StartBody :=
  k.startOf hashRequest .backup (k.seedBackupKey attempt artifact) (.backup
    { database := k.firstDatabase
      destination := joinPath [backupStagingRoot, "seed-" ++ k.uid ++ if artifact = "" then ""
        else "-" ++ peer]
      upload := some
        { bucket := (k.seedLocation artifact).1, pathPrefix := (k.seedLocation artifact).2,
          clusterUID := k.uid,
          cubridVersion := k.spec.version, sourceInstance := source, sourceRole := roleMaster,
          seed := true } })

def seedRestoreRequest (attempt : Nat) (source peer artifact : String) : Request StartBody :=
  k.startOf hashRequest .restore (k.seedRestoreKey attempt peer artifact)
    (.restore (k.seedRestoreBody source artifact))

def recoveryRequest (uri bucket pathPrefix : String) (attempts : Nat) : Request StartBody :=
  k.startOf hashRequest .restore (k.recoveryIdempotencyKey uri attempts) (.restore
    { database := k.firstDatabase, bucket, pathPrefix, expectedCubridVersion := k.spec.version
      stagingDir := joinPath [restoreStagingRoot, k.uid]
      targetDir := restoreTargetRoot })

end ClusterDefinition

/-- The masters among the holders, when every holder answered in time with a
    role that can be relied on. -/
def seedMasters (obs : Observations) (now : Int) : List String → Except String (List String)
  | [] => .ok []
  | m :: rest =>
    match obs m with
    | none => .error (m ++ " did not answer")
    | some o =>
      if !fresh o now then .error (m ++ " did not answer")
      else if o.role = roleMaster ∧ (!o.conflicting ∨ o.masterNotYetActive) then
        (seedMasters obs now rest).map (m :: ·)
      else if o.role = roleSlave ∧ !o.conflicting then seedMasters obs now rest
      else .error (m ++ " reports no role that can be relied on")

def seedSourceAmong (holders : List String) (obs : Observations) (now : Int) :
    Except String String :=
  match seedMasters obs now holders with
  | .error why => .error why
  | .ok [] => .error ("none of " ++ ", ".intercalate holders ++ " reports itself master")
  | .ok [m] => .ok m
  | .ok masters => .error (" and ".intercalate masters ++ " both report themselves master")

def selectSeedSource (c : CubridCluster) (holder : String) : ClusterM (Except String String) := do
  if c.database.seededMembers = [] then return .ok holder
  else
    let holders := holder :: c.database.seededMembers
    let answers ← query (ClusterQuery.probe holders)
    let t ← now
    return seedSourceAmong holders (probeAll holders answers) t

end Controller
