import CubridOperator.InstanceManager.Manager
import Mathlib.Data.List.Infix

/-!
The runners of restores and HA bootstraps, the resume, and the requests that
admit them. A deadline that ends a command is an answer of its environment.
-/
namespace InstanceManager
open Foundation

def errStopping : String := "the member is stopping"

def honorRecordedStop : ManagerM Bool := do
  match ← manage .lookStop with
  | .missing => pure false
  | _ =>
    manage .markStopping
    manage (.life .endOps)
    pure true

def activate (cmd : StartCommand) : ManagerM (Except String Unit) := do
  if ← honorRecordedStop then pure (.error errStopping)
  else if ← manage .isStopping then pure (.error errStopping)
  else manage (.start cmd)

inductive Stopped where
  | unrecorded (cause : String)
  | failed (cause : String)

def enter (id : OperationID) (state : RunningState) : ManagerM (Except String Unit) := do
  match ← manage (.store (.update id (.enter state))) with
  | .updated _ => pure (.ok ())
  | .error e => pure (.error e.text)
  | _ => pure (.error "the store gave no record")

def notRecorded (state : OperationState) (cause : String) : String :=
  "could not record the state " ++ state.text ++ ", so the operation went no further: " ++ cause

def stoppingReason (reason : String) : ManagerM String := do
  let ended ← manage .opsEnded
  if !ended ∨ errStopping.toList <:+: reason.toList then pure reason
  else pure (errStopping ++ ": " ++ reason)

def fail (id : OperationID) (reason : String) : ManagerM Unit := do
  let reason ← stoppingReason reason
  let _ ← manage (.store (.settle id (.failed reason)))

def validateRestoreDatabase (cfg : Config) (database : String) : Except String Unit :=
  if cfg.standaloneDB ≠ "" ∧ cfg.standaloneDB ≠ database then
    .error ("restore database " ++ quoted database ++
      " does not match configured standalone database " ++
      quoted cfg.standaloneDB)
  else .ok ()

def joinHeartbeat (database : String) (before : ManagerM (Except String Unit)) :
    ManagerM (Except Stopped Unit) := do
  let hb ← manage .observeStartable
  match hb.startError with
  | some e => pure (.error (.failed e))
  | none =>
    if hb.startable then
      match ← before with
      | .error e => pure (.error (.unrecorded e))
      | .ok () =>
        match ← activate (.heartbeatStart database) with
        | .error e => pure (.error (.failed ("heartbeat start failed: " ++ e)))
        | .ok () => pure (.ok ())
    else pure (.ok ())

/-- Start a restored database: a server, or heartbeat on an HA member. `before`
    runs ahead of each start command. -/
def startRestoredDatabase (cfg : Config) (database : String)
    (before : ManagerM (Except String Unit)) : ManagerM (Except Stopped Unit) := do
  match validateRestoreDatabase cfg database with
  | .error e => pure (.error (.failed e))
  | .ok () =>
    if cfg.standaloneDB ≠ "" then
      match ← before with
      | .error e => pure (.error (.unrecorded e))
      | .ok () =>
        match ← activate (.serverStart database) with
        | .error e => pure (.error (.failed ("server start failed: " ++ e)))
        | .ok () => pure (.ok ())
    else joinHeartbeat database before

def stage (dir : String) (e : StagingEffect) : ManagerM e.Ans := manage (.staging dir e)

def checkCopied (obj : ManifestObject) : Except String (Int × String) → Except String Unit
  | .error e => .error ("write staged " ++ obj.key ++ ": " ++ e)
  | .ok (size, sum) =>
    if size ≠ obj.sizeBytes then
      .error ("object " ++ obj.key ++ " size " ++ toString size ++ " does not match manifest " ++
        toString obj.sizeBytes)
    else if sum ≠ obj.sha256 then .error ("object " ++ obj.key ++ " checksum mismatch")
    else .ok ()

def stageObject (dir : String) (obj : ManifestObject) : ManagerM (Except String Unit) := do
  let name := Path.elements obj.key.toList
  match ← stage dir (.mkdirAll name.dropLast) with
  | .error e => pure (.error ("stage directory for " ++ obj.key ++ ": " ++ e))
  | .ok () =>
    match ← stage dir (.getObject obj.key) with
    | .error e => pure (.error ("download " ++ obj.key ++ ": " ++ e))
    | .ok () =>
      match ← stage dir (.create name) with
      | .error e => pure (.error ("create staged " ++ obj.key ++ ": " ++ e))
      | .ok file =>
        match checkCopied obj (← stage dir (.copy obj.key file)) with
        | .error e =>
          stage dir (.remove name)
          pure (.error e)
        | .ok () => pure (.ok ())

def stageEach (dir : String) : List ManifestObject → ManagerM (Except String Unit)
  | [] => pure (.ok ())
  | obj :: rest => do
    match ← stageObject dir obj with
    | .error e => pure (.error e)
    | .ok () => stageEach dir rest

def stageArtifact (dir : String) (exp : ManifestExpectation) :
    ManagerM (Except String BackupManifest) := do
  match ← stage dir .readManifest with
  | .error e => pure (.error e)
  | .ok decoded =>
    match (do let m ← parseManifest decoded; m.verify exp; m.validateObjectKeys; pure m) with
    | .error e => pure (.error e)
    | .ok manifest =>
      match ← stage dir .mkdirStaging with
      | .error e => pure (.error ("create the staging directory: " ++ e))
      | .ok () =>
        match ← stage dir .openStaging with
        | .error e => pure (.error ("open the staging directory: " ++ e))
        | .ok () =>
          match ← stageEach dir manifest.objects with
          | .error e => pure (.error e)
          | .ok () => pure (.ok manifest)

def undoLocked (database : String) (existed : Bool) : ManagerM Unit := do
  let _ ← manage (.removeAll (.home database))
  let _ ← unregisterDatabaseLocked database (!existed)

def undo (database : String) (existed : Bool) : ManagerM Unit := do
  match ← manage .openRoot with
  | .found => undoLocked database existed
  | _ => pure ()

/-- Create, mark and register the database directory. The answer says whether
    databases.txt existed before. -/
def registerRestoreTarget (cfg : Config) (host database : String) (owner : OperationID) :
    ManagerM (Except String Bool) := do
  let discard := fun (e : String) => do
    let _ ← manage (.removeAll (.home database))
    pure (.error e)
  match ← manage .openRoot with
  | .missing => pure (.error ("open " ++ cfg.target ++ ": " ++ noSuchFile))
  | .failed cause => pure (.error ("open " ++ cfg.target ++ ": " ++ cause))
  | .found =>
    match ← manage .readTxt with
    | .error cause => pure (.error ("read databases.txt: " ++ cause))
    | .ok before =>
      match ← manage (.mkdir database) with
      | .taken => pure (.error ("create " ++ database ++ " in " ++ cfg.target ++ ": file exists"))
      | .failed cause =>
        pure (.error ("create " ++ database ++ " in " ++ cfg.target ++ ": " ++ cause))
      | .made =>
        match ← markOwned database owner with
        | .error e => discard e
        | .ok () =>
          match ← manage (.mkdirLob database) with
          | .error cause =>
            discard ("create " ++ database ++ "/lob in " ++ cfg.target ++ ": " ++ cause)
          | .ok () =>
            match ← manage (.syncDir (.database database)) with
            | .error e => discard e
            | .ok () =>
              let text := withRegistration (before.getD []) (registration cfg.target host database)
              match ← replaceFile (.databasesTxt text) with
              | .error cause =>
                undoLocked database before.isSome
                pure (.error ("register " ++ database ++ " in databases.txt: " ++ cause))
              | .ok () => pure (.ok before.isSome)

def registerRestoreHost (cfg : Config) (host database : String) (owner : OperationID) :
    ManagerM (Except String Bool) := do
  if !isDatabaseName database then
    return .error ("database name " ++ quoted database ++ " is not a plain identifier")
  if host ≠ "" then registerRestoreTarget cfg host database owner
  else
    match ← manage .hostname with
    | .error cause => pure (.error ("host name for databases.txt: " ++ cause))
    | .ok own => registerRestoreTarget cfg own database owner

def restoreExpectation (req : RestoreRequest) (engine : String) : ManifestExpectation :=
  let exp : ManifestExpectation :=
    { database := req.database, cubridVersion := engine, level := some 0 }
  if req.seedFromMaster ≠ "" then
    { exp with requireSourceRole := "master", sourceInstance := req.seedFromMaster,
               clusterUID := req.expectedClusterUID }
  else exp

def checkRestore (roots : RestoreRoots) (req : RestoreRequest) : Except String String := do
  validateRestoreRequest req
  let (_, staging) ← confine req roots
  if req.seedFromMaster ≠ "" ∧ roots.host = "" then
    throw ("seedFromMaster " ++ quoted req.seedFromMaster ++
      " was given, but this member is not an HA member")
  checkRestoreEngine roots.engineVersion req.expectedCubridVersion
  pure staging

def restoreCommand (req : RestoreRequest) : String :=
  if req.seedFromMaster ≠ "" then "restoreslave" else "restoredb"

def restoreStaged (cfg : Config) (roots : RestoreRoots) (req : RestoreRequest) (dir : String)
    (owner : OperationID) (beforeRestore : ManagerM (Except String Unit)) :
    ManagerM (Except Stopped OperationArtifact) := do
  match ← stageArtifact dir (restoreExpectation req roots.engineVersion) with
  | .error e => pure (.error (.failed ("artifact verification failed: " ++ e)))
  | .ok manifest =>
    match ← beforeRestore with
    | .error e => pure (.error (.unrecorded e))
    | .ok () =>
      match ← registerRestoreHost cfg roots.host req.database owner with
      | .error e => pure (.error (.failed e))
      | .ok existed =>
        match ← manage (.restoredb req.database req.seedFromMaster (dir ++ "/backup")) with
        | .error e =>
          undo req.database existed
          pure (.error (.failed (restoreCommand req ++ " failed: " ++ e)))
        | .ok () =>
          let manifestKey := Path.clean (req.pathPrefix.toList ++ '/' :: manifestObjectName.toList)
          pure (.ok { manifestURI := "s3://" ++ req.bucket ++ "/" ++ String.ofList manifestKey,
                      database := req.database, cubridVersion := manifest.cubridVersion })

/-- Restore into an empty target. The staging directory is removed after a
    success, and after a failure if it was created here. -/
def restore (cfg : Config) (roots : RestoreRoots) (req : RestoreRequest) (owner : OperationID)
    (beforeRestore : ManagerM (Except String Unit)) : ManagerM (Except Stopped OperationArtifact) :=
  do
  match checkRestore roots req with
  | .error e => pure (.error (.failed e))
  | .ok dir =>
    match ← manage (.lookup (.home req.database)) with
    | .found =>
      pure (.error (.failed ("target " ++ cfg.target ++ " already holds database " ++
        quoted req.database ++ "; refusing to overwrite (ADR-0008)")))
    | _ =>
      match ← registeredInDatabasesTxt req.database with
      | .error e => pure (.error (.failed e))
      | .ok true =>
        pure (.error (.failed ("database " ++ quoted req.database ++ " is already registered in " ++
          cfg.target ++ "/databases.txt; refusing to overwrite (ADR-0008)")))
      | .ok false =>
        let present ← stage dir .stat
        let result ← restoreStaged cfg roots req dir owner beforeRestore
        match result, present with
        | .ok _, _ | _, .missing =>
          stage dir .removeStaging
          pure result
        | _, _ => pure result

/-- What is recorded ahead of a start: the state of the operation, or nothing on
    a resume. -/
def recordStarting : Option OperationID → ManagerM (Except String Unit)
  | some id => enter id ⟨.starting, rfl⟩
  | none => pure (.ok ())

/-- Start the restored data, record Completed, and only then clear the marker. -/
def completeRestore (cfg : Config) (id : OperationID) (database : String)
    (restored : OperationArtifact) : ManagerM Unit := do
  match ← startRestoredDatabase cfg database (enter id ⟨.starting, rfl⟩) with
  | .error (.unrecorded e) => fail id (notRecorded .starting e)
  | .error (.failed e) => fail id e
  | .ok () =>
    match ← manage (.store (.settle id (.completed (some restored)))) with
    | .done =>
      let _ ← clearOwned database
    | _ => pure ()

def restoreAnew (cfg : Config) (roots : RestoreRoots) (id : OperationID) (req : RestoreRequest) :
    ManagerM Unit := do
  match ← reclaimIncomplete cfg req.database with
  | .error e => fail id ("restore failed: " ++ e)
  | .ok () =>
    match ← restore cfg roots req id (enter id ⟨.restoring, rfl⟩) with
    | .error (.unrecorded e) => fail id (notRecorded .restoring e)
    | .error (.failed e) => fail id ("restore failed: " ++ e)
    | .ok restored =>
      match ← manage (.store (.update id (.setRestored restored))) with
      | .updated _ => completeRestore cfg id req.database restored
      | .error e => fail id ("record the restored database: " ++ e.text)
      | _ => fail id "record the restored database: the store gave no record"

def runRestoreOn (cfg : Config) (roots : RestoreRoots) (id : OperationID) (req : RestoreRequest) :
    ManagerM Unit := do
  match ← enter id ⟨.downloading, rfl⟩ with
  | .error e => fail id (notRecorded .downloading e)
  | .ok () =>
    match checkRestoreEngine roots.engineVersion req.expectedCubridVersion with
    | .error e => fail id ("restore refused: " ++ e)
    | .ok () =>
      match ← adoptRestored id req.database with
      | .error e => fail id ("restore failed: " ++ e)
      | .ok (some restored) =>
        if engineSeries restored.cubridVersion ≠ engineSeries roots.engineVersion then
          fail id ("restore refused: the data an earlier attempt restored is of engine " ++
            restored.cubridVersion ++ ", not of the series of this member's engine " ++
            roots.engineVersion ++ "; it is kept and not started (ADR-0011)")
        else completeRestore cfg id req.database restored
      | .ok none => restoreAnew cfg roots id req

def runRestore (cfg : Config) (id : OperationID) (req : RestoreRequest) : ManagerM Unit := do
  let engineVersion ← manage .engineVersion
  let roots : RestoreRoots := { target := cfg.target, staging := cfg.staging, engineVersion }
  if cfg.standaloneDB ≠ "" then runRestoreOn cfg roots id req
  else
    match ← manage .haHosts with
    | .error e =>
      fail id ("restore refused: this member is not standalone and has no usable HA " ++
        "configuration: " ++ e)
    | .ok hosts => runRestoreOn cfg { roots with host := hosts } id req

def createHADatabase (cfg : Config) (database : String) (owner : OperationID) :
    ManagerM (Except String Unit) := do
  match ← manage .haHosts with
  | .error e => pure (.error e)
  | .ok hosts =>
    match ← manage .mkdirRoot with
    | .error e => pure (.error ("create the database root: " ++ e))
    | .ok () =>
      match ← manage .openRoot with
      | .missing => pure (.error ("open the database root: " ++ noSuchFile))
      | .failed cause => pure (.error ("open the database root: " ++ cause))
      | .found =>
        match ← manage (.mkdir database) with
        | .taken =>
          pure (.error (cfg.target ++ "/" ++ database ++ " exists although database " ++
            quoted database ++
            " is not registered; refusing to create over it"))
        | .failed cause => pure (.error ("create the database directory: " ++ cause))
        | .made =>
          match ← markOwned database owner with
          | .error e =>
            let _ ← manage (.removeAll (.home database))
            pure (.error e)
          | .ok () =>
            match ← manage (.createdb database hosts) with
            | .ok () => clearOwned database
            | .error e =>
              match ← registeredInDatabasesTxt database with
              | .ok false =>
                let _ ← manage (.removeAll (.home database))
                pure (.error ("createdb failed: " ++ e))
              | _ => pure (.error ("createdb failed: " ++ e))

def completeBootstrap (id : OperationID) (database : String) : ManagerM Unit := do
  match ← joinHeartbeat database (enter id ⟨.starting, rfl⟩) with
  | .error (.unrecorded e) => fail id (notRecorded .starting e)
  | .error (.failed e) => fail id e
  | .ok () =>
    let _ ← manage (.store (.settle id (.completed none)))

def runHABootstrap (cfg : Config) (id : OperationID) (database : String) : ManagerM Unit := do
  match ← reclaimIncomplete cfg database with
  | .error e => fail id e
  | .ok () =>
    match ← registeredInDatabasesTxt database with
    | .error e => fail id e
    | .ok true => completeBootstrap id database
    | .ok false =>
      match ← enter id ⟨.creating, rfl⟩ with
      | .error e => fail id (notRecorded .creating e)
      | .ok () =>
        match ← createHADatabase cfg database id with
        | .error e => fail id e
        | .ok () => completeBootstrap id database

/-- Admit and record a disruptive operation, and run it if it is new. The answer
    is the operation, or an HTTP status and why. -/
def startOperation (kind : OperationKind) (key hash database : String)
    (runner : OperationID → ManagerM Unit) : ManagerM (Except (Nat × String) Operation) := do
  if key = "" then return .error (400, "Idempotency-Key header is required")
  match ← manage .admitOperation with
  | .error e => pure (.error (503, e))
  | .ok () =>
    match ← manage (.store (.findOrCreate kind key hash database)) with
    | .created op =>
      runner op.id
      manage .endOperation
      pure (.ok op)
    | .answered [op] =>
      manage .endOperation
      pure (.ok op)
    | .error e =>
      manage .endOperation
      pure (.error (if e = .idempotencyConflict ∨ e = .operationInProgress then 409
        else 500, e.text))
    | _ =>
      manage .endOperation
      pure (.error (500, "the store gave no record"))

def restorePrepare (cfg : Config) (key hash : String) (req : RestoreRequest) :
    ManagerM (Except (Nat × String) Operation) := do
  match (do validateRestoreRequest req; validateRestoreDatabase cfg req.database) with
  | .error e => pure (.error (400, e))
  | .ok () => startOperation .restore key hash req.database fun id => runRestore cfg id req

def haBootstrap (cfg : Config) (key hash database : String) :
    ManagerM (Except (Nat × String) Operation) := do
  if cfg.standaloneDB ≠ "" then
    return .error (409, "this member is a standalone server, not an HA member")
  if !isDatabaseName database then
    return .error (400, "database name is not a plain identifier")
  startOperation .haBootstrap key hash database fun id => runHABootstrap cfg id database

def resumeDatabase (cfg : Config) (haErr : Option String) (database : String) :
    ManagerM (List String) := do
  match ← manage (.readMarker database) with
  | .ok (some marker) =>
    match ← markedOperation marker with
    | .error _ => pure []
    | .ok op =>
      if op.kind ≠ .restore ∨ op.state ≠ .completed ∨ op.restored.isNone ∨
        op.database ≠ database then
        pure []
      else
        let failed :=
          fun e => ["start " ++ database ++ " of completed restore " ++ op.id.text ++ ": " ++ e]
        match haErr with
        | some e => pure (failed ("the HA configuration is not usable: " ++ e))
        | none =>
          match ← startRestoredDatabase cfg database (pure (.ok ())) with
          | .error (.unrecorded e) | .error (.failed e) => pure (failed e)
          | .ok () =>
            match ← clearOwned database with
            | .error e => pure [e]
            | .ok () => pure []
  | _ => pure []

def resumeEach (cfg : Config) (haErr : Option String) : List String → ManagerM (List String)
  | [] => pure []
  | database :: rest => do
    let errs ← if isDatabaseName database then resumeDatabase cfg haErr database else pure []
    let more ← resumeEach cfg haErr rest
    pure (errs ++ more)

/-- The databases whose restore completed but whose marker is still there are
    started; the errors of those that were not. -/
def resumeCompletedRestores (cfg : Config) : ManagerM (List String) := do
  match ← manage .admitResume with
  | .error e => pure [e]
  | .ok () =>
    match ← manage .listRoot with
    | .error e =>
      manage .endOperation
      pure ["read the database root: " ++ e]
    | .ok databases =>
      let haErr ← if cfg.standaloneDB ≠ "" then pure none
        else do
          match ← manage .haHosts with
          | .error e => pure (some e)
          | .ok _ => pure none
      let errs ← resumeEach cfg haErr databases
      manage .endOperation
      pure errs

end InstanceManager
