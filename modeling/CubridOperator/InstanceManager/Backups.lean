import CubridOperator.InstanceManager.Runners
import Mathlib.Algebra.Ring.Int.Defs

/-!
Backups and their staging: claim, run and reclaim. Loops that wait are bounded
by their polls; the environment may end them earlier.
-/
namespace InstanceManager
open Foundation

def backupStep (e : BackupEffect) : ManagerM e.Ans := manage (.backup e)

def BackupDir.path (cfg : Config) (dir : BackupDir) : String :=
  cfg.backupStaging ++ "/" ++ dir.destination ++ "/" ++ dir.id.text

/-- The operation on record, or, when its record cannot be read or a process
    holds a file in it, the entry's own name. -/
structure StagingOwner where
  name : EntryName
  op : Option Operation

def isLink : Except String EntryType → Bool
  | .ok .link => true
  | _ => false

def stagingLink (name : String) (entry : EntryName) : ManagerM Bool := do
  if isLink (← backupStep (.lstat name none)) then pure true
  else
    let found ← backupStep (.lstat name (some entry))
    pure (isLink found)

def entryPath (cfg : Config) (name : String) (entry : EntryName) : String :=
  cfg.backupStaging ++ "/" ++ name ++ "/" ++ entry.text

def stagingHeld (cfg : Config) (name : String) (entry : EntryName) :
    ManagerM (List String × List String) := do
  if ← stagingLink name entry then pure ([], [])
  else
    match ← backupStep (.readProcesses (entryPath cfg name entry)) with
    | .error e => pure ([], ["read the process list: " ++ e])
    | .ok procs => pure (stagingHolders procs (entryPath cfg name entry))

def stagingRecordLive : EntryName → ManagerM (Option StagingOwner)
  | .other _ => pure none
  | .operation id => do
    match ← manage (.store (.get id)) with
    | .answered [op] =>
      if op.state.isTerminal then
        pure none else pure (some { name := .operation id, op := some op })
    | .error e =>
      if e.isNotFound then pure none else pure (some { name := .operation id, op := none })
    | _ => pure (some { name := .operation id, op := none })

def stagingOwnerLive (cfg : Config) (name : String) (entry : EntryName) :
    ManagerM (Option StagingOwner) := do
  match ← stagingRecordLive entry with
  | some owner => pure (some owner)
  | none =>
    let (held, errors) ← stagingHeld cfg name entry
    if held = [] ∧ errors = [] then pure none else pure (some { name := entry, op := none })

def ownersAmong (cfg : Config) (name : String) : List EntryName → ManagerM (List StagingOwner)
  | [] => pure []
  | entry :: rest => do
    let owner ← stagingOwnerLive cfg name entry
    let more ← ownersAmong cfg name rest
    pure (owner.toList ++ more)

def liveStagingOwners (cfg : Config) (name : String) :
    ManagerM (Except String (List StagingOwner × List EntryName)) := do
  match ← backupStep (.openDestination name) with
  | .missing => pure (.ok ([], []))
  | .failed cause => pure (.error ("open the backup staging destination: " ++ cause))
  | .found =>
    match ← backupStep (.readDestination name) with
    | .error cause => pure (.error ("read the backup staging destination: " ++ cause))
    | .ok entries =>
      let live ← ownersAmong cfg name entries
      pure (.ok (live, entries))

def openStagingRoot : ManagerM (Except String Unit) := do
  match ← backupStep .makeRoot with
  | .error e => pure (.error ("create the backup staging root: " ++ e))
  | .ok () =>
    match ← backupStep .openRoot with
    | .error e => pure (.error ("open the backup staging root: " ++ e))
    | .ok () => pure (.ok ())

def removeEach (name : String) : List EntryName → ManagerM Unit
  | [] => pure ()
  | entry :: rest => do
    let _ ← backupStep (.removeEntry name entry)
    removeEach name rest

def reclaimDestination (cfg : Config) (name : String) : ManagerM (Except String Bool) := do
  match ← liveStagingOwners cfg name with
  | .error e => pure (.error e)
  | .ok (_ :: _, _) => pure (.ok false)
  | .ok ([], entries) =>
    removeEach name entries
    pure (.ok true)

def errBackupStagingInUse : String :=
  "the backup staging destination is owned by another operation that is still running"

def claimBackupStaging (cfg : Config) (name : String) (id : OperationID) :
    ManagerM (Except String BackupDir) := do
  match ← backupStep (.mkdirDestination name) with
  | .failed cause => pure (.error ("create the backup staging destination: " ++ cause))
  | _ =>
    match ← backupStep (.lstat name none) with
    | .error cause => pure (.error ("inspect the backup staging destination: " ++ cause))
    | .ok .directory =>
      match ← reclaimDestination cfg name with
      | .error e => pure (.error e)
      | .ok false => pure (.error (errBackupStagingInUse ++ ": " ++ name))
      | .ok true =>
        match ← backupStep (.mkdirOperation { destination := name, id }) with
        | .made => pure (.ok { destination := name, id })
        | .taken => pure (.error "create the operation's backup staging directory: file exists")
        | .failed cause =>
          pure (.error ("create the operation's backup staging directory: " ++ cause))
    | .ok _ => pure (.error ("the backup staging destination " ++ name ++ " is not a directory"))

def refuseOwners (key name : String) : List StagingOwner → ManagerM (Option (Nat × String))
  | [] => pure none
  | owner :: rest => do
    match owner.op with
    | some op =>
      if op.kind ≠ .backup ∨ op.idempotencyKey ≠ key then
        pure (some (409, errBackupStagingInUse ++ ": " ++ name ++ " is owned by operation " ++
          owner.name.text))
      else refuseOwners key name rest
    | none =>
      let inUse :=
        (409, errBackupStagingInUse ++ ": " ++ name ++ " is owned by operation " ++ owner.name.text)
      match owner.name with
      | .other _ => pure (some inUse)
      | .operation id =>
        match ← manage (.store (.get id)) with
        | .error e =>
          if e.isNotFound then pure (some inUse)
          else
            pure (some (500, "an operation record cannot be read: operation " ++ owner.name.text ++
            " owns an entry of " ++ name ++ ": " ++ e.text))
        | _ => pure (some inUse)

def failClaim (id : OperationID) (cause : String) :
    ManagerM (Except (Nat × String) (Operation × Option BackupDir)) := do
  let reason := "claim the backup staging directory: " ++ cause
  match ← manage (.store (.settle id (.failed reason))) with
  | .done =>
    match ← manage (.store (.get id)) with
    | .answered [failed] => pure (.ok (failed, none))
    | .error e => pure (.error (500, e.text))
    | _ => pure (.error (500, "the store gave no record"))
  | .error e => pure (.error (500, reason ++ "; recording that the operation failed: " ++ e.text))
  | _ => pure (.error (500, reason ++ "; recording that the operation failed"))

def claimRecorded (cfg : Config) (name : String) (op : Operation) :
    ManagerM (Except (Nat × String) (Operation × Option BackupDir)) := do
  match ← claimBackupStaging cfg name op.id with
  | .error e => failClaim op.id e
  | .ok dir =>
    match ← manage (.store (.update op.id (.setStagingDir (dir.path cfg)))) with
    | .updated _ => pure (.ok (op, some dir))
    | reply =>
      let _ ← backupStep (.removeEntry name (.operation op.id))
      failClaim op.id (match reply with | .error e => e.text | _ => "the store gave no record")

def recordBackupLocked (cfg : Config) (key hash : String) (req : BackupRequest) (name : String) :
    ManagerM (Except (Nat × String) (Operation × Option BackupDir)) := do
  match ← openStagingRoot with
  | .error e => pure (.error (500, e))
  | .ok () =>
    match ← liveStagingOwners cfg name with
    | .error e => pure (.error (500, e))
    | .ok (live, _) =>
      match ← refuseOwners key name live with
      | some refusal => pure (.error refusal)
      | none =>
        match ← manage (.store (.findOrCreate .backup key hash req.database)) with
        | .created op => claimRecorded cfg name op
        | .answered [op] => pure (.ok (op, none))
        | .error e =>
          pure (.error (if e = .idempotencyConflict ∨ e = .operationInProgress then 409
            else 500, e.text))
        | _ => pure (.error (500, "the store gave no record"))

/-- Record the operation of a request and claim its directory; a repeat of a
    recorded request has no directory to run in. -/
def recordBackup (cfg : Config) (key hash : String) (req : BackupRequest) (name : String) :
    ManagerM (Except (Nat × String) (Operation × Option BackupDir)) := do
  backupStep .lock
  let recorded ← recordBackupLocked cfg key hash req name
  backupStep .unlock
  pure recorded

def reclaimEach (cfg : Config) : List (String × Bool) → ManagerM Unit
  | [] => pure ()
  | (name, isDir) :: rest => do
    if isDir ∧ isStagingName name.toList then
      match ← reclaimDestination cfg name with
      | .ok true =>
        let _ ← backupStep (.removeDestination name)
      | _ => pure ()
    reclaimEach cfg rest

def reclaimBackupStaging (cfg : Config) : ManagerM Unit := do
  if cfg.backupStaging = "" then return ()
  backupStep .lock
  match ← backupStep .readRoot with
  | .error _ => pure ()
  | .ok entries =>
    match ← backupStep .openRoot with
    | .error _ => pure ()
    | .ok () => reclaimEach cfg entries
  backupStep .unlock

def removeBackupStaging (dir : BackupDir) : ManagerM Unit := do
  backupStep .lock
  match ← backupStep .openRoot with
  | .error _ => pure ()
  | .ok () =>
    let _ ← backupStep (.removeEntry dir.destination (.operation dir.id))
    let _ ← backupStep (.removeDestination dir.destination)
  backupStep .unlock

def createBackupStaging (dir : BackupDir) : ManagerM (Except String Unit) := do
  match ← openStagingRoot with
  | .error e => pure (.error e)
  | .ok () =>
    match ← backupStep (.mkdirAll dir) with
    | .error e => pure (.error ("create the backup staging directory: " ++ e))
    | .ok () => pure (.ok ())

def stagingWriterPolls : Nat := 150

def stagingKept (cfg : Config) (dir : BackupDir) : ManagerM (Option String) := do
  let (held, errors) ← stagingHeld cfg dir.destination (.operation dir.id)
  if held = [] ∧ errors = [] then pure none
  else
    pure (some ("the backup staging " ++ dir.path cfg ++
      " is kept and is not uploaded or reused: a process still held a file in it after 30s (" ++
      describeHolders held errors ++ ")"))

/-- Why the directory is kept; none once no process holds a file in it. -/
def awaitStagingWriters (cfg : Config) (dir : BackupDir) : Nat → ManagerM (Option String)
  | 0 => stagingKept cfg dir
  | polls + 1 => do
    match ← stagingKept cfg dir with
    | none => pure none
    | some kept =>
      if ← backupStep .boundPassed then pure (some kept) else awaitStagingWriters cfg dir polls

/-- Record that the backup failed, with its files removed, or kept when they are
    not closed in time. -/
def failBackup (cfg : Config) (dir : BackupDir) (reason : String) : ManagerM Unit := do
  let reason ← stoppingReason reason
  match ← awaitStagingWriters cfg dir stagingWriterPolls with
  | some kept =>
    let _ ← manage (.store (.settle dir.id (.failed (reason ++ "; " ++ kept))))
  | none =>
    removeBackupStaging dir
    let _ ← manage (.store (.settle dir.id (.failed reason)))

def backupRolePolls : Nat := 30

def HAStatus.why (st : HAStatus) : String := if st.reason = "" then "" else " (" ++ st.reason ++ ")"

def HAStatus.meets (st : HAStatus) (want : String) : Bool :=
  want = "" ∨ want = Role.unknown.text ∨ st.role.text = want

/-- Why no other reading follows the pause after this one; none when one does. -/
def HAStatus.refusal (st : HAStatus) : RolePause → Option (Role × String)
  | .ended waited cause =>
    some (st.role, "the wait for that role ended after " ++ waited ++ " (" ++ cause ++
      "); it last reported " ++ st.role.text ++ st.why)
  | .late waited => some (st.role, "it reports " ++ st.role.text ++ " after " ++ waited ++ st.why)
  | .again => none

/-- The role this member reports, which must be the wanted one if one is
    named; on an error, the last one read. -/
def backupSourceRole (want : String) : Nat → ManagerM (Except (Role × String) Role)
  | 0 => do
    let st ← backupStep .readRole
    if st.meets want then pure (.ok st.role)
    else
      let pause ← backupStep .rolePause
      pure (.error ((st.refusal pause).getD (st.role, "it reports " ++ st.role.text)))
  | polls + 1 => do
    let st ← backupStep .readRole
    if st.meets want then pure (.ok st.role)
    else
      match st.refusal (← backupStep .rolePause) with
      | some e => pure (.error e)
      | none => backupSourceRole want polls

structure UploadResult where
  manifestURI : String
  manifestDigest : String
  sizeBytes : Int

def uploadFile (dir : BackupDir) (handle : DirHandle) (bucket : String) (place : Text)
    (rel : String) : ManagerM (Except String ManifestObject) := do
  match ← backupStep (.hashFile handle rel) with
  | .error e => pure (.error e)
  | .ok (sum, size) =>
    let key := String.ofList (Path.joined place ("backup/".toList ++ rel.toList))
    match ← backupStep (.putFile dir handle rel bucket key size) with
    | .error e => pure (.error e)
    | .ok () =>
      match ← backupStep (.statSize bucket key) with
      | .error e => pure (.error ("upload verification failed for " ++ key ++ ": " ++ e))
      | .ok stored =>
        if stored ≠ size then
          pure (.error ("upload verification failed for " ++ key ++ " (size got=" ++
            toString stored ++
            " want=" ++ toString size ++ ")"))
        else
          let listed := String.ofList (Path.clean ("backup/".toList ++ rel.toList))
          pure (.ok { key := listed, sizeBytes := size, sha256 := sum })

def uploadEach (dir : BackupDir) (handle : DirHandle) (bucket : String) (place : Text) :
    List String → ManagerM (Except String (List ManifestObject))
  | [] => pure (.ok [])
  | rel :: rest => do
    match ← uploadFile dir handle bucket place rel with
    | .error e => pure (.error e)
    | .ok object =>
      match ← uploadEach dir handle bucket place rest with
      | .error e => pure (.error e)
      | .ok objects => pure (.ok (object :: objects))

def uploadPlace (up : BackupUpload) (manifest : BackupManifest) : ManagerM (Except String Text) :=
  do
  if up.seed then
    match validateSeedUpload up.pathPrefix manifest.clusterUID manifest.database
        manifest.sourceRole with
    | .error e => pure (.error e)
    | .ok () => pure (.ok up.pathPrefix.toList)
  else
    match ← backupStep .attemptID with
    | .error e => pure (.error ("generate upload identity: " ++ e))
    | .ok id => pure (.ok (backupAttemptPath up.pathPrefix.toList id.toList))

def uploadBackup (cfg : Config) (dir : BackupDir) (up : BackupUpload) (manifest : BackupManifest) :
    ManagerM (Except String UploadResult) := do
  match ← uploadPlace up manifest with
  | .error e => pure (.error e)
  | .ok place =>
    match ← backupStep (.stagedFiles dir) with
    | .error e => pure (.error ("scan staging dir: " ++ e))
    | .ok [] => pure (.error ("no backup files staged in " ++ dir.path cfg))
    | .ok files =>
      match ← backupStep (.openStaging dir) with
      | .error e => pure (.error ("open the staging directory: " ++ e))
      | .ok handle =>
        match ← uploadEach dir handle up.bucket place files with
        | .error e => pure (.error e)
        | .ok objects =>
          let manifest :=
            { manifest with manifestVersion := InstanceManager.manifestVersion, objects }
          let key := String.ofList (Path.joined place manifestObjectName.toList)
          match ← backupStep (.putManifest up.bucket key manifest) with
          | .error e => pure (.error ("upload manifest: " ++ e))
          | .ok digest =>
            pure (.ok { manifestURI := "s3://" ++ up.bucket ++ "/" ++ key, manifestDigest := digest,
                        sizeBytes := (objects.map (·.sizeBytes)).sum })

/-- A master and the source of a seed must still have their role after backupdb. -/
def roleHeld (up : BackupUpload) (role : Role) : ManagerM (Except String Unit) := do
  if role = .master ∨ up.seed then
    match ← backupSourceRole role.text backupRolePolls with
    | .error (after, e) =>
      pure (.error ("backup not uploaded: this member was observed " ++ role.text ++
        " at start, " ++
        after.text ++ " after backupdb; " ++ e))
    | .ok _ => pure (.ok ())
  else if role ≠ .unknown then
    let _ ← backupStep .readRole
    pure (.ok ())
  else pure (.ok ())

def completeBackup (cfg : Config) (dir : BackupDir) (req : BackupRequest) (up : BackupUpload)
    (engine : String) (role : Role) : ManagerM Unit := do
  match ← roleHeld up role with
  | .error e => failBackup cfg dir e
  | .ok () =>
    match ← enter dir.id ⟨.uploading, rfl⟩ with
    | .error e => failBackup cfg dir (notRecorded .uploading e)
    | .ok () =>
      let manifest : BackupManifest :=
        { manifestVersion := 0, database := req.database, clusterUID := up.clusterUID,
          cubridVersion := engine,
          level := req.level, sourceInstance := up.sourceInstance, sourceRole := role.text,
          objects := [] }
      match ← uploadBackup cfg dir up manifest with
      | .error e => failBackup cfg dir ("upload failed: " ++ e)
      | .ok result =>
        removeBackupStaging dir
        let _ ← manage (.store (.settle dir.id (.completed (some
          { manifestURI := result.manifestURI, manifestDigest := result.manifestDigest,
            sizeBytes := result.sizeBytes, database := req.database, cubridVersion := engine,
            level := req.level }))))

def runBackup (cfg : Config) (dir : BackupDir) (req : BackupRequest) : ManagerM Unit := do
  match ← enter dir.id ⟨.runningBackup, rfl⟩ with
  | .error e => failBackup cfg dir (notRecorded .runningBackup e)
  | .ok () =>
    let installed ← manage .engineVersion
    match backupEngineVersion installed req with
    | .error e => failBackup cfg dir ("backup refused: " ++ e)
    | .ok engine =>
      match ← backupSourceRole (requestedRole req) backupRolePolls with
      | .error (_, e) =>
        failBackup cfg dir
          ("backup refused: the request names this member as " ++ requestedRole req ++
          ", but " ++ e)
      | .ok role =>
        match ← createBackupStaging dir with
        | .error e => failBackup cfg dir e
        | .ok () =>
          match ← backupStep (.backupdb dir req.database req.level) with
          | .error e => failBackup cfg dir ("backupdb failed: backupdb failed: " ++ e)
          | .ok () =>
            match req.upload with
            | some up =>
              if cfg.objectStorage then completeBackup cfg dir req up engine role
              else
                failBackup cfg dir
                  "backupdb succeeded but no object-storage destination is configured"
            | none =>
              failBackup cfg dir
                "backupdb succeeded but no object-storage destination is configured"

def backupPreflight (cfg : Config) (req : BackupRequest) : Except (Nat × String) Unit :=
  if (req.upload.map (·.bucket)).getD "" = "" then
    .error (400, "a backup needs an upload with a bucket; it is not run without one")
  else if !cfg.objectStorage then
    .error (412,
      "this Instance Manager was started without object storage (IM_S3_ENDPOINT is not set); " ++
      "the Pod has to be restarted with the cluster's spec.objectStorage")
  else .ok ()

def backupAdmitted (cfg : Config) (key hash : String) (req : BackupRequest) (name : String) :
    ManagerM (Except (Nat × String) Operation) := do
  if key = "" then return .error (400, "Idempotency-Key header is required")
  match backupPreflight cfg req with
  | .error refusal => pure (.error refusal)
  | .ok () =>
    match ← recordBackup cfg key hash req name with
    | .error refusal => pure (.error refusal)
    | .ok (op, none) => pure (.ok op)
    | .ok (op, some dir) =>
      runBackup cfg dir req
      pure (.ok op)

def backup (cfg : Config) (key hash : String) (req : BackupRequest) :
    ManagerM (Except (Nat × String) Operation) := do
  match (do
      validateBackupRequest req
      confineBackupDestination req.destination cfg.backupStaging) with
  | .error e => pure (.error (400, e))
  | .ok name =>
    match ← manage .admitOperation with
    | .error e => pure (.error (503, e))
    | .ok () =>
      let answer ← backupAdmitted cfg key hash req name
      manage .endOperation
      pure answer

end InstanceManager
