import CubridOperator.InstanceManager.BackupRequest
import CubridOperator.InstanceManager.DatabasesTxt
import CubridOperator.InstanceManager.StoreCalls

/-!
The effects of the manager's operations. The programs of the manager are trees
of these; the worlds that give them meaning follow the question that is asked.
-/
namespace InstanceManager
open Foundation

/-- The content of an ownership marker: an operation, or text that names none,
    such as the one the image's entrypoint writes. -/
inductive Marker where
  | operation (id : OperationID)
  | other (text : String)
  deriving DecidableEq

inductive RootName where
  | home (database : String)
  | tomb (database : String)
  deriving DecidableEq

inductive MetaFile where
  | marker (database : String)
  | databasesTxt
  deriving DecidableEq

inductive MetaWrite where
  | marker (database : String) (m : Marker)
  | databasesTxt (text : Text)

inductive Dir where
  | root
  | database (name : String)
  deriving DecidableEq

def MetaFile.dir : MetaFile → Dir
  | .marker database => .database database
  | .databasesTxt => .root

def MetaWrite.dir : MetaWrite → Dir
  | .marker database _ => .database database
  | .databasesTxt _ => .root

inductive Lookup where
  | found
  | missing
  | failed (cause : String)

inductive Made where
  | made
  | taken
  | failed (cause : String)

inductive StartCommand where
  | serverStart (database : String)
  | heartbeatStart (database : String)
  deriving DecidableEq

def StartCommand.database : StartCommand → String
  | .serverStart database | .heartbeatStart database => database

structure HeartbeatObservation where
  startable : Bool
  running : Bool := false
  confirmedRole : Bool := false
  reason : String := ""

/-- Why nothing may follow the observation; none when a start may be issued or
    heartbeat already runs in a confirmed role. -/
def HeartbeatObservation.startError (hb : HeartbeatObservation) : Option String :=
  if !hb.startable ∧ !hb.running then some (hb.reason ++ "; heartbeat start was not issued")
  else if hb.running ∧ !hb.confirmedRole then
    some (hb.reason ++ ": heartbeat runs without a confirmed role; heartbeat start was not issued")
  else none

abbrev StagedFile := Nat

/-- The steps of staging an artifact. `copy` writes the object and answers with
    the number of bytes and their SHA-256. -/
inductive StagingEffect where
  | stat
  | readManifest
  | mkdirStaging
  | openStaging
  | mkdirAll (dir : List Text)
  | getObject (key : String)
  | create (name : List Text)
  | copy (key : String) (file : StagedFile)
  | remove (name : List Text)
  | removeStaging

abbrev StagingEffect.Ans : StagingEffect → Type
  | .stat => Lookup
  | .readManifest => Except String BackupManifest
  | .create _ => Except String StagedFile
  | .copy _ _ => Except String (Int × String)
  | .remove _ | .removeStaging => Unit
  | _ => Except String Unit

/-- An entry of a backup destination: the directory of an operation, or
    anything under another name. -/
inductive EntryName where
  | operation (id : OperationID)
  | other (text : String)
  deriving DecidableEq

def EntryName.text : EntryName → String
  | .operation id => id.text
  | .other text => text

inductive EntryType where
  | directory
  | file
  | link
  deriving DecidableEq

structure BackupDir where
  destination : String
  id : OperationID
  deriving DecidableEq

inductive RolePause where
  | again
  | late (waited : String)
  | ended (waited cause : String)

abbrev DirHandle := Nat

/-- The steps of a backup. `lock` and `unlock` are of the mutex of the staging;
    `readProcesses` looks for the holders of files at or below a path. -/
inductive BackupEffect where
  | lock
  | unlock
  | makeRoot
  | openRoot
  | readRoot
  | openDestination (name : String)
  | readDestination (name : String)
  | lstat (name : String) (entry : Option EntryName)
  | readProcesses (path : String)
  | mkdirDestination (name : String)
  | mkdirOperation (dir : BackupDir)
  | mkdirAll (dir : BackupDir)
  | removeEntry (name : String) (entry : EntryName)
  | removeDestination (name : String)
  | boundPassed
  | readRole
  | rolePause
  | backupdb (dir : BackupDir) (database : String) (level : Int)
  | attemptID
  | stagedFiles (dir : BackupDir)
  | openStaging (dir : BackupDir)
  | hashFile (handle : DirHandle) (rel : String)
  | putFile (dir : BackupDir) (handle : DirHandle) (rel bucket key : String) (size : Int)
  | statSize (bucket key : String)
  | putManifest (bucket key : String) (manifest : BackupManifest)

abbrev BackupEffect.Ans : BackupEffect → Type
  | .lock | .unlock => Unit
  | .readRoot => Except String (List (String × Bool))
  | .openDestination _ => Lookup
  | .readDestination _ => Except String (List EntryName)
  | .lstat _ _ => Except String EntryType
  | .readProcesses _ => Except String (List ProcessView)
  | .mkdirDestination _ | .mkdirOperation _ => Made
  | .boundPassed => Bool
  | .readRole => HAStatus
  | .rolePause => RolePause
  | .attemptID | .putManifest _ _ _ => Except String String
  | .stagedFiles _ => Except String (List String)
  | .openStaging _ => Except String DirHandle
  | .hashFile _ _ => Except String (String × Int)
  | .statSize _ _ => Except String Int
  | _ => Except String Unit

structure CommandResult where
  output : String := ""
  error : Option String := none
  deriving DecidableEq

/-- The steps of starting and stopping the manager. `awaitOperations` answers
    once no operation is admitted, or with an error when the wait ran out;
    `setStopped` names the database of the stop that sets the flag. -/
inductive LifeEffect where
  | setStarting (starting : Bool)
  | listen
  | endOps
  | lockStop
  | unlockStop
  | isStopped
  | setStopped (database : String)
  | awaitOperations
  | heartbeatStop
  | serverStop (database : String)
  | recordStop
  | reachManager

abbrev LifeEffect.Ans : LifeEffect → Type
  | .isStopped | .reachManager => Bool
  | .heartbeatStop | .serverStop _ => CommandResult
  | .listen | .awaitOperations | .recordStop => Except String Unit
  | _ => Unit

/-- `store` is a whole call of the operation store; `haHosts` reads the member
    list, `listRoot` the database root, `lookStop` the stop file. -/
inductive ManagerEffect where
  | store (c : StoreCall)
  | openRoot
  | lookup (n : RootName)
  | readMarker (database : String)
  | readTxt
  | writeTmp (w : MetaWrite)
  | rename (w : MetaWrite)
  | removeMeta (f : MetaFile)
  | syncDir (d : Dir)
  | mkdirRoot
  | mkdir (database : String)
  | mkdirLob (database : String)
  | removeAll (n : RootName)
  | moveAside (database : String)
  | createdb (database hosts : String)
  | restoredb (database seedFromMaster backupDir : String)
  | listRoot
  | haHosts
  | hostname
  | engineVersion
  | observeStartable
  | admitOperation
  | admitResume
  | endOperation
  | lookStop
  | markStopping
  | isStopping
  | opsEnded
  | start (cmd : StartCommand)
  | staging (dir : String) (e : StagingEffect)
  | backup (e : BackupEffect)
  | life (e : LifeEffect)

abbrev ManagerEffect.Ans : ManagerEffect → Type
  | .store _ => StoreReply
  | .openRoot | .lookup _ | .removeMeta _ | .lookStop => Lookup
  | .readMarker _ => Except String (Option Marker)
  | .readTxt => Except String (Option Text)
  | .mkdir _ => Made
  | .listRoot => Except String (List String)
  | .haHosts | .hostname => Except String String
  | .engineVersion => String
  | .observeStartable => HeartbeatObservation
  | .markStopping | .endOperation => Unit
  | .isStopping | .opsEnded => Bool
  | .staging _ e => e.Ans
  | .backup e => e.Ans
  | .life e => e.Ans
  | _ => Except String Unit

abbrev ManagerM := Program ManagerEffect ManagerEffect.Ans

def manage (e : ManagerEffect) : ManagerM e.Ans := Program.ask e

def noSuchFile : String := "no such file or directory"

structure Config where
  target : String
  staging : String
  standaloneDB : String := ""
  backupStaging : String := ""
  objectStorage : Bool := true

def replaceFile (w : MetaWrite) : ManagerM (Except String Unit) := do
  match ← manage (.writeTmp w) with
  | .error e => pure (.error e)
  | .ok () =>
    match ← manage (.rename w) with
    | .error e => pure (.error e)
    | .ok () => manage (.syncDir w.dir)

def removeFile (f : MetaFile) : ManagerM (Except String Unit) := do
  match ← manage (.removeMeta f) with
  | .missing => pure (.ok ())
  | .failed cause => pure (.error cause)
  | .found => manage (.syncDir f.dir)

def markOwned (database : String) (id : OperationID) : ManagerM (Except String Unit) := do
  let failed := fun cause => "mark " ++ database ++ " as owned by " ++ id.text ++ ": " ++ cause
  match ← replaceFile (.marker database (.operation id)) with
  | .error cause => pure (.error (failed cause))
  | .ok () =>
    match ← manage (.syncDir .root) with
    | .error cause => pure (.error (failed cause))
    | .ok () => pure (.ok ())

def clearOwned (database : String) : ManagerM (Except String Unit) := do
  match ← manage .openRoot with
  | .missing => pure (.error noSuchFile)
  | .failed cause => pure (.error cause)
  | .found =>
    match ← removeFile (.marker database) with
    | .error cause => pure (.error ("clear the ownership marker of " ++ database ++ ": " ++ cause))
    | .ok () => pure (.ok ())

/-- Remove the database's line of databases.txt. With `removeEmpty`, a file
    that registers nothing else is removed. -/
def unregisterDatabaseLocked (database : String) (removeEmpty : Bool) :
    ManagerM (Except String Unit) := do
  let failed := fun cause => "unregister " ++ database ++ " from databases.txt: " ++ cause
  match ← manage .readTxt with
  | .error cause => pure (.error ("read databases.txt: " ++ cause))
  | .ok none => pure (.ok ())
  | .ok (some text) =>
    let kept := Text.unlines (otherLines database text)
    if removeEmpty ∧ Text.trimSpace kept = [] then
      match ← removeFile .databasesTxt with
      | .error cause => pure (.error (failed cause))
      | .ok () => pure (.ok ())
    else if !namesDatabase database text then pure (.ok ())
    else
      match ← replaceFile (.databasesTxt kept) with
      | .error cause => pure (.error (failed cause))
      | .ok () => pure (.ok ())

def registeredInDatabasesTxt (database : String) : ManagerM (Except String Bool) := do
  match ← manage .readTxt with
  | .error cause => pure (.error ("read databases.txt: " ++ cause))
  | .ok none => pure (.ok false)
  | .ok (some text) => pure (.ok (registeredIn database text))

/-- The record a marker names, or why the store does not give it; text that is
    no operation ID names none. -/
def markedOperation : Marker → ManagerM (Except StoreError Operation)
  | .other _ => pure (.error .notFound)
  | .operation id => do
    match ← manage (.store (.get id)) with
    | .answered [op] => pure (.ok op)
    | .error e => pure (.error e)
    | _ => pure (.error .notFound)

/-- What an earlier reclaim moved aside and did not finish removing goes first. -/
def removeTomb (cfg : Config) (database : String) : ManagerM (Except String Unit) := do
  let tomb := cfg.target ++ "/.reclaim-" ++ database
  match ← manage (.lookup (.tomb database)) with
  | .missing => pure (.ok ())
  | .failed cause => pure (.error ("check " ++ tomb ++ ": " ++ cause))
  | .found =>
    match ← manage (.removeAll (.tomb database)) with
    | .error cause => pure (.error ("remove " ++ tomb ++ ": " ++ cause))
    | .ok () => pure (.ok ())

def removeUnfinished (cfg : Config) (database : String) : ManagerM (Except String Unit) := do
  let place := cfg.target ++ "/" ++ database
  match ← unregisterDatabaseLocked database false with
  | .error cause => pure (.error ("unregister the unfinished " ++ place ++ ": " ++ cause))
  | .ok () =>
    match ← manage (.moveAside database) with
    | .error cause => pure (.error ("move the unfinished " ++ place ++ " aside: " ++ cause))
    | .ok () =>
      match ← manage (.syncDir .root) with
      | .error cause => pure (.error ("move the unfinished " ++ place ++ " aside: " ++ cause))
      | .ok () =>
        match ← manage (.removeAll (.tomb database)) with
        | .error cause => pure (.error ("remove the unfinished " ++ place ++ ": " ++ cause))
        | .ok () => pure (.ok ())

def reclaimIncomplete (cfg : Config) (database : String) : ManagerM (Except String Unit) := do
  let place := cfg.target ++ "/" ++ database
  if !isDatabaseName database then
    return .error ("database name " ++ quoted database ++ " is not a plain identifier")
  match ← manage .openRoot with
  | .missing => pure (.ok ())
  | .failed cause => pure (.error ("open the database root: " ++ cause))
  | .found =>
    match ← removeTomb cfg database with
    | .error e => pure (.error e)
    | .ok () =>
      match ← manage (.readMarker database) with
      | .error cause => pure (.error ("read the ownership marker of " ++ database ++ ": " ++ cause))
      | .ok none => pure (.ok ())
      | .ok (some (.other _)) =>
        pure (.error (place ++ " carries an unreadable ownership marker; refusing to touch it"))
      | .ok (some (.operation id)) =>
        match ← markedOperation (.operation id) with
        | .error e =>
          if e.isNotFound then
            pure (.error (place ++ " is marked by operation " ++ id.text ++
              ", which this manager does not know; refusing to touch it"))
          else pure (.error e.text)
        | .ok op =>
          match op.state with
          | .completed => clearOwned database
          | .failed =>
            if op.restored.isSome then
              pure (.error (place ++ " holds the data operation " ++ id.text ++
                " restored, which may have been started; refusing to remove it"))
            else removeUnfinished cfg database
          | state =>
            pure (.error (place ++ " belongs to operation " ++ id.text ++ ", which is " ++
              state.text ++
              "; refusing to touch it"))

/-- Take over the data that a failed restore of the same request left: the
    artifact is recorded before the marker moves. -/
def adoptRestored (id : OperationID) (database : String) :
    ManagerM (Except String (Option OperationArtifact)) := do
  if !isDatabaseName database then
    return .error ("database name " ++ quoted database ++ " is not a plain identifier")
  match ← manage .openRoot with
  | .missing => pure (.ok none)
  | .failed cause => pure (.error ("open the database root: " ++ cause))
  | .found =>
    match ← manage (.readMarker database) with
    | .error cause => pure (.error ("read the ownership marker of " ++ database ++ ": " ++ cause))
    | .ok none => pure (.ok none)
    | .ok (some marker) =>
      match ← markedOperation marker with
      | .error e => if e.isNotFound then pure (.ok none) else pure (.error e.text)
      | .ok previous =>
        match ← markedOperation (.operation id) with
        | .error e => pure (.error e.text)
        | .ok current =>
          match previous.restored with
          | none => pure (.ok none)
          | some restored =>
            if previous.kind ≠ .restore ∨ previous.state ≠ .failed ∨
                previous.requestHash ≠ current.requestHash then pure (.ok none)
            else
              match ← manage (.store (.update id (.setRestored restored))) with
              | .updated _ =>
                match ← markOwned database id with
                | .error e => pure (.error e)
                | .ok () => pure (.ok (some restored))
              | .error e => pure (.error e.text)
              | _ => pure (.error "the store gave no record")

end InstanceManager
