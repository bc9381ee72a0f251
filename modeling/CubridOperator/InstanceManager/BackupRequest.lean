import CubridOperator.InstanceManager.Manifest

/-!
What a backup asks for, its checks, and the reading of the process list.
-/
namespace InstanceManager
open Foundation

inductive Role where
  | master
  | slave
  | replica
  | unknown
  deriving DecidableEq

def Role.text : Role → String
  | .master => "master"
  | .slave => "slave"
  | .replica => "replica"
  | .unknown => "unknown"

structure HAStatus where
  role : Role
  reason : String := ""

structure BackupUpload where
  bucket : String
  pathPrefix : String
  clusterUID : String
  cubridVersion : String
  sourceInstance : String
  sourceRole : String := ""
  seed : Bool := false
  deriving DecidableEq

structure BackupRequest where
  database : String
  destination : String
  level : Int := 0
  upload : Option BackupUpload := none
  deriving DecidableEq

def backupAttemptIDLength : Nat := 32

def backupAttemptPath (parent : Text) (attemptID : Text) : Text :=
  Path.joined parent ("attempt-".toList ++ attemptID)

/-- A seed keeps one location: <clusterUID>/seed[-artifact]/<database>. -/
def validateSeedUpload (pathPrefix clusterUID database sourceRole : String) : Except String Unit :=
  let uid := clusterUID.toList
  let place := pathPrefix.toList
  let misplaced := .error ("seed upload needs master metadata and a clean " ++
    "<clusterUID>/seed[-artifact]/<database> suffix")
  if clusterUID = "" ∨ '/' ∈ uid ∨ '\\' ∈ uid ∨ clusterUID = "." ∨ clusterUID = ".." ∨
      !isDatabaseName database ∨ Path.isAbs place ∨ Path.clean place ≠ place ∨
      "../".toList.isPrefixOf place ∨ sourceRole ≠ Role.master.text then misplaced
  else
    match (place.splitOn '/').reverse with
    | last :: seed :: owner :: _ =>
      if owner ≠ uid ∨ last ≠ database.toList then misplaced
      else if seed ≠ "seed".toList ∧ (!"seed-".toList.isPrefixOf seed ∨ seed = "seed-".toList) then
        .error "seed upload prefix does not name an HA seed"
      else .ok ()
    | _ => misplaced

def validateUpload (database : String) (up : BackupUpload) : Except String Unit := do
  if up.bucket = "" ∨ up.pathPrefix = "" ∨ up.clusterUID = "" ∨ up.cubridVersion = "" ∨
      up.sourceInstance = "" then
    throw "upload needs bucket, prefix, clusterUID, cubridVersion and sourceInstance"
  let place := up.pathPrefix.toList
  if Path.isAbs place ∨ Path.clean place ≠ place ∨ up.pathPrefix = ".." ∨
    "../".toList.isPrefixOf place then
    throw ("upload prefix " ++ quoted up.pathPrefix ++ " must be a clean relative key prefix")
  if !isHostLabel up.sourceInstance then
    throw ("upload sourceInstance " ++ quoted up.sourceInstance ++
      " is not a host name (a DNS label)")
  if up.seed then validateSeedUpload up.pathPrefix up.clusterUID database up.sourceRole
  let parent := if up.seed then place
    else backupAttemptPath place (List.replicate backupAttemptIDLength '0')
  if (String.ofList (Path.joined parent manifestObjectName.toList)).utf8ByteSize > 1024 then
    throw "upload manifest key exceeds the S3 1024-byte limit, including the attempt suffix"
  if up.sourceRole ∉ ["", "master", "slave", "replica", "unknown"] then
    throw ("upload sourceRole " ++ quoted up.sourceRole ++
      " is not master, slave, replica or unknown")

def validateBackupRequest (req : BackupRequest) : Except String Unit :=
  if req.database = "" ∨ req.destination = "" then .error "database and destination are required"
  else if !isDatabaseName req.database then
    .error ("database name " ++ quoted req.database ++ " is not a plain identifier")
  else if req.level ≠ 0 then
    .error ("backup level " ++ toString req.level ++
      " is not supported: only a full backup (level 0) is")
  else match req.upload with
    | none => .ok ()
    | some up => validateUpload req.database up

/-- The name of the destination, one plain directory directly below the root. -/
def confineBackupDestination (destination root : String) : Except String String :=
  if !isCleanAbsolute root.toList then
    .error ("backup staging root " ++ quoted root ++ " is not configured as a clean absolute path")
  else if destination = "" then .error "destination is required"
  else
    let cleaned := Path.clean destination.toList
    let name := Path.base cleaned
    if Path.dir cleaned ≠ root.toList ∨ !isStagingName name then
      .error ("destination " ++ quoted destination ++ " must be one directory directly below " ++
        quoted root)
    else .ok (String.ofList name)

/-- The version a manifest records: the one the member runs, if it is of the
    series that the request declares. -/
def backupEngineVersion (engine : String) (req : BackupRequest) : Except String String :=
  let declared := (req.upload.map (·.cubridVersion)).getD ""
  if engine = "" then .error "the engine version of this member could not be read from cubrid_rel"
  else if engineSeries engine = "" then
    .error ("the engine version " ++ quoted engine ++ " that cubrid_rel gives has no series")
  else if engineSeries engine ≠ engineSeries declared then
    .error ("this member runs engine " ++ engine ++ ", which is not of the declared version " ++
      quoted declared)
  else .ok engine

def requestedRole (req : BackupRequest) : String := (req.upload.map (·.sourceRole)).getD ""

section Accepted

variable {α : Type}

theorem guard_ok_iff {p : Prop} [Decidable p] {e : String} {rest : Except String α} {value : α} :
    (if p then .error e else rest) = .ok value ↔ ¬ p ∧ rest = .ok value := by
  split <;> simp_all

structure UploadValid (database : String) (up : BackupUpload) : Prop where
  named : ¬ (up.bucket = "" ∨ up.pathPrefix = "" ∨ up.clusterUID = "" ∨ up.cubridVersion = "" ∨
    up.sourceInstance = "")
  place : ¬ (Path.isAbs up.pathPrefix.toList ∨
    Path.clean up.pathPrefix.toList ≠ up.pathPrefix.toList ∨
    up.pathPrefix = ".." ∨ "../".toList.isPrefixOf up.pathPrefix.toList)
  host : isHostLabel up.sourceInstance = true
  seeded : up.seed = true → validateSeedUpload up.pathPrefix up.clusterUID database
    up.sourceRole = .ok ()
  short : (String.ofList (Path.joined (if up.seed then up.pathPrefix.toList
    else backupAttemptPath up.pathPrefix.toList (List.replicate backupAttemptIDLength '0'))
    manifestObjectName.toList)).utf8ByteSize ≤ 1024
  role : up.sourceRole ∈ ["", "master", "slave", "replica", "unknown"]

theorem validateUpload_ok {database : String} {up : BackupUpload} :
    validateUpload database up = .ok () ↔ UploadValid database up := by
  simp only [validateUpload, bind, Except.bind, pure, Except.pure, throw, throwThe,
    MonadExceptOf.throw, guard_ok_iff]
  constructor
  · rintro ⟨named, place, host, rest⟩
    cases seed : up.seed with
    | false =>
      simp only [seed, Bool.false_eq_true, if_false, guard_ok_iff] at rest
      exact ⟨named,
        place, by simpa using host, by simp [seed], by
          simpa [seed] using rest.1, not_not.mp rest.2.1⟩
    | true =>
      rw [if_pos seed] at rest
      split at rest
      · cases rest
      · rename_i valid
        rw [guard_ok_iff, guard_ok_iff] at rest
        exact ⟨named,
          place, by simpa using host, fun _ => valid, Nat.not_lt.mp rest.1, not_not.mp rest.2.1⟩
  · intro valid
    refine ⟨valid.named, valid.place, by simp [valid.host], ?_⟩
    have short := Nat.not_lt.mpr valid.short
    split
    · rename_i seed
      rw [if_pos seed] at short
      rw [valid.seeded seed]
      exact guard_ok_iff.mpr ⟨short, guard_ok_iff.mpr ⟨not_not.mpr valid.role, rfl⟩⟩
    · rename_i plain
      rw [if_neg plain] at short
      exact guard_ok_iff.mpr ⟨short, guard_ok_iff.mpr ⟨not_not.mpr valid.role, rfl⟩⟩

end Accepted

inductive UnreadFiles where
  | gone
  | failed (cause : String)
  deriving DecidableEq

structure ProcessView where
  pid : Nat
  comm : String
  files : Except UnreadFiles (List String)

def isCubrid (comm : String) : Bool := "cub".toList.isPrefixOf comm.toList

def isAtOrBelow (dir target : String) : Bool :=
  target = dir ∨ (dir ++ "/").toList.isPrefixOf target.toList

def ProcessView.holder (dir : String) (p : ProcessView) : Option String :=
  match p.files with
  | .error _ => none
  | .ok targets =>
    (targets.find? (isAtOrBelow dir)).map fun target =>
      toString p.pid ++ " " ++ p.comm ++ " " ++ target

/-- A CUBRID process whose open files could not be read is an error; another
    one is skipped. -/
def ProcessView.unreadable (p : ProcessView) : Option String :=
  match p.files with
  | .error (.failed cause) =>
    if isCubrid p.comm then
      some ("read the open files of " ++ toString p.pid ++ " " ++ p.comm ++ ": " ++ cause)
    else none
  | _ => none

def stagingHolders (procs : List ProcessView) (dir : String) : List String × List String :=
  (procs.filterMap (·.holder dir), procs.filterMap (·.unreadable))

def describeHolders (held errors : List String) : String :=
  let what := ", ".intercalate held
  if errors = [] then what
  else if held = [] then "\n".intercalate errors
  else what ++ "; " ++ "\n".intercalate errors

end InstanceManager
