import CubridOperator.InstanceManager.BackupRequest

/-!
Where the paths of requests and manifests can lead.
-/
namespace InstanceManager
open Foundation List String

/-- The directory below the databases directory where a member keeps the log
    that it copies from another one. -/
def confineCopiedLogPath (database copiedLogPath databasesDir : String) : Except String String :=
  if !Path.isAbs databasesDir.toList ∨ Path.clean databasesDir.toList ≠ databasesDir.toList then
    .error ("the databases directory " ++ quoted databasesDir ++
      " is not configured as a clean absolute path")
  else if !isDatabaseName database then
    .error ("database name " ++ quoted database ++ " is not a plain identifier")
  else
    let front := database.toList ++ ['_']
    let base := Path.base copiedLogPath.toList
    let host := base.drop front.length
    if Path.clean copiedLogPath.toList ≠ copiedLogPath.toList ∨
        Path.dir copiedLogPath.toList ≠ databasesDir.toList ∨ !front.isPrefixOf base ∨
        !isHostLabel (ofList host) then
      .error ("copiedLogPath " ++ quoted copiedLogPath ++ " is not a copied log of " ++ database ++
        " directly below " ++
        quoted databasesDir)
    else .ok (ofList (Path.joined databasesDir.toList (front ++ host)))

def OneBelow (root path : String) : Prop :=
  ∃ name, Path.Plain name ∧ path.toList = Path.joined root.toList name ∧
    path.toList = (if root.toList = ['/'] then root.toList else root.toList ++ ['/']) ++ name

theorem oneBelow_joined {root : String} {name : Text} (absolute : Path.isAbs root.toList = true)
    (cleaned : Path.clean root.toList = root.toList) (plain : Path.Plain name) :
    OneBelow root (ofList (Path.joined root.toList name)) := by
  refine ⟨name, plain, by simp, ?_⟩
  rw [toList_ofList, Path.joined_child absolute cleaned plain]

theorem isCleanAbsolute_iff {dir : Text} :
    isCleanAbsolute dir = true ↔ Path.isAbs dir = true ∧ Path.clean dir = dir ∧ dir ≠ ['/'] := by
  simp [isCleanAbsolute]

theorem plain_of_head {c : Char} {rest : Text} (first : c ≠ '.') (single : '/' ∉ c :: rest) :
    Path.Plain (c :: rest) := by
  refine ⟨by simp, single, ?_, ?_⟩
  · intro dot
    exact first (cons.inj dot).1
  · intro dots
    exact first (cons.inj dots).1

theorem isStagingName_plain {name : Text} (named : isStagingName name = true) :
    Path.Plain name := by
  cases name with
  | nil => cases named
  | cons c rest =>
    simp only [isStagingName, decide_eq_true_eq, all_eq_true] at named
    have single : '/' ∉ c :: rest := by
      intro member
      rcases mem_cons.mp member with rfl | among
      · exact absurd named.1 (by decide)
      · exact absurd (named.2 '/' among) (by decide)
    refine plain_of_head ?_ single
    rintro rfl
    exact absurd named.1 (by decide)

theorem copiedLog_plain {database : String} {host : Text} (named : isDatabaseName database = true)
    (labelled : isHostLabel (ofList host) = true) :
    Path.Plain (database.toList ++ ['_'] ++ host) := by
  unfold isDatabaseName at named
  split at named
  · cases named
  · rename_i c rest text
    simp only [decide_eq_true_eq, all_eq_true] at named
    simp only [isHostLabel, toList_ofList, decide_eq_true_eq, all_eq_true] at labelled
    rw [text]
    have single : '/' ∉ c :: (rest ++ ['_'] ++ host) := by
      intro member
      rcases mem_cons.mp member with rfl | member
      · exact absurd named.1 (by decide)
      · rcases mem_append.mp member with front | among
        · rcases mem_append.mp front with among | bad
          · exact absurd (named.2.2 '/' among) (by decide)
          · exact absurd (mem_singleton.mp bad) (by decide)
        · exact absurd (labelled.2.2.1 '/' among) (by decide)
    refine plain_of_head ?_ single
    rintro rfl
    exact absurd named.1 (by decide)

theorem confine_inside {req : RestoreRequest} {roots : RestoreRoots} {target staging : String}
    (confined : confine req roots = .ok (target, staging)) :
    target = roots.target ∧ OneBelow roots.staging staging := by
  unfold confine at confined
  split at confined
  · cases confined
  split at confined
  · cases confined
  rename_i _ root
  split at confined
  · cases confined
  dsimp only at confined
  split at confined
  · cases confined
  rename_i named
  obtain ⟨rfl, rfl⟩ := Prod.mk.inj (Except.ok.inj confined)
  obtain ⟨absolute, cleaned, below⟩ := isCleanAbsolute_iff.mp (by simpa using root)
  simp only [not_or, not_not, Bool.not_eq_true, Bool.not_eq_false'] at named
  have plain := isStagingName_plain (by simpa using named.2)
  have text : (roots.staging ++ "/" ++ ofList
      (Path.base (Path.clean req.stagingDir.toList))).toList =
      (if roots.staging.toList = ['/'] then roots.staging.toList
        else roots.staging.toList ++ ['/']) ++ Path.base (Path.clean req.stagingDir.toList) := by
    rw [if_neg below]
    simp
  exact ⟨rfl, _, plain, by rw [text, Path.joined_child absolute cleaned plain], text⟩

/-- The path that a backup is written to, from the name that its destination
    was confined to. -/
def backupDestination (destination root : String) : Except String String := do
  let name ← confineBackupDestination destination root
  pure (ofList (Path.joined root.toList name.toList))

theorem backupDestination_inside {destination root path : String}
    (confined : backupDestination destination root = .ok path) : OneBelow root path := by
  unfold backupDestination confineBackupDestination at confined
  split at confined
  · cases confined
  rename_i configured
  split at confined
  · cases confined
  dsimp only at confined
  split at confined
  · cases confined
  rename_i named
  obtain ⟨absolute, cleaned, -⟩ := isCleanAbsolute_iff.mp (by simpa using configured)
  simp only [not_or, not_not, Bool.not_eq_true, Bool.not_eq_false'] at named
  have plain := isStagingName_plain (by simpa using named.2)
  obtain rfl := Except.ok.inj confined
  rw [toList_ofList]
  exact oneBelow_joined absolute cleaned plain

theorem confineCopiedLogPath_inside {database copied dir path : String}
    (confined : confineCopiedLogPath database copied dir = .ok path) : OneBelow dir path := by
  unfold confineCopiedLogPath at confined
  split at confined
  · cases confined
  rename_i configured
  split at confined
  · cases confined
  rename_i named
  dsimp only at confined
  split at confined
  · cases confined
  rename_i logged
  simp only [not_or, not_not, Bool.not_eq_true, Bool.not_eq_false'] at configured logged
  obtain rfl := Except.ok.inj confined
  refine oneBelow_joined (by simpa using configured.1) configured.2
    (copiedLog_plain (by simpa using named) ?_)
  simpa using logged.2.2.2

def StrictlyBelow (dir path : Text) : Prop :=
  ∃ names, names ≠ [] ∧ (∀ e ∈ names, Path.Plain e) ∧ path = dir ++ '/' :: Path.join names

theorem objectKeyRoot_plain : Path.Plain objectKeyRoot := by decide

theorem validateObjectKey_below {key : Text} (valid : validateObjectKey key = .ok ())
    (above : Text) : StrictlyBelow (Path.joined above objectKeyRoot) (Path.joined above key) := by
  obtain ⟨rest, rfl, some_, plain⟩ := validateObjectKey_plain valid
  exact ⟨rest, some_, plain, Path.joined_below objectKeyRoot_plain plain some_⟩

theorem joined_key_injective {first second above : Text} (valid : validateObjectKey first = .ok ())
    (valid' : validateObjectKey second = .ok ())
    (same : Path.joined above first = Path.joined above second) : first = second := by
  obtain ⟨rest, rfl, -, plain⟩ := validateObjectKey_plain valid
  obtain ⟨rest', rfl, -, plain'⟩ := validateObjectKey_plain valid'
  have names := Path.joined_injective (forall_mem_cons.mpr ⟨objectKeyRoot_plain, plain⟩)
    (cons_ne_nil _ _) (forall_mem_cons.mpr ⟨objectKeyRoot_plain, plain'⟩) (cons_ne_nil _ _) same
  rw [names]

/-- What passes the checks stays inside: the configured target, one name below a
    configured root, or a file of its own below the backup directory of the
    artifact. -/
theorem request_paths_stay_inside :
    (∀ req roots target staging, confine req roots = .ok (target, staging) →
      target = roots.target ∧ OneBelow roots.staging staging) ∧
    (∀ destination root path, backupDestination destination root = .ok path → OneBelow root path) ∧
    (∀ database copied dir path, confineCopiedLogPath database copied dir = .ok path →
      OneBelow dir path) ∧
    ∀ m : BackupManifest, m.validateObjectKeys = .ok () → ∀ above : Text,
      (∀ obj ∈ m.objects, StrictlyBelow (Path.joined above objectKeyRoot)
        (Path.joined above obj.key.toList)) ∧
      (m.objects.map fun obj => Path.joined above obj.key.toList).Nodup := by
  refine ⟨fun _ _ _ _ => confine_inside, fun _ _ _ => backupDestination_inside,
    fun _ _ _ _ => confineCopiedLogPath_inside, fun m valid above => ?_⟩
  obtain ⟨keys, distinct, -⟩ := validateObjectKeysFrom_ok valid
  refine ⟨fun obj member => validateObjectKey_below (keys obj member) above, ?_⟩
  rw [nodup_map_iff_inj_on (Nodup.of_map _ distinct)]
  intro first member second also same
  have key := joined_key_injective (keys first member) (keys second also) same
  exact inj_on_of_nodup_map distinct member also (toList_inj.mp key)

def twoVolumes : BackupManifest :=
  { manifestVersion := 1, database := "appdb", cubridVersion := "11.4.6",
    objects := [{ key := "backup/appdb_bk0v000", sizeBytes := 1, sha256 := "" },
      { key := "backup/lob/1", sizeBytes := 1, sha256 := "" }] }

theorem sample_paths_stay_inside :
    OneBelow "/var/lib/cubrid/backup-staging" "/var/lib/cubrid/backup-staging/b1" ∧
    OneBelow "/var/lib/cubrid/databases" "/var/lib/cubrid/databases/appdb_c-1" ∧
    (twoVolumes.objects.map fun obj => Path.joined "a/../b".toList obj.key.toList).Nodup := by
  obtain ⟨-, backup, copied, objects⟩ := request_paths_stay_inside
  exact ⟨backup "/var/lib/cubrid/backup-staging//b1/" _ _ (by decide +kernel),
    copied "appdb" "/var/lib/cubrid/databases/appdb_c-1" _ _ (by decide +kernel),
    (objects twoVolumes (by decide +kernel) _).2⟩

end InstanceManager
