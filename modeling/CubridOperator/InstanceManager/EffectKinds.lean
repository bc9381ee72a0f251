import CubridOperator.Foundation.Threads
import CubridOperator.InstanceManager.Backups

/-!
Which kinds of effects the programs of the manager ask for.
-/
namespace InstanceManager
open Foundation Program List

inductive EffectKind where
  | store
  | volume
  | learn
  | admission
  | stop
  | start
  | staging
  | restoredb
  | backup
  | life
  deriving DecidableEq

def ManagerEffect.kind : ManagerEffect → EffectKind
  | .store _ => .store
  | .openRoot | .lookup _ | .readMarker _ | .readTxt | .writeTmp _ | .rename _ | .removeMeta
      _ | .syncDir _
  | .mkdirRoot | .mkdir _ | .mkdirLob _ | .removeAll _ | .moveAside _ | .createdb _ _ => .volume
  | .listRoot | .haHosts | .hostname | .engineVersion | .observeStartable | .opsEnded => .learn
  | .admitOperation | .admitResume | .endOperation => .admission
  | .lookStop | .markStopping | .isStopping | .life .endOps => .stop
  | .start _ => .start
  | .staging _ _ => .staging
  | .restoredb _ _ _ => .restoredb
  | .backup _ => .backup
  | .life _ => .life

abbrev Uses {α : Type} (kinds : List EffectKind) (p : ManagerM α) : Prop :=
  p.Only fun e => e.kind ∈ kinds

theorem Uses.mono {α : Type} {kinds wider : List EffectKind} {p : ManagerM α} (uses : Uses kinds p)
    (among : kinds ⊆ wider) : Uses wider p := Only.mono uses fun _ member => among member

theorem manage_uses {kinds : List EffectKind} {e : ManagerEffect}
    (member : kinds.contains e.kind = true) : Uses kinds (manage e) :=
  only_ask (contains_iff_mem.mp member)

section Checks

/-- How far a thread is on the way to a start command: it looked for a recorded
    stop and found none, and then found the member not stopping. -/
inductive Check where
  | idle
  | looked
  | cleared

def Check.may (kinds : List EffectKind) : Check → ManagerEffect → Prop
  | .idle, e =>
    e.kind ∈ kinds ∧ e.kind ≠ .stop ∨ e = .lookStop ∨ e = .markStopping ∨ e = .life .endOps
  | .looked, e => e = .isStopping
  | .cleared, e => ∃ cmd, e = .start cmd

def Check.next : Check → (e : ManagerEffect) → e.Ans → Check
  | .idle, .lookStop, .missing => .looked
  | .looked, .isStopping, false => .cleared
  | _, _, _ => .idle

def checks (kinds : List EffectKind) : Protocol ManagerEffect ManagerEffect.Ans Check :=
  ⟨Check.may kinds, Check.next⟩

/-- Besides effects of these kinds the program only starts CUBRID, each time
    after its two checks. -/
abbrev Operates {α : Type} (kinds : List EffectKind) (p : ManagerM α) : Prop :=
  p.Follows (checks kinds) (fun last _ => last = .idle) .idle

variable {α β : Type} {kinds wider : List EffectKind} {p : ManagerM β}

theorem operates_pure (value : α) : Operates kinds (pure value : ManagerM α) := rfl

theorem Operates.bind {next : β → ManagerM α} (first : Operates kinds p)
    (rest : ∀ value, Operates kinds (next value)) : Operates kinds (p >>= next) := by
  refine Follows.bind first fun part value same => ?_
  subst same
  exact rest value

theorem Uses.operates (uses : Uses kinds p) (among : kinds ⊆ wider) (quiet : .stop ∉ kinds) :
    Operates wider p := by
  refine Only.follows uses fun e member => ?_
  have other : e.kind ≠ .stop := fun same => quiet (same ▸ member)
  refine ⟨.inl ⟨among member, other⟩, fun a => ?_⟩
  cases e <;> first | rfl | exact absurd rfl other

theorem manage_operates {e : ManagerEffect}
    (member : (kinds.contains e.kind && e.kind != .stop) = true) : Operates kinds (manage e) := by
  rw [Bool.and_eq_true, bne_iff_ne] at member
  have uses : Uses [e.kind] (manage e) := only_ask (mem_singleton_self _)
  refine uses.operates ?_ fun same => member.2 (mem_singleton.mp same).symm
  rintro _ (_ | ⟨_, ⟨⟩⟩)
  exact contains_iff_mem.mp member.1

theorem activate_operates (cmd : StartCommand) : Operates kinds (activate cmd) := by
  unfold activate honorRecordedStop
  refine follows_step (.inr (.inl rfl)) fun look => ?_
  cases look with
  | missing =>
    refine follows_step rfl fun stopping => ?_
    cases stopping with
    | true => exact operates_pure _
    | false => exact ⟨⟨cmd, rfl⟩, fun _ => rfl⟩
  | _ =>
    exact follows_step (.inr (.inr (.inl rfl))) fun _ => follows_step (.inr (.inr (.inr rfl)))
      fun _ => rfl

theorem Operates.mono (operates : Operates kinds p) (among : kinds ⊆ wider) : Operates wider p := by
  refine Follows.lift (P := checks kinds) (R := checks wider) id (fun part e allowed => ?_)
    (fun _ _ _ _ => rfl) (fun _ _ => id) operates
  cases part with
  | idle => exact allowed.imp_left fun ⟨member, other⟩ => ⟨among member, other⟩
  | _ => exact allowed

theorem Operates.uses (operates : Operates kinds p) : Uses (kinds ++ [.stop, .start]) p := by
  refine Follows.only operates fun part e allowed => ?_
  cases part with
  | idle =>
    rcases allowed with ⟨member, -⟩ | rfl | rfl | rfl
    · exact mem_append_left _ member
    all_goals exact mem_append_right _ (by simp [ManagerEffect.kind])
  | looked => exact allowed ▸ mem_append_right _ (by simp [ManagerEffect.kind])
  | cleared =>
    obtain ⟨cmd, rfl⟩ := allowed
    exact mem_append_right _ (by simp [ManagerEffect.kind])

end Checks

section Programs

variable {cfg : Config} {database : String} {id : OperationID}

theorem unregisterDatabaseLocked_uses (removeEmpty : Bool) :
    Uses [.volume] (unregisterDatabaseLocked database removeEmpty) := by
  unfold unregisterDatabaseLocked replaceFile removeFile
  with_reducible repeat' first
    | exact only_pure _
    | refine Only.bind ?_ fun _ => ?_ | exact manage_uses (by with_unfolding_all rfl) | split
    | dsimp only

theorem markOwned_uses : Uses [.volume] (markOwned database id) := by
  unfold markOwned replaceFile
  with_reducible repeat' first
    | exact only_pure _
    | refine Only.bind ?_ fun _ => ?_ | exact manage_uses (by with_unfolding_all rfl) | split

theorem clearOwned_uses : Uses [.volume] (clearOwned database) := by
  unfold clearOwned removeFile
  with_reducible repeat' first
    | exact only_pure _
    | refine Only.bind ?_ fun _ => ?_ | exact manage_uses (by with_unfolding_all rfl) | split

theorem registeredInDatabasesTxt_uses : Uses [.volume] (registeredInDatabasesTxt database) := by
  unfold registeredInDatabasesTxt
  with_reducible repeat' first
    | exact only_pure _
    | refine Only.bind ?_ fun _ => ?_ | exact manage_uses (by with_unfolding_all rfl) | split

theorem reclaimIncomplete_uses : Uses [.store, .volume] (reclaimIncomplete cfg database) := by
  unfold reclaimIncomplete removeTomb removeUnfinished markedOperation
  with_reducible repeat' first
    | exact only_pure _
    | exact (unregisterDatabaseLocked_uses _).mono (by simp)
    | exact clearOwned_uses.mono (by simp)
    | refine Only.bind ?_ fun _ => ?_ | exact manage_uses (by with_unfolding_all rfl) | split

theorem adoptRestored_uses : Uses [.store, .volume] (adoptRestored id database) := by
  unfold adoptRestored markedOperation
  with_reducible repeat' first
    | exact only_pure _
    | exact markOwned_uses.mono (by simp)
    | refine Only.bind ?_ fun _ => ?_ | exact manage_uses (by with_unfolding_all rfl) | split

theorem enter_uses (state : RunningState) : Uses [.store] (enter id state) := by
  unfold enter
  with_reducible repeat' first
    | exact only_pure _
    | refine Only.bind ?_ fun _ => ?_ | exact manage_uses (by with_unfolding_all rfl) | split

theorem fail_uses (reason : String) : Uses [.store, .learn] (fail id reason) := by
  unfold fail stoppingReason
  with_reducible repeat' first
    | exact only_pure _
    | refine Only.bind ?_ fun _ => ?_ | exact manage_uses (by with_unfolding_all rfl) | split

theorem joinHeartbeat_operates {before : ManagerM (Except String Unit)}
    (first : Uses [.store] before) : Operates [.store, .learn] (joinHeartbeat database before) := by
  unfold joinHeartbeat
  with_reducible repeat' first
    | exact operates_pure _
    | exact first.operates (by simp) (by simp)
    | exact activate_operates _
    | refine Operates.bind ?_ fun _ =>
      ?_ | exact manage_operates (by with_unfolding_all rfl) | split

theorem startRestoredDatabase_operates {before : ManagerM (Except String Unit)}
    (first : Uses [.store] before) :
    Operates [.store, .learn] (startRestoredDatabase cfg database before) := by
  unfold startRestoredDatabase
  with_reducible repeat' first
    | exact operates_pure _
    | exact first.operates (by simp) (by simp)
    | exact joinHeartbeat_operates first
    | exact activate_operates _
    | refine Operates.bind ?_ fun _ =>
      ?_ | exact manage_operates (by with_unfolding_all rfl) | split

theorem completeRestore_operates (artifact : OperationArtifact) :
    Operates [.store, .volume, .learn] (completeRestore cfg id database artifact) := by
  unfold completeRestore
  with_reducible repeat' first
    | exact operates_pure _
    | exact (startRestoredDatabase_operates (enter_uses _)).mono (by simp)
    | exact (fail_uses _).operates (by simp) (by simp)
    | exact clearOwned_uses.operates (by simp) (by simp)
    | refine Operates.bind ?_ fun _ =>
      ?_ | exact manage_operates (by with_unfolding_all rfl) | split

theorem undo_uses (existed : Bool) : Uses [.volume] (undo database existed) := by
  unfold undo undoLocked
  with_reducible repeat' first
    | exact only_pure _
    | exact unregisterDatabaseLocked_uses _
    | refine Only.bind ?_ fun _ => ?_ | exact manage_uses (by with_unfolding_all rfl) | split

theorem registerRestoreHost_uses (host : String) :
    Uses [.volume, .learn] (registerRestoreHost cfg host database id) := by
  unfold registerRestoreHost registerRestoreTarget replaceFile undoLocked
  with_reducible repeat' first
    | exact only_pure _
    | exact markOwned_uses.mono (by simp)
    | exact (unregisterDatabaseLocked_uses _).mono (by simp)
    | refine Only.bind ?_ fun _ => ?_ | exact manage_uses (by with_unfolding_all rfl) | split

end Programs

section Operations

variable {cfg : Config} {database : String} {id : OperationID}

def operationKinds : List EffectKind := [.store, .volume, .learn, .staging, .restoredb, .backup]

theorem Uses.operating {α : Type} {kinds : List EffectKind} {p : ManagerM α} (uses : Uses kinds p)
    (among : kinds ⊆ operationKinds) : Operates operationKinds p :=
  uses.operates among fun stop => absurd (among stop) (by simp [operationKinds])

theorem stageEach_uses (place : String) (objects : List ManifestObject) :
    Uses [.staging] (stageEach place objects) := by
  induction objects with
  | nil => exact trivial
  | cons object rest ih =>
    refine Only.bind ?_ fun staged => ?_
    · unfold stageObject stage
      with_reducible repeat' first
        | exact only_pure _
        | refine Only.bind ?_ fun _ => ?_ | exact manage_uses (by with_unfolding_all rfl) | split
    · split
      · exact trivial
      · exact ih

theorem stageArtifact_uses (place : String) (exp : ManifestExpectation) :
    Uses [.staging] (stageArtifact place exp) := by
  unfold stageArtifact stage
  with_reducible repeat' first
    | exact only_pure _
    | exact stageEach_uses _ _
    | refine Only.bind ?_ fun _ => ?_ | exact manage_uses (by with_unfolding_all rfl) | split

theorem restoreAnew_operates {roots : RestoreRoots} {req : RestoreRequest} :
    Operates operationKinds (restoreAnew cfg roots id req) := by
  unfold restoreAnew restore restoreStaged stage
  with_reducible repeat' first
    | exact operates_pure _
    | exact (stageArtifact_uses _ _).operating (by decide)
    | exact (registerRestoreHost_uses _).operating (by decide)
    | exact (undo_uses _).operating (by decide)
    | exact (enter_uses _).operating (by decide)
    | exact registeredInDatabasesTxt_uses.operating (by decide)
    | exact reclaimIncomplete_uses.operating (by decide)
    | exact (fail_uses _).operating (by decide)
    | exact (completeRestore_operates _).mono (by decide)
    | refine Operates.bind ?_ fun _ =>
      ?_ | exact manage_operates (by with_unfolding_all rfl) | split

theorem runRestore_operates {req : RestoreRequest} :
    Operates operationKinds (runRestore cfg id req) := by
  unfold runRestore runRestoreOn
  with_reducible repeat' first
    | exact operates_pure _
    | exact restoreAnew_operates
    | exact adoptRestored_uses.operating (by decide)
    | exact (enter_uses _).operating (by decide)
    | exact (fail_uses _).operating (by decide)
    | exact (completeRestore_operates _).mono (by decide)
    | refine Operates.bind ?_ fun _ =>
      ?_ | exact manage_operates (by with_unfolding_all rfl) | split

theorem runHABootstrap_operates : Operates operationKinds (runHABootstrap cfg id database) := by
  unfold runHABootstrap createHADatabase completeBootstrap
  with_reducible repeat' first
    | exact operates_pure _
    | exact (joinHeartbeat_operates (enter_uses _)).mono (by decide)
    | exact markOwned_uses.operating (by decide)
    | exact clearOwned_uses.operating (by decide)
    | exact registeredInDatabasesTxt_uses.operating (by decide)
    | exact reclaimIncomplete_uses.operating (by decide)
    | exact (enter_uses _).operating (by decide)
    | exact (fail_uses _).operating (by decide)
    | refine Operates.bind ?_ fun _ =>
      ?_ | exact manage_operates (by with_unfolding_all rfl) | split

theorem resumeEach_operates (haErr : Option String) (databases : List String) :
    Operates operationKinds (resumeEach cfg haErr databases) := by
  induction databases with
  | nil => exact operates_pure _
  | cons database rest ih =>
    unfold resumeEach resumeDatabase markedOperation
    with_reducible repeat' first
      | exact operates_pure _
      | exact ih
      | exact (startRestoredDatabase_operates (only_pure _)).mono (by decide)
      | exact clearOwned_uses.operating (by decide)
      | refine Operates.bind ?_ fun _ =>
        ?_ | exact manage_operates (by with_unfolding_all rfl) | split

end Operations

section Backups

variable {cfg : Config} {name : String} {dir : BackupDir}

theorem stagingHeld_uses (entry : EntryName) : Uses [.backup] (stagingHeld cfg name entry) := by
  unfold stagingHeld stagingLink backupStep
  with_reducible repeat' first
    | exact only_pure _
    | refine Only.bind ?_ fun _ => ?_ | exact manage_uses (by with_unfolding_all rfl) | split

theorem ownersAmong_uses (entries : List EntryName) :
    Uses [.store, .backup] (ownersAmong cfg name entries) := by
  induction entries with
  | nil => exact only_pure _
  | cons entry rest ih =>
    unfold ownersAmong stagingOwnerLive
    refine Only.bind (Only.bind ?_ fun _ => ?_) fun _ => Only.bind ih fun _ => only_pure _
    · unfold stagingRecordLive
      with_reducible repeat' first
        | exact only_pure _
        | refine Only.bind ?_ fun _ => ?_ | exact manage_uses (by with_unfolding_all rfl) | split
    · split
      · exact only_pure _
      · refine Only.bind ((stagingHeld_uses entry).mono (by simp)) fun _ => ?_
        with_reducible repeat' first
          | exact only_pure _
          | split

theorem liveStagingOwners_uses : Uses [.store, .backup] (liveStagingOwners cfg name) := by
  unfold liveStagingOwners backupStep
  with_reducible repeat' first
    | exact only_pure _
    | exact ownersAmong_uses _
    | refine Only.bind ?_ fun _ => ?_ | exact manage_uses (by with_unfolding_all rfl) | split

theorem removeEach_uses (entries : List EntryName) : Uses [.backup] (removeEach name entries) := by
  induction entries with
  | nil => exact only_pure _
  | cons entry rest ih => exact Only.bind (manage_uses rfl) fun _ => ih

theorem reclaimDestination_uses : Uses [.store, .backup] (reclaimDestination cfg name) := by
  unfold reclaimDestination
  with_reducible repeat' first
    | exact only_pure _
    | exact liveStagingOwners_uses
    | exact (removeEach_uses _).mono (by simp)
    | refine Only.bind ?_ fun _ => ?_ | exact manage_uses (by with_unfolding_all rfl) | split

theorem refuseOwners_uses (key : String) (owners : List StagingOwner) :
    Uses [.store, .backup] (refuseOwners key name owners) := by
  induction owners with
  | nil => exact only_pure _
  | cons owner rest ih =>
    unfold refuseOwners
    with_reducible repeat' first
      | exact only_pure _
      | exact ih
      | refine Only.bind ?_ fun _ => ?_ | exact manage_uses (by with_unfolding_all rfl) | split

theorem recordBackup_uses (key hash : String) (req : BackupRequest) :
    Uses [.store, .backup] (recordBackup cfg key hash req name) := by
  unfold recordBackup recordBackupLocked openStagingRoot claimRecorded claimBackupStaging
    failClaim backupStep
  with_reducible repeat' first
    | exact only_pure _
    | exact liveStagingOwners_uses
    | exact refuseOwners_uses _ _
    | exact reclaimDestination_uses
    | refine Only.bind ?_ fun _ => ?_ | exact manage_uses (by with_unfolding_all rfl) | split

theorem reclaimEach_uses (entries : List (String × Bool)) :
    Uses [.store, .backup] (reclaimEach cfg entries) := by
  induction entries with
  | nil => exact only_pure _
  | cons entry rest ih =>
    unfold reclaimEach backupStep
    with_reducible repeat' first
      | exact only_pure _
      | exact ih
      | exact reclaimDestination_uses
      | refine Only.bind ?_ fun _ => ?_ | exact manage_uses (by with_unfolding_all rfl) | split

theorem reclaimBackupStaging_uses : Uses [.store, .backup] (reclaimBackupStaging cfg) := by
  unfold reclaimBackupStaging backupStep
  with_reducible repeat' first
    | exact only_pure _
    | exact reclaimEach_uses _
    | refine Only.bind ?_ fun _ => ?_ | exact manage_uses (by with_unfolding_all rfl) | split

theorem awaitStagingWriters_uses (polls : Nat) :
    Uses [.backup] (awaitStagingWriters cfg dir polls) := by
  have kept : Uses [.backup] (stagingKept cfg dir) := by
    unfold stagingKept
    with_reducible repeat' first
      | exact only_pure _
      | exact stagingHeld_uses _
      | refine Only.bind ?_ fun _ => ?_ | exact manage_uses (by with_unfolding_all rfl) | split
  induction polls with
  | zero => exact kept
  | succ polls ih =>
    unfold awaitStagingWriters backupStep
    with_reducible repeat' first
      | exact only_pure _
      | exact ih
      | exact kept
      | refine Only.bind ?_ fun _ => ?_ | exact manage_uses (by with_unfolding_all rfl) | split

theorem failBackup_uses (reason : String) :
    Uses [.store, .learn, .backup] (failBackup cfg dir reason) := by
  unfold failBackup stoppingReason removeBackupStaging backupStep
  with_reducible repeat' first
    | exact only_pure _
    | exact (awaitStagingWriters_uses _).mono (by simp)
    | refine Only.bind ?_ fun _ => ?_ | exact manage_uses (by with_unfolding_all rfl) | split

theorem backupSourceRole_uses (want : String) (polls : Nat) :
    Uses [.backup] (backupSourceRole want polls) := by
  induction polls with
  | zero =>
    unfold backupSourceRole backupStep
    with_reducible repeat' first
      | exact only_pure _
      | refine Only.bind ?_ fun _ => ?_ | exact manage_uses (by with_unfolding_all rfl) | split
  | succ polls ih =>
    unfold backupSourceRole backupStep
    with_reducible repeat' first
      | exact only_pure _
      | exact ih
      | refine Only.bind ?_ fun _ => ?_ | exact manage_uses (by with_unfolding_all rfl) | split

theorem uploadEach_uses (handle : DirHandle) (bucket : String) (place : Text)
    (files : List String) : Uses [.backup] (uploadEach dir handle bucket place files) := by
  induction files with
  | nil => exact only_pure _
  | cons file rest ih =>
    unfold uploadEach uploadFile backupStep
    with_reducible repeat' first
      | exact only_pure _
      | exact ih
      | refine Only.bind ?_ fun _ => ?_ | exact manage_uses (by with_unfolding_all rfl) | split

theorem runBackup_uses (req : BackupRequest) :
    Uses [.store, .learn, .backup] (runBackup cfg dir req) := by
  unfold runBackup createBackupStaging openStagingRoot completeBackup roleHeld uploadBackup
    uploadPlace removeBackupStaging backupStep
  with_reducible repeat' first
    | exact only_pure _
    | exact (backupSourceRole_uses _ _).mono (by simp)
    | exact (uploadEach_uses _ _ _ _).mono (by simp)
    | exact (failBackup_uses _)
    | exact (enter_uses _).mono (by simp)
    | refine Only.bind ?_ fun _ => ?_ | exact manage_uses (by with_unfolding_all rfl) | split

theorem backupAdmitted_uses (key hash : String) (req : BackupRequest) :
    Uses [.store, .learn, .backup] (backupAdmitted cfg key hash req name) := by
  unfold backupAdmitted
  with_reducible repeat' first
    | exact only_pure _
    | exact (recordBackup_uses _ _ _).mono (by simp)
    | exact runBackup_uses _
    | refine Only.bind ?_ fun _ => ?_ | exact manage_uses (by with_unfolding_all rfl) | split

end Backups
end InstanceManager
