import CubridOperator.Controller.BackupProtocol
import CubridOperator.Controller.OperatorLog

/-!
What every run of a CubridBackup's reconciles keeps: target, operation, starts,
and the times that bound the waits.
-/
namespace Controller
open Foundation InstanceManager Function List Option

abbrev BackupLog := OperatorLog CubridBackup BackupRequest BackupQuery BackupQuery.Ans

section Versions

variable {b s : CubridBackup} {seen : List BackupEntry}

structure SoundVersion (s : CubridBackup) : Prop where
  whole : s.persisted = s
  recorded : s.core.target ≠ "" → s.core.clusterUID ≠ "" ∧ ∃ t, s.core.recordedAt = some t
  followed : s.core.op ≠ none → s.core.target ≠ ""

structure Kept (before after : BackupCore) : Prop where
  key : after.key = before.key
  target : before.target ≠ "" → after.target = before.target ∧ after.recordedAt = before.recordedAt
  op : ∀ id, before.op = some id → after.op = some id

theorem Kept.refl (c : BackupCore) : Kept c c := ⟨rfl, fun _ => ⟨rfl, rfl⟩, fun _ => id⟩

theorem Kept.trans {c d e : BackupCore} (first : Kept c d) (second : Kept d e) : Kept c e where
  key := second.key.trans first.key
  target named :=
    have next := second.target ((first.target named).1 ▸ named)
    ⟨next.1.trans (first.target named).1, next.2.trans (first.target named).2⟩
  op id is := second.op id (first.op id is)

theorem persisted_persisted (s : CubridBackup) : s.persisted.persisted = s.persisted := by
  simp [CubridBackup.persisted, CubridBackupStatus.persisted, comp_def]

theorem persisted_readyReason (s : CubridBackup) : readyReason s.persisted = readyReason s := by
  simp only [readyReason, CubridBackup.persisted, CubridBackupStatus.persisted,
    findStatusCondition, find?_map, Option.map_map]
  rfl

theorem SoundVersion.recordedAt_whole (sound : SoundVersion s) {t : Int}
    (is : s.core.recordedAt = some t) : wholeSeconds t = t := by
  have same := congrArg (fun s => s.core.recordedAt) sound.whole
  simp only [CubridBackup.core, CubridBackup.persisted, CubridBackupStatus.persisted] at same is
  rw [is] at same
  exact some.inj same

theorem SoundVersion.missing_whole (sound : SoundVersion s) {t : Int}
    (is : s.core.missing = some t) : wholeSeconds t = t := by
  have same := congrArg (fun s => s.core.missing) sound.whole
  simp only [CubridBackup.core, CubridBackup.persisted, CubridBackupStatus.persisted] at same is
  rw [is] at same
  exact some.inj same

theorem Move.kept (move : Move b s seen) (sound : SoundVersion b) :
    Kept b.core s.persisted.core where
  key := move.draft.key
  target named := by
    obtain ⟨-, t, is⟩ := sound.recorded named
    obtain ⟨same, -, recorded⟩ := move.draft.target named
    refine ⟨same, ?_⟩
    have stays : s.status.targetRecordedAt = some t := recorded t is
    rw [is]
    simp [CubridBackup.core, CubridBackup.persisted, CubridBackupStatus.persisted, stays,
      sound.recordedAt_whole is]
  op := move.draft.op

theorem Move.sound (move : Move b s seen) (sound : SoundVersion b) : SoundVersion s.persisted where
  whole := persisted_persisted s
  recorded named := by
    by_cases before : b.core.target = ""
    · obtain ⟨uid, t, -, is⟩ := move.draft.newTarget before named
      have is : s.status.targetRecordedAt = some t := is
      exact ⟨uid, wholeSeconds
        t, by simp [CubridBackup.core, CubridBackup.persisted, CubridBackupStatus.persisted, is]⟩
    · obtain ⟨uid, t, is⟩ := sound.recorded before
      refine ⟨?_, t, ((move.kept sound).target before).2.trans is⟩
      have same : s.core.clusterUID = b.core.clusterUID := (move.draft.target before).2.1
      exact same ▸ uid
  followed op := by
    have named : b.core.target ≠ "" := by
      cases before : b.core.op with
      | some id => exact sound.followed (by simp [before])
      | none =>
        obtain ⟨id, is⟩ := ne_none_iff_exists'.mp op
        exact (move.draft.newOp before id is).1
    exact ((move.kept sound).target named).1 ▸ named

end Versions

section Ledger

variable {initial : CubridBackup} {log past : BackupLog}

def OwnedIn (key target : String) (id : OperationID) (log : BackupLog) : Prop :=
  (∃ i req op, (some i, .answered target req op) ∈ log ∧ req.kind = .backup ∧ req.key = key ∧
    op.id = id) ∨
    ∃ i op, (some i, .found target .backup key op) ∈ log ∧ op.id = id

/-- What the log of a backup says of its versions and its starts. -/
structure Ledger (initial : CubridBackup) (log : BackupLog) : Prop where
  sound : ∀ s ∈ storedIn initial log, SoundVersion s
  kept : ∀ s ∈ storedIn initial log, Kept s.core (latest initial log).core
  sent : ∀ i m req, (some i, .sent m req) ∈ log →
    m ≠ "" ∧ (latest initial log).core.target = m ∧ req.kind = .backup ∧ req.key = initial.core.key
  own : ∀ s ∈ storedIn initial log, ∀ id, s.core.op = some id →
    OwnedIn initial.core.key s.core.target id log

theorem OwnedIn.mono {key target : String} {id : OperationID} (own : OwnedIn key target id past)
    (more : past ⊆ log) : OwnedIn key target id log :=
  own.imp (fun ⟨i, req, op, told, rest⟩ => ⟨i, req, op, more told, rest⟩) fun ⟨i, op, told, rest⟩ =>
    ⟨i, op, more told, rest⟩

theorem LoggedBy.owned {i : Nat} {b : BackupCore} {seen : List BackupEntry} {id : OperationID}
    (own : OwnOperation b id seen) (logged : LoggedBy i seen log) : OwnedIn b.key b.target id log :=
  own.imp (fun ⟨req, op, told, rest⟩ => ⟨i, req, op, logged _ told, rest⟩) fun ⟨op, told, rest⟩ =>
    ⟨i, op, logged _ told, rest⟩

theorem Ledger.key (ledger : Ledger initial log) {s : CubridBackup}
    (stored : s ∈ storedIn initial log) : s.core.key = initial.core.key := by
  have first : initial ∈ storedIn initial log := mem_append_right _ mem_cons_self
  exact (ledger.kept s stored).key.symm.trans (ledger.kept initial first).key

theorem Ledger.same_target (ledger : Ledger initial log) {s r : CubridBackup}
    (stored : s ∈ storedIn initial log) (stored' : r ∈ storedIn initial log)
    (named : s.core.target ≠ "") (named' : r.core.target ≠ "") :
    r.core.target = s.core.target ∧ r.core.recordedAt = s.core.recordedAt := by
  have one := (ledger.kept s stored).target named
  have other := (ledger.kept r stored').target named'
  exact ⟨other.1.symm.trans one.1, other.2.symm.trans one.2⟩

theorem created_sound (backup : CubridBackup) : SoundVersion backup.created :=
  ⟨rfl, fun named => absurd rfl named, fun op => absurd rfl op⟩

theorem Ledger.wrote {i : Nat} {object : CubridBackup} {seen : List BackupEntry}
    (ledger : Ledger initial past) (logged : LoggedBy i seen past)
    (move : Move (latest initial past) object seen) :
    Ledger initial ((some i, .wrote (latest initial past) object.persisted) :: past) := by
  have sound := ledger.sound _ latest_mem
  have kept := move.kept sound
  have stored : storedIn initial ((some i, .wrote (latest initial past) object.persisted) :: past) =
      object.persisted :: storedIn initial past := storedIn_cons_of_some rfl
  have newest : latest initial ((some i, .wrote (latest initial past) object.persisted) :: past) =
      object.persisted :=
    latest_cons_of_some rfl
  have more := subset_cons_self (some i, Entry.wrote (latest initial past) object.persisted) past
  refine ⟨fun s inside => ?_, fun s inside => ?_, fun j m req sent => ?_, fun s inside id is => ?_⟩
  · rw [stored] at inside
    rcases mem_cons.mp inside with rfl | before
    · exact move.sound sound
    · exact ledger.sound s before
  · rw [stored] at inside
    rw [newest]
    rcases mem_cons.mp inside with rfl | before
    · exact .refl _
    · exact (ledger.kept s before).trans kept
  · obtain ⟨named, target, rest⟩ := ledger.sent j m req (by simpa using sent)
    rw [newest]
    exact ⟨named, ((kept.target (target ▸ named)).1).trans target, rest⟩
  · rw [stored] at inside
    rcases mem_cons.mp inside with rfl | before
    · have old : ∀ id, (latest initial past).core.op = some id →
          OwnedIn initial.core.key object.persisted.core.target id past := fun id is => by
        have named := sound.followed (by simp [is])
        rw [(kept.target named).1]
        exact ledger.own _ latest_mem id is
      cases before : (latest initial past).core.op with
      | some id' =>
        obtain rfl : id' = id := some.inj ((move.draft.op id' before).symm.trans is)
        exact (old id' before).mono more
      | none =>
        obtain ⟨named, own⟩ := move.draft.newOp before id is
        rw [(kept.target named).1, ← ledger.key latest_mem]
        exact (logged.owned own).mono more
    · exact (ledger.own s before id is).mono more

theorem ledger_of_justified (backup : CubridBackup)
    (justified : Justified
      (Ruled backupRules CubridBackup.persisted backupModel.edits backup.created) log) :
    Ledger backup.created log := by
  refine latest_induction (Ledger backup.created) justified ?_ ?_
    (fun i object seen past recalls _ move _ ledger => ledger.wrote recalls.logged move) ?_
  · refine ⟨fun s inside => ?_, fun s inside => ?_, fun i m req sent => (by cases sent),
      fun s inside id is => ?_⟩ <;>
      obtain rfl := mem_singleton.mp inside
    · exact created_sound backup
    · exact .refl _
    · cases is
  · intro e past quiet before holds ledger
    have stored : storedIn backup.created (e :: past) = storedIn backup.created past :=
      storedIn_cons_of_none quiet
    have newest : latest backup.created (e :: past) = latest backup.created past :=
      latest_cons_of_none quiet
    refine ⟨fun s inside => ?_, fun s inside => ?_, fun i m req sent => ?_,
      fun s inside id is => ?_⟩
    · exact ledger.sound s (stored ▸ inside)
    · rw [newest]
      exact ledger.kept s (stored ▸ inside)
    · rw [newest]
      rcases mem_cons.mp sent with rfl | earlier
      · obtain ⟨b, seen, recalls, goes, send⟩ := holds
        have inside := goesBy_stored before recalls.logged goes
        have kept := (ledger.kept b inside).target (send.target ▸ send.named)
        exact ⟨send.named, kept.1.trans send.target, send.kind, send.key.trans (ledger.key inside)⟩
      · exact ledger.sent i m req earlier
    · exact (ledger.own s (stored ▸ inside) id is).mono (subset_cons_self _ _)
  · -- An edit leaves the status as it is.
    rintro who after past ⟨edit, rfl⟩ ledger
    have sound := ledger.sound _ latest_mem
    have stored : storedIn backup.created
        ((who, .edited (backupModel.amend edit (latest backup.created past))) :: past) =
        backupModel.amend edit (latest backup.created past) :: storedIn backup.created past :=
        storedIn_cons_of_some rfl
    have newest : latest backup.created
        ((who, .edited (backupModel.amend edit (latest backup.created past))) :: past) =
        backupModel.amend edit (latest backup.created past) := latest_cons_of_some rfl
    have core : (backupModel.amend edit (latest backup.created past)).core =
        (latest backup.created past).core := rfl
    refine ⟨fun s inside => ?_, fun s inside => ?_, fun i m req sent => ?_,
      fun s inside id is => ?_⟩
    · rw [stored] at inside
      rcases mem_cons.mp inside with rfl | before
      · exact ⟨congrArg (fun b => { b with spec := edit.spec, generation := edit.generation })
          sound.whole, sound.recorded, sound.followed⟩
      · exact ledger.sound s before
    · rw [stored] at inside
      rw [newest, core]
      rcases mem_cons.mp inside with rfl | before
      · exact .refl _
      · exact ledger.kept s before
    · rw [newest, core]
      exact ledger.sent i m req (by simpa using sent)
    · rw [stored] at inside
      rcases mem_cons.mp inside with rfl | before
      · exact (ledger.own _ latest_mem id is).mono (subset_cons_self _ _)
      · exact (ledger.own s before id is).mono (subset_cons_self _ _)

end Ledger

section OneMember

variable (backup : CubridBackup)
  (events : List (OperatorEvent BackupQuery BackupQuery.Ans BackupEdit))

def backupLog : BackupLog := (backupRun backup events).world.log

theorem backupLog_justified :
    Justified (Ruled backupRules CubridBackup.persisted backupModel.edits backup.created)
      (backupLog backup events) :=
  backupModel.log_justified backup_keeps trivial events

/-- Every start of a backup goes to one member under one key, which stood in a
    stored status as its target before. -/
theorem one_backup_one_member :
    (∀ i j m m' req req', (some i, .sent m req) ∈ backupLog backup events →
      (some j, .sent m' req') ∈ backupLog backup events →
      m' = m ∧ req'.key = req.key ∧ req.key = idempotencyKey backup) ∧
    ∀ i m req past, (some i, .sent m req) :: past <:+ backupLog backup events →
      ∃ s ∈ storedIn backup.created past, s.status.targetInstance = m := by
  have justified := backupLog_justified backup events
  have ledger := ledger_of_justified backup justified
  refine ⟨fun i j m m' req req' sent sent' => ?_, fun i m req past sent => ?_⟩
  · obtain ⟨-, target, -, key⟩ := ledger.sent i m req sent
    obtain ⟨-, target', -, key'⟩ := ledger.sent j m' req' sent'
    exact ⟨target'.symm.trans target, key'.trans key.symm, key⟩
  · obtain ⟨⟨b, seen, recalls, goes, send⟩, before⟩ := justified.suffix sent
    exact ⟨b, goesBy_stored before recalls.logged goes, send.target⟩

/-- The target, its time and the operation of a backup are never replaced, and
    the operation was answered or found under the backup's own key. -/
theorem backup_records_are_kept : Ledger backup.created (backupLog backup events) :=
  ledger_of_justified backup (backupLog_justified backup events)

end OneMember
end Controller
