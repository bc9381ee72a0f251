import CubridOperator.Controller.BackupRuns

/-!
The life of a CubridBackup over whole runs: how it completes, that its end is
final, that its waits are bounded.
-/
namespace Controller
open Foundation InstanceManager List

/-- The reconcile began when the stored target had been recorded for longer
    than the wait on it. -/
def BeganLate (initial : CubridBackup) (i : Nat) (log : BackupLog) : Prop :=
  ∃ t r past, (some i, .began t) :: past <:+ log ∧
    (latest initial past).status.targetInstance ≠ "" ∧
    (latest initial past).status.targetRecordedAt = some r ∧ t - r > backupTargetWait

def ReadsFailed (i : Nat) (log : BackupLog) : Prop :=
  (some i, .readFailed) ∈ log ∨ (∃ name, (some i, .told (.cluster name) .failed) ∈ log) ∨
    ∃ name, (some i, .told (.pod name) .failed) ∈ log

def LateEnd (backup : CubridBackup) (i : Nat) (log : BackupLog) : Prop :=
  ReadsFailed i log ∨ (some i, .unwritten) ∈ log ∨
    (∃ s, (some i, .read s) ∈ log ∧ (s.isTerminal = true ∨ s.status.operationRef ≠ none)) ∨
    ∃ before after, (some i, .wrote before after) ∈ log ∧ (after.status.phase = some .failed ∨
      ∃ op : Operation, after.status.operationRef = some op.id ∧
        (some i, .found after.status.targetInstance .backup (idempotencyKey backup) op) ∈ log)

structure BackupLifecycle (backup : CubridBackup) (log : BackupLog) (returned : Nat → Prop) :
    Prop where
  /-- Completed is stored only by a reconcile that the target answered so, for
      a backup operation under the backup's own key. -/
  completed : ∀ i before after past, (some i, .wrote before after) :: past <:+ log →
    after.status.phase = some .completed →
    ∃ op, (some i, .polled after.status.targetInstance op.id op) ∈ past ∧ op.state = .completed ∧
      op.kind = .backup ∧ op.idempotencyKey = idempotencyKey backup
  /-- Completed and Failed are never left. -/
  ended : ∀ past, past <:+ log → (latest backup.created past).isTerminal = true →
    (latest backup.created log).status = (latest backup.created past).status
  lateSends : ∀ i, BeganLate backup.created i log → ∀ m req, (some i, .sent m req) ∉ log
  /-- A late reconcile whose reads and write succeed, and which read that no
      operation is recorded, stores an end or an operation that the target holds. -/
  lateStores : ∀ i, BeganLate backup.created i log → returned i → LateEnd backup i log
  /-- The time since which the operation is missing is first set by a missing answer. -/
  missingSet : ∀ i before after past, (some i, .wrote before after) :: past <:+ log →
    before.status.operationMissingSince = none → ∀ t, after.status.operationMissingSince = some t →
    ∃ t' id, t = wholeSeconds t' ∧ (some i, .time t') ∈ past ∧ after.status.operationRef = some id ∧
      (some i, .missing after.status.targetInstance id) ∈ past
  missingAnswered : ∀ i before after past, (some i, .wrote before after) :: past <:+ log →
    ∀ m id, (some i, .missing m id) ∈ past → after.status.operationMissingSince ≠ none
  missingKept : ∀ i before after past, (some i, .wrote before after) :: past <:+ log →
    ∀ t, before.status.operationMissingSince = some t →
      after.status.operationMissingSince = some t ∨
      after.status.operationMissingSince = none ∧ ∃ id op, after.status.operationRef = some id ∧
        (some i, .polled after.status.targetInstance id op) ∈ past
  givenUp : ∀ i before after past, (some i, .wrote before after) :: past <:+ log →
    after.status.phase = some .failed → readyReason after = some reasonRecordedOperationLost →
    ∃ since t, after.status.operationMissingSince = some since ∧ (some i, .time t) ∈ past ∧
      t - since > backupOperationMissingWait

section Operations

variable {initial : CubridBackup} {log : BackupLog} {members : Members BackupRequest}

theorem polled_own (sound : members.Sound) (told : ∀ i e, (i, e) ∈ log → e.TrueOf members)
    {key target : String} {id : OperationID} (own : OwnedIn key target id log) {i : Nat}
    {op : Operation} (polled : (some i, .polled target id op) ∈ log) :
    op.id = id ∧ op.kind = .backup ∧ op.idempotencyKey = key := by
  obtain ⟨same, req, made, is⟩ := told _ _ polled
  rcases own with ⟨j, req', op', answered, kind, rfl, rfl⟩ | ⟨j, op', found, rfl⟩
  · obtain ⟨made', -⟩ := told _ _ answered
    obtain ⟨-, rfl⟩ := sound.unique made made'
    exact ⟨same, is.kind.trans kind, is.key⟩
  · obtain ⟨kind, held, req', made', is'⟩ := told _ _ found
    obtain ⟨-, rfl⟩ := sound.unique made made'
    exact ⟨same, is.kind.trans (is'.kind.symm.trans kind), is.key.trans (is'.key.symm.trans held)⟩

end Operations

section Late

variable {backup : CubridBackup} {log past : BackupLog} {i : Nat}

theorem latest_kept (ledger : Ledger backup.created log) (before : past <:+ log) :
    Kept (latest backup.created past).core (latest backup.created log).core :=
  ledger.kept _ (storedIn_mono before latest_mem)

theorem late_wrote_over
    (justified : Justified
      (Ruled backupRules CubridBackup.persisted backupModel.edits backup.created) log)
    (late : BeganLate backup.created i log) {before after : CubridBackup}
    (wrote : (some i, .wrote before after) ∈ log) : before.core.target ≠ "" := by
  obtain ⟨t, r, past, began, named, -, -⟩ := late
  obtain ⟨earlier, inside, ruled⟩ := justified.of_mem wrote
  have first := began_before justified began (by simp) inside
  have ledger := ledger_of_justified backup (justified.suffix ((suffix_cons _ _).trans inside))
  have kept := (latest_kept ledger ((suffix_cons _ _).trans first)).target named
  rw [ruled.1, kept.1]
  exact named

theorem late_not_timely
    (justified : Justified
      (Ruled backupRules CubridBackup.persisted backupModel.edits backup.created) log)
    (late : BeganLate backup.created i log) {b : CubridBackup} {seen : List BackupEntry}
    (logged : LoggedBy i seen log) (stored : b ∈ storedIn backup.created log)
    (named : b.core.target ≠ "") : ¬ Timely b seen := by
  have ledger := ledger_of_justified backup justified
  rintro (unrecorded | ⟨r, t, recorded, told, within⟩ | ⟨before, wrote, unnamed⟩)
  · obtain ⟨-, t, is⟩ := (ledger.sound b stored).recorded named
    rw [unrecorded] at is
    cases is
  · obtain ⟨t₀, r₀, past, began, named₀, recorded₀, expired⟩ := late
    have first := storedIn_mono ((suffix_cons _ _).trans began)
      (latest_mem : latest backup.created past ∈ storedIn backup.created past)
    have same := (ledger.same_target first stored named₀ named).2
    have : some r = some r₀ := recorded.symm.trans (same.trans recorded₀)
    cases this
    have later := began_le_time justified began (logged _ told)
    omega
  · exact late_wrote_over justified late (logged _ wrote) unnamed

end Late

section Ends

variable {backup : CubridBackup} {log : BackupLog}

theorem ended_stays
    (justified : Justified
      (Ruled backupRules CubridBackup.persisted backupModel.edits backup.created) log) :
    ∀ past, past <:+ log → (latest backup.created past).isTerminal = true →
      (latest backup.created log).status = (latest backup.created past).status := by
  -- A version written over an end would be written over a backup that is live.
  refine latest_induction (fun log => ∀ past, past <:+ log →
    (latest backup.created past).isTerminal = true →
    (latest backup.created log).status = (latest backup.created past).status) justified ?_ ?_ ?_ ?_
  · intro past before _
    rw [suffix_nil.mp before]
  · intro e newer quiet _ _ ih past before terminal
    rcases suffix_cons_iff.mp before with rfl | inside
    · rfl
    · rw [latest_cons_of_none quiet]
      exact ih past inside terminal
  · intro i object seen newer _ _ move _ ih past before terminal
    rcases suffix_cons_iff.mp before with rfl | inside
    · rfl
    · have live := move.live
      have same := ih past inside terminal
      simp only [CubridBackup.isTerminal] at terminal live
      rw [same, terminal] at live
      cases live
  · rintro who after newer ⟨edit, rfl⟩ ih past before terminal
    rcases suffix_cons_iff.mp before with rfl | inside
    · rfl
    · rw [latest_cons_of_some rfl]
      exact ih past inside terminal

end Ends

section Missing

variable {b s : CubridBackup} {seen : List BackupEntry} {t : Int}

theorem Move.missing_set (move : Move b s seen) (unset : b.status.operationMissingSince = none)
    (set : s.persisted.status.operationMissingSince = some t) :
    ∃ t' id, t = wholeSeconds t' ∧ .time t' ∈ seen ∧ s.status.operationRef = some id ∧
      .missing s.status.targetInstance id ∈ seen := by
  obtain ⟨t', is, rfl⟩ := Option.map_eq_some_iff.mp set
  rcases move.draft.missingSet t' is with old | ⟨-, told, id, own, missing⟩
  · exact absurd (unset.symm.trans old) (by simp)
  · exact ⟨t', id, rfl, told, own, missing⟩

theorem Move.missing_kept (move : Move b s seen) (sound : SoundVersion b)
    (is : b.status.operationMissingSince = some t) :
    s.persisted.status.operationMissingSince = some t ∨
    s.persisted.status.operationMissingSince = none ∧
      ∃ id op, s.status.operationRef = some id ∧ .polled s.status.targetInstance id op ∈ seen := by
  have stored : s.persisted.status.operationMissingSince = s.core.missing.map wholeSeconds := rfl
  have whole : wholeSeconds t = t := sound.missing_whole is
  cases now : s.core.missing with
  | none =>
    have cleared := move.draft.missingCleared now (by simp [CubridBackup.core, is])
    exact .inr ⟨by simp [stored, now], cleared⟩
  | some t' =>
    have same : t' = t := by
      rcases move.draft.missingSet t' now with old | ⟨unset, -⟩
      · exact Option.some.inj (old.symm.trans is)
      · exact absurd (unset.symm.trans is) (by simp)
    exact .inl (by simp [stored, now, same, whole])

theorem Move.given_up (move : Move b s seen) (failed : s.status.phase = some .failed)
    (reason : readyReason s.persisted = some reasonRecordedOperationLost) :
    ∃ since t, s.persisted.status.operationMissingSince = some since ∧ .time t ∈ seen ∧
      t - since > backupOperationMissingWait := by
  rw [persisted_readyReason] at reason
  obtain ⟨since, t, is, told, expired⟩ := (move.failed failed).lost reason
  have stored : s.persisted.status.operationMissingSince = s.core.missing.map wholeSeconds := rfl
  refine ⟨wholeSeconds since, t, by rw [stored, is]; rfl, told, ?_⟩
  have := wholeSeconds_le since
  omega

end Missing

section Runs

variable {backup : CubridBackup}
  {events : List (OperatorEvent BackupQuery BackupQuery.Ans BackupEdit)} {i : Nat}
  {before after : CubridBackup} {past : BackupLog}

theorem backup_moved (wrote : (some i, .wrote before after) :: past <:+ backupLog backup events) :
    SoundVersion before ∧ ∃ object seen, after = object.persisted ∧ Recalls i seen past ∧
    Move before object seen := by
  have justified := backupLog_justified backup events
  obtain ⟨rfl, object, seen, is, recalls, -, move⟩ := wrote_over_latest justified wrote
  have stored :=
    storedIn_mono ((suffix_cons _ _).trans wrote) (@latest_mem _ _ _ _ backup.created _)
  exact ⟨(ledger_of_justified backup justified).sound _ stored, object, seen, is, recalls, move⟩

theorem late_stores (late : BeganLate backup.created i (backupLog backup events))
    (returned : (backupRun backup events).threads[i]? = some (.ret ())) :
    LateEnd backup i (backupLog backup events) := by
  obtain ⟨parts, plays⟩ : ∃ parts, backupModel.Plays backupRules Finished
      (backupRun backup events) parts :=
    backupModel.plays_run backup_keeps trivial events
  have justified := backupLog_justified backup events
  have ledger := ledger_of_justified backup justified
  obtain ⟨part, here, finished⟩ := plays.returned returned
  have logged : LoggedBy i part.seen (backupLog backup events) :=
    (plays.holds.seen i part here).logged
  rcases finished with failed | ⟨b, read, terminal⟩ | ⟨name, failed⟩ | ⟨name, failed⟩ | unwritten |
    ⟨b, s, wrote, decided⟩
  · exact .inl (.inl (logged _ failed))
  · exact .inr (.inr (.inl ⟨b, logged _ read, .inl terminal⟩))
  · exact .inl (.inr (.inl ⟨name, logged _ failed⟩))
  · exact .inl (.inr (.inr ⟨name, logged _ failed⟩))
  · exact .inr (.inl (logged _ unwritten))
  have named := late_wrote_over justified late (logged _ wrote)
  obtain ⟨past, inside, ruled⟩ := justified.of_mem (logged _ wrote)
  obtain ⟨sound, object, seen, rfl, -, move⟩ := backup_moved inside
  have stored : b ∈ storedIn backup.created (backupLog backup events) := by
    rw [ruled.1]
    exact storedIn_mono ((suffix_cons _ _).trans inside) latest_mem
  rcases decided with failed | (unnamed | unidentified | ⟨op, read⟩ | timely) | ⟨op, own, found⟩
  · exact .inr (.inr (.inr ⟨b, _, logged _ wrote, .inl failed⟩))
  · exact absurd unnamed named
  · exact absurd unidentified (sound.recorded named).1
  · exact .inr (.inr (.inl ⟨b, logged _ read, .inr op⟩))
  · exact absurd timely (late_not_timely justified late logged stored named)
  · refine .inr (.inr (.inr ⟨b, _, logged _ wrote, .inr ⟨op, own, ?_⟩⟩))
    have target : object.persisted.status.targetInstance = b.core.target :=
      ((move.kept sound).target named).1
    have key : idempotencyKey backup = b.core.key := (ledger.key stored).symm
    rw [target, key]
    exact logged _ found

theorem late_sends_nothing (late : BeganLate backup.created i (backupLog backup events))
    (m : String) (req : Request BackupRequest) :
    (some i, .sent m req) ∉ backupLog backup events := by
  intro sent
  have justified := backupLog_justified backup events
  obtain ⟨past, inside, b, seen, ⟨logged, -⟩, goes, send⟩ := justified.of_mem sent
  have before := (suffix_cons _ _).trans inside
  have stored := storedIn_mono before (goesBy_stored (justified.suffix before) logged goes)
  exact late_not_timely justified late (fun e told => before.subset (logged e told)) stored
    (send.target ▸ send.named) send.timely

theorem completed_was_polled
    (wrote : (some i, .wrote before after) :: past <:+ backupLog backup events)
    (completed : after.status.phase = some .completed) :
    ∃ op, (some i, .polled after.status.targetInstance op.id op) ∈ past ∧ op.state = .completed ∧
      op.kind = .backup ∧ op.idempotencyKey = idempotencyKey backup := by
  obtain ⟨parts, plays⟩ : ∃ parts, backupModel.Plays backupRules Finished
      (backupRun backup events) parts :=
    backupModel.plays_run backup_keeps trivial events
  obtain ⟨-, object, seen, rfl, ⟨logged, -⟩, move⟩ := backup_moved wrote
  obtain ⟨id, op, own, polled, state⟩ := move.completed completed
  have stored := storedIn_mono wrote (mem_storedIn_of_wrote backup.created mem_cons_self)
  have inside := wrote.subset (mem_cons_of_mem _ (logged _ polled))
  have owned := (ledger_of_justified backup (backupLog_justified backup events)).own _ stored id own
  obtain ⟨rfl, kind, key⟩ := polled_own plays.holds.members plays.holds.told owned inside
  exact ⟨op, logged _ polled, state, kind, key⟩

end Runs

/-- Every run of a backup's reconciles keeps to its life cycle. -/
theorem backup_lifecycle (backup : CubridBackup)
    (events : List (OperatorEvent BackupQuery BackupQuery.Ans BackupEdit)) :
    BackupLifecycle backup (backupLog backup events)
      fun i => (backupRun backup events).threads[i]? = some (.ret ()) where
  completed _ _ _ _ := completed_was_polled
  ended := ended_stays (backupLog_justified backup events)
  lateSends _ := late_sends_nothing
  lateStores _ := late_stores
  missingSet i before after past wrote unset t set := by
    obtain ⟨-, object, seen, rfl, ⟨logged, -⟩, move⟩ := backup_moved wrote
    obtain ⟨t', id, whole, told, own, missing⟩ := move.missing_set unset set
    exact ⟨t', id, whole, logged _ told, own, logged _ missing⟩
  missingAnswered i before after past wrote m id missing none := by
    obtain ⟨-, object, seen, rfl, recalls, move⟩ := backup_moved wrote
    exact move.missed ⟨m, id, recalls.all _ missing rfl⟩ (Option.map_eq_none_iff.mp none)
  missingKept i before after past wrote t is := by
    obtain ⟨sound, object, seen, rfl, ⟨logged, -⟩, move⟩ := backup_moved wrote
    rcases move.missing_kept sound is with same | ⟨cleared, id, op, own, polled⟩
    · exact .inl same
    · exact .inr ⟨cleared, id, op, own, logged _ polled⟩
  givenUp i before after past wrote failed reason := by
    obtain ⟨-, object, seen, rfl, ⟨logged, -⟩, move⟩ := backup_moved wrote
    obtain ⟨since, t, is, told, expired⟩ := move.given_up failed reason
    exact ⟨since, t, is, logged _ told, expired⟩

end Controller
