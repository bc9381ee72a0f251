import CubridOperator.Controller.BackupController

/-!
What a reconcile of a CubridBackup may write and send, by what it has read and
been told, and that the reconcile keeps to it on every path.
-/
namespace Controller
open Foundation Program InstanceManager List Option

abbrev BackupEntry := Entry CubridBackup BackupRequest BackupQuery BackupQuery.Ans
abbrev BackupPart := OperatorPart CubridBackup BackupRequest BackupQuery BackupQuery.Ans

structure BackupCore where
  key : String
  target : String
  recordedAt : Option Int
  clusterUID : String
  op : Option OperationID
  missing : Option Int

def CubridBackup.core (backup : CubridBackup) : BackupCore where
  key := idempotencyKey backup
  target := backup.status.targetInstance
  recordedAt := backup.status.targetRecordedAt
  clusterUID := backup.status.clusterUID
  op := backup.status.operationRef
  missing := backup.status.operationMissingSince

def readyReason (backup : CubridBackup) : Option String :=
  (findStatusCondition .ready backup.status.conditions).map (·.reason)

def OwnOperation (b : BackupCore) (id : OperationID) (seen : List BackupEntry) : Prop :=
  (∃ req op, .answered b.target req op ∈ seen ∧ req.kind = .backup ∧ req.key = b.key ∧ op.id = id) ∨
    ∃ op, .found b.target .backup b.key op ∈ seen ∧ op.id = id

/-- What a reconcile may make of a status: what is recorded stays, and what is
    new rests on what it was told. -/
structure Draft (b s : BackupCore) (seen : List BackupEntry) : Prop where
  key : s.key = b.key
  target : b.target ≠ "" → s.target = b.target ∧ s.clusterUID = b.clusterUID ∧
    ∀ t, b.recordedAt = some t → s.recordedAt = some t
  newTarget : b.target = "" → s.target ≠ "" →
    s.clusterUID ≠ "" ∧ ∃ t, .time t ∈ seen ∧ s.recordedAt = some t
  op : ∀ id, b.op = some id → s.op = some id
  newOp : b.op = none → ∀ id, s.op = some id → b.target ≠ "" ∧ OwnOperation b id seen
  missingSet : ∀ t, s.missing = some t → b.missing = some t ∨
    b.missing = none ∧ .time t ∈ seen ∧ ∃ id, s.op = some id ∧ .missing s.target id ∈ seen
  missingCleared : s.missing = none → b.missing ≠ none →
    ∃ id op, s.op = some id ∧ .polled s.target id op ∈ seen

structure ReasonFits (s : BackupCore) (reason : Option String) (seen : List BackupEntry) :
    Prop where
  lost : reason = some reasonRecordedOperationLost →
    ∃ since t, s.missing = some since ∧ .time t ∈ seen ∧ t - since > backupOperationMissingWait
  unstarted : reason ∈ [some reasonRecordedTargetNotStarted, some reasonRequestRefused] →
    .holdsNone s.target .backup s.key ∈ seen

structure Move (b s : CubridBackup) (seen : List BackupEntry) : Prop where
  live : b.isTerminal = false
  draft : Draft b.core s.core seen
  missed : (∃ m id, .missing m id ∈ seen) → s.core.missing ≠ none
  completed : s.status.phase = some .completed →
    ∃ id op, s.core.op = some id ∧ .polled s.core.target id op ∈ seen ∧ op.state = .completed
  failed : s.status.phase = some .failed → ReasonFits s.core (readyReason s) seen

/-- The wait on the recorded target had not run out when it was looked at, or
    the target was recorded by this reconcile. -/
def Timely (b : CubridBackup) (seen : List BackupEntry) : Prop :=
  b.core.recordedAt = none ∨
    (∃ r t, b.core.recordedAt = some r ∧ .time t ∈ seen ∧ t - r ≤ backupTargetWait) ∨
    ∃ before, .wrote before b ∈ seen ∧ before.core.target = ""

structure Send (b : CubridBackup) (m : String) (req : Request BackupRequest)
    (seen : List BackupEntry) : Prop where
  live : b.isTerminal = false
  target : b.core.target = m
  named : m ≠ ""
  op : b.core.op = none
  kind : req.kind = .backup
  key : req.key = b.core.key
  unheld : ∀ m kind key, .holdsNone m kind key ∉ seen
  timely : Timely b seen

def backupRules : Rules CubridBackup BackupRequest BackupQuery BackupQuery.Ans where
  mayWrite := Move
  maySend := Send

/-- Why a reconcile may leave a recorded target without an operation waiting. -/
def Early (b : CubridBackup) (seen : List BackupEntry) : Prop :=
  b.core.target = "" ∨ b.core.clusterUID = "" ∨ (b.core.op ≠ none ∧ .read b ∈ seen) ∨ Timely b seen

def Excused (b : CubridBackup) (s : BackupCore) (seen : List BackupEntry) : Prop :=
  Early b seen ∨ ∃ op : Operation, s.op = some op.id ∧
  .found b.core.target .backup b.core.key op ∈ seen

/-- What a reconcile writes ends the backup, follows an operation that the
    target holds, or may leave it waiting. -/
def Decided (b s : CubridBackup) (seen : List BackupEntry) : Prop :=
  s.status.phase = some .failed ∨ Excused b s.core seen

def Finished (part : BackupPart) (_ : Unit) : Prop :=
  .readFailed ∈ part.seen ∨ (∃ b, .read b ∈ part.seen ∧ b.isTerminal = true) ∨
    (∃ name, .told (.cluster name) .failed ∈ part.seen) ∨
    (∃ name, .told (.pod name) .failed ∈ part.seen) ∨
    .unwritten ∈ part.seen ∨ ∃ b s, .wrote b s ∈ part.seen ∧ Decided b s part.seen

abbrev BackupObeys (part : BackupPart) (p : BackupM Unit) : Prop :=
  Obeys backupRules CubridBackup.persisted Finished part p

section Monotone

variable {b : CubridBackup} {s : BackupCore} {seen seen' : List BackupEntry} {id : OperationID}

theorem OwnOperation.mono {b : BackupCore} (own : OwnOperation b id seen) (more : seen ⊆ seen') :
    OwnOperation b id seen' :=
  own.imp (fun ⟨req, op, told, rest⟩ => ⟨req, op, more told, rest⟩) fun ⟨op, told, rest⟩ =>
    ⟨op, more told, rest⟩

theorem Draft.mono {b : BackupCore} (draft : Draft b s seen) (more : seen ⊆ seen') :
    Draft b s seen' where
  key := draft.key
  target := draft.target
  newTarget old new :=
    let ⟨uid, t, told, at_⟩ := draft.newTarget old new
    ⟨uid, t, more told, at_⟩
  op := draft.op
  newOp old id new := ⟨(draft.newOp old id new).1, (draft.newOp old id new).2.mono more⟩
  missingSet t is := (draft.missingSet t is).imp_right fun ⟨old, told, id, op, missing⟩ =>
    ⟨old, more told, id, op, more missing⟩
  missingCleared is old :=
    let ⟨id, op, own, polled⟩ := draft.missingCleared is old
    ⟨id, op, own, more polled⟩

theorem Timely.mono (timely : Timely b seen) (more : seen ⊆ seen') : Timely b seen' :=
  timely.imp_right fun rest =>
    rest.imp (fun ⟨r, t, recorded, told, within⟩ => ⟨r, t, recorded, more told, within⟩)
    fun ⟨before, wrote, rest⟩ => ⟨before, more wrote, rest⟩

theorem Early.mono (early : Early b seen) (more : seen ⊆ seen') : Early b seen' :=
  early.imp_right fun rest => rest.imp_right fun rest =>
    rest.imp (fun ⟨op, told⟩ => ⟨op, more told⟩) fun timely => timely.mono more

theorem Excused.mono (excused : Excused b s seen) (more : seen ⊆ seen') : Excused b s seen' :=
  excused.imp (fun early => early.mono more) fun ⟨op, own, told⟩ => ⟨op, own, more told⟩

theorem Decided.mono {s : CubridBackup} (decided : Decided b s seen) (more : seen ⊆ seen') :
    Decided b s seen' :=
  decided.imp_right fun excused => excused.mono more

theorem Draft.refl (b : BackupCore) (seen : List BackupEntry) : Draft b b seen where
  key := rfl
  target _ := ⟨rfl, rfl, fun _ => id⟩
  newTarget old new := absurd old new
  op _ := id
  newOp old id new := by
    rw [old] at new
    cases new
  missingSet _ is := .inl is
  missingCleared is old := absurd is old

end Monotone

section Working

variable {part : BackupPart} {v : Nat} {b s : CubridBackup}

structure Working (part : BackupPart) (v : Nat) (b s : CubridBackup) : Prop where
  base : part.base = some (v, b)
  live : b.isTerminal = false
  phase : s.isTerminal = false
  draft : Draft b.core s.core part.seen
  missed : (∃ m id, .missing m id ∈ part.seen) → s.core.missing ≠ none

structure Asking (part : BackupPart) (v : Nat) (b s : CubridBackup) :
    Prop extends Working part v b s where
  unmissed : ∀ m id, .missing m id ∉ part.seen
  kept : s.core.missing = b.core.missing

structure Waiting (part : BackupPart) (v : Nat) (b s : CubridBackup) :
    Prop extends Asking part v b s where
  unfollowed : b.core.op = none
  named : b.core.target ≠ ""

theorem Working.note (w : Working part v b s) (e : BackupEntry)
    (other : ∀ m id, e ≠ .missing m id) : Working (part.note e) v b s where
  base := w.base
  live := w.live
  phase := w.phase
  draft := w.draft.mono (subset_cons_self _ _)
  missed := fun ⟨m, id, told⟩ =>
    w.missed ⟨m, id, (mem_cons.mp told).resolve_left fun same => other m id same.symm⟩

theorem Asking.note (w : Asking part v b s) (e : BackupEntry) (other : ∀ m id, e ≠ .missing m id) :
    Asking (part.note e) v b s where
  toWorking := w.toWorking.note e other
  unmissed m id told :=
    w.unmissed m id ((mem_cons.mp told).resolve_left fun same => other m id same.symm)
  kept := w.kept

theorem Waiting.note (w : Waiting part v b s) (e : BackupEntry)
    (other : ∀ m id, e ≠ .missing m id) : Waiting (part.note e) v b s where
  toAsking := w.toAsking.note e other
  unfollowed := w.unfollowed
  named := w.named

theorem Working.copy (w : Working part v b s) {r : CubridBackup} (core : r.core = s.core)
    (phase : r.isTerminal = false) : Working part v b r :=
  { w with phase, draft := core ▸ w.draft, missed := core ▸ w.missed }

theorem Asking.copy (w : Asking part v b s) {r : CubridBackup} (core : r.core = s.core)
    (phase : r.isTerminal = false) : Asking part v b r :=
  { w with toWorking := w.toWorking.copy core phase, kept := core ▸ w.kept }

theorem Waiting.target (w : Waiting part v b s) : s.core.target = b.core.target :=
  (w.draft.target w.named).1

theorem note_subset (part : BackupPart) (e : BackupEntry) : part.seen ⊆ (part.note e).seen :=
  subset_cons_self _ _

theorem isTerminal_eq_false {s : CubridBackup} :
    s.isTerminal = false ↔ s.status.phase ≠ some .completed ∧ s.status.phase ≠ some .failed := by
  simp [CubridBackup.isTerminal]

theorem pending_phase {s : CubridBackup} (live : s.isTerminal = false) :
    s.pending.isTerminal = false := by
  rw [isTerminal_eq_false] at live ⊢
  cases phase : s.status.phase <;> simp_all [CubridBackup.pending]

end Working

section Conditions

variable {part : BackupPart} {v : Nat} {b s : CubridBackup} {type : BackupConditionType}
  {status : ConditionStatus} {reason msg : String} {t : Int}

theorem withCondition_readyReason :
    readyReason (s.withCondition .ready status reason msg t) = some reason := by
  have found := find_setStatusCondition_self
    (⟨.ready, status, reason, msg, s.generation, t⟩ : Condition BackupConditionType)
      s.status.conditions
  exact (congrArg (Option.map (·.reason)) found).trans (congrArg some (Condition.after_reason _ _))

theorem obeys_firstTime {stored : Option Int} {k : Int → BackupM Unit}
    (kept : ∀ t, stored = some t → BackupObeys part (k t))
    (new : stored = none → ∀ t, BackupObeys (part.note (.time t)) (k t)) :
    BackupObeys part (firstTime stored >>= k) := by
  cases stored with
  | some t => exact kept t rfl
  | none => exact obeys_now (new rfl)

theorem obeys_setBackupCondition {k : CubridBackup → BackupM Unit}
    (next : ∀ t, BackupObeys (part.note (.time t)) (k (s.withCondition type status reason msg t))) :
    BackupObeys part (setBackupCondition s type status reason msg >>= k) := obeys_now next

end Conditions

section Commits

variable {part : BackupPart} {v : Nat} {b s : CubridBackup} {reason msg : String}

theorem obeys_commit (goes : part.base = some (v, b)) (move : Move b s part.seen)
    (decided : Decided b s part.seen) : BackupObeys part (commit v s) := by
  refine obeys_write goes ⟨move.live, move.draft, move.missed, move.completed, move.failed⟩
    (fun v' => ?_) ?_
  · exact .inr
      (.inr (.inr (.inr (.inr ⟨b, _, mem_cons_self, decided.mono (subset_cons_self _ _)⟩))))
  · exact .inr (.inr (.inr (.inr (.inl mem_cons_self))))

theorem Working.move (w : Working part v b s) : Move b s part.seen where
  live := w.live
  draft := w.draft
  missed := w.missed
  completed is := absurd is (isTerminal_eq_false.mp w.phase).1
  failed is := absurd is (isTerminal_eq_false.mp w.phase).2

theorem obeys_holdUnready (w : Working part v b s) (excused : Excused b s.core part.seen) :
    BackupObeys part (holdUnready v s reason msg) := by
  refine obeys_setBackupCondition fun t => ?_
  have w := (w.note (.time t) (by simp)).copy
    (r := s.withCondition .ready .conditionFalse reason msg t) rfl w.phase
  exact obeys_commit w.base w.move (.inr (excused.mono (note_subset _ _)))

theorem obeys_failing (w : Working part v b s) (fits : ReasonFits s.core (some reason) part.seen)
    (t : Int) : BackupObeys part (holdUnready v (s.failedAt t) reason msg) := by
  refine obeys_setBackupCondition fun t' => ?_
  have w := w.note (.time t') (by simp)
  refine obeys_commit w.base ⟨w.live, w.draft, w.missed, fun is => (by cases is),
    fun _ => ?_⟩ (.inl rfl)
  rw [withCondition_readyReason]
  exact ⟨fun lost => let ⟨since, t, is, told, expired⟩ := fits.lost lost; ⟨since, t, is,
    mem_cons_of_mem _ told, expired⟩, fun none => mem_cons_of_mem _ (fits.unstarted none)⟩

theorem ReasonFits.mono {s : BackupCore} {reason : Option String} {seen seen' : List BackupEntry}
    (fits : ReasonFits s reason seen) (more : seen ⊆ seen') : ReasonFits s reason seen' where
  lost is := let ⟨since, t, is, told, expired⟩ := fits.lost is; ⟨since, t, is, more told, expired⟩
  unstarted is := more (fits.unstarted is)

theorem ReasonFits.other {s : BackupCore} {reason : String} {seen : List BackupEntry}
    (other : reason ∉ [reasonRecordedOperationLost, reasonRecordedTargetNotStarted,
      reasonRequestRefused]) :
    ReasonFits s (some reason) seen where
  lost is := by simp_all
  unstarted is := by simp_all

theorem obeys_ended (w : Working part v b s) (fits : ReasonFits s.core (some reason) part.seen) :
    BackupObeys part (ended v s reason msg) :=
  obeys_now fun t => obeys_failing (w.note (.time t) (by simp)) (fits.mono (note_subset _ _)) t

theorem obeys_rejected (w : Working part v b s) (fits : ReasonFits s.core (some reason) part.seen) :
    BackupObeys part (rejected v s reason msg) :=
  obeys_setBackupCondition fun t =>
    obeys_ended ((w.note (.time t) (by simp)).copy rfl w.phase) (fits.mono (note_subset _ _))

theorem obeys_clusterMissing (w : Working part v b s)
    (kept : s.core.clusterUID = b.core.clusterUID) : BackupObeys part (clusterMissing v s) := by
  unfold clusterMissing
  dsimp only
  split_ifs with recorded
  · exact obeys_ended w (.other (by decide))
  · refine obeys_now fun t => ?_
    have w := w.note (.time t) (by simp)
    split_ifs with expired
    · exact obeys_rejected w (.other (by decide))
    · refine obeys_setBackupCondition fun t' => ?_
      have unrecorded : b.core.clusterUID = "" := kept ▸ not_not.mp recorded
      exact obeys_holdUnready ((w.note (.time t') (by simp)).copy rfl (pending_phase w.phase))
        (.inl (.inr (.inl unrecorded)))

end Commits

section Polls

variable {part : BackupPart} {v : Nat} {b s : CubridBackup} {reason msg : String} {id : OperationID}
  {op : Operation}

theorem Asking.polled {o : Operation} (w : Asking part v b s) (followed : s.core.op = some id) :
    Working (part.note (.polled s.core.target id o)) v b s.read := by
  have noted := w.note (.polled s.core.target id o) (by simp)
  refine ⟨noted.base, noted.live, noted.phase, ?_, fun ⟨m, id', told⟩ => absurd told
    (noted.unmissed m id')⟩
  refine { noted.draft with
    missingSet := fun t is => (by cases is), missingCleared := fun _ _ => ?_ }
  exact ⟨id, o, followed, mem_cons_self⟩

theorem obeys_completed (w : Working part v b s) (followed : s.core.op = some id)
    (polled : .polled s.core.target id op ∈ part.seen) (state : op.state = .completed)
    (excused : Excused b s.core part.seen) : BackupObeys part (completed v s op) := by
  refine obeys_now fun t => obeys_setBackupCondition fun t' => ?_
  have w := (w.note (.time t) (by simp)).note (.time t') (by simp)
  have more : part.seen ⊆ ((part.note (.time t)).note (.time t')).seen :=
    List.Subset.trans (note_subset _ _) (note_subset _ _)
  refine obeys_commit w.base
    ⟨w.live, w.draft, w.missed, fun _ => ⟨id, op, followed, more polled, state⟩, fun is => ?_⟩
    (.inr (excused.mono more))
  cases is

theorem obeys_waitForRecord {since : Int} (w : Working part v b (s.missedSince since))
    (excused : Excused b s.core part.seen) : BackupObeys part (waitForRecord v s id since) := by
  refine obeys_now fun t => ?_
  have w := w.note (.time t) (by simp)
  split_ifs with expired
  · exact obeys_ended w ⟨fun _ => ⟨since, t, rfl, mem_cons_self, expired⟩,
      fun is => absurd is (by decide)⟩
  · exact obeys_holdUnready w (excused.mono (note_subset _ _))

theorem obeys_operationMissing (w : Asking part v b s) (followed : s.core.op = some id)
    (excused : Excused b s.core part.seen) :
    BackupObeys (part.note (.missing s.core.target id)) (operationMissing v s id) := by
  have old := w.draft.mono (note_subset part (.missing s.core.target id))
  refine obeys_firstTime (fun since is => ?_) fun is t => ?_
  · have kept : b.core.missing = some since := w.kept.symm.trans is
    refine obeys_waitForRecord ⟨w.base, w.live, w.phase, ?_, fun _ => some_ne_none _⟩
      (excused.mono (note_subset _ _))
    exact { old with
      missingSet := fun t same => .inl (kept.trans same), missingCleared := fun none =>
        (by cases none) }
  · have unset : b.core.missing = none := w.kept.symm.trans is
    have old := old.mono (note_subset _ (.time t))
    refine obeys_waitForRecord ⟨w.base, w.live, w.phase, ?_, fun _ => some_ne_none _⟩
      (excused.mono (List.Subset.trans (note_subset _ _) (note_subset _ _)))
    refine { old with
      missingSet := fun t' same => ?_, missingCleared := fun none => (by cases none) }
    cases same
    exact .inr ⟨unset, mem_cons_self, id, followed, mem_cons_of_mem _ mem_cons_self⟩

theorem obeys_pollBackup (w : Asking part v b s) (followed : s.core.op = some id)
    (excused : Excused b s.core part.seen) : BackupObeys part (pollBackup v s id) := by
  refine obeys_get w.base trivial (fun op => ?_) ?_ fun e => ?_
  · have polled := w.polled (o := op) followed
    have excused : Excused b s.read.core (part.note (.polled s.core.target id op)).seen :=
      excused.mono (note_subset _ _)
    dsimp only
    split
    · rename_i state
      exact obeys_completed polled followed mem_cons_self state excused
    · exact obeys_now fun t => obeys_failing (polled.note (.time t) (by simp))
        (.other (by decide)) t
    · exact obeys_holdUnready (s := { s.read with status.phase := some .uploading })
        (polled.copy rfl rfl) excused
    · exact obeys_holdUnready (s := { s.read with status.phase := some .running })
        (polled.copy rfl rfl) excused
  · exact obeys_operationMissing w followed excused
  · exact obeys_holdUnready (w.toWorking.note .callFailed (by simp))
      (excused.mono (note_subset _ _))

theorem Waiting.following (w : Waiting part v b s) (own : OwnOperation b.core id part.seen)
    (t : Int) : Asking part v b (s.following id t) where
  base := w.base
  live := w.live
  phase := rfl
  draft := { w.draft with
    op := fun id' old => by simp [w.unfollowed] at old
    newOp := fun _ id' is => by cases is; exact ⟨w.named, own⟩
    missingSet := fun t is => .inl (w.kept.symm.trans is)
    missingCleared := fun is old => absurd (w.kept.symm.trans is) old }
  missed := w.missed
  unmissed := w.unmissed
  kept := w.kept

theorem obeys_adoptBackup (w : Waiting part v b s)
    (found : .found b.core.target .backup b.core.key op ∈ part.seen) :
    BackupObeys part (adoptBackup v s op) := by
  refine obeys_now fun t => obeys_query fun created => ?_
  have found := note_subset _ (.told (.createdAt op.id) created) (note_subset part (.time t) found)
  have w := (w.note (.time t) (by simp)).note (.told (.createdAt op.id) created) (by simp)
  exact obeys_pollBackup (w.following (.inr ⟨op, found, rfl⟩) _) rfl (.inr ⟨op, rfl, found⟩)

end Polls

section RecordedTarget

variable {part : BackupPart} {v : Nat} {b s : CubridBackup} {reason msg : String}

theorem obeys_recordedTargetWaitExpired (w : Waiting part v b s)
    {k : CubridBackup × Bool → BackupM Unit}
    (expired : ∀ part r, Waiting part v b r → BackupObeys part (k (r, true)))
    (running : ∀ next r, Waiting next v b r → Timely b next.seen → part.seen ⊆ next.seen →
      (∀ m kind key, .holdsNone m kind key ∈ next.seen → .holdsNone m kind key ∈ part.seen) →
      BackupObeys next (k (r, false))) : BackupObeys part (recordedTargetWaitExpired s >>= k) := by
  have judged : ∀ (next : BackupPart) (recordedAt : Int), part.seen ⊆ next.seen →
      (∀ m kind key, .holdsNone m kind key ∈ next.seen → .holdsNone m kind key ∈ part.seen) →
      Waiting next v b (s.recordedFrom recordedAt) →
      BackupObeys next (now >>= fun t =>
        k (s.recordedFrom recordedAt, decide (t - recordedAt > backupTargetWait))) := by
    intro next recordedAt more unheld w
    refine obeys_now fun t => ?_
    have w := w.note (.time t) (by simp)
    by_cases late : t - recordedAt > backupTargetWait
    · rw [decide_eq_true late]
      exact expired _ _ w
    · rw [decide_eq_false late]
      refine running _ _ w ?_ (List.Subset.trans more (note_subset _ _)) fun m kind key told => ?_
      · cases is : b.core.recordedAt with
        | none => exact .inl is
        | some r =>
          have same : some recordedAt = some r := (w.draft.target w.named).2.2 r is
          cases same
          exact .inr (.inl ⟨recordedAt, t, is, mem_cons_self, by omega⟩)
      · exact unheld m kind key (by simpa [OperatorPart.note] using told)
  have kept : ∀ next recordedAt, Waiting next v b s →
      (∀ t, b.core.recordedAt = some t → recordedAt = t) →
      Waiting next v b (s.recordedFrom recordedAt) := fun next recordedAt w same =>
    { base := w.base, live := w.live, phase := w.phase, missed := w.missed, unmissed := w.unmissed,
      kept := w.kept
      unfollowed := w.unfollowed, named := w.named
      draft := { w.draft with
        target := fun named => ⟨(w.draft.target named).1, (w.draft.target named).2.1,
          fun t is => congrArg some (same t is)⟩
        newTarget := fun unnamed => absurd unnamed w.named } }
  rw [recordedTargetWaitExpired, bind_bind]
  refine obeys_firstTime (fun recordedAt is => ?_) fun is recordedAt => ?_
  · refine judged _ recordedAt (Subset.refl _) (fun _ _ _ => id) (kept _ _ w fun t recorded => ?_)
    exact Option.some.inj (is.symm.trans ((w.draft.target w.named).2.2 t recorded))
  · refine judged _ recordedAt (note_subset _ _)
      (fun m kind key told => by simpa [OperatorPart.note] using told)
      (kept _ _ (w.note _ (by simp)) fun t recorded => ?_)
    have stored := (w.draft.target w.named).2.2 t recorded
    simp [CubridBackup.core, is] at stored

theorem obeys_waitOnRecordedTarget (w : Working part v b s) (excused : Excused b s.core part.seen) :
    BackupObeys part (waitOnRecordedTarget v s reason msg) := obeys_holdUnready w excused

theorem Waiting.found (w : Waiting part v b s) (op : Operation) :
    .found b.core.target .backup b.core.key op ∈
      (part.note (.found s.core.target .backup s.core.key op)).seen := by
  rw [w.target, w.draft.key]
  exact mem_cons_self

theorem obeys_endRecordedTargetWait (w : Waiting part v b s) :
    BackupObeys part (endRecordedTargetWait v s) := by
  refine obeys_find (fun op => ?_) ?_ fun e => ?_
  · exact obeys_adoptBackup (w.note _ (by simp)) (w.found op)
  · exact obeys_ended (w.note _ (by simp)).toWorking
      ⟨fun is => absurd is (by decide), fun _ => mem_cons_self⟩
  · exact obeys_ended (w.note _ (by simp)).toWorking (.other (by decide))

theorem obeys_holdRecordedTarget (w : Waiting part v b s) :
    BackupObeys part (holdRecordedTarget v s reason msg) := by
  refine obeys_recordedTargetWaitExpired w (fun _ _ w => obeys_endRecordedTargetWait w)
    fun part s w timely _ _ => ?_
  have excused : ∀ e : BackupEntry, Excused b s.core (part.note e).seen := fun e =>
    .inl (.inr (.inr (.inr (timely.mono (note_subset _ _)))))
  refine obeys_find (fun op => ?_) ?_ fun e => ?_
  · exact obeys_adoptBackup (w.note _ (by simp)) (w.found op)
  · exact obeys_waitOnRecordedTarget (w.note _ (by simp)).toWorking (excused _)
  · exact obeys_waitOnRecordedTarget (w.note _ (by simp)).toWorking (excused _)

end RecordedTarget

section Starting

variable {part : BackupPart} {v : Nat} {b s : CubridBackup} {reason msg : String}
  {cluster : BackedCluster} {sel : TargetSelection} {storage : CubridObjectStorage}

theorem obeys_startRefused (w : Waiting part v b s) (timely : Timely b part.seen) (e : CallError) :
    BackupObeys part (startRefused v s e) := by
  have excused : ∀ next : BackupPart, part.seen ⊆ next.seen → Excused b s.core next.seen :=
    fun next more =>
    .inl (.inr (.inr (.inr (timely.mono more))))
  unfold startRefused
  split_ifs
  · exact obeys_holdRecordedTarget w
  · refine obeys_find (fun op => ?_) ?_ fun e => ?_
    · exact obeys_adoptBackup (w.note _ (by simp)) (w.found op)
    · exact obeys_ended (w.note _ (by simp)).toWorking
        ⟨fun is => absurd is (by decide), fun _ => mem_cons_self⟩
    · exact obeys_waitOnRecordedTarget (w.note _ (by simp)).toWorking (excused _ (note_subset _ _))
  · exact obeys_waitOnRecordedTarget w.toWorking (excused _ (Subset.refl _))

theorem obeys_dispatch (w : Waiting part v b s)
    (unheld : ∀ m kind key, .holdsNone m kind key ∉ part.seen) (timely : Timely b part.seen)
    (target : sel.instanceName = b.core.target) : BackupObeys part (dispatch v s cluster sel) := by
  have key : (startRequest s cluster sel).key = b.core.key := w.draft.key
  refine obeys_start w.base
    ⟨w.live, target.symm, target ▸ w.named, w.unfollowed, rfl, key, unheld, timely⟩
      (fun op => ?_) fun e => ?_
  · refine obeys_now fun t => ?_
    have w := ((w.note (.sent sel.instanceName (startRequest s cluster sel)) (by simp)).note
      (.answered sel.instanceName (startRequest s cluster sel) op) (by simp)).note
        (.time t) (by simp)
    refine obeys_holdUnready
      (w.following (.inl ⟨startRequest s cluster sel, op, ?_, rfl, key, rfl⟩) t).toWorking ?_
    · rw [← target]
      exact mem_cons_of_mem _ mem_cons_self
    · refine .inl (.inr (.inr (.inr (timely.mono ?_))))
      exact List.Subset.trans (note_subset _ _)
        (List.Subset.trans (note_subset _ _) (note_subset _ _))
  · refine obeys_startRefused ((w.note _ (by simp)).note _ (by simp)) (timely.mono ?_) e
    exact List.Subset.trans (note_subset _ _) (note_subset _ _)

structure Unrecorded (part : BackupPart) (v : Nat) (b s : CubridBackup) :
    Prop extends Asking part v b s where
  target : b.core.target = ""
  op : s.core.op = none
  unheld : ∀ m kind key, .holdsNone m kind key ∉ part.seen

section

variable (w : Unrecorded part v b s)
include w

theorem Unrecorded.note (e : BackupEntry) (other : ∀ m id, e ≠ .missing m id)
    (other' : ∀ m kind key, e ≠ .holdsNone m kind key) : Unrecorded (part.note e) v b s where
  toAsking := w.toAsking.note e other
  target := w.target
  op := w.op
  unheld m kind key told := w.unheld m kind key
    ((mem_cons.mp told).resolve_left fun same => other' m kind key same.symm)

theorem Unrecorded.copy {r : CubridBackup} (core : r.core = s.core) (phase : r.isTerminal = false) :
    Unrecorded part v b r :=
  { w with toAsking := w.toAsking.copy core phase, op := core ▸ w.op }

theorem Unrecorded.excused : Excused b s.core part.seen := .inl (.inl w.target)

theorem obeys_recordTarget (named : sel.instanceName ≠ "") :
    BackupObeys part (recordTarget v s cluster sel) := by
  refine obeys_now fun t => obeys_setBackupCondition fun t' => ?_
  have w := (w.note (.time t) (by simp) (by simp)).note (.time t') (by simp) (by simp)
  have unfollowed : b.core.op = none := by
    cases is : b.core.op with
    | none => rfl
    | some id => exact absurd (w.draft.op id is) (by simp [w.op])
  have phase := pending_phase w.phase
  refine obeys_write w.base ⟨w.live, ?_, w.missed, fun is => ?_, fun is => ?_⟩ (fun v' => ?_) ?_
  · exact { w.draft with
      target := fun named => absurd w.target named
      newTarget := fun _ _ => ⟨cluster.identified, t, mem_cons_of_mem _ mem_cons_self, rfl⟩
      missingSet := fun t is => .inl (w.kept.symm.trans is)
      missingCleared := fun is old => absurd (w.kept.symm.trans is) old }
  · exact absurd is (isTerminal_eq_false.mp phase).1
  · exact absurd is (isTerminal_eq_false.mp phase).2
  · -- From here on the reconcile goes by the status it stored.
    refine obeys_dispatch
      ⟨⟨⟨rfl, phase, phase, .refl _ _, fun ⟨m, id, told⟩ => ?_⟩, fun m id told => ?_, rfl⟩,
        w.op, named⟩
      (fun m kind key told => ?_) (.inr (.inr ⟨b, mem_cons_self, w.target⟩)) rfl
    · exact absurd (by simpa using told) (w.unmissed m id)
    · exact w.unmissed m id (by simpa using told)
    · exact w.unheld m kind key (by simpa using told)
  · exact .inr (.inr (.inr (.inr (.inl mem_cons_self))))

theorem obeys_waitForObjectStorage : BackupObeys part (waitForObjectStorage v s msg) := by
  have goes : ∀ (next : BackupPart) (since : Int), Unrecorded next v b s →
      BackupObeys next (now >>= fun t =>
        if t - since > backupTargetWait then
          ended v { s with status.objectStorageNotAppliedSince := some since }
            reasonObjectStorageWaitExpired (msg ++
            "; no selected Pod ran with the cluster's spec.objectStorage within " ++
            backupTargetWaitText ++ ", " ++ "nothing was started, and the backup is not continued")
        else
          holdUnready v { s with status.objectStorageNotAppliedSince := some since }.pending
            reasonObjectStorageNotApplied
            (msg ++ "; waiting for at most " ++ backupTargetWaitText ++
              " from the first time this was found")) := by
    intro next since w
    refine obeys_now fun t => ?_
    have w := w.note (.time t) (by simp) (by simp)
    split_ifs
    · exact obeys_ended (w.toWorking.copy rfl w.phase) (.other (by decide))
    · exact obeys_holdUnready (w.toWorking.copy rfl (pending_phase w.phase)) w.excused
  exact obeys_firstTime (fun since _ => goes _ since w) fun _ since =>
    goes _ since (w.note _ (by simp) (by simp))

theorem obeys_startSelected (named : sel.instanceName ≠ "") :
    BackupObeys part (startSelected v s cluster storage sel) := by
  refine obeys_query fun pod => ?_
  have w := w.note (.told (.pod sel.instanceName) pod) (by simp) (by simp)
  match pod with
  | .failed => exact .inr (.inr (.inr (.inl ⟨sel.instanceName, mem_cons_self⟩)))
  | .notFound => exact obeys_waitForObjectStorage w
  | .found containers =>
    dsimp only
    split_ifs
    · exact obeys_recordTarget w named
    · exact obeys_waitForObjectStorage w

theorem obeys_selectTarget {members : List String} {obs : Observations} {observedAt : Int}
    {res : PrimaryResolution} (members_named : ∀ m ∈ members, m ≠ "") :
    BackupObeys part (selectTarget v s cluster storage members obs observedAt res) := by
  refine obeys_now fun t => obeys_query fun positions => obeys_now fun started => ?_
  have w :=
    ((w.note (.time t) (by simp) (by simp)).note
      (.told (.positions cluster.uid) positions) (by simp)
    (by simp)).note (.time started) (by simp) (by simp)
  have member := @selectBackupTarget_member members obs (replicationHistory cluster.instances)
    (Positions.readings positions observedAt) res observedAt s.spec.preference
    (decide (cluster.promotableMembers ≤ 1))
      (s.status.primaryLogEndNotReadSince.any fun s => t - s ≥ primaryLogEndWait)
  dsimp only
  generalize selectBackupTarget members obs _ _ res _ _ _ observedAt = sel at member ⊢
  by_cases selected : sel.selected = true
  · rw [if_pos selected]
    exact obeys_startSelected (w.copy rfl w.phase) ((member selected).elim (members_named _) id)
  · rw [if_neg selected]
    exact obeys_holdUnready (w.toWorking.copy rfl w.phase) w.excused

end

theorem obeys_startRecorded {members : List String} {obs : Observations} {observedAt : Int}
    {res : PrimaryResolution} (w : Waiting part v b s)
    (unheld : ∀ m kind key, .holdsNone m kind key ∉ part.seen) :
    BackupObeys part (startRecorded v s cluster members obs observedAt res) := by
  refine obeys_recordedTargetWaitExpired w (fun _ _ w => obeys_endRecordedTargetWait w)
    fun next r w' timely _ still => ?_
  simp only [Bool.false_eq_true, if_false]
  split_ifs
  · exact obeys_holdRecordedTarget w'
  · exact obeys_dispatch w' (fun m kind key told => unheld m kind key (still m kind key told))
      timely w.target

theorem obeys_startBackup (w : Asking part v b s) (op : s.core.op = none)
    (kept : s.core.target = b.core.target) (unfollowed : b.core.op = none)
    (unheld : ∀ m kind key, .holdsNone m kind key ∉ part.seen) :
    BackupObeys part (startBackup v s cluster storage) := by
  refine obeys_query fun answers => obeys_now fun observedAt => ?_
  have w :=
    (w.note (.told (.probe (memberNames cluster.name cluster.promotableMembers)) answers)
      (by simp)).note
    (.time observedAt) (by simp)
  have unheld : ∀ m kind key, .holdsNone m kind key ∉ ((part.note
      (.told (.probe (memberNames cluster.name cluster.promotableMembers)) answers)).note
        (.time observedAt)).seen :=
    fun m kind key told => unheld m kind key (by simpa [OperatorPart.note] using told)
  dsimp only
  split_ifs with recorded
  · exact obeys_startRecorded ⟨w, unfollowed, kept ▸ recorded⟩ unheld
  · exact obeys_selectTarget ⟨w, kept ▸ not_not.mp recorded, op, unheld⟩ fun m =>
      memberNames_ne_empty

end Starting

section Reconcile

variable {part : BackupPart} {v : Nat} {b s : CubridBackup} {cluster : BackedCluster}

theorem obeys_withoutObjectStorage (w : Asking part v b s) (kept : s.core.target = b.core.target)
    (unfollowed : b.core.op = none) : BackupObeys part (withoutObjectStorage v s cluster) := by
  unfold withoutObjectStorage
  dsimp only
  split_ifs with recorded
  · exact obeys_holdRecordedTarget ⟨w, unfollowed, kept ▸ recorded⟩
  · exact obeys_holdUnready (w.toWorking.copy rfl (pending_phase w.phase))
      (.inl (.inl (kept ▸ not_not.mp recorded)))

theorem obeys_reconcileAccepted (w : Asking part v b b) (read : .read b ∈ part.seen)
    (unheld : ∀ m kind key, .holdsNone m kind key ∉ part.seen) :
    BackupObeys part (reconcileAccepted v b cluster) := by
  refine obeys_setBackupCondition fun t => ?_
  have w := (w.note (.time t) (by simp)).copy
    (r := b.withCondition .accepted .conditionTrue "BackupAccepted"
    "spec is valid and the referenced cluster exists" t) rfl w.phase
  have unheld : ∀ m kind key, .holdsNone m kind key ∉ (part.note (.time t)).seen :=
    fun m kind key told => unheld m kind key (by simpa [OperatorPart.note] using told)
  split
  · rename_i id followed
    refine obeys_pollBackup w followed (.inl (.inr (.inr (.inl ⟨?_, mem_cons_of_mem _ read⟩))))
    exact fun none => by
      simp [CubridBackup.core, show b.status.operationRef = some id from followed] at none
  · rename_i unfollowed _
    exact obeys_withoutObjectStorage w rfl unfollowed
  · rename_i unfollowed _
    exact obeys_startBackup w unfollowed rfl unfollowed unheld

theorem obeys_reconcileOn (w : Asking part v b b) (read : .read b ∈ part.seen)
    (unheld : ∀ m kind key, .holdsNone m kind key ∉ part.seen) :
    BackupObeys part (reconcileOn v b cluster) := by
  unfold reconcileOn
  split_ifs
  · exact obeys_ended w.toWorking (.other (by decide))
  · split
    · exact obeys_rejected w.toWorking (.other (by decide))
    · exact obeys_reconcileAccepted w read unheld
  · exact obeys_reconcileAccepted w read unheld

theorem validateBackupSpec_reason {backup : CubridBackup} {reason msg : String}
    (refused : validateBackupSpec backup = some (reason, msg)) :
    reason ∉ [reasonRecordedOperationLost, reasonRecordedTargetNotStarted,
      reasonRequestRefused] := by
  unfold validateBackupSpec at refused
  split_ifs at refused <;> cases refused <;> decide

/-- Every reconcile of a backup keeps to the rules. -/
theorem backup_keeps : backupModel.Keeps backupRules Finished := by
  refine ⟨fun began => ?_, fun _ _ => trivial, fun _ _ _ => trivial⟩
  refine obeys_read rfl (fun v b => ?_) (.inl mem_cons_self)
  dsimp only
  split_ifs with terminal
  · exact .inr (.inl ⟨b, mem_cons_self, terminal⟩)
  · have live : b.isTerminal = false := by simpa using terminal
    have w : Asking { base := some (v, b), seen := [.read b, .began began] } v b b :=
      ⟨⟨rfl, live, live, .refl _ _, fun ⟨m, id, told⟩ => by simp at told⟩, by simp, rfl⟩
    split
    · rename_i reason msg refused
      exact obeys_rejected w.toWorking (.other (validateBackupSpec_reason refused))
    · refine obeys_query fun found => ?_
      have w := w.note (.told (.cluster b.spec.clusterRef) found) (by simp)
      match found with
      | .failed => exact .inr (.inr (.inl ⟨b.spec.clusterRef, mem_cons_self⟩))
      | .notFound => exact obeys_clusterMissing w.toWorking rfl
      | .found cluster =>
        exact obeys_reconcileOn w (mem_cons_of_mem _ mem_cons_self) (by simp [OperatorPart.note])

end Reconcile
end Controller
