import CubridOperator.Controller.SlaveSeries
import CubridOperator.Foundation.Stretches

/-!
The date of a stall over a whole series of readings of one slave.
-/
namespace Controller
open Foundation Function List Option

variable {ρ : Type}

def keptReading (o : ReplicationObservation) (now : Int) : ApplierReading :=
  { source := o.source, applier := o.applier, finalLSA := o.finalLSA, copiedEOF := o.copiedEOF,
    delayedPages := o.delayedPages, readAt := now }

def RolePass.applierReading (m : String) (pass : RolePass ρ) : Option ApplierReading :=
  (pass.reading m).map (keptReading · pass.now)

def readingsOf (m : String) (passes : List (RolePass ρ)) : List ApplierReading :=
  passes.filterMap (RolePass.applierReading m)

def copyGrew (before after : ApplierReading) : Bool :=
  match before.copiedEOF, after.copiedEOF with
  | some before, some after => logBefore before after
  | _, _ => false

def pagesWait (r : ApplierReading) : Bool := r.delayedPages > 0

def comparedReadings (readings : List ApplierReading) : List ApplierReading :=
  spaced (fun kept r => tooClose kept.readAt r.readAt) readings

def stallStart (compared : List ApplierReading) : Option ApplierReading :=
  lastingFrom ApplierReading.finalLSA pagesWait copyGrew compared

/-- Readings of a series: all of one source and one applier process, with the
    position and the end of the copy. -/
structure InSeries (source applier : String) (r : ApplierReading) : Prop where
  source : r.source = source
  applier : r.applier = applier ∨ r.applier = ""
  position : r.finalLSA.isSome = true
  copy : r.copiedEOF.isSome = true

section Rule

variable {source applier : String} {prev : InstanceReplication} {kept : ApplierReading}
  {o : ReplicationObservation} {now : Int}

theorem sameApplier_of_inSeries {a b : String} (first : a = applier ∨ a = "")
    (second : b = applier ∨ b = "") : sameApplier a b = true := by
  rcases first with rfl | rfl <;> rcases second with rfl | rfl <;> simp [sameApplier]

def judgedStall (kept r : ApplierReading) (reported : Option Int) : Option Int :=
  if r.finalLSA = kept.finalLSA ∧ pagesWait r then
    reported.or (if pagesWait kept && copyGrew kept r then some r.readAt else none)
  else none

theorem positionStall_compared {posFinal posCopied finalLSA copiedEOF : LogAddress}
    {reported : Option Int} (before : InSeries source applier kept)
    (reads : InSeries source applier (keptReading o now))
    (keptFinal : kept.finalLSA = some posFinal) (keptCopied : kept.copiedEOF = some posCopied)
    (final : o.finalLSA = some finalLSA) (copied : o.copiedEOF = some copiedEOF)
    (apart : tooClose kept.readAt now = false) :
    positionStall reported kept finalLSA copiedEOF posFinal posCopied o now =
      judgedStall kept (keptReading o now) reported := by
  have source : kept.source = o.source := before.source.trans reads.source.symm
  have same : sameApplier kept.applier o.applier = true :=
    sameApplier_of_inSeries before.applier reads.applier
  unfold positionStall judgedStall
  simp only [apart, Bool.false_eq_true, if_false, source, ne_eq, not_true_eq_false, false_or, same,
    Bool.not_true, keptReading, final, keptFinal, some.injEq, pagesWait, copyGrew, keptCopied,
    copied, decide_eq_true_eq]
  by_cases moved : posFinal = finalLSA
  · by_cases none : o.delayedPages = 0
    · simp [none]
    · have waits : o.delayedPages > 0 := by omega
      cases reported <;> simp [moved, none, waits]
  · simp [moved, Ne.symm moved]

theorem nextReplication_first {r : InstanceReplication}
    (reads : InSeries source applier (keptReading o now))
    (is : nextReplication none (some o) none now = some r) : r.stalledSince = none := by
  have since : r.stalledSince = _ := congrArg InstanceReplication.stalledSince (some.inj is).symm
  obtain ⟨final, hasFinal⟩ := isSome_iff_exists.mp reads.position
  obtain ⟨copied, hasCopied⟩ := isSome_iff_exists.mp reads.copy
  rw [since]
  simp only [keptReading] at hasFinal hasCopied
  simp [hasFinal, hasCopied, usableHistory, continued]

theorem nextReplication_later {r : InstanceReplication}
    (reads : InSeries source applier (keptReading o now)) (before : InSeries source applier kept)
    (usable : usableHistory (some prev) now = some prev) (same : prev.source = source)
    (is : nextReplication (some prev) (some o) (some kept) now = some r) :
    r.stalledSince =
      if tooClose kept.readAt now then prev.stalledSince
      else judgedStall kept (keptReading o now) prev.stalledSince := by
  have since : r.stalledSince = _ := congrArg InstanceReplication.stalledSince (some.inj is).symm
  obtain ⟨final, hasFinal⟩ := isSome_iff_exists.mp reads.position
  obtain ⟨copied, hasCopied⟩ := isSome_iff_exists.mp reads.copy
  obtain ⟨keptFinal, isFinal⟩ := isSome_iff_exists.mp before.position
  obtain ⟨keptCopied, isCopied⟩ := isSome_iff_exists.mp before.copy
  have source : prev.source = o.source := same.trans reads.source.symm
  simp only [keptReading] at hasFinal hasCopied
  rw [since]
  simp only [hasFinal, hasCopied, isFinal, isCopied, usable, filter_some, source,
    decide_true, if_true, bind_some]
  cases close : tooClose kept.readAt now with
  | true => simp [positionStall, close]
  | false =>
    rw [positionStall_compared before reads isFinal isCopied hasFinal hasCopied close]
    rfl

end Rule

section Kept

theorem tooClose_iff {before now : Int} :
    tooClose before now = true ↔ 0 ≤ now - before ∧ now - before < seconds 5 :=
  decide_eq_true_iff

variable {pass : RolePass ρ} {m : String} {o : ReplicationObservation} {before : Positions}

theorem readingPositions_read (read : pass.reading m = some o) :
    readingPositions pass.members pass.obs before pass.now m =
      if (before m).all (fun kept => !tooClose kept.readAt pass.now) then
        some (keptReading o pass.now)
      else before m := by
  obtain ⟨⟨member, counts, slave⟩, raw, has, rfl⟩ := RolePass.reading_some read
  have same : keptReading (withSourceLogEnd raw pass.obs pass.now) pass.now =
      keptReading raw pass.now := by
    unfold withSourceLogEnd
    split <;> rfl
  rw [same]
  simp [readingPositions, member, counts, slave, has, keptReading]

theorem readings_eq {positions : Positions} {now : Int} {kept : ApplierReading}
    (is : positions m = some kept) (young : now - kept.readAt ≤ seconds 120)
    (past : kept.readAt ≤ now) : positions.readings now m = some kept := by
  have inside : now - kept.readAt ≤ replicationHistoryTTL ∧
      now - kept.readAt ≥ -roleObservationTTL := by
    simp only [replicationHistoryTTL, replicationStallWindow, roleObservationTTL,
      seconds] at young ⊢
    omega
  rw [Positions.readings, is]
  exact filter_eq_some_iff.mpr ⟨rfl, decide_eq_true inside⟩

theorem usableHistory_eq {prev : InstanceReplication} {now t : Int}
    (taken : prev.observedAt = some t) (young : now - t ≤ seconds 150) (past : t ≤ now) :
    usableHistory (some prev) now = some prev := by
  have inside : now - t ≤ replicationHistoryTTL + observationWriteInterval ∧
      now - t ≥ -roleObservationTTL := by
    simp only [replicationHistoryTTL, replicationStallWindow, observationWriteInterval,
      roleObservationTTL, seconds] at young ⊢
    omega
  refine filter_eq_some_iff.mpr ⟨rfl, ?_⟩
  rw [taken]
  exact decide_eq_true inside

end Kept

namespace Reconciler

section Series

/-- An event of a series: no restart, and each stored status rests on a reading
    after the last one and within 115 seconds of it. -/
def FollowsSlave (m source applier : String) (rec : Reconciler ρ) : ReconcileEvent ρ → Prop
  | .pass inputs answers _ write =>
    write = .rejected ∨
      write = .written ∧ inputs.ctx.now ≤ inputs.writtenAt ∧
        (∃ r, (rolePass rec.stored inputs answers rec.positions).applierReading m = some r ∧
          InSeries source applier r) ∧
        ∀ last, rec.passes.head? = some last →
          last.now < inputs.ctx.now ∧ inputs.ctx.now - last.now ≤ seconds 115
  | .restart => False
  | _ => True

structure SeriesState (m source applier : String) (rec : Reconciler ρ) : Prop where
  whole : WholeDates rec m
  unread : rec.passes = [] → rec.replicationOf m = none
  read : ∀ pass ∈ rec.passes, ∃ r, pass.applierReading m = some r ∧ InSeries source applier r
  kept : rec.positions m = (comparedReadings (readingsOf m rec.passes)).head?
  close : ∀ last kept, rec.passes.head? = some last → rec.positions m = some kept →
    kept.readAt ≤ last.now ∧ last.now - kept.readAt < seconds 5
  stored : ∀ last, rec.passes.head? = some last → ∃ rep t, rec.replicationOf m = some rep ∧
    rep.source = source ∧
    rep.observedAt = some t ∧ t ≤ last.now ∧ last.now - t < seconds 30
  stalled : (rec.replicationOf m).bind (·.stalledSince) =
    (stallStart (comparedReadings (readingsOf m rec.passes))).map fun r => wholeSeconds r.readAt

variable {m source applier : String} {rec : Reconciler ρ}

theorem SeriesState.inSeries (state : SeriesState m source applier rec) {kept : ApplierReading}
    (is : rec.positions m = some kept) : InSeries source applier kept := by
  have inside := mem_of_mem_spaced _ (mem_of_mem_head? (state.kept.symm.trans is))
  obtain ⟨pass, among, has⟩ := mem_filterMap.mp inside
  obtain ⟨r, is', series⟩ := state.read pass among
  rw [has] at is'
  exact some.inj is' ▸ series

theorem SeriesState.keeps (state : SeriesState m source applier rec) {last : RolePass ρ}
    (has : rec.passes.head? = some last) : ∃ kept, rec.positions m = some kept := by
  obtain ⟨older, is⟩ := head?_eq_some_iff.mp has
  obtain ⟨r, read, -⟩ := state.read last (is ▸ mem_cons_self)
  have some := spaced_head_isSome (fun kept r => tooClose kept.readAt r.readAt) r
    (readingsOf m older)
  have readings : readingsOf m rec.passes = r :: readingsOf m older := by
    rw [is, readingsOf, filterMap_cons, read]
    rfl
  rw [state.kept, readings]
  exact isSome_iff_exists.mp some

theorem SeriesState.quiet (state : SeriesState m source applier rec) {next : Reconciler ρ}
    (replication : next.replicationOf m = rec.replicationOf m) (passes : next.passes = rec.passes)
    (positions : next.positions = rec.positions) : SeriesState m source applier next := by
  constructor
  · intro rep is
    exact state.whole rep (replication ▸ is)
  · rw [passes, replication]
    exact state.unread
  · rw [passes]
    exact state.read
  · rw [passes, positions]
    exact state.kept
  · rw [passes, positions]
    exact state.close
  · rw [passes, replication]
    exact state.stored
  · rw [passes, replication]
    exact state.stalled

theorem comparedReadings_cons {r kept : ApplierReading} {older : List ApplierReading}
    (head : (comparedReadings older).head? = some kept) :
    comparedReadings (r :: older) =
      if tooClose kept.readAt r.readAt then comparedReadings older
      else r :: comparedReadings older :=
  spaced_cons_eq _ r head

theorem stallStart_cons {r kept : ApplierReading} {compared : List ApplierReading}
    (head : compared.head? = some kept) :
    (stallStart (r :: compared)).map (fun r => wholeSeconds r.readAt) =
      (judgedStall kept r ((stallStart compared).map fun r => wholeSeconds r.readAt)).map
      wholeSeconds := by
  obtain ⟨older, rfl⟩ := head?_eq_some_iff.mp head
  simp only [stallStart, lastingFrom, judgedStall]
  split_ifs with goes starts
  · cases lastingFrom ApplierReading.finalLSA pagesWait copyGrew (kept :: older) <;> simp
  · cases lastingFrom ApplierReading.finalLSA pagesWait copyGrew (kept :: older) <;> simp
  · rfl

theorem SeriesState.fresh (state : SeriesState m source applier rec) (none : rec.passes = []) :
    rec.replicationOf m = Option.none ∧ rec.positions m = Option.none := by
  refine ⟨state.unread none, ?_⟩
  rw [state.kept, none]
  rfl

theorem SeriesState.usable (state : SeriesState m source applier rec) {last : RolePass ρ}
    (has : rec.passes.head? = some last) {now : Int} (later : last.now < now)
    (gap : now - last.now ≤ seconds 115) :
    ∃ kept prev, rec.positions m = some kept ∧ rec.positions.readings now m = some kept ∧
      kept.readAt ≤ now ∧ rec.replicationOf m = some prev ∧
      usableHistory (some prev) now = some prev ∧ prev.source = source := by
  obtain ⟨kept, is⟩ := state.keeps has
  obtain ⟨past, near⟩ := state.close last kept has is
  obtain ⟨prev, t, stored, same, taken, before, recent⟩ := state.stored last has
  simp only [seconds] at gap near recent
  refine ⟨kept, prev, is,
    readings_eq is ?_ (by omega), by omega, stored, usableHistory_eq taken ?_ (by omega), same⟩
  · simp only [seconds]
    omega
  · simp only [seconds]
    omega

theorem seriesState_start (unread : rec.replicationOf m = none) (unkept : rec.positions m = none)
    (first : rec.passes = []) : SeriesState m source applier rec := by
  constructor
  · intro rep is
    simp [unread] at is
  · exact fun _ => unread
  · simp [first]
  · rw [unkept, first]
    rfl
  · simp [first]
  · simp [first]
  · rw [unread, first]
    rfl

variable [DecidableEq ρ]

section Written

variable {inputs : PassInputs ρ} {answers : Answers} (brokers : BrokerWrite)
  {o : ReplicationObservation}

theorem written_passes : (rec.step (.pass inputs answers brokers .written)).passes =
    rolePass rec.stored inputs answers rec.positions :: rec.passes := rfl

theorem heldTime_now (stored : Option Int) (now written : Int) :
    heldTime stored (some now) written = some now ∨
      ∃ t, stored = some t ∧ heldTime stored (some now) written = some t ∧ t ≤ now ∧
        written - t < seconds 30 := by
  cases stored with
  | none => exact .inl rfl
  | some t =>
    unfold heldTime
    dsimp only
    split_ifs with later old
    · exact .inl rfl
    · exact .inl rfl
    · refine .inr ⟨t, rfl, rfl, by omega, ?_⟩
      unfold observationWriteInterval at old
      omega

theorem written_replicationOf
    (read : (rolePass rec.stored inputs answers rec.positions).reading m = some o) :
    ∃ r t, nextReplication (rec.replicationOf m) (some o) (rec.positions.readings inputs.ctx.now m)
      inputs.ctx.now =
        some r ∧ r.source = o.source ∧
      (rec.step (.pass inputs answers brokers .written)).replicationOf m =
        some (InstanceReplication.persisted { r with observedAt := some t }) ∧
      (t = inputs.ctx.now ∨ ∃ before, rec.replicationOf m = some before ∧
        before.observedAt = some t ∧ t ≤ inputs.ctx.now ∧ inputs.writtenAt - t < seconds 30) := by
  obtain ⟨r, next, source, -, time⟩ := nextReplication_some (rec.replicationOf m) o
    (rec.positions.readings inputs.ctx.now m) inputs.ctx.now
  have judged := RolePass.replication_of_reading read
  rw [rolePass_stored] at judged
  have made : (rolePass rec.stored inputs answers rec.positions).replication m = some r :=
    judged.trans next
  have stored := replicationHistory_stored (m := m) rec.stored
    (updateStatus rec.stored inputs answers rec.positions rec.since brokers).1 inputs.writtenAt
  rw [(updateStatus_keeps _ _ _ _ _ _).1, RolePass.replicationHistory_instances, made] at stored
  have own : r = { r with observedAt := some inputs.ctx.now } := by rw [← time]
  rcases stored with is | is
  · exact ⟨r, inputs.ctx.now, next, source, is.trans (by rw [map_some, ← own]), .inl rfl⟩
  · cases known : rec.replicationOf m with
    | none =>
      rw [show replicationHistory rec.stored.instances m = none from known] at is
      exact ⟨r, inputs.ctx.now, known ▸ next, source,
        is.trans (by simp [heldReplication, ← own]), .inl rfl⟩
    | some before =>
      rw [show replicationHistory rec.stored.instances m = some before from known] at is
      rcases heldTime_now before.observedAt inputs.ctx.now inputs.writtenAt with
        now | ⟨t, at_, held, past, recent⟩
      · exact ⟨r, inputs.ctx.now, known ▸ next, source,
          is.trans (by simp [heldReplication, time, now]), .inl rfl⟩
      · exact ⟨r, t, known ▸ next, source, is.trans (by simp [heldReplication, time, held]),
          .inr ⟨before, rfl, at_, past, recent⟩⟩

theorem written_positions
    (read : (rolePass rec.stored inputs answers rec.positions).reading m = some o) :
    (rec.step (.pass inputs answers brokers .written)).positions m =
      if (rec.positions.readings inputs.ctx.now m).all
      (fun kept => !tooClose kept.readAt inputs.ctx.now) then
        some (keptReading o inputs.ctx.now)
      else rec.positions.readings inputs.ctx.now m :=
  readingPositions_read read

structure Judged (m : String) (rec next : Reconciler ρ) (r : ApplierReading) : Prop where
  kept : next.positions m = (comparedReadings (r :: readingsOf m rec.passes)).head?
  close : ∀ kept, next.positions m = some kept → kept.readAt ≤ r.readAt ∧
    r.readAt - kept.readAt < seconds 5
  stalled : (next.replicationOf m).bind (·.stalledSince) =
    (stallStart (comparedReadings (r :: readingsOf m rec.passes))).map fun r =>
      wholeSeconds r.readAt

theorem SeriesState.judges_first (state : SeriesState m source applier rec) (none : rec.passes = [])
    (read : (rolePass rec.stored inputs answers rec.positions).reading m = some o)
    (series : InSeries source applier (keptReading o inputs.ctx.now)) :
    Judged m rec (rec.step (.pass inputs answers brokers .written))
      (keptReading o inputs.ctx.now) := by
  obtain ⟨unread, unkept⟩ := state.fresh none
  obtain ⟨r, t, next, -, after, -⟩ := written_replicationOf brokers read
  have old : rec.positions.readings inputs.ctx.now m = Option.none := by
    rw [Positions.readings, unkept]
    rfl
  rw [unread, old] at next
  have position := written_positions brokers read
  rw [old] at position
  constructor
  · rw [none]
    exact position
  · intro kept is
    obtain rfl := some.inj (position.symm.trans is)
    simp [keptReading, seconds]
  · have unstalled := nextReplication_first series next
    rw [none, after]
    exact congrArg (Option.map wholeSeconds) unstalled

theorem SeriesState.judges_later (state : SeriesState m source applier rec) {last : RolePass ρ}
    (has : rec.passes.head? = some last) (later : last.now < inputs.ctx.now)
    (gap : inputs.ctx.now - last.now ≤ seconds 115)
    (read : (rolePass rec.stored inputs answers rec.positions).reading m = some o)
    (series : InSeries source applier (keptReading o inputs.ctx.now)) :
    Judged m rec (rec.step (.pass inputs answers brokers .written))
      (keptReading o inputs.ctx.now) := by
  obtain ⟨kept, prev, is, young, past, stored, usable, same⟩ := state.usable has later gap
  obtain ⟨r, t, next, -, after, -⟩ := written_replicationOf brokers read
  have position := written_positions brokers read
  rw [young] at position next
  rw [stored] at next
  have head := state.kept.symm.trans is
  have judged := nextReplication_later series (state.inSeries is) usable same next
  have reported := state.stalled
  rw [stored, bind_some] at reported
  have stalls : ((rec.step (.pass inputs answers brokers .written)).replicationOf m).bind
      (·.stalledSince) =
      r.stalledSince.map wholeSeconds := by
    rw [after]
    rfl
  cases close : tooClose kept.readAt inputs.ctx.now with
  | true =>
    have compared := comparedReadings_cons (r := keptReading o inputs.ctx.now) head
    rw [show tooClose kept.readAt (keptReading o inputs.ctx.now).readAt = true from close,
      if_pos rfl] at compared
    simp only [all_some, close, Bool.not_true, Bool.false_eq_true, if_false] at position
    rw [close, if_pos rfl, reported] at judged
    constructor
    · rw [compared, head]
      exact position
    · intro kept' is'
      obtain rfl := some.inj (position.symm.trans is')
      exact ⟨past, (tooClose_iff.mp close).2⟩
    · rw [stalls, judged, compared, Option.map_map]
      simp only [comp_def, wholeSeconds_wholeSeconds]
  | false =>
    have compared := comparedReadings_cons (r := keptReading o inputs.ctx.now) head
    rw [show tooClose kept.readAt (keptReading o inputs.ctx.now).readAt = false from close,
      if_neg (by simp)] at compared
    simp only [all_some, close, Bool.not_false, if_true] at position
    rw [close, if_neg (by simp), reported] at judged
    constructor
    · rw [compared]
      exact position
    · intro kept' is'
      obtain rfl := some.inj (position.symm.trans is')
      simp [keptReading, seconds]
    · rw [stalls, judged, compared, stallStart_cons head]

theorem SeriesState.written (state : SeriesState m source applier rec)
    (follows : FollowsSlave m source applier rec (.pass inputs answers brokers .written)) :
    SeriesState m source applier (rec.step (.pass inputs answers brokers .written)) := by
  obtain rejected | ⟨-, inTime, ⟨reading, has, series⟩, gap⟩ := follows
  · cases rejected
  obtain ⟨o, read, rfl⟩ := map_eq_some_iff.mp has
  have judged : Judged m rec (rec.step (.pass inputs answers brokers .written))
      (keptReading o inputs.ctx.now) := by
    cases head : rec.passes.head? with
    | none => exact state.judges_first brokers (head?_eq_none_iff.mp head) read series
    | some last =>
      exact state.judges_later brokers head (gap last head).1 (gap last head).2 read series
  have readings : readingsOf m (rec.step (.pass inputs answers brokers .written)).passes =
      keptReading o inputs.ctx.now :: readingsOf m rec.passes := by
    rw [written_passes brokers, readingsOf, filterMap_cons, has]
    rfl
  refine ⟨rec.wholeDates_step _ state.whole, fun none => ?_, fun pass among => ?_, ?_, ?_, ?_, ?_⟩
  · cases none
  · rcases mem_cons.mp among with rfl | earlier
    · exact ⟨_, has, series⟩
    · exact state.read pass earlier
  · rw [readings]
    exact judged.kept
  · intro last kept head is
    obtain rfl := some.inj head
    exact judged.close kept is
  · intro last head
    obtain rfl := some.inj head
    obtain ⟨r, t, -, same, after, time⟩ := written_replicationOf brokers read
    refine ⟨_, wholeSeconds t, after, same.trans series.source, rfl, ?_⟩
    rcases time with rfl | ⟨before, stored, taken, past, recent⟩
    · have whole := lt_wholeSeconds_add inputs.ctx.now
      simp only [seconds] at whole ⊢
      exact ⟨wholeSeconds_le _, by change inputs.ctx.now - _ < _; omega⟩
    · have whole := congrArg InstanceReplication.observedAt (state.whole before stored)
      simp only [InstanceReplication.persisted, taken, map_some, some.injEq] at whole
      rw [whole]
      exact ⟨past, by change inputs.ctx.now - _ < _; omega⟩
  · rw [readings]
    exact judged.stalled

end Written

theorem SeriesState.step (state : SeriesState m source applier rec) (e : ReconcileEvent ρ)
    (follows : FollowsSlave m source applier rec e) :
    SeriesState m source applier (rec.step e) := by
  have quiet : (rec.step e).passes = rec.passes → (rec.step e).positions = rec.positions →
      SeriesState m source applier (rec.step e) := by
    intro passes positions
    obtain ⟨same, -⟩ | ⟨pass, -, more, -⟩ := rec.step_replicationOf e state.whole
    · exact state.quiet same passes positions
    · exact absurd (more.symm.trans passes) (cons_ne_self _ _)
  cases e with
  | restart => exact follows.elim
  | forgetConflicts => exact quiet rfl rfl
  | recovering inputs reason msg progressing write =>
    have kept : (rec.store (writtenRecovering rec.stored inputs reason msg progressing)
        write).passes = rec.passes ∧
        (rec.store (writtenRecovering rec.stored inputs reason msg progressing) write).positions =
          rec.positions := by
      unfold store
      split_ifs <;> exact ⟨rfl, rfl⟩
    exact quiet kept.1 kept.2
  | failed ctx reason cause progressing write =>
    have kept : ∀ s, (rec.store s write).passes = rec.passes ∧ (rec.store s write).positions =
        rec.positions := by
      intro s
      unfold store
      split_ifs <;> exact ⟨rfl, rfl⟩
    exact quiet (kept _).1 (kept _).2
  | pass inputs answers brokers write =>
    rcases follows with rfl | ⟨rfl, facts⟩
    · exact quiet rfl rfl
    · exact state.written brokers (.inr ⟨rfl, facts⟩)

theorem SeriesState.close_reading (state : SeriesState m source applier rec) {inputs : PassInputs ρ}
    {answers : Answers} {brokers : BrokerWrite} {kept : ApplierReading}
    (follows : FollowsSlave m source applier rec (.pass inputs answers brokers .written))
    (is : rec.positions m = some kept) (soon : inputs.ctx.now - kept.readAt < seconds 5) :
    (rec.step (.pass inputs answers brokers .written)).positions m = some kept ∧
      ((rec.step (.pass inputs answers brokers .written)).replicationOf m).bind (·.stalledSince) =
        (rec.replicationOf m).bind (·.stalledSince) := by
  obtain rejected | ⟨-, -, ⟨reading, has, series⟩, gap⟩ := follows
  · cases rejected
  obtain ⟨o, read, rfl⟩ := map_eq_some_iff.mp has
  cases head : rec.passes.head? with
  | none =>
    rw [(state.fresh (head?_eq_none_iff.mp head)).2] at is
    cases is
  | some last =>
    have judged := state.judges_later brokers head (gap last head).1 (gap last head).2 read series
    obtain ⟨kept', -, is', -, past, -⟩ := state.usable head (gap last head).1 (gap last head).2
    obtain rfl := some.inj (is.symm.trans is')
    have close : tooClose kept.readAt (keptReading o inputs.ctx.now).readAt = true :=
      tooClose_iff.mpr ⟨Int.sub_nonneg_of_le past, soon⟩
    have compared := comparedReadings_cons
      (r := keptReading o inputs.ctx.now) (state.kept.symm.trans is)
    rw [close, if_pos rfl] at compared
    refine ⟨?_, ?_⟩
    · rw [judged.kept, compared]
      exact state.kept.symm.trans is
    · rw [judged.stalled, compared]
      exact state.stalled.symm

/-- A stall stands exactly while a stretch of the compared readings does, from
    the first reading of the longest one; a reading too close to the kept one
    changes neither. -/
theorem stall_rule (start : Reconciler ρ) (m source applier : String)
    (events : List (ReconcileEvent ρ)) (unread : start.replicationOf m = none)
    (unkept : start.positions m = none) (first : start.passes = [])
    (along : Along step (FollowsSlave m source applier) start events) :
    let after := runEvents step start events
    let compared := comparedReadings (readingsOf m after.passes)
    (((after.replicationOf m).bind (·.stalledSince)).isSome = true ↔
      ∃ late first before older,
        Stretch ApplierReading.finalLSA pagesWait copyGrew compared late first before older) ∧
    (∀ s, (after.replicationOf m).bind (·.stalledSince) = some s →
      ∃ late first before older,
        Stretch ApplierReading.finalLSA pagesWait copyGrew compared late first before older ∧
        (∀ late' first' before' older',
          Stretch ApplierReading.finalLSA pagesWait copyGrew compared late' first' before' older' →
            late'.length ≤ late.length) ∧
        s = wholeSeconds first.readAt) ∧
    ∀ inputs answers brokers kept,
      FollowsSlave m source applier after (.pass inputs answers brokers .written) →
      after.positions m = some kept → inputs.ctx.now - kept.readAt < seconds 5 →
        (after.step (.pass inputs answers brokers .written)).positions m = some kept ∧
          ((after.step (.pass inputs answers brokers .written)).replicationOf m).bind
            (·.stalledSince) = (after.replicationOf m).bind (·.stalledSince) := by
  have state : SeriesState m source applier (runEvents step start events) :=
    runEvents_invariant _ (fun rec e follows state => state.step e follows) events
      (seriesState_start unread unkept first) along
  intro after compared
  have stalled : (after.replicationOf m).bind (·.stalledSince) =
      (stallStart compared).map fun r => wholeSeconds r.readAt := state.stalled
  refine ⟨?_, fun s is => ?_, fun inputs answers brokers kept => state.close_reading⟩
  · rw [stalled, isSome_map]
    exact lastingFrom_isSome_iff
  · obtain ⟨first, lasting, rfl⟩ := map_eq_some_iff.mp (stalled.symm.trans is)
    obtain ⟨late, before, older, stretch, longest⟩ := lastingFrom_some lasting
    exact ⟨late, first, before, older, stretch, longest, rfl⟩

theorem stuck_applier_stretch :
    ((run () stuckApplierRun).replicationOf "c-1").bind (·.stalledSince) = some (seconds 10) ∧
      ∃ late first before older,
        Stretch ApplierReading.finalLSA pagesWait copyGrew
          (comparedReadings (readingsOf "c-1" (run () stuckApplierRun).passes)) late first
          before older := by
  have stalled : ((run () stuckApplierRun).replicationOf "c-1").bind (·.stalledSince) = some
      (seconds 10) := by
    decide +kernel
  have reads : ∀ now copied, InSeries "c-0" "" (keptReading
      { (stuckApplier copied).observation with sourceLogEnd := some ⟨9, 0⟩ } now) :=
    fun now copied => ⟨rfl, .inl rfl, rfl, rfl⟩
  refine ⟨stalled, (stall_rule (created ()) "c-1" "c-0" "" stuckApplierRun rfl rfl rfl ?_).1.mp ?_⟩
  · refine ⟨.inr ⟨rfl, le_refl _, ⟨_, ?_, reads 0 ⟨7, 0⟩⟩, ?_⟩,
      .inr ⟨rfl, le_refl _, ⟨_, ?_, reads (seconds 10) ⟨8, 0⟩⟩, ?_⟩, trivial⟩
    · decide +kernel
    · intro last none
      cases none
    · decide +kernel
    · intro last head
      obtain rfl := some.inj head
      exact ⟨by decide +kernel, by decide +kernel⟩
  · exact congrArg isSome stalled

end Series
end Reconciler
end Controller
