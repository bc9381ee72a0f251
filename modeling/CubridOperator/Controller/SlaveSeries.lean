import CubridOperator.Controller.BackupTarget
import CubridOperator.Controller.HeldReadiness

/-!
What a run of passes stores of one slave, and what a date in it says of the
readings that were taken.
-/
namespace Controller
open Foundation Function List Option

variable {ρ : Type}

section Entries

variable {instances : List InstanceStatus} {m : String}

theorem entryOf_map {f : InstanceStatus → InstanceStatus}
    (names : ∀ inst, (f inst).name = inst.name) :
    entryOf (instances.map f) m = (entryOf instances m).map f := by
  simp only [entryOf, ← map_reverse, find?_map, comp_def, names]

theorem replicationHistory_map {f : InstanceStatus → InstanceStatus}
    {g : InstanceReplication → InstanceReplication} (names : ∀ inst, (f inst).name = inst.name)
    (each : ∀ inst, inst.name = m → (f inst).replication = inst.replication.map g) :
    replicationHistory (instances.map f) m = (replicationHistory instances m).map g := by
  unfold replicationHistory
  rw [entryOf_map names]
  cases found : entryOf instances m with
  | none => rfl
  | some inst => simpa using each inst (entryOf_some found).2

theorem replicationHistory_persisted (s : ClusterStatus ρ) :
    replicationHistory s.persisted.instances m = (replicationHistory s.instances m).map
      InstanceReplication.persisted :=
  replicationHistory_map (fun _ => rfl) fun _ _ => rfl

theorem replicationHistory_unobserved {stored s : ClusterStatus ρ}
    (unobserved : Unobserved stored s) :
    replicationHistory s.instances m = replicationHistory stored.instances m := by
  have same : replicationHistory (stored.instances.map fun inst => { inst with
      role := roleUnknown }) m = (replicationHistory stored.instances m).map id :=
    replicationHistory_map (fun _ => rfl) fun _ _ => map_id_apply.symm
  rw [unobserved.instances]
  exact same.trans map_id_apply

def heldReplication (stored : Option InstanceReplication) (now : Int) (r : InstanceReplication) :
    InstanceReplication :=
  match stored with
  | none => r
  | some before => { r with observedAt := heldTime before.observedAt r.observedAt now }

theorem holdInstance_replication (stored : List InstanceStatus) (now : Int)
    (inst : InstanceStatus) :
    (holdInstance stored now inst).replication =
      inst.replication.map (heldReplication (replicationHistory stored inst.name) now) := by
  unfold holdInstance replicationHistory
  cases entryOf stored inst.name with
  | none => exact map_id_apply.symm
  | some prev =>
    cases inst.replication <;> cases has : prev.replication <;> simp [heldReplication, has]

theorem replicationHistory_held [DecidableEq ρ] (stored s : ClusterStatus ρ) (now : Int) :
    replicationHistory (holdObservationTimes stored s now).instances m =
      replicationHistory s.instances m ∨
      replicationHistory (holdObservationTimes stored s now).instances m =
        (replicationHistory s.instances m).map
        (heldReplication (replicationHistory stored.instances m) now) := by
  unfold holdObservationTimes
  dsimp only
  split_ifs
  · right
    exact replicationHistory_map (holdInstance_name _ _) fun inst name =>
      name ▸ holdInstance_replication _ _ _
  · exact .inl rfl

end Entries

variable {o : ReplicationObservation}

namespace RolePass

section Member

variable (pass : RolePass ρ) (m : String)

def reading : Option ReplicationObservation :=
  if pass.ObservedSlave m then
    (pass.obs.of m).replication.map (withSourceLogEnd · pass.obs pass.now) else none

def replication : Option InstanceReplication :=
  if pass.ObservedSlave m then
    nextReplication (pass.stored m) (pass.reading m) (pass.positions.readings pass.now m) pass.now
  else none

theorem entry_replication {i : Nat} (member : m ∈ pass.members) :
    (pass.entry i m).replication = pass.replication m := by
  have slave : (if pass.obs.counts pass.now m = true then (pass.obs.of m).role
      else roleUnknown) = roleSlave ↔
      pass.ObservedSlave m := by
    by_cases counts : pass.obs.counts pass.now m = true
    · simp [ObservedSlave, member, counts]
    · simp [ObservedSlave, counts, roleUnknown, roleSlave]
  simp only [entry, instanceStatus, replication, slave]
  split
  · rename_i observed
    simp only [reading, if_pos observed]
    rfl
  · rfl

theorem replicationHistory_instances :
    replicationHistory pass.instances m = pass.replication m := by
  unfold replicationHistory
  cases found : entryOf pass.instances m with
  | none =>
    have absent : m ∉ pass.members := by
      intro member
      obtain ⟨i, is⟩ := entryOf_instances member
      rw [found] at is
      cases is
    rw [replication, if_neg fun observed => absent observed.1]
    rfl
  | some inst =>
    obtain ⟨inside, name⟩ := entryOf_some found
    obtain ⟨i, n, at_, rfl⟩ := mem_instances.mp inside
    obtain rfl : n = m := name
    exact pass.entry_replication n (mem_of_getElem? at_)

variable {pass m}

theorem reading_some (read : pass.reading m = some o) :
    pass.ObservedSlave m ∧ ∃ raw, (pass.obs.of m).replication = some raw ∧
    o = withSourceLogEnd raw pass.obs pass.now := by
  unfold reading at read
  split at read
  · rename_i observed
    obtain ⟨raw, is, rfl⟩ := map_eq_some_iff.mp read
    exact ⟨observed, raw, is, rfl⟩
  · cases read

theorem replication_of_reading (read : pass.reading m = some o) :
    pass.replication m =
      nextReplication (pass.stored m) (some o) (pass.positions.readings pass.now m) pass.now := by
  rw [replication, if_pos (reading_some read).1, read]

theorem replication_unread {r : InstanceReplication} (unread : pass.reading m = none)
    (is : pass.replication m = some r) : pass.stored m = some r := by
  unfold replication at is
  split at is
  · rw [unread, nextReplication_none] at is
    exact usableHistory_eq_some is
  · cases is

theorem sourceLogEnd_unset {raw : ReplicationObservation}
    (is : (pass.obs.of m).replication = some raw) : raw.sourceLogEnd = none := by
  have reported : ∀ (st : RoleAnswer) (t : Int),
      (observationFromStatus st t).replication = some raw → raw.sourceLogEnd = none := by
    intro st t has
    unfold observationFromStatus at has
    dsimp only at has
    split at has
    · cases has
    · split at has
      · obtain ⟨reply, -, rfl⟩ := map_eq_some_iff.mp has
        rfl
      · cases has
  have probed : ∀ (reply : RoleReply) (t : Int), (probeRole m reply t).replication = some raw →
      raw.sourceLogEnd = none := by
    intro reply t has
    unfold probeRole at has
    split at has
    · cases has
    · split at has
      · cases has
      · split at has
        · cases has
        · rename_i st
          refine reported st t ?_
          dsimp only at has
          split at has <;> split at has <;> exact has
  by_cases member : m ∈ pass.members
  · rw [obs, probeAll_of member] at is
    exact probed _ _ is
  · have unasked : pass.obs.of m = {} := by simp [obs, Observations.of, probeAll, member]
    rw [unasked] at is
    cases is

end Member
end RolePass

section Copies

variable {prev : Option InstanceReplication} {obs : ReplicationObservation}
  {pos : Option ApplierReading} {now : Int} {r : InstanceReplication}

inductive CopyOutcome (prev : Option InstanceReplication) (obs : ReplicationObservation) (now : Int)
    (r : InstanceReplication) : Prop where
  | ended (copied : r.copiedEOF = none) (delayed : r.copyDelayedPages = 0)
      (since : r.notReceivingSince = none)
  /-- The end of the source's log is not known, and the copy ends where it did. -/
  | carried (before : InstanceReplication) (known : prev = some before)
      (source : before.source = obs.source)
      (still : before.copiedEOF = obs.copiedEOF) (copied : r.copiedEOF = before.copiedEOF)
      (delayed : r.copyDelayedPages = before.copyDelayedPages)
      (since : r.notReceivingSince = before.notReceivingSince)
  | waiting (copied logEnd : LogAddress) (ends : obs.copiedEOF = some copied)
      (source : obs.sourceLogEnd = some logEnd)
      (behind : copied.page < logEnd.page) (is : r.copiedEOF = some copied)
      (delayed : r.copyDelayedPages = logEnd.page - copied.page)
        (since : r.notReceivingSince = none)
  /-- They waited before, and the copy ends where it did. -/
  | stuck (copied logEnd : LogAddress) (ends : obs.copiedEOF = some copied)
      (source : obs.sourceLogEnd = some logEnd)
      (behind : copied.page < logEnd.page) (is : r.copiedEOF = some copied)
      (delayed : r.copyDelayedPages = logEnd.page - copied.page)
      (before : InstanceReplication) (known : prev = some before)
        (same : before.source = obs.source)
      (still : before.copiedEOF = some copied)
        (since : r.notReceivingSince = some (before.notReceivingSince.getD now))

theorem nextLogCopy_outcome {next : InstanceReplication} (copied : next.copiedEOF = none)
    (delayed : next.copyDelayedPages = 0) (since : next.notReceivingSince = none) :
    CopyOutcome prev obs now (nextLogCopy prev obs next now) := by
  unfold nextLogCopy
  split
  · exact .ended copied delayed since
  · rename_i copiedEOF ends
    dsimp only
    cases logEnd : obs.sourceLogEnd with
    | none =>
      cases still : prev.filter fun prev =>
        decide (prev.source = obs.source ∧ prev.copiedEOF = some copiedEOF) with
      | none => exact .ended copied delayed since
      | some before =>
        obtain ⟨known, same⟩ := filter_eq_some_iff.mp still
        obtain ⟨source, copy⟩ := of_decide_eq_true same
        exact .carried before known source (copy.trans ends.symm) rfl rfl rfl
    | some logEnd' =>
      dsimp only
      split_ifs with reached
      · exact .ended copied delayed since
      · have behind : copiedEOF.page < logEnd'.page := by omega
        cases still : prev.filter fun prev =>
          decide (prev.source = obs.source ∧ prev.copiedEOF = some copiedEOF) with
        | none => exact .waiting copiedEOF logEnd' ends logEnd behind rfl rfl rfl
        | some before =>
          obtain ⟨known, same⟩ := filter_eq_some_iff.mp still
          obtain ⟨source, copy⟩ := of_decide_eq_true same
          exact .stuck copiedEOF logEnd' ends logEnd behind rfl rfl before known source copy rfl

theorem nextReplication_copy (is : nextReplication prev (some obs) pos now = some r) :
    r.source = obs.source ∧ CopyOutcome (usableHistory prev now) obs now r := by
  let base : InstanceReplication :=
    { source := obs.source, appliedChanges := obs.appliedChanges, failCount := obs.failCount,
      delayedPages := obs.delayedPages, applier := obs.applier, observedAt := some now }
  have outcome : CopyOutcome (usableHistory prev now) obs now
      (nextLogCopy (usableHistory prev now) obs base now) :=
    nextLogCopy_outcome rfl rfl rfl
  obtain ⟨since, is'⟩ : ∃ since, r = { nextLogCopy (usableHistory prev now) obs base now with
      stalledSince := since } :=
    ⟨_, (some.inj is).symm⟩
  subst is'
  refine ⟨(nextLogCopy_keeps _ _ _ _).1, ?_⟩
  -- The date of a stall is no part of the series.
  cases outcome with
  | ended copied delayed since => exact .ended copied delayed since
  | carried before known source still copied delayed since =>
    exact .carried before known source still copied delayed since
  | waiting copied logEnd ends source behind is delayed since =>
    exact .waiting copied logEnd ends source behind is delayed since
  | stuck copied logEnd ends source behind is delayed before known same still since =>
    exact .stuck copied logEnd ends source behind is delayed before known same still since

end Copies

section Storing

variable {m : String} {before after : Option InstanceReplication} {passes : List (RolePass ρ)}

/-- What is stored of a reading: its dates in whole seconds, and some time at
    which it was taken. -/
def StoredAs (before after : Option InstanceReplication) : Prop :=
  ∀ r, after = some r → ∃ was t, before = some was ∧ r = InstanceReplication.persisted
    { was with observedAt := t }

theorem replicationHistory_stored [DecidableEq ρ] (stored s : ClusterStatus ρ) (now : Int) :
    replicationHistory (holdObservationTimes stored s now).persisted.instances m =
        (replicationHistory s.instances m).map InstanceReplication.persisted ∨
      replicationHistory (holdObservationTimes stored s now).persisted.instances m =
        ((replicationHistory s.instances m).map
          (heldReplication (replicationHistory stored.instances m) now)).map
          InstanceReplication.persisted := by
  rw [replicationHistory_persisted]
  exact (replicationHistory_held stored s now).imp (congrArg _) (congrArg _)

theorem storedAs_hold [DecidableEq ρ] (stored s : ClusterStatus ρ) (now : Int) :
    StoredAs (replicationHistory s.instances m)
      (replicationHistory (holdObservationTimes stored s now).persisted.instances m) := by
  intro r is
  rcases replicationHistory_stored (m := m) stored s now with same | kept
  · obtain ⟨was, read, rfl⟩ := map_eq_some_iff.mp (same ▸ is)
    exact ⟨was, _, read, rfl⟩
  · obtain ⟨held, has, rfl⟩ := map_eq_some_iff.mp (kept ▸ is)
    obtain ⟨was, read, rfl⟩ := map_eq_some_iff.mp has
    cases replicationHistory stored.instances m with
    | none | some => exact ⟨was, _, read, rfl⟩

theorem InstanceReplication.persisted_persisted (r : InstanceReplication) :
    r.persisted.persisted = r.persisted := by
  simp [InstanceReplication.persisted, comp_def]

theorem heldTime_self (stored : Option Int) (now : Int) : heldTime stored stored now = stored := by
  unfold heldTime
  split
  · split_ifs <;> rfl
  · rfl

theorem replicationHistory_kept [DecidableEq ρ] {stored s : ClusterStatus ρ} (now : Int)
    (unobserved : Unobserved stored s)
    (whole : ∀ r, replicationHistory stored.instances m = some r → r.persisted = r) :
    replicationHistory (holdObservationTimes stored s now).persisted.instances m =
      replicationHistory stored.instances m := by
  have kept := replicationHistory_stored (m := m) stored s now
  rw [replicationHistory_unobserved unobserved] at kept
  cases is : replicationHistory stored.instances m with
  | none => simpa [is] using kept
  | some r => simpa [is, heldReplication, heldTime_self, whole r is] using kept

namespace Reconciler

def replicationOf (r : Reconciler ρ) (m : String) : Option InstanceReplication :=
  replicationHistory r.stored.instances m

variable (r : Reconciler ρ)

theorem rolePass_stored (inputs : PassInputs ρ) (answers : Answers) (m : String) :
    (rolePass r.stored inputs answers r.positions).stored m = r.replicationOf m :=
  congrArg (replicationHistory · m) (rolePass_before_instances _ _ _ _)

variable [DecidableEq ρ]

theorem pass_replicationOf {inputs : PassInputs ρ} {answers : Answers} {brokers : BrokerWrite}
    {write : StatusWrite} (accepted : write ≠ .rejected) (m : String) :
    StoredAs ((rolePass r.stored inputs answers r.positions).replication m)
      ((r.step (.pass inputs answers brokers write)).replicationOf m) := by
  have stored := storedAs_hold (m := m) r.stored
    (updateStatus r.stored inputs answers r.positions r.since brokers).1 inputs.writtenAt
  rw [(updateStatus_keeps _ _ _ _ _ _).1, RolePass.replicationHistory_instances] at stored
  simpa only [replicationOf, step, pass, store, writtenStatus, accepted, if_false] using stored

def WholeDates (r : Reconciler ρ) (m : String) : Prop :=
  ∀ rep, r.replicationOf m = some rep → rep.persisted = rep

theorem step_replicationOf (e : ReconcileEvent ρ) {m : String} (whole : WholeDates r m) :
    ((r.step e).replicationOf m = r.replicationOf m ∧ (r.step e).passes = r.passes) ∨
    (∃ pass : RolePass ρ, pass.stored m = r.replicationOf m ∧ (r.step e).passes = pass :: r.passes ∧
      StoredAs (pass.replication m) ((r.step e).replicationOf m)) := by
  obtain ⟨same, passes⟩ | ⟨inputs, answers, brokers, write, rfl, accepted, -, passes⟩ |
    ⟨s, now, unobserved, is, passes⟩ := r.step_cases e
  · exact .inl ⟨congrArg (fun s : ClusterStatus ρ => replicationHistory s.instances m) same, passes⟩
  · exact .inr ⟨_, r.rolePass_stored inputs answers m, passes, r.pass_replicationOf accepted m⟩
  · refine .inl ⟨?_, passes⟩
    rw [replicationOf, replicationOf, is]
    exact replicationHistory_kept now unobserved whole

theorem wholeDates_step (e : ReconcileEvent ρ) {m : String} (whole : WholeDates r m) :
    WholeDates (r.step e) m := by
  intro rep is
  obtain ⟨same, -⟩ | ⟨pass, -, -, stored⟩ := r.step_replicationOf e whole
  · exact whole rep (same ▸ is)
  · obtain ⟨was, t, -, rfl⟩ := stored rep is
    exact InstanceReplication.persisted_persisted _

end Reconciler
end Storing

section LogCopy

/-- The source itself, as a master that counts, reported a log that ends on a
    later page than the copy that was read of it. -/
structure PagesWait (pass : RolePass ρ) (m source : String) (copied : LogAddress) : Prop where
  read : ∃ o, pass.reading m = some o ∧ o.source = source ∧ o.copiedEOF = some copied
  counts : pass.obs.counts pass.now source = true
  master : (pass.obs.of source).role = roleMaster
  behind : ∃ logEnd, (pass.obs.of source).logEnd = some logEnd ∧ copied.page < logEnd.page

def CopyEndsAt (m source : String) (copied : LogAddress) (pass : RolePass ρ) : Prop :=
  ∀ o, pass.reading m = some o → o.source = source ∧ o.copiedEOF = some copied

/-- Pages waited at `first` and the copy has ended where it did ever since. -/
def WaitsSince (passes : List (RolePass ρ)) (m source : String) (copied : LogAddress) : Prop :=
  ∃ late first older, passes = late ++ first :: older ∧ PagesWait first m source copied ∧
    ∀ pass ∈ late ++ [first], CopyEndsAt m source copied pass

/-- Pages waited at a reading at `s` and at one before it, since which the copy
    has not grown. -/
def NotReceiving (passes : List (RolePass ρ)) (m source : String) (copied : LogAddress) (s : Int) :
    Prop :=
  ∃ late reading between first older, passes = late ++ reading :: (between ++ first :: older) ∧
    wholeSeconds reading.now = s ∧ PagesWait reading m source copied ∧
    PagesWait first m source copied ∧
    ∀ pass ∈ late ++ reading :: (between ++ [first]), CopyEndsAt m source copied pass

structure CopySeries (passes : List (RolePass ρ)) (m : String) (r : InstanceReplication) :
    Prop where
  kept : r.copiedEOF.isSome = true ↔ 0 < r.copyDelayedPages
  waits : ∀ copied, r.copiedEOF = some copied → WaitsSince passes m r.source copied
  dated : ∀ s, r.notReceivingSince = some s →
    ∃ copied, r.copiedEOF = some copied ∧ NotReceiving passes m r.source copied (wholeSeconds s)

variable {passes : List (RolePass ρ)} {pass : RolePass ρ} {m source : String} {copied : LogAddress}
  {r : InstanceReplication}

theorem CopySeries.persisted (series : CopySeries passes m r) (t : Option Int) :
    CopySeries passes m (InstanceReplication.persisted { r with observedAt := t }) := by
  refine ⟨series.kept, series.waits, fun s dated => ?_⟩
  obtain ⟨s', was, rfl⟩ := map_eq_some_iff.mp dated
  rw [wholeSeconds_wholeSeconds]
  exact series.dated s' was

theorem WaitsSince.later (waits : WaitsSince passes m source copied)
    (still : CopyEndsAt m source copied pass) : WaitsSince (pass :: passes) m source copied := by
  obtain ⟨late, first, older, rfl, wait, ends⟩ := waits
  refine ⟨pass :: late, first, older, rfl, wait, ?_⟩
  rw [cons_append, forall_mem_cons]
  exact ⟨still, ends⟩

theorem NotReceiving.later {s : Int} (dated : NotReceiving passes m source copied s)
    (still : CopyEndsAt m source copied pass) :
    NotReceiving (pass :: passes) m source copied s := by
  obtain ⟨late, reading, between, first, older, rfl, time, waits, wait, ends⟩ := dated
  refine ⟨pass :: late, reading, between, first, older, rfl, time, waits, wait, ?_⟩
  rw [cons_append, forall_mem_cons]
  exact ⟨still, ends⟩

theorem CopySeries.later (series : CopySeries passes m r)
    (still : ∀ copied, r.copiedEOF = some copied → CopyEndsAt m r.source copied pass) :
    CopySeries (pass :: passes) m r := by
  refine ⟨series.kept, fun copied is => (series.waits copied is).later (still copied is),
    fun s dated => ?_⟩
  obtain ⟨copied, is, since⟩ := series.dated s dated
  exact ⟨copied, is, since.later (still copied is)⟩

theorem copyEndsAt_of_reading (read : pass.reading m = some o) (same : o.source = source)
    (ends : o.copiedEOF = some copied) : CopyEndsAt m source copied pass := by
  intro o' read'
  rw [read] at read'
  obtain rfl := some.inj read'
  exact ⟨same, ends⟩

theorem pagesWait_of_reading {logEnd : LogAddress} (read : pass.reading m = some o)
    (ends : o.copiedEOF = some copied) (is : o.sourceLogEnd = some logEnd)
    (behind : copied.page < logEnd.page) : PagesWait pass m o.source copied := by
  obtain ⟨-, raw, has, rfl⟩ := RolePass.reading_some read
  have unset := RolePass.sourceLogEnd_unset has
  unfold withSourceLogEnd at read ends is ⊢
  split at is
  · rename_i answered
    rw [if_pos answered] at read ends ⊢
    exact ⟨⟨_, read, rfl, ends⟩, answered.1, answered.2.1, logEnd, is, behind⟩
  · rw [unset] at is
    cases is

theorem CopySeries.read (read : pass.reading m = some o)
    (series : ∀ before, pass.stored m = some before → CopySeries passes m before)
    (is : pass.replication m = some r) : CopySeries (pass :: passes) m r := by
  rw [RolePass.replication_of_reading read] at is
  obtain ⟨source, outcome⟩ := nextReplication_copy is
  have known : ∀ before, usableHistory (pass.stored m) pass.now = some before →
      CopySeries passes m before :=
    fun before usable => series before (RolePass.usableHistory_eq_some usable)
  cases outcome with
  | ended none zero never =>
    refine ⟨by simp [none, zero], fun copied is => ?_, fun s dated => ?_⟩
    · rw [none] at is
      cases is
    · rw [never] at dated
      cases dated
  | carried before usable same still copied delayed since =>
    have carried := (known before usable).later fun copied ends =>
      copyEndsAt_of_reading read same.symm (still ▸ ends)
    refine ⟨by rw [copied, delayed]; exact carried.kept, fun copied' ends => ?_, fun s dated => ?_⟩
    · rw [source, ← same]
      exact carried.waits copied' (copied ▸ ends)
    · rw [source, ← same, copied]
      exact carried.dated s (since ▸ dated)
  | waiting copied logEnd ends log behind is delayed never =>
    refine ⟨?_, fun copied' same => ?_, fun s dated => ?_⟩
    · simp [is, delayed]
      omega
    · obtain rfl := some.inj (is.symm.trans same)
      refine ⟨[], pass, passes, rfl, source ▸ pagesWait_of_reading read ends log behind, ?_⟩
      simpa using copyEndsAt_of_reading read source.symm ends
    · rw [never] at dated
      cases dated
  | stuck copied logEnd ends log behind is delayed before usable same still since =>
    have wait : PagesWait pass m r.source copied :=
      source ▸ pagesWait_of_reading read ends log behind
    have still' : CopyEndsAt m r.source copied pass := copyEndsAt_of_reading read source.symm ends
    have earlier := (known before usable).waits copied still
    rw [same, ← source] at earlier
    refine ⟨?_, fun copied' same' => ?_, fun s dated => ⟨copied, is, ?_⟩⟩
    · simp [is, delayed]
      omega
    · obtain rfl := some.inj (is.symm.trans same')
      exact earlier.later still'
    · obtain rfl := some.inj (since.symm.trans dated)
      cases was : before.notReceivingSince with
      | some s =>
        obtain ⟨copied', is', dated⟩ := (known before usable).dated s was
        obtain rfl := some.inj (still.symm.trans is')
        rw [same, ← source] at dated
        exact dated.later still'
      | none =>
        -- The pages that waited before are those of the stored end of the copy.
        obtain ⟨late, first, older, rfl, waited, unmoved⟩ := earlier
        refine ⟨[], pass, late, first, older, rfl, rfl, wait, waited, ?_⟩
        rw [nil_append, forall_mem_cons]
        exact ⟨still', unmoved⟩

theorem CopySeries.observed
    (series : ∀ before, pass.stored m = some before → CopySeries passes m before)
    (is : pass.replication m = some r) : CopySeries (pass :: passes) m r := by
  cases read : pass.reading m with
  | some o => exact CopySeries.read read series is
  | none =>
    have unread : ∀ copied, r.copiedEOF = some copied → CopyEndsAt m r.source copied pass := by
      intro copied _ o has
      rw [read] at has
      cases has
    exact (series r (RolePass.replication_unread read is)).later unread

namespace Reconciler

variable [DecidableEq ρ] {rec : Reconciler ρ}

def SoundCopy (rec : Reconciler ρ) (m : String) : Prop :=
  WholeDates rec m ∧ ∀ r, rec.replicationOf m = some r → CopySeries rec.passes m r

theorem soundCopy_step (e : ReconcileEvent ρ) (sound : SoundCopy rec m) :
    SoundCopy (rec.step e) m := by
  obtain ⟨whole, series⟩ := sound
  refine ⟨rec.wholeDates_step e whole, fun r is => ?_⟩
  obtain ⟨same, passes⟩ | ⟨pass, before, passes, stored⟩ := rec.step_replicationOf e whole
  · rw [same] at is
    exact passes ▸ series r is
  · obtain ⟨was, t, next, rfl⟩ := stored r is
    rw [passes]
    exact (CopySeries.observed (fun b has => series b (before ▸ has)) next).persisted t

/-- In every run, the end of the copy stands exactly while pages wait to be
    copied, and a copy is dated as not receiving only by such readings. -/
theorem log_copy_series_sound (rest : ρ) (events : List (ReconcileEvent ρ)) (m : String)
    (r : InstanceReplication) (is : (run rest events).replicationOf m = some r) :
    (r.copiedEOF.isSome = true ↔ 0 < r.copyDelayedPages) ∧
      (r.notReceivingSince.isSome = true → r.copiedEOF.isSome = true) ∧
      ∀ s, r.notReceivingSince = some s →
        ∃ copied, r.copiedEOF = some copied ∧
          NotReceiving (run rest events).passes m r.source copied s := by
  have sound : SoundCopy (run rest events) m :=
    runEvents_kept (fun rec => SoundCopy rec m) (fun _ e sound => soundCopy_step e sound) events
      ⟨fun r is => (by cases is), fun r is => (by cases is)⟩
  have series := sound.2 r is
  have dated : ∀ s, r.notReceivingSince = some s →
      ∃ copied, r.copiedEOF = some copied ∧
        NotReceiving (run rest events).passes m r.source copied s := by
    intro s since
    have whole : r.notReceivingSince.map wholeSeconds = r.notReceivingSince :=
      congrArg InstanceReplication.notReceivingSince (sound.1 r is)
    rw [since, map_some, some.injEq] at whole
    exact whole ▸ series.dated s since
  refine ⟨series.kept, fun set => ?_, dated⟩
  obtain ⟨s, since⟩ := isSome_iff_exists.mp set
  obtain ⟨copied, is, -⟩ := dated s since
  simp [is]

def readSlave (m : String) (applier : ApplyConvergence) : RoleReply :=
  .answered 200 (some { current := m, role := "slave", replication := some applier })

def masterWithLog (logEnd : LogAddress) : RoleReply :=
  .answered 200
    (some { current := "c-0", role := "master", serverActive := true, logEnd := some logEnd })

def readPass (now : Int) (logEnd : LogAddress) (applier : ApplyConvergence) : ReconcileEvent Unit :=
  .pass (readyInputs now)
    (RolePass.trio { rest := () } now (masterWithLog logEnd) (readSlave "c-1" applier)
      (readSlave "c-2" applier)).answers
    (.done ⟨2, 2⟩) .written

def stuckCopyRun : List (ReconcileEvent Unit) :=
  let applier : ApplyConvergence := { available := true, source := "c-0", copiedEOF := some ⟨7, 0⟩ }
  [readPass 0 ⟨9, 0⟩ applier, readPass (seconds 10) ⟨9, 0⟩ applier]

theorem stuck_copy_dated :
    ∃ r, (run () stuckCopyRun).replicationOf "c-1" = some r ∧
      r.notReceivingSince = some (seconds 10) ∧
      ∃ copied, r.copiedEOF = some copied ∧
        NotReceiving (run () stuckCopyRun).passes "c-1" r.source copied (seconds 10) := by
  have found : ((run () stuckCopyRun).replicationOf "c-1").any
      (fun r => r.notReceivingSince = some (seconds 10)) = true := by decide +kernel
  obtain ⟨r, is, dated⟩ := (any_eq_true _ _).mp found
  have since := of_decide_eq_true dated
  exact ⟨r, is, since, (log_copy_series_sound () stuckCopyRun "c-1" r is).2.2 _ since⟩

end Reconciler
end LogCopy
section Stalls

variable {prev : Option InstanceReplication} {obs : ReplicationObservation}
  {pos : Option ApplierReading} {now : Int} {r : InstanceReplication}

def reportedStall (prev : Option InstanceReplication) (obs : ReplicationObservation) (now : Int) :
    Option Int :=
  ((usableHistory prev now).filter (·.source = obs.source)).bind (·.stalledSince)

/-- The reading carries the position and the end of the copy, and is too close
    to the kept one to compare them. -/
def CloseReading (kept : Option ApplierReading) (obs : ReplicationObservation) (now : Int) : Prop :=
  obs.finalLSA.isSome = true ∧ obs.copiedEOF.isSome = true ∧
    ∃ r, kept = some r ∧ r.finalLSA.isSome = true ∧ r.copiedEOF.isSome = true ∧
      tooClose r.readAt now = true

/-- A stall is dated at a reading with pages waiting, or is the one reported
    before a reading too close to the kept one. -/
theorem stalledSince_cases {t : Int}
    (is : nextReplication prev (some obs) pos now = some r) (stalled : r.stalledSince = some t) :
    0 < obs.delayedPages ∨ CloseReading pos obs now ∧ reportedStall prev obs now = some t := by
  have since : r.stalledSince = _ := congrArg InstanceReplication.stalledSince (some.inj is).symm
  rw [since] at stalled
  dsimp only at stalled
  split at stalled
  · -- No reading is kept.
    split_ifs at stalled with waits
    exact .inl waits
  · rename_i finalLSA copiedEOF kept final copied
    split at stalled
    · rename_i posFinal posCopied keptFinal keptCopied
      unfold positionStall at stalled
      split_ifs at stalled with close moved other starts
      · exact .inr
          ⟨⟨by simp [final], by simp [copied], kept, rfl, by simp [keptFinal],
            by simp [keptCopied], close⟩, stalled⟩
      all_goals
        left
        have waits : obs.delayedPages ≠ 0 := fun none => moved (.inr (.inr none))
        omega
    · split at stalled
      · cases stalled
      · split_ifs at stalled with waits
        all_goals exact .inl waits.2.1
  · split at stalled
    · cases stalled
    · split_ifs at stalled with waits
      all_goals exact .inl waits.2.1

namespace Reconciler

variable [DecidableEq ρ]

/-- In every run, a stall that stands after a reading has pages waiting at it,
    unless the reading is too close to the one that is kept. -/
theorem stalled_pages_wait (rest : ρ) (events : List (ReconcileEvent ρ)) (inputs : PassInputs ρ)
    (answers : Answers) (brokers : BrokerWrite) (write : StatusWrite) (m : String)
    (o : ReplicationObservation) (r : InstanceReplication) (accepted : write ≠ .rejected)
    (read :
      (rolePass (run rest events).stored inputs answers (run rest events).positions).reading m =
        some o)
    (is : ((run rest events).step (.pass inputs answers brokers write)).replicationOf m = some r)
    (stalled : r.stalledSince.isSome = true) :
    0 < o.delayedPages ∨
      CloseReading ((run rest events).positions.readings inputs.ctx.now m) o inputs.ctx.now ∧
        r.stalledSince = (reportedStall ((run rest events).replicationOf m) o inputs.ctx.now).map
          wholeSeconds := by
  obtain ⟨was, t, next, rfl⟩ := (run rest events).pass_replicationOf accepted m r is
  rw [RolePass.replication_of_reading read, rolePass_stored] at next
  obtain ⟨since, set⟩ := isSome_iff_exists.mp stalled
  obtain ⟨exact_, dated, -⟩ := map_eq_some_iff.mp set
  rcases stalledSince_cases next dated with waits | ⟨close, reported⟩
  · exact .inl waits
  · right
    refine ⟨close, ?_⟩
    have stored : was.stalledSince.map wholeSeconds = (some exact_).map wholeSeconds := by
      rw [dated]
    exact stored.trans (congrArg _ reported.symm)

def stuckApplier (copied : LogAddress) : ApplyConvergence :=
  { available := true, source := "c-0", delayedPageCount := 2, finalLSA := some ⟨5, 0⟩,
    copiedEOF := some copied }

def stuckApplierRun : List (ReconcileEvent Unit) :=
  [readPass 0 ⟨9, 0⟩ (stuckApplier ⟨7, 0⟩), readPass (seconds 10) ⟨9, 0⟩ (stuckApplier ⟨8, 0⟩)]

theorem stuck_applier_pages_wait :
    ∃ o r, (run () stuckApplierRun).replicationOf "c-1" = some r ∧
      r.stalledSince = some (seconds 10) ∧ (0 < o.delayedPages ∨
        CloseReading ((run () (stuckApplierRun.take 1)).positions.readings (seconds 10) "c-1") o
        (seconds 10) ∧
          r.stalledSince = (reportedStall ((run () (stuckApplierRun.take 1)).replicationOf "c-1") o
            (seconds 10)).map wholeSeconds) := by
  have found : ((run () stuckApplierRun).replicationOf "c-1").any
      (fun r => r.stalledSince = some (seconds 10)) = true := by decide +kernel
  obtain ⟨r, is, dated⟩ := (any_eq_true _ _).mp found
  have since := of_decide_eq_true dated
  refine ⟨{ (stuckApplier ⟨8, 0⟩).observation with sourceLogEnd := some ⟨9, 0⟩ }, r, is, since, ?_⟩
  exact stalled_pages_wait () (stuckApplierRun.take 1) _ _ _ _ "c-1" _ r (by decide)
    (by decide +kernel) is
    (by simp [since])

def appliedReading : ApplyConvergence :=
  { available := true, source := "c-0", delayedPageCount := 0, finalLSA := some ⟨8, 0⟩,
    copiedEOF := some ⟨8, 0⟩ }

theorem close_reading_keeps_stall :
    ∃ r, (run () (stuckApplierRun ++ [readPass (seconds 11) ⟨9, 0⟩ appliedReading])).replicationOf
      "c-1" = some r ∧
      r.stalledSince = some (seconds 10) ∧ r.delayedPages = 0 ∧
      r.observedAt = some (seconds 11) := by
  have found :
      ((run () (stuckApplierRun ++ [readPass (seconds 11) ⟨9, 0⟩ appliedReading])).replicationOf
        "c-1").any
      (fun r => r.stalledSince = some (seconds 10) ∧ r.delayedPages = 0 ∧
        r.observedAt = some (seconds 11)) = true := by
    decide +kernel
  obtain ⟨r, is, facts⟩ := (any_eq_true _ _).mp found
  exact ⟨r, is, of_decide_eq_true facts⟩

end Reconciler
end Stalls
end Controller
