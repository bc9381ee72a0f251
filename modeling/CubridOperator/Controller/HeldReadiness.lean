import CubridOperator.Controller.ClusterRuns

/-!
How long HAReady stays True without new evidence.
-/
namespace Controller
open Foundation List Option

variable {ρ : Type}

section Evidence

variable {m : String}

namespace RolePass

variable (pass : RolePass ρ)

def ObservedSlave (m : String) : Prop :=
  m ∈ pass.members ∧ pass.obs.counts pass.now m = true ∧ (pass.obs.of m).role = roleSlave

def ApplierRead (m : String) : Prop :=
  pass.ObservedSlave m ∧ (pass.obs.of m).replication.isSome = true

instance (m : String) : Decidable (pass.ObservedSlave m) := inferInstanceAs (Decidable (_ ∧ _))

def KnownRoles : Prop := ∀ m ∈ pass.members, pass.obs.counts pass.now m = true →
  (pass.obs.of m).role = roleMaster ∨ (pass.obs.of m).role = roleSlave

instance : Decidable pass.KnownRoles := inferInstanceAs (Decidable (∀ _ ∈ _, _))

variable {pass}

theorem observedSlave_of_ready (ready : pass.haReady.status = .conditionTrue)
    (known : pass.before.isTrue .haReady = true → pass.KnownRoles) (member : m ∈ pass.members)
    (other : m ≠ pass.res.currentPrimary) : pass.ObservedSlave m := by
  obtain ⟨resolved, -, judged | ⟨old, was, true_, -⟩⟩ := haReadyCondition_true ready
  · obtain ⟨i, inside⟩ := exists_entry member
    have slave : (pass.entry i m).role = roleSlave := by
      by_contra none
      have unobserved : pass.entry i m ∈ unobservedAmong pass.res.currentPrimary pass.instances :=
        mem_filter.mpr ⟨inside, decide_eq_true ⟨other, none⟩⟩
      simp [judged.1] at unobserved
    have counts := counts_of_slave slave
    exact ⟨member, counts, (entry_role_of_counts counts).symm.trans slave⟩
  · obtain ⟨counts, only⟩ := pass.res_names_iff.mp ⟨resolved, rfl⟩
    have held : pass.before.isTrue .haReady = true := by simp [ClusterStatus.isTrue_eq, was, true_]
    refine ⟨member, counts m member, (known held m member (counts m member)).resolve_left
      fun master => other ?_⟩
    have among : m ∈ pass.members.filter (pass.obs.isMaster pass.now) :=
      mem_filter.mpr ⟨member, by simp [Observations.isMaster, counts m member, master]⟩
    simpa [only] using among

theorem applierRead_or_young (ready : pass.haReady.status = .conditionTrue)
    (slave : pass.ObservedSlave m) (other : m ≠ pass.res.currentPrimary) :
    pass.ApplierRead m ∨ pass.before.isTrue .haReady = true ∧
      ∃ i, pass.entry i m ∈ pass.instances ∧
        young ((pass.entry i m).replication.bind (·.observedAt)) pass.now = true := by
  obtain ⟨i, inside⟩ := exists_entry slave.1
  have role : (pass.entry i m).role = roleSlave := (entry_role_of_counts slave.2.1).trans slave.2.2
  obtain ⟨resolved, -, judged | ⟨old, was, true_, -, -, unread, -⟩⟩ := haReadyCondition_true ready
  · refine .inl ⟨slave, ?_⟩
    have several : 1 < pass.instances.length := by
      rw [instances_length]
      obtain ⟨-, only⟩ := pass.res_names_iff.mp ⟨resolved, rfl⟩
      have primary := (mem_filter.mp (only ▸ mem_singleton_self _)).1
      by_contra few
      obtain ⟨one, is⟩ := length_eq_one_iff.mp
        (Nat.le_antisymm (Nat.not_lt.mp few) (length_pos_of_mem slave.1))
      have member := slave.1
      rw [is, mem_singleton] at member primary
      exact other (member.trans primary.symm)
    have applies := (replicationCondition_true_iff.mp (judged.2.1.resolve_left (by omega))).2
      _ inside role
    cases read : (pass.obs.of m).replication with
    | none => simp [slaveFinding_unread read] at applies
    | some o => rfl
  · have recent := all_eq_true.mp unread _ inside
    simp only [role, ne_eq, not_true_eq_false, entry_name, false_or, decide_eq_true_eq] at recent
    rcases recent with read | time
    · exact .inl ⟨slave, read⟩
    · exact .inr ⟨by simp [ClusterStatus.isTrue_eq, was, true_], i, inside, time⟩

end RolePass

/-- Each stored reading was taken in one of the passes, not before its time. -/
def ReadIn (passes : List (RolePass ρ)) (instances : List InstanceStatus) : Prop :=
  ∀ inst ∈ instances, ∀ t, inst.replication.bind (·.observedAt) = some t →
    ∃ pass ∈ passes, pass.ApplierRead inst.name ∧ t ≤ pass.now

variable {passes : List (RolePass ρ)} {instances : List InstanceStatus}

theorem ReadIn.persisted (read : ReadIn passes instances) :
    ReadIn passes (instances.map InstanceStatus.persisted) := by
  intro inst inside t time
  obtain ⟨was, member, rfl⟩ := mem_map.mp inside
  cases has : was.replication with
  | none => simp [InstanceStatus.persisted, has] at time
  | some r =>
    cases at_ : r.observedAt with
    | none => simp [InstanceStatus.persisted, InstanceReplication.persisted, has, at_] at time
    | some exact_ =>
      obtain ⟨pass, done, applier, later⟩ := read was member exact_ (by simp [has, at_])
      simp only [InstanceStatus.persisted, InstanceReplication.persisted, has, at_, map_some,
        bind_some, some.injEq] at time
      exact ⟨pass, done, applier, by have := wholeSeconds_le exact_; omega⟩

theorem heldTime_le {stored current : Option Int} {now t : Int}
    (held : heldTime stored current now = some t) : ∃ taken, current = some taken ∧ t ≤ taken := by
  unfold heldTime at held
  split at held
  · rename_i before taken
    split_ifs at held with earlier old
    · exact ⟨taken, rfl, (some.inj held).ge⟩
    · exact ⟨taken, rfl, (some.inj held).ge⟩
    · exact ⟨taken, rfl, by have := some.inj held; omega⟩
  · exact ⟨t, held, le_refl t⟩

theorem holdInstance_name (stored : List InstanceStatus) (now : Int) (inst : InstanceStatus) :
    (holdInstance stored now inst).name = inst.name := by
  unfold holdInstance
  split <;> rfl

theorem holdInstance_observedAt {stored : List InstanceStatus} {now t : Int} {inst : InstanceStatus}
    (held : (holdInstance stored now inst).replication.bind (·.observedAt) = some t) :
    ∃ taken, inst.replication.bind (·.observedAt) = some taken ∧ t ≤ taken := by
  unfold holdInstance at held
  split at held
  · exact ⟨t, held, le_refl t⟩
  · cases has : inst.replication with
    | none => simp [has] at held
    | some r =>
      simp only [has, map_some, bind_some] at held ⊢
      split at held
      · exact ⟨t, held, le_refl t⟩
      · exact heldTime_le held

theorem ReadIn.held [DecidableEq ρ] {stored s : ClusterStatus ρ} (now : Int)
    (read : ReadIn passes s.instances) :
    ReadIn passes (holdObservationTimes stored s now).instances := by
  unfold holdObservationTimes
  dsimp only
  split_ifs
  · intro inst inside t time
    obtain ⟨was, member, rfl⟩ := mem_map.mp inside
    obtain ⟨taken, at_, earlier⟩ := holdInstance_observedAt time
    obtain ⟨pass, done, applier, later⟩ := read was member taken at_
    exact ⟨pass, done, (holdInstance_name stored.instances now was).symm ▸ applier, by omega⟩
  · exact read

theorem entryOf_some {previous : List InstanceStatus} {inst : InstanceStatus}
    (found : entryOf previous m = some inst) : inst ∈ previous ∧ inst.name = m :=
  ⟨mem_reverse.mp (mem_of_find?_eq_some found), by simpa using find?_some found⟩

theorem RolePass.entryOf_instances {pass : RolePass ρ} (member : m ∈ pass.members) :
    ∃ i, entryOf pass.instances m = some (pass.entry i m) := by
  cases found : entryOf pass.instances m with
  | none =>
    obtain ⟨i, inside⟩ := exists_entry member
    have none := find?_eq_none.mp found (pass.entry i m) (mem_reverse.mpr inside)
    simp at none
  | some inst =>
    obtain ⟨inside, name⟩ := entryOf_some found
    obtain ⟨i, n, -, rfl⟩ := mem_instances.mp inside
    obtain rfl : n = m := name
    exact ⟨i, rfl⟩

theorem ReadIn.observed {pass : RolePass ρ} (read : ReadIn passes pass.before.instances) :
    ReadIn (pass :: passes) pass.instances := by
  intro inst inside t time
  obtain ⟨i, m, at_, rfl⟩ := RolePass.mem_instances.mp inside
  cases has : (pass.entry i m).replication with
  | none => simp [has] at time
  | some r =>
    have slave := RolePass.slave_of_replication has
    have counts := RolePass.counts_of_slave slave
    have observed : pass.ObservedSlave m :=
      ⟨mem_of_getElem? at_, counts, (RolePass.entry_role_of_counts counts).symm.trans slave⟩
    cases answered : (pass.obs.of m).replication with
    | some o =>
      obtain ⟨r', has', -, now⟩ := RolePass.entry_replication_read slave answered
      rw [has', bind_some, now] at time
      exact ⟨pass, mem_cons_self, ⟨observed, by simp [answered]⟩, (some.inj time).ge⟩
    | none =>
      rw [RolePass.entry_replication_unread slave answered] at has
      obtain ⟨was, found, kept⟩ := bind_eq_some_iff.mp (RolePass.usableHistory_eq_some has)
      obtain ⟨member, name⟩ := entryOf_some found
      rw [RolePass.entry_replication_unread slave answered, has] at time
      obtain ⟨earlier, done, applier, later⟩ := read was member t (by rw [kept]; exact time)
      exact ⟨earlier, mem_cons_of_mem _ done, name ▸ applier, later⟩

end Evidence

namespace Reconciler

section Readiness

variable {r : Reconciler ρ}

/-- While HAReady is True, every member but the primary was observed as a slave,
    and read, less than 60 seconds before the last pass. -/
def Bounded (r : Reconciler ρ) : Prop :=
  r.stored.isTrue .haReady = true →
    ∃ last earlier, r.passes = last :: earlier ∧ last.res.names r.stored.currentPrimary ∧
      ∀ m ∈ last.members, m ≠ r.stored.currentPrimary →
        (∃ pass ∈ r.passes, last.now - pass.now < seconds 60 ∧ pass.ObservedSlave m) ∧
        (∃ pass ∈ r.passes, last.now - pass.now < seconds 60 ∧ pass.ApplierRead m)

def ReadyByEvidence (r : Reconciler ρ) : Prop :=
  ∃ last earlier, r.passes = last :: earlier ∧
    ∀ m ∈ last.members, m ≠ r.stored.currentPrimary → last.ApplierRead m

def AnswersKnown (r : Reconciler ρ) : ReconcileEvent ρ → Prop
  | .pass inputs answers _ write =>
    write ≠ .rejected → r.stored.isTrue .haReady = true →
    (rolePass r.stored inputs answers r.positions).KnownRoles
  | _ => True

theorem rolePass_before_isTrue (s : ClusterStatus ρ) (inputs : PassInputs ρ) (answers : Answers)
    (positions : Positions) :
    (rolePass s inputs answers positions).before.isTrue .haReady = s.isTrue .haReady := by
  rw [ClusterStatus.isTrue_eq, rolePass_before_other _ _ _ _ (by decide) (by decide),
    ← ClusterStatus.isTrue_eq]

variable [DecidableEq ρ]

theorem writtenStatus_haReady (s : ClusterStatus ρ) (inputs : PassInputs ρ) (answers : Answers)
    (positions : Positions) (since : Option Int) (brokers : BrokerWrite) :
    (writtenStatus s inputs answers positions since brokers).persisted.isTrue .haReady =
      decide ((rolePass s inputs answers positions).haReady.status = .conditionTrue) := by
  rw [ClusterStatus.persisted_isTrue, writtenStatus, hold_isTrue, ClusterStatus.isTrue_eq,
    updateStatus_condition _ _ _ _ _ _ (.inr (.inl rfl)), ← ClusterStatus.isTrue_eq,
    RolePass.after_isTrue_haReady]

theorem writtenStatus_currentPrimary (s : ClusterStatus ρ) (inputs : PassInputs ρ)
    (answers : Answers) (positions : Positions) (since : Option Int) (brokers : BrokerWrite) :
    (writtenStatus s inputs answers positions since brokers).persisted.currentPrimary =
      (rolePass s inputs answers positions).res.currentPrimary := by
  refine (holdObservationTimes_currentPrimary _ _ _).trans ?_
  exact (updateStatus_keeps _ _ _ _ _ _).2

theorem readIn_step (e : ReconcileEvent ρ) (read : ReadIn r.passes r.stored.instances) :
    ReadIn (r.step e).passes (r.step e).stored.instances := by
  obtain ⟨same, passes⟩ | ⟨inputs, answers, brokers, write, rfl, -, is, passes⟩ |
    ⟨s, now, unobserved, is, passes⟩ := r.step_cases e
  · exact same ▸ passes ▸ read
  · rw [is, passes]
    refine ReadIn.persisted (ReadIn.held _ ?_)
    rw [(updateStatus_keeps _ _ _ _ _ _).1]
    refine ReadIn.observed ?_
    rw [rolePass_before_instances]
    exact read
  · rw [is, passes]
    refine ReadIn.persisted (ReadIn.held _ ?_)
    rw [unobserved.instances]
    intro inst inside t time
    obtain ⟨was, member, rfl⟩ := mem_map.mp inside
    exact read was member t time

theorem bounded_step (e : ReconcileEvent ρ) (known : AnswersKnown r e)
    (read : ReadIn r.passes r.stored.instances) (bounded : Bounded r) : Bounded (r.step e) := by
  obtain ⟨same, passes⟩ | ⟨inputs, answers, brokers, write, rfl, accepted, is, passes⟩ |
    ⟨s, now, unobserved, is, passes⟩ := r.step_cases e
  · simpa only [Bounded, same, passes] using bounded
  · intro ready
    rw [is, writtenStatus_haReady, decide_eq_true_iff] at ready
    rw [is, writtenStatus_currentPrimary, passes]
    have observed : ∀ m ∈ (rolePass r.stored inputs answers r.positions).members,
        m ≠ (rolePass r.stored inputs answers r.positions).res.currentPrimary →
          (rolePass r.stored inputs answers r.positions).ObservedSlave m := fun m member other =>
      RolePass.observedSlave_of_ready ready
        (fun held => known accepted (by rwa [rolePass_before_isTrue] at held)) member other
    refine ⟨_, _, rfl, ⟨(haReadyCondition_true ready).1, rfl⟩, fun m member other => ?_⟩
    have slave := observed m member other
    have soon : (rolePass r.stored inputs answers r.positions).now -
        (rolePass r.stored inputs answers r.positions).now < seconds 60 := by simp [seconds]
    refine ⟨⟨_, mem_cons_self, soon, slave⟩, ?_⟩
    obtain applier | ⟨-, i, inside, time⟩ := RolePass.applierRead_or_young ready slave other
    · exact ⟨_, mem_cons_self, soon, applier⟩
    · -- The reading that is held was taken in a pass not before its time.
      obtain ⟨t, taken, recent⟩ := (Option.any_eq_true _ _).mp time
      rw [← rolePass_before_instances r.stored inputs answers r.positions] at read
      obtain ⟨pass, done, applier, later⟩ := read.observed _ inside t taken
      have window := of_decide_eq_true recent
      exact ⟨pass, done, by unfold replicationStallWindow at window; omega, applier⟩
  · intro ready
    rw [is, ClusterStatus.persisted_isTrue, hold_isTrue,
      unobserved.conditions _ (by decide)] at ready
    cases ready

theorem readyByEvidence_step (e : ReconcileEvent ρ) (before : r.stored.isTrue .haReady = false)
    (ready : (r.step e).stored.isTrue .haReady = true) : ReadyByEvidence (r.step e) := by
  obtain ⟨same, -⟩ | ⟨inputs, answers, brokers, write, rfl, -, is, passes⟩ |
    ⟨s, now, unobserved, is, -⟩ := r.step_cases e
  · simp [same, before] at ready
  · rw [is, writtenStatus_haReady, decide_eq_true_iff] at ready
    rw [ReadyByEvidence, is, writtenStatus_currentPrimary, passes]
    have not : (rolePass r.stored inputs answers r.positions).before.isTrue .haReady = false := by
      rw [rolePass_before_isTrue, before]
    refine ⟨_, _, rfl, fun m member other => ?_⟩
    have slave := RolePass.observedSlave_of_ready ready (fun held => by simp [not] at held)
      member other
    exact (RolePass.applierRead_or_young ready slave other).resolve_right fun held => by
      simp [not] at held
  · rw [is, ClusterStatus.persisted_isTrue, hold_isTrue,
      unobserved.conditions _ (by decide)] at ready
    cases ready

/-- HAReady is held for less than 60 seconds in a run whose passes over it are
    answered by masters and slaves only; in any run it becomes True by evidence
    only. -/
theorem held_readiness_bounded (rest : ρ) (events : List (ReconcileEvent ρ))
    (along : Along step AnswersKnown (created rest) events) :
    Bounded (run rest events) ∧
      ∀ e, (run rest events).stored.isTrue .haReady = false →
        ((run rest events).step e).stored.isTrue .haReady = true →
        ReadyByEvidence ((run rest events).step e) := by
  refine ⟨?_, fun e => readyByEvidence_step e⟩
  refine (runEvents_invariant (fun r => ReadIn r.passes r.stored.instances ∧ Bounded r) ?_
    events ?_ along).2
  · exact fun r e known kept => ⟨readIn_step e kept.1, bounded_step e known kept.1 kept.2⟩
  · refine ⟨?_, fun ready => by cases ready⟩
    intro inst inside
    cases inside

def replicaRun (third : RoleReply) : List (ReconcileEvent Unit) :=
  let answers := fun now third => (RolePass.trio { rest := () } now (RolePass.masterAnswer "c-0")
    (RolePass.slaveAnswer "c-1" "c-0" true) third).answers
  [.pass (readyInputs 0) (answers 0 (RolePass.slaveAnswer "c-2" "c-0" true))
    (.done ⟨2, 2⟩) .written,
    .pass (readyInputs (seconds 50)) (answers (seconds 50) third) (.done ⟨2, 2⟩) .written,
    .pass (readyInputs (seconds 100)) (answers (seconds 100) third) (.done ⟨2, 2⟩) .written]

def replicaAnswer (m : String) : RoleReply :=
  .answered 200 (some { current := m, role := "replica" })

theorem replica_holds_readiness :
    (run () (replicaRun (replicaAnswer "c-2"))).stored.isTrue .haReady = true ∧
      ¬ Bounded (run () (replicaRun (replicaAnswer "c-2"))) := by
  have ready : (run () (replicaRun (replicaAnswer "c-2"))).stored.isTrue .haReady = true := by
    decide +kernel
  have primary : (run () (replicaRun (replicaAnswer "c-2"))).stored.currentPrimary = "c-0" := by
    decide +kernel
  have last : (run () (replicaRun (replicaAnswer "c-2"))).passes.head?.all (fun pass =>
      pass.now = seconds 100 ∧ "c-2" ∈ pass.members) = true := by decide +kernel
  have unseen : ∀ pass ∈ (run () (replicaRun (replicaAnswer "c-2"))).passes,
      seconds 100 - pass.now < seconds 60 → ¬ pass.ObservedSlave "c-2" := by decide +kernel
  refine ⟨ready, fun bounded => ?_⟩
  obtain ⟨pass, earlier, passes, -, members⟩ := bounded ready
  rw [passes] at last
  obtain ⟨time, member⟩ := of_decide_eq_true last
  obtain ⟨⟨seen, done, recent, slave⟩, -⟩ := members "c-2" member (by rw [primary]; decide)
  exact unseen seen done (time ▸ recent) slave

def unreadRun : List (ReconcileEvent Unit) :=
  (replicaRun (RolePass.slaveAnswer "c-2" "c-0" false)).take 2

theorem unread_readiness_bounded :
    (run () unreadRun).stored.isTrue .haReady = true ∧ Bounded (run () unreadRun) := by
  refine ⟨by decide +kernel, (held_readiness_bounded () unreadRun ⟨?_, ?_, trivial⟩).1⟩
  · exact fun _ _ => by decide +kernel
  · exact fun _ _ => by decide +kernel

end Readiness
end Reconciler
end Controller
