import CubridOperator.Controller.StatusPass
import CubridOperator.Foundation.Runs

/-!
Runs of the reconciles of one HA cluster: passes, passes that end early, failed
status writes and restarts.
-/
namespace Controller
open Foundation Option

variable {ρ : Type}

def InstanceReplication.persisted (r : InstanceReplication) : InstanceReplication :=
  { r with
    stalledSince := r.stalledSince.map wholeSeconds
    notReceivingSince := r.notReceivingSince.map wholeSeconds
    observedAt := r.observedAt.map wholeSeconds }

def InstanceStatus.persisted (inst : InstanceStatus) : InstanceStatus :=
  { inst with
    replication := inst.replication.map InstanceReplication.persisted
    lastObservedTime := inst.lastObservedTime.map wholeSeconds }

def ClusterStatus.persisted (s : ClusterStatus ρ) : ClusterStatus ρ :=
  { s with
    instances := s.instances.map InstanceStatus.persisted
    lastObservedTime := s.lastObservedTime.map wholeSeconds
    conditions := s.conditions.map fun c => { c with
      lastTransitionTime := wholeSeconds c.lastTransitionTime } }

theorem ClusterStatus.persisted_condition (s : ClusterStatus ρ) (type : ConditionType) :
    s.persisted.condition type =
      (s.condition type).map fun c => { c with
      lastTransitionTime := wholeSeconds c.lastTransitionTime } := by
  simp only [persisted, condition, findStatusCondition, List.find?_map, Function.comp_def]

theorem ClusterStatus.persisted_isTrue (s : ClusterStatus ρ) (type : ConditionType) :
    s.persisted.isTrue type = s.isTrue type := by
  simp only [isTrue_eq, persisted_condition, any_map]

/-- The stored status and what the operator keeps in memory. `passes` lists the
    observations whose status was written, the last one first. -/
structure Reconciler (ρ : Type) where
  stored : ClusterStatus ρ
  positions : Positions := fun _ => none
  since : Option Int := none
  passes : List (RolePass ρ) := []

/-- What becomes of a status write: it can conflict, fail, or lose its answer
    after it was applied. -/
inductive StatusWrite where
  | written
  | unacknowledged
  | rejected
  deriving DecidableEq

inductive ReconcileEvent (ρ : Type) where
  | pass (inputs : PassInputs ρ) (answers : Answers) (brokers : BrokerWrite) (write : StatusWrite)
  | recovering (inputs : PassInputs ρ) (reason msg : String) (progressing : ConditionStatus)
      (write : StatusWrite)
  | failed (ctx : PassContext) (reason cause : String) (progressing : ConditionStatus)
      (write : StatusWrite)
  | forgetConflicts
  | restart

namespace Reconciler

section Steps

variable [DecidableEq ρ]

def store (r : Reconciler ρ) (s : ClusterStatus ρ) (write : StatusWrite) : Reconciler ρ :=
  if write = .rejected then r else { r with stored := s.persisted }

/-- A reconcile that observes the roles. The readings are kept once the write is
    known to have succeeded. -/
def pass (r : Reconciler ρ) (inputs : PassInputs ρ) (answers : Answers) (brokers : BrokerWrite)
    (write : StatusWrite) : Reconciler ρ :=
  let since := (updateStatus r.stored inputs answers r.positions r.since brokers).2
  let positions := readingPositions inputs.members (probeAll inputs.members answers)
    (r.positions.readings inputs.ctx.now) inputs.ctx.now
  { stored :=
      (r.store (writtenStatus r.stored inputs answers r.positions r.since brokers) write).stored
    positions := if write = .written then positions else r.positions
    since
    passes := if write = .rejected then r.passes
      else rolePass r.stored inputs answers r.positions :: r.passes }

def step (r : Reconciler ρ) : ReconcileEvent ρ → Reconciler ρ
  | .pass inputs answers brokers write => r.pass inputs answers brokers write
  | .recovering inputs reason msg progressing write =>
    r.store (writtenRecovering r.stored inputs reason msg progressing) write
  | .failed ctx reason cause progressing write =>
    r.store (holdObservationTimes r.stored (failedStatus r.stored ctx reason cause progressing)
      ctx.now) write
  | .forgetConflicts => { r with since := none }
  | .restart => { r with since := none, positions := fun _ => none }

def created (rest : ρ) : Reconciler ρ := { stored := { rest } }

def run (rest : ρ) (events : List (ReconcileEvent ρ)) : Reconciler ρ :=
  runEvents step (created rest) events

theorem step_cases (r : Reconciler ρ) (e : ReconcileEvent ρ) :
    ((r.step e).stored = r.stored ∧ (r.step e).passes = r.passes) ∨
    (∃ inputs answers brokers write, e = .pass inputs answers brokers write ∧ write ≠ .rejected ∧
      (r.step e).stored =
      (writtenStatus r.stored inputs answers r.positions r.since brokers).persisted ∧
      (r.step e).passes = rolePass r.stored inputs answers r.positions :: r.passes) ∨
    (∃ s now, Unobserved r.stored s ∧
      (r.step e).stored = (holdObservationTimes r.stored s now).persisted ∧
      (r.step e).passes = r.passes) := by
  have stores : ∀ (s : ClusterStatus ρ) now write, Unobserved r.stored s →
      let r' := r.store (holdObservationTimes r.stored s now) write
      (r'.stored = r.stored ∧ r'.passes = r.passes) ∨
        ∃ s now, Unobserved r.stored s ∧
          r'.stored = (holdObservationTimes r.stored s now).persisted ∧ r'.passes = r.passes := by
    intro s now write unobserved
    unfold store
    dsimp only
    split_ifs
    · exact .inl ⟨rfl, rfl⟩
    · exact .inr ⟨s, now, unobserved, rfl, rfl⟩
  cases e with
  | forgetConflicts | restart => exact .inl ⟨rfl, rfl⟩
  | pass inputs answers brokers write =>
    by_cases rejected : write = .rejected
    · exact .inl ⟨by simp [step, pass, store, rejected], by simp [step, pass, rejected]⟩
    · exact .inr
        (.inl ⟨inputs, answers, brokers, write, rfl,
          rejected, by simp [step, pass, store, rejected],
        by simp [step, pass, rejected]⟩)
  | recovering inputs reason msg progressing write =>
    exact (stores _ _ write (recoveringStatus_unobserved _ _ _ _ _)).imp_right .inr
  | failed ctx reason cause progressing write =>
    exact (stores _ _ write (failedStatus_unobserved _ _ _ _ _)).imp_right .inr

end Steps

section Routing

variable {s : ClusterStatus ρ}

/-- RoutingReady is True only for the primary that the same status resolves. -/
def RoutingFollows (s : ClusterStatus ρ) : Prop :=
  ∀ c, s.condition .routingReady = some c → c.status = .conditionTrue →
    s.isTrue .primaryResolved = true ∧ c.message = routingText s.currentPrimary

theorem RoutingFollows.persisted (follows : RoutingFollows s) : RoutingFollows s.persisted := by
  intro c is ready
  rw [ClusterStatus.persisted_condition] at is
  obtain ⟨c', is', rfl⟩ := map_eq_some_iff.mp is
  rw [ClusterStatus.persisted_isTrue]
  exact follows c' is' ready

variable {r : Reconciler ρ}

section Pass

variable {inputs : PassInputs ρ} {answers : Answers} {brokers : BrokerWrite}

theorem routingFollows_set (sets : leavesConditions inputs.ctx r.since brokers = false) :
    RoutingFollows (updateStatus r.stored inputs answers r.positions r.since brokers).1 := by
  intro c is ready
  rw [(updateStatus_keeps _ _ _ _ _ _).2, ClusterStatus.isTrue_eq,
    updateStatus_condition _ _ _ _ _ _ (.inl rfl), ← ClusterStatus.isTrue_eq,
    RolePass.after_isTrue_primaryResolved, decide_eq_true_iff]
  rw [updateStatus_eq, finishStatus_routing] at is
  exact brokerTier_routing _ _ _ _ _ sets is ready

theorem routing_left (leaves : leavesConditions inputs.ctx r.since brokers = true) :
    (updateStatus r.stored inputs answers r.positions r.since brokers).1.condition .routingReady =
      r.stored.condition .routingReady := by
  rw [updateStatus_eq, finishStatus_routing, brokerTier_left _ _ _ _ _ leaves,
    RolePass.after_other _ (by decide), rolePass_before_other _ _ _ _ (by decide) (by decide)]

theorem routingFollows_left (leaves : leavesConditions inputs.ctx r.since brokers = true)
    (follows : RoutingFollows r.stored)
    (keeps : r.stored.isTrue .routingReady = true →
      (rolePass r.stored inputs answers r.positions).res.names r.stored.currentPrimary) :
    RoutingFollows (updateStatus r.stored inputs answers r.positions r.since brokers).1 := by
  intro c is ready
  rw [routing_left leaves] at is
  obtain ⟨resolved, same⟩ := keeps (by simp [ClusterStatus.isTrue_eq, is, ready])
  rw [(updateStatus_keeps _ _ _ _ _ _).2, ClusterStatus.isTrue_eq,
    updateStatus_condition _ _ _ _ _ _ (.inl rfl), ← ClusterStatus.isTrue_eq,
    RolePass.after_isTrue_primaryResolved, decide_eq_true_iff]
  exact ⟨resolved, (follows c is ready).2.trans (by rw [same])⟩

end Pass

variable [DecidableEq ρ]

theorem RoutingFollows.held (stored : ClusterStatus ρ) (now : Int) (follows : RoutingFollows s) :
    RoutingFollows (holdObservationTimes stored s now) := by
  intro c is ready
  rw [hold_isTrue, holdObservationTimes_currentPrimary]
  rw [ClusterStatus.condition, holdObservationTimes_conditions] at is
  exact follows c is ready

theorem pass_stored {inputs : PassInputs ρ} {answers : Answers} {brokers : BrokerWrite}
    {write : StatusWrite} (accepted : write ≠ .rejected) :
    (r.step (.pass inputs answers brokers write)).stored =
      (writtenStatus r.stored inputs answers r.positions r.since brokers).persisted := by
  simp [step, pass, store, accepted]

/-- In every run, a pass that sets the Broker conditions stores a RoutingReady
    that follows its resolution; one that leaves them stores RoutingReady as it
    was, which still follows if the pass resolves the primary it names. -/
theorem routing_follows_resolution (rest : ρ) (events : List (ReconcileEvent ρ))
    (inputs : PassInputs ρ) (answers : Answers) (brokers : BrokerWrite) (write : StatusWrite)
    (accepted : write ≠ .rejected) :
    (leavesConditions inputs.ctx (run rest events).since brokers = false →
      RoutingFollows ((run rest events).step (.pass inputs answers brokers write)).stored) ∧
    (leavesConditions inputs.ctx (run rest events).since brokers = true →
      ((((run rest events).step (.pass inputs answers brokers write)).stored.condition
        .routingReady).map fun c => (c.status, c.reason, c.message)) =
      (((run rest events).stored.condition .routingReady).map fun c =>
        (c.status, c.reason, c.message)) ∧
      (RoutingFollows (run rest events).stored →
        ((run rest events).stored.isTrue .routingReady = true →
          (rolePass (run rest events).stored inputs answers (run rest events).positions).res.names
            (run rest events).stored.currentPrimary) →
        RoutingFollows ((run rest events).step (.pass inputs answers brokers write)).stored)) := by
  rw [pass_stored accepted]
  refine ⟨fun sets => ((routingFollows_set sets).held _ _).persisted,
    fun leaves => ⟨?_, fun follows keeps => ?_⟩⟩
  · rw [ClusterStatus.persisted_condition, writtenStatus, ClusterStatus.condition,
      holdObservationTimes_conditions, ← ClusterStatus.condition, routing_left leaves, map_map]
    rfl
  · exact ((routingFollows_left leaves follows keeps).held _ _).persisted

def conflictRun : List (ReconcileEvent Unit) :=
  let healthy : RoleReply := RolePass.slaveAnswer "c-2" "c-0" true
  let answers := fun now third => (RolePass.trio { rest := () } now (RolePass.masterAnswer "c-0")
    (RolePass.slaveAnswer "c-1" "c-0" true) third).answers
  [.pass (readyInputs 0) (answers 0 healthy) (.done ⟨2, 2⟩) .written,
    .pass (readyInputs (seconds 10)) (answers (seconds 10) .failed) (.conflict "stale") .written]

theorem conflict_keeps_routing :
    (run () conflictRun).stored.isTrue .routingReady = true ∧
      (run () conflictRun).stored.isTrue .primaryResolved = false ∧
      ¬ RoutingFollows (run () conflictRun).stored := by
  have routing : (run () conflictRun).stored.isTrue .routingReady = true := by decide +kernel
  have unresolved : (run () conflictRun).stored.isTrue .primaryResolved = false := by decide +kernel
  refine ⟨routing, unresolved, fun follows => ?_⟩
  rw [ClusterStatus.isTrue_eq, any_eq_true] at routing
  obtain ⟨c, is, ready⟩ := routing
  rw [(follows c is (of_decide_eq_true ready)).1] at unresolved
  cases unresolved

/-- The pass after the conflict finds the member silent still, and its Broker
    write succeeds. -/
theorem settled_routing_follows :
    RoutingFollows ((run () conflictRun).step (.pass (readyInputs (seconds 20))
      (RolePass.trio { rest := () } (seconds 20) (RolePass.masterAnswer "c-0")
        (RolePass.slaveAnswer "c-1" "c-0" true) .failed).answers (.done ⟨2, 2⟩) .written)).stored :=
  (routing_follows_resolution () conflictRun _ _ _ _ (by decide)).1 (by decide +kernel)

end Routing
end Reconciler
end Controller
