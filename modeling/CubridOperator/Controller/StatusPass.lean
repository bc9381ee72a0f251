import CubridOperator.Controller.Broker
import CubridOperator.Controller.HAReady

/-!
One pass over the status of an HA cluster with a role prober. What the steps
beside the roles do is given by what they set.
-/
namespace Controller
open Foundation List

variable {ρ : Type}

def memberNames (cluster : String) (count : Nat) : List String :=
  (List.range count).map fun i => cluster ++ "-" ++ toString i

structure PassInputs (ρ : Type) where
  ctx : PassContext
  desired : Nat
  ready : Int
  placement : Option Verdict := none
  bootstrap : List Verdict := []
  updating : List Verdict := []
  dropUpdating : Bool := false
  writtenAt : Int
  rest : ρ

def PassInputs.members (inputs : PassInputs ρ) : List String :=
  memberNames inputs.ctx.cluster inputs.desired

section Steps

variable (s : ClusterStatus ρ) (inputs : PassInputs ρ)

def setEach (ctx : PassContext) (type : ConditionType) (verdicts : List Verdict) :
    ClusterStatus ρ :=
  verdicts.foldl (fun s verdict => s.setCondition ctx type verdict) s

def reportMemberPlacement : ClusterStatus ρ :=
  match inputs.placement with
  | some verdict => s.setCondition inputs.ctx .memberPlacement verdict
  | none => { s with conditions := removeStatusCondition .memberPlacement s.conditions }

def setReady (multiplePrimaries : Bool) : ClusterStatus ρ :=
  let count := toString inputs.ready ++ "/" ++ toString inputs.desired
  let instancesReady := decide (inputs.ready ≥ inputs.desired ∧ inputs.desired > 0)
  if instancesReady && multiplePrimaries then
    (s.setCondition inputs.ctx .ready ⟨.conditionFalse, reasonMultiplePrimaries,
      count ++ " instances ready, but more than one member reports itself master"⟩).setCondition
        inputs.ctx
      .progressing ⟨.conditionFalse, "Reconciled",
        "cluster reconciled; the operator does not choose between masters, see PrimaryResolved"⟩
  else if instancesReady then
    (s.setCondition inputs.ctx .ready ⟨.conditionTrue, "ClusterReady",
      count ++ " instances ready"⟩).setCondition inputs.ctx
      .progressing ⟨.conditionFalse, "Reconciled", "cluster reconciled"⟩
  else
    (s.setCondition inputs.ctx .ready ⟨.conditionFalse, "InstancesNotReady",
      count ++ " instances ready"⟩).setCondition inputs.ctx
      .progressing ⟨.conditionTrue, "InstancesStarting", "waiting for " ++ count ++ " instances"⟩

def finishStatus (since : Option Int) (res : PrimaryResolution) (write : BrokerWrite) :
    ClusterStatus ρ × Option Int :=
  let (s, since) := brokerTier s inputs.ctx since res write
  let s := setEach s inputs.ctx .updating inputs.updating
  let s := setReady s inputs res.multipleMasters
  let s := if inputs.dropUpdating then
    { s with conditions := removeStatusCondition .updating s.conditions } else s
  ({ s with rest := inputs.rest }, since)

/-- The status of a pass that observes the roles, before it is written, and
    since when the Broker writes conflict. -/
def updateStatus (answers : Answers) (positions : Positions) (since : Option Int)
    (write : BrokerWrite) : ClusterStatus ρ × Option Int :=
  let s := reportMemberPlacement s inputs
  let s := setEach s inputs.ctx .bootstrapReady inputs.bootstrap
  let (s, res) := reconcileHAStatus s inputs.ctx inputs.members answers positions
  finishStatus s inputs since res write

def recoveringStatus (reason msg : String) (progressing : ConditionStatus) : ClusterStatus ρ :=
  let s := reportMemberPlacement s inputs
  let s := setEach s inputs.ctx .bootstrapReady inputs.bootstrap
  let s := s.setCondition inputs.ctx .ready ⟨.conditionFalse, reason, msg ++ "; cluster not ready"⟩
  let s := s.setCondition inputs.ctx .progressing ⟨progressing, reason, msg⟩
  { markRolesNotObserved s inputs.ctx reason with rest := inputs.rest }

def failedStatus (ctx : PassContext) (reason cause : String) (progressing : ConditionStatus) :
    ClusterStatus ρ :=
  let s := s.setCondition ctx .ready ⟨.conditionFalse, reason, cause⟩
  let s := s.setCondition ctx .progressing ⟨progressing, reason, cause⟩
  markRolesNotObserved s ctx reason

end Steps

variable {type : ConditionType}

section Specs

variable (s : ClusterStatus ρ) (inputs : PassInputs ρ)

theorem setEach_other {ctx : PassContext} {type other : ConditionType} (verdicts : List Verdict)
    (differs : type ≠ other) :
    (setEach s ctx type verdicts).condition other = s.condition other := by
  induction verdicts generalizing s with
  | nil => rfl
  | cons verdict rest ih =>
    exact (ih (s.setCondition ctx type verdict)).trans
      (s.condition_setCondition_other ctx type verdict differs)

theorem setEach_keeps (ctx : PassContext) (type : ConditionType) (verdicts : List Verdict) :
    (setEach s ctx type verdicts).instances = s.instances ∧
      (setEach s ctx type verdicts).currentPrimary = s.currentPrimary := by
  induction verdicts generalizing s with
  | nil => exact ⟨rfl, rfl⟩
  | cons verdict rest ih => exact ih (s.setCondition ctx type verdict)

theorem removed_other {removed other : ConditionType} (differs : removed ≠ other) :
    ({ s with conditions := removeStatusCondition removed s.conditions } : ClusterStatus
      ρ).condition other =
      s.condition other :=
  find_removeStatusCondition_other differs s.conditions

theorem reportMemberPlacement_other {other : ConditionType} (differs : .memberPlacement ≠ other) :
    (reportMemberPlacement s inputs).condition other = s.condition other := by
  unfold reportMemberPlacement
  split
  · exact s.condition_setCondition_other _ _ _ differs
  · exact removed_other s differs

theorem reportMemberPlacement_keeps :
    (reportMemberPlacement s inputs).instances = s.instances ∧
      (reportMemberPlacement s inputs).currentPrimary = s.currentPrimary := by
  unfold reportMemberPlacement
  split <;> exact ⟨rfl, rfl⟩

theorem setReady_other {multiplePrimaries : Bool} {other : ConditionType} (ready : other ≠ .ready)
    (progressing : other ≠ .progressing) :
    (setReady s inputs multiplePrimaries).condition other = s.condition other := by
  unfold setReady
  dsimp only
  split_ifs <;> simp [Ne.symm ready, Ne.symm progressing]

theorem setReady_keeps (multiplePrimaries : Bool) :
    (setReady s inputs multiplePrimaries).instances = s.instances ∧
      (setReady s inputs multiplePrimaries).currentPrimary = s.currentPrimary := by
  unfold setReady
  dsimp only
  split_ifs <;> exact ⟨rfl, rfl⟩

theorem setReady_multiple : (setReady s inputs true).isTrue .ready = false := by
  unfold setReady
  dsimp only
  split_ifs <;> simp_all

variable {res : PrimaryResolution} {write : BrokerWrite} {since : Option Int}

theorem finishStatus_other
    (other : type ∉ [.brokerReady, .writeEndpointReady, .readEndpointReady, .routingReady])
    (later : type ∉ [.updating, .ready, .progressing]) :
    (finishStatus s inputs since res write).1.condition type = s.condition type := by
  simp only [mem_cons, not_mem_nil, or_false, not_or] at later
  have kept : (setReady
      (setEach (brokerTier s inputs.ctx since res write).1 inputs.ctx .updating inputs.updating)
      inputs res.multipleMasters).condition type = s.condition type := by
    rw [setReady_other _ _ later.2.1 later.2.2, setEach_other _ _ (Ne.symm later.1),
      brokerTier_other _ _ _ _ _ other]
  simp only [finishStatus]
  split_ifs
  · exact (removed_other _ (Ne.symm later.1)).trans kept
  · exact kept

theorem finishStatus_routing :
    (finishStatus s inputs since res write).1.condition .routingReady =
      (brokerTier s inputs.ctx since res write).1.condition .routingReady := by
  have kept : (setReady
      (setEach (brokerTier s inputs.ctx since res write).1 inputs.ctx .updating inputs.updating)
      inputs res.multipleMasters).condition .routingReady =
      (brokerTier s inputs.ctx since res write).1.condition .routingReady := by
    rw [setReady_other _ _ (by decide) (by decide), setEach_other _ _ (by decide)]
  simp only [finishStatus]
  split_ifs
  · exact (removed_other _ (by decide)).trans kept
  · exact kept

theorem finishStatus_ready (multiple : res.multipleMasters = true) :
    (finishStatus s inputs since res write).1.isTrue .ready = false := by
  have never := setReady_multiple
    (setEach (brokerTier s inputs.ctx since res write).1 inputs.ctx .updating inputs.updating)
      inputs
  simp only [finishStatus, multiple]
  split_ifs
  · rw [ClusterStatus.isTrue_eq] at never ⊢
    exact (congrArg (Option.any _) (removed_other _ (by decide))).trans never
  · exact never

theorem finishStatus_keeps :
    (finishStatus s inputs since res write).1.instances = s.instances ∧
      (finishStatus s inputs since res write).1.currentPrimary = s.currentPrimary := by
  have tier := brokerTier_instances s inputs.ctx since res write
  have primary := brokerTier_currentPrimary s inputs.ctx since res write
  have each := setEach_keeps (brokerTier s inputs.ctx since res write).1 inputs.ctx .updating
    inputs.updating
  have last :=
    setReady_keeps
      (setEach (brokerTier s inputs.ctx since res write).1 inputs.ctx .updating inputs.updating)
    inputs res.multipleMasters
  have both : ∀ t : ClusterStatus ρ, t.instances = s.instances →
      t.currentPrimary = s.currentPrimary → (if inputs.dropUpdating then
        { t with conditions := removeStatusCondition .updating t.conditions } else t).instances =
          s.instances ∧
      (if inputs.dropUpdating then
        { t with conditions := removeStatusCondition .updating t.conditions }
          else t).currentPrimary =
        s.currentPrimary := by
    intro t instances primary
    split_ifs <;> exact ⟨instances, primary⟩
  exact both _ (last.1.trans (each.1.trans tier)) (last.2.trans (each.2.trans primary))

end Specs

section Observing

variable (s : ClusterStatus ρ) (inputs : PassInputs ρ) (answers : Answers) (positions : Positions)
  (since : Option Int) (write : BrokerWrite)

def rolePass : RolePass ρ where
  before := setEach (reportMemberPlacement s inputs) inputs.ctx .bootstrapReady inputs.bootstrap
  ctx := inputs.ctx
  members := inputs.members
  answers
  positions

theorem rolePass_before_other (bootstrap : .bootstrapReady ≠ type)
    (placement : .memberPlacement ≠ type) :
    (rolePass s inputs answers positions).before.condition type = s.condition type :=
  (setEach_other _ _ bootstrap).trans (reportMemberPlacement_other s inputs placement)

theorem rolePass_before_instances :
    (rolePass s inputs answers positions).before.instances = s.instances :=
  (setEach_keeps _ _ _ _).1.trans (reportMemberPlacement_keeps s inputs).1

theorem updateStatus_eq :
    updateStatus s inputs answers positions since write =
      finishStatus (rolePass s inputs answers positions).after inputs since
        (rolePass s inputs answers positions).res write := rfl

theorem updateStatus_condition
    (role : type = .primaryResolved ∨ type = .haReady ∨ type = .replicationHealthy) :
    (updateStatus s inputs answers positions since write).1.condition type =
      (rolePass s inputs answers positions).after.condition type := by
  rw [updateStatus_eq]
  rcases role with rfl | rfl | rfl <;> exact finishStatus_other _ _ (by decide) (by decide)

theorem updateStatus_keeps :
    (updateStatus s inputs answers positions since write).1.instances =
        (rolePass s inputs answers positions).instances ∧
      (updateStatus s inputs answers positions since write).1.currentPrimary =
        (rolePass s inputs answers positions).res.currentPrimary := by
  rw [updateStatus_eq]
  exact finishStatus_keeps _ _

end Observing

/-- The roles were not observed: the entries are kept without a role, and no
    condition that rests on one is True. -/
structure Unobserved (stored s : ClusterStatus ρ) : Prop where
  instances : s.instances = stored.instances.map fun inst => { inst with role := roleUnknown }
  conditions : ∀ type ∈ [ConditionType.primaryResolved, .haReady, .routingReady,
    .replicationHealthy],
    s.isTrue type = false

theorem recoveringStatus_unobserved (stored : ClusterStatus ρ) (inputs : PassInputs ρ)
    (reason msg : String) (progressing : ConditionStatus) :
    Unobserved stored (recoveringStatus stored inputs reason msg progressing) := by
  refine ⟨?_, fun _ role => markRolesNotObserved_isTrue _ _ _ role⟩
  have same : (setEach (reportMemberPlacement stored inputs) inputs.ctx .bootstrapReady
      inputs.bootstrap).instances = stored.instances :=
    (setEach_keeps _ _ _ _).1.trans (reportMemberPlacement_keeps stored inputs).1
  rw [← same]
  rfl

theorem failedStatus_unobserved (stored : ClusterStatus ρ) (ctx : PassContext)
    (reason cause : String) (progressing : ConditionStatus) :
    Unobserved stored (failedStatus stored ctx reason cause progressing) :=
  ⟨rfl, fun _ role => markRolesNotObserved_isTrue _ _ _ role⟩

section SplitBrain

/-- The member answered in time, under its own name, as a master that its server
    and its node list bear out. -/
def ActiveMaster (answers : Answers) (now : Int) (m : String) : Prop :=
  ∃ st, answers.Gives m st ∧ Recent (answers.receivedAt m) now ∧ st.current = m ∧
    st.role = roleMaster ∧
    st.serverActive = true ∧ ∃ line, st.nodes.filter (·.name = m) = [line] ∧ line.state = roleMaster

variable {answers : Answers} {now : Int} {m other : String} {members : List String}

theorem ActiveMaster.claims (active : ActiveMaster answers now m) (member : m ∈ members)
    (named : m ≠ "") : (probeAll members answers).claims now m = true := by
  obtain ⟨st, gives, recent, current, role, server, line, own, state⟩ := active
  have alone : st.tally.localEntries = 1 ∧ st.tally.localMaster = true := by
    rw [RoleAnswer.tally_eq]
    refine ⟨?_, all_eq_true.mpr fun n listed => decide_eq_true fun same => ?_⟩
    · simp [countP_eq_length_filter, current, own]
    · have inside : n ∈ st.nodes.filter (·.name = m) :=
        mem_filter.mpr ⟨listed, by simp [same, current]⟩
      rw [own, mem_singleton] at inside
      exact inside ▸ state
  have claim : (observationFromStatus st (answers.receivedAt m)).activeMasterClaim = true := by
    simp [observationFromStatus, role, server, current, named, alone]
  have reply : answers.reply m = .answered 200 (some st) := gives
  simp only [Observations.claims, probeAll_of member, reply, Bool.and_eq_true, decide_eq_true_eq,
    fresh_probeRole_iff, probeRole_role]
  refine ⟨⟨recent, role⟩, ?_⟩
  simp only [probeRole, ne_eq, not_true_eq_false, if_false, current, and_false]
  exact claim

theorem memberNames_ne_empty {cluster : String} {count : Nat}
    (member : m ∈ memberNames cluster count) : m ≠ "" := by
  obtain ⟨i, -, rfl⟩ := mem_map.mp member
  intro empty
  have length := congrArg String.length empty
  simp [String.length_append] at length

theorem two_masters_unresolved {obs : Observations} (first : m ∈ members) (second : other ∈ members)
    (differ : m ≠ other)
    (claim : obs.claims now m = true) (claim' : obs.claims now other = true) :
    (resolvePrimary members obs now).multipleMasters = true ∧
      (resolvePrimary members obs now).status ≠ .conditionTrue := by
  have several : 1 < members.countP (obs.claims now) := by
    rw [countP_eq_length_filter]
    have inside := mem_filter.mpr ⟨first, claim⟩
    have inside' := mem_filter.mpr ⟨second, claim'⟩
    match among : members.filter (obs.claims now) with
    | [] => simp [among] at inside
    | [one] =>
      rw [among, mem_singleton] at inside inside'
      exact absurd (inside.trans inside'.symm) differ
    | one :: two :: rest => simp
  refine ⟨?_, fun resolved => ?_⟩
  · rw [resolvePrimary_eq, PrimaryCount.verdict_multipleMasters]
    exact decide_eq_true (.inr several)
  · -- A resolution counts both as masters.
    obtain ⟨counts, only⟩ := (resolvePrimary_names_iff obs now).mp ⟨resolved, rfl⟩
    have master : ∀ n ∈ members, obs.claims now n = true →
        n = (resolvePrimary members obs now).currentPrimary := by
      intro n member claims
      simp only [Observations.claims, Bool.and_eq_true, decide_eq_true_eq] at claims
      have inside : n ∈ members.filter (obs.isMaster now) :=
        mem_filter.mpr ⟨member, by simp [Observations.isMaster, counts n member, claims.1.2]⟩
      simpa [only] using inside
    exact differ ((master m first claim).trans (master other second claim').symm)

end SplitBrain

section Written

variable [DecidableEq ρ] (stored s : ClusterStatus ρ) (now : Int)

theorem holdObservationTimes_conditions :
    (holdObservationTimes stored s now).conditions = s.conditions := by
  unfold holdObservationTimes
  dsimp only
  split_ifs <;> rfl

theorem holdObservationTimes_currentPrimary :
    (holdObservationTimes stored s now).currentPrimary = s.currentPrimary := by
  unfold holdObservationTimes
  dsimp only
  split_ifs <;> rfl

def writtenStatus (inputs : PassInputs ρ) (answers : Answers) (positions : Positions)
    (since : Option Int) (write : BrokerWrite) : ClusterStatus ρ :=
  holdObservationTimes stored (updateStatus stored inputs answers positions since write).1
    inputs.writtenAt

def writtenRecovering (inputs : PassInputs ρ) (reason msg : String)
    (progressing : ConditionStatus) : ClusterStatus ρ :=
  holdObservationTimes stored (recoveringStatus stored inputs reason msg progressing)
    inputs.writtenAt

theorem hold_isTrue (type : ConditionType) :
    (holdObservationTimes stored s now).isTrue type = s.isTrue type := by
  simp only [ClusterStatus.isTrue, holdObservationTimes_conditions]

/-- Two members that both answer as active masters keep the status from naming a
    primary and from being healthy. -/
theorem split_brain_never_healthy (inputs : PassInputs ρ) (answers : Answers)
    (positions : Positions) (since : Option Int) (write : BrokerWrite) (m other : String)
    (first : m ∈ inputs.members) (second : other ∈ inputs.members) (differ : m ≠ other)
    (active : ActiveMaster answers inputs.ctx.now m)
    (active' : ActiveMaster answers inputs.ctx.now other) :
    (writtenStatus stored inputs answers positions since write).currentPrimary = "" ∧
      ∀ type ∈ [ConditionType.primaryResolved, .haReady, .ready],
        (writtenStatus stored inputs answers positions since write).isTrue type = false := by
  have unresolved : (rolePass stored inputs answers positions).res.multipleMasters = true ∧
      (rolePass stored inputs answers positions).res.status ≠ .conditionTrue :=
    two_masters_unresolved first second differ (active.claims first (memberNames_ne_empty first))
      (active'.claims second (memberNames_ne_empty second))
  have nobody : (rolePass stored inputs answers positions).res.currentPrimary = "" := by
    have status := unresolved.2
    rw [RolePass.res, resolvePrimary_eq] at status ⊢
    exact PrimaryCount.verdict_unresolved status
  refine ⟨?_, fun type among => ?_⟩
  · rw [writtenStatus, holdObservationTimes_currentPrimary,
      (updateStatus_keeps _ _ _ _ _ _).2, nobody]
  · rw [writtenStatus, hold_isTrue]
    simp only [mem_cons, not_mem_nil, or_false] at among
    rcases among with rfl | rfl | rfl
    · rw [ClusterStatus.isTrue_eq, updateStatus_condition _ _ _ _ _ _ (.inl rfl),
        ← ClusterStatus.isTrue_eq, RolePass.after_isTrue_primaryResolved]
      exact decide_eq_false unresolved.2
    · rw [ClusterStatus.isTrue_eq, updateStatus_condition _ _ _ _ _ _ (.inr (.inl rfl)),
        ← ClusterStatus.isTrue_eq, RolePass.after_isTrue_haReady]
      exact decide_eq_false fun ready => unresolved.2 (haReadyCondition_true ready).1
    · rw [updateStatus_eq]
      exact finishStatus_ready _ _ unresolved.1

def rivalAnswer (m : String) : RoleAnswer where
  current := m
  role := "master"
  serverActive := true
  nodes := [⟨"c-0", "master"⟩, ⟨"c-1", "master"⟩]

def rivals : Answers where
  reply m := .answered 200 (some (rivalAnswer m))
  receivedAt _ := 0

def readyInputs (now : Int) : PassInputs Unit where
  ctx := { cluster := "c", generation := 1, now, wall := now }
  desired := 3
  ready := 3
  writtenAt := now
  rest := ()

theorem rivals_never_healthy :
    (writtenStatus { rest := () } (readyInputs 0) rivals (fun _ => none) none
      (.done ⟨2, 2⟩)).currentPrimary = "" ∧
      ∀ type ∈ [ConditionType.primaryResolved, .haReady, .ready],
        (writtenStatus { rest := () } (readyInputs 0) rivals (fun _ => none) none
          (.done ⟨2, 2⟩)).isTrue type = false :=
  split_brain_never_healthy _ (readyInputs 0) rivals _ _ _ "c-0" "c-1" (by decide +kernel)
    (by decide +kernel)
    (by decide)
    ⟨rivalAnswer "c-0", rfl, by decide, rfl, rfl, rfl, ⟨"c-0", "master"⟩, by decide +kernel, rfl⟩
    ⟨rivalAnswer "c-1", rfl, by decide, rfl, rfl, rfl, ⟨"c-1", "master"⟩, by decide +kernel, rfl⟩

end Written
end Controller
