import CubridOperator.Controller.BootstrapKeeps

/-!
The pass over the status of a cluster leaves the records of its bootstrap and
does not call a cluster ready before its recovery is complete.
-/
namespace Controller
open Foundation Program InstanceManager Boot

variable {hashRequest : StartBody → String} {ctx : PassContext} {part : ClusterPart} {v : Nat}
  {b c : CubridCluster}

section Passes

variable {ρ : Type} (s : ClusterStatus ρ) (inputs : PassInputs ρ)

theorem updateStatus_bootstrapReady (unsaid : inputs.bootstrap = []) (answers : Answers)
    (positions : Positions) (since : Option Int) (write : BrokerWrite) :
    (updateStatus s inputs answers positions since write).1.condition .bootstrapReady =
    s.condition .bootstrapReady := by
  rw [updateStatus_eq, finishStatus_other _ _ (by decide) (by decide),
    RolePass.after_other _ (by decide)]
  unfold rolePass
  rw [unsaid]
  exact reportMemberPlacement_other s inputs (by decide)

theorem standaloneBrokerTier_bootstrapReady (server : String) (since : Option Int)
    (write : BrokerWrite) :
    (standaloneBrokerTier s inputs server since write).condition .bootstrapReady =
    s.condition .bootstrapReady := by
  cases write with
  | done available =>
    simp only [standaloneBrokerTier, setStandaloneBrokerConditions, setEndpointConditions]
    repeat rw [ClusterStatus.condition_setCondition_other _ _ _ _ (by decide)]
  | _ => exact brokerTier_other _ _ _ _ _ (by decide)

theorem standaloneStatus_bootstrapReady (server : String) (instances : List InstanceStatus)
    (since : Option Int) (write : BrokerWrite) :
    (standaloneStatus s inputs server instances since write).condition .bootstrapReady =
    s.condition .bootstrapReady := by
  have kept : (setReady
      (standaloneBrokerTier
        (setEach { (reportMemberPlacement s inputs).setCondition inputs.ctx .haReady
      ⟨.conditionFalse, "HADisabled", "highAvailability.enabled is false"⟩ with instances }
        inputs.ctx .updating
      inputs.updating) inputs server since write) inputs false).condition .bootstrapReady =
        s.condition .bootstrapReady := by
    rw [setReady_other _ _ (by decide) (by decide), standaloneBrokerTier_bootstrapReady,
      setEach_other _ _ (by decide)]
    exact (ClusterStatus.condition_setCondition_other _ _ _ _ (by decide)).trans
      (reportMemberPlacement_other s inputs (by decide))
  unfold standaloneStatus
  dsimp only
  split_ifs
  · exact (removed_other _ (by decide)).trans kept
  · exact kept

theorem recoveringStatus_conditions (unsaid : inputs.bootstrap = []) (reason msg : String)
    (progressing : ConditionStatus) :
    (recoveringStatus s inputs reason msg progressing).condition .bootstrapReady =
    s.condition .bootstrapReady ∧
      (recoveringStatus s inputs reason msg progressing).isTrue .ready = false := by
  unfold recoveringStatus
  rw [unsaid]
  constructor
  · refine (markRolesNotObserved_other _ _ _ (by decide)).trans ?_
    rw [ClusterStatus.condition_setCondition_other _ _ _ _ (by decide),
      ClusterStatus.condition_setCondition_other _ _ _ _ (by decide)]
    exact reportMemberPlacement_other s inputs (by decide)
  · refine (congrArg (Option.any _) (markRolesNotObserved_other _ _ _ (by decide))).trans ?_
    simp [ClusterStatus.newCondition]

theorem failedStatus_conditions (reason cause : String) (progressing : ConditionStatus) :
    (failedStatus s ctx reason cause progressing).condition .bootstrapReady =
    s.condition .bootstrapReady ∧
      (failedStatus s ctx reason cause progressing).isTrue .ready = false := by
  unfold failedStatus
  constructor
  · refine (markRolesNotObserved_other _ _ _ (by decide)).trans ?_
    rw [ClusterStatus.condition_setCondition_other _ _ _ _ (by decide),
      ClusterStatus.condition_setCondition_other _ _ _ _ (by decide)]
  · refine (congrArg (Option.any _) (markRolesNotObserved_other _ _ _ (by decide))).trans ?_
    simp [ClusterStatus.newCondition]

theorem holdObservationTimes_rest [DecidableEq ρ] (stored s : ClusterStatus ρ) (t : Int) :
    (holdObservationTimes stored s t).rest = s.rest := by
  unfold holdObservationTimes
  dsimp only
  split_ifs <;> rfl

end Passes

section Writes

structure Tells (c s : CubridCluster) : Prop where
  definition : s.toClusterDefinition = c.toClusterDefinition
  rest : s.status.rest = c.status.rest
  ready : s.status.condition .bootstrapReady = c.status.condition .bootstrapReady

theorem tells_passed (s : Surroundings) : Tells c (c.passed ctx s) := by
  refine ⟨rfl, ?_, ?_⟩ <;> unfold CubridCluster.passed <;> dsimp only <;> split_ifs
  · rfl
  · rfl
  · exact updateStatus_bootstrapReady _ _ rfl _ _ _ _
  · exact standaloneStatus_bootstrapReady _ _ _ _ _ _

theorem tells_recovering (ctx : PassContext) (c : CubridCluster) (s : Surroundings) :
    Tells c (c.recovering ctx s) ∧ (c.recovering ctx s).status.isTrue .ready = false := by
  unfold CubridCluster.recovering
  dsimp only
  exact ⟨⟨rfl, rfl, (recoveringStatus_conditions _ _ rfl _ _ _).1⟩,
    (recoveringStatus_conditions _ _ rfl _ _ _).2⟩

theorem tells_failedChild (reason cause : String) (progressing : ConditionStatus) :
    Tells c (c.failedChild ctx reason cause progressing) ∧
      (c.failedChild ctx reason cause progressing).status.isTrue .ready = false :=
  ⟨⟨rfl, rfl, (failedStatus_conditions _ _ _ _).1⟩, (failedStatus_conditions _ _ _ _).2⟩

variable {s : CubridCluster}

theorem Stood.move (stood : Stood part v b c) (tells : Tells c s) (t : Int)
    (gated : b.spec.recovery.isSome = true → s.status.isTrue .ready = true → c.boot.Complete) :
    ClusterMove b { s with status := holdObservationTimes b.status s.status t } part.seen := by
  have boot : ({ s with status := holdObservationTimes b.status s.status t } : CubridCluster).boot =
      c.boot := by
    have rest := (holdObservationTimes_rest b.status s.status t).trans tells.rest
    unfold CubridCluster.boot CubridCluster.database
    dsimp only
    rw [rest, tells.definition]
  refine ⟨tells.definition.trans stood.definition, boot ▸ stood.moved,
    fun recovers => ⟨fun ready => ?_, fun ready => ?_⟩⟩
  · rw [hold_isTrue] at ready
    exact boot ▸ gated recovers ready
  · rw [hold_isTrue, ClusterStatus.isTrue_eq, tells.ready, ← ClusterStatus.isTrue_eq] at ready
    exact boot ▸ stood.ready recovers ready

theorem obeys_storeStatus (stood : Stood part v b c) (tells : Tells c s) (t : Int)
    (gated : b.spec.recovery.isSome = true → s.status.isTrue .ready = true → c.boot.Complete) :
    ClusterObeys hashRequest (fun _ _ => True) part (storeStatus v s b t) :=
  obeys_write stood.base (stood.move tells t gated) (fun _ => trivial) trivial

end Writes

theorem Stood.note (stood : Stood part v b c) {e : ClusterEntry} (other : breaks e = false) :
    Stood (part.note e) v b c := by
  have stays := Stays.note part other
  refine { stood with moved := ?_ }
  cases stood.moved with
  | same is => exact .same is
  | moved live reaches halt is =>
    exact .moved live (Reaches.mono reaches stays.more)
      (Halt.mono halt stays.more stays.unbroken) is

theorem obeys_reconcileBootstrap (base : part.base = some (v, b)) (sound : b.boot.Sound b)
    (unbroken : Unbroken part.seen) :
    ClusterObeys hashRequest (fun next r => b.spec.recovery.isSome = true ∧
      RecoveryTold next v b r ∨
      b.spec.recovery = none ∧ next = part ∧ r = (b, false)) part
      (reconcileBootstrap hashRequest ctx b) := by
  unfold reconcileBootstrap
  split
  · rename_i uri recovers
    have some_ : b.spec.recovery.isSome = true := by rw [recovers]; rfl
    split_ifs with active
    · exact Follows.mono (obeys_reconcileRecovery base sound unbroken recovers active)
        fun _ _ told => .inl ⟨some_, told⟩
    · refine .inl ⟨some_, Stood.still base rfl rfl id, fun _ => ?_⟩
      have finished : b.status.rest.bootstrap.map (·.phase) = some .complete := by
        simpa [recoveryActive, recovers] using active
      exact Option.map_eq_some_iff.mp finished
  · rename_i plain
    exact .inr ⟨plain, rfl, rfl⟩

theorem obeys_reconcileStatus (base : part.base = some (v, b)) (sound : b.boot.Sound b)
    (unbroken : Unbroken part.seen) :
    ClusterObeys hashRequest (fun _ _ => True) part (reconcileStatus hashRequest ctx v b) := by
  refine Follows.bind (obeys_reconcileBootstrap base sound unbroken) fun next r told => ?_
  obtain ⟨c, active⟩ := r
  rcases told with ⟨recovers, stood, complete⟩ | ⟨plain, rfl, same⟩
  · cases active with
    | true =>
      refine obeys_query fun s => ?_
      have tells := tells_recovering ctx c s
      refine obeys_storeStatus (stood.note rfl) tells.1 _ fun _ ready => ?_
      rw [tells.2] at ready
      cases ready
    | false =>
      have none : reconcileHABootstrap hashRequest ctx c = pure c := by
        unfold reconcileHABootstrap
        rw [if_pos (.inr (.inr (by rw [stood.definition]; exact recovers)))]
      simp only [Bool.false_eq_true, if_false, none]
      exact obeys_query fun s => obeys_storeStatus (stood.note rfl) (tells_passed s) _ fun _ _ =>
        complete rfl
  · cases same
    refine Follows.bind (obeys_reconcileHABootstrap base sound unbroken plain)
      fun last r stood => ?_
    refine obeys_query fun s => obeys_storeStatus (stood.note rfl) (tells_passed s) _
      fun recovers => ?_
    rw [plain] at recovers
    cases recovers

theorem reconcile_obeys (began : Int) :
    ClusterObeys hashRequest (fun _ _ => True)
      { seen := [.began began] } (reconcileCluster hashRequest) := by
  refine obeys_read rfl (fun v b => ?_) trivial
  by_cases sound : b.boot.Sound b
  · refine obeys_now fun t => obeys_query fun answer => ?_
    cases answer with
    | retried => trivial
    | failed reason cause progressing =>
      refine obeys_storeStatus (Stood.still rfl rfl rfl id) (tells_failedChild _ _ _).1 _
        fun _ ready => ?_
      rw [(tells_failedChild _ _ _).2] at ready
      cases ready
    | done => exact obeys_reconcileStatus rfl sound (by simp [OperatorPart.note, Unbroken, breaks])
  · exact obeys_untrusted fun trusts => sound (trusts b List.mem_cons_self)

/-- Every reconcile of a cluster keeps to the rules of its bootstrap, and leaves
    its records sound. -/
theorem cluster_keeps :
    (clusterModel hashRequest).Keeps (clusterRules hashRequest) fun _ _ => True where
  obeys := reconcile_obeys
  wrote sound move := by
    have after := (move.moved.sound sound).persisted
    rw [← persisted_boot, ← move.definition] at after
    exact after
  edited edit _ sound := Boot.Sound.amended hashRequest edit sound

end Controller
