import CubridOperator.Controller.BootstrapProtocol

/-!
The records of a bootstrap stay sound, whatever a reconcile, the API server or
others make of them.
-/
namespace Controller
open Foundation InstanceManager Boot Option

variable {b : CubridCluster} {seen : List ClusterEntry} {x y : Boot}

theorem Boot.Advance.live (advance : Advance b seen x y) (live : x.Live) : y.Live := by
  have phased : ∀ {d : DatabaseStatus} {r : BootstrapStatus}, d.phase ≠ .failed →
      d.haConfigured = false →
      r.phase ≠ .failed ∧ r.phase ≠ .complete → (⟨d, some r⟩ : Boot).Live := by
    refine fun phase unconfigured going => ⟨phase, unconfigured, ?_⟩
    rintro _ ⟨⟩
    exact going
  cases advance with
  | begun => exact phased live.phase live.unconfigured ⟨nofun, nofun⟩
  | created => exact { live with phase := nofun }
  | restored _ at_ =>
    cases at_ with
    | recovery _ is _ =>
      have going := live.recovery _ is
      exact phased nofun live.unconfigured going
  | copying => exact phased live.phase live.unconfigured ⟨nofun, nofun⟩
  | _ => exact { live with }

theorem Boot.Coherent.withDatabase (coherent : x.Coherent b) {d : DatabaseStatus}
    (unmissed : d.bootstrapOperationID = none → d.bootstrapOperationMissingSince = none)
    (next : ∀ s, d.seeding = some s → b.nextPeer d = some s.member)
    (there : d.primaryCreated = x.database.primaryCreated) :
    ({ x with database := d } : Boot).Coherent b :=
  { coherent with
    unmissedCreate := unmissed
    next := next
    begun := fun recovers is => coherent.begun recovers (there.symm.trans is) }

theorem Boot.Coherent.withRecovery (coherent : x.Coherent b) {r r' : BootstrapStatus}
    (is : x.recovery = some r) (target : r'.targetMember = r.targetMember)
    (unmissed : r'.operationID = none → r'.operationMissingSince = none) :
    ({ x with recovery := some r' } : Boot).Coherent b := by
  refine { coherent with
    plain := fun none => ?_, target := ?_, unmissedRecovery := ?_, begun := fun _ _ => rfl }
  · rw [coherent.plain none] at is
    cases is
  · rintro _ ⟨⟩
    exact target.trans (coherent.target r is)
  · rintro _ ⟨⟩
    exact unmissed

theorem Boot.Coherent.withCopy (coherent : x.Coherent b) {s s' : DatabaseSeeding}
    (is : x.database.seeding = some s) (same : s'.member = s.member) :
    ({ x with database := { x.database with seeding := some s' } } : Boot).Coherent b := by
  refine coherent.withDatabase coherent.unmissedCreate ?_ rfl
  rintro _ ⟨⟩
  exact same ▸ coherent.next s is

theorem Boot.Advance.coherent (advance : Advance b seen x y) (coherent : x.Coherent b) :
    y.Coherent b := by
  cases advance with
  | begun recovers =>
    refine { coherent with
      plain := fun none => ?_, target := ?_, unmissedRecovery := ?_, begun := fun _ _ => rfl }
    · cases recovers.symm.trans none
    · rintro _ ⟨⟩
      rfl
    · rintro _ ⟨⟩ _
      rfl
  | created at_ =>
    cases at_ with
    | create plain _ =>
      exact { coherent with unmissedCreate := nofun, begun := fun some => by simp [plain] at some }
  | @restored _ r _ _ _ _ at_ =>
    cases at_ with
    | recovery _ is _ =>
      have kept : Boot.Coherent b ⟨x.database, some { r with operationMissingSince := none }⟩ :=
        coherent.withRecovery is rfl fun _ => rfl
      exact { kept with begun := fun _ _ => rfl }
  | @copying _ r => exact coherent.withRecovery (r := r) rfl rfl (coherent.unmissedRecovery r rfl)
  | chose _ due =>
    refine { coherent with next := ?_ }
    rintro _ ⟨⟩
    exact due
  | backedUp at_ => cases at_ with | backup _ was _ => exact coherent.withCopy was rfl
  | seeded => exact { coherent with next := nofun }

theorem Boot.Reaches.live_coherent (reaches : Reaches b seen x) (live : b.boot.Live)
    (sound : b.boot.Sound b) : x.Live ∧ x.Coherent b := by
  unfold Reaches at reaches
  induction reaches with
  | refl => exact ⟨live, sound.toCoherent⟩
  | tail _ advance ih => exact ⟨advance.live ih.1, advance.coherent ih.2⟩

theorem retried_fields (d : DatabaseStatus) :
    d.retried.bootstrapOperationID = d.bootstrapOperationID ∧
      d.retried.bootstrapOperationMissingSince = d.bootstrapOperationMissingSince ∧
      d.retried.seeding = d.seeding ∧
      d.retried.seededMembers = d.seededMembers ∧ d.retried.primaryCreated = d.primaryCreated ∧
      d.retried.haConfigured = d.haConfigured := by
  unfold DatabaseStatus.retried
  split_ifs <;> exact ⟨rfl, rfl, rfl, rfl, rfl, rfl⟩

theorem recovery_retried_fields (r : BootstrapStatus) :
    r.retried.targetMember = r.targetMember ∧ r.retried.operationMissingSince =
      r.operationMissingSince := by
  unfold BootstrapStatus.retried
  split_ifs <;> exact ⟨rfl, rfl⟩

theorem missedSeeding_next {k : ClusterDefinition} {d : DatabaseStatus} {since : Option Int}
    (next : ∀ s, d.seeding = some s → k.nextPeer d = some s.member) :
    ∀ s, (d.missedSeeding since).seeding = some s → k.nextPeer (d.missedSeeding since) =
      some s.member := by
  intro s is
  obtain ⟨t, was, rfl⟩ := map_eq_some_iff.mp is
  exact (nextPeer_congr k rfl).trans (next t was)

theorem Boot.Coherent.retry {step : BootStep} (coherent : x.Coherent b)
    (at_ : step.At b x) : (step.retry x).Coherent b := by
  have seedless : ∀ d : DatabaseStatus, d.seeding = none → ∀ s, d.retried.seeding = some s →
      b.nextPeer d.retried = some s.member := fun d none s is => by
    rw [(retried_fields d).2.2.1, none] at is
    cases is
  cases at_ with
  | create _ new =>
    obtain ⟨id, since, seeding, seeded, there, -⟩ := retried_fields { x.database with
      bootstrapOperationID := none, bootstrapOperationMissingSince := none }
    refine coherent.withDatabase (fun _ => since) (fun s is => ?_) there
    exact (nextPeer_congr _ seeded).trans (coherent.next s (seeding.symm.trans is))
  | recovery _ is _ =>
    obtain ⟨target, since⟩ := recovery_retried_fields { (_ : BootstrapStatus) with
      operationMissingSince := none }
    exact coherent.withRecovery is target fun _ => since
  | _ =>
    obtain ⟨id, since, -, -, there, -⟩ := retried_fields { x.database with seeding := none }
    exact coherent.withDatabase
      (fun none => since.trans (coherent.unmissedCreate (id.symm.trans none)))
        (seedless _ rfl) there

theorem Boot.Coherent.miss {step : BootStep} {since : Option Int} (coherent : x.Coherent b)
    (at_ : step.At b x) (recorded : since = none ∨ step.recorded x.database ≠ none) :
    (step.miss x since).Coherent b := by
  cases at_ with
  | create _ _ =>
    refine coherent.withDatabase (fun none => ?_) coherent.next rfl
    exact recorded.resolve_right fun some => some none
  | recovery _ is _ =>
    exact coherent.withRecovery is rfl fun none => recorded.resolve_right fun some => some none
  | _ => exact coherent.withDatabase coherent.unmissedCreate (missedSeeding_next coherent.next) rfl

theorem Boot.Coherent.failedRecovery (coherent : x.Coherent b) :
    ({ x with recovery := x.recovery.map ({ · with phase := .failed }) } : Boot).Coherent b := by
  cases is : x.recovery with
  | none =>
    have same : ({ x with recovery := none } : Boot) = x := by rw [← is]
    rw [map_none, same]
    exact coherent
  | some r => exact coherent.withRecovery is rfl (coherent.unmissedRecovery r is)

theorem Boot.Coherent.fail {step : BootStep} (coherent : x.Coherent b) :
    (step.fail x).Coherent b := by
  cases step with
  | recovery => exact coherent.failedRecovery
  | _ => exact coherent.withDatabase coherent.unmissedCreate coherent.next rfl

theorem Boot.Halt.coherent (halt : Halt b seen x y) (coherent : x.Coherent b) :
    y.Coherent b := by
  cases halt with
  | hold => exact coherent
  | running at_ =>
    cases at_ with
    | create => exact coherent.withDatabase nofun coherent.next rfl
    | recovery _ is _ => exact coherent.withRecovery is rfl nofun
    | backup _ was | restore _ was => exact coherent.withCopy was rfl
  | progressing is => exact coherent.withRecovery is rfl fun _ => rfl
  | failed at_ => exact coherent.retry at_
  | missing at_ recorded => exact coherent.miss at_ (.inr (by rw [recorded]; simp))
  | lost at_ recorded => exact (coherent.miss at_ (.inr (by rw [recorded]; simp))).fail
  | stopped at_ => exact (coherent.miss at_ (.inl rfl)).fail
  | contradicted => exact coherent.fail
  | invalid => exact coherent.failedRecovery
  | mismatched =>
    exact coherent.withDatabase coherent.unmissedCreate (missedSeeding_next coherent.next) rfl
  | configured => exact coherent.withDatabase coherent.unmissedCreate nofun rfl
  | recovered _ is => exact coherent.withRecovery is rfl fun _ => rfl

/-- The record of a step's operation was missed for longer than is waited. -/
def Boot.Lost (b : CubridCluster) (seen : List ClusterEntry) (x : Boot) : Prop :=
  ∃ (step : BootStep) (id : OperationID) (since t : Int), step.At b x ∧
    step.recorded x.database = some id ∧
    .missing (step.member b) id ∈ seen ∧ Since seen (step.since x.database) since ∧ .time t ∈ seen ∧
    t - since > recoveryOperationMissingWait

/-- What a reconcile leaves of a bootstrap: it goes on, it has failed, it is on
    every member, or a standalone one is restored. -/
inductive Boot.Ends (b : CubridCluster) (seen : List ClusterEntry) (x y : Boot) : Prop
  | live (live : y.Live)
  | failed (unconfigured : y.database.haConfigured = false) (incomplete : ¬ y.Complete)
      (owned : y.database.phase = .failed → y.database.primaryCreated = true ∨
        b.spec.recovery = none)
      (why : Unbroken seen ∨ Lost b seen x)
  | configured (is : y.database.haConfigured = true) (there : y.database.primaryCreated = true)
      (all : b.nextPeer y.database = none) (going : y.database.phase ≠ .failed ∧ ¬ y.GivenUp)
  | recovered (unconfigured : y.database.haConfigured = false)
      (standalone : b.spec.highAvailability = false)
      (restored : ∃ r id op, y.recovery = some r ∧ r.operationID = some id ∧
        .polled b.firstMember id op ∈ seen ∧
        op.state = .completed) (going : y.database.phase ≠ .failed ∧ ¬ y.GivenUp)

theorem Boot.Live.going (live : x.Live) : x.database.phase ≠ .failed ∧ ¬ x.GivenUp :=
  ⟨live.phase, fun ⟨r, is, failed⟩ => (live.recovery r is).1 failed⟩

theorem Boot.Live.incomplete (live : x.Live) : ¬ x.Complete :=
  fun ⟨r, is, done⟩ => (live.recovery r is).2 done

theorem Boot.Halt.ends (halt : Halt b seen x y) (live : x.Live) : Ends b seen x y := by
  have kept : ∀ {d : DatabaseStatus}, d.haConfigured = x.database.haConfigured → d.phase ≠ .failed →
      Ends b seen x ⟨d, x.recovery⟩ :=
      fun same going => .live ⟨going, same.trans live.unconfigured, live.recovery⟩
  have phased : ∀ {r : BootstrapStatus}, r.phase ≠ .failed ∧ r.phase ≠ .complete →
      Ends b seen x ⟨x.database, some r⟩ := by
    intro r going
    refine .live ⟨live.phase, live.unconfigured, ?_⟩
    rintro _ ⟨⟩
    exact going
  have failed : ∀ {d : DatabaseStatus}, d.haConfigured = x.database.haConfigured →
      d.primaryCreated = true ∨ b.spec.recovery = none → Unbroken seen ∨ Lost b seen x →
      Ends b seen x ⟨{ d with phase := .failed }, x.recovery⟩ := fun same owned why =>
    .failed (same.trans live.unconfigured) live.incomplete (fun _ => owned) why
  have unrecovered : ∀ {r : Option BootstrapStatus}, Unbroken seen ∨ Lost b seen x →
      Ends b seen x ⟨x.database, r.map ({ · with phase := .failed })⟩ := by
    intro r why
    refine .failed live.unconfigured ?_ (fun is => absurd is live.phase) why
    rintro ⟨_, is, done⟩
    obtain ⟨r₀, -, rfl⟩ := map_eq_some_iff.mp is
    cases done
  have retried : ∀ {d : DatabaseStatus}, d.haConfigured = x.database.haConfigured →
      d.phase = x.database.phase →
      d.primaryCreated = true ∨ b.spec.recovery = none → Unbroken seen →
      Ends b seen x ⟨d.retried, x.recovery⟩ := by
    intro d same phase owned unbroken
    unfold DatabaseStatus.retried
    split_ifs
    · exact kept same (phase ▸ live.phase)
    · exact failed same owned (.inl unbroken)
  have ended : ∀ {step : BootStep} {since : Option Int}, step.At b x → Unbroken seen ∨
      Lost b seen x → Ends b seen x (step.fail (step.miss x since)) := by
    intro step since at_ why
    cases at_ with
    | create plain _ => exact failed rfl (.inr plain) why
    | recovery => exact unrecovered why
    | _ => exact failed rfl (.inl ‹_›) why
  cases halt with
  | running at_ _ going =>
    cases at_ with
    | create => exact kept rfl (by simp)
    | recovery => exact phased (by rcases going with rfl | rfl <;> simp)
    | _ => exact kept rfl live.phase
  | progressing is going => exact phased (by rcases going with rfl | rfl <;> simp)
  | failed at_ _ unbroken =>
    cases at_ with
    | create plain _ => exact retried rfl rfl (.inr plain) unbroken
    | @recovery _ r _ is _ =>
      have going := live.recovery r is
      unfold BootStep.retry BootstrapStatus.retried
      dsimp only
      split_ifs
      · exact phased going
      · exact @unrecovered (some { r with operationMissingSince := none }) (.inl unbroken)
    | _ => exact retried rfl rfl (.inl ‹_›) unbroken
  | missing at_ =>
    cases at_ with
    | recovery _ is _ =>
      have going := live.recovery _ is
      exact phased going
    | _ => exact kept rfl live.phase
  | lost at_ recorded told from_ now_ late =>
    exact ended at_ (.inr ⟨_, _, _, _, at_, recorded, told, from_, now_, late⟩)
  | stopped at_ unbroken => exact ended at_ (.inl unbroken)
  | contradicted at_ unbroken =>
    cases at_ with | restore there _ => exact failed rfl (.inl there) (.inl unbroken)
  | invalid unbroken => exact unrecovered (.inl unbroken)
  | configured there all => exact .configured rfl there all live.going
  | recovered standalone _ recorded told done =>
    refine .recovered live.unconfigured standalone ⟨_, _, _, rfl, recorded, told, done⟩
      ⟨live.phase, ?_⟩
    rintro ⟨_, ⟨⟩, ⟨⟩⟩
  | _ => exact kept rfl live.phase

theorem follow_of_none (plain : x.recovery = none) : x.follow = x := by
  obtain ⟨d, r⟩ := x
  obtain rfl : r = none := plain
  rfl

theorem follow_of_live (live : x.database.phase ≠ .failed ∧ x.database.haConfigured = false) :
    x.follow = x := by
  obtain ⟨d, _ | r⟩ := x
  · rfl
  · dsimp only at live
    simp [Boot.follow, live.1, live.2]

theorem follow_recovery (x : Boot) :
    x.follow.recovery = x.recovery.map fun r =>
      if x.database.haConfigured then { r with phase := .complete }
      else if x.database.phase = .failed then { r with phase := .failed } else r := rfl

theorem Boot.Coherent.follow {x₀ : Boot} (coherent : x.Coherent b) (ends : Ends b seen x₀ x) :
    x.follow.Sound b := by
  have kept : ∀ r, x.follow.recovery = some r → ∃ r₀, x.recovery = some r₀ ∧
      r.targetMember = r₀.targetMember ∧
      r.operationID = r₀.operationID ∧ r.operationMissingSince = r₀.operationMissingSince := by
    intro r is
    obtain ⟨r₀, was, rfl⟩ := map_eq_some_iff.mp is
    refine ⟨r₀, was, ?_⟩
    split_ifs <;> exact ⟨rfl, rfl, rfl⟩
  -- A database that is ended is of a recovery that has begun, and ended one way.
  have begun : x.database.haConfigured = true ∨ x.database.phase = .failed →
      b.spec.recovery.isSome = true →
      (∃ r, x.recovery = some r) ∧
      (x.database.phase = .failed → ¬ x.database.haConfigured = true) := by
    intro done recovers
    have there : x.database.primaryCreated = true → ∃ r, x.recovery = some r := fun there =>
      isSome_iff_exists.mp (coherent.begun recovers there)
    cases ends with
    | live live => simp [live.unconfigured, live.phase] at done
    | failed unconfigured _ owned =>
      rcases owned (by simpa [unconfigured] using done) with made | plain
      · exact ⟨there made, fun _ => by simp [unconfigured]⟩
      · simp [plain] at recovers
    | configured _ made _ going => exact ⟨there made, fun is => absurd is going.1⟩
    | recovered unconfigured _ _ going => simp [unconfigured, going.1] at done
  refine ⟨⟨?_, ?_, coherent.unmissedCreate, ?_, coherent.next, ?_⟩, ?_, ?_⟩
  · intro plain
    rw [follow_recovery, coherent.plain plain]
    rfl
  · intro r is
    obtain ⟨r₀, was, target, -⟩ := kept r is
    exact target.trans (coherent.target r₀ was)
  · intro r is new
    obtain ⟨r₀, was, -, id, since⟩ := kept r is
    exact since.trans (coherent.unmissedRecovery r₀ was (id.symm.trans new))
  · intro recovers there
    rw [follow_recovery, isSome_map]
    exact coherent.begun recovers there
  · intro (configured : x.database.haConfigured = true) recovers
    obtain ⟨⟨r, is⟩, -⟩ := begun (.inl configured) recovers
    refine ⟨{ r with phase := .complete }, ?_, rfl⟩
    rw [follow_recovery, is, map_some, if_pos configured]
  · intro (failed : x.database.phase = .failed) recovers
    obtain ⟨⟨r, is⟩, unconfigured⟩ := begun (.inr failed) recovers
    refine ⟨{ r with phase := .failed }, ?_, rfl⟩
    rw [follow_recovery, is, map_some, if_neg (unconfigured failed), if_pos failed]

theorem Boot.Moved.sound (moved : Moved b seen y) (sound : b.boot.Sound b) :
    y.Sound b := by
  cases moved with
  | same is => exact is ▸ sound
  | moved live reaches halt is =>
    obtain ⟨live', coherent⟩ := reaches.live_coherent live sound
    exact is ▸ (halt.coherent coherent).follow (halt.ends live')

def Boot.persisted (x : Boot) : Boot :=
  ⟨x.database.persisted, x.recovery.map BootstrapStatus.persisted⟩

theorem persisted_boot (c : CubridCluster) : c.persisted.boot = c.boot.persisted := by
  have found : c.persisted.status.rest.databases.find? (·.name = c.firstDatabase) =
      (c.status.rest.databases.find? (·.name = c.firstDatabase)).map DatabaseStatus.persisted :=
      List.find?_map
  have database : c.persisted.database = c.database.persisted := by
    unfold CubridCluster.database
    rw [show c.persisted.firstDatabase = c.firstDatabase from rfl, found]
    cases c.status.rest.databases.find? (·.name = c.firstDatabase) <;> rfl
  exact congrArg (Boot.mk · _) database

theorem Boot.Sound.persisted {k : ClusterDefinition} (sound : x.Sound k) : x.persisted.Sound k := by
  obtain ⟨⟨plain, target, unmissedCreate, unmissedRecovery, next, begun⟩, configured, failed⟩ :=
    sound
  have recovery : ∀ r, x.persisted.recovery = some r → ∃ r₀, x.recovery = some r₀ ∧
      r = r₀.persisted := by
    intro r is
    obtain ⟨r₀, was, rfl⟩ := map_eq_some_iff.mp is
    exact ⟨r₀, was, rfl⟩
  refine ⟨⟨fun none => ?_, fun r is => ?_, fun new => ?_, fun r is new => ?_, fun s is => ?_,
    fun recovers there => ?_⟩, fun ended recovers => ?_, fun ended recovers => ?_⟩
  · exact map_eq_none_iff.mpr (plain none)
  · obtain ⟨r₀, was, rfl⟩ := recovery r is
    exact target r₀ was
  · exact map_eq_none_iff.mpr (unmissedCreate new)
  · obtain ⟨r₀, was, rfl⟩ := recovery r is
    exact map_eq_none_iff.mpr (unmissedRecovery r₀ was new)
  · obtain ⟨s₀, was, rfl⟩ := map_eq_some_iff.mp is
    exact (nextPeer_congr k rfl).trans (next s₀ was)
  · exact (isSome_map ..).trans (begun recovers there)
  · obtain ⟨r, is, done⟩ := configured ended recovers
    exact ⟨r.persisted, map_eq_some_iff.mpr ⟨r, is, rfl⟩, done⟩
  · obtain ⟨r, is, done⟩ := failed ended recovers
    exact ⟨r.persisted, map_eq_some_iff.mpr ⟨r, is, rfl⟩, done⟩

theorem Boot.Sound.amended (hashRequest : StartBody → String) (edit : ClusterEdit)
    (sound : b.boot.Sound b) :
    ((clusterModel hashRequest).amend edit b).boot.Sound
    ((clusterModel hashRequest).amend edit b).toClusterDefinition :=
  { sound with }

theorem createdCluster_sound (c : CubridCluster) :
    c.created.boot.Sound c.created.toClusterDefinition :=
  ⟨⟨fun _ => rfl, nofun, fun _ => rfl, nofun, nofun, nofun⟩, nofun, nofun⟩

end Controller
