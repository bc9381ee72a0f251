import CubridOperator.Controller.BootstrapSound
import CubridOperator.Controller.SeedingProtocol

/-!
Every reconcile of a cluster keeps to the rules of its bootstrap.
-/
namespace Controller
open Foundation Program InstanceManager Boot Bool

variable {hashRequest : StartBody → String} {ctx : PassContext} {part : ClusterPart} {v : Nat}
  {b c : CubridCluster}

theorem Going.live_coherent (g : Going part v b c) : c.boot.Live ∧ c.boot.Coherent b :=
  g.reaches.live_coherent g.live g.sound

structure Stood (part : ClusterPart) (v : Nat) (b c : CubridCluster) : Prop where
  base : part.base = some (v, b)
  definition : c.toClusterDefinition = b.toClusterDefinition
  moved : Moved b part.seen c.boot
  ready : b.spec.recovery.isSome = true → c.status.isTrue .bootstrapReady = true →
    b.status.isTrue .bootstrapReady = true ∨ c.boot.Complete

theorem Stood.still (base : part.base = some (v, b))
    (definition : c.toClusterDefinition = b.toClusterDefinition) (boot : c.boot = b.boot)
    (ready : c.status.isTrue .bootstrapReady = true → b.status.isTrue .bootstrapReady = true) :
    Stood part v b c :=
  ⟨base, definition, .same boot, fun _ is => .inl (ready is)⟩

theorem Halted.stood (halted : Halted part v b b.boot.recovery c) (plain : b.spec.recovery = none) :
    Stood part v b c where
  base := halted.base
  definition := halted.definition
  moved := by
    obtain ⟨x, reaches, halt⟩ := halted.halts
    have none := halted.recovery.trans (halted.sound.plain plain)
    exact .moved halted.live reaches halt (follow_of_none none).symm
  ready recovers := by
    rw [plain] at recovers
    cases recovers

theorem Going.stand {next : ClusterPart} {r : CubridCluster} (g : Going part v b c)
    (on : Extends part next) (definition : r.toClusterDefinition = c.toClusterDefinition)
    (halt : Halt b next.seen c.boot r.boot) (database : r.boot.database = c.boot.database)
    (ready : r.status.isTrue .bootstrapReady = true → r.boot.Complete) : Stood next v b r where
  base := on.base.trans g.base
  definition := definition.trans g.definition
  moved := by
    have live := g.live_coherent.1
    refine .moved g.live (Reaches.mono g.reaches on.more) halt (follow_of_live ?_).symm
    rw [database]
    exact ⟨live.phase, live.unconfigured⟩
  ready _ is := .inr (ready is)

def Untouched (b c : CubridCluster) : Prop :=
  c.database.seeding = b.database.seeding ∧ c.database.seededMembers = b.database.seededMembers

theorem Untouched.withDatabase (untouched : Untouched b c) {d : DatabaseStatus}
    (named : d.name = c.firstDatabase)
    (same : d.seeding = c.database.seeding ∧ d.seededMembers = c.database.seededMembers) :
    Untouched b (c.withDatabase d) := by
  unfold Untouched
  rw [show (c.withDatabase d).database = d from congrArg Boot.database (withDatabase_boot c named)]
  exact ⟨same.1.trans untouched.1, same.2.trans untouched.2⟩

theorem obeys_createOperation (g : Going part v b c) (plain : b.spec.recovery = none)
    (new : c.database.primaryCreated = false) :
    ClusterObeys hashRequest (fun next r => OperationTold part next v b c .create r) part
      (createOperation hashRequest ctx c) := by
  have at_ : BootStep.At b c.boot .create := .create plain new
  unfold createOperation
  dsimp only
  rw [show c.firstMember = b.firstMember from g.firstMember]
  split
  · rename_i id is
    refine Follows.mono (obeys_pollStep g.base (g.poll at_ is)) fun next r ⟨on, told⟩ => ?_
    exact g.polled on at_ told is ⟨fun _ => rfl, fun _ => rfl, fun _ => rfl⟩
  · rename_i unrecorded
    rw [g.definition]
    have start : Boot.Send b part.seen hashRequest b.firstMember _ :=
      ⟨g.live, g.unbroken, _, g.reaches, .create at_ unrecorded⟩
    refine Follows.bind (obeys_startStep g.base start) fun next r ⟨stays, told⟩ => ?_
    match r with
    | .ok (op, followed) => exact ⟨stays, told.read unrecorded rfl rfl⟩
    | .error r =>
      have halted := g.start_halts stays at_ told rfl rfl ⟨rfl, rfl⟩
      refine halted rfl ?_ rfl
      have same : c.database = { c.database with
          bootstrapOperationID := none, bootstrapOperationMissingSince := none } := by
        rw [← g.live_coherent.2.unmissedCreate unrecorded, ← unrecorded]
        rfl
      exact congrArg (fun d : DatabaseStatus => Boot.mk d.retried c.boot.recovery) same

theorem Going.created {op : Operation} (g : Going part v b c) (at_ : BootStep.At b c.boot .create)
    (read : Boot.Read part.seen b c.database .create op) (done : op.state = .completed)
    (untouched : Untouched b c) :
    Copying part v b (c.withDatabase { c.database with
      bootstrapOperationID := some op.id, bootstrapOperationMissingSince := none, phase := .created
      primaryCreated := true }) := by
  have boot := withDatabase_boot c (d := { c.database with
    bootstrapOperationID := some op.id, bootstrapOperationMissingSince := none, phase := .created
    primaryCreated := true }) c.database_name
  refine ⟨g.advance rfl ?_ id, congrArg (·.database.primaryCreated) boot, .inr ?_⟩
  · rw [boot]
    exact .created at_ read done
  · exact untouched.withDatabase c.database_name ⟨rfl, rfl⟩

theorem obeys_concludeCreate {op : Operation} (g : Going part v b c)
    (plain : b.spec.recovery = none) (new : c.database.primaryCreated = false)
    (read : Boot.Read part.seen b c.database .create op) (untouched : Untouched b c) :
    ClusterObeys hashRequest (fun next r => Halted next v b c.boot.recovery r) part
      (concludeCreate hashRequest ctx c op) := by
  have at_ : BootStep.At b c.boot .create := .create plain new
  have on := (Stays.refl part).extends
  unfold concludeCreate
  dsimp only
  rw [show c.firstMember = b.firstMember from g.firstMember]
  split
  · rename_i done
    have copying := g.created at_ read done untouched
    exact obeys_reconcileSeeding copying
  · rename_i failed
    have boot := withDatabase_boot c (d := { c.database with
      bootstrapOperationID := none, bootstrapOperationMissingSince := none }) c.database_name
    refine g.halt on (bootstrapStepFailed_definition _ _ _ _) ?_ ?_
      (bootstrapStepFailed_bootstrapReady _ _ _ _)
    · rw [bootstrapStepFailed_boot]
      rfl
    · rw [bootstrapStepFailed_boot, show CubridCluster.database _ = _ from congrArg
        Boot.database boot]
      exact .failed at_ (.inl ⟨op, read, failed⟩) g.unbroken
  · have boot := withDatabase_boot c (d := { c.database with
      bootstrapOperationID := some op.id, bootstrapOperationMissingSince := none,
      phase := .creating }) c.database_name
    refine g.halt on rfl rfl ?_ (hold_bootstrapReady _ _ _ _)
    rw [hold_boot, boot]
    exact .running at_ read (.inl rfl)

theorem obeys_reconcileHABootstrap (base : part.base = some (v, b)) (sound : b.boot.Sound b)
    (unbroken : Unbroken part.seen) (plain : b.spec.recovery = none) :
    ClusterObeys hashRequest (fun next r => Stood next v b r) part
      (reconcileHABootstrap hashRequest ctx b) := by
  have self : (b.withDatabase b.database).boot = b.boot := withDatabase_self b
  have database : (b.withDatabase b.database).database = b.database := congrArg Boot.database self
  unfold reconcileHABootstrap
  dsimp only
  split_ifs with apart ended there
  · exact Stood.still base rfl rfl id
  · exact Stood.still base rfl self id
  all_goals
    rw [database] at ended there
    push Not at ended
    have live : b.boot.Live := by
      refine ⟨ended.1, not_eq_true _ ▸ ended.2, fun r is => ?_⟩
      rw [sound.plain plain] at is
      cases is
    have going : Going part v b (b.withDatabase b.database) :=
      ⟨base, sound, live, unbroken, rfl, self ▸ .refl, id⟩
    have untouched : Untouched b (b.withDatabase b.database) :=
      Untouched.withDatabase ⟨rfl, rfl⟩ b.database_name ⟨rfl, rfl⟩
  · have copying : Copying part v b (b.withDatabase b.database) :=
      ⟨going, by rw [database]; exact there, .inr untouched⟩
    have obeys : ClusterObeys hashRequest _ part
        (reconcileSeeding hashRequest ctx (b.withDatabase b.database) b.firstMember) :=
        obeys_reconcileSeeding copying
    exact Follows.mono obeys fun next r halted => Halted.stood halted plain
  · have new : (b.withDatabase b.database).database.primaryCreated = false := by
      rw [database]
      exact not_eq_true _ ▸ there
    refine Follows.bind (obeys_createOperation going plain new) fun next r told => ?_
    cases r with
    | error r => exact Halted.stood told plain
    | ok op =>
      obtain ⟨stays, read⟩ := told
      exact Follows.mono (obeys_concludeCreate (going.stays stays) plain new read untouched)
        fun last r halted =>
        Halted.stood halted plain

section Recovering

variable {uri : String} {boot : BootstrapStatus}

structure Recovering (part : ClusterPart) (v : Nat) (b c : CubridCluster) (uri : String)
    (boot : BootstrapStatus) : Prop extends Going part v b c where
  recovers : b.spec.recovery = some uri
  is : c.boot.recovery = some boot

/-- The target is not restored yet. -/
structure Restoring (part : ClusterPart) (v : Nat) (b c : CubridCluster) (uri : String)
    (boot : BootstrapStatus) : Prop extends Recovering part v b c uri boot where
  new : b.spec.highAvailability = true → c.database.primaryCreated = false

theorem Restoring.at_ (g : Restoring part v b c uri boot) :
    BootStep.At b c.boot (.recovery uri boot) :=
  .recovery g.recovers g.is g.new

theorem Restoring.stays {next : ClusterPart} (g : Restoring part v b c uri boot)
    (stays : Stays part next) : Restoring next v b c uri boot :=
  { g with toGoing := g.toGoing.stays stays }

structure RecoveryTold (part : ClusterPart) (v : Nat) (b : CubridCluster)
    (r : CubridCluster × Bool) : Prop where
  stood : Stood part v b r.1
  complete : r.2 = false → r.1.boot.Complete

theorem Stood.active (stood : Stood part v b c) : RecoveryTold part v b (c, true) := ⟨stood, nofun⟩

theorem held_unready {reason msg : String} {P : Prop} :
    (c.hold ctx reason msg).status.isTrue .bootstrapReady = true → P := fun is => by
  rw [hold_bootstrapReady] at is
  cases is

theorem Recovering.hold (g : Recovering part v b c uri boot) (reason msg : String) :
    Stood part v b (c.hold ctx reason msg) :=
  g.toGoing.stand (Stays.refl part).extends rfl .hold rfl held_unready

theorem Restoring.retried (g : Restoring part v b c uri boot) (ctx : PassContext) (why : String)
    (failed : AttemptFailed part.seen b c.database (.recovery uri boot)) :
    Stood part v b (restoreAttemptFailed ctx c
      { boot with operationMissingSince := none } why) := by
  have boot := restoreAttemptFailed_boot c ctx { boot with operationMissingSince := none } why
  refine g.toGoing.stand (Stays.refl part).extends (restoreAttemptFailed_definition _ _ _ _) ?_ ?_
    fun is => ?_
  · rw [boot]
    exact .failed g.at_ failed g.unbroken
  · rw [boot]
    rfl
  · rw [restoreAttemptFailed_bootstrapReady] at is
    cases is

theorem restoreProgress_phase (state : OperationState) :
    (restoreProgress state).1 = .preparing ∨ (restoreProgress state).1 = .restoring := by
  cases state <;> simp [restoreProgress]

theorem obeys_startRecovery {bucket pathPrefix : String} (g : Restoring part v b c uri boot)
    (unstarted : boot.operationID = none) :
    ClusterObeys hashRequest (fun next r => Stood next v b r) part
      (startRecovery hashRequest ctx c boot uri bucket pathPrefix) := by
  have unmissed : { boot with operationMissingSince := none } = boot := by
    rw [← g.live_coherent.2.unmissedRecovery boot g.is unstarted]
  have start : Boot.Send b part.seen hashRequest b.firstMember
      (b.recoveryRequest hashRequest uri bucket pathPrefix boot.attempts) :=
    ⟨g.live, g.unbroken, _, g.reaches, .recovery g.at_ unstarted⟩
  unfold startRecovery
  rw [g.definition]
  split
  · exact g.hold _ _
  · refine Follows.bind (obeys_startOrFollow g.base start) fun next r ⟨stays, told⟩ => ?_
    have g := g.stays stays
    have running : ∀ op, Boot.Read next.seen b c.database (.recovery uri boot) op →
        Stood next v b (setRestoreProgress ctx c
          { boot with operationID := some op.id } op.state) := fun op read =>
      g.toGoing.stand (Stays.refl next).extends rfl
        (.running g.at_ read (restoreProgress_phase op.state)) rfl held_unready
    have unrecorded : Boot.Read next.seen b c.database (.recovery uri boot) =
        fun op => ReadAs next.seen b.firstMember .restore
          (b.recoveryIdempotencyKey uri boot.attempts) op none := by
      unfold Boot.Read
      rw [show (BootStep.recovery uri boot).recorded c.database = none from unstarted]
      rfl
    cases told with
    | answered told => exact running _ (unrecorded ▸ .answered told ⟨rfl, rfl⟩)
    | followed told => exact running _ (unrecorded ▸ .found told)
    | @refused e e₀ told cause =>
      dsimp only
      by_cases refused : e.cause = .requestRefused
      · rw [if_pos refused]
        have retried := g.retried ctx e.message (.inr ⟨_, _, told, rfl, rfl, cause⟩)
        rw [unmissed] at retried
        exact retried
      · rw [if_neg refused]
        exact g.hold _ _
    | failed other =>
      dsimp only
      rw [if_neg other]
      exact g.hold _ _

theorem obeys_restoreOperationMissing {id : OperationID} {before : ClusterPart}
    (g : Restoring before v b c uri boot) (on : Extends before part)
    (recorded : boot.operationID = some id) (told : .missing b.firstMember id ∈ part.seen) :
    ClusterObeys hashRequest (fun next r => Stood next v b r) part
      (restoreOperationMissing ctx c boot id) := by
  refine obeys_missing on told fun next since t on told from_ now_ => ?_
  split_ifs with late
  · have halt : Halt b next.seen _ _ := .lost g.at_ recorded told from_ now_ late
    exact g.toGoing.stand on rfl halt rfl held_unready
  · exact g.toGoing.stand on rfl (.missing g.at_ recorded told from_) rfl held_unready

theorem Halted.concludeRecovery (halted : Halted part v b (some boot) c) :
    RecoveryTold part v b (concludeRecovery c boot) := by
  obtain ⟨x, reaches, halt⟩ := halted.halts
  have moved : ∀ r : CubridCluster, r.boot = c.boot.follow → Moved b part.seen r.boot := fun r is =>
    .moved halted.live reaches halt is
  have follow : c.boot.follow =
      ⟨c.database, some (if c.database.haConfigured then { boot with phase := .complete }
      else if c.database.phase = .failed then { boot with phase := .failed } else boot)⟩ := by
    unfold Boot.follow
    rw [halted.recovery]
    rfl
  unfold Controller.concludeRecovery
  split_ifs with configured failed
  · have is : (c.withBootstrap { boot with phase := .complete }).boot = c.boot.follow := by
      rw [follow, if_pos configured]
      rfl
    exact ⟨⟨halted.base, halted.definition, moved _ is, fun _ _ => .inr ⟨_, rfl, rfl⟩⟩,
      fun _ => ⟨_, rfl, rfl⟩⟩
  · have is : (c.withBootstrap { boot with phase := .failed }).boot = c.boot.follow := by
      rw [follow, if_neg configured, if_pos failed]
      rfl
    refine ⟨⟨halted.base, halted.definition, moved _ is, fun _ ready => ?_⟩, nofun⟩
    exact .inl ((halted.ready ready).resolve_right configured)
  · have is : c.boot = c.boot.follow := by
      rw [follow, if_neg configured, if_neg failed, ← halted.recovery]
      rfl
    refine ⟨⟨halted.base, halted.definition, moved _ is, fun _ ready => ?_⟩, nofun⟩
    exact .inl ((halted.ready ready).resolve_right configured)

theorem obeys_seedRecovered (g : Recovering part v b c uri boot)
    (there : c.database.primaryCreated = true) (untouched : Untouched b c) :
    ClusterObeys hashRequest (fun next r => RecoveryTold next v b r) part
      (seedRecovered hashRequest ctx c boot) := by
  unfold seedRecovered
  rw [if_neg (show c.database.phase ≠ .failed from g.live_coherent.1.phase)]
  dsimp only
  have advance : Advance b part.seen c.boot
      (c.withBootstrap { boot with phase := .seedingReplicas }).boot := by
    have is : c.boot = ⟨c.database, some boot⟩ := by
      rw [← g.is]
      rfl
    rw [is]
    exact .copying there
  have copying : Copying part v b (c.withBootstrap { boot with phase := .seedingReplicas }) :=
    ⟨g.toGoing.advance rfl advance id, there, .inr untouched⟩
  have obeys : ClusterObeys hashRequest (fun last r => Halted last v b (some _) r) part
      (reconcileSeeding hashRequest ctx
      (c.withBootstrap { boot with phase := .seedingReplicas }) b.firstMember) :=
      obeys_reconcileSeeding copying
  rw [← g.live_coherent.2.target boot g.is] at obeys
  exact Follows.bind obeys fun next r halted => Halted.concludeRecovery halted

theorem obeys_reconcileRecoverySeeding {id : OperationID} {op : Operation}
    (g : Restoring part v b c uri boot) (recorded : boot.operationID = some id)
    (available : b.spec.highAvailability = true) (told : .polled b.firstMember id op ∈ part.seen)
    (done : op.state = .completed) (untouched : Untouched b c) :
    ClusterObeys hashRequest (fun next r => RecoveryTold next v b r) part
      (reconcileRecoverySeeding hashRequest ctx
        (c.withBootstrap { boot with operationMissingSince := none })
        { boot with operationMissingSince := none }) := by
  have restored := withDatabase_boot (c.withBootstrap { boot with operationMissingSince := none })
    (d := { c.database with phase := .created, primaryCreated := true }) c.database_name
  unfold reconcileRecoverySeeding
  dsimp only
  split_ifs with there
  · cases there.symm.trans (g.new available)
  · refine obeys_seedRecovered ⟨g.toGoing.advance rfl ?_ fun is => is, g.recovers, rfl⟩ ?_ ?_
    · exact restored ▸ .restored available g.at_ recorded told done
    · exact congrArg (·.database.primaryCreated) restored
    · exact Untouched.withDatabase untouched c.database_name ⟨rfl, rfl⟩

theorem obeys_pollRecovery {id : OperationID} (g : Restoring part v b c uri boot)
    (recorded : boot.operationID = some id) (untouched : Untouched b c) :
    ClusterObeys hashRequest (fun next r => RecoveryTold next v b r) part
      (pollRecovery hashRequest ctx c boot id) := by
  unfold pollRecovery
  rw [g.definition]
  refine obeys_get g.base (g.poll g.at_ recorded) (fun op => ?_) ?_ fun e => ?_
  · have stays : Stays part (part.note (.polled b.firstMember id op)) := Stays.note _ rfl
    have told : .polled b.firstMember id op ∈ (part.note (.polled b.firstMember id op)).seen :=
      List.mem_cons_self
    have g := g.stays stays
    dsimp only
    split
    · rename_i done
      split_ifs with available
      · exact obeys_reconcileRecoverySeeding g recorded available told done untouched
      · refine ⟨g.toGoing.stand (Stays.refl _).extends rfl ?_ rfl fun _ => ⟨_, rfl, rfl⟩,
          fun _ => ⟨_, rfl, rfl⟩⟩
        exact .recovered (not_eq_true _ ▸ available) g.is recorded told done
    · rename_i failed
      refine (g.retried ctx _ (.inl ⟨op, ?_, failed⟩)).active
      unfold Boot.Read
      rw [show (BootStep.recovery uri boot).recorded c.database = some id from recorded]
      exact .polled told
    · have halt : Halt b (part.note (.polled b.firstMember id op)).seen _ _ :=
        .progressing g.is (restoreProgress_phase op.state)
      exact Stood.active (g.toGoing.stand (Stays.refl _).extends rfl halt rfl held_unready)
  · have on : Extends part (part.note (.missing b.firstMember id)) :=
      ⟨rfl, List.subset_cons_self _ _⟩
    exact Follows.bind (obeys_restoreOperationMissing g on recorded List.mem_cons_self)
      fun next r stood => stood.active
  · exact ((g.stays (Stays.note part rfl)).hold _ _).active

theorem obeys_continueRecovery (g : Recovering part v b c uri boot)
    (untouched : Untouched b c) :
    ClusterObeys hashRequest (fun next r => RecoveryTold next v b r) part
      (continueRecovery hashRequest ctx c boot uri) := by
  unfold continueRecovery
  rw [g.definition]
  split
  · refine Stood.active (g.toGoing.stand (Stays.refl part).extends rfl ?_ rfl held_unready)
    have halt : Halt b part.seen c.boot _ := .invalid g.unbroken
    rw [g.is] at halt
    exact halt
  · split_ifs with restored
    · have there : c.database.primaryCreated = true := (Bool.and_eq_true_iff.mp restored).2
      have self := withDatabase_self c
      unfold reconcileRecoverySeeding
      dsimp only
      rw [if_pos there]
      refine obeys_seedRecovered ⟨g.toGoing.copy rfl self id, g.recovers, self ▸ g.is⟩ ?_ ?_
      · exact (congrArg (·.database.primaryCreated) self).trans there
      · exact untouched.withDatabase c.database_name ⟨rfl, rfl⟩
    · have g : Restoring part v b c uri boot := by
        refine { g with new := fun available => ?_ }
        rw [available, Bool.true_and] at restored
        exact not_eq_true _ ▸ restored
      split
      · rename_i unstarted
        exact Follows.bind (obeys_startRecovery g unstarted) fun next r stood => stood.active
      · rename_i id recorded
        exact obeys_pollRecovery g recorded untouched

theorem obeys_reconcileRecovery (base : part.base = some (v, b)) (sound : b.boot.Sound b)
    (unbroken : Unbroken part.seen) (recovers : b.spec.recovery = some uri)
    (active : recoveryActive b = true) :
    ClusterObeys hashRequest (fun next r => RecoveryTold next v b r) part
      (reconcileRecovery hashRequest ctx b uri) := by
  have some_ : b.spec.recovery.isSome = true := by rw [recovers]; rfl
  have incomplete : ∀ r, b.boot.recovery = some r → r.phase ≠ .complete := fun r is done => by
    have is : b.status.rest.bootstrap = some r := is
    simp [recoveryActive, is, done] at active
  have live : (∀ r, b.boot.recovery = some r → r.phase ≠ .failed) → b.boot.Live := fun going => by
    refine ⟨fun failed => ?_, ?_, fun r is => ⟨going r is, incomplete r is⟩⟩
    · obtain ⟨r, is, failed⟩ := sound.failed failed some_
      exact going r is failed
    · by_contra configured
      obtain ⟨r, is, done⟩ := sound.configured (by simpa using configured) some_
      exact incomplete r is done
  unfold reconcileRecovery
  dsimp only
  cases is : b.status.rest.bootstrap with
  | none =>
    have advance : Advance b part.seen b.boot
        (b.withBootstrap { manifestURI := uri, targetMember := b.firstMember }).boot := by
      have boot : b.boot = ⟨b.database, none⟩ := congrArg (Boot.mk b.database) is
      rw [boot]
      exact .begun recovers
    have going : Going part v b b :=
      ⟨base, sound, live fun r some =>
        (by rw [show b.boot.recovery = none from is] at some; cases some), unbroken, rfl,
        .refl, fun is => is⟩
    rw [Option.getD_none, if_neg (by simp)]
    exact obeys_continueRecovery ⟨going.advance rfl advance fun is => is, recovers, rfl⟩ ⟨rfl, rfl⟩
  | some r =>
    have boot : (b.withBootstrap r).boot = b.boot := congrArg (Boot.mk b.database) is.symm
    rw [Option.getD_some]
    split_ifs with failed
    · exact ⟨Stood.still base rfl boot fun is => is, nofun⟩
    · have going : Going part v b (b.withBootstrap r) := by
        refine ⟨base, sound, live fun r' is' => ?_, unbroken, rfl, boot ▸ .refl, fun is => is⟩
        cases is.symm.trans is'
        exact failed
      exact obeys_continueRecovery ⟨going, recovers, rfl⟩ ⟨rfl, rfl⟩

end Recovering
end Controller
