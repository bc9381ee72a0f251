import CubridOperator.Controller.ClusterKeeps
import CubridOperator.Controller.OperatorLog

/-!
What the records of a bootstrap rest on: each operation, each missing time and
each seeded member was brought by an answer in the log.
-/
namespace Controller
open Foundation InstanceManager Boot List Option

abbrev ClusterLog := OperatorLog CubridCluster StartBody ClusterQuery ClusterQuery.Ans

variable {id : OperationID}

namespace Boot

section Ledger

variable (log : ClusterLog)

inductive Brought (m : String) (kind : OperationKind) (key : String) (id : OperationID) : Prop
  | answered {i : Option Nat} {req : Request StartBody} {op : Operation}
      (told : (i, .answered m req op) ∈ log)
      (is : op.id = id) (of : req.kind = kind ∧ req.key = key)
  | found {i : Option Nat} {op : Operation} (told : (i, .found m kind key op) ∈ log)
      (is : op.id = id)

def MissedBy (j : Nat) (m : String) (id : OperationID) : Prop :=
  ∃ earlier, (some j, .missing m id) :: earlier <:+ log ∧ ∃ e ∈ earlier, e.2.brings = some (m, id)

/-- An operation is missing since a time that the reconcile that missed it read. -/
def MissedSince (m : String) (id : OperationID) (t : Int) : Prop :=
  ∃ j t₀, MissedBy log j m id ∧ (some j, .time t₀) ∈ log ∧ (t = t₀ ∨ t = wholeSeconds t₀)

structure Traced (m : String) (kind : OperationKind) (key : String) (id : Option OperationID)
    (since : Option Int) : Prop where
  brought : ∀ i, id = some i → Brought log m kind key i
  missed : ∀ i t, id = some i → since = some t → MissedSince log m i t

/-- The operations of a copy; that of its backup until the restore is started. -/
structure Copied (k : ClusterDefinition) (attempt : Nat) (artifact : String) (s : DatabaseSeeding) :
    Prop where
  backup : s.restoreOperationID = none →
    Traced log s.source .backup (k.seedBackupKey attempt artifact) s.backupOperationID
      s.operationMissingSince
  restore :
    Traced log s.member .restore (k.seedRestoreKey attempt s.member artifact) s.restoreOperationID
      s.operationMissingSince

inductive RestoreRead (m : String) (op : Operation) : Prop
  | polled {i : Option Nat} {id : OperationID} (told : (i, .polled m id op) ∈ log)
      (kind : op.kind = .restore)
  | found {i : Option Nat} {key : String} (told : (i, .found m .restore key op) ∈ log)
  | answered {i : Option Nat} {req : Request StartBody} (told : (i, .answered m req op) ∈ log)
      (kind : req.kind = .restore)

variable (k : ClusterDefinition) (x : Boot)

/-- The recorded restore of the target was read Completed. -/
def TargetRestored : Prop :=
  ∃ r id i op, x.recovery = some r ∧ r.operationID = some id ∧
    (i, .polled k.firstMember id op) ∈ log ∧
    op.state = .completed

structure Ledger : Prop where
  early : x.database.primaryCreated = false → x.database.seeding = none
  create : x.database.primaryCreated = false → Traced log k.firstMember .haBootstrap
    (k.createKey x.database.bootstrapAttempts) x.database.bootstrapOperationID
      x.database.bootstrapOperationMissingSince
  copy : ∀ s, x.database.seeding = some s → Copied log k x.database.bootstrapAttempts
    (x.database.artifact s) s
  recovery : ∀ uri r, k.spec.recovery = some uri → x.recovery = some r →
    Traced log k.firstMember .restore
    (k.recoveryIdempotencyKey uri r.attempts) r.operationID r.operationMissingSince
  target : k.spec.recovery.isSome = true → x.database.primaryCreated = true →
    k.spec.highAvailability = true ∧ TargetRestored log k x
  seeded : ∀ m ∈ x.database.seededMembers, ∃ op, RestoreRead log m op ∧ op.state = .completed

end Ledger

variable {since : Option Int}

section Growth

variable {log log' : ClusterLog} {m key : String} {kind : OperationKind} {k : ClusterDefinition}
  {x : Boot}

theorem Brought.brings (brought : Brought log m kind key id) :
    ∃ e ∈ log, e.2.brings = some (m, id) := by
  cases brought with
  | answered told is | found told is => exact ⟨_, told, congrArg (fun id => some (m, id)) is⟩

theorem Traced.none (since : Option Int) : Traced log m kind key none since := ⟨nofun, nofun⟩

theorem Traced.unmissed (brought : Brought log m kind key id) :
    Traced log m kind key (some id) Option.none := by
  refine ⟨fun i is => ?_, nofun⟩
  cases is
  exact brought

theorem Traced.cleared {id : Option OperationID} (traced : Traced log m kind key id since) :
    Traced log m kind key id Option.none := ⟨traced.brought, nofun⟩

theorem Traced.mono {id : Option OperationID} (traced : Traced log m kind key id since)
    (before : log <:+ log') : Traced log' m kind key id since where
  brought i is := by
    cases traced.brought i is with
    | answered told is of => exact .answered (before.subset told) is of
    | found told is => exact .found (before.subset told) is
  missed i t is at_ := by
    obtain ⟨j, t₀, ⟨earlier, inside, brings⟩, time, same⟩ := traced.missed i t is at_
    exact ⟨j, t₀, ⟨earlier, inside.trans before, brings⟩, before.subset time, same⟩

theorem TargetRestored.mono (restored : TargetRestored log k x) (before : log <:+ log') :
    TargetRestored log' k x := by
  obtain ⟨r, id, j, op, is, recorded, told, done⟩ := restored
  exact ⟨r, id, j, op, is, recorded, before.subset told, done⟩

theorem Ledger.mono (ledger : Ledger log k x) (before : log <:+ log') : Ledger log' k x where
  early := ledger.early
  create new := (ledger.create new).mono before
  copy s is :=
    ⟨fun new => ((ledger.copy s is).backup new).mono before, (ledger.copy s is).restore.mono before⟩
  recovery uri r recovers is := (ledger.recovery uri r recovers is).mono before
  target recovers there := (ledger.target recovers there).imp_right (·.mono before)
  seeded m member := by
    obtain ⟨op, read, done⟩ := ledger.seeded m member
    refine ⟨op, ?_, done⟩
    cases read with
    | polled told kind => exact .polled (before.subset told) kind
    | found told => exact .found (before.subset told)
    | answered told kind => exact .answered (before.subset told) kind

theorem Ledger.traced (ledger : Ledger log k x) {step : BootStep} (at_ : step.At k x) :
    Traced log (step.member k) step.kind (step.key k x.database) (step.recorded x.database)
      (step.since x.database) := by
  cases at_ with
  | create _ new => exact ledger.create new
  | backup _ is unrestored => exact (ledger.copy _ is).backup unrestored
  | restore _ is => exact (ledger.copy _ is).restore
  | recovery recovers is _ => exact ledger.recovery _ _ recovers is

end Growth

section Moves

variable {b : CubridCluster} {i : Nat} {seen : List ClusterEntry} {log : ClusterLog} {x y : Boot}
  {step : BootStep} {op : Operation}

structure Heard (i : Nat) (seen : List ClusterEntry) (log : ClusterLog) : Prop where
  logged : LoggedBy i seen log
  named : ∀ m id op, .polled m id op ∈ seen → op.id = id

theorem Read.brought (heard : Heard i seen log) {k : ClusterDefinition} {d : DatabaseStatus}
    (read : Boot.Read seen k d step op)
    (traced : Traced log (step.member k) step.kind (step.key k d) (step.recorded d) since) :
    Brought log (step.member k) step.kind (step.key k d) op.id := by
  unfold Boot.Read at read
  generalize step.recorded d = recorded at read traced
  cases read with
  | @polled id told =>
    rw [heard.named _ _ _ told]
    exact traced.brought id rfl
  | answered told of => exact .answered (heard.logged _ told) rfl of
  | found told => exact .found (heard.logged _ told) rfl

theorem Ledger.withCopy {s : DatabaseSeeding} (ledger : Ledger log b x)
    (there : x.database.primaryCreated = true)
    (copied : Copied log b x.database.bootstrapAttempts (x.database.artifact s) s) :
    Ledger log b { x with database := { x.database with seeding := some s } } := by
  refine { ledger with early := fun new => (nomatch there.symm.trans new), copy := ?_ }
  rintro _ ⟨⟩
  exact copied

theorem Advance.ledger (advance : Advance b seen x y) (heard : Heard i seen log)
    (ledger : Ledger log b x) : Ledger log b y := by
  cases advance with
  | begun recovers =>
    refine { ledger with recovery := fun uri r _ is => ?_, target := fun recovers there => ?_ }
    · cases is
      exact Traced.none _
    · obtain ⟨-, r, _, _, _, is, _⟩ := ledger.target recovers there
      cases is
  | created at_ =>
    cases at_ with
    | create plain new =>
      have unseeded := ledger.early new
      refine { ledger with early := nofun, create := nofun, copy := ?_, target := ?_ }
      · exact fun s is => nomatch unseeded.symm.trans is
      · exact fun recovers => by simp [plain] at recovers
  | restored available at_ recorded told done =>
    cases at_ with
    | recovery recovers is new =>
      have unseeded := ledger.early (new available)
      have traced := ledger.recovery _ _ recovers is
      refine { ledger with
        early := nofun, create := nofun, copy := ?_, recovery := fun uri r recovers' is' => ?_
        target := fun _ _ => ⟨available, _, _, _, _, rfl, recorded, heard.logged _ told, done⟩ }
      · exact fun s is => nomatch unseeded.symm.trans is
      · cases recovers.symm.trans recovers'
        cases is'
        exact traced.cleared
  | @copying d r there =>
    refine { ledger with
      recovery := fun uri r' recovers is => ?_, target := fun recovers there => ?_ }
    · cases is
      exact ledger.recovery uri r recovers rfl
    · obtain ⟨available, r', id, j, op, is, rest⟩ := ledger.target recovers there
      cases is
      exact ⟨available, _, id, j, op, rfl, rest⟩
  | chose there next unstarted later =>
    obtain ⟨unrestored, unbacked, -⟩ := unstarted
    exact ledger.withCopy there ⟨fun _ => unbacked ▸ Traced.none _, unrestored ▸ Traced.none _⟩
  | backedUp at_ read done =>
    have brought := Read.brought heard read (ledger.traced at_)
    cases at_ with
    | backup there was unrestored =>
      exact ledger.withCopy there ⟨fun _ => Traced.unmissed brought, unrestored ▸ Traced.none _⟩
  | @seeded _ s op at_ recorded done restored =>
    refine { ledger with early := fun _ => rfl, copy := nofun, seeded := fun m member => ?_ }
    rcases mem_append.mp member with before | new
    · exact ledger.seeded m before
    · obtain rfl := mem_singleton.mp new
      refine ⟨op, ?_, done⟩
      cases restored with
      | polled told kind same => exact .polled (heard.logged _ told) kind
      | found told same => exact .found (heard.logged _ told)
      | answered told kind body => exact .answered (heard.logged _ told) kind

theorem Reaches.ledger (reaches : Reaches b seen x) (heard : Heard i seen log)
    (ledger : Ledger log b b.boot) : Ledger log b x := by
  unfold Reaches at reaches
  induction reaches with
  | refl => exact ledger
  | tail _ advance ih => exact advance.ledger heard ih

theorem Traced.miss (heard : Heard i seen log) {m key : String} {kind : OperationKind}
    {kept : Option Int} {since : Int} (missed : MissedBy log i m id)
    (traced : Traced log m kind key (some id) kept) (from_ : Since seen kept since) :
    Traced log m kind key (some id) (some since) := by
  refine ⟨traced.brought, fun i' t is at_ => ?_⟩
  cases is
  cases at_
  rcases from_ with kept | ⟨-, told⟩
  · exact traced.missed id since rfl kept
  · exact ⟨i, since, missed, heard.logged _ told, .inl rfl⟩

section

variable (ledger : Ledger log b x)
include ledger

theorem Ledger.missSeeding (copied : ∀ s, x.database.seeding = some s →
      Copied log b x.database.bootstrapAttempts (x.database.artifact s)
      { s with operationMissingSince := since }) :
    Ledger log b { x with database := x.database.missedSeeding since } := by
  refine { ledger with early := fun new => ?_, copy := fun s is => ?_ }
  · exact map_eq_none_iff.mpr (ledger.early new)
  · obtain ⟨s₀, was, rfl⟩ := map_eq_some_iff.mp is
    exact copied s₀ was

theorem Ledger.clearSeeding : Ledger log b { x with database := x.database.missedSeeding none } :=
  ledger.missSeeding fun s is =>
    ⟨fun new => ((ledger.copy s is).backup new).cleared, (ledger.copy s is).restore.cleared⟩

theorem Ledger.withRecovery {r r' : BootstrapStatus} (is : x.recovery = some r)
    (traced : ∀ uri, b.spec.recovery = some uri → Traced log b.firstMember .restore
      (b.recoveryIdempotencyKey uri r'.attempts) r'.operationID r'.operationMissingSince)
    (same : b.spec.highAvailability = true → x.database.primaryCreated = true →
      r'.operationID = r.operationID) :
    Ledger log b { x with recovery := some r' } := by
  refine { ledger with
    recovery := fun uri s recovers is' => ?_, target := fun recovers there => ?_ }
  · cases is'
    exact traced uri recovers
  · obtain ⟨available, r₀, id, j, op, is', recorded, rest⟩ := ledger.target recovers there
    cases is.symm.trans is'
    exact ⟨available, r', id, j, op, rfl, (same available there).trans recorded, rest⟩

theorem Ledger.failRecovery :
    Ledger log b { x with recovery := x.recovery.map ({ · with phase := .failed }) } := by
  cases is : x.recovery with
  | none =>
    refine { ledger with recovery := nofun, target := fun recovers there => ?_ }
    obtain ⟨-, r, _, _, _, is', _⟩ := ledger.target recovers there
    cases is.symm.trans is'
  | some r =>
    exact ledger.withRecovery is (fun uri recovers => ledger.recovery uri r recovers is)
      fun _ _ => rfl

theorem Ledger.fail : Ledger log b (step.fail x) := by
  cases step with
  | recovery => exact ledger.failRecovery
  | _ => exact { ledger with }

theorem Ledger.retried {d : DatabaseStatus}
    (unrecorded : d.primaryCreated = false → d.bootstrapOperationID = none)
    (unseeded : d.seeding = none)
    (same : d.seededMembers = x.database.seededMembers ∧
      d.primaryCreated = x.database.primaryCreated) :
    Ledger log b { x with database := d.retried } := by
  obtain ⟨id, -, seeding, seeded, there, -⟩ := retried_fields d
  have unseeded := seeding.trans unseeded
  refine { ledger with
    early := fun _ => unseeded, create := fun new => ?_, copy := fun s is =>
      (nomatch unseeded.symm.trans is)
    target := fun recovers is => ?_, seeded := fun m member =>
      ledger.seeded m (same.1 ▸ seeded ▸ member) }
  · dsimp only
    rw [id, unrecorded (there ▸ new)]
    exact Traced.none _
  · exact ledger.target recovers ((there.trans same.2).symm.trans is)

theorem Ledger.retry (at_ : step.At b x) : Ledger log b (step.retry x) := by
  cases at_ with
  | create _ new => exact ledger.retried (fun _ => rfl) (ledger.early new) ⟨rfl, rfl⟩
  | @recovery uri r recovers is new =>
    refine ledger.withRecovery is (fun uri recovers => ?_) fun available there =>
      (nomatch (new available).symm.trans there)
    unfold BootstrapStatus.retried
    split_ifs
    · exact Traced.none _
    · exact (ledger.recovery uri r recovers is).cleared
  | backup there =>
    exact ledger.retried (fun new => nomatch there.symm.trans new) rfl ⟨rfl, rfl⟩
  | restore there => exact ledger.retried (fun new => nomatch there.symm.trans new) rfl ⟨rfl, rfl⟩

end

theorem Halt.ledger (halt : Halt b seen x y) (heard : Heard i seen log)
    (missed : ∀ m id, .missing m id ∈ seen → MissedBy log i m id) (coherent : x.Coherent b)
    (ledger : Ledger log b x) : Ledger log b y := by
  -- The operation of a step is missing, since a time that is kept or read now.
  have miss : ∀ {step : BootStep} {id : OperationID} {since : Int}, step.At b x →
      step.recorded x.database = some id → .missing (step.member b) id ∈ seen →
      Since seen (step.since x.database) since → Ledger log b (step.miss x (some since)) := by
    intro step id since at_ recorded told from_
    have traced := ledger.traced at_
    rw [recorded] at traced
    have traced := Traced.miss heard (missed _ _ told) traced from_
    rw [← recorded] at traced
    cases at_ with
    | create => exact { ledger with create := fun _ => traced }
    | backup there was unrestored =>
      refine ledger.missSeeding fun s is => ?_
      cases was.symm.trans is
      exact ⟨fun _ => traced, unrestored ▸ Traced.none _⟩
    | restore there was =>
      refine ledger.missSeeding fun s is => ?_
      cases was.symm.trans is
      refine ⟨fun new => ?_, traced⟩
      cases new.symm.trans recorded
    | recovery recovers is _ =>
      refine ledger.withRecovery is (fun uri recovers' => ?_) fun _ _ => rfl
      cases recovers.symm.trans recovers'
      exact traced
  have unmissed : ∀ {step : BootStep}, step.At b x →
      Ledger log b (step.miss x none) := by
    intro step at_
    cases at_ with
    | create => exact { ledger with create := fun new => (ledger.create new).cleared }
    | recovery recovers is _ =>
      exact ledger.withRecovery is
        (fun uri recovers' => (ledger.recovery uri _ recovers' is).cleared) fun _ _ => rfl
    | _ => exact ledger.clearSeeding
  cases halt with
  | hold => exact ledger
  | running at_ read going =>
    have brought := Read.brought heard read (ledger.traced at_)
    cases at_ with
    | create => exact { ledger with create := fun _ => Traced.unmissed brought }
    | backup there was unrestored =>
      exact ledger.withCopy there ⟨fun _ => Traced.unmissed brought, unrestored ▸ Traced.none _⟩
    | restore there was => exact ledger.withCopy there ⟨nofun, Traced.unmissed brought⟩
    | @recovery uri r recovers is new =>
      refine ledger.withRecovery is (fun uri' recovers' => ?_) fun available there =>
        (nomatch (new available).symm.trans there)
      cases recovers.symm.trans recovers'
      refine ⟨fun id is => ?_, fun id t is since => ?_⟩ <;> cases is
      · exact brought
      · -- A time is kept only while an operation is recorded, and that is the one that was read.
        have traced := ledger.recovery uri r recovers ‹_›
        unfold Boot.Read at read
        generalize recorded : (BootStep.recovery uri r).recorded x.database = id at read
        cases read with
        | @polled id told =>
          rw [heard.named _ _ _ told]
          exact traced.missed id t recorded since
        | answered | found => cases (coherent.unmissedRecovery r ‹_› recorded).symm.trans since
  | progressing is =>
    exact ledger.withRecovery is (fun uri recovers => (ledger.recovery uri _ recovers is).cleared)
      fun _ _ => rfl
  | failed at_ => exact ledger.retry at_
  | missing at_ recorded told from_ => exact miss at_ recorded told from_
  | lost at_ recorded told from_ => exact (miss at_ recorded told from_).fail
  | stopped at_ => exact (unmissed at_).fail
  | contradicted at_ => exact ledger.fail
  | invalid => exact ledger.failRecovery
  | mismatched => exact ledger.clearSeeding
  | configured there all => exact { ledger with early := fun _ => rfl, copy := nofun }
  | recovered _ is =>
    exact ledger.withRecovery is (fun uri recovers => (ledger.recovery uri _ recovers is).cleared)
      fun _ _ => rfl

theorem Ledger.follow (ledger : Ledger log b x) : Ledger log b x.follow := by
  cases is : x.recovery with
  | none =>
    rw [follow_of_none is]
    exact ledger
  | some r =>
    have same : x.follow = { x with
        recovery := some (if x.database.haConfigured then { r with phase := .complete }
        else if x.database.phase = .failed then { r with phase := .failed } else r) } := by
      unfold Boot.follow
      rw [is]
      rfl
    rw [same]
    refine ledger.withRecovery is (fun uri recovers => ?_) fun _ _ => ?_
    · split_ifs <;> exact ledger.recovery uri r recovers is
    · split_ifs <;> rfl

theorem Moved.ledger (moved : Moved b seen y) (heard : Heard i seen log)
    (missed : ∀ m id, .missing m id ∈ seen → MissedBy log i m id) (sound : b.boot.Sound b)
    (ledger : Ledger log b b.boot) : Ledger log b y := by
  cases moved with
  | same is => exact is ▸ ledger
  | moved live reaches halt is =>
    have coherent := (reaches.live_coherent live sound).2
    exact is ▸ (halt.ledger heard missed coherent (reaches.ledger heard ledger)).follow

end Moves

section Stored

variable {log : ClusterLog} {k : ClusterDefinition} {x : Boot}

theorem Traced.persisted {m key : String} {kind : OperationKind} {id : Option OperationID}
    (traced : Traced log m kind key id since) :
    Traced log m kind key id (since.map wholeSeconds) := by
  refine ⟨traced.brought, fun i t is at_ => ?_⟩
  obtain ⟨t₁, was, rfl⟩ := map_eq_some_iff.mp at_
  obtain ⟨j, t₀, missed, time, same⟩ := traced.missed i t₁ is was
  refine ⟨j, t₀, missed, time, .inr ?_⟩
  rcases same with rfl | rfl
  · rfl
  · exact wholeSeconds_wholeSeconds t₀

theorem TargetRestored.persisted (restored : TargetRestored log k x) :
    TargetRestored log k x.persisted := by
  obtain ⟨r, id, j, op, is, rest⟩ := restored
  exact ⟨r.persisted, id, j, op, map_eq_some_iff.mpr ⟨r, is, rfl⟩, rest⟩

theorem Ledger.persisted (ledger : Ledger log k x) : Ledger log k x.persisted := by
  refine { ledger with
    early := fun new => ?_, create := fun new => (ledger.create new).persisted,
    copy := fun s is => ?_
    recovery := fun uri r recovers is => ?_
    target := fun recovers there => (ledger.target recovers there).imp_right (·.persisted) }
  · exact map_eq_none_iff.mpr (ledger.early new)
  · obtain ⟨s₀, was, rfl⟩ := map_eq_some_iff.mp is
    exact ⟨fun new => ((ledger.copy s₀ was).backup new).persisted,
      (ledger.copy s₀ was).restore.persisted⟩
  · obtain ⟨r₀, was, rfl⟩ := map_eq_some_iff.mp is
    exact (ledger.recovery uri r₀ recovers was).persisted

end Stored
end Boot

section Runs

variable {hashRequest : StartBody → String} {c : CubridCluster} {log past : ClusterLog} {i : Nat}
  {seen : List ClusterEntry} {b : CubridCluster}

abbrev ClusterJustified (hashRequest : StartBody → String) (c : CubridCluster) (log : ClusterLog) :
    Prop :=
  Justified (Ruled (clusterRules hashRequest) CubridCluster.persisted
    (clusterModel hashRequest).edits c.created) log

section

variable (justified : ClusterJustified hashRequest c log)
include justified

theorem stored_sound : ∀ s ∈ storedIn c.created log, s.boot.Sound s :=
  cluster_keeps.assumed (createdCluster_sound c) justified

theorem heard_of_logged (logged : LoggedBy i seen log) : Heard i seen log := by
  refine ⟨logged, fun m id op told => ?_⟩
  obtain ⟨past, -, named, -⟩ := justified.of_mem (logged _ told)
  exact named

theorem missedBy_of_ledgers
    (ledgers : ∀ past, past <:+ log → ∀ s ∈ storedIn c.created past, Boot.Ledger past s s.boot)
    (logged : LoggedBy i seen log) {m : String} (told : .missing m id ∈ seen) :
    MissedBy log i m id := by
  obtain ⟨earlier, inside, b, seen', recalls, goes, x, step, reaches, at_, rfl, recorded⟩ :=
    justified.of_mem (logged _ told)
  have before := (suffix_cons _ _).trans inside
  have justified' := justified.suffix before
  have ledger := ledgers earlier before b (goesBy_stored justified' recalls.logged goes)
  have traced := (reaches.ledger (heard_of_logged justified' recalls.logged) ledger).traced at_
  exact ⟨earlier, inside, (traced.brought id recorded).brings⟩

/-- Every status that was ever stored rests on the log. -/
theorem stored_ledgers :
    ∀ past, past <:+ log → ∀ s ∈ storedIn c.created past, Boot.Ledger past s s.boot := by
  refine stored_induction (fun log s => Boot.Ledger log s s.boot) justified ?_ ?_ ?_ ?_
  · exact fun e past s ledger => ledger.mono (suffix_cons e past)
  · exact ⟨fun _ => rfl, fun _ => Traced.none _, nofun, nofun, nofun, nofun⟩
  · intro i object seen past recalls goes move justified before
    have stored := @latest_mem _ _ _ _ c.created past
    have ledger := move.moved.ledger (heard_of_logged justified recalls.logged)
      (fun m id told => missedBy_of_ledgers justified before recalls.logged told)
        (stored_sound justified _ stored)
      (before past (suffix_refl _) _ stored)
    rw [← move.definition] at ledger
    rw [persisted_boot]
    exact ledger.persisted.mono (suffix_cons _ _)
  · rintro past after ⟨edit, rfl⟩ ledger
    exact { ledger with copy := fun s is => { ledger.copy s is with } }

end

end Runs
end Controller
