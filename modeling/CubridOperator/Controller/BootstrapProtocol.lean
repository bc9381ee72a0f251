import CubridOperator.Controller.BootstrapMoves

/-!
The reconcile of a cluster's bootstrap keeps to the machine over its records, on
every path through its programs.
-/
namespace Controller
open Foundation Program InstanceManager Boot List

section Records

variable (c : CubridCluster) (ctx : PassContext)

theorem withDatabase_boot {d : DatabaseStatus} (named : d.name = c.firstDatabase) :
    (c.withDatabase d).boot = ⟨d, c.boot.recovery⟩ :=
  congrArg (Boot.mk · _) (c.database_withDatabase named)

theorem withDatabase_self : (c.withDatabase c.database).boot = c.boot :=
  withDatabase_boot c c.database_name

@[simp] theorem withSeeding_boot (s : Option DatabaseSeeding) :
    (c.withSeeding s).boot = ⟨{ c.database with seeding := s }, c.boot.recovery⟩ :=
  withDatabase_boot c c.database_name

@[simp] theorem withSeeding_database (s : Option DatabaseSeeding) :
    (c.withSeeding s).database = { c.database with seeding := s } :=
  congrArg Boot.database (withSeeding_boot c s)

@[simp] theorem setCondition_boot (type : ConditionType) (verdict : Verdict) :
    (c.setCondition ctx type verdict).boot = c.boot := rfl

section

variable (reason msg : String)
include reason msg

@[simp] theorem hold_boot : (c.hold ctx reason msg).boot = c.boot := rfl

@[simp] theorem hold_bootstrapReady :
    (c.hold ctx reason msg).status.isTrue .bootstrapReady = false := by
  simp [CubridCluster.hold, CubridCluster.setCondition]

@[simp] theorem bootstrapStepFailed_boot :
    (bootstrapStepFailed c ctx reason msg).boot = ⟨c.database.retried, c.boot.recovery⟩ := by
  unfold bootstrapStepFailed DatabaseStatus.retried
  dsimp only
  split_ifs
  · exact withDatabase_boot c c.database_name
  · exact withDatabase_boot c c.database_name

@[simp] theorem bootstrapStopped_boot :
    (bootstrapStopped c ctx reason msg).boot =
    ⟨{ c.database with phase := .failed }, c.boot.recovery⟩ :=
  withDatabase_boot c c.database_name

theorem bootstrapStepFailed_definition :
    (bootstrapStepFailed c ctx reason msg).toClusterDefinition = c.toClusterDefinition := by
  unfold bootstrapStepFailed
  dsimp only
  split_ifs <;> rfl

theorem bootstrapStepFailed_bootstrapReady :
    (bootstrapStepFailed c ctx reason msg).status.isTrue .bootstrapReady = false := by
  unfold bootstrapStepFailed
  dsimp only
  split_ifs <;> exact hold_bootstrapReady _ _ _ _

end

theorem restoreAttemptFailed_boot (r : BootstrapStatus) (why : String) :
    (restoreAttemptFailed ctx c r why).boot = ⟨c.database, some r.retried⟩ := by
  unfold restoreAttemptFailed BootstrapStatus.retried
  split_ifs <;> rfl

theorem restoreAttemptFailed_definition (r : BootstrapStatus) (why : String) :
    (restoreAttemptFailed ctx c r why).toClusterDefinition = c.toClusterDefinition := by
  unfold restoreAttemptFailed
  split_ifs <;> rfl

theorem restoreAttemptFailed_bootstrapReady (r : BootstrapStatus) (why : String) :
    (restoreAttemptFailed ctx c r why).status.isTrue .bootstrapReady = false := by
  unfold restoreAttemptFailed
  split_ifs <;> exact hold_bootstrapReady _ _ _ _

theorem nextPeer_congr (k : ClusterDefinition) {d e : DatabaseStatus}
    (same : d.seededMembers = e.seededMembers) : k.nextPeer d = k.nextPeer e := by
  unfold ClusterDefinition.nextPeer
  rw [same]

end Records

section Monotone

variable {b : CubridCluster} {seen seen' : List ClusterEntry} {k : ClusterDefinition}
  {d : DatabaseStatus} {step : BootStep} {op : Operation} {x y : Boot}

theorem ReadAs.mono {m : String} {kind : OperationKind} {key : String}
    {recorded : Option OperationID} (read : ReadAs seen m kind key op recorded)
    (more : seen ⊆ seen') : ReadAs seen' m kind key op recorded := by
  cases read with
  | polled told => exact .polled (more told)
  | answered told of => exact .answered (more told) of
  | found told => exact .found (more told)

theorem Read.mono (read : Boot.Read seen k d step op) (more : seen ⊆ seen') :
    Boot.Read seen' k d step op :=
  ReadAs.mono read more

theorem AttemptFailed.mono (failed : AttemptFailed seen k d step) (more : seen ⊆ seen') :
    AttemptFailed seen' k d step :=
  failed.imp (fun ⟨op, read, state⟩ => ⟨op, Read.mono read more, state⟩)
    fun ⟨req, e, told, rest⟩ => ⟨req, e, more told, rest⟩

theorem Since.mono {kept : Option Int} {since : Int} (from_ : Since seen kept since)
    (more : seen ⊆ seen') : Since seen' kept since :=
  from_.imp_right fun ⟨unset, told⟩ => ⟨unset, more told⟩

theorem Observed.mono {source : String} (observed : Observed seen k d source)
    (more : seen ⊆ seen') : Observed seen' k d source := by
  obtain ⟨answers, t, told, time, is⟩ := observed
  exact ⟨answers, t, more told, more time, is⟩

theorem Restored.mono {s : DatabaseSeeding} (restored : Restored seen k d s op)
    (more : seen ⊆ seen') : Restored seen' k d s op := by
  cases restored with
  | polled told kind same => exact .polled (more told) kind same
  | found told same => exact .found (more told) same
  | answered told kind body => exact .answered (more told) kind body

theorem Advance.mono (advance : Advance b seen x y) (more : seen ⊆ seen') :
    Advance b seen' x y := by
  cases advance with
  | begun recovers => exact .begun recovers
  | created at_ read done => exact .created at_ (Read.mono read more) done
  | restored available at_ recorded told done =>
    exact .restored available at_ recorded (more told) done
  | copying there => exact .copying there
  | chose there next unstarted later => exact .chose there next unstarted later
  | backedUp at_ read done => exact .backedUp at_ (Read.mono read more) done
  | seeded at_ recorded done restored =>
    exact .seeded at_ recorded done (Restored.mono restored more)

theorem Reaches.mono (reaches : Reaches b seen x) (more : seen ⊆ seen') : Reaches b seen' x :=
  Relation.ReflTransGen.mono (fun _ _ advance => Advance.mono advance more) _ _ reaches

theorem Halt.mono (halt : Halt b seen x y) (more : seen ⊆ seen')
    (quiet : Unbroken seen → Unbroken seen') : Halt b seen' x y := by
  cases halt with
  | hold => exact .hold
  | running at_ read going => exact .running at_ (Read.mono read more) going
  | progressing is going => exact .progressing is going
  | failed at_ why unbroken => exact .failed at_ (AttemptFailed.mono why more) (quiet unbroken)
  | missing at_ recorded told from_ =>
    exact .missing at_ recorded (more told) (Since.mono from_ more)
  | lost at_ recorded told from_ now_ late =>
    exact .lost at_ recorded (more told) (Since.mono from_ more) (more now_) late
  | stopped at_ unbroken => exact .stopped at_ (quiet unbroken)
  | contradicted at_ unbroken => exact .contradicted at_ (quiet unbroken)
  | invalid unbroken => exact .invalid (quiet unbroken)
  | mismatched => exact .mismatched
  | configured there all => exact .configured there all
  | recovered standalone is recorded told done =>
    exact .recovered standalone is recorded (more told) done

end Monotone

variable {id : OperationID}

section Going

variable {part next last : ClusterPart} {v : Nat} {b c : CubridCluster}

/-- A reconcile goes on by the same version, without a missing record or a write
    in between. -/
structure Stays (part next : ClusterPart) : Prop where
  base : next.base = part.base
  more : part.seen ⊆ next.seen
  unbroken : Unbroken part.seen → Unbroken next.seen

theorem Stays.refl (part : ClusterPart) : Stays part part := ⟨rfl, Subset.refl _, id⟩

theorem Stays.trans (first : Stays part next) (second : Stays next last) : Stays part last :=
  ⟨second.base.trans first.base, List.Subset.trans first.more second.more,
    second.unbroken ∘ first.unbroken⟩

theorem Stays.note (part : ClusterPart) {e : ClusterEntry} (other : breaks e = false) :
    Stays part (part.note e) where
  base := rfl
  more := subset_cons_self _ _
  unbroken quiet := forall_mem_cons.mpr ⟨other, quiet⟩

theorem Stays.then (stays : Stays part next) {e : ClusterEntry} (other : breaks e = false) :
    Stays part (next.note e) := stays.trans (Stays.note next other)

/-- A reconcile that goes by `b` has come to `c` by moves that lead on. -/
structure Going (part : ClusterPart) (v : Nat) (b c : CubridCluster) : Prop where
  base : part.base = some (v, b)
  sound : b.boot.Sound b
  live : b.boot.Live
  unbroken : Unbroken part.seen
  definition : c.toClusterDefinition = b.toClusterDefinition
  reaches : Reaches b part.seen c.boot
  ready : c.status.isTrue .bootstrapReady = true → b.status.isTrue .bootstrapReady = true

variable {r : CubridCluster}

section

variable (g : Going part v b c)
include g

theorem Going.stays (stays : Stays part next) : Going next v b c :=
  { g with
    base := stays.base.trans g.base
    unbroken := stays.unbroken g.unbroken
    reaches := Reaches.mono g.reaches stays.more }

theorem Going.firstMember : c.firstMember = b.firstMember :=
  congrArg ClusterDefinition.firstMember g.definition

theorem Going.poll {step : BootStep} (at_ : step.At b c.boot)
    (recorded : step.recorded c.database = some id) : Boot.Poll b part.seen (step.member b) id :=
  ⟨_, _, g.reaches, at_, rfl, recorded⟩

theorem Going.copy (definition : r.toClusterDefinition = c.toClusterDefinition)
    (boot : r.boot = c.boot)
    (ready : r.status.isTrue .bootstrapReady = true → c.status.isTrue .bootstrapReady = true) :
    Going part v b r :=
  { g with
    definition := definition.trans g.definition
    reaches := boot ▸ g.reaches
    ready := g.ready ∘ ready }

theorem Going.advance (definition : r.toClusterDefinition = c.toClusterDefinition)
    (advance : Advance b part.seen c.boot r.boot)
    (ready : r.status.isTrue .bootstrapReady = true → c.status.isTrue .bootstrapReady = true) :
    Going part v b r :=
  { g with
    definition := definition.trans g.definition
    reaches := g.reaches.tail advance
    ready := g.ready ∘ ready }

end

structure Halted (part : ClusterPart) (v : Nat) (b : CubridCluster)
    (recovery : Option BootstrapStatus) (c : CubridCluster) : Prop where
  base : part.base = some (v, b)
  sound : b.boot.Sound b
  live : b.boot.Live
  definition : c.toClusterDefinition = b.toClusterDefinition
  recovery : c.boot.recovery = recovery
  halts : ∃ x, Reaches b part.seen x ∧ Halt b part.seen x c.boot
  ready : c.status.isTrue .bootstrapReady = true →
    b.status.isTrue .bootstrapReady = true ∨ c.database.haConfigured = true

structure Extends (part next : ClusterPart) : Prop where
  base : next.base = part.base
  more : part.seen ⊆ next.seen

theorem Stays.extends (stays : Stays part next) : Extends part next := ⟨stays.base, stays.more⟩

theorem Going.halt (g : Going part v b c) (on : Extends part next)
    {recovery : Option BootstrapStatus} (definition : r.toClusterDefinition = c.toClusterDefinition)
    (kept : r.boot.recovery = recovery) (halt : Halt b next.seen c.boot r.boot)
    (unready : r.status.isTrue .bootstrapReady = false) : Halted next v b recovery r where
  base := on.base.trans g.base
  sound := g.sound
  live := g.live
  definition := definition.trans g.definition
  recovery := kept
  halts := ⟨c.boot, Reaches.mono g.reaches on.more, halt⟩
  ready is := by
    rw [unready] at is
    cases is

theorem Going.hold (g : Going part v b c) (ctx : PassContext) (reason msg : String) :
    Halted part v b c.boot.recovery (c.hold ctx reason msg) :=
  g.halt (Stays.refl part).extends rfl rfl .hold (hold_bootstrapReady _ _ _ _)

end Going

variable {reason : String}

section Calls

variable {part : ClusterPart} {v : Nat} {b c retried : CubridCluster} {m : String}
  {req : Request StartBody} {hashRequest : StartBody → String} {ctx : PassContext}

abbrev ClusterObeys {α : Type} (hashRequest : StartBody → String) (done : ClusterPart → α → Prop)
    (part : ClusterPart) (p : ClusterM α) : Prop :=
  Obeys (clusterRules hashRequest) CubridCluster.persisted done part p

theorem obeys_operationOfKey (e : CallError) :
    ClusterObeys hashRequest (fun next r => Stays part next ∧
      (∀ op, r = .ok op → .found m req.kind req.key op ∈ next.seen) ∧
      ∀ e', r = .error e' → e'.cause = .requestRefused → e.cause = .requestRefused)
      part (operationOfKey m req e) := by
  unfold operationOfKey
  split_ifs with unfollowed
  · refine ⟨Stays.refl _, fun op is => (by cases is), fun e' is refused => ?_⟩
    cases is
    exact refused
  · have conflict : e.cause ≠ .requestRefused := by
      intro is
      simp [CallError.startConflict, is] at unfollowed
    refine obeys_find (fun op => ?_) ?_ fun lookup => ?_
    · refine ⟨Stays.note _ rfl, fun op' is => ?_, fun e' is => (by cases is)⟩
      cases is
      exact mem_cons_self
    · refine ⟨Stays.note _ rfl, fun op' is => (by cases is), fun e' is refused => ?_⟩
      cases is
      exact refused
    · refine ⟨Stays.note _ rfl, fun op' is => (by cases is), fun e' is refused => ?_⟩
      cases is
      dsimp only at refused
      split_ifs at refused with first
      · rw [refused] at first
        simp at first
      · exact refused

section Told

variable (part next : ClusterPart) (seen : List ClusterEntry) (ctx : PassContext)
  (c retried : CubridCluster) (since : Option Int)
  (missed : DatabaseStatus → Option Int → DatabaseStatus) (m : String) (req : Request StartBody)
  (reason : String) (kind : OperationKind) (id : OperationID)

inductive StartTold : Except CallError (Operation × Bool) → Prop
  | answered {op : Operation} (told : .answered m req op ∈ seen) : StartTold (.ok (op, false))
  | followed {op : Operation} (told : .found m req.kind req.key op ∈ seen) :
      StartTold (.ok (op, true))
  | refused {e e₀ : CallError} (told : .startFailed m req e₀ ∈ seen)
      (cause : e₀.cause = .requestRefused) :
      StartTold (.error e)
  | failed {e : CallError} (other : e.cause ≠ .requestRefused) : StartTold (.error e)

inductive StepTold : Except CubridCluster (Operation × Bool) → Prop
  | answered {op : Operation} (told : .answered m req op ∈ seen) : StepTold (.ok (op, false))
  | followed {op : Operation} (told : .found m req.kind req.key op ∈ seen) :
      StepTold (.ok (op, true))
  | refused {e : CallError} {msg : String} (told : .startFailed m req e ∈ seen)
      (cause : e.cause = .requestRefused) :
      StepTold (.error (bootstrapStepFailed retried ctx reason msg))
  | held {why msg : String} : StepTold (.error (c.hold ctx why msg))

inductive PollTold : Except CubridCluster Operation → Prop
  | polled {op : Operation} (stays : Stays part next) (told : .polled m id op ∈ next.seen)
      (same : op.kind = kind) :
      PollTold (.ok op)
  | held {why msg : String} (stays : Stays part next) : PollTold (.error (c.hold ctx why msg))
  | stopped {why msg : String} (stays : Stays part next) :
      PollTold (.error (bootstrapStopped (c.withDatabase (missed c.database none)) ctx why msg))
  | missing {why msg : String} {from_ : Int} (told : .missing m id ∈ next.seen)
      (is : Since next.seen since from_) :
      PollTold (.error ((c.withDatabase (missed c.database (some from_))).hold ctx why msg))
  | lost {why msg : String} {from_ t : Int} (told : .missing m id ∈ next.seen)
      (is : Since next.seen since from_)
      (now_ : .time t ∈ next.seen) (late : t - from_ > bootstrapOperationMissingWait) :
      PollTold (.error
        (bootstrapStopped (c.withDatabase (missed c.database (some from_))) ctx why msg))

end Told

variable {since : Option Int} {missed : DatabaseStatus → Option Int → DatabaseStatus}
  {kind : OperationKind}

theorem obeys_startOrFollow (base : part.base = some (v, b))
    (may : Boot.Send b part.seen hashRequest m req) :
    ClusterObeys hashRequest (fun next r => Stays part next ∧ StartTold next.seen m req r) part
      (startOrFollow m req) := by
  refine obeys_start base may (fun op => ?_) fun e => ?_
  · exact ⟨(Stays.note _ rfl).then rfl, .answered mem_cons_self⟩
  · have sent : Stays part ((part.note (.sent m req)).note (.startFailed m req e)) :=
      (Stays.note _ rfl).then rfl
    refine Follows.bind (obeys_operationOfKey e) fun next r ⟨stays, found, refused⟩ => ?_
    cases r with
    | ok op => exact ⟨sent.trans stays, .followed (found op rfl)⟩
    | error e' =>
      refine ⟨sent.trans stays, ?_⟩
      by_cases cause : e'.cause = .requestRefused
      · exact .refused (stays.more mem_cons_self) (refused e' rfl cause)
      · exact .failed cause

theorem obeys_startStep (base : part.base = some (v, b))
    (may : Boot.Send b part.seen hashRequest m req) :
    ClusterObeys hashRequest
      (fun next r => Stays part next ∧ StepTold next.seen ctx c retried m req reason r) part
      (startStep ctx c retried m req reason) := by
  refine Follows.bind (obeys_startOrFollow base may) fun next r ⟨stays, told⟩ => ?_
  cases told with
  | answered told => exact ⟨stays, .answered told⟩
  | followed told => exact ⟨stays, .followed told⟩
  | @refused e e₀ told cause =>
    dsimp only
    split_ifs
    · exact ⟨stays, .refused told cause⟩
    · exact ⟨stays, .held⟩
  | failed other =>
    dsimp only
    rw [if_neg other]
    exact ⟨stays, .held⟩

/-- After a missing record the time since which it is missing is kept or read,
    and then the time that it is now. -/
theorem obeys_missing {α : Type} {done : ClusterPart → α → Prop} {before : ClusterPart}
    {stored : Option Int} {k : Int → Int → ClusterM α} (on : Extends before part)
    (told : .missing m id ∈ part.seen)
    (each : ∀ next since t, Extends before next → .missing m id ∈ next.seen →
      Since next.seen stored since →
      .time t ∈ next.seen → ClusterObeys hashRequest done next (k since t)) :
    ClusterObeys hashRequest done part (firstTime stored >>= fun since => now >>= k since) := by
  have noted : ∀ (next : ClusterPart) (e : ClusterEntry), Extends before next →
      Extends before (next.note e) :=
    fun next e more => ⟨more.base, List.Subset.trans more.more (subset_cons_self _ _)⟩
  cases stored with
  | some since =>
    refine obeys_now fun t => ?_
    exact each _ since t (noted _ _ on) (mem_cons_of_mem _ told) (.inl rfl) mem_cons_self
  | none =>
    refine obeys_now fun since => obeys_now fun t => ?_
    exact each _ since t (noted _ _ (noted _ _ on)) (mem_cons_of_mem _ (mem_cons_of_mem _ told))
      (.inr ⟨rfl, mem_cons_of_mem _ mem_cons_self⟩) mem_cons_self

theorem obeys_stepOperationMissing {before : ClusterPart} {step running left : String}
    (on : Extends before part) (told : .missing m id ∈ part.seen) :
    ClusterObeys hashRequest
      (fun next r => Extends before next ∧ PollTold before next ctx c since missed m kind id
        (.error r)) part
      (stepOperationMissing c ctx since missed m step id running left) := by
  refine obeys_missing on told fun next from_ t on told is now_ => ?_
  split_ifs with late
  · exact ⟨on, .lost told is now_ late⟩
  · exact ⟨on, .missing told is⟩

theorem obeys_pollStep {step running left : String} (goes : part.base = some (v, b))
    (may : Boot.Poll b part.seen m id) :
    ClusterObeys hashRequest
      (fun next r => Extends part next ∧ PollTold part next ctx c since missed m kind id r) part
      (pollStep ctx c since missed m kind step id running left) := by
  refine obeys_get goes may (fun op => ?_) ?_ fun e => ?_
  · have stays : Stays part (part.note (.polled m id op)) := Stays.note _ rfl
    dsimp only
    split
    · exact ⟨stays.extends, .stopped stays⟩
    · rename_i fits
      refine ⟨stays.extends, .polled stays mem_cons_self ?_⟩
      by_contra other
      simp [operationMismatch, other] at fits
  · have noted : Extends part (part.note (.missing m id)) := ⟨rfl, subset_cons_self _ _⟩
    exact Follows.bind (obeys_stepOperationMissing noted mem_cons_self) fun next r told => told
  · have stays : Stays part (part.note .callFailed) := Stays.note _ rfl
    exact ⟨stays.extends, .held stays⟩

end Calls

section Outcomes

variable {part next : ClusterPart} {v : Nat} {b c r : CubridCluster} {step : BootStep}
  {ctx : PassContext} {req : Request StartBody} {op : Operation}

/-- The step keeps the time since which its operation is missing in the status
    of the database, and ends that when it fails. -/
structure BootStep.Keeps (step : BootStep) (c : CubridCluster)
    (missed : DatabaseStatus → Option Int → DatabaseStatus) : Prop where
  miss : ∀ since, step.miss c.boot since = ⟨missed c.database since, c.boot.recovery⟩
  fail : ∀ x, step.fail x = { x with database := { x.database with phase := .failed } }
  named : ∀ since, (missed c.database since).name = c.database.name

theorem Going.poll_halts (g : Going part v b c) (on : Extends part next) (at_ : step.At b c.boot)
    (told : PollTold part next ctx c (step.since c.database) missed
      (step.member b) kind id (.error r))
    (recorded : step.recorded c.database = some id) (keeps : step.Keeps c missed) :
    Halted next v b c.boot.recovery r := by
  have boot : ∀ since, (c.withDatabase (missed c.database since)).boot = step.miss c.boot since :=
    fun since =>
    (withDatabase_boot c ((keeps.named since).trans c.database_name)).trans (keeps.miss since).symm
  have stopped : ∀ since why msg,
      (bootstrapStopped (c.withDatabase (missed c.database since)) ctx why msg).boot =
      step.fail (step.miss c.boot since) := fun since why msg => by
    rw [bootstrapStopped_boot, keeps.fail, ← boot]
    rfl
  have kept : ∀ since, (step.miss c.boot since).recovery = c.boot.recovery := fun since => by
    rw [keeps.miss]
  cases told with
  | held stays => exact (g.stays stays).hold _ _ _
  | stopped stays =>
    refine g.halt on rfl ?_ ?_ (hold_bootstrapReady _ _ _ _)
    · rw [stopped, keeps.fail]
      exact kept none
    · rw [stopped]
      exact .stopped at_ (stays.unbroken g.unbroken)
  | missing told is =>
    refine g.halt on rfl ?_ ?_ (hold_bootstrapReady _ _ _ _) <;> rw [hold_boot, boot]
    · exact kept _
    · exact .missing at_ recorded told is
  | lost told is now_ late =>
    refine g.halt on rfl ?_ ?_ (hold_bootstrapReady _ _ _ _)
    · rw [stopped, keeps.fail]
      exact kept _
    · rw [stopped]
      exact .lost at_ recorded told is now_ late

theorem StepTold.read {retried : CubridCluster} {d : DatabaseStatus} {followed : Bool}
    {k : ClusterDefinition}
    (told : StepTold next.seen ctx c retried (step.member k) req reason (.ok (op, followed)))
    (new : step.recorded d = none) (kind : req.kind = step.kind) (key : req.key = step.key k d) :
    Boot.Read next.seen k d step op := by
  unfold Boot.Read
  rw [new]
  cases told with
  | answered told => exact .answered told ⟨kind, key⟩
  | followed told => exact .found (kind ▸ key ▸ told)

theorem Going.start_halts (g : Going part v b c) (stays : Stays part next)
    {held retried : CubridCluster} (at_ : step.At b c.boot)
    (told : StepTold next.seen ctx held retried (step.member b) req reason (.error r))
    (kind : req.kind = step.kind) (key : req.key = step.key b c.database)
    (same : held.toClusterDefinition = c.toClusterDefinition ∧ held.boot = c.boot)
    (definition : retried.toClusterDefinition = c.toClusterDefinition)
    (retry : (⟨retried.database.retried, retried.boot.recovery⟩ : Boot) = step.retry c.boot)
    (recovery : retried.boot.recovery = c.boot.recovery) : Halted next v b c.boot.recovery r := by
  cases told with
  | refused told cause =>
    refine g.halt stays.extends ((bootstrapStepFailed_definition _ _ _ _).trans definition) ?_ ?_
      (bootstrapStepFailed_bootstrapReady _ _ _ _)
    · rw [bootstrapStepFailed_boot]
      exact recovery
    · rw [bootstrapStepFailed_boot, retry]
      exact .failed at_ (.inr ⟨req, _, told, kind, key, cause⟩) (stays.unbroken g.unbroken)
  | held =>
    refine g.halt stays.extends same.1 (congrArg Boot.recovery same.2) ?_
      (hold_bootstrapReady _ _ _ _)
    rw [hold_boot, same.2]
    exact .hold

def OperationTold (part next : ClusterPart) (v : Nat) (b c : CubridCluster) (step : BootStep) :
    Except CubridCluster Operation → Prop
  | .error r => Halted next v b c.boot.recovery r
  | .ok op => Stays part next ∧ Boot.Read next.seen b c.database step op

theorem Going.polled (g : Going part v b c) (on : Extends part next)
    {outcome : Except CubridCluster Operation} (at_ : step.At b c.boot)
    (told : PollTold part next ctx c (step.since c.database) missed (step.member b) kind id outcome)
    (recorded : step.recorded c.database = some id) (keeps : step.Keeps c missed) :
    OperationTold part next v b c step outcome := by
  cases outcome with
  | error r => exact g.poll_halts on at_ told recorded keeps
  | ok op =>
    cases told with
    | polled stays told =>
      refine ⟨stays, ?_⟩
      unfold Boot.Read
      rw [recorded]
      exact .polled told

end Outcomes
end Controller
