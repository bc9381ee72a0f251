import CubridOperator.Controller.RecoveryGate

/-!
The attempts of a bootstrap: at most three, each after the one before was stored
as failed; a missing record uses none.
-/
namespace Controller
open Foundation InstanceManager Boot List Option

variable {hashRequest : StartBody → String} {c b : CubridCluster} {log past : ClusterLog} {i : Nat}
  {seen : List ClusterEntry} {x y : Boot} {step : BootStep}

/-- The step is the restore of a recovery, which has attempts of its own. -/
def BootStep.recovering : BootStep → Bool
  | .recovery _ _ => true
  | _ => false

def BootStep.attempt (d : DatabaseStatus) : BootStep → Nat
  | .recovery _ r => r.attempts
  | _ => d.bootstrapAttempts

def Boot.attempts (x : Boot) : Bool → Nat
  | true => x.recovery.elim 0 (·.attempts)
  | false => x.database.bootstrapAttempts

variable {k : ClusterDefinition}

theorem BootStep.At.attempts (at_ : step.At k x) :
    x.attempts step.recovering = step.attempt x.database := by
  cases at_ with
  | recovery _ is _ =>
    unfold Boot.attempts BootStep.recovering
    dsimp only
    rw [is]
    rfl
  | _ => rfl

theorem Boot.Advance.attempts (advance : Advance b seen x y) (recovering : Bool) :
    y.attempts recovering = x.attempts recovering := by
  cases recovering with
  | false => cases advance <;> rfl
  | true =>
    cases advance with
    | restored _ at_ => cases at_ with | recovery _ is _ => simp [Boot.attempts, is]
    | _ => rfl

theorem Boot.Reaches.attempts (reaches : Reaches b seen x) (recovering : Bool) :
    x.attempts recovering = b.boot.attempts recovering := by
  unfold Reaches at reaches
  induction reaches with
  | refl => rfl
  | tail _ advance ih => exact (advance.attempts recovering).trans ih

def Boot.Counts (b : CubridCluster) (seen : List ClusterEntry) (recovering : Bool) (x y : Boot) :
    Prop :=
  y.attempts recovering = x.attempts recovering + 1 ∧ y.attempts recovering < maxBootstrapAttempts ∧
  Unbroken seen ∧
    ∃ step : BootStep, step.At b x ∧ step.recovering = recovering ∧
      AttemptFailed seen b x.database step

theorem Boot.retry_counts (at_ : step.At b x) (unbroken : Unbroken seen)
    (why : AttemptFailed seen b x.database step) (recovering : Bool) :
    (step.retry x).attempts recovering = x.attempts recovering ∨
    Counts b seen recovering x (step.retry x) := by
  have counts : ∀ {n : Nat}, (step.retry x).attempts recovering =
      (if n + 1 < maxBootstrapAttempts then n + 1 else n) →
      x.attempts recovering = n → step.recovering = recovering →
      (step.retry x).attempts recovering = x.attempts recovering ∨
      Counts b seen recovering x (step.retry x) := by
    intro n after now same
    split_ifs at after with more
    · exact .inr ⟨now ▸ after, after ▸ more, unbroken, step, at_, same, why⟩
    · exact .inl (after.trans now.symm)
  cases at_ with
  | recovery _ is _ =>
    cases recovering with
    | false => exact .inl rfl
    | true =>
      exact counts (apply_ite BootstrapStatus.attempts _ _ _)
        (congrArg (Option.elim · 0 BootstrapStatus.attempts) is) rfl
  | _ =>
    cases recovering with
    | true => exact .inl rfl
    | false => exact counts (apply_ite DatabaseStatus.bootstrapAttempts _ _ _) rfl rfl

theorem Boot.Halt.attempts (halt : Halt b seen x y) (recovering : Bool) :
    y.attempts recovering = x.attempts recovering ∨ Counts b seen recovering x y := by
  have failed : ∀ {d : DatabaseStatus} {r : Option BootstrapStatus},
      (⟨d, r.map ({ · with phase := .failed })⟩ : Boot).attempts
      recovering = (⟨d, r⟩ : Boot).attempts recovering := by
    intro d r
    cases recovering <;> cases r <;> rfl
  have missed : ∀ {step : BootStep} {since : Option Int}, step.At b x →
      (step.miss x since).attempts recovering = x.attempts recovering ∧
        (step.fail (step.miss x since)).attempts recovering = x.attempts recovering := by
    intro step since at_
    cases at_ with
    | recovery _ is _ => cases recovering <;> simp [Boot.attempts, BootStep.miss, BootStep.fail, is]
    | _ => cases recovering <;> exact ⟨rfl, rfl⟩
  cases halt with
  | failed at_ why unbroken => exact retry_counts at_ unbroken why recovering
  | running at_ =>
    cases at_ with
    | recovery _ is _ => cases recovering <;> simp [Boot.attempts, BootStep.record, is]
    | _ => cases recovering <;> exact .inl rfl
  | progressing is => cases recovering <;> simp [Boot.attempts, is]
  | missing at_ => exact .inl (missed at_).1
  | lost at_ | stopped at_ => exact .inl (missed at_).2
  | invalid => exact .inl failed
  | recovered _ is => cases recovering <;> simp [Boot.attempts, is]
  | _ => cases recovering <;> exact .inl rfl

theorem Boot.Moved.attempts (moved : Moved b seen y) (recovering : Bool) :
    y.attempts recovering = b.boot.attempts recovering ∨
      ∃ x, Reaches b seen x ∧ x.attempts recovering = b.boot.attempts recovering ∧
        Counts b seen recovering x y := by
  cases moved with
  | same is => exact .inl (is ▸ rfl)
  | @moved x z live reaches halt is =>
    subst is
    have followed : z.follow.attempts recovering = z.attempts recovering := by
      cases recovering with
      | false => rfl
      | true =>
        unfold Boot.attempts Boot.follow
        cases z.recovery with
        | none => rfl
        | some r =>
          simp only [map_some, elim_some]
          split_ifs <;> rfl
    have before := reaches.attempts recovering
    rcases halt.attempts recovering with same | ⟨more, below, rest⟩
    · exact .inl (followed.trans (same.trans before))
    · exact .inr ⟨x, reaches, before, followed.trans more, followed ▸ below, rest⟩

section Counted

variable (log)

/-- The attempt of a step failed: its operation was read so, or its request was
    refused. -/
inductive Boot.FailedAttempt (j : Nat) (m : String) (kind : OperationKind) (key : String) : Prop
  | polled {id : OperationID} {op : Operation} (told : (some j, .polled m id op) ∈ log)
      (failed : op.state = .failed)
      (of : Brought log m kind key id)
  | answered {req : Request StartBody} {op : Operation} (told : (some j, .answered m req op) ∈ log)
      (failed : op.state = .failed) (of : req.kind = kind ∧ req.key = key)
  | found {op : Operation} (told : (some j, .found m kind key op) ∈ log)
      (failed : op.state = .failed)
  | refused {req : Request StartBody} {e : CallError} (told : (some j, .startFailed m req e) ∈ log)
      (refused : e.cause = .requestRefused) (of : req.kind = kind ∧ req.key = key)

/-- A stored status counted attempt `n` as failed. -/
def Boot.Counted (recovering : Bool) (n : Nat) : Prop :=
  ∃ j, ∃ before after : CubridCluster, ∃ past, (some j, .wrote before after) :: past <:+ log ∧
    before.boot.attempts recovering = n ∧
    after.boot.attempts recovering = n + 1 ∧
    ∃ (step : BootStep) (d : DatabaseStatus), step.recovering = recovering ∧ step.attempt d = n ∧
      FailedAttempt past j (step.member before) step.kind (step.key before d)

variable {log}

theorem Boot.AttemptFailed.logged {d : DatabaseStatus} {since : Option Int}
    (failed : AttemptFailed seen k d step) (heard : Heard i seen log)
    (traced : Traced log (step.member k) step.kind (step.key k d) (step.recorded d) since) :
    FailedAttempt log i (step.member k) step.kind (step.key k d) := by
  rcases failed with ⟨op, read, failed⟩ | ⟨req, e, told, kind, key, refused⟩
  · unfold Boot.Read at read
    generalize step.recorded d = recorded at read traced
    cases read with
    | @polled id told => exact .polled (heard.logged _ told) failed (traced.brought id rfl)
    | answered told of => exact .answered (heard.logged _ told) failed of
    | found told => exact .found (heard.logged _ told) failed
  · exact .refused (heard.logged _ told) refused ⟨kind, key⟩

theorem persisted_attempts (x : Boot) (recovering : Bool) :
    x.persisted.attempts recovering = x.attempts recovering := by
  cases recovering with
  | false => rfl
  | true =>
    unfold Boot.attempts Boot.persisted
    cases x.recovery <;> rfl

theorem Boot.Counted.mono {recovering : Bool} {n : Nat} (counted : Counted past recovering n)
    (before : past <:+ log) : Counted log recovering n := by
  obtain ⟨j, old, new, earlier, inside, rest⟩ := counted
  exact ⟨j, old, new, earlier, inside.trans before, rest⟩

theorem stored_attempts (justified : ClusterJustified hashRequest c log) (recovering : Bool) :
    ∀ past, past <:+ log → ∀ s ∈ storedIn c.created past,
      s.boot.attempts recovering < maxBootstrapAttempts ∧
      ∀ n < s.boot.attempts recovering, Counted past recovering n := by
  refine stored_induction (fun log s => s.boot.attempts recovering < maxBootstrapAttempts ∧
    ∀ n < s.boot.attempts recovering, Counted log recovering n) justified ?_ ?_ ?_ ?_
  · intro e past s ⟨below, counted⟩
    exact ⟨below, fun n less => (counted n less).mono (suffix_cons _ _)⟩
  · cases recovering <;> exact ⟨Nat.succ_pos 2, nofun⟩
  · intro i object seen past recalls goes move justified stored
    have here := suffix_refl past
    obtain ⟨below, counted⟩ := stored past here _ latest_mem
    have counted := fun n less =>
      (counted n less).mono
        (suffix_cons (some i, .wrote (latest c.created past) object.persisted) past)
    rw [persisted_boot, persisted_attempts]
    rcases move.moved.attempts recovering with same | ⟨x, reaches, before, more, below', -, step,
      at_, recovers, why⟩
    · rw [same]
      exact ⟨below, counted⟩
    · refine ⟨below', fun n less => ?_⟩
      rw [more, before] at less
      rcases Nat.lt_succ_iff_lt_or_eq.mp less with less | rfl
      · exact counted n less
      · have heard := heard_of_logged justified recalls.logged
        have ledger := reaches.ledger heard (stored_ledgers justified past here _ latest_mem)
        refine ⟨i, _, _, past, suffix_refl _, rfl, ?_, step, x.database, recovers, ?_, ?_⟩
        · rw [persisted_boot, persisted_attempts, more, before]
        · rw [← at_.attempts, recovers, before]
        · exact why.logged heard (ledger.traced at_)
  · rintro past after ⟨edit, rfl⟩ counted
    exact counted

end Counted

/-- The status records no operation of the step; of a copy, none of that source
    and round. -/
def BootStep.UnrecordedIn (s : CubridCluster) : BootStep → Prop
  | .create => s.database.bootstrapOperationID = none
  | .backup t => ∀ t₀, s.database.seeding = some t₀ → SameCopy t₀ t → t₀.backupOperationID = none
  | .restore t => ∀ t₀, s.database.seeding = some t₀ → SameCopy t₀ t → t₀.restoreOperationID = none
  | .recovery _ _ => ∀ r, s.boot.recovery = some r → r.operationID = none

/-- What moves that lead on keep of the operations that were recorded. -/
structure Boot.Continues (b : CubridCluster) (x : Boot) : Prop where
  create : x.database.primaryCreated = false → x.database.bootstrapOperationID =
    b.database.bootstrapOperationID
  recovery : ∀ r₀, b.boot.recovery = some r₀ → ∃ r, x.recovery = some r ∧
    r.operationID = r₀.operationID
  seeding : ∀ s₀, b.database.seeding = some s₀ → s₀.member ∈ x.database.seededMembers ∨
    ∃ s, x.database.seeding = some s ∧ s.member = s₀.member ∧
      (s₀.round < s.round ∨ s₀.round = s.round ∧
      s.restoreOperationID = s₀.restoreOperationID ∧
      (s.backupOperationID = none → s₀.backupOperationID = none))

theorem Boot.Advance.continues (advance : Advance b seen x y) (continues : Continues b x) :
    Continues b y := by
  cases advance with
  | begun =>
    refine { continues with recovery := fun r₀ was => ?_ }
    obtain ⟨r, is, -⟩ := continues.recovery r₀ was
    cases is
  | created => exact { continues with create := nofun }
  | restored _ at_ =>
    cases at_ with
    | recovery _ is _ =>
      refine { continues with create := nofun, recovery := fun r₀ was => ?_ }
      obtain ⟨r, is', same⟩ := continues.recovery r₀ was
      cases is.symm.trans is'
      exact ⟨_, rfl, same⟩
  | copying =>
    refine { continues with recovery := fun r₀ was => ?_ }
    obtain ⟨r, is, same⟩ := continues.recovery r₀ was
    cases is
    exact ⟨_, rfl, same⟩
  | chose there next unstarted later =>
    refine { continues with seeding := fun s₀ was => (continues.seeding s₀ was).imp_right ?_ }
    rintro ⟨s, is, same, rounds⟩
    obtain ⟨member, newer, -⟩ := later s is
    exact ⟨_, rfl, member.symm.trans same, .inl (by omega)⟩
  | backedUp at_ =>
    cases at_ with
    | backup _ is _ =>
      refine { continues with seeding := fun s₀ was => (continues.seeding s₀ was).imp_right ?_ }
      rintro ⟨s, is', same, rounds⟩
      cases is.symm.trans is'
      exact ⟨_, rfl, same, rounds.imp_right fun ⟨round, restore, _⟩ => ⟨round, restore, nofun⟩⟩
  | seeded at_ =>
    cases at_ with
    | restore _ is =>
      refine { continues with seeding := fun s₀ was => .inl (mem_append.mpr ?_) }
      refine (continues.seeding s₀ was).imp_right ?_
      rintro ⟨s, is', same, -⟩
      cases is.symm.trans is'
      exact mem_singleton.mpr same.symm

theorem Boot.Reaches.continues (reaches : Reaches b seen x) : Continues b x := by
  unfold Reaches at reaches
  induction reaches with
  | refl =>
    exact ⟨fun _ => rfl, fun r is => ⟨r, is, rfl⟩,
      fun s is => .inr ⟨s, is, rfl, .inr ⟨rfl, rfl, id⟩⟩⟩
  | tail _ advance ih => exact advance.continues ih

variable {m : String}

theorem nextPeer_other {d : DatabaseStatus} (next : k.nextPeer d = some m) :
    m ≠ k.firstMember ∧ m ∉ d.seededMembers := by simpa using find?_some next

theorem Boot.Start.of_step {req : Request StartBody} (start : Start b seen hashRequest x m req)
    (continues : Continues b x) :
    ∃ step : BootStep, step.At b.toClusterDefinition x ∧ step.member b.toClusterDefinition = m ∧
      req.kind = step.kind ∧ req.key = step.key b x.database ∧ step.UnrecordedIn b := by
  -- The copy that is started is the one that was recorded, or one of a later round.
  have copy : ∀ {s s₀ : DatabaseSeeding}, x.database.seeding = some s →
      b.nextPeer x.database = some s.member →
      b.database.seeding = some s₀ → SameCopy s₀ s → s.restoreOperationID = s₀.restoreOperationID ∧
        (s.backupOperationID = none → s₀.backupOperationID = none) := by
    intro s s₀ is next was same
    rcases continues.seeding s₀ was with held | ⟨s', is', -, newer | ⟨-, rest⟩⟩
    · exact absurd (same.1 ▸ held) (nextPeer_other next).2
    · cases is.symm.trans is'
      exact absurd same.2.2 (Nat.ne_of_lt newer)
    · cases is.symm.trans is'
      exact rest
  cases start with
  | create at_ new =>
    refine ⟨.create, at_, rfl, rfl, rfl, ?_⟩
    cases at_ with
    | create _ early => exact (continues.create early).symm.trans new
  | @backup s at_ next new =>
    refine ⟨.backup s, at_, rfl, rfl, rfl, ?_⟩
    cases at_ with
    | backup _ is _ => exact fun t₀ was same => (copy is next was same).2 new
  | @restore s at_ next new =>
    refine ⟨.restore s, at_, rfl, rfl, rfl, ?_⟩
    cases at_ with
    | restore _ is => exact fun t₀ was same => (copy is next was same).1.symm.trans new
  | @recovery uri _ _ r at_ new =>
    refine ⟨.recovery uri r, at_, rfl, rfl, rfl, fun r₀ was => ?_⟩
    obtain ⟨r', is', same⟩ := continues.recovery r₀ was
    cases at_ with
    | recovery _ is _ =>
      cases is.symm.trans is'
      exact same.symm.trans new

theorem Boot.MissedSince.unread (justified : ClusterJustified hashRequest c log) {id : OperationID}
    {t : Int} (missed : MissedSince log m id t) :
    ∃ j t₀ later earlier, log = later ++ (some j, .missing m id) :: earlier ∧
      (some j, .time t₀) ∈ log ∧
      (t = t₀ ∨ t = wholeSeconds t₀) ∧ ∀ who op, (who, .polled m id op) ∉ later := by
  obtain ⟨j, t₀, ⟨earlier, ⟨later, rfl⟩, brings⟩, time, same⟩ := missed
  refine ⟨j, t₀, later, earlier, rfl, time, same, fun who op read => ?_⟩
  obtain ⟨front, back, rfl⟩ := append_of_mem read
  have inside : (who, .polled m id op) :: (back ++ (some j, .missing m id) :: earlier) <:+
      front ++ (who, .polled m id op) :: back ++ (some j, .missing m id) :: earlier :=
      ⟨front, by simp⟩
  have ruled := (justified.suffix inside).1
  cases who <;> exact ruled.2 ⟨some j, earlier, suffix_append _ _, brings⟩

theorem missing_uses_no_attempt (justified : ClusterJustified hashRequest c log)
    {before after : CubridCluster} (wrote : (some i, .wrote before after) :: past <:+ log)
    {id : OperationID} (missing : (some i, .missing m id) ∈ past) :
    (∀ recovering, after.boot.attempts recovering = before.boot.attempts recovering) ∧
      (before.boot.Live → after.database.phase = .failed ∨ after.boot.GivenUp → ∃ m id since t,
        (some i, .missing m id) ∈ past ∧ (some i, .time t) ∈ past ∧
        t - since > recoveryOperationMissingWait ∧
        ∃ j t₀ later earlier, past = later ++ (some j, .missing m id) :: earlier ∧
          (some j, .time t₀) ∈ past ∧
          (since = t₀ ∨ since = wholeSeconds t₀) ∧ ∀ who op, (who, .polled m id op) ∉ later) := by
  obtain ⟨rfl, object, seen, rfl, recalls, goes, move⟩ := wrote_over_latest justified wrote
  have justified := justified.suffix ((suffix_cons _ _).trans wrote)
  have broken : ¬ Unbroken seen := fun unbroken => by cases unbroken _ (recalls.all _ missing rfl)
  have here := suffix_refl past
  have stored := @latest_mem _ _ _ _ c.created past
  constructor
  · intro recovering
    rw [persisted_boot, persisted_attempts]
    rcases move.moved.attempts recovering with same | ⟨x, -, -, -, -, unbroken, -⟩
    · exact same
    · exact absurd unbroken broken
  · intro live failed
    have failed : object.boot.database.phase = .failed ∨ object.boot.GivenUp := by
      have boot := persisted_boot object
      refine failed.imp (fun failed => ?_) fun given => ?_
      · rw [show object.persisted.database = object.boot.persisted.database from congrArg
          Boot.database boot] at failed
        exact failed
      · rw [boot] at given
        obtain ⟨r, is, failed⟩ := given
        obtain ⟨r₀, was, rfl⟩ := map_eq_some_iff.mp is
        exact ⟨r₀, was, failed⟩
    cases move.moved with
    | same is =>
      rw [is] at failed
      exact absurd failed (not_or.mpr live.going)
    | @moved x z _ reaches halt is =>
      rw [is] at failed
      have failed : z.database.phase = .failed ∨ z.GivenUp := by
        rcases failed with failed | ⟨r, is, failed⟩
        · exact .inl failed
        · obtain ⟨r₀, was, rfl⟩ := map_eq_some_iff.mp is
          by_cases ended : z.database.phase = .failed
          · exact .inl ended
          · simp only [ended, if_false] at failed
            split_ifs at failed
            exact .inr ⟨r₀, was, failed⟩
      have ended : Unbroken seen ∨ Lost (latest c.created past) seen x := by
        cases halt.ends (reaches.live_coherent live (stored_sound justified _ stored)).1 with
        | live live => exact absurd failed (not_or.mpr live.going)
        | failed _ _ _ why => exact why
        | configured _ _ _ going | recovered _ _ _ going => exact absurd failed (not_or.mpr going)
      rcases ended with unbroken | ⟨step, id, since, t, at_, recorded, told, from_, now_, late⟩
      · exact absurd unbroken broken
      · have heard := heard_of_logged justified recalls.logged
        have traced :=
          (reaches.ledger heard (stored_ledgers justified past here _ stored)).traced at_
        rw [recorded] at traced
        have missed := missedBy_of_ledgers justified (stored_ledgers justified) recalls.logged told
        refine ⟨_, id, since, t, recalls.logged _ told, recalls.logged _ now_, late, ?_⟩
        exact ((Traced.miss heard missed traced from_).missed id since rfl rfl).unread justified

end Controller
