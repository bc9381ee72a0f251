import CubridOperator.Controller.BootstrapProtocol

/-!
The copies of the first database keep to the machine of the bootstrap: source,
backup and restore.
-/
namespace Controller
open Foundation Program InstanceManager Boot List Option

variable {hashRequest : StartBody → String} {ctx : PassContext} {part : ClusterPart} {v : Nat}
  {b c : CubridCluster} {peer : String} {s : DatabaseSeeding} {recorded : Bool}

structure Copying (part : ClusterPart) (v : Nat) (b c : CubridCluster) :
    Prop extends Going part v b c where
  there : c.database.primaryCreated = true
  untouched : c.database.seeding = none ∨
    c.database.seeding = b.database.seeding ∧ c.database.seededMembers = b.database.seededMembers

structure Chosen (part : ClusterPart) (v : Nat) (b c : CubridCluster) (peer : String)
    (s : DatabaseSeeding) (recorded : Bool) : Prop where
  going : Going part v b (c.withSeeding (some s))
  there : c.database.primaryCreated = true
  member : s.member = peer
  next : b.nextPeer c.database = some peer
  known : recorded = true → Recorded b c.database s
  observed : s.restoreOperationID = none → c.database.seededMembers ≠ [] →
    Observed part.seen b c.database s.source
  restoring : s.restoreOperationID ≠ none → recorded = true

theorem Chosen.stays {next : ClusterPart} (chosen : Chosen part v b c peer s recorded)
    (stays : Stays part next) : Chosen next v b c peer s recorded :=
  { chosen with
    going := chosen.going.stays stays
    observed := fun new more => Observed.mono (chosen.observed new more) stays.more }

theorem withSeeding_same (is : c.database.seeding = some s) :
    (c.withSeeding (some s)).boot = c.boot := by
  rw [withSeeding_boot, ← is]
  rfl

theorem Copying.seeding_member (g : Copying part v b c) (next : b.nextPeer c.database = some peer)
    {old : DatabaseSeeding} (is : c.database.seeding = some old) : old.member = peer := by
  rcases g.untouched with none | ⟨same, seeded⟩
  · rw [none] at is
    cases is
  · have own : b.nextPeer b.database = some old.member := g.sound.next old (same.symm.trans is)
    rw [nextPeer_congr b seeded.symm, next] at own
    exact (some.inj own).symm

theorem filter_member (d : DatabaseStatus) (peer : String) :
    (d.seeding.filter (·.member = peer) = none ∧ ∀ old, d.seeding = some old → old.member ≠ peer) ∨
      ∃ old, d.seeding.filter (·.member = peer) = some old ∧ d.seeding = some old ∧
        old.member = peer := by
  cases is : d.seeding with
  | none => exact .inl ⟨rfl, fun _ none => (by cases none)⟩
  | some old =>
    by_cases same : old.member = peer
    · exact .inr ⟨old, by simp [Option.filter, same], rfl, same⟩
    · refine .inl ⟨by simp [Option.filter, same], fun other is => ?_⟩
      cases is
      exact same

theorem Copying.kept (g : Copying part v b c) (next : b.nextPeer c.database = some peer)
    (is : c.database.seeding = some s) (own : s.member = peer)
    (observed : s.restoreOperationID = none → c.database.seededMembers ≠ [] →
      Observed part.seen b c.database s.source)
    (known : c.database.seededMembers = [] → s.source = b.firstMember) :
    Chosen part v b c peer s true where
  going := g.toGoing.copy rfl (withSeeding_same is) id
  there := g.there
  member := own
  next := next
  known _ := by
    by_cases first : c.database.seededMembers = []
    · exact .first first (known first)
    · rcases g.untouched with none | ⟨same, seeded⟩
      · rw [none] at is
        cases is
      · exact .stored seeded (same.symm.trans is) ⟨rfl, rfl, rfl⟩
  observed := observed
  restoring _ := rfl

theorem Copying.chose (g : Copying part v b c) (next : b.nextPeer c.database = some peer)
    (own : s.member = peer)
    (unstarted : s.restoreOperationID = none ∧ s.backupOperationID = none ∧
      s.operationMissingSince = none)
    (later : ∀ old, c.database.seeding = some old → old.member = peer →
      old.round < s.round ∧ c.database.seededMembers ≠ [])
    (observed : c.database.seededMembers ≠ [] → Observed part.seen b c.database s.source)
    (known : recorded = true → c.database.seededMembers = [] ∧ s.source = b.firstMember) :
    Chosen part v b c peer s recorded where
  going := by
    refine g.toGoing.advance rfl ?_ id
    rw [withSeeding_boot]
    refine .chose g.there (own ▸ next) unstarted fun old is => ?_
    have same := g.seeding_member next is
    exact ⟨same.trans own.symm, later old is same⟩
  there := g.there
  member := own
  next := next
  known is := .first (known is).1 (known is).2
  observed _ := observed
  restoring is := absurd unstarted.1 is

theorem Copying.contradicted (g : Copying part v b c) (is : c.database.seeding = some s)
    (why msg : String) : Halted part v b c.boot.recovery (bootstrapStopped c ctx why msg) := by
  refine g.toGoing.halt (Stays.refl part).extends rfl ?_ ?_ (hold_bootstrapReady _ _ _ _)
  · rw [bootstrapStopped_boot]
  · rw [bootstrapStopped_boot]
    exact .contradicted (.restore g.there is) g.unbroken

def ChoiceTold (part : ClusterPart) (v : Nat) (b c : CubridCluster) (peer : String) :
    Except CubridCluster (DatabaseSeeding × Bool) → Prop
  | .error r => Halted part v b c.boot.recovery r
  | .ok (s, recorded) => Chosen part v b c peer s recorded

theorem obeys_selectSeedSource (more : c.database.seededMembers ≠ []) :
    ClusterObeys hashRequest (fun next r => Stays part next ∧
      ∀ source, r = .ok source → Observed next.seen b c.database source) part
      (selectSeedSource c b.firstMember) := by
  unfold selectSeedSource
  rw [if_neg more]
  refine obeys_query fun answers => obeys_now fun t =>
    ⟨(Stays.note _ rfl).then rfl, fun source is => ?_⟩
  exact ⟨answers, t, mem_cons_of_mem _ mem_cons_self, mem_cons_self, is⟩

theorem Copying.copyFrom (g : Copying part v b c) (next : b.nextPeer c.database = some peer)
    (more : c.database.seededMembers ≠ []) {observed : String}
    (seen : Observed part.seen b c.database observed) :
    Chosen part v b c peer (copyFrom (c.database.seeding.filter (·.member = peer)) peer observed).1
      (copyFrom (c.database.seeding.filter (·.member = peer)) peer observed).2 := by
  obtain ⟨none, other⟩ | ⟨old, found, is, own⟩ := filter_member c.database peer
  · rw [none]
    exact g.chose next rfl ⟨rfl, rfl, rfl⟩ (fun old is same => absurd same (other old is))
      (fun _ => seen) fun is => (by cases is)
  · rw [found]
    unfold Controller.copyFrom
    dsimp only
    split_ifs with differs
    · refine g.chose next rfl ⟨rfl, rfl, rfl⟩ (fun other is' _ => ?_) (fun _ => seen) fun is =>
        (by cases is)
      obtain rfl := some.inj (is.symm.trans is')
      exact ⟨Nat.lt_succ_self _, more⟩
    · exact g.kept next is own (fun _ _ => not_not.mp differs ▸ seen) fun none => absurd none more

theorem obeys_followMaster (g : Copying part v b c) (next : b.nextPeer c.database = some peer)
    (more : c.database.seededMembers ≠ []) :
    ClusterObeys hashRequest (fun last r => Stays part last ∧ ChoiceTold last v b c peer r) part
      (followMaster ctx c b.firstMember peer (c.database.seeding.filter (·.member = peer))) := by
  refine Follows.bind (obeys_selectSeedSource more) fun last r ⟨stays, seen⟩ => ?_
  have g : Copying last v b c := { g with toGoing := g.toGoing.stays stays }
  cases r with
  | error why => exact ⟨stays, g.toGoing.hold _ _ _⟩
  | ok observed => exact ⟨stays, g.copyFrom next more (seen observed rfl)⟩

theorem obeys_chooseSeeding (g : Copying part v b c) (next : b.nextPeer c.database = some peer) :
    ClusterObeys hashRequest (fun last r => Stays part last ∧ ChoiceTold last v b c peer r) part
      (chooseSeeding ctx c b.firstMember peer) := by
  unfold chooseSeeding
  dsimp only
  by_cases first : c.database.seededMembers = []
  · rw [if_pos first]
    obtain ⟨none, other⟩ | ⟨old, found, is, own⟩ := filter_member c.database peer
    · rw [none]
      exact ⟨Stays.refl _, g.chose next rfl ⟨rfl, rfl, rfl⟩
        (fun old is same => absurd same (other old is))
        (fun more => absurd first more) fun _ => ⟨first, rfl⟩⟩
    · rw [found]
      dsimp only
      split_ifs with differs
      · exact ⟨Stays.refl _, g.contradicted is _ _⟩
      · exact ⟨Stays.refl _, g.kept next is own (fun _ more => absurd first more) fun _ =>
          not_not.mp differs⟩
  · rw [if_neg first]
    split
    · rename_i s restoring
      obtain ⟨found, started⟩ := filter_eq_some_iff.mp restoring
      obtain ⟨is, own⟩ := filter_eq_some_iff.mp found
      refine ⟨Stays.refl _, g.kept next is (by simpa using own) (fun new => ?_) fun none =>
        absurd none first⟩
      rw [new] at started
      cases started
    · exact obeys_followMaster g next first

theorem obeys_earlierRestore (c : CubridCluster) (peer artifact : String) (attempt : Nat) :
    ClusterObeys hashRequest (fun next r => Stays part next ∧ ∀ op, r = .ok (some op) →
      ∃ n < attempt, .found peer .restore (c.seedRestoreKey n peer artifact) op ∈ next.seen) part
      (earlierRestore c peer artifact attempt) := by
  induction attempt generalizing part with
  | zero => exact ⟨Stays.refl _, fun op is => by cases is⟩
  | succ attempt ih =>
    refine obeys_find (fun op => ?_) ?_ fun e => ?_
    · refine ⟨Stays.note _ rfl, fun op' is => ?_⟩
      cases is
      exact ⟨attempt, Nat.lt_succ_self _, mem_cons_self⟩
    · refine Follows.mono ih fun next r ⟨stays, found⟩ =>
        ⟨(Stays.note _ rfl).trans stays, fun op is => ?_⟩
      obtain ⟨n, earlier, told⟩ := found op is
      exact ⟨n, Nat.lt_succ_of_lt earlier, told⟩
    · exact ⟨Stays.note _ rfl, fun op is => by cases is⟩

theorem obeys_retrySkipsSeedBackup (s : DatabaseSeeding)
    (definition : c.toClusterDefinition = b.toClusterDefinition) :
    ClusterObeys hashRequest (fun next r => Stays part next ∧ (r = .ok true →
      ∀ x : Boot, x.database.seededMembers = c.database.seededMembers →
        x.database.bootstrapAttempts = c.database.bootstrapAttempts →
        Prepared b next.seen hashRequest x s)) part
      (retrySkipsSeedBackup hashRequest c s.source s.member (c.database.artifact s)) := by
  unfold retrySkipsSeedBackup
  dsimp only
  have artifact : ∀ x : Boot, x.database.seededMembers = c.database.seededMembers →
      x.database.artifact s = c.database.artifact s := fun x same => by
    unfold DatabaseStatus.artifact
    rw [same]
  split_ifs with first
  · exact ⟨Stays.refl _, fun is => by cases is⟩
  · rw [definition]
    refine obeys_find (fun op => ?_) ?_ fun e => ?_
    · refine ⟨Stays.note _ rfl, fun _ x same attempts => ?_⟩
      have told : Entry.found s.member .restore
          (b.seedRestoreKey x.database.bootstrapAttempts s.member (x.database.artifact s))
            op ∈ (part.note
            (.found s.member .restore
              (b.seedRestoreKey c.database.bootstrapAttempts s.member (c.database.artifact s))
              op)).seen := by
        rw [artifact x same, attempts]
        exact mem_cons_self
      exact .held told
    · refine Follows.bind
        (obeys_earlierRestore c s.member (c.database.artifact s) c.database.bootstrapAttempts)
        fun next r ⟨stays, found⟩ => ?_
      have stays := (Stays.note part rfl).trans stays
      match r with
      | .error _ | .ok none => exact ⟨stays, fun is => by cases is⟩
      | .ok (some op) =>
        refine ⟨stays, fun is x same attempts => ?_⟩
        obtain ⟨n, earlier, told⟩ := found op rfl
        have fits := Except.ok.inj is
        simp only [reusable, Bool.and_eq_true, decide_eq_true_eq] at fits
        obtain ⟨⟨state, left, request⟩, same'⟩ := fits
        rw [definition, ← artifact x same] at told request same'
        exact .reused (attempts ▸ earlier) told state left request same'
    · exact ⟨Stays.note _ rfl, fun is => by cases is⟩

theorem seedingRecord (c : CubridCluster) (s : DatabaseSeeding) :
    (c.withSeeding (some s)).boot.database.seeding = some s := by
  rw [withSeeding_boot]

section

variable (chosen : Chosen part v b c peer s recorded)
include chosen

theorem Chosen.atBackup (new : s.restoreOperationID = none) :
    BootStep.At b (c.withSeeding (some s)).boot (.backup s) := by
  refine .backup ?_ (seedingRecord c s) new
  rw [withSeeding_boot]
  exact chosen.there

theorem Chosen.atRestore : BootStep.At b (c.withSeeding (some s)).boot (.restore s) := by
  refine .restore ?_ (seedingRecord c s)
  rw [withSeeding_boot]
  exact chosen.there

theorem Chosen.nextPeer : b.nextPeer (c.withSeeding (some s)).boot.database = some s.member := by
  rw [withSeeding_boot, chosen.member]
  exact chosen.next

theorem Chosen.isRecorded (is : recorded = true) :
    Recorded b (c.withSeeding (some s)).boot.database s := by
  rw [withSeeding_boot]
  cases chosen.known is with
  | first none source => exact .first none source
  | stored same is copy => exact .stored same is copy

theorem Chosen.master (new : s.restoreOperationID = none)
    (more : (c.withSeeding (some s)).boot.database.seededMembers ≠ []) :
    Observed part.seen b (c.withSeeding (some s)).boot.database s.source := by
  rw [withSeeding_boot] at more ⊢
  exact chosen.observed new more

end

theorem withSeeding_artifact (c : CubridCluster) (s t : DatabaseSeeding) :
    (c.withSeeding (some s)).database.artifact t = c.database.artifact t := by
  rw [withSeeding_database]
  rfl

theorem withSeeding_attempts (c : CubridCluster) (s : Option DatabaseSeeding) :
    (c.withSeeding s).database.bootstrapAttempts = c.database.bootstrapAttempts := by
  rw [withSeeding_database]

theorem withoutSeeding_retried (c : CubridCluster) (s : DatabaseSeeding) :
    (⟨((c.withSeeding (some s)).withSeeding none).database.retried,
        ((c.withSeeding (some s)).withSeeding none).boot.recovery⟩ : Boot) =
      { (c.withSeeding (some s)).boot with
        database := { (c.withSeeding (some s)).boot.database with seeding := none }.retried } := by
  rw [withSeeding_database, withSeeding_boot]
  rfl

theorem obeys_seedBackupOperation (chosen : Chosen part v b c peer s recorded)
    (new : s.restoreOperationID = none) :
    ClusterObeys hashRequest
      (fun next r => OperationTold part next v b (c.withSeeding (some s)) (.backup s) r) part
      (seedBackupOperation hashRequest ctx (c.withSeeding (some s)) s (c.database.artifact s)) := by
  have g := chosen.going
  have at_ := chosen.atBackup new
  unfold seedBackupOperation
  split
  · rename_i id is
    refine Follows.mono (obeys_pollStep g.base (g.poll at_ is)) fun next r ⟨on, told⟩ => ?_
    exact g.polled on at_ told is ⟨fun _ => rfl, fun _ => rfl, fun _ => rfl⟩
  · rename_i unrecorded
    split
    · exact g.hold _ _ _
    · rw [← withSeeding_artifact c s s, g.definition]
      have start : Boot.Send b part.seen hashRequest s.source _ :=
        ⟨g.live, g.unbroken, _, g.reaches, .backup at_ chosen.nextPeer unrecorded⟩
      refine Follows.bind (obeys_startStep g.base start) fun next r ⟨stays, told⟩ => ?_
      match r with
      | .ok (op, followed) => exact ⟨stays, told.read unrecorded rfl rfl⟩
      | .error r =>
        have halted := g.start_halts stays at_ told rfl rfl ⟨rfl, rfl⟩
        exact halted rfl (withoutSeeding_retried c s) rfl

def PrepareTold (hashRequest : StartBody → String) (part : ClusterPart) (v : Nat)
    (b c : CubridCluster) (peer : String) (s : DatabaseSeeding) (recorded : Bool) :
    Except CubridCluster DatabaseSeeding → Prop
  | .error r => Halted part v b c.boot.recovery r
  | .ok t => SameCopy s t ∧ Chosen part v b c peer t recorded ∧ t.restoreOperationID = none ∧
      (Prepared b part.seen hashRequest (c.withSeeding (some t)).boot t)

theorem artifact_copy (d : DatabaseStatus) {t : DatabaseSeeding} (same : SameCopy s t) :
    d.artifact s = d.artifact t := by
  unfold DatabaseStatus.artifact seedArtifact
  rw [same.1, same.2.1, same.2.2]

theorem Recorded.copy {d : DatabaseStatus} {t : DatabaseSeeding} (known : Recorded b d s)
    (same : SameCopy s t) : Recorded b d t := by
  cases known with
  | first none source => exact .first none (same.2.1.symm.trans source)
  | stored seeded is copy =>
    exact .stored seeded is ⟨copy.1.trans same.1, copy.2.1.trans same.2.1, copy.2.2.trans same.2.2⟩

section

variable (chosen : Chosen part v b c peer s recorded)
include chosen

section

variable (new : s.restoreOperationID = none)
include new

theorem Chosen.backedUp {op : Operation}
    (read : Boot.Read part.seen b (c.withSeeding (some s)).database (.backup s) op)
    (done : op.state = .completed) :
    PrepareTold hashRequest part v b c peer s recorded
      (.ok { s with backupOperationID := some op.id, operationMissingSince := none }) := by
  have at_ := chosen.atBackup new
  refine ⟨⟨rfl, rfl, rfl⟩, ?_, new, ?_⟩
  · refine { chosen with
      going := chosen.going.advance rfl ?_ id
      known := fun is => Recorded.copy (chosen.known is) ⟨rfl, rfl, rfl⟩ }
    have advance : Advance b part.seen _ _ := .backedUp at_ read done
    rw [withSeeding_boot] at advance ⊢
    rwa [withSeeding_boot]
  · refine .backedUp chosen.going.reaches at_ read done ⟨rfl, rfl, rfl⟩ ?_
    rw [withSeeding_boot, withSeeding_boot]

theorem Chosen.concludeSeedBackup {op : Operation}
    (read : Boot.Read part.seen b (c.withSeeding (some s)).database (.backup s) op) :
    PrepareTold hashRequest part v b c peer s recorded
      (concludeSeedBackup ctx (c.withSeeding (some s)) s op) := by
  have g := chosen.going
  have at_ := chosen.atBackup new
  have on := (Stays.refl part).extends
  have kept : (c.withSeeding (some s)).boot.recovery = c.boot.recovery := rfl
  unfold Controller.concludeSeedBackup
  dsimp only
  split
  · rename_i done
    exact chosen.backedUp new read done
  · rename_i failed
    refine g.halt on (bootstrapStepFailed_definition _ _ _ _) ?_ ?_
      (bootstrapStepFailed_bootstrapReady _ _ _ _)
    · rw [bootstrapStepFailed_boot]
      exact kept
    · rw [bootstrapStepFailed_boot, withoutSeeding_retried]
      exact .failed at_ (.inl ⟨op, read, failed⟩) g.unbroken
  · refine g.halt on rfl kept ?_ (hold_bootstrapReady _ _ _ _)
    have halt : Halt b part.seen _ _ := .running at_ read (.inl rfl)
    rw [hold_boot, withSeeding_boot (c.withSeeding (some s))]
    exact halt

theorem obeys_seedBackup :
    ClusterObeys hashRequest
      (fun next r => PrepareTold hashRequest next v b c peer s recorded r) part
      (seedBackup hashRequest ctx c s (c.database.artifact s)) := by
  refine Follows.bind (obeys_seedBackupOperation chosen new) fun next r told => ?_
  cases r with
  | error r => exact told
  | ok op => exact (chosen.stays told.1).concludeSeedBackup new told.2

theorem obeys_prepareSeedRestore :
    ClusterObeys hashRequest
      (fun next r => PrepareTold hashRequest next v b c peer s recorded r) part
      (prepareSeedRestore hashRequest ctx c s (c.database.artifact s)) := by
  refine Follows.bind (obeys_retrySkipsSeedBackup s chosen.going.definition)
    fun next r ⟨stays, skips⟩ => ?_
  have chosen := chosen.stays stays
  match r with
  | .error e => exact chosen.going.hold _ _ _
  | .ok true =>
    refine ⟨⟨rfl, rfl, rfl⟩, chosen, new, skips rfl _ ?_ ?_⟩
    · rw [withSeeding_boot]
    · rw [withSeeding_boot]
  | .ok false => exact obeys_seedBackup chosen new

end

end

inductive RestoreTold (seen : List ClusterEntry) (b c : CubridCluster) (s : DatabaseSeeding)
    (op : Operation) : Bool → Prop
  | polled {id : OperationID} (is : s.restoreOperationID = some id)
      (told : .polled s.member id op ∈ seen)
      (kind : op.kind = .restore) : RestoreTold seen b c s op true
  | followed (new : s.restoreOperationID = none) (told : .found s.member .restore
      (b.seedRestoreKey c.database.bootstrapAttempts s.member (c.database.artifact s)) op ∈ seen) :
      RestoreTold seen b c s op true
  | answered {req : Request StartBody} (new : s.restoreOperationID = none)
      (told : .answered s.member req op ∈ seen)
      (kind : req.kind = .restore)
      (key : req.key = b.seedRestoreKey c.database.bootstrapAttempts s.member
        (c.database.artifact s))
      (body : req.body = .restore (b.seedRestoreBody s.source (c.database.artifact s))) :
        RestoreTold seen b c s op false

def SeedRestoreTold (part : ClusterPart) (v : Nat) (b c : CubridCluster) (peer : String)
    (s : DatabaseSeeding) : Except CubridCluster (DatabaseSeeding × Operation × Bool) → Prop
  | .error r => Halted part v b c.boot.recovery r
  | .ok (t, op, followed) =>
    SameCopy s t ∧ Chosen part v b c peer t true ∧ RestoreTold part.seen b c t op followed

theorem obeys_startSeedRestore (chosen : Chosen part v b c peer s recorded)
    (new : s.restoreOperationID = none)
    (prepared : Prepared b part.seen hashRequest (c.withSeeding (some s)).boot s) :
    ClusterObeys hashRequest (fun next r => SeedRestoreTold next v b c peer s (r.map (s, ·))) part
      (startSeedRestore hashRequest ctx c s recorded (c.database.artifact s)) := by
  have g := chosen.going
  have at_ := chosen.atRestore
  unfold startSeedRestore
  cases recorded with
  | false => exact g.hold _ _ _
  | true =>
    simp only [Bool.not_true, Bool.false_eq_true, if_false]
    split
    · exact g.hold _ _ _
    · rw [← withSeeding_attempts c (some s), ← withSeeding_artifact c s s,
        show c.toClusterDefinition = b.toClusterDefinition from g.definition]
      have start : Boot.Send b part.seen hashRequest s.member _ :=
        ⟨g.live, g.unbroken, _, g.reaches,
          .restore at_ chosen.nextPeer new (chosen.isRecorded rfl) (chosen.master new) prepared⟩
      refine Follows.mono (obeys_startStep g.base start) fun next r ⟨stays, told⟩ => ?_
      match r with
      | .error r =>
        have halted := g.start_halts stays at_ told rfl rfl ⟨rfl, rfl⟩
        refine halted rfl ?_ rfl
        rw [withSeeding_boot c (some s), withSeeding_database]
        rfl
      | .ok (op, followed) =>
        refine ⟨⟨rfl, rfl, rfl⟩, chosen.stays stays, ?_⟩
        cases told with
        | answered told =>
          refine .answered new told rfl ?_ ?_
          · rw [← withSeeding_attempts c (some s), ← withSeeding_artifact c s s]
            rfl
          · rw [← withSeeding_artifact c s s]
            rfl
        | followed told =>
          refine .followed new ?_
          rw [← withSeeding_attempts c (some s), ← withSeeding_artifact c s s]
          exact told

theorem obeys_seedRestore (chosen : Chosen part v b c peer s recorded) :
    ClusterObeys hashRequest (fun next r => SeedRestoreTold next v b c peer s r) part
      (seedRestore hashRequest ctx c s recorded (c.database.artifact s)) := by
  have g := chosen.going
  unfold seedRestore
  split
  · rename_i id is
    have restoring : recorded = true := chosen.restoring (by simp [is])
    subst restoring
    have at_ := chosen.atRestore
    refine Follows.bind (obeys_pollStep g.base (g.poll at_ is)) fun next r ⟨on, told⟩ => ?_
    cases r with
    | error r =>
      have halted := g.poll_halts on at_ told is ⟨fun _ => rfl, fun _ => rfl, fun _ => rfl⟩
      exact halted
    | ok op =>
      cases told with
      | polled stays told same => exact ⟨⟨rfl, rfl, rfl⟩, chosen.stays stays, .polled is told same⟩
  · rename_i new
    refine Follows.bind (obeys_prepareSeedRestore chosen new) fun next r told => ?_
    cases r with
    | error r => exact told
    | ok s' =>
      obtain ⟨same, chosen', new', prepared⟩ := told
      rw [artifact_copy c.database same]
      refine Follows.bind (obeys_startSeedRestore chosen' new' prepared) fun next r told => ?_
      cases r with
      | error r => exact told
      | ok started => exact ⟨same, told.2⟩

section Concluding

variable {op : Operation} {followed : Bool}

structure Seeded (part : ClusterPart) (v : Nat) (b c : CubridCluster) (peer : String)
    (r : CubridCluster) : Prop
    extends Copying part v b r where
  members : r.database.seededMembers = c.database.seededMembers ++ [peer]
  recovery : r.boot.recovery = c.boot.recovery

def SeedingTold (part : ClusterPart) (v : Nat) (b c : CubridCluster) (peer : String) :
    CubridCluster × Bool → Prop
  | (r, true) => Seeded part v b c peer r
  | (r, false) => Halted part v b c.boot.recovery r

theorem RestoreTold.read {seen : List ClusterEntry} (told : RestoreTold seen b c s op followed) :
    Boot.Read seen b (c.withSeeding (some s)).boot.database (.restore s) op := by
  have key : (BootStep.restore s).key b (c.withSeeding (some s)).boot.database =
      b.seedRestoreKey c.database.bootstrapAttempts s.member (c.database.artifact s) := by
    rw [withSeeding_boot]
    rfl
  unfold Boot.Read
  rw [key]
  cases told with
  | polled is told kind =>
    rw [show (BootStep.restore s).recorded _ = some _ from is]
    exact .polled told
  | followed new told =>
    rw [show (BootStep.restore s).recorded _ = none from new]
    exact .found told
  | answered new told kind key body =>
    rw [show (BootStep.restore s).recorded _ = none from new]
    exact .answered told ⟨kind, key⟩

theorem RestoreTold.restored {seen : List ClusterEntry} (told : RestoreTold seen b c s op followed)
    (fits : followed = true →
      restoredSeed op b.uid (c.database.artifact s) b.firstDatabase = true) :
    Restored seen b (c.withSeeding (some s)).boot.database s op := by
  have same : (c.withSeeding (some s)).boot.database.artifact s = c.database.artifact s :=
    withSeeding_artifact c s s
  have attempts : (c.withSeeding (some s)).boot.database.bootstrapAttempts =
      c.database.bootstrapAttempts :=
    withSeeding_attempts c (some s)
  cases told with
  | polled is told kind =>
    refine .polled told kind ?_
    rw [same]
    exact fits rfl
  | followed new told =>
    refine .found ?_ ?_
    · rw [same, attempts]
      exact told
    · rw [same]
      exact fits rfl
  | answered new told kind key body =>
    refine .answered told kind ?_
    rw [same]
    exact body

theorem Chosen.seeded (chosen : Chosen part v b c peer s true)
    (told : RestoreTold part.seen b c s op followed) (done : op.state = .completed)
    (fits : followed = true →
      restoredSeed op b.uid (c.database.artifact s) b.firstDatabase = true) :
    Seeded part v b c peer (c.withDatabase { c.database with
      seededMembers := c.database.seededMembers ++ [s.member], seeding := none }) := by
  have boot : (c.withDatabase { c.database with
      seededMembers := c.database.seededMembers ++ [s.member], seeding := none }).boot = _ :=
    withDatabase_boot c c.database_name
  have database := congrArg Boot.database boot
  have going : Going part v b (c.withDatabase { c.database with
      seededMembers := c.database.seededMembers ++ [s.member], seeding := none }) := by
    refine chosen.going.advance rfl ?_ id
    have advance : Advance b part.seen _ _ :=
      .seeded chosen.atRestore (chosen.isRecorded rfl) done (told.restored fits)
    rw [boot]
    rw [withSeeding_boot] at advance ⊢
    exact advance
  refine ⟨⟨going, ?_, .inl ?_⟩, ?_, ?_⟩
  · exact (congrArg DatabaseStatus.primaryCreated database).trans chosen.there
  · exact congrArg DatabaseStatus.seeding database
  · rw [← chosen.member]
    exact congrArg DatabaseStatus.seededMembers database
  · rfl

theorem Chosen.concludeSeeding (chosen : Chosen part v b c peer s true)
    (told : RestoreTold part.seen b c s op followed) :
    SeedingTold part v b c peer (concludeSeeding ctx c s (c.database.artifact s) op followed) := by
  have g := chosen.going
  have at_ := chosen.atRestore
  have on := (Stays.refl part).extends
  have kept : (c.withSeeding (some s)).boot.recovery = c.boot.recovery := rfl
  have definition : c.toClusterDefinition = b.toClusterDefinition := g.definition
  unfold Controller.concludeSeeding
  dsimp only
  split_ifs with mismatch
  · refine g.halt on rfl kept ?_ (hold_bootstrapReady _ _ _ _)
    have halt : Halt b part.seen (c.withSeeding (some s)).boot _ := .mismatched
    rw [hold_boot, withSeeding_boot c (some { s with operationMissingSince := none })]
    rw [withSeeding_boot] at halt ⊢
    exact halt
  · split
    · rename_i done
      refine chosen.seeded told done fun is => ?_
      by_contra other
      rw [← definition] at other
      exact mismatch ⟨is, done, by simpa using other⟩
    · rename_i failed
      refine g.halt on (bootstrapStepFailed_definition _ _ _ _) ?_ ?_
        (bootstrapStepFailed_bootstrapReady _ _ _ _)
      · rw [bootstrapStepFailed_boot]
        exact kept
      · have halt : Halt b part.seen _ _ := .failed at_ (.inl ⟨op, told.read, failed⟩) g.unbroken
        rw [bootstrapStepFailed_boot, withSeeding_database]
        rw [withSeeding_boot] at halt ⊢
        exact halt
    · refine g.halt on rfl kept ?_ (hold_bootstrapReady _ _ _ _)
      have halt : Halt b part.seen _ _ := .running at_ told.read (.inl rfl)
      rw [hold_boot, withSeeding_boot c
        (some { s with operationMissingSince := none, restoreOperationID := some op.id })]
      rw [withSeeding_boot] at halt ⊢
      exact halt

end Concluding

theorem obeys_seedMember (g : Copying part v b c) (next : b.nextPeer c.database = some peer) :
    ClusterObeys hashRequest (fun last r => SeedingTold last v b c peer r) part
      (seedMember hashRequest ctx c b.firstMember peer) := by
  refine Follows.bind (obeys_chooseSeeding g next) fun last r ⟨_, told⟩ => ?_
  match r with
  | .error r => exact told
  | .ok (s, recorded) =>
    refine Follows.bind (obeys_seedRestore told) fun last r told => ?_
    match r with
    | .error r => exact told
    | .ok (t, op, followed) =>
      obtain ⟨same, chosen, told⟩ := told
      show SeedingTold last v b c peer (concludeSeeding ctx c t (c.database.artifact s) op followed)
      rw [artifact_copy c.database same]
      exact chosen.concludeSeeding told

theorem nextPeer_of_left {k : ClusterDefinition} {d : DatabaseStatus} {done rest : List String}
    (members : memberNames k.name k.spec.promotableMembers = done ++ peer :: rest)
    (served : ∀ m ∈ done, m = k.firstMember ∨ m ∈ d.seededMembers)
    (left : ¬(peer = k.firstMember ∨ peer ∈ d.seededMembers)) : k.nextPeer d = some peer := by
  unfold ClusterDefinition.nextPeer
  rw [members, find?_append, find?_eq_none.mpr fun m inside => ?_, none_or,
    find?_cons_of_pos (by simpa using left)]
  · rcases served m inside with rfl | seeded
    · simp
    · simp [seeded]

def SeedingsTold (part : ClusterPart) (v : Nat) (b c : CubridCluster) : CubridCluster × Bool → Prop
  | (r, true) =>
    Copying part v b r ∧ r.boot.recovery = c.boot.recovery ∧ b.nextPeer r.database = none
  | (r, false) => Halted part v b c.boot.recovery r

theorem obeys_seedMembers {done rest : List String} (g : Copying part v b c)
    (members : memberNames b.name b.spec.promotableMembers = done ++ rest)
    (served : ∀ m ∈ done, m = b.firstMember ∨ m ∈ c.database.seededMembers) :
    ClusterObeys hashRequest (fun last r => SeedingsTold last v b c r) part
      (seedMembers hashRequest ctx b.firstMember rest c) := by
  induction rest generalizing part c done with
  | nil =>
    refine ⟨g, rfl, ?_⟩
    rw [append_nil] at members
    unfold ClusterDefinition.nextPeer
    rw [members, find?_eq_none]
    intro m inside
    rcases served m inside with rfl | seeded
    · simp
    · simp [seeded]
  | cons peer rest ih =>
    have shifted : memberNames b.name b.spec.promotableMembers = (done ++ [peer]) ++ rest := by
      simp [members]
    unfold seedMembers
    split_ifs with held
    · refine ih g shifted fun m inside => ?_
      rcases mem_append.mp inside with before | last
      · exact served m before
      · exact mem_singleton.mp last ▸ held
    · refine Follows.bind (obeys_seedMember g (nextPeer_of_left members served held))
        fun last r told => ?_
      match r with
      | (r, false) => exact told
      | (r, true) =>
        refine Follows.mono (ih told.toCopying shifted fun m inside => ?_) fun last r' told' => ?_
        · rw [told.members]
          rcases mem_append.mp inside with before | last
          · exact (served m before).imp_right (mem_append_left _)
          · exact .inr (mem_append_right _ last)
        · obtain ⟨r', _ | _⟩ := r'
          · have halted : Halted last v b r.boot.recovery r' := told'
            rw [told.recovery] at halted
            exact halted
          · exact ⟨told'.1, told'.2.1.trans told.recovery, told'.2.2⟩

theorem obeys_reconcileSeeding (g : Copying part v b c) :
    ClusterObeys hashRequest (fun last r => Halted last v b c.boot.recovery r) part
      (reconcileSeeding hashRequest ctx c b.firstMember) := by
  have definition := g.definition
  unfold reconcileSeeding
  dsimp only
  split
  · exact g.toGoing.hold _ _ _
  · split
    · exact g.toGoing.hold _ _ _
    · rw [definition]
      refine Follows.bind (obeys_seedMembers g (nil_append _).symm (by simp)) fun last r told => ?_
      match r with
      | (r, false) => exact told
      | (r, true) =>
        obtain ⟨g, recovery, all⟩ := told
        have boot : (r.withDatabase { r.database with
            seeding := none, haConfigured := true }).boot = _ :=
          withDatabase_boot r r.database_name
        refine ⟨g.base, g.sound, g.live, g.definition, recovery, ⟨r.boot, g.reaches, ?_⟩,
          fun _ => .inr ?_⟩
        · rw [setCondition_boot, boot]
          exact .configured g.there all
        · exact congrArg (fun x : Boot => x.database.haConfigured) boot

end Controller
