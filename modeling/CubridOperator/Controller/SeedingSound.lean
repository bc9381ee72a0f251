import CubridOperator.Controller.BootstrapProgress

/-!
Who is seeded, and from whom.
-/
namespace Controller
open Foundation InstanceManager Boot List

section Source

variable {obs : Observations} {now : Int} {holders masters : List String}

/-- Every holder answered in time, and `source` alone as master. -/
structure OnlyMaster (holders : List String) (obs : Observations) (now : Int) (source : String) :
    Prop where
  fresh : ∀ h ∈ holders, fresh (obs.of h) now = true
  holds : source ∈ holders
  master : ∀ h ∈ holders, (obs.of h).role = roleMaster ↔ h = source

theorem seedMasters_ok (ok : seedMasters obs now holders = .ok masters) :
    masters ⊆ holders ∧ ∀ h ∈ holders, fresh (obs.of h) now = true ∧
    ((obs.of h).role = roleMaster ↔ h ∈ masters) := by
  induction holders generalizing masters with
  | nil =>
    cases ok
    exact ⟨Subset.refl _, nofun⟩
  | cons m rest ih =>
    unfold seedMasters at ok
    cases is : obs m with
    | none => simp [is] at ok
    | some o =>
      have of : obs.of m = o := by simp [Observations.of, is]
      rw [is] at ok
      simp only at ok
      split_ifs at ok with late master slave
      all_goals have recent : fresh (obs.of m) now = true := by simpa [of] using late
      · cases tail : seedMasters obs now rest with
        | error why => simp [tail, Except.map] at ok
        | ok found =>
          rw [tail] at ok
          cases ok
          obtain ⟨inside, each⟩ := ih tail
          refine ⟨cons_subset_cons m inside, fun h holds => ?_⟩
          rcases mem_cons.mp holds with rfl | later
          · exact ⟨recent, iff_of_true (of ▸ master.1) mem_cons_self⟩
          · obtain ⟨recent, role⟩ := each h later
            refine ⟨recent, fun is => mem_cons_of_mem _ (role.mp is), fun is => ?_⟩
            rcases mem_cons.mp is with rfl | is
            · exact of ▸ master.1
            · exact role.mpr is
      · obtain ⟨inside, each⟩ := ih ok
        refine ⟨subset_cons_of_subset m inside, fun h holds => ?_⟩
        rcases mem_cons.mp holds with rfl | later
        · refine ⟨recent, fun is => ?_, fun is => (each h (inside is)).2.mpr is⟩
          exact absurd ((of ▸ slave.1.symm).trans is) (by decide)
        · exact each h later

theorem onlyMaster_of_seedSource {source : String}
    (ok : seedSourceAmong holders obs now = .ok source) : OnlyMaster holders obs now source := by
  unfold seedSourceAmong at ok
  split at ok
  all_goals try (cases ok; done)
  rename_i only
  cases ok
  obtain ⟨inside, each⟩ := seedMasters_ok only
  refine ⟨fun h holds => (each h holds).1, inside mem_cons_self, fun h holds => ?_⟩
  rw [(each h holds).2, mem_singleton]

end Source

section Seeding

variable {hashRequest : StartBody → String} {c b : CubridCluster} {log past : ClusterLog} {i : Nat}
  {seen : List ClusterEntry} {x y : Boot}

structure Boot.SeededBy (b : CubridCluster) (seen : List ClusterEntry) (m : String)
    (s : DatabaseSeeding) (op : Operation) : Prop where
  member : s.member = m
  recorded : Recorded b b.database s
  done : op.state = .completed
  restored : Restored seen b b.database s op

theorem Boot.Recorded.read {s : DatabaseSeeding} (recorded : Recorded b x.database s)
    (reaches : Reaches b seen x) :
    x.database.artifact s = b.database.artifact s ∧ Recorded b b.database s ∧
      (b.database.seededMembers ≠ [] → x.database.seededMembers = b.database.seededMembers) := by
  cases recorded with
  | first none source =>
    have unseeded : b.database.seededMembers = [] :=
      subset_nil.mp (none ▸ reaches.progress.seeded.subset)
    refine ⟨?_, .first unseeded source, fun some => absurd unseeded some⟩
    unfold DatabaseStatus.artifact
    rw [none, unseeded]
  | stored same is copy =>
    refine ⟨?_, .stored rfl is copy, fun _ => same⟩
    unfold DatabaseStatus.artifact
    rw [same]

theorem Boot.Reaches.seeded (reaches : Reaches b seen x) :
    ∀ m ∈ x.database.seededMembers, m ∈ b.database.seededMembers ∨ ∃ s op,
      SeededBy b seen m s op := by
  unfold Reaches at reaches
  induction reaches with
  | refl => exact fun m held => .inl held
  | @tail x _ before advance ih =>
    cases advance with
    | @seeded _ s op at_ recorded done restored =>
      intro m held
      rcases mem_append.mp held with held | new
      · exact ih m held
      · obtain ⟨named, recorded, -⟩ := recorded.read before
        refine .inr ⟨s, op, (mem_singleton.mp new).symm, recorded, done, ?_⟩
        have attempts : x.database.bootstrapAttempts = b.database.bootstrapAttempts :=
          Reaches.attempts before false
        cases restored with
        | polled told kind same => exact .polled told kind (named ▸ same)
        | found told same => exact .found (named ▸ attempts ▸ told) (named ▸ same)
        | answered told kind body => exact .answered told kind (named ▸ body)
    | _ => exact ih

theorem Boot.Moved.seeded (moved : Moved b seen y) :
    ∀ m ∈ y.database.seededMembers, m ∈ b.database.seededMembers ∨ ∃ s op,
      SeededBy b seen m s op := by
  cases moved with
  | same is => exact is ▸ fun m held => .inl held
  | @moved x z live reaches halt is =>
    rw [is]
    exact fun m held => reaches.seeded m (halt.kept.1 ▸ held)

/-- Why the restore of a copy to a later peer was started. -/
structure LaterSeed (hashRequest : StartBody → String) (past : ClusterLog) (b : CubridCluster)
    (seen : List ClusterEntry) (s : DatabaseSeeding) : Prop where
  named : ∃ s₀, b.database.seeding = some s₀ ∧ SameCopy s₀ s
  observed : ∃ answers t, .told (.probe (b.firstMember :: b.database.seededMembers)) answers ∈
    seen ∧ .time t ∈ seen ∧
    OnlyMaster (b.firstMember :: b.database.seededMembers)
      (probeAll (b.firstMember :: b.database.seededMembers) answers) t s.source
  prepared :
    (∃ op id, ReadAs seen s.source .backup
      (b.seedBackupKey b.database.bootstrapAttempts (b.database.artifact s)) op id ∧
      op.state = .completed ∧ Brought past s.source .backup
        (b.seedBackupKey b.database.bootstrapAttempts (b.database.artifact s)) op.id) ∨
    (∃ op, .found s.member .restore
      (b.seedRestoreKey b.database.bootstrapAttempts s.member (b.database.artifact s)) op ∈ seen) ∨
    ∃ op attempt, attempt < b.database.bootstrapAttempts ∧
      .found s.member .restore
        (b.seedRestoreKey attempt s.member (b.database.artifact s)) op ∈ seen ∧
      op.state = .failed ∧ op.restored ≠ none ∧
      op.requestHash = hashRequest (.restore (b.seedRestoreBody s.source (b.database.artifact s))) ∧
      restoredSeed op b.uid (b.database.artifact s) b.firstDatabase = true

theorem Boot.Start.seed {m : String} {req : Request StartBody}
    (start : Start b seen hashRequest x m req) (reaches : Reaches b seen x)
    (heard : Heard i seen past) (ledger : Boot.Ledger past b b.boot)
    (restores : req.kind = .restore) :
    (∃ uri bucket pathPrefix attempts, b.spec.recovery = some uri ∧ m = b.firstMember ∧
      req = b.recoveryRequest hashRequest uri bucket pathPrefix attempts) ∨
    ∃ s, s.member = m ∧ m ≠ b.firstMember ∧ m ∉ b.database.seededMembers ∧
      req = b.seedRestoreRequest hashRequest b.database.bootstrapAttempts s.source m
      (b.database.artifact s) ∧
      (b.database.seededMembers ≠ [] → LaterSeed hashRequest past b seen s) := by
  have attempts : ∀ {x}, Reaches b seen x → x.database.bootstrapAttempts =
      b.database.bootstrapAttempts :=
    fun reaches => Reaches.attempts reaches false
  cases start with
  | create | backup => cases restores
  | recovery at_ new =>
    cases at_ with
    | recovery recovers => exact .inl ⟨_, _, _, _, recovers, rfl, rfl⟩
  | @restore s at_ next new recorded observed prepared =>
    obtain ⟨named, stored, same⟩ := recorded.read reaches
    obtain ⟨other, unseeded⟩ := nextPeer_other next
    refine .inr ⟨s, rfl, other, fun held => unseeded (reaches.progress.seeded.subset held), ?_,
      fun later => ?_⟩
    · rw [attempts reaches, named]
    · have same := same later
      constructor
      · cases stored with
        | first none => exact absurd none later
        | stored _ is copy => exact ⟨_, is, copy⟩
      · obtain ⟨answers, t, told, time, ok⟩ := observed (same ▸ later)
        rw [same] at told ok
        exact ⟨answers, t, told, time, onlyMaster_of_seedSource ok⟩
      · cases prepared with
        | @backedUp x₀ s₀ op reached at_ read done copy seeded =>
          have brought := Read.brought heard read ((reached.ledger heard ledger).traced at_)
          refine .inl ⟨op, s₀.backupOperationID, ?_⟩
          have key : (BootStep.backup s₀).key b x₀.database =
              b.seedBackupKey b.database.bootstrapAttempts (b.database.artifact s) := by
            unfold BootStep.key DatabaseStatus.artifact seedArtifact
            dsimp only
            rw [attempts reached, seeded, same, copy.1, copy.2.1, copy.2.2]
          rw [← key, ← copy.2.1]
          exact ⟨read, done, brought⟩
        | held found => exact .inr (.inl ⟨_, named ▸ attempts reaches ▸ found⟩)
        | reused earlier found state left request same =>
          exact .inr (.inr ⟨_, _, attempts reaches ▸ earlier, named ▸ found, state, left,
            named ▸ request, named ▸ same⟩)

/-- A seed restore is sent to a member that does not hold the database, and to a
    later peer only for the recorded copy, whose source every holder confirmed
    and whose backup is there. A member is recorded as seeded when a restore of
    its seed backup was read Completed on it. -/
theorem seeding_is_sound (hashRequest : StartBody → String) (c : CubridCluster)
    (events : List (OperatorEvent ClusterQuery ClusterQuery.Ans ClusterEdit)) :
    (∀ i m req past, (some i, .sent m req) :: past <:+ clusterLog hashRequest c events →
      req.kind = .restore →
      ∃ b seen, LoggedBy i seen past ∧ (some i, .read b) ∈ past ∧ b ∈ storedIn c.created past ∧
        ((∃ uri bucket pathPrefix attempts, b.spec.recovery = some uri ∧ m = b.firstMember ∧
          req = b.recoveryRequest hashRequest uri bucket pathPrefix attempts) ∨
        ∃ s, s.member = m ∧ m ≠ b.firstMember ∧ m ∉ b.database.seededMembers ∧
          req = b.seedRestoreRequest hashRequest b.database.bootstrapAttempts s.source m
          (b.database.artifact s) ∧
          (b.database.seededMembers ≠ [] → LaterSeed hashRequest past b seen s))) ∧
    ∀ i before after past, (some i, .wrote before after) :: past <:+ clusterLog
      hashRequest c events →
      ∀ m ∈ after.database.seededMembers, m ∉ before.database.seededMembers →
        ∃ seen s op, LoggedBy i seen past ∧ SeededBy before seen m s op ∧
          ∃ req, (m, op.id, req) ∈ (clusterRun hashRequest c events).world.members.made ∧
            IsOf op req ∧
            (restoredSeed op before.uid (before.database.artifact s) before.firstDatabase = true ∨
              req.body = .restore
              (before.seedRestoreBody s.source (before.database.artifact s))) := by
  have justified := clusterLog_justified hashRequest c events
  constructor
  · intro i m req past sent restores
    obtain ⟨b, seen, recalls, read, live, unbroken, x, reaches, start⟩ := sent_rests justified sent
    have justified := justified.suffix ((suffix_cons _ _).trans sent)
    obtain ⟨earlier, inside, stored, -⟩ := justified.of_mem read
    have stored := storedIn_mono ((suffix_cons _ _).trans inside) stored
    refine ⟨b, seen, recalls.logged, read, stored, ?_⟩
    exact start.seed reaches (heard_of_logged justified recalls.logged)
      (stored_ledgers justified past (suffix_refl _) b stored) restores
  · intro i before after past wrote m held unheld
    obtain ⟨-, object, seen, rfl, recalls, -, move⟩ := wrote_over_latest justified wrote
    have held : m ∈ object.boot.database.seededMembers := by
      change m ∈ object.persisted.boot.database.seededMembers at held
      rwa [persisted_boot] at held
    rcases move.moved.seeded m held with was | ⟨s, op, seeded⟩
    · exact absurd was unheld
    · refine ⟨seen, s, op, recalls.logged, seeded, ?_⟩
      obtain ⟨parts, plays⟩ :=
        OperatorModel.plays_run (@cluster_keeps hashRequest) (createdCluster_sound c) events
      have told : ∀ e ∈ seen, e.TrueOf (clusterRun hashRequest c events).world.members :=
        fun e inside =>
        plays.holds.told _ _ (wrote.subset (mem_cons_of_mem _ (recalls.logged e inside)))
      have member := seeded.member
      cases seeded.restored with
      | polled here kind same =>
        obtain ⟨is, req, made, of⟩ := told _ here
        exact ⟨req, member ▸ is ▸ made, of, .inl same⟩
      | found here same =>
        obtain ⟨-, -, req, made, of⟩ := told _ here
        exact ⟨req, member ▸ made, of, .inl same⟩
      | answered here kind body =>
        obtain ⟨made, of⟩ := told _ here
        exact ⟨_, member ▸ made, of, .inr body⟩

end Seeding
end Controller
