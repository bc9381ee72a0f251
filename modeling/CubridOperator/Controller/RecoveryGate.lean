import CubridOperator.Controller.BootstrapLedger

/-!
A bootstrap that has ended is left as it is, and a recovered cluster is not
called ready early.
-/
namespace Controller
open Foundation InstanceManager Boot Function List

variable {hashRequest : StartBody → String} {c : CubridCluster} {log past : ClusterLog} {i : Nat}

theorem Boot.persisted_persisted (x : Boot) : x.persisted.persisted = x.persisted := by
  simp [Boot.persisted, DatabaseStatus.persisted, DatabaseSeeding.persisted,
    BootstrapStatus.persisted, comp_def, wholeSeconds_wholeSeconds]
  exact ⟨rfl, rfl⟩

section

variable (justified : ClusterJustified hashRequest c log)
include justified

theorem stored_persisted : ∀ s ∈ storedIn c.created log, s.boot.persisted = s.boot := by
  refine stored_induction (fun _ s => s.boot.persisted = s.boot) justified
    (fun _ _ _ => id) rfl ?_ ?_ log (suffix_refl _)
  · intro i object seen past _ _ _ _ _
    rw [persisted_boot, Boot.persisted_persisted]
  · rintro past after ⟨edit, rfl⟩ same
    exact same

theorem ended_kept :
    ∀ s ∈ storedIn c.created log, ¬ s.boot.Live → (latest c.created log).boot = s.boot := by
  refine latest_keeps (fun s now => ¬ s.boot.Live → now.boot = s.boot) justified
    (fun _ _ => rfl) ?_ ?_
  · intro s object seen past move justified older before ended
    have same := before ended
    have still : object.boot = (latest c.created past).boot := by
      cases move.moved with
      | same is => exact is
      | moved live => exact absurd (same ▸ live) ended
    rw [persisted_boot, still, same, stored_persisted justified s older]
  · rintro s _ _ ⟨edit, rfl⟩ before ended
    exact before ended

theorem sent_rests {m : String} {req : Request StartBody}
    (sent : (some i, .sent m req) :: past <:+ log) :
    ∃ b seen, Recalls i seen past ∧ (some i, .read b) ∈ past ∧
      Boot.Send b seen hashRequest m req := by
  obtain ⟨b, seen, recalls, goes, send⟩ := (justified.suffix sent).1
  refine ⟨b, seen, recalls, ?_, send⟩
  rcases goes with read | ⟨before, wrote⟩
  · exact recalls.logged _ read
  · cases send.unbroken _ wrote

theorem sent_live {m : String} {req : Request StartBody}
    (sent : (some i, .sent m req) :: past <:+ log) {s : CubridCluster}
    (read : (some i, .read s) ∈ log) : s.boot.Live := by
  obtain ⟨b, seen, -, went, send⟩ := sent_rests justified sent
  rw [read_unique justified read (sent.subset (mem_cons_of_mem _ went))]
  exact send.live

end

section Finished

structure Boot.Finished (log : ClusterLog) (k : ClusterDefinition) (x : Boot) : Prop where
  complete : x.Complete → k.spec.highAvailability = false ∧ TargetRestored log k x ∨
    x.database.haConfigured = true
  configured : x.database.haConfigured = true → x.database.primaryCreated = true ∧
    k.nextPeer x.database = none

variable {b : CubridCluster} {seen : List ClusterEntry} {x y : Boot}

theorem Boot.GivenUp.ended (given : x.GivenUp) : ¬ x.Live ∧ ¬ x.Complete := by
  refine ⟨fun live => live.going.2 given, ?_⟩
  obtain ⟨r, is, failed⟩ := given
  rintro ⟨r', is', done⟩
  cases is.symm.trans is'
  cases failed.symm.trans done

theorem Boot.TargetRestored.follow {k : ClusterDefinition} (restored : TargetRestored log k x) :
    TargetRestored log k x.follow := by
  obtain ⟨r, id, j, op, is, recorded, rest⟩ := restored
  refine ⟨_, id, j, op, congrArg (Option.map _) is, ?_, rest⟩
  split_ifs <;> exact recorded

theorem Boot.Moved.finished (moved : Moved b seen y) (heard : Heard i seen log)
    (sound : b.boot.Sound b) (finished : Boot.Finished log b b.boot) : Boot.Finished log b y := by
  cases moved with
  | same is => exact is ▸ finished
  | @moved x z live reaches halt is =>
    subst is
    have unconfigured : z.database.haConfigured = false → z.follow.database.haConfigured ≠ true :=
      fun is => by rw [show z.follow.database = z.database from rfl, is]; simp
    have open_ : z.database.haConfigured = false → ¬ z.Complete → Boot.Finished log b z.follow := by
      refine fun not open_ =>
        ⟨fun complete => absurd complete ?_, fun is => absurd is (unconfigured not)⟩
      rintro ⟨r, is, done⟩
      obtain ⟨r₀, was, rfl⟩ := Option.map_eq_some_iff.mp is
      simp only [not, Bool.false_eq_true, if_false] at done
      split_ifs at done
      exact open_ ⟨r₀, was, done⟩
    cases halt.ends (reaches.live_coherent live sound).1 with
    | live live => exact open_ live.unconfigured live.incomplete
    | failed not incomplete => exact open_ not incomplete
    | configured is there all => exact ⟨fun _ => .inr is, fun _ => ⟨there, all⟩⟩
    | recovered not standalone restored =>
      obtain ⟨r, id, op, is, recorded, told, done⟩ := restored
      have restored : TargetRestored log b z :=
        ⟨r, id, _, op, is, recorded, heard.logged _ told, done⟩
      exact ⟨fun _ => .inl ⟨standalone, restored.follow⟩, fun is => absurd is (unconfigured not)⟩

theorem Boot.Complete.of_persisted (complete : x.persisted.Complete) : x.Complete := by
  obtain ⟨r, is, done⟩ := complete
  obtain ⟨r₀, was, rfl⟩ := Option.map_eq_some_iff.mp is
  exact ⟨r₀, was, done⟩

theorem stored_finished (justified : ClusterJustified hashRequest c log) :
    ∀ past, past <:+ log → ∀ s ∈ storedIn c.created past, Boot.Finished past s s.boot := by
  refine stored_induction (fun log s => Boot.Finished log s s.boot) justified ?_ ?_ ?_ ?_
  · intro e past s finished
    refine ⟨fun complete => (finished.complete complete).imp_left fun ⟨alone, restored⟩ => ?_,
      finished.configured⟩
    exact ⟨alone, restored.mono (suffix_cons _ _)⟩
  · exact ⟨fun ⟨r, is, _⟩ => (nomatch is), nofun⟩
  · intro i object seen past recalls goes move justified before
    have stored := @latest_mem _ _ _ _ c.created past
    have finished := move.moved.finished (heard_of_logged justified recalls.logged)
      (stored_sound justified _ stored) (before past (suffix_refl _) _ stored)
    rw [← move.definition] at finished
    rw [persisted_boot]
    refine ⟨fun complete => (finished.complete complete.of_persisted).imp_left
      fun ⟨alone, restored⟩ => ?_, finished.configured⟩
    exact ⟨alone, (restored.mono (suffix_cons _ _)).persisted⟩
  · rintro past after ⟨edit, rfl⟩ finished
    exact { finished with }

theorem stored_gated (justified : ClusterJustified hashRequest c log) :
    ∀ s ∈ storedIn c.created log, s.spec.recovery.isSome = true →
      s.status.isTrue .ready = true ∨ s.status.isTrue .bootstrapReady = true → s.boot.Complete := by
  refine stored_induction (fun _ s => s.spec.recovery.isSome = true →
    s.status.isTrue .ready = true ∨ s.status.isTrue .bootstrapReady = true →
    s.boot.Complete) justified (fun _ _ _ => id) ?_ ?_ ?_ log (suffix_refl _)
  · rintro - (ready | ready) <;> cases ready
  · intro i object seen past recalls goes move _ before recovers ready
    have recovers : (latest c.created past).spec.recovery.isSome = true :=
      (congrArg (·.spec.recovery.isSome) move.definition).symm.trans recovers
    have gated := move.gated recovers
    have complete : object.boot.Complete := by
      rcases ready with ready | ready
      · exact gated.ready ((ClusterStatus.persisted_isTrue object.status .ready).symm.trans ready)
      · rcases gated.bootstrapReady
          ((ClusterStatus.persisted_isTrue object.status .bootstrapReady).symm.trans ready) with
          said | complete
        · have complete := before past (suffix_refl _) _ latest_mem recovers (.inr said)
          cases move.moved with
          | same is => exact is ▸ complete
          | moved live =>
            obtain ⟨r, is, done⟩ := complete
            exact absurd done (live.recovery r is).2
        · exact complete
    obtain ⟨r, is, done⟩ := complete
    rw [persisted_boot]
    exact ⟨r.persisted, Option.map_eq_some_iff.mpr ⟨r, is, rfl⟩, done⟩
  · rintro past after ⟨edit, rfl⟩ gated
    exact gated

end Finished

abbrev clusterLog (hashRequest : StartBody → String) (c : CubridCluster)
    (events : List (OperatorEvent ClusterQuery ClusterQuery.Ans ClusterEdit)) : ClusterLog :=
  (clusterRun hashRequest c events).world.log

theorem clusterLog_justified (hashRequest : StartBody → String) (c : CubridCluster)
    (events : List (OperatorEvent ClusterQuery ClusterQuery.Ans ClusterEdit)) :
    ClusterJustified hashRequest c (clusterLog hashRequest c events) :=
  OperatorModel.log_justified cluster_keeps (createdCluster_sound c) events

/-- Every reconcile that does anything in `newer` read the cluster after `past`,
    and read what was stored then, not an older version that a cache still held. -/
def ReadsAfter (c : CubridCluster) (newer past : ClusterLog) : Prop :=
  ∀ i e, (some i, e) ∈ newer → ∀ b p, (some i, .read b) :: p <:+ newer ++ past →
    past <:+ p ∧ b = latest c.created p

/-- A recovered cluster is called ready only when restores on its target and on
    every other member were read Completed. Once the recovery is stored as
    Failed it is never called ready, no reconcile that read so starts anything,
    and none at all where no reconcile goes by an older status. -/
theorem recovered_cluster_is_never_ready_early (hashRequest : StartBody → String)
    (c : CubridCluster) (events : List (OperatorEvent ClusterQuery ClusterQuery.Ans ClusterEdit)) :
    (∀ past, past <:+ clusterLog hashRequest c events → ∀ s ∈ storedIn c.created past,
      s.spec.recovery.isSome = true →
      s.status.isTrue .ready = true ∨ s.status.isTrue .bootstrapReady = true →
      TargetRestored past s s.boot ∧
      (s.spec.highAvailability = true → ∀ m ∈ memberNames s.name s.spec.promotableMembers,
        m ≠ s.firstMember →
        m ∈ s.database.seededMembers ∧ ∃ op, RestoreRead past m op ∧ op.state = .completed)) ∧
    ∀ newer past, clusterLog hashRequest c events = newer ++ past → ∀ s ∈ storedIn c.created past,
      s.boot.GivenUp → (∀ e ∈ newer, ∀ s', e.2.stores = some s' → s'.spec.recovery.isSome = true →
        s'.status.isTrue .ready = false ∧ s'.status.isTrue .bootstrapReady = false) ∧
      (∀ i m req, (some i, .sent m req) ∈ newer →
        ∀ b, (some i, .read b) ∈ clusterLog hashRequest c events → ¬ b.boot.GivenUp) ∧
      (ReadsAfter c newer past → ∀ i m req, (some i, .sent m req) ∉ newer) := by
  have justified := clusterLog_justified hashRequest c events
  constructor
  · intro past inside s stored recovers ready
    have justified := justified.suffix inside
    have finished := stored_finished justified past (suffix_refl _) s stored
    have ledger := stored_ledgers justified past (suffix_refl _) s stored
    rcases finished.complete (stored_gated justified s stored recovers ready) with
      ⟨alone, restored⟩ | configured
    · exact ⟨restored, fun available => nomatch alone.symm.trans available⟩
    · obtain ⟨there, all⟩ := finished.configured configured
      refine ⟨(ledger.target recovers there).2, fun _ m member other => ?_⟩
      have seeded : m ∈ s.database.seededMembers := by
        simpa [other, CubridCluster.boot] using find?_eq_none.mp all m member
      exact ⟨seeded, ledger.seeded m seeded⟩
  · intro newer past split s stored given
    have later : ∀ e ∈ newer, ∃ p, e :: p <:+ clusterLog hashRequest c events ∧
        s ∈ storedIn c.created p := by
      intro e member
      obtain ⟨front, back, rfl⟩ := append_of_mem member
      exact ⟨back ++ past, ⟨front, by simp [split]⟩, storedIn_mono (suffix_append _ _) stored⟩
    refine ⟨fun e member s' is recovers => ?_, fun i m req sent b read given => ?_,
      fun after i m req sent => ?_⟩
    · obtain ⟨p, inside, before⟩ := later e member
      have justified := justified.suffix inside
      have kept := ended_kept justified s (storedIn_mono (suffix_cons _ _) before) given.ended.1
      rw [latest_cons_of_some is] at kept
      have here : s' ∈ storedIn c.created (e :: p) := by
        rw [storedIn_cons_of_some is]
        exact mem_cons_self
      have unsaid := mt (stored_gated justified s' here recovers) (kept ▸ given.ended.2)
      simpa using unsaid
    · obtain ⟨p, inside, -⟩ := later _ sent
      exact given.ended.1 (sent_live justified inside read)
    · obtain ⟨p, inside, -⟩ := later _ sent
      obtain ⟨b, seen, recalls, went, send⟩ := sent_rests justified inside
      obtain ⟨p₀, here, -⟩ := (justified.suffix ((suffix_cons _ _).trans inside)).of_mem went
      have read := here.trans ((suffix_cons _ _).trans inside)
      obtain ⟨since, rfl⟩ := after i _ sent b p₀ (split ▸ read)
      have live := send.live
      rw [ended_kept (justified.suffix ((suffix_cons _ _).trans read)) s
        (storedIn_mono since stored) given.ended.1] at live
      exact given.ended.1 live

def refusedRestore : StartFate :=
  .answered (.reject ⟨.requestRefused, "the backup is of another engine version"⟩)

def calmReplies : (q : ClusterQuery) → q.Ans
  | .children => .done
  | .probe _ => ⟨fun _ => .failed, fun _ => 0⟩
  | .surroundings =>
    ⟨readyInputs 0, ⟨fun _ => .failed, fun _ => 0⟩, fun _ => none, none, .done ⟨1, 1⟩, []⟩

/-- The reconcile `i` reads version `n`, sends a start if it has to, and writes. -/
def restoreReconcile (i n : Nat) (sends : List StartFate) :
    List (OperatorEvent ClusterQuery ClusterQuery.Ans ClusterEdit) :=
  [.reconcile, .act i (.version n), .act i (.time 0), .act i (.replies calmReplies)] ++
    sends.map (fun fate => .act i (.start fate)) ++
    [.act i (.replies calmReplies), .act i (.fate .answered)]

def restoredCluster : CubridCluster :=
  { name := "c", uid := "0c8f2d7a-5b3e-4f60-8a1d-7e9b6c5d4f3e"
    spec :=
      { version := "11.4.5", databases := ["db"], promotableMembers := 1, highAvailability := false
        recovery := some "s3://backups/db/manifest.json" } }

def refusedThrice : List (OperatorEvent ClusterQuery ClusterQuery.Ans ClusterEdit) :=
  restoreReconcile 0 1 [refusedRestore] ++ restoreReconcile 1 2 [refusedRestore] ++
  restoreReconcile 2 3 [refusedRestore]

def recoveryLog (events : List (OperatorEvent ClusterQuery ClusterQuery.Ans ClusterEdit)) :
    ClusterLog :=
  clusterLog (fun _ => "") restoredCluster events

/-- The third refusal is stored as the recovery's failure. The next reconcile
    reads the version before it, and its restore is accepted. -/
def staleRun : List (OperatorEvent ClusterQuery ClusterQuery.Ans ClusterEdit) :=
  refusedThrice ++ restoreReconcile 3 3 [.answered (.accept 7)]

def givenUp (s : CubridCluster) : Bool := s.boot.recovery.any (·.phase = .failed)

theorem givenUp_iff {s : CubridCluster} : givenUp s = true ↔ s.boot.GivenUp := by
  simp [givenUp, Boot.GivenUp, Option.any_eq_true]

def startsRestore : Option Nat × ClusterEntry → Bool
  | (some _, .sent _ req) => req.kind = .restore
  | _ => false

theorem stale_read_starts_restore :
    (∃ newer past, recoveryLog staleRun = newer ++ past ∧
      (∃ s ∈ storedIn restoredCluster.created past, s.boot.GivenUp) ∧
      ∃ i m req, (some i, .sent m req) ∈ newer ∧ req.kind = .restore) ∧
    (clusterRun (fun _ => "") restoredCluster staleRun).world.members.made.map
      (fun e => (e.1, e.2.1)) = [("c-0", 7)] := by
  have failed : (storedIn restoredCluster.created ((recoveryLog staleRun).drop 8)).any
      givenUp = true := by
    decide +kernel
  have started : ((recoveryLog staleRun).take 8).any startsRestore = true := by decide +kernel
  refine ⟨⟨_, _, (take_append_drop 8 _).symm, ?_, ?_⟩, by decide +kernel⟩
  · obtain ⟨s, stored, given⟩ := any_eq_true.mp failed
    exact ⟨s, stored, givenUp_iff.mp given⟩
  · obtain ⟨⟨who, e⟩, member, is⟩ := any_eq_true.mp started
    cases who with
    | none => cases is
    | some i =>
      cases e with
      | sent m req => exact ⟨i, m, req, member, of_decide_eq_true is⟩
      | _ => cases is

/-- The next reconcile reads the failure. -/
def currentRun : List (OperatorEvent ClusterQuery ClusterQuery.Ans ClusterEdit) :=
  refusedThrice ++ restoreReconcile 3 4 []

def readsLatest : ClusterLog → Bool
  | (some 3, .read b) :: p => b = latest restoredCluster.created p
  | _ => false

theorem currentRun_reads :
    ReadsAfter restoredCluster ((recoveryLog currentRun).take 6)
      ((recoveryLog currentRun).drop 6) := by
  have own : ((recoveryLog currentRun).take 6).all (fun e => e.1 = some 3) = true := by
    decide +kernel
  have current : readsLatest ((recoveryLog currentRun).drop 4) = true := by decide +kernel
  have rest : (recoveryLog currentRun).drop 6 = ((recoveryLog currentRun).drop 4).drop 2 := by
    rw [drop_drop]
  intro i e member b p read
  rw [take_append_drop] at read
  obtain rfl : i = 3 := by simpa using all_eq_true.mp own _ member
  have inside := drop_suffix 4 (recoveryLog currentRun)
  rw [rest]
  unfold readsLatest at current
  split at current
  · rename_i b₀ p₀ is
    rw [is] at inside ⊢
    obtain ⟨rfl, rfl⟩ := read_once (clusterLog_justified _ _ _) read inside
    exact ⟨drop_suffix 1 _, of_decide_eq_true current⟩
  · cases current

theorem failed_recovery_starts_nothing :
    (∃ s ∈ storedIn restoredCluster.created ((recoveryLog currentRun).drop 6), s.boot.GivenUp) ∧
    ∀ i m req, (some i, .sent m req) ∉ (recoveryLog currentRun).take 6 := by
  have failed : (storedIn restoredCluster.created ((recoveryLog currentRun).drop 6)).any
      givenUp = true := by
    decide +kernel
  obtain ⟨s, stored, given⟩ := any_eq_true.mp failed
  refine ⟨⟨s, stored, givenUp_iff.mp given⟩, ?_⟩
  exact ((recovered_cluster_is_never_ready_early (fun _ => "") restoredCluster currentRun).2 _ _
    (take_append_drop 6 _).symm s stored (givenUp_iff.mp given)).2.2 currentRun_reads

end Controller
