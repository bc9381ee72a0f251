import CubridOperator.InstanceManager.EffectKinds
import CubridOperator.InstanceManager.OwnershipSpecs

/-!
The runners of restores and HA bootstraps make only the moves of their attempt.
-/
namespace InstanceManager
open Foundation Program Relation Option

theorem Rewrite.restored {op now : Operation} (rewrite : Rewrite op now)
    (restored : op.restored.isSome = true) : now.restored.isSome = true := by
  cases rewrite with
  | interrupt => exact restored
  | ended e => rcases e with _ | _ | _ <;> exact restored
  | mutated m => cases m <;> first | exact restored | rfl

theorem Moves.restored {c : StoreCall} {w w' : StoreWorld} {id : OperationID}
    (moves : Moves c w.issued w w') (old : id ∈ w.issued) (recorded : w.Durably id RestoredOp) :
    w'.Durably id RestoredOp :=
  moves.durably old (fun _ _ rewrite restored => rewrite.restored restored) recorded

abbrev Attempt.Keeps (a : Attempt) (start : Volume) {α : Type} (p : ManagerM α) (v : Volume) :
    Prop :=
  a.Ensures start p (fun _ v' => VolumeMoves a start v') v

theorem Uses.unmoved {α : Type} {p : ManagerM α} {crash : Volume → Prop} {v : Volume}
    (uses : Uses [.learn, .stop, .staging] p) (here : crash v) :
    p.Ensures volumeHandler crash (fun _ v' => v' = v) v := by
  refine Only.ensures uses (fun e c among => ?_) here
  have same : (v.effect e c).1 = v := by
    cases e with
    | life e => cases e <;> rfl
    | _ => first | rfl | simp [ManagerEffect.kind] at among
  unfold volumeHandler
  split <;> exact same

theorem honorRecordedStop_uses : Uses [.learn, .stop, .staging] honorRecordedStop := by
  refine Only.bind (manage_uses rfl) fun answer => ?_
  split
  · exact only_pure _
  · exact Only.bind (manage_uses rfl) fun _ => Only.bind (manage_uses rfl) fun _ => only_pure _

section Starts

variable {a : Attempt} {start v : Volume} {database : String} {id : OperationID}

theorem enter_spec {state : RunningState} {post : Except String Unit → Volume → Prop}
    (own : a.owner = some id) (sound : start.store.Sound) (reach : VolumeMoves a start v)
    (next : ∀ answer w, Moves (.update id (.enter state)) v.store.issued v.store w →
      VolumeMoves a start (v.setStore w) → post answer (v.setStore w)) :
    a.Ensures start (enter id state) post v := by
  unfold enter
  refine ensures_bind.mpr (manage_update own (reach.sound sound) reach ?_ ?_)
  · intro reply w other moves reach'
    cases reply with
    | updated op => exact absurd rfl (other op)
    | _ => exact next _ w moves reach'
  · exact fun old w moves reach' _ => next _ w moves reach'

theorem fail_spec {reason : String} (own : a.owner = some id) (sound : start.store.Sound)
    (reach : VolumeMoves a start v) : a.Keeps start (fail id reason) v := by
  have ends : ∀ text, a.Keeps start (do let _ ← manage (.store (.settle id (.failed text)))) v := by
    intro text
    have may : ∀ w, Moves (.settle id (.failed text)) v.store.issued v.store w →
        VolumeMoves a start (v.setStore w) :=
      fun w moves => reach.tail (.store v _ w (.failed id text own) moves)
    refine ensures_bind.mpr (manage_store (reach.sound sound) reach may ?_)
    exact fun w reply moves _ => may w moves
  unfold fail stoppingReason
  refine ensures_bind.mpr (ensures_bind.mpr (manage_ask reach (fun _ => rfl) fun ended => ?_))
  split <;> exact ends _

/-- A property of the volume under which the database may be started, also
    after an earlier start. -/
structure Attempt.Startable (a : Attempt) (database : String) (Ready : Volume → Prop) : Prop where
  may : ∀ v n, Ready v → v.home database = some n → a.MayStart v (database, n)
  start : ∀ v n, Ready v → v.home database = some n → Ready (v.start (database, n))

abbrev Attempt.StaysReady (a : Attempt) (start : Volume) (Ready : Volume → Prop) {α : Type}
    (p : ManagerM α) (v : Volume) : Prop :=
  a.Ensures start p (fun _ v' => VolumeMoves a start v' ∧ Ready v') v

variable {Ready : Volume → Prop} {before : ManagerM (Except String Unit)}

theorem activate_ready {cmd : StartCommand} (able : a.Startable cmd.database Ready)
    (reach : VolumeMoves a start v) (ready : Ready v) :
    a.StaysReady start Ready (activate cmd) v := by
  refine (honorRecordedStop_uses.unmoved reach).bind fun recorded v₁ same => ?_
  subst same
  cases recorded with
  | true => exact ⟨reach, ready⟩
  | false =>
    refine ensures_bind.mpr (manage_ask reach (fun _ => rfl) fun stopping => ?_)
    cases stopping with
    | true => exact ⟨reach, ready⟩
    | false =>
      refine manage_start reach (fun _ => ⟨reach, ready⟩) fun n here => ?_
      have there := reach.tail (.start v₁ cmd.database n here (able.may v₁ n ready here))
      exact ⟨there, fun _ => ⟨there, able.start v₁ n ready here⟩⟩

theorem joinHeartbeat_ready (able : a.Startable database Ready)
    (keeps : ∀ v, VolumeMoves a start v → Ready v → a.StaysReady start Ready before v)
    (reach : VolumeMoves a start v) (ready : Ready v) :
    a.StaysReady start Ready (joinHeartbeat database before) v := by
  unfold joinHeartbeat
  refine ensures_bind.mpr (manage_ask reach (fun _ => rfl) fun hb => ?_)
  split
  · exact ⟨reach, ready⟩
  · split
    · refine (keeps v reach ready).bind fun answer v' kept => ?_
      cases answer with
      | error e => exact kept
      | ok _ =>
        have able' : a.Startable (StartCommand.heartbeatStart database).database Ready := able
        refine (activate_ready able' kept.1 kept.2).bind fun answer v'' kept => ?_
        cases answer <;> exact kept
    · exact ⟨reach, ready⟩

theorem startRestoredDatabase_ready {cfg : Config} (able : a.Startable database Ready)
    (keeps : ∀ v, VolumeMoves a start v → Ready v → a.StaysReady start Ready before v)
    (reach : VolumeMoves a start v) (ready : Ready v) :
    a.StaysReady start Ready (startRestoredDatabase cfg database before) v := by
  unfold startRestoredDatabase
  split
  · exact ⟨reach, ready⟩
  · split
    · refine (keeps v reach ready).bind fun answer v' kept => ?_
      cases answer with
      | error e => exact kept
      | ok _ =>
        have able' : a.Startable (StartCommand.serverStart database).database Ready := able
        refine (activate_ready able' kept.1 kept.2).bind fun answer v'' kept => ?_
        cases answer <;> exact kept
    · exact joinHeartbeat_ready able keeps reach ready

end Starts

section Restore

variable {a : Attempt} {start v : Volume} {database : String} {id : OperationID} {n : Nat}

theorem Owns.syncMarker {d e : DirID} (owns : Owns v d id) : Owns (v.syncMarker e) d id :=
  ⟨owns.home, owns.marked.syncMarker, fun other differs => (owns.only other differs).syncMarker⟩

theorem Owns.frame {v' : Volume} {d : DirID} (owns : Owns v d id) (frame : Frame v v') :
    Owns v' d id := by
  refine ⟨by rw [frame.home]; exact owns.home, ?_, fun other differs => ?_⟩
  · unfold Volume.Marks
    rw [frame.dirs]
    exact owns.marked
  · unfold Volume.Marks
    rw [frame.dirs]
    exact owns.only other differs

theorem Frame.kept {v v' : Volume} (frame : Frame v v') : Kept v v' :=
  ⟨frame.home, frame.store, frame.next, fun d => by rw [frame.dirs]⟩

theorem removeOwn_spec (reach : VolumeMoves a start v) (fresh : a.Fresh v database) :
    a.Keeps start (manage (.removeAll (.home database))) v := by
  refine manage_removeAll reach (fun _ => reach) fun n progress here => ?_
  have there := reach.tail (.removeOwn v database n progress here (fresh n here).1 (fresh n here).2)
  exact ⟨there, fun _ => there⟩

theorem discard_spec {α : Type} {e : String} {post : Except String α → Volume → Prop}
    (reach : VolumeMoves a start v) (fresh : a.Fresh v database)
    (failed : ∀ e v', VolumeMoves a start v' → post (.error e) v') :
    a.Ensures start (do let _ ← manage (.removeAll (.home database)); pure (.error e)) post v :=
  (removeOwn_spec reach fresh).bind fun _ v' => failed e v'

theorem undoLocked_spec {existed : Bool} (reach : VolumeMoves a start v)
    (fresh : a.Fresh v database) : a.Keeps start (undoLocked database existed) v := by
  refine (removeOwn_spec reach fresh).bind fun _ v' reach' => ?_
  exact ensures_bind.mpr (unregisterDatabaseLocked_spec reach' fun _ v'' reach'' _ => reach'')

theorem undo_spec {existed : Bool} (reach : VolumeMoves a start v) (fresh : a.Fresh v database) :
    a.Keeps start (undo database existed) v :=
  ensures_bind.mpr (manage_openRoot reach (fun _ => reach) (undoLocked_spec reach fresh))

theorem make_fresh (first : a.first ≤ v.next) : a.Fresh (v.make database) database := by
  intro n here
  simp only [Volume.home, Volume.view_make, RootChange.apply, Function.update_self,
    some.injEq] at here
  subst here
  exact ⟨first, by simp⟩

theorem make_home : (v.make database).home database = some v.next := by
  simp [Volume.home, RootChange.apply]

theorem make_begun (begun : Begun v id) : Begun (v.make database) id := by
  refine ⟨begun.issued, begun.never, fun d => ?_⟩
  rw [Volume.marks_make]
  split
  · simp
  · exact begun.unnamed d

theorem make_mark (own : a.owner = some id) (first : a.first ≤ v.next) (begun : Begun v id) :
    VolumeMove a (v.make database)
      ((v.make database).setMarker (database, v.next) (some (.operation id))) := by
  refine .mark _ (database, v.next) id own make_home first ?_ (by simp) begun.issued begun.never
  rw [Volume.marks_make, if_pos rfl]

section Registration

variable {cfg : Config} {host : String} {post : Except String Bool → Volume → Prop}
  (own : a.owner = some id) (first : a.first ≤ v.next) (begun : Begun v id)
  (reach : VolumeMoves a start v) (failed : ∀ e v', VolumeMoves a start v' → post (.error e) v')
  (done : ∀ existed n v', VolumeMoves a start v' → Owns v' (database, n) id → a.Fresh v' database →
    id ∈ v'.store.issued → post (.ok existed) v')
include own first begun reach failed done

theorem registerRestoreTarget_spec :
    a.Ensures start (registerRestoreTarget cfg host database id) post v := by
  unfold registerRestoreTarget
  refine ensures_bind.mpr (manage_openRoot reach (fun _ => failed _ v reach) ?_)
  refine ensures_bind.mpr (manage_readTxt reach (fun _ => failed _ v reach) ?_)
  refine ensures_bind.mpr (manage_mkdir reach (fun _ => failed _ v reach) (failed _ v reach)
    fun free => ?_)
  have made := reach.tail (.make v database free)
  have begun' : Begun (v.make database) id := make_begun begun
  have fresh : a.Fresh (v.make database) database := make_fresh first
  refine ⟨made, ensures_bind.mpr (markOwned_spec made make_home (make_mark own first begun)
    begun'.unnamed ?_ ?_)⟩
  · exact fun e v₁ reach₁ kept => discard_spec reach₁ (fresh.kept kept) failed
  · intro v₁ reach₁ kept owns
    have fresh₁ := fresh.kept kept
    have issued₁ : id ∈ v₁.store.issued := kept.store ▸ begun'.issued
    refine ensures_bind.mpr (manage_rule reach₁ fun c => attempt_rule c reach₁ reach₁ ?_ ?_)
    · exact fun cause => discard_spec reach₁ fresh₁ failed
    · have synced := reach₁.tail (.syncMarker v₁ (database, v.next))
      have fresh₂ : a.Fresh (v₁.syncMarker (database, v.next)) database :=
        fresh₁.kept ((Kept.refl v₁).onDir fun _ => rfl)
      refine ensures_bind.mpr (manage_syncMarker reach₁ owns.home synced
        (fun _ => discard_spec reach₁ fresh₁ failed) ?_)
      refine ensures_bind.mpr (replaceTxt_spec synced fun answer v₂ reach₂ frame => ?_)
      cases answer with
      | error e =>
        exact (undoLocked_spec reach₂ (fresh₂.kept frame.kept)).bind fun _ => failed _
      | ok _ =>
        exact done _ _ v₂ reach₂ (owns.syncMarker.frame frame) (fresh₂.kept frame.kept)
          (by rw [frame.store]; exact issued₁)

theorem registerRestoreHost_spec :
    a.Ensures start (registerRestoreHost cfg host database id) post v := by
  unfold registerRestoreHost
  split
  · exact failed _ v reach
  · split
    · exact registerRestoreTarget_spec own first begun reach failed done
    · refine ensures_bind.mpr (manage_ask reach (fun _ => rfl) fun answer => ?_)
      rcases answer with e | hostname
      · exact failed _ v reach
      · exact registerRestoreTarget_spec own first begun reach failed done

end Registration

section Run

variable {cfg : Config} {roots : RestoreRoots} {req : RestoreRequest}
  {post : Except Stopped OperationArtifact → Volume → Prop} (own : a.owner = some id)
  (sound : start.store.Sound) (first : a.first ≤ v.next) (begun : Begun v id)
  (reach : VolumeMoves a start v) (failed : ∀ e v', VolumeMoves a start v' → post (.error e) v')
  (done : ∀ r n v', VolumeMoves a start v' → Owns v' (req.database, n) id → id ∈ v'.store.issued →
    post (.ok r) v')
include own sound first begun reach failed done

theorem restoreStaged_spec {dir : String} :
    a.Ensures start (restoreStaged cfg roots req dir id (enter id ⟨.restoring, rfl⟩)) post v := by
  unfold restoreStaged
  refine (((stageArtifact_uses _ _).mono (by simp)).unmoved reach).bind fun answer v₁ same => ?_
  subst same
  rcases answer with e | manifest
  · exact failed _ v₁ reach
  refine ensures_bind.mpr (enter_spec own sound reach fun answer w moves reach₁ => ?_)
  have begun₁ := begun.setStore moves (by simp)
  rcases answer with e | _
  · exact failed _ _ reach₁
  refine ensures_bind.mpr (registerRestoreHost_spec own first begun₁ reach₁ (fun _ => failed _) ?_)
  intro existed n v₂ reach₂ owns fresh issued
  refine ensures_bind.mpr (manage_ask reach₂ (fun _ => rfl) fun answer => ?_)
  rcases answer with e | _
  · exact (undo_spec reach₂ fresh).bind fun _ => failed _
  · exact done _ n v₂ reach₂ owns issued

theorem restore_spec :
    a.Ensures start (restore cfg roots req id (enter id ⟨.restoring, rfl⟩)) post v := by
  unfold restore
  split
  · exact failed _ v reach
  · rename_i dir _
    refine ensures_bind.mpr (manage_lookup reach (fun _ => ?_) (fun _ _ => failed _ v reach)
      fun _ => ?_)
    all_goals
      refine ensures_bind.mpr (registeredInDatabasesTxt_spec reach (fun _ => failed _ v reach) ?_)
      cases v.registered req.database with
      | true => exact failed _ v reach
      | false =>
        refine ensures_bind.mpr (manage_ask reach (fun _ => rfl) fun present => ?_)
        refine ensures_bind.mpr (restoreStaged_spec own sound first begun reach ?_ ?_)
        · intro e v' reach'
          cases present with
          | missing =>
            exact ensures_bind.mpr (manage_ask reach' (fun _ => rfl) fun _ => failed e v' reach')
          | _ => exact failed e v' reach'
        · intro r n v' reach' owns issued
          exact ensures_bind.mpr
            (manage_ask reach' (fun _ => rfl) fun _ => done r n v' reach' owns issued)

end Run

/-- What a restore knows of the directory it starts. -/
structure RestoredIn (database : String) (n : Nat) (id : OperationID) (v : Volume) : Prop where
  owns : Owns v (database, n) id
  recorded : v.store.Durably id RestoredOp
  issued : id ∈ v.store.issued

theorem RestoredIn.setStore {c : StoreCall} {w : StoreWorld} (restored : RestoredIn database n id v)
    (moves : Moves c v.store.issued v.store w) : RestoredIn database n id (v.setStore w) :=
  ⟨⟨restored.owns.home, restored.owns.marked, restored.owns.only⟩,
    moves.restored restored.issued restored.recorded, moves.issued restored.issued⟩

theorem RestoredIn.startable : a.Startable database (RestoredIn database n id) where
  may v m restored here := by
    obtain rfl : m = n := some.inj (here.symm.trans restored.owns.home)
    exact .restored id restored.owns.marked restored.recorded
  start v m restored here :=
    ⟨⟨restored.owns.home, Volume.marks_start.mpr restored.owns.marked,
      fun e differs => Volume.marks_start.mpr (restored.owns.only e differs)⟩,
      restored.recorded, restored.issued⟩

theorem RestoredIn.secured (restored : RestoredIn database n id v) {d : DirID}
    (named : v.Names d id) : v.Secured d := by
  obtain rfl : d = (database, n) := by
    by_contra differs
    exact named (restored.owns.only d differs)
  refine restored.owns.marked.mono ?_
  rintro m rfl other same
  cases same
  exact restored.recorded

theorem enter_keepsReady {state : RunningState} {Ready : Volume → Prop} (own : a.owner = some id)
    (sound : start.store.Sound)
    (keeps : ∀ v w, Ready v → Moves (.update id (.enter state)) v.store.issued v.store w →
      Ready (v.setStore w)) (v : Volume) (reach : VolumeMoves a start v) (ready : Ready v) :
    a.StaysReady start Ready (enter id state) v :=
  enter_spec own sound reach fun _ w moves reach' => ⟨reach', keeps v w ready moves⟩

section Runners

variable {cfg : Config} {roots : RestoreRoots} {req : RestoreRequest} (own : a.owner = some id)
  (sound : start.store.Sound)
include own sound

theorem completeRestore_spec {artifact : OperationArtifact} (reach : VolumeMoves a start v)
    (restored : RestoredIn database n id v) :
    a.Keeps start (completeRestore cfg id database artifact) v := by
  refine (startRestoredDatabase_ready RestoredIn.startable
    (enter_keepsReady own sound fun v w ready moves => ready.setStore moves) reach restored).bind ?_
  rintro answer v₁ ⟨reach₁, restored₁⟩
  rcases answer with (e | e) | _
  · exact fail_spec own sound reach₁
  · exact fail_spec own sound reach₁
  have may : ∀ w, Moves (.settle id (.completed (some artifact))) v₁.store.issued v₁.store w →
      VolumeMoves a start (v₁.setStore w) := fun w moves =>
    reach₁.tail (.store v₁ _ w (.completed id _ own fun d named => restored₁.secured named) moves)
  refine ensures_bind.mpr
    (manage_store (reach₁.sound sound) reach₁ may fun w reply moves holds => ?_)
  have reach₂ := may w moves
  cases reply with
  | done =>
    obtain ⟨op, durable⟩ := holds.2 id _ rfl
    have clear : ∀ m k, (v₁.setStore w).home database = some m →
        (v₁.setStore w).marker (database, m) = some k →
        VolumeMove a (v₁.setStore w) ((v₁.setStore w).setMarker (database, m) none) := by
      intro m k here _
      obtain rfl : m = n := some.inj (here.symm.trans restored₁.owns.home)
      exact .unmark _ _ (.inr ⟨id, _, restored₁.owns.marked.visible, durable.visible, rfl⟩)
    refine ensures_bind.mpr
      (clearOwned_spec reach₂ clear (fun _ _ there => there) (fun _ => reach₂) ?_)
    exact fun m v' reach' _ _ => reach'
  | _ => exact reach₂

theorem restoreAnew_spec (first : a.first ≤ v.next) (begun : Begun v id)
    (reach : VolumeMoves a start v) : a.Keeps start (restoreAnew cfg roots id req) v := by
  have reclaimed : a.quiet.Keeps v (reclaimIncomplete cfg req.database) v :=
    reclaimIncomplete_spec (reach.sound sound) .refl (fun _ _ moves => moves)
      fun _ moves _ _ => moves
  unfold restoreAnew
  refine (reclaimed.weaken fun v' moves => reach.trans moves.of_quiet).bind
    fun answer v₁ quiet => ?_
  have reach₁ := reach.trans quiet.of_quiet
  rcases answer with e | _
  · exact fail_spec own sound reach₁
  refine ensures_bind.mpr
    (restore_spec own sound (first.trans quiet.next) (begun.quiet quiet) reach₁ ?_ ?_)
  · rintro (e | e) v' reach'
    · exact fail_spec own sound reach'
    · exact fail_spec own sound reach'
  · intro r n v₂ reach₂ owns issued
    refine ensures_bind.mpr (manage_update own (reach₂.sound sound) reach₂ ?_ ?_)
    · intro reply w other _ reach₃
      cases reply with
      | updated op => exact absurd rfl (other op)
      | _ => exact fail_spec own sound reach₃
    · intro old w moves reach₃ durable
      refine completeRestore_spec own sound reach₃ ⟨⟨owns.home, owns.marked, owns.only⟩, ?_, ?_⟩
      · exact durable.mono fun r same => ⟨_, same, rfl⟩
      · exact moves.issued issued

theorem runRestoreOn_spec (first : a.first ≤ v.next) (begun : Begun v id)
    (reach : VolumeMoves a start v) : a.Keeps start (runRestoreOn cfg roots id req) v := by
  unfold runRestoreOn
  refine ensures_bind.mpr (enter_spec own sound reach fun answer w moves reach₁ => ?_)
  have begun₁ := begun.setStore moves (by simp)
  rcases answer with e | _
  · exact fail_spec own sound reach₁
  dsimp only
  split
  · exact fail_spec own sound reach₁
  refine ensures_bind.mpr (adoptRestored_spec own sound begun₁ reach₁ ?_ ?_ ?_)
  · exact fun e v' reach' => fail_spec own sound reach'
  · intro v₂ reach₂ same begun₂
    exact restoreAnew_spec own sound (same ▸ first) begun₂ reach₂
  · intro r n v₂ reach₂ owns recorded issued
    dsimp only
    split
    · exact fail_spec own sound reach₂
    · exact completeRestore_spec own sound reach₂ ⟨owns, recorded, issued⟩

theorem runRestore_spec (first : a.first ≤ v.next) (begun : Begun v id)
    (reach : VolumeMoves a start v) : a.Keeps start (runRestore cfg id req) v := by
  unfold runRestore
  refine ensures_bind.mpr (manage_ask reach (fun _ => rfl) fun engine => ?_)
  dsimp only
  split
  · exact runRestoreOn_spec own sound first begun reach
  · refine ensures_bind.mpr (manage_ask reach (fun _ => rfl) fun answer => ?_)
    rcases answer with e | hosts
    · exact fail_spec own sound reach
    · exact runRestoreOn_spec own sound first begun reach

end Runners
end Restore

section Bootstrap

variable {a : Attempt} {start v : Volume} {database : String} {id : OperationID}

/-- A bootstrap left no marker in the directory it starts, or found it
    registered and unmarked. -/
structure Bootstrapped (a : Attempt) (database : String) (id : OperationID) (v : Volume) :
    Prop where
  bare : ∀ n, v.home database = some n → v.Marks (database, n) (· = none) ∨
    a.bootstraps = some database ∧ n < a.first ∧ v.marker (database, n) = none
  unnamed : ∀ d, v.Marks d (· ≠ some (.operation id))

theorem marker_start (v : Volume) (d e : DirID) : (v.start d).marker e = v.marker e := by
  simp only [Volume.marker, Volume.start, Volume.dirs_onDir]
  split
  · rename_i same
    rw [same]
  · rfl

theorem Bootstrapped.startable : a.Startable database (Bootstrapped a database id) where
  may v n ready here := by
    rcases ready.bare n here with clean | ⟨asked, old, bare⟩
    · exact .unmarked clean
    · exact .found asked old bare
  start v n ready here := by
    refine ⟨fun m here' => ?_, fun d => Volume.marks_start.mpr (ready.unnamed d)⟩
    rcases ready.bare m here' with clean | ⟨asked, old, bare⟩
    · exact .inl (Volume.marks_start.mpr clean)
    · exact .inr ⟨asked, old, by rw [marker_start]; exact bare⟩

theorem createHADatabase_spec {cfg : Config} {post : Except String Unit → Volume → Prop}
    (own : a.owner = some id) (first : a.first ≤ v.next) (begun : Begun v id)
    (reach : VolumeMoves a start v) (failed : ∀ e v', VolumeMoves a start v' → post (.error e) v')
    (done : ∀ v', VolumeMoves a start v' → Bootstrapped a database id v' → post (.ok ()) v') :
    a.Ensures start (createHADatabase cfg database id) post v := by
  unfold createHADatabase
  refine ensures_bind.mpr (manage_ask reach (fun _ => rfl) fun answer => ?_)
  rcases answer with e | hosts
  · exact failed _ v reach
  refine ensures_bind.mpr
    (manage_rule reach fun c => attempt_rule c reach reach (fun _ => failed _ v reach) ?_)
  refine ensures_bind.mpr (manage_openRoot reach (fun _ => failed _ v reach) ?_)
  refine ensures_bind.mpr (manage_mkdir reach (fun _ => failed _ v reach) (failed _ v reach)
    fun free => ?_)
  have made := reach.tail (.make v database free)
  have begun' : Begun (v.make database) id := make_begun begun
  have fresh : a.Fresh (v.make database) database := make_fresh first
  refine ⟨made, ensures_bind.mpr (markOwned_spec made make_home (make_mark own first begun)
    begun'.unnamed ?_ ?_)⟩
  · exact fun e v₁ reach₁ kept => discard_spec reach₁ (fresh.kept kept) failed
  intro v₁ reach₁ kept owns
  have fresh₁ := fresh.kept kept
  refine ensures_bind.mpr (manage_createdb reach₁ owns.home fun v₂ left => ?_)
  have reach₂ : VolumeMoves a start v₂ := by
    rcases left with rfl | ⟨text, rfl⟩
    · exact reach₁
    · exact reach₁.tail (.txt v₁ text)
  have frame : Frame v₁ v₂ := by
    rcases left with rfl | ⟨text, rfl⟩
    · exact .refl _
    · exact .txt v₁ text
  have fresh₂ := fresh₁.kept frame.kept
  have owns₂ := owns.frame frame
  have created := reach₂.tail (.create v₂ database v.next owns₂.home (fresh₂ _ owns₂.home).1)
  refine ⟨reach₂, fun e => ?_, created, ?_⟩
  · refine ensures_bind.mpr (registeredInDatabasesTxt_spec reach₂ (fun _ => failed _ v₂ reach₂) ?_)
    cases v₂.registered database with
    | true => exact failed _ v₂ reach₂
    | false => exact discard_spec reach₂ fresh₂ failed
  · have clear : ∀ m k, (v₂.create (database, v.next)).home database = some m →
        (v₂.create (database, v.next)).marker (database, m) = some k →
        VolumeMove a (v₂.create (database, v.next))
          ((v₂.create (database, v.next)).setMarker (database, m) none) :=
      fun m _ here _ => .unmark _ _ (.inl (fresh₂ m here).1)
    have marked : (v₂.create (database, v.next)).Marks (database, v.next)
        (· = some (.operation id)) :=
      Volume.marks_create.mpr owns₂.marked
    refine clearOwned_spec created clear failed (fun bare => ?_) ?_
    · have none := bare v.next owns₂.home
      rw [marked.visible] at none
      cases none
    · rintro m v' reach' here rfl
      obtain rfl : m = v.next := some.inj (here.symm.trans owns₂.home)
      refine done _ reach' ⟨fun k here' => .inl ?_, fun d => ?_⟩
      · obtain rfl : k = v.next := some.inj (here'.symm.trans owns₂.home)
        rw [Volume.marks_syncMarker, if_pos rfl, Volume.marker_setMarker]
      · rw [Volume.marks_syncMarker]
        split
        · simp
        · rename_i differs
          exact (Volume.marks_setMarker none).mpr
            ⟨Volume.marks_create.mpr (owns₂.only d differs), by simp⟩

theorem completeBootstrap_spec (own : a.owner = some id) (sound : start.store.Sound)
    (reach : VolumeMoves a start v) (ready : Bootstrapped a database id v) :
    a.Keeps start (completeBootstrap id database) v := by
  refine (joinHeartbeat_ready Bootstrapped.startable
    (enter_keepsReady own sound fun v w ready _ => ⟨ready.bare, ready.unnamed⟩) reach ready).bind ?_
  rintro answer v₁ ⟨reach₁, ready₁⟩
  rcases answer with (e | e) | _
  · exact fail_spec own sound reach₁
  · exact fail_spec own sound reach₁
  have may : ∀ w, Moves (.settle id (.completed none)) v₁.store.issued v₁.store w →
      VolumeMoves a start (v₁.setStore w) := fun w moves =>
    reach₁.tail (.store v₁ _ w
      (.completed id _ own fun d named => absurd (ready₁.unnamed d) named) moves)
  refine ensures_bind.mpr (manage_store (reach₁.sound sound) reach₁ may fun w reply moves _ => ?_)
  exact may w moves

theorem runHABootstrap_spec {cfg : Config} (own : a.owner = some id)
    (asked : a.bootstraps = some database) (sound : start.store.Sound) (first : a.first = v.next)
    (bounded : ∀ v' n, VolumeMoves a.quiet v v' → v'.home database = some n → n < v'.next)
    (begun : Begun v id) (reach : VolumeMoves a start v) :
    a.Keeps start (runHABootstrap cfg id database) v := by
  have reclaimed : a.quiet.Ensures v (reclaimIncomplete cfg database)
      (fun answer v' => VolumeMoves a.quiet v v' ∧ (answer = .ok () → v'.next = v.next ∧
        ∀ n, v'.home database = some n → v'.marker (database, n) = none)) v :=
    reclaimIncomplete_spec (reach.sound sound) .refl (fun _ _ moves => ⟨moves, by simp⟩)
      fun _ moves same bare => ⟨moves, fun _ => ⟨same, bare⟩⟩
  unfold runHABootstrap
  refine (reclaimed.weaken fun v' moves => reach.trans moves.of_quiet).bind
    fun answer v₁ after => ?_
  obtain ⟨quiet, left⟩ := after
  have reach₁ := reach.trans quiet.of_quiet
  have begun₁ := begun.quiet quiet
  rcases answer with e | _
  · exact fail_spec own sound reach₁
  obtain ⟨same, bare⟩ := left rfl
  refine ensures_bind.mpr (registeredInDatabasesTxt_spec reach₁ ?_ ?_)
  · exact fun e => fail_spec own sound reach₁
  cases v₁.registered database with
  | true =>
    refine completeBootstrap_spec own sound reach₁ ⟨fun n here => .inr ⟨asked, ?_, bare n here⟩,
      begun₁.unnamed⟩
    rw [first, ← same]
    exact bounded v₁ n quiet here
  | false =>
    refine ensures_bind.mpr (enter_spec own sound reach₁ fun answer w moves reach₂ => ?_)
    have begun₂ := begun₁.setStore moves (by simp)
    rcases answer with e | _
    · exact fail_spec own sound reach₂
    refine ensures_bind.mpr (createHADatabase_spec own (first.le.trans same.ge) begun₂ reach₂ ?_ ?_)
    · exact fun e v' reach' => fail_spec own sound reach'
    · exact fun v' reach' ready => completeBootstrap_spec own sound reach' ready

end Bootstrap

section Resume

variable {a : Attempt} {start v : Volume} {database : String}

structure Resumable (database : String) (op : Operation) (v : Volume) : Prop where
  marked : ∀ n, v.home database = some n → v.marker (database, n) = some (.operation op.id)
  visible : v.store.record op.id = some op
  completed : op.state = .completed

theorem Resumable.startable {op : Operation} : a.Startable database (Resumable database op) where
  may v n ready here := .resumed op.id op (ready.marked n here) ready.visible ready.completed
  start v n ready here :=
    ⟨fun m here' => by rw [marker_start]; exact ready.marked m here', ready.visible,
      ready.completed⟩

variable {cfg : Config} {haErr : Option String} (sound : start.store.Sound)
include sound

section

variable (reach : VolumeMoves a start v)
include reach

theorem resumeDatabase_spec : a.Keeps start (resumeDatabase cfg haErr database) v := by
  refine ensures_bind.mpr (manage_readMarker reach (fun _ => reach) (fun _ => reach) ?_)
  intro n m here marked
  refine ensures_bind.mpr
    (markedOperation_spec (reach.sound sound) reach (fun _ w reach₁ _ => reach₁) ?_)
  rintro op w rfl answer reach₁ -
  dsimp only
  split
  · exact reach₁
  · rename_i resumes
    have completed : op.state = .completed := by
      by_contra other
      exact resumes (.inr (.inl other))
    have ready : Resumable database op (v.setStore w) := by
      refine ⟨fun k there => ?_, answer.visible, completed⟩
      obtain rfl : k = n := some.inj (there.symm.trans here)
      exact marked
    split
    · exact reach₁
    · refine (startRestoredDatabase_ready Resumable.startable
        (fun v' reach' ready' => (ensures_pure _ _ _).mpr ⟨reach', ready'⟩) reach₁ ready).bind ?_
      rintro answer' v₂ ⟨reach₂, ready₂⟩
      rcases answer' with (e | e) | _
      · exact reach₂
      · exact reach₂
      have clear : ∀ k m, v₂.home database = some k → v₂.marker (database, k) = some m →
          VolumeMove a v₂ (v₂.setMarker (database, k) none) := fun k m there _ =>
        .unmark _ _ (.inr ⟨op.id, op, ready₂.marked k there, ready₂.visible, completed⟩)
      exact ensures_bind.mpr
        (clearOwned_spec reach₂ clear (fun _ v' reach' => reach') (fun _ => reach₂)
        fun k v' reach' _ _ => reach')

theorem resumeEach_spec {databases : List String} :
    a.Keeps start (resumeEach cfg haErr databases) v := by
  induction databases generalizing v with
  | nil => exact reach
  | cons database rest ih =>
    unfold resumeEach
    split
    · refine (resumeDatabase_spec sound reach).bind fun errs v' reach' => ?_
      exact (ih reach').bind fun _ _ => id
    · exact ensures_bind.mpr ((ensures_pure _ _ _).mpr ((ih reach).bind fun _ _ => id))

theorem resumeCompletedRestores_spec : a.Keeps start (resumeCompletedRestores cfg) v := by
  have each : ∀ haErr databases, a.Keeps start (do
      let errs ← resumeEach cfg haErr databases
      manage .endOperation
      pure errs) v := by
    intro haErr databases
    refine (resumeEach_spec sound reach).bind fun errs v' reach' => ?_
    exact ensures_bind.mpr (manage_ask reach' (fun _ => rfl) fun _ => reach')
  unfold resumeCompletedRestores
  refine ensures_bind.mpr (manage_ask reach (fun _ => rfl) fun answer => ?_)
  rcases answer with e | _
  · exact reach
  refine ensures_bind.mpr (manage_ask reach (fun _ => rfl) fun answer => ?_)
  rcases answer with e | databases
  · exact ensures_bind.mpr (manage_ask reach (fun _ => rfl) fun _ => reach)
  dsimp only
  split
  · exact each none databases
  · refine ensures_bind.mpr (ensures_bind.mpr (manage_ask reach (fun _ => rfl) fun answer => ?_))
    cases answer with
    | error e => exact each (some e) databases
    | ok hosts => exact each none databases

theorem startManager_spec : a.Keeps start (startManager cfg) v := by
  have may : ∀ w, Moves .start v.store.issued v.store w → VolumeMoves a start (v.setStore w) :=
    fun w moves => reach.tail (.store v _ w (.read _ (by simp) (by simp)) moves)
  have up : ∀ w, VolumeMoves a start (v.setStore w) → a.Keeps start (do
      if ← honorRecordedStop then pure true
      else
        let _ ← resumeCompletedRestores cfg
        pure true) (v.setStore w) := by
    intro w reach'
    refine (honorRecordedStop_uses.unmoved reach').bind fun recorded v₁ same => ?_
    subst same
    cases recorded with
    | true => exact reach'
    | false => exact (resumeCompletedRestores_spec sound reach').bind fun _ _ => id
  unfold startManager
  refine ensures_bind.mpr (manage_store (reach.sound sound) reach may fun w reply moves _ => ?_)
  cases reply with
  | error e => exact may w moves
  | _ => exact up w (may w moves)

end

end Resume
end InstanceManager
