import CubridOperator.InstanceManager.Undisturbed

/-!
What a killed restore or HA bootstrap leaves, and what the restarted manager
makes of it.
-/
namespace InstanceManager
open Foundation Program Relation Option

inductive Requested where
  | restore (req : RestoreRequest)
  | bootstrap (database : String)

namespace Requested

def database : Requested → String
  | .restore req => req.database
  | .bootstrap database => database

def bootstraps : Requested → Option String
  | .restore _ => none
  | .bootstrap database => some database

def request (cfg : Config) (key hash : String) :
    Requested → ManagerM (Except (Nat × String) Operation)
  | .restore req => restorePrepare cfg key hash req
  | .bootstrap database => haBootstrap cfg key hash database

variable {cfg : Config} {key hash : String} {v v' : Volume}

theorem request_spec (r : Requested) (cfg : Config) (key hash : String) (known : Known v) :
    Ensures volumeHandler (Ventured r.bootstraps v) (r.request cfg key hash)
      (fun _ v' => Ventured r.bootstraps v v') v := by
  cases r with
  | restore req => exact restorePrepare_spec known key hash req
  | bootstrap database => exact haBootstrap_spec known key hash database

theorem killed_valid (r : Requested) {choices : List VolumeChoice}
    (killed : (r.request cfg key hash).run volumeHandler v choices = (v', none)) :
    isDatabaseName r.database = true := by
  by_contra invalid
  have refused : ∃ answer, r.request cfg key hash = pure answer := by
    cases r with
    | restore req =>
      have invalid' : isDatabaseName req.database = false := by simpa [database] using invalid
      simp only [request, restorePrepare, validateRestoreRequest, invalid']
      split
      · exact ⟨_, rfl⟩
      · rename_i valid
        split at valid <;> cases valid
    | bootstrap name =>
      have invalid' : isDatabaseName name = false := by simpa [database] using invalid
      simp only [request, haBootstrap, invalid']
      split
      · exact ⟨_, rfl⟩
      · exact ⟨_, rfl⟩
  obtain ⟨answer, same⟩ := refused
  rw [same] at killed
  cases killed

end Requested

/-- Every marker that stands under the database's name is that of an operation
    whose directory may be discarded. -/
def Discards (v : Volume) (database : String) : Prop :=
  ∀ n m, v.home database = some n → v.marker (database, n) = some m →
    ∃ id, m = .operation id ∧ Discardable v.store id

def RestoredSince (v v' : Volume) : Prop :=
  ∃ id ∈ v'.store.issued, id ∉ v.store.issued ∧ RestoredOp (v'.store.record id)

/-- Since `v`, createdb completed in a new directory of the database, or
    restored data was recorded. -/
def Finished (v v' : Volume) (database : String) : Prop :=
  (∃ n < v'.next, v.next ≤ n ∧ (v'.dirs (database, n)).created = true) ∨ RestoredSince v v'

variable {id : OperationID}

section Attempting

variable {a : Attempt} {v v' : Volume} {database : String}

theorem Volume.marker_removed (e : DirID) (name : RootName) (n : Nat) (progress : Removal) :
    (v.remove name n progress).marker e = v.marker e ∨
    (v.remove name n progress).marker e = none := by
  by_cases same : e = (name.database, n)
  · subst same
    rcases progress with _ | (_ | _) | _
    · exact .inl rfl
    · have unharmed : (v.harm (name.database, n)).marker (name.database, n) = v.marker
          (name.database, n) :=
        Volume.marker_onDir rfl
      exact .inl unharmed
    · exact .inr (Volume.marker_setMarker none)
    · exact .inr (Volume.marker_setMarker none)
  · exact .inl (Volume.marker_remove progress same)

theorem VolumeMove.shown_cases (move : VolumeMove a v v') {n : Nat} {m : Marker}
    (here : v'.home database = some n) (shown : v'.marker (database, n) = some m) :
    v.home database = some n ∧ v.marker (database, n) = some m ∨
      ∃ id, m = .operation id ∧ a.owner = some id ∧ NeverCompleted v.store id ∧
        v'.store = v.store := by
  have marked : ∀ d id, v.home database = some n → (v.setMarker d (some (.operation id))).marker
      (database, n) =
      some m → v.home database = some n ∧ v.marker (database, n) = some m ∨ m = .operation id := by
    intro d id there set
    by_cases same : (database, n) = d
    · subst same
      rw [Volume.marker_setMarker] at set
      exact .inr (some.inj set).symm
    · refine .inl ⟨there, ?_⟩
      simpa [Volume.marker, Volume.setMarker, Volume.dirs_onDir, same] using set
  have removed : ∀ name k progress, (v.remove name k progress).home database = some n →
      (v.remove name k progress).marker (database, n) = some m →
      v.home database = some n ∧ v.marker (database, n) = some m := by
    intro name k progress there left
    refine ⟨Volume.home_remove there, ?_⟩
    rcases Volume.marker_removed (v := v) (database, n) name k progress with same | gone
    · exact same ▸ left
    · rw [gone] at left
      cases left
  cases move with
  | syncRoot => exact .inl ⟨by simpa [Volume.home] using here, shown⟩
  | txt text => exact .inl ⟨by simpa [Volume.home, RootChange.apply] using here, shown⟩
  | make other free =>
    by_cases same : (database, n) = (other, v.next)
    · have bare : (v.make other).marker (other, v.next) = none := by
        rw [Volume.marker, Volume.dirs_make, Function.update_self]
        rfl
      rw [same, bare] at shown
      cases shown
    · refine .inl ⟨?_, by simpa [Volume.marker, Function.update_of_ne same] using shown⟩
      simp only [Volume.home, Volume.view_make, RootChange.apply] at here
      rcases update_eq_some here with ⟨rfl, number⟩ | old
      · exact absurd (by rw [some.inj number]) same
      · exact old
  | mark d id own there fresh bare quiet issued never =>
    rcases marked d id here shown with old | rfl
    · exact .inl old
    · exact .inr ⟨id, rfl, own, never, rfl⟩
  | adopt d id own there issued never recorded =>
    rcases marked d id here shown with old | rfl
    · exact .inl old
    · exact .inr ⟨id, rfl, own, never, rfl⟩
  | unmark d own =>
    by_cases same : (database, n) = d
    · subst same
      rw [Volume.marker_setMarker] at shown
      cases shown
    · exact .inl
        ⟨here, by simpa [Volume.marker, Volume.setMarker, Volume.dirs_onDir, same] using shown⟩
  | aside other k id op there marked' visible failed unrestored =>
    have unharmed : (v.harm (other, k)).marker (database, n) = v.marker (database, n) :=
      Volume.marker_onDir rfl
    simp only [Volume.home, Volume.setAside, Volume.view_change, RootChange.apply] at here
    rcases update_eq_some here with ⟨-, none⟩ | old
    · cases none
    · exact .inl ⟨old, unharmed.symm.trans shown⟩
  | removeTomb other k progress there | removeOwn other k progress there own quiet =>
    exact .inl (removed _ k progress here shown)
  | syncMarker | create | start =>
    exact .inl ⟨here, (Volume.marker_onDir (by rfl)).symm.trans shown⟩
  | store => exact .inl ⟨here, shown⟩

structure Attempting (a : Attempt) (database : String) (start v : Volume) : Prop where
  known : Known v
  own : ∀ id, a.owner = some id → id ∈ v.store.issued ∧ id ∉ start.store.issued ∧
    ∃ op, v.store.record id = some op ∧ op.idempotencyKey ≠ ""
  left : Discards v database ∨ RestoredSince start v

variable {start : Volume}

theorem Moves.keyed {c : StoreCall} {w w' : StoreWorld} (moves : Moves c w.issued w w')
    (old : id ∈ w.issued) (keyed : ∃ op, w.record id = some op ∧ op.idempotencyKey ≠ "") :
    ∃ op, w'.record id = some op ∧ op.idempotencyKey ≠ "" := by
  induction moves with
  | refl => exact keyed
  | tail _ move ih =>
    obtain ⟨op, found, usable⟩ := ih
    rcases move.record_cases old with same | ⟨current, now, present, visible, rewritten⟩
    · exact ⟨op, same.trans found, usable⟩
    · rw [found] at present
      cases present
      exact ⟨now, visible, by rw [rewritten.rewrite.sameRequest.idempotencyKey]; exact usable⟩

theorem VolumeMove.restoredSince (move : VolumeMove a v v') (restored : RestoredSince start v) :
    RestoredSince start v' := by
  obtain ⟨id, issued, new, recorded⟩ := restored
  rcases move.store_cases with same | ⟨c, w, -, moves, rfl⟩
  · exact ⟨id, same ▸ issued, new, same ▸ recorded⟩
  · exact ⟨id, moves.issued issued, new, moves.restoredOp issued recorded⟩

theorem VolumeMove.discardable (move : VolumeMove a v v')
    (attempting : Attempting a database start v) {n : Nat}
    (marked : v.marker (database, n) = some (.operation id))
    (discardable : Discardable v.store id) : Discardable v'.store id ∨ RestoredSince start v' := by
  rcases move.store_cases with same | ⟨c, w, asked, moves, rfl⟩
  · exact .inl (same ▸ discardable)
  obtain ⟨op, found, -, unrestored, -⟩ := discardable.record
  have old := (attempting.known.sound.named found).2
  have notCompleted : ∀ artifact, c ≠ .settle id (.completed artifact) := by
    rintro artifact rfl
    cases asked with
    | read _ updates settles => exact settles _ _ rfl
    | completed _ _ own secured =>
      -- A runner that completes with its marker in place has recorded the data.
      obtain ⟨now, visible, restored⟩ :=
        (Volume.Marks.visible (secured _ (Volume.marker_names marked)) id marked).visible
      rw [found] at visible
      cases visible
      simp [unrestored] at restored
  rcases moves.discardable old notCompleted discardable with still | ⟨restored, m, rfl⟩
  · exact .inl still
  · cases asked with
    | read _ updates settles => exact absurd rfl (updates _ _)
    | update _ _ own => exact .inr ⟨id, moves.issued old, (attempting.own id own).2.1, restored⟩

theorem VolumeMove.attempting (move : VolumeMove a v v')
    (attempting : Attempting a database start v) : Attempting a database start v' where
  known := attempting.known.move move fun id own => (attempting.own id own).1
  own id own := by
    obtain ⟨issued, new, keyed⟩ := attempting.own id own
    refine ⟨move.issued issued, new, ?_⟩
    rcases move.store_cases with same | ⟨c, w, -, moves, rfl⟩
    · exact same ▸ keyed
    · exact moves.keyed issued keyed
  left := by
    rcases attempting.left with discards | restored
    · by_cases finished : RestoredSince start v'
      · exact .inr finished
      refine .inl fun n m here shown => ?_
      rcases move.shown_cases here shown with ⟨there, before⟩ | ⟨id, rfl, own, never, same⟩
      · obtain ⟨id, rfl, discardable⟩ := discards n m there before
        exact ⟨id, rfl, (move.discardable attempting before discardable).resolve_right finished⟩
      · obtain ⟨issued, new, op, found, keyed⟩ := attempting.own id own
        refine ⟨id, rfl, ⟨op, same ▸ found, keyed, ?_, never.durable.visible op found⟩, ?_⟩
        · by_contra restored
          refine finished ⟨id, move.issued issued, new, op, same ▸ found, ?_⟩
          exact isSome_iff_ne_none.mpr restored
        · exact fun artifact held => never.kept artifact (same ▸ held)
    · exact .inr (move.restoredSince restored)

theorem VolumeMoves.attempting (moves : VolumeMoves a v v')
    (attempting : Attempting a database start v) : Attempting a database start v' := by
  induction moves with
  | refl => exact attempting
  | tail _ move ih => exact move.attempting ih

/-- A request leaves a directory that may be discarded, or restored data on
    record, wherever it ends. -/
theorem Ventured.left {bootstraps : Option String} (ventured : Ventured bootstraps v v')
    (known : Known v) (discards : Discards v database) :
    Discards v' database ∨ RestoredSince v v' := by
  have asked : ∀ kind key hash name w,
      Moves (.findOrCreate kind key hash name) v.store.issued v.store w →
      Discards (v.setStore w) database := by
    intro kind key hash name w moves n m here shown
    obtain ⟨id, rfl, discardable⟩ := discards n m here shown
    obtain ⟨op, found, -⟩ := discardable.record
    rcases moves.discardable (known.sound.named found).2 (by simp) discardable with
      still | ⟨-, m, asked⟩
    · exact ⟨id, rfl, still⟩
    · cases asked
  cases ventured with
  | asked kind key hash name w moves => exact .inl (asked kind key hash name w moves)
  | ran kind key hash name op w v' keyed moves created ran =>
    have begun := begun_created known moves created
    refine (VolumeMoves.attempting ran ⟨known.read moves (by simp) (by simp), ?_, .inl ?_⟩).left
    · rintro id ⟨⟩
      obtain ⟨_, _, _, _, w₁, ⟨⟩, shape, unused, -, -, -, rfl⟩ := created
      exact ⟨begun.issued, unused, op, by simp, by rw [shape]; exact keyed⟩
    · exact asked kind key hash name w moves

end Attempting

def restarted (v : Volume) : Volume :=
  ((manage (.store .start)).finish volumeHandler {} v.kill).1

def LaterCall (w before after : StoreWorld) : Prop :=
  ∃ c, c ≠ .start ∧ (∀ id m, c = .update id m → id ∉ w.issued) ∧
    (∀ id e, c = .settle id e → id ∉ w.issued) ∧ Moves c before.issued before after

/-- After a restart and whatever later calls, the reclaim leaves neither a
    directory nor a registration. -/
def NothingLeft (cfg : Config) (v : Volume) (database : String) : Prop :=
  ∀ w, ReflTransGen (LaterCall (restarted v).store) (restarted v).store w →
    ∃ v', (reclaimIncomplete cfg database).finish volumeHandler {} ((restarted v).setStore w) =
      (v', some (.ok ())) ∧ v'.home database = none ∧ v'.registered database = false

/-- What no reclaim recognises: a directory without a marker, or a registration
    without a directory. -/
def Unrecognised (v : Volume) (database : String) : Prop :=
  match v.home database with
  | some n => v.marker (database, n) = none
  | none => v.registered database = true

section Restart

variable {v : Volume} {database : String} {cfg : Config}

theorem restarted_spec (known : Known v) : ∃ w, restarted v = v.setStore w ∧
    Moves .start v.store.issued v.store.kill w ∧ ∀ id, Judged w id := by
  have returns := (program_spec .start known.sound.kill).completes start_completes
  have started : (manage (.store .start)).Completes volumeHandler {} (fun _ v' => ∃ w,
      v' = v.setStore w ∧ Moves .start v.store.issued v.store.kill w ∧ ∀ id, Judged w id)
        v.kill := by
    refine manage_store_completes (returns.mono ?_)
    rintro _ w ⟨⟨moves, holds⟩, rfl⟩
    refine ⟨w, rfl, moves, fun id op found running => ?_⟩
    rcases holds.1 rfl id op found with ended | kept
    · rw [ended] at running
      cases running
    · exact kept
  obtain ⟨reply, v', same, w, rfl, moves, holds⟩ := completes_iff.mp started
  exact ⟨w, by rw [restarted, same], moves, holds⟩

theorem recovered_start {w : StoreWorld} (known : Known v) (discardable : Discardable v.store id)
    (moves : Moves .start v.store.issued v.store.kill w) (judged : Judged w id) :
    Recovered w id := by
  obtain ⟨op, found, -⟩ := discardable.record
  have old := (known.sound.named found).2
  refine ⟨moves.sound known.sound.kill, ?_, judged, ?_⟩
  · rcases moves.discardable old (by simp) discardable.kill with still | ⟨-, m, asked⟩
    · exact still
    · cases asked
  · clear judged
    induction moves with
    | refl => rfl
    | tail _ move ih =>
      refine eq_none_iff_forall_ne_some.mpr fun e held => ?_
      rcases move.keptEnd_cases held with before | asked
      · rw [ih] at before
        cases before
      · cases asked

theorem Recovered.later {w w' : StoreWorld} (recovered : Recovered w id)
    (later : ReflTransGen (LaterCall w) w w') : Recovered w' id := by
  have issued := recovered.issued
  induction later with
  | refl => exact recovered
  | tail _ call ih =>
    obtain ⟨c, notStart, updates, settles, moves⟩ := call
    exact ih.moves moves notStart (fun m asked => updates id m asked issued)
      fun e asked => settles id e asked issued

/-- A restarted manager reclaims what carries the marker of a discardable
    operation, and nothing that it does not recognise. -/
theorem nothingLeft_iff (known : Known v) (valid : isDatabaseName database = true)
    (discards : Discards v database) : NothingLeft cfg v database ↔ ¬Unrecognised v database := by
  obtain ⟨w, same, moves, judged⟩ := restarted_spec known
  have apart : ∀ n, v.home database = some n → v.tomb database ≠ some n :=
    known.root.apart.visible database
  have unmarked : ∀ w', (∀ n, v.home database = some n → v.marker (database, n) = none) →
      ∃ v', (reclaimIncomplete cfg database).finish volumeHandler {} (v.setStore w') =
        (v', some (.ok ())) ∧
        v'.home = v.home ∧ v'.registered database = v.registered database := by
    intro w' bare
    obtain ⟨_, v', ran, rfl, homes, registry⟩ :=
      completes_iff.mp (reclaim_unmarked (v := v.setStore w') cfg valid apart bare)
    exact ⟨v', ran, homes, registry⟩
  unfold NothingLeft
  rw [same, Volume.store_setStore]
  cases here : v.home database with
  | none =>
    simp only [Unrecognised, here, Bool.not_eq_true]
    have bare : ∀ n, v.home database = some n → v.marker (database, n) = none := by simp [here]
    refine ⟨fun reclaimed => ?_, fun free w' _ => ?_⟩
    · obtain ⟨v', ran, -, gone⟩ := reclaimed w .refl
      obtain ⟨u, ran', -, registry⟩ := unmarked w bare
      rw [show (v.setStore w).setStore w = v.setStore w from rfl, ran'] at ran
      cases ran
      rw [← registry]
      exact gone
    · obtain ⟨u, ran, homes, registry⟩ := unmarked w' bare
      exact ⟨u, ran, by rw [homes]; exact here, by rw [registry]; exact free⟩
  | some n =>
    simp only [Unrecognised, here]
    refine ⟨fun reclaimed bare => ?_, fun marked w' later => ?_⟩
    · obtain ⟨v', ran, gone, -⟩ := reclaimed w .refl
      obtain ⟨u, ran', homes, -⟩ := unmarked w fun m there => by
        rw [here] at there
        cases there
        exact bare
      rw [show (v.setStore w).setStore w = v.setStore w from rfl, ran'] at ran
      cases ran
      rw [homes, here] at gone
      cases gone
    · obtain ⟨m, shown⟩ := ne_none_iff_exists'.mp marked
      obtain ⟨id, rfl, discardable⟩ := discards n m here shown
      have recovered := (recovered_start known discardable moves (judged id)).later later
      obtain ⟨_, v', ran, rfl, gone⟩ := completes_iff.mp
        (reclaim_recovered (v := v.setStore w') cfg valid apart here shown recovered)
      exact ⟨v', ran, gone⟩

end Restart

namespace MemberState

/-- Wherever an attempt is killed before createdb completed and before restored
    data was recorded, the next reclaim leaves nothing, provided that the kill
    left nothing that goes unrecognised. -/
theorem killed_attempt_reclaimed (cfg : Config) (events : List MemberEvent) (r : Requested)
    (key hash : String) (choices : List VolumeChoice) (v : Volume)
    (before : Discards (run cfg {} events).volume r.database)
    (killed : (r.request cfg key hash).run volumeHandler (run cfg {} events).volume
      choices = (v, none))
    (unfinished : ¬Finished (run cfg {} events).volume v r.database) :
    NothingLeft cfg v r.database ↔ ¬Unrecognised v r.database := by
  have known := run_known cfg events known_init
  have ventured := run_ensures (r.request_spec cfg key hash known) choices
  rw [killed] at ventured
  have discards := (ventured.left known before).resolve_right fun restored =>
    unfinished (.inr restored)
  exact nothingLeft_iff (ventured.known known) (r.killed_valid killed) discards

instance (v : Volume) (database : String) : Decidable (Unrecognised v database) := by
  unfold Unrecognised
  split <;> infer_instance

instance (v v' : Volume) : Decidable (RestoredSince v v') := by
  unfold RestoredSince
  infer_instance

instance (v v' : Volume) (database : String) : Decidable (Finished v v' database) := by
  unfold Finished
  infer_instance

theorem discards_of_absent {v : Volume} {database : String} (absent : v.home database = none) :
    Discards v database := by
  intro n m here
  rw [absent] at here
  cases here

def attempted (choices : List VolumeChoice) : Volume × Option (Except (Nat × String) Operation) :=
  (Requested.request member "first" "h" (.bootstrap "demo")).run volumeHandler
    (run member {} [.start calmly]).volume choices

def insideCreatedb : VolumeChoice :=
  { killed := true, wrote := some "demo\t/db/demo\thost".toList,
    reply := fun e => match e with
      | .createdb _ _ => .error "signal: killed"
      | e => e.usual }

theorem killed_in_createdb_reclaimed :
    (attempted (calmly.take 15 ++ [insideCreatedb])).1.registered "demo" = true ∧
      NothingLeft member (attempted (calmly.take 15 ++ [insideCreatedb])).1 "demo" := by
  refine ⟨by decide +kernel, ?_⟩
  have killed : attempted (calmly.take 15 ++ [insideCreatedb]) =
      ((attempted (calmly.take 15 ++ [insideCreatedb])).1, none) := Prod.ext rfl (by rfl)
  exact (killed_attempt_reclaimed member [.start calmly] (.bootstrap "demo") "first" "h" _ _
    (discards_of_absent (by decide +kernel)) killed (by decide +kernel)).mpr (by decide +kernel)

/-- A kill between the creation of the directory and its marker leaves a
    directory that the reclaim does not touch. -/
theorem killed_before_mark_not_reclaimed :
    (attempted (calmly.take 11)).2.isNone = true ∧
      Discards (run member {} [.start calmly]).volume "demo" ∧
      ¬Finished (run member {} [.start calmly]).volume (attempted (calmly.take 11)).1 "demo" ∧
      ¬NothingLeft member (attempted (calmly.take 11)).1 "demo" := by
  refine ⟨by decide +kernel, discards_of_absent (by decide +kernel), by decide +kernel,
    fun reclaimed => ?_⟩
  obtain ⟨v, ran, gone, -⟩ := reclaimed _ .refl
  have stays : ((reclaimIncomplete member "demo").finish volumeHandler {}
      ((restarted (attempted (calmly.take 11)).1).setStore
        (restarted (attempted (calmly.take 11)).1).store)).1.home "demo" = some 0 := by
          decide +kernel
  rw [ran, gone] at stays
  cases stays

end MemberState
end InstanceManager
