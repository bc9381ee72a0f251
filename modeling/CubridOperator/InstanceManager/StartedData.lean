import CubridOperator.InstanceManager.RequestSpecs

/-!
Started data is kept: no later operation moves it aside or removes anything of
it. The one way around this is a marker whose removal was not durable.
-/
namespace InstanceManager
open Foundation Program Relation Function List Nat

/-- Started data is kept, and why it will be. -/
structure Preserved (v : Volume) : Prop extends Known v where
  started : ∀ d, (v.dirs d).started = true → (v.Root fun s => s.tomb d.1 ≠ some d.2) ∧ v.Secured d
  completed : ∀ d id, v.Names d id → NeverCompleted v.store id ∨ v.Secured d
  kept : ∀ d, (v.dirs d).lost = false

/-- A directory that a bootstrap finds without a marker is secured. -/
def Attempt.Cleared (a : Attempt) (v : Volume) : Prop :=
  ∀ database n, a.bootstraps = some database → n < a.first → v.home database = some n →
    v.marker (database, n) = none → v.Secured (database, n)

structure Underway (a : Attempt) (v : Volume) : Prop where
  preserved : Preserved v
  cleared : a.Cleared v
  issued : ∀ id, a.owner = some id → id ∈ v.store.issued
  first : a.first ≤ v.next

variable {id : OperationID}

section Markers

variable {a : Attempt} {v v' : Volume} {d : DirID}

section

variable (move : VolumeMove a v v')
include move

theorem VolumeMove.recorded (old : id ∈ v.store.issued) (recorded : v.store.Durably id RestoredOp) :
    v'.store.Durably id RestoredOp := by
  rcases move.store_cases with same | ⟨c, w, -, moves, rfl⟩
  · rw [same]
    exact recorded
  · exact moves.restored old recorded

/-- A secured directory stays secured; only one that was never marked or
    started is marked by the attempt that made it. -/
theorem VolumeMove.secured (preserved : Preserved v) (secured : v.Secured d) :
    v'.Secured d ∨ a.first ≤ d.2 ∧ (v.dirs d).started = false ∧ v.Marks d (· = none) := by
  by_cases own : a.first ≤ d.2 ∧ (v.dirs d).started = false ∧ v.Marks d (· = none)
  · exact .inr own
  · have both : v.Marks d fun m => ∀ id, m = some (.operation id) →
        v'.store.Durably id RestoredOp := by
      intro changes part id same
      exact move.recorded (preserved.named d changes part id same) (secured changes part id same)
    refine .inl (move.marks both (by simp) fun id _ _ _ why same k marked => ?_)
    cases marked
    rcases why with fresh | recorded
    · exact absurd fresh own
    · rw [same]
      exact recorded

theorem VolumeMove.secured_of_started (preserved : Preserved v)
    (started : (v.dirs d).started = true) : v'.Secured d := by
  rcases move.secured preserved (preserved.started d started).2 with secured | ⟨-, quiet, -⟩
  · exact secured
  · rw [started] at quiet
    cases quiet

theorem VolumeMove.names (named : v'.Names d id) :
    v.Names d id ∨ NeverCompleted v.store id ∧ v'.store = v.store := by
  by_contra none
  rw [not_or] at none
  refine named (move.marks (not_not.mp none.1) (by simp) fun k _ _ never _ same marked => ?_)
  cases marked
  exact none.2 ⟨never, same⟩

theorem VolumeMove.completed (preserved : Preserved v) (named : v'.Names d id) :
    NeverCompleted v'.store id ∨ v'.Secured d := by
  rcases move.names named with old | ⟨never, same⟩
  · have still : v.Secured d → v'.Secured d := by
      intro secured
      rcases move.secured preserved secured with secured' | ⟨-, -, bare⟩
      · exact secured'
      · cases old.of_marks bare
    rcases preserved.completed d id old with never | secured
    · rcases move.store_cases with same | ⟨c, w, asked, moves, rfl⟩
      · exact .inl (same ▸ never)
      · by_cases ends : ∃ artifact, c = .settle id (.completed artifact)
        · obtain ⟨artifact, rfl⟩ := ends
          cases asked with
          | read _ updates settles => exact absurd rfl (settles _ _)
          | completed _ _ own secured => exact .inr (still (secured d old))
        · exact .inl (moves.neverCompleted (fun artifact same => ends ⟨artifact, same⟩) never)
    · exact .inr (still secured)
  · exact .inl (same ▸ never)

end

end Markers

section Flags

variable {a : Attempt} {v v' : Volume} {d e : DirID}

theorem Volume.harm_lost (quiet : (v.dirs d).started = false) :
    ((v.harm d).dirs e).lost = (v.dirs e).lost :=
  Volume.dirs_onDir_field Directory.lost (by simp [quiet])

theorem Volume.remove_started (name : RootName) (n : Nat) (progress : Removal) :
    ((v.remove name n progress).dirs e).started = (v.dirs e).started := by
  have harmed : ((v.harm (name.database, n)).dirs e).started = (v.dirs e).started :=
    Volume.dirs_onDir_field Directory.started rfl
  have touched : (((v.harm (name.database, n)).setMarker (name.database, n) none).dirs e).started =
      (v.dirs e).started := (Volume.dirs_onDir_field Directory.started rfl).trans harmed
  rcases progress with _ | (_ | _) | _
  · rfl
  · exact harmed
  · exact touched
  · exact touched

theorem Volume.remove_lost {name : RootName} {n : Nat}
    (quiet : (v.dirs (name.database, n)).started = false) (progress : Removal) :
    ((v.remove name n progress).dirs e).lost = (v.dirs e).lost := by
  have touched : (((v.harm (name.database, n)).setMarker (name.database, n) none).dirs e).lost =
      (v.dirs e).lost := (Volume.dirs_onDir_field Directory.lost rfl).trans (Volume.harm_lost quiet)
  rcases progress with _ | (_ | _) | _
  · rfl
  · exact Volume.harm_lost quiet
  · exact touched
  · exact touched

theorem VolumeMove.started_cases (move : VolumeMove a v v') (started : (v'.dirs d).started = true) :
    (v.dirs d).started = true ∨ v.home d.1 = some d.2 ∧ a.MayStart v d ∧ v' = v.start d := by
  cases move with
  | make database free =>
    rw [Volume.dirs_make] at started
    by_cases same : d = (database, v.next)
    · rw [same, update_self] at started
      cases started
    · rw [update_of_ne same] at started
      exact .inl started
  | start database n here may =>
    by_cases same : d = (database, n)
    · subst same
      exact .inr ⟨here, may, rfl⟩
    · simp only [Volume.start, Volume.dirs_onDir, same, if_false] at started
      exact .inl started
  | removeTomb database n progress here =>
    rw [Volume.remove_started] at started
    exact .inl started
  | removeOwn database n progress here own quiet =>
    rw [Volume.remove_started] at started
    exact .inl started
  | aside database n id op here marked visible failed unrestored =>
    have same : ((v.harm (database, n)).dirs d).started = (v.dirs d).started :=
      Volume.dirs_onDir_field Directory.started rfl
    exact .inl (same.symm.trans started)
  | syncMarker | mark | adopt | unmark | create =>
    exact .inl ((Volume.dirs_onDir_field Directory.started (by rfl)).symm.trans started)
  | store | syncRoot | txt => exact .inl started

theorem Volume.Secured.restored {op : Operation} (secured : v.Secured d)
    (marked : v.marker d = some (.operation id)) (visible : v.store.record id = some op) :
    op.restored.isSome = true := by
  obtain ⟨now, found, restored⟩ := (Volume.Marks.visible secured id marked).visible
  rw [visible] at found
  cases found
  exact restored

theorem VolumeMove.kept (move : VolumeMove a v v') (preserved : Preserved v) (d : DirID) :
    (v'.dirs d).lost = false := by
  rw [← preserved.kept d]
  cases move with
  | make database free =>
    rw [Volume.dirs_make]
    by_cases same : d = (database, v.next)
    · rw [same, update_self, preserved.kept]
    · rw [update_of_ne same]
  | aside database n id op here marked visible failed unrestored =>
    refine Volume.harm_lost (Bool.eq_false_iff.mpr fun started => ?_)
    have restored := (preserved.started (database, n) started).2.restored marked visible
    simp [unrestored] at restored
  | removeTomb database n progress here =>
    refine Volume.remove_lost (Bool.eq_false_iff.mpr fun started => ?_) progress
    exact (preserved.started (database, n) started).1.visible here
  | removeOwn database n progress here own quiet => exact Volume.remove_lost quiet progress
  | syncMarker | mark | adopt | unmark | create | start =>
    exact Volume.dirs_onDir_field Directory.lost (by rfl)
  | store | syncRoot | txt => rfl

theorem Attempt.MayStart.secured (may : a.MayStart v d) (underway : Underway a v)
    (here : v.home d.1 = some d.2) : v.Secured d := by
  cases may with
  | restored id marked recorded =>
    refine marked.mono ?_
    rintro m rfl k same
    cases same
    exact recorded
  | unmarked clean =>
    refine clean.mono ?_
    rintro m rfl k same
    cases same
  | found asked old bare => exact underway.cleared d.1 d.2 asked old here bare
  | resumed id op marked visible completed =>
    rcases underway.preserved.completed d id (Volume.marker_names marked) with never | secured
    · exact absurd completed (never.durable.visible op visible)
    · exact secured

section

variable (move : VolumeMove a v v')
include move

theorem VolumeMove.tomb (preserved : Preserved v) (started : (v.dirs d).started = true) :
    v'.Root fun s => s.tomb d.1 ≠ some d.2 := by
  have before := (preserved.started d started).1
  cases move with
  | syncRoot => exact Volume.root_sync.mpr before.visible
  | txt text => exact (Volume.root_push _).mpr ⟨before, before⟩
  | make database free => exact Volume.root_enter.mpr ⟨before, before⟩
  | aside database n id op here marked visible failed unrestored =>
    refine (Volume.root_push _).mpr ⟨before, before.mono fun s other aside => ?_⟩
    rcases update_eq_some aside with ⟨same, number⟩ | old
    · have this : d = (database, n) := Prod.ext same (Option.some.inj number).symm
      have restored := (preserved.started d started).2.restored (this ▸ marked) visible
      simp [unrestored] at restored
    · exact other old
  | removeTomb database n progress here =>
    refine before.remove (fun s other aside => ?_) progress
    rcases update_eq_some aside with ⟨-, same⟩ | old
    · cases same
    · exact other old
  | removeOwn database n progress here own quiet => 
    exact before.remove (fun s other => by simpa [RootChange.apply] using other) progress
  | store | syncMarker | mark | adopt | unmark | create | start => exact before

theorem VolumeMove.started (underway : Underway a v) (started : (v'.dirs d).started = true) :
    (v'.Root fun s => s.tomb d.1 ≠ some d.2) ∧ v'.Secured d := by
  rcases move.started_cases started with old | ⟨here, may, rfl⟩
  · exact ⟨move.tomb underway.preserved old, move.secured_of_started underway.preserved old⟩
  · exact ⟨underway.preserved.root.settled d.1 d.2 here,
      Volume.marks_start.mpr (may.secured underway here)⟩

theorem VolumeMove.home_cases {database : String} {n : Nat} (here : v'.home database = some n) :
    v.home database = some n ∨ v.next ≤ n := by
  cases move with
  | syncRoot => exact .inl (by simpa [Volume.home] using here)
  | txt text => exact .inl (by simpa [Volume.home, RootChange.apply] using here)
  | make other free =>
    simp only [Volume.home, Volume.view_make, RootChange.apply] at here
    rcases update_eq_some here with ⟨-, same⟩ | old
    · exact .inr (Option.some.inj same).le
    · exact .inl old
  | aside other m id op there marked visible failed unrestored =>
    simp only [Volume.home, Volume.setAside, Volume.view_change, RootChange.apply] at here
    rcases update_eq_some here with ⟨-, same⟩ | old
    · cases same
    · exact .inl old
  | removeTomb | removeOwn => exact .inl (Volume.home_remove here)
  | store | syncMarker | mark | adopt | unmark | create | start => exact .inl here

/-- A directory shows no marker because it showed none, is the attempt's own,
    its operation completed, or it is removed. -/
theorem VolumeMove.marker_cases (first : a.first ≤ v.next) (bare : v'.marker d = none) :
    v.marker d = none ∨ a.first ≤ d.2 ∨ v.tomb d.1 = some d.2 ∨
      ∃ id op, v.marker d = some (.operation id) ∧ v.store.record id = some op ∧
        op.state = .completed := by
  cases move with
  | make database free =>
    by_cases same : d = (database, v.next)
    · exact .inr (.inl (by rw [same]; exact first))
    · refine .inl ?_
      simpa [Volume.marker, update_of_ne same] using bare
  | mark e id own here fresh unmarked quiet issued never =>
    by_cases same : d = e
    · rw [same, Volume.marker_setMarker] at bare
      cases bare
    · exact .inl (by simpa [Volume.marker, Volume.setMarker, Volume.dirs_onDir, same] using bare)
  | adopt e id own here issued never recorded =>
    by_cases same : d = e
    · rw [same, Volume.marker_setMarker] at bare
      cases bare
    · exact .inl (by simpa [Volume.marker, Volume.setMarker, Volume.dirs_onDir, same] using bare)
  | unmark e own =>
    by_cases same : d = e
    · subst same
      rcases own with own | completed
      · exact .inr (.inl own)
      · exact .inr (.inr (.inr completed))
    · exact .inl (by simpa [Volume.marker, Volume.setMarker, Volume.dirs_onDir, same] using bare)
  | removeTomb database n progress here =>
    by_cases same : d = (database, n)
    · exact .inr (.inr (.inl (by rw [same]; exact here)))
    · exact .inl ((Volume.marker_remove progress same).symm.trans bare)
  | removeOwn database n progress here own quiet =>
    by_cases same : d = (database, n)
    · exact .inr (.inl (by rw [same]; exact own))
    · exact .inl ((Volume.marker_remove progress same).symm.trans bare)
  | aside database n id op here marked visible failed unrestored =>
    have same : (v.harm (database, n)).marker d = v.marker d := Volume.marker_onDir rfl
    exact .inl (same.symm.trans bare)
  | syncMarker | create | start => exact .inl ((Volume.marker_onDir (by rfl)).symm.trans bare)
  | store | syncRoot | txt => exact .inl bare

theorem VolumeMove.cleared (underway : Underway a v) : a.Cleared v' := by
  intro database n asked old here bare
  have there : v.home database = some n := by
    rcases move.home_cases here with there | beyond
    · exact there
    · exact absurd (underway.first.trans beyond) (not_le.mpr old)
  have secured : v.Secured (database, n) := by
    rcases move.marker_cases underway.first bare with bare' | own | aside | ⟨id, op, marked,
      visible, done⟩
    · exact underway.cleared database n asked old there bare'
    · exact absurd own (not_le.mpr old)
    · exact absurd aside (underway.preserved.root.apart.visible database n there)
    · rcases underway.preserved.completed _ id (Volume.marker_names marked) with never | secured
      · exact absurd done (never.durable.visible op visible)
      · exact secured
  rcases move.secured underway.preserved secured with secured' | ⟨own, -, -⟩
  · exact secured'
  · exact absurd own (not_le.mpr old)

theorem VolumeMove.underway (underway : Underway a v) : Underway a v' where
  preserved :=
    { underway.preserved.toKnown.move move underway.issued with
      started := fun _ started => move.started underway started
      completed := fun _ _ named => move.completed underway.preserved named
      kept := move.kept underway.preserved }
  cleared := move.cleared underway
  issued id own := move.issued (underway.issued id own)
  first := underway.first.trans move.next

end

theorem VolumeMoves.underway (moves : VolumeMoves a v v') (underway : Underway a v) :
    Underway a v' := by
  induction moves with
  | refl => exact underway
  | tail _ move ih => exact move.underway ih

end Flags

section Events

variable {v : Volume} {cfg : Config}

theorem Preserved.underway (preserved : Preserved v) : Underway { first := v.next } v :=
  ⟨preserved, by simp [Attempt.Cleared], by simp, le_refl _⟩

theorem Preserved.read {c : StoreCall} {w : StoreWorld} (preserved : Preserved v)
    (moves : Moves c v.store.issued v.store w) (updates : ∀ id m, c ≠ .update id m)
    (settles : ∀ id e, c ≠ .settle id e) : Preserved (v.setStore w) :=
  (VolumeMove.underway (.store v c w (.read c updates settles) moves) preserved.underway).preserved

theorem Preserved.kill (preserved : Preserved v) : Preserved v.kill where
  toKnown := preserved.toKnown.kill
  started := preserved.started
  completed d id named :=
    (preserved.completed d id named).imp (fun never => ⟨never.durable, fun _ h => by cases h⟩)
      fun secured => secured
  kept := preserved.kept

theorem Volume.Secured.powerLoss {d : DirID} (secured : v.Secured d) (masks : Masks) :
    (v.powerLoss masks).Secured d :=
  (Volume.Marks.powerLoss secured masks).mono fun _ recorded id same =>
    (recorded id same).powerLoss masks.store

theorem Preserved.powerLoss (preserved : Preserved v) (masks : Masks) :
    Preserved (v.powerLoss masks) where
  toKnown := preserved.toKnown.powerLoss masks
  started d started :=
    ⟨(preserved.started d started).1.powerLoss masks,
      (preserved.started d started).2.powerLoss masks⟩
  completed d id named := by
    have before : v.Names d id := fun never => named (never.powerLoss masks)
    refine (preserved.completed d id before).imp (fun never => ⟨?_, fun _ h => by cases h⟩) ?_
    · exact never.durable.powerLoss masks.store
    · exact fun secured => secured.powerLoss masks
  kept := preserved.kept

theorem Ventured.preserved {bootstraps : Option String} {v' : Volume}
    (ventured : Ventured bootstraps v v') (preserved : Preserved v)
    (gone : ∀ database n, bootstraps = some database → v.home database = some n →
      v.marker (database, n) = none → v.Secured (database, n)) : Preserved v' := by
  cases ventured with
  | asked kind key hash database w moves => exact preserved.read moves (by simp) (by simp)
  | ran kind key hash database op w v' keyed moves created ran =>
    have found : Underway { first := v.next, bootstraps } v :=
      ⟨preserved, fun database n asked _ => gone database n asked, by simp, le_refl _⟩
    have recorded := VolumeMove.underway (.store v _ w (.read _ (by simp) (by simp)) moves) found
    have begun := begun_created preserved.toKnown moves created
    have underway : Underway (.of v op bootstraps) (v.setStore w) :=
      ⟨recorded.preserved, recorded.cleared,
        fun id own => Option.some.inj own ▸ begun.issued, le_refl _⟩
    exact (VolumeMoves.underway ran underway).preserved

theorem restorePrepare_preserved (preserved : Preserved v) (key hash : String)
    (req : RestoreRequest) :
    Ensures volumeHandler Preserved (restorePrepare cfg key hash req)
      (fun _ v' => Preserved v') v := by
  have kept : ∀ v', Ventured none v v' → Preserved v' :=
    fun v' ventured => ventured.preserved preserved (by simp)
  exact ((restorePrepare_spec preserved.toKnown key hash req).weaken kept).mono fun _ => kept

theorem haBootstrap_preserved (preserved : Preserved v) (key hash database : String)
    (gone : ∀ n, v.home database = some n → v.marker (database, n) = none →
      v.Secured (database, n)) :
    Ensures volumeHandler Preserved (haBootstrap cfg key hash database)
      (fun _ v' => Preserved v') v := by
  have kept : ∀ v', Ventured (some database) v v' → Preserved v' := fun v' ventured =>
    ventured.preserved preserved fun other n asked here => by cases asked; exact gone n here
  exact ((haBootstrap_spec preserved.toKnown key hash database).weaken kept).mono fun _ => kept

theorem startManager_preserved (preserved : Preserved v) :
    Ensures volumeHandler Preserved (startManager cfg) (fun _ v' => Preserved v') v := by
  have kept : ∀ v', VolumeMoves { first := v.next } v v' → Preserved v' :=
    fun v' moves => (moves.underway preserved.underway).preserved
  exact ((startManager_spec preserved.sound .refl).weaken kept).mono fun _ => kept

theorem poll_preserved (preserved : Preserved v) (id : OperationID) :
    Ensures volumeHandler Preserved (manage (.store (.get id))) (fun _ v' => Preserved v') v :=
  manage_store preserved.sound preserved (fun _ moves => preserved.read moves (by simp) (by simp))
    fun _ _ moves _ => preserved.read moves (by simp) (by simp)

end Events

namespace MemberState

/-- Where a bootstrap finds no marker, every marker that a power loss could
    bring back is of restored data durably on record. -/
def MarkersGone (s : MemberState) : MemberEvent → Prop
  | .bootstrap _ _ database _ => ∀ n, s.volume.home database = some n →
      s.volume.marker (database, n) = none → s.volume.Secured (database, n)
  | _ => True

instance decidableRecorded (w : StoreWorld) : DecidablePred fun m : Option Marker =>
    ∀ id, m = some (.operation id) → w.Durably id RestoredOp
  | some (.operation id) =>
    decidable_of_iff (w.dir.Always RecordChange.apply fun r => RestoredOp (r id))
    ⟨fun holds k same => by cases same; exact holds, fun holds => holds id rfl⟩
  | some (.other text) => isTrue fun _ same => by cases same
  | none => isTrue fun _ same => by cases same

instance decidableSecured (v : Volume) (d : DirID) : Decidable (v.Secured d) :=
  @Journal.decidableAlways _ _ overwrite (v.dirs d).marker _ (decidableRecorded v.store)

instance decidableMarkersGone (s : MemberState) : (e : MemberEvent) → Decidable (s.MarkersGone e)
  | .bootstrap _ _ database _ =>
    match here : s.volume.home database with
    | none => isTrue fun n there => by rw [here] at there; cases there
    | some n =>
      decidable_of_iff (s.volume.marker (database, n) = none → s.volume.Secured (database, n))
        ⟨fun holds m there => by rw [here] at there; cases there; exact holds,
          fun holds => holds n here⟩
  | .start _ | .restore _ _ _ _ | .poll _ _ | .kill | .powerLoss _ => isTrue trivial

theorem step_preserved {cfg : Config} (s : MemberState) (e : MemberEvent) (gone : s.MarkersGone e)
    (preserved : Preserved s.volume) : Preserved (s.step cfg e).volume := by
  refine step_ensured (fun _ => Preserved.kill) (fun _ masks holds => holds.powerLoss masks)
    (fun _ => startManager_preserved) (fun _ id holds => poll_preserved holds id)
    (restorePrepare_preserved preserved) ?_ preserved
  rintro key hash database choices rfl
  exact haBootstrap_preserved preserved key hash database gone

theorem preserved_init : Preserved ({} : MemberState).volume where
  toKnown := known_init
  started d h := by cases h
  completed d id named := by
    refine absurd (fun changes part same => ?_) named
    rw [sublist_nil.mp part] at same
    cases same
  kept _ := rfl

/-- Over any run in which markers that are gone stay gone, nothing is removed of
    a directory that was started, and it is not moved aside. -/
theorem started_data_kept (cfg : Config) (events : List MemberEvent)
    (gone : Along cfg MarkersGone {} events) (d : DirID) :
    ((run cfg {} events).volume.dirs d).lost = false :=
  (runEvents_invariant (Preserved ·.volume) step_preserved events preserved_init gone).kept d

def firstBootstrap (sync : VolumeChoice) : List VolumeChoice :=
  calmly.take 15 ++ { wrote := some "demo\t/db/demo\thost".toList } :: {} :: {} :: sync :: calmly

def bootstrappedTwice : List MemberEvent :=
  [.start calmly, .bootstrap "first" "h" "demo" (firstBootstrap {}), .powerLoss { root := [true] },
   .start calmly, .bootstrap "second" "h" "demo" calmly, .bootstrap "third" "h" "demo" calmly]

theorem bootstrappedTwice_kept :
    Along member MarkersGone {} bootstrappedTwice ∧
      ((run member {} bootstrappedTwice).volume.dirs ("demo", 0)).started = true ∧
      ((run member {} bootstrappedTwice).volume.dirs ("demo", 0)).lost = false :=
  ⟨by decide +kernel, by decide +kernel,
    started_data_kept member bootstrappedTwice (by decide +kernel) _⟩

/-- The removal of a marker is not synced, the next bootstrap starts the
    unmarked database, and a power loss brings the marker back. -/
def markerBrought : List MemberEvent :=
  [.start calmly, .bootstrap "first" "h" "demo"
    (firstBootstrap { fault := some "input/output error" }),
   .bootstrap "second" "h" "demo" calmly, .powerLoss { root := [true] },
   .start calmly, .bootstrap "third" "h" "demo" calmly]

theorem bootstrap_removes_started_data :
    ((run member {} markerBrought).volume.dirs ("demo", 0)).started = true ∧
      ((run member {} markerBrought).volume.dirs ("demo", 0)).lost = true := by
  decide +kernel

end MemberState
end InstanceManager
