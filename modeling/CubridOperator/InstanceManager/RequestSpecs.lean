import CubridOperator.InstanceManager.RunnerSpecs

/-!
What a whole request does: it asks the store for an operation, and makes only
the moves of its attempt.
-/
namespace InstanceManager
open Foundation Program Relation Function List Option Nat

namespace Volume

variable {v : Volume} {P : RootState → Prop}

theorem Root.visible (always : v.Root P) : P v.view := Journal.Always.view always

theorem Root.mono {Q : RootState → Prop} (always : v.Root P) (implies : ∀ s, P s → Q s) :
    v.Root Q :=
  Journal.Always.mono always implies

theorem root_push (c : RootChange) :
    (v.change c).Root P ↔ v.Root P ∧ v.Root fun s => P (c.apply s) :=
  Journal.always_push

theorem root_sync : v.syncRoot.Root P ↔ P v.view := Journal.always_sync

theorem root_enter {database : String} :
    (v.make database).Root P ↔ v.Root P ∧ v.Root fun s =>
    P ((RootChange.enter database v.next).apply s) :=
  Journal.always_push

theorem Root.remove {name : RootName} {n : Nat} (always : v.Root P)
    (drops : ∀ s, P s → P ((RootChange.drop name).apply s)) (progress : Removal) :
    (v.remove name n progress).Root P := by
  rcases progress with _ | (_ | _) | _
  · exact always
  · exact always
  · exact always
  · exact (root_push _).mpr ⟨always, always.mono drops⟩

end Volume

/-- Whatever a power loss leaves of the database root, its entries are known
    directories, and none stands under two names. -/
structure RootSound (v : Volume) : Prop where
  bounded : v.Root fun s => ∀ database n, s.home database = some n ∨
    s.tomb database = some n → n < v.next
  apart : v.Root fun s => ∀ database n, s.home database = some n → s.tomb database ≠ some n
  settled : ∀ database n, v.home database = some n → v.Root fun s => s.tomb database ≠ some n

section Root

variable {a : Attempt} {v v' : Volume}

theorem update_eq_some {f : String → Option Nat} {key k : String} {value : Option Nat} {n : Nat}
    (h : Function.update f key value k = some n) : k = key ∧ value = some n ∨ f k = some n := by
  by_cases same : k = key
  · subst same
    rw [update_self] at h
    exact .inl ⟨rfl, h⟩
  · rw [update_of_ne same] at h
    exact .inr h

theorem RootSound.txt (sound : RootSound v) (text : Option Text) :
    RootSound (v.change (.txt text)) := by
  refine ⟨(Volume.root_push _).mpr ⟨sound.bounded, sound.bounded⟩,
    (Volume.root_push _).mpr ⟨sound.apart, sound.apart⟩, fun database n here => ?_⟩
  have there : v.home database = some n := by
    simpa [Volume.home, RootChange.apply] using here
  exact (Volume.root_push _).mpr ⟨sound.settled database n there, sound.settled database n there⟩

theorem RootSound.make (sound : RootSound v) (database : String) : RootSound (v.make database) := by
  refine ⟨Volume.root_enter.mpr ⟨?_, ?_⟩, Volume.root_enter.mpr ⟨sound.apart, ?_⟩,
    fun other n here => ?_⟩
  · exact sound.bounded.mono fun s bound k n h => lt_succ_of_lt (bound k n h)
  · refine sound.bounded.mono fun s bound k n h => ?_
    rcases h with h | h
    · rcases update_eq_some h with ⟨-, same⟩ | old
      · rw [← some.inj same]
        exact lt_succ_self _
      · exact lt_succ_of_lt (bound k n (.inl old))
    · exact lt_succ_of_lt (bound k n (.inr h))
  · have both : v.Root fun s => (∀ k n, s.home k = some n ∨ s.tomb k = some n → n < v.next) ∧
        ∀ k n, s.home k = some n → s.tomb k ≠ some n :=
      fun changes part => ⟨sound.bounded changes part, sound.apart changes part⟩
    refine both.mono fun s facts k n h aside => ?_
    rcases update_eq_some h with ⟨-, same⟩ | old
    · have := facts.1 k n (.inr aside)
      rw [← some.inj same] at this
      exact lt_irrefl _ this
    · exact facts.2 k n old aside
  · simp only [Volume.home, Volume.view_make, RootChange.apply] at here
    have tombs : v.Root fun s => s.tomb other ≠ some n := by
      rcases update_eq_some here with ⟨-, same⟩ | old
      · refine sound.bounded.mono fun s bound aside => ?_
        have := bound other n (.inr aside)
        rw [← some.inj same] at this
        exact lt_irrefl _ this
      · exact sound.settled other n old
    exact Volume.root_enter.mpr ⟨tombs, tombs⟩

theorem RootSound.setAside (sound : RootSound v) {database : String} {n : Nat}
    (here : v.home database = some n) : RootSound (v.setAside database n) := by
  have known : n < v.next := sound.bounded.visible database n (.inl here)
  refine ⟨(Volume.root_push _).mpr ⟨sound.bounded, ?_⟩,
    (Volume.root_push _).mpr ⟨sound.apart, ?_⟩, ?_⟩
  · refine sound.bounded.mono fun s bound k m h => ?_
    rcases h with h | h
    · rcases update_eq_some h with ⟨-, same⟩ | old
      · cases same
      · exact bound k m (.inl old)
    · rcases update_eq_some h with ⟨-, same⟩ | old
      · exact some.inj same ▸ known
      · exact bound k m (.inr old)
  · refine sound.apart.mono fun s apart k m h aside => ?_
    rcases update_eq_some h with ⟨-, same⟩ | old
    · cases same
    · rcases update_eq_some aside with ⟨rfl, -⟩ | old'
      · simp [RootChange.apply] at h
      · exact apart k m old old'
  · intro k m h
    have differs : k ≠ database := by
      rintro rfl
      simp [Volume.home, Volume.setAside, RootChange.apply] at h
    have there : v.home k = some m := by
      simpa [Volume.home, Volume.setAside, RootChange.apply, Volume.harm, differs] using h
    have after : v.Root fun s => ((RootChange.aside database n).apply s).tomb k ≠ some m := by
      simpa [RootChange.apply, update_of_ne differs] using sound.settled k m there
    exact (Volume.root_push _).mpr ⟨sound.settled k m there, after⟩

theorem drop_entries (name : RootName) (s : RootState) (k : String) (m : Nat) :
    (((RootChange.drop name).apply s).home k = some m → s.home k = some m) ∧
      (((RootChange.drop name).apply s).tomb k = some m → s.tomb k = some m) := by
  cases name with
  | home database =>
    refine ⟨fun h => ?_, id⟩
    rcases update_eq_some h with ⟨-, same⟩ | old
    · cases same
    · exact old
  | tomb database =>
    refine ⟨id, fun h => ?_⟩
    rcases update_eq_some h with ⟨-, same⟩ | old
    · cases same
    · exact old

theorem Volume.home_remove {name : RootName} {n m : Nat} {progress : Removal} {k : String}
    (here : (v.remove name n progress).home k = some m) : v.home k = some m := by
  rcases progress with _ | (_ | _) | _
  · exact here
  · exact here
  · exact here
  · refine (drop_entries name v.view k m).1 ?_
    simpa [Volume.home, Volume.remove, Volume.setMarker, Volume.harm] using here

theorem RootSound.remove (sound : RootSound v) (name : RootName) (n : Nat) (progress : Removal) :
    RootSound (v.remove name n progress) := by
  have fewer := drop_entries name
  refine ⟨?_, ?_, fun k m h => ?_⟩
  · rw [Volume.next_remove]
    exact sound.bounded.remove
      (fun s bound k m h => bound k m (h.imp (fewer s k m).1 (fewer s k m).2)) progress
  · exact sound.apart.remove
      (fun s apart k m h aside => apart k m ((fewer s k m).1 h) ((fewer s k m).2 aside)) progress
  · exact (sound.settled k m (Volume.home_remove h)).remove
      (fun s other aside => other ((fewer s k m).2 aside)) progress

theorem VolumeMove.rootSound (move : VolumeMove a v v') (sound : RootSound v) : RootSound v' := by
  cases move with
  | syncRoot =>
    refine ⟨Volume.root_sync.mpr sound.bounded.visible,
      Volume.root_sync.mpr sound.apart.visible, ?_⟩
    intro database n here
    have there : v.home database = some n := by simpa [Volume.home] using here
    exact Volume.root_sync.mpr (sound.apart.visible database n there)
  | txt text => exact sound.txt text
  | make database free => exact sound.make database
  | aside database n id op here => exact sound.setAside here
  | removeTomb database n progress here | removeOwn database n progress here =>
    exact sound.remove _ n progress
  | store | syncMarker | mark | adopt | unmark | create | start =>
    exact ⟨sound.bounded, sound.apart, sound.settled⟩

end Root

/-- What the requests give, beyond what the calls on the root give to any
    program: records, ends kept and markers are of issued operations. -/
structure Recorded (v : Volume) : Prop where
  sound : v.store.Sound
  memory : v.store.MemorySound
  named : ∀ d, v.Marks d fun m => ∀ id, m = some (.operation id) → id ∈ v.store.issued

structure Known (v : Volume) : Prop extends Recorded v where
  root : RootSound v

section Known

variable {a : Attempt} {v v' : Volume} {d : DirID}

theorem VolumeMove.marks {P : Option Marker → Prop} (move : VolumeMove a v v') (marks : v.Marks d P)
    (bare : P none)
    (marked : ∀ id, a.owner = some id → id ∈ v.store.issued → NeverCompleted v.store id →
      (a.first ≤ d.2 ∧ (v.dirs d).started = false ∧ v.Marks d (· = none) ∨
        v.store.Durably id RestoredOp) → v'.store = v.store → P (some (.operation id))) :
    v'.Marks d P := by
  cases move with
  | syncMarker e => exact marks.syncMarker
  | make database free =>
    rw [Volume.marks_make]
    split
    · exact bare
    · exact marks
  | mark e id own here fresh unmarked quiet issued never =>
    refine (Volume.marks_setMarker _).mpr ⟨marks, ?_⟩
    rintro rfl
    exact marked id own issued never (.inl ⟨fresh, quiet, unmarked⟩) rfl
  | adopt e id own here issued never recorded =>
    refine (Volume.marks_setMarker _).mpr ⟨marks, ?_⟩
    rintro rfl
    exact marked id own issued never (.inr recorded) rfl
  | unmark e own => exact (Volume.marks_setMarker none).mpr ⟨marks, fun _ => bare⟩
  | aside database n id op here marked' visible failed unrestored => simpa using marks
  | removeTomb database n progress here | removeOwn database n progress here own quiet =>
    exact marks.remove bare progress
  | create | start => simpa using marks
  | store | syncRoot | txt => exact marks

theorem VolumeMove.issued (move : VolumeMove a v v') {id : OperationID}
    (old : id ∈ v.store.issued) : id ∈ v'.store.issued := by
  rcases move.store_cases with same | ⟨c, w, -, moves, rfl⟩
  · rw [same]
    exact old
  · exact moves.issued old

theorem VolumeMove.namedIssued (move : VolumeMove a v v') (known : Known v) (d : DirID) :
    v'.Marks d fun m => ∀ id, m = some (.operation id) → id ∈ v'.store.issued := by
  have before : v.Marks d fun m => ∀ id, m = some (.operation id) → id ∈ v'.store.issued :=
    (known.named d).mono fun m named id same => move.issued (named id same)
  refine move.marks before (by simp) fun id _ issued _ _ _ k marked => ?_
  cases marked
  exact move.issued issued

theorem VolumeMove.memory (move : VolumeMove a v v') (known : Known v)
    (issued : ∀ id, a.owner = some id → id ∈ v.store.issued) :
    v'.store.MemorySound := by
  rcases move.store_cases with same | ⟨c, w, asked, moves, rfl⟩
  · rw [same]
    exact known.memory
  · refine moves.memorySound ?_ known.memory
    rintro id e rfl
    cases asked with
    | read _ updates settles => exact absurd rfl (settles _ _)
    | failed _ _ own | completed _ _ own => exact issued id own

theorem Known.move (known : Known v) (move : VolumeMove a v v')
    (issued : ∀ id, a.owner = some id → id ∈ v.store.issued) : Known v' where
  root := move.rootSound known.root
  sound := VolumeMoves.sound (.single move) known.sound
  memory := move.memory known issued
  named := move.namedIssued known

theorem VolumeMoves.issued (moves : VolumeMoves a v v') {id : OperationID}
    (old : id ∈ v.store.issued) : id ∈ v'.store.issued := by
  induction moves with
  | refl => exact old
  | tail _ move ih => exact move.issued ih

theorem Known.moves (known : Known v) (moves : VolumeMoves a v v')
    (issued : ∀ id, a.owner = some id → id ∈ v.store.issued) : Known v' := by
  induction moves with
  | refl => exact known
  | tail reach move ih => exact ih.move move fun id own => VolumeMoves.issued reach (issued id own)

theorem Known.read {c : StoreCall} {w : StoreWorld} (known : Known v)
    (moves : Moves c v.store.issued v.store w) (updates : ∀ id m, c ≠ .update id m)
    (settles : ∀ id e, c ≠ .settle id e) : Known (v.setStore w) :=
  known.move (a := { first := v.next }) (.store v c w (.read c updates settles) moves) (by simp)

theorem Known.kill (known : Known v) : Known v.kill :=
  ⟨⟨known.sound.kill, memorySound_kill v.store, known.named⟩,
    ⟨known.root.bounded, known.root.apart, known.root.settled⟩⟩

theorem Volume.Marks.powerLoss {d : DirID} {P : Option Marker → Prop} (marks : v.Marks d P)
    (masks : Masks) : (v.powerLoss masks).Marks d P :=
  Journal.Always.powerLoss marks (masks.markers d)

theorem Volume.Root.powerLoss {P : RootState → Prop} (always : v.Root P) (masks : Masks) :
    (v.powerLoss masks).Root P := Journal.Always.powerLoss always masks.root

theorem Volume.root_powerLoss {P : RootState → Prop} {masks : Masks} :
    (v.powerLoss masks).Root P ↔ P (v.powerLoss masks).view := by
  refine ⟨Volume.Root.visible, fun holds changes part => ?_⟩
  rw [sublist_nil.mp part]
  exact holds

theorem Known.powerLoss (known : Known v) (masks : Masks) : Known (v.powerLoss masks) where
  root := by
    refine ⟨known.root.bounded.powerLoss masks, known.root.apart.powerLoss masks, ?_⟩
    intro database n here
    exact Volume.root_powerLoss.mpr ((known.root.apart.powerLoss masks).visible database n here)
  sound := known.sound.powerLoss masks.store
  memory := memorySound_kill (v.store.powerLoss masks.store)
  named d := (known.named d).powerLoss masks

end Known

section Requests

variable {v : Volume} {cfg : Config}

theorem begun_created {kind : OperationKind} {key hash database : String} {op : Operation}
    {w : StoreWorld} (known : Known v)
    (moves : Moves (.findOrCreate kind key hash database) v.store.issued v.store w)
    (holds : StoreReply.Holds (.findOrCreate kind key hash database) v.store w (.created op)) :
    Begun (v.setStore w) op.id := by
  obtain ⟨kind', key', hash', database', w₁, -, shape, unused, -, -, -, rfl⟩ := holds
  have visible : (w₁.change (.put op)).sync.record op.id = some op := by simp
  refine ⟨((moves.sound known.sound).named visible).2, ⟨?_, fun artifact held => ?_⟩, fun d => ?_⟩
  · rw [Volume.store_setStore, StoreWorld.durably_sync, StoreWorld.record_put, update_self]
    rintro _ ⟨⟩ done
    rw [shape] at done
    cases done
  · have before : ∀ w' e, Moves (.findOrCreate kind key hash database) v.store.issued v.store w' →
        w'.memory.keptEnd op.id = some e → op.id ∈ v.store.issued := by
      intro w' e reach kept
      clear moves visible held
      induction reach with
      | refl => exact known.memory.kept op.id (by simp [kept])
      | tail _ move ih =>
        rcases move.keptEnd_cases kept with old | asked
        · exact ih old
        · cases asked
    exact unused (before _ _ moves held)
  · exact (known.named d).mono fun m named same => unused (named op.id same)

def Attempt.of (v : Volume) (op : Operation) (bootstraps : Option String) : Attempt :=
  { owner := some op.id, first := v.next, bootstraps }

/-- The request has asked the store for an operation, or its attempt runs for
    the one that was created. -/
inductive Ventured (bootstraps : Option String) (v : Volume) : Volume → Prop
  | asked (kind key hash database w)
      (moves : Moves (.findOrCreate kind key hash database) v.store.issued v.store w) :
      Ventured bootstraps v (v.setStore w)
  | ran (kind key hash database op w v') (keyed : key ≠ "")
      (moves : Moves (.findOrCreate kind key hash database) v.store.issued v.store w)
      (created : StoreReply.Holds (.findOrCreate kind key hash database) v.store w (.created op))
      (ran : VolumeMoves (.of v op bootstraps) (v.setStore w) v') : Ventured bootstraps v v'

theorem startOperation_spec {kind : OperationKind} {key hash database : String}
    {runner : OperationID → ManagerM Unit} {bootstraps : Option String} (known : Known v)
    (runs : ∀ op w, Known (v.setStore w) → Begun (v.setStore w) op.id →
      Ensures volumeHandler (VolumeMoves (.of v op bootstraps) (v.setStore w)) (runner op.id)
        (fun _ v' => VolumeMoves (.of v op bootstraps) (v.setStore w) v') (v.setStore w)) :
    Ensures volumeHandler (Ventured bootstraps v) (startOperation kind key hash database runner)
      (fun _ v' => Ventured bootstraps v v') v := by
  have here : Ventured bootstraps v v := .asked kind key hash database v.store .refl
  unfold startOperation
  split
  · exact here
  rename_i keyed
  refine ensures_bind.mpr (manage_ask here (fun _ => rfl) fun answer => ?_)
  rcases answer with e | _
  · exact here
  refine ensures_bind.mpr (manage_store known.sound here (fun w => .asked kind key hash database w)
    fun w reply moves holds => ?_)
  have there : Ventured bootstraps v (v.setStore w) := .asked kind key hash database w moves
  have ended : ∀ v', Ventured bootstraps v v' → ∀ answer : Except (Nat × String) Operation,
      Ensures volumeHandler (Ventured bootstraps v) (do manage .endOperation; pure answer)
        (fun _ v'' => Ventured bootstraps v v'') v' :=
    fun v' safe _ => ensures_bind.mpr (manage_ask safe (fun _ => rfl) fun _ => safe)
  rcases reply with e | op | (_ | ⟨op, _ | _⟩) | op | _
  · exact ended _ there _
  · have far : ∀ v', VolumeMoves (.of v op bootstraps) (v.setStore w) v' →
        Ventured bootstraps v v' :=
      fun v' => .ran kind key hash database op w v' keyed moves holds
    have ran := runs op w (known.read moves (by simp) (by simp)) (begun_created known moves holds)
    exact (ran.weaken far).bind fun _ v' moved => ended v' (far v' moved) _
  · exact ended _ there _
  · exact ended _ there _
  · exact ended _ there _
  · exact ended _ there _
  · exact ended _ there _

theorem restorePrepare_spec (known : Known v) (key hash : String) (req : RestoreRequest) :
    Ensures volumeHandler (Ventured none v) (restorePrepare cfg key hash req)
      (fun _ v' => Ventured none v v') v := by
  unfold restorePrepare
  split
  · exact .asked .restore key hash req.database v.store .refl
  · exact startOperation_spec known fun op w recorded begun =>
      runRestore_spec rfl recorded.sound (le_refl _) begun .refl

theorem haBootstrap_spec (known : Known v) (key hash database : String) :
    Ensures volumeHandler (Ventured (some database) v) (haBootstrap cfg key hash database)
      (fun _ v' => Ventured (some database) v v') v := by
  have here : Ventured (some database) v v := .asked .haBootstrap key hash database v.store .refl
  unfold haBootstrap
  split
  · exact here
  split
  · exact here
  refine startOperation_spec known fun op w recorded begun => ?_
  have bounded : ∀ v' n, VolumeMoves (Attempt.of v op (some database)).quiet (v.setStore w) v' →
      v'.home database = some n → n < v'.next := fun v' n quiet here =>
    (recorded.moves quiet (by simp [Attempt.quiet])).root.bounded.visible database n (.inl here)
  exact runHABootstrap_spec rfl rfl recorded.sound rfl bounded begun .refl

theorem Ventured.known {bootstraps : Option String} {v' : Volume}
    (ventured : Ventured bootstraps v v') (known : Known v) : Known v' := by
  cases ventured with
  | asked kind key hash database w moves => exact known.read moves (by simp) (by simp)
  | ran kind key hash database op w v' keyed moves created ran =>
    refine (known.read moves (by simp) (by simp)).moves ran fun id own => ?_
    exact some.inj own ▸ (begun_created known moves created).issued

theorem startManager_known (known : Known v) :
    Ensures volumeHandler Known (startManager cfg) (fun _ v' => Known v') v := by
  have kept : ∀ v', VolumeMoves { first := v.next } v v' → Known v' :=
    fun v' moves => known.moves moves (by simp)
  exact ((startManager_spec (a := { first := v.next }) known.sound .refl).weaken kept).mono
    fun _ => kept

end Requests

namespace MemberState

theorem known_init : Known ({} : MemberState).volume where
  root := by
    have empty : ∀ P : RootState → Prop, P {} → (({} : MemberState).volume).Root P := by
      intro P holds changes part
      rw [sublist_nil.mp part]
      exact holds
    exact ⟨empty _ (by simp), empty _ (by simp), fun _ _ h => by cases h⟩
  sound := StoreWorld.sound_empty
  memory := memorySound_kill {}
  named d changes part id same := by
    rw [sublist_nil.mp part] at same
    cases same

theorem after_ensured {Inv : Volume → Prop} {α : Type} {p : ManagerM α} {up : α → Bool} {v : Volume}
    (kill : ∀ v', Inv v' → Inv v'.kill) (holds : Ensures volumeHandler Inv p (fun _ v' => Inv v') v)
    (choices : List VolumeChoice) : Inv (after up (p.run volumeHandler v choices)).volume := by
  have truth := run_ensures holds choices
  generalize p.run volumeHandler v choices = result at truth ⊢
  obtain ⟨v', _ | x⟩ := result
  · exact kill v' truth
  · unfold after
    dsimp only
    split
    · exact truth
    · exact kill v' truth

/-- What every request, manager start, poll, kill and power loss keeps is kept
    by every event. -/
theorem step_ensured {cfg : Config} {Inv : Volume → Prop} {s : MemberState} {e : MemberEvent}
    (kill : ∀ v, Inv v → Inv v.kill) (powerLoss : ∀ v masks, Inv v → Inv (v.powerLoss masks))
    (start : ∀ v, Inv v → Ensures volumeHandler Inv (startManager cfg) (fun _ v' => Inv v') v)
    (poll : ∀ v id, Inv v → Ensures volumeHandler Inv (manage (.store (.get id)))
      (fun _ v' => Inv v') v)
    (restore : ∀ key hash req, Ensures volumeHandler Inv (restorePrepare cfg key hash req)
      (fun _ v' => Inv v') s.volume)
    (bootstrap : ∀ key hash database choices, e = .bootstrap key hash database choices →
      Ensures volumeHandler Inv (haBootstrap cfg key hash database) (fun _ v' => Inv v') s.volume)
    (holds : Inv s.volume) : Inv (s.step cfg e).volume := by
  cases e with
  | start choices =>
    simp only [step]
    split
    · exact holds
    · exact after_ensured kill (start _ holds) choices
  | restore key hash req choices =>
    simp only [step]
    split
    · exact after_ensured kill (restore key hash req) choices
    · exact holds
  | bootstrap key hash database choices =>
    simp only [step]
    split
    · exact after_ensured kill (bootstrap key hash database choices rfl) choices
    · exact holds
  | poll id choices =>
    simp only [step]
    split
    · exact after_ensured kill (poll _ id holds) choices
    · exact holds
  | kill => exact kill _ holds
  | powerLoss masks => exact kill _ (powerLoss _ masks holds)

theorem step_known {cfg : Config} {s : MemberState} (e : MemberEvent) (known : Known s.volume) :
    Known (s.step cfg e).volume := by
  refine step_ensured (fun _ => Known.kill) (fun _ masks holds => holds.powerLoss masks)
    (fun _ => startManager_known) ?_ ?_ ?_ known
  · exact fun v id holds => manage_store holds.sound holds
      (fun _ moves => holds.read moves (by simp) (by simp))
      fun _ _ moves _ => holds.read moves (by simp) (by simp)
  · intro key hash req
    have kept : ∀ v', Ventured none s.volume v' → Known v' := fun _ far => far.known known
    exact ((restorePrepare_spec known key hash req).weaken kept).mono fun _ => kept
  · intro key hash database _ _
    have kept : ∀ v', Ventured (some database) s.volume v' → Known v' :=
      fun _ far => far.known known
    exact ((haBootstrap_spec known key hash database).weaken kept).mono fun _ => kept

theorem run_known (cfg : Config) {s : MemberState} (events : List MemberEvent)
    (known : Known s.volume) : Known (s.run cfg events).volume :=
  runEvents_kept (fun s : MemberState => Known s.volume) (fun _ e => step_known e) events known

/-- Whatever requests, restarts, kills and power losses a member has been
    through: what a further power loss can leave of its volume is well formed,
    and its markers name operations that were issued. -/
theorem member_volume_is_sound (cfg : Config) (events : List MemberEvent) :
    RootSound (run cfg {} events).volume ∧ Recorded (run cfg {} events).volume := by
  have known : Known (run cfg {} events).volume := run_known cfg events known_init
  exact ⟨known.root, known.toRecorded⟩

end MemberState
end InstanceManager
