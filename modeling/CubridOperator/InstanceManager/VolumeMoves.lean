import CubridOperator.InstanceManager.MemberRuns

/-!
What an operation may do to the volume, one change at a time, each with what its
runner knows.
-/
namespace InstanceManager
open Foundation Program Relation

abbrev RestoredOp (r : Option Operation) : Prop := ∃ op, r = some op ∧ op.restored.isSome = true

instance decidableRestoredOp : DecidablePred RestoredOp
  | none => isFalse fun ⟨_, found, _⟩ => by cases found
  | some op => decidable_of_iff (op.restored.isSome = true)
    ⟨fun restored => ⟨op, rfl, restored⟩, fun ⟨_, found, restored⟩ =>
      Option.some.inj found ▸ restored⟩

namespace Volume

def Root (v : Volume) (P : RootState → Prop) : Prop := v.root.Always RootChange.apply P

/-- `P` holds of the marker of the directory whatever a power loss now leaves. -/
def Marks (v : Volume) (d : DirID) (P : Option Marker → Prop) : Prop :=
  (v.dirs d).marker.Always overwrite P

/-- A power loss now may leave the operation's marker on the directory. -/
def Names (v : Volume) (d : DirID) (id : OperationID) : Prop :=
  ¬v.Marks d (· ≠ some (.operation id))

/-- Every marker that a power loss may leave names an operation whose restored
    data is durably on record. -/
def Secured (v : Volume) (d : DirID) : Prop :=
  v.Marks d fun m => ∀ id, m = some (.operation id) → v.store.Durably id RestoredOp

section Fields

variable (v : Volume) (d e : DirID) (c : RootChange) (f : Directory → Directory) (m : Option Marker)
  (w : StoreWorld) (database : String) (n : Nat)

@[simp] theorem view_change : (v.change c).view = c.apply v.view := by simp [view, change]

@[simp] theorem view_onDir : (v.onDir d f).view = v.view := rfl

@[simp] theorem view_setStore : (v.setStore w).view = v.view := rfl

@[simp] theorem view_syncRoot : v.syncRoot.view = v.view := by simp [view, syncRoot]

@[simp] theorem view_make :
    (v.make database).view = (RootChange.enter database v.next).apply v.view := by
  simp [view, make, change]

@[simp] theorem dirs_change : (v.change c).dirs = v.dirs := rfl

@[simp] theorem dirs_syncRoot : v.syncRoot.dirs = v.dirs := rfl

@[simp] theorem dirs_setStore : (v.setStore w).dirs = v.dirs := rfl

@[simp] theorem dirs_make : (v.make database).dirs = Function.update v.dirs (database, v.next) {} :=
  rfl

theorem dirs_onDir : (v.onDir d f).dirs e = if e = d then f (v.dirs d) else v.dirs e := by
  by_cases same : e = d
  · subst same
    simp [onDir]
  · simp [onDir, same]

@[simp] theorem store_change : (v.change c).store = v.store := rfl

@[simp] theorem store_onDir : (v.onDir d f).store = v.store := rfl

@[simp] theorem store_setStore : (v.setStore w).store = w := rfl

@[simp] theorem store_syncRoot : v.syncRoot.store = v.store := rfl

@[simp] theorem store_make : (v.make database).store = v.store := rfl

@[simp] theorem next_change : (v.change c).next = v.next := rfl

@[simp] theorem next_onDir : (v.onDir d f).next = v.next := rfl

@[simp] theorem next_setStore : (v.setStore w).next = v.next := rfl

@[simp] theorem next_syncRoot : v.syncRoot.next = v.next := rfl

@[simp] theorem next_make : (v.make database).next = v.next + 1 := rfl

@[simp] theorem root_onDir : (v.onDir d f).root = v.root := rfl

@[simp] theorem root_setStore : (v.setStore w).root = v.root := rfl

@[simp] theorem root_change : (v.change c).root = v.root.push c := rfl

@[simp] theorem root_syncRoot : v.syncRoot.root = v.root.sync RootChange.apply := rfl

@[simp] theorem root_make : (v.make database).root = v.root.push (.enter database v.next) := rfl

@[simp] theorem store_remove (name : RootName) (progress : Removal) :
    (v.remove name n progress).store = v.store := by
  rcases progress with _ | (_ | _) | _ <;> rfl

@[simp] theorem next_remove (name : RootName) (progress : Removal) :
    (v.remove name n progress).next = v.next := by
  rcases progress with _ | (_ | _) | _ <;> rfl

end Fields

variable {v : Volume} {d e : DirID} {P Q : Option Marker → Prop} {f : Directory → Directory}

theorem marks_onDir (same : ∀ dir, (f dir).marker = dir.marker) :
    (v.onDir d f).Marks e P ↔ v.Marks e P := by
  simp only [Marks, dirs_onDir]
  split
  · rename_i here
    rw [same, here]
  · exact Iff.rfl

@[simp] theorem marks_harm : (v.harm d).Marks e P ↔ v.Marks e P := marks_onDir fun _ => rfl

@[simp] theorem marks_start : (v.start d).Marks e P ↔ v.Marks e P := marks_onDir fun _ => rfl

@[simp] theorem marks_create : (v.create d).Marks e P ↔ v.Marks e P := marks_onDir fun _ => rfl

@[simp] theorem marks_change (c : RootChange) : (v.change c).Marks e P ↔ v.Marks e P := Iff.rfl

@[simp] theorem marks_setAside {database : String} {n : Nat} :
    (v.setAside database n).Marks e P ↔ v.Marks e P := by
  simp [setAside]

theorem marks_make {database : String} :
    (v.make database).Marks e P ↔ if e = (database, v.next) then P none else v.Marks e P := by
  by_cases same : e = (database, v.next)
  · subst same
    simp only [Marks, dirs_make, Function.update_self, if_pos]
    refine ⟨fun marks => marks.view, fun holds changes part => ?_⟩
    rw [List.sublist_nil.mp part]
    exact holds
  · simp [Marks, same]

theorem Marks.visible (marks : v.Marks d P) : P (v.marker d) := Journal.Always.view marks

theorem Marks.mono (marks : v.Marks d P) (implies : ∀ m, P m → Q m) : v.Marks d Q :=
  Journal.Always.mono marks implies

@[simp] theorem marker_setMarker (m : Option Marker) : (v.setMarker d m).marker d = m := by
  simp [marker, setMarker, dirs_onDir, overwrite]

theorem marks_setMarker (m : Option Marker) :
    (v.setMarker d m).Marks e P ↔ v.Marks e P ∧ (e = d → P m) := by
  by_cases same : e = d
  · subst same
    simp [Marks, setMarker, dirs_onDir, Journal.always_push, overwrite]
  · simp [Marks, setMarker, dirs_onDir, same]

theorem marks_syncMarker :
    (v.syncMarker d).Marks e P ↔ if e = d then P (v.marker d) else v.Marks e P := by
  by_cases same : e = d
  · subst same
    simp [Marks, syncMarker, dirs_onDir, marker]
  · simp [Marks, syncMarker, dirs_onDir, same]

theorem Marks.syncMarker (marks : v.Marks e P) : (v.syncMarker d).Marks e P := by
  rw [marks_syncMarker]
  split
  · rename_i same
    exact same ▸ marks.visible
  · exact marks

theorem Marks.remove {name : RootName} {n : Nat} (marks : v.Marks e P) (bare : P none)
    (progress : Removal) : (v.remove name n progress).Marks e P := by
  have touched : ((v.harm (name.database, n)).setMarker (name.database, n) none).Marks e P :=
    (marks_setMarker none).mpr ⟨marks_harm.mpr marks, fun _ => bare⟩
  rcases progress with _ | (_ | _) | _
  · exact marks
  · exact marks_harm.mpr marks
  · exact touched
  · exact touched

theorem dirs_onDir_field {α : Type} (field : Directory → α)
    (same : field (f (v.dirs d)) = field (v.dirs d)) :
    field ((v.onDir d f).dirs e) = field (v.dirs e) := by
  rw [dirs_onDir]
  split
  · rename_i here
    rw [same, here]
  · rfl

theorem marker_onDir (same : (f (v.dirs d)).marker.view overwrite = v.marker d) :
    (v.onDir d f).marker e = v.marker e :=
  dirs_onDir_field (fun dir => dir.marker.view overwrite) same

theorem marker_remove {name : RootName} {n : Nat} (progress : Removal)
    (differs : e ≠ (name.database, n)) : (v.remove name n progress).marker e = v.marker e := by
  have harmed : (v.harm (name.database, n)).marker e = v.marker e := marker_onDir rfl
  have touched : ((v.harm (name.database, n)).setMarker (name.database, n) none).marker e =
      v.marker e := by
    simp [marker, setMarker, harm, dirs_onDir, differs]
  rcases progress with _ | (_ | _) | _
  · rfl
  · exact harmed
  · exact touched
  · exact touched

theorem marker_names {id : OperationID} (marked : v.marker d = some (.operation id)) :
    v.Names d id :=
  fun never => never.visible marked

theorem Names.of_marks {id : OperationID} (named : v.Names d id) (marks : v.Marks d P) :
    P (some (.operation id)) := by
  by_contra fails
  exact named (marks.mono fun m holds same => fails (same ▸ holds))

end Volume

/-- What the runner of an attempt may do: mark directories for its operation,
    and treat those numbered from `first` on as its own. -/
structure Attempt where
  owner : Option OperationID := none
  first : Nat
  bootstraps : Option String := none

def Attempt.quiet (a : Attempt) : Attempt := { a with owner := none }

/-- The calls of the store an attempt makes. A completion is recorded only when
    every directory that may carry its marker is secured. -/
inductive Attempt.Asks (a : Attempt) (v : Volume) : StoreCall → Prop
  | read (c) (updates : ∀ id m, c ≠ .update id m) (settles : ∀ id e, c ≠ .settle id e) : Asks a v c
  | update (id m) (own : a.owner = some id) : Asks a v (.update id m)
  | failed (id reason) (own : a.owner = some id) : Asks a v (.settle id (.failed reason))
  | completed (id artifact) (own : a.owner = some id) (secured : ∀ d, v.Names d id → v.Secured d) :
      Asks a v (.settle id (.completed artifact))

/-- What a runner knows of a directory when it starts the database in it. -/
inductive Attempt.MayStart (a : Attempt) (v : Volume) (d : DirID) : Prop
  | restored (id) (marked : v.Marks d (· = some (.operation id)))
      (recorded : v.store.Durably id RestoredOp)
  | unmarked (clean : v.Marks d (· = none))
  | found (asked : a.bootstraps = some d.1) (old : d.2 < a.first) (bare : v.marker d = none)
  | resumed (id op) (marked : v.marker d = some (.operation id))
      (visible : v.store.record id = some op) (completed : op.state = .completed)

inductive VolumeMove (a : Attempt) : Volume → Volume → Prop
  | store (v c w) (asked : a.Asks v c) (moves : Moves c v.store.issued v.store w) :
      VolumeMove a v (v.setStore w)
  | syncRoot (v) : VolumeMove a v v.syncRoot
  | syncMarker (v d) : VolumeMove a v (v.syncMarker d)
  | txt (v text) : VolumeMove a v (v.change (.txt text))
  | make (v database) (free : v.home database = none) : VolumeMove a v (v.make database)
  | mark (v d id) (own : a.owner = some id) (here : v.home d.1 = some d.2) (fresh : a.first ≤ d.2)
      (bare : v.Marks d (· = none)) (quiet : (v.dirs d).started = false)
      (issued : id ∈ v.store.issued) (never : NeverCompleted v.store id) :
      VolumeMove a v (v.setMarker d (some (.operation id)))
  | adopt (v d id) (own : a.owner = some id) (here : v.home d.1 = some d.2)
      (issued : id ∈ v.store.issued) (never : NeverCompleted v.store id)
      (recorded : v.store.Durably id RestoredOp) :
      VolumeMove a v (v.setMarker d (some (.operation id)))
  | unmark (v d) (own : a.first ≤ d.2 ∨ ∃ id op, v.marker d = some (.operation id) ∧
      v.store.record id = some op ∧ op.state = .completed) : VolumeMove a v (v.setMarker d none)
  | aside (v database n id op) (here : v.home database = some n)
      (marked : v.marker (database, n) = some (.operation id))
      (visible : v.store.record id = some op) (failed : op.state = .failed)
      (unrestored : op.restored = none) : VolumeMove a v (v.setAside database n)
  | removeTomb (v database n progress) (here : v.tomb database = some n) :
      VolumeMove a v (v.remove (.tomb database) n progress)
  | removeOwn (v database n progress) (here : v.home database = some n) (own : a.first ≤ n)
      (quiet : (v.dirs (database, n)).started = false) :
      VolumeMove a v (v.remove (.home database) n progress)
  | create (v database n) (here : v.home database = some n) (own : a.first ≤ n) :
      VolumeMove a v (v.create (database, n))
  | start (v database n) (here : v.home database = some n) (may : a.MayStart v (database, n)) :
      VolumeMove a v (v.start (database, n))

abbrev VolumeMoves (a : Attempt) : Volume → Volume → Prop := ReflTransGen (VolumeMove a)

section Frames

variable {a : Attempt} {v v' : Volume} {id : OperationID}

theorem VolumeMove.store_cases (move : VolumeMove a v v') : v'.store = v.store ∨
    ∃ c w, a.Asks v c ∧ Moves c v.store.issued v.store w ∧ v' = v.setStore w := by
  cases move with
  | store c w asked moves => exact .inr ⟨c, w, asked, moves, rfl⟩
  | removeTomb | removeOwn => exact .inl (by simp)
  | _ => exact .inl rfl

theorem VolumeMoves.sound (moves : VolumeMoves a v v') (sound : v.store.Sound) :
    v'.store.Sound := by
  induction moves with
  | refl => exact sound
  | tail _ move ih =>
    rcases move.store_cases with same | ⟨c, w, -, moved, rfl⟩
    · rw [same]
      exact ih
    · exact moved.sound ih

theorem VolumeMove.next (move : VolumeMove a v v') : v.next ≤ v'.next := by
  cases move with
  | make database free => exact Nat.le_succ _
  | removeTomb | removeOwn => simp
  | _ => exact Nat.le_refl _

theorem VolumeMoves.next (moves : VolumeMoves a v v') : v.next ≤ v'.next := by
  induction moves with
  | refl => exact Nat.le_refl _
  | tail _ move ih => exact ih.trans move.next

structure Begun (v : Volume) (id : OperationID) : Prop where
  issued : id ∈ v.store.issued
  never : NeverCompleted v.store id
  unnamed : ∀ d, v.Marks d (· ≠ some (.operation id))

theorem Begun.setStore {c : StoreCall} {w : StoreWorld} (begun : Begun v id)
    (moves : Moves c v.store.issued v.store w) (running : ∀ a, c ≠ .settle id (.completed a)) :
    Begun (v.setStore w) id :=
  ⟨moves.issued begun.issued, moves.neverCompleted running begun.never, begun.unnamed⟩

theorem VolumeMove.marks_quiet {P : Option Marker → Prop} (move : VolumeMove a.quiet v v')
    (bare : P none) {d : DirID} (marks : v.Marks d P) : v'.Marks d P := by
  cases move with
  | syncMarker e => exact marks.syncMarker
  | make database free =>
    rw [Volume.marks_make]
    split
    · exact bare
    · exact marks
  | mark e id own | adopt e id own => cases own
  | unmark e own => exact (Volume.marks_setMarker none).mpr ⟨marks, fun _ => bare⟩
  | aside database n id op here marked visible failed unrestored => simpa using marks
  | removeTomb database n progress here | removeOwn database n progress here own quiet =>
    exact marks.remove bare progress
  | create | start => simpa using marks
  | store | syncRoot | txt => exact marks

theorem Begun.quiet (begun : Begun v id) (moves : VolumeMoves a.quiet v v') : Begun v' id := by
  induction moves with
  | refl => exact begun
  | tail _ move ih =>
    have unnamed := fun d => move.marks_quiet (by simp) (ih.unnamed d)
    rcases move.store_cases with same | ⟨c, w, asked, moved, rfl⟩
    · exact ⟨same ▸ ih.issued, same ▸ ih.never, unnamed⟩
    · refine ih.setStore moved ?_
      rintro artifact rfl
      cases asked with
      | read _ updates settles => exact settles _ _ rfl
      | completed _ _ own => cases own

end Frames

theorem VolumeMove.of_quiet {a : Attempt} {v v' : Volume} (move : VolumeMove a.quiet v v') :
    VolumeMove a v v' := by
  cases move with
  | store c w asked moves =>
    cases asked with
    | read _ updates settles => exact .store v c w (.read c updates settles) moves
    | update id m own | failed id reason own | completed id artifact own secured => cases own
  | syncRoot => exact .syncRoot v
  | syncMarker d => exact .syncMarker v d
  | txt text => exact .txt v text
  | make database free => exact .make v database free
  | mark d id own | adopt d id own => cases own
  | unmark d own => exact .unmark v d own
  | aside database n id op here marked visible failed unrestored =>
    exact .aside v database n id op here marked visible failed unrestored
  | removeTomb database n progress here => exact .removeTomb v database n progress here
  | removeOwn database n progress here own quiet =>
    exact .removeOwn v database n progress here own quiet
  | create database n here own => exact .create v database n here own
  | start database n here may =>
    refine .start v database n here ?_
    cases may with
    | restored id marked recorded => exact .restored id marked recorded
    | unmarked clean => exact .unmarked clean
    | found asked old bare => exact .found asked old bare
    | resumed id op marked visible completed => exact .resumed id op marked visible completed

theorem VolumeMoves.of_quiet {a : Attempt} {v v' : Volume} (moves : VolumeMoves a.quiet v v') :
    VolumeMoves a v v' := by
  induction moves with
  | refl => exact .refl
  | tail _ move ih => exact ih.tail move.of_quiet

end InstanceManager
