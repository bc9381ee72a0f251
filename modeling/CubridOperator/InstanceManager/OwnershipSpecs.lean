import CubridOperator.InstanceManager.VolumeMoves

/-!
What the programs that own, clear and reclaim database directories do: each
makes only the moves of its attempt.
-/
namespace InstanceManager
open Foundation Program Relation Option

section Effects

variable {crash : Volume → Prop} {v : Volume}

attribute [local simp] Volume.effect

theorem of_answer {α : Type} {x : α} {P : α → Prop} (holds : P x) : ∀ y, some x = some y → P y := by
  rintro _ ⟨⟩
  exact holds

abbrev Manages (crash : Volume → Prop) (e : ManagerEffect) (post : e.Ans → Volume → Prop)
    (v : Volume) : Prop :=
  Ensures volumeHandler crash (manage e) post v

theorem manage_rule {e : ManagerEffect} {post : e.Ans → Volume → Prop} (here : crash v)
    (next : ∀ c, crash (v.effect e c).1 ∧ ∀ x, (v.effect e c).2 = some x →
      post x (v.effect e c).1) :
    Manages crash e post v := by
  refine ⟨here, fun c => ?_⟩
  obtain ⟨safe, answered⟩ := next c
  simp only [volumeHandler]
  by_cases killed : c.killed = true
  · simpa [killed] using safe
  · simp only [killed]
    cases answer : (v.effect e c).2 with
    | none => exact safe
    | some x => exact answered x answer

theorem manage_ask {e : ManagerEffect} {post : e.Ans → Volume → Prop} (here : crash v)
    (same : ∀ c, (v.effect e c).1 = v) (next : ∀ x, post x v) : Manages crash e post v :=
  manage_rule here fun c => by rw [same c]; exact ⟨here, fun x _ => next x⟩

theorem manage_store {c : StoreCall} {post : StoreReply → Volume → Prop} (sound : v.store.Sound)
    (here : crash v) (cut : ∀ w, Moves c v.store.issued v.store w → crash (v.setStore w))
    (next : ∀ w reply, Moves c v.store.issued v.store w → reply.Holds c v.store w →
      post reply (v.setStore w)) : Manages crash (.store c) post v := by
  have spec := program_spec c sound
  refine manage_rule here fun choice => ?_
  simp only [Volume.effect, Volume.callStore]
  -- A call runs to its end, or is cut short after the choices it was given.
  cases choice.store with
  | none =>
    have truth := finish_ensures spec .ok
    dsimp only
    generalize Program.finish storeHandler .ok c.program v.store = result at truth ⊢
    obtain ⟨w, _ | reply⟩ := result
    · exact ⟨cut w truth, fun x h => by cases h⟩
    · exact ⟨cut w truth.1, of_answer (next w reply truth.1 truth.2)⟩
  | some choices =>
    have truth := run_ensures spec choices
    dsimp only [StoreM.run]
    generalize Program.run storeHandler c.program v.store choices = result at truth ⊢
    obtain ⟨w, _ | reply⟩ := result
    · exact ⟨cut w truth, fun x h => by cases h⟩
    · exact ⟨cut w truth.1, of_answer (next w reply truth.1 truth.2)⟩

theorem attempt_rule {v' : Volume} {post : Except String Unit → Volume → Prop} (c : VolumeChoice)
    (here : crash v) (there : crash v') (failed : ∀ cause, post (.error cause) v)
    (done : post (.ok ()) v') :
    crash (v.attempt c v').1 ∧ ∀ x, (v.attempt c v').2 = some x → post x (v.attempt c v').1 := by
  unfold Volume.attempt
  cases c.fault with
  | none => exact ⟨there, of_answer done⟩
  | some cause => exact ⟨here, of_answer (failed cause)⟩

section Answers

variable {look : Lookup → Volume → Prop} {post : Except String Unit → Volume → Prop}
  {database : String} {n : Nat} {name : RootName} (here : crash v)
include here

theorem manage_openRoot (failed : ∀ cause, look (.failed cause) v) (found : look .found v) :
    Manages crash .openRoot look v := by
  refine manage_rule here fun c => ?_
  simp only [Volume.effect, Volume.lookup]
  cases c.fault with
  | none => exact ⟨here, of_answer found⟩
  | some cause => exact ⟨here, of_answer (failed cause)⟩

theorem manage_lookup (failed : ∀ cause, look (.failed cause) v)
    (found : ∀ n, v.entry name = some n → look .found v)
    (missing : v.entry name = none → look .missing v) : Manages crash (.lookup name) look v := by
  refine manage_rule here fun c => ?_
  simp only [Volume.effect, Volume.lookup]
  cases c.fault with
  | none =>
    cases present : v.entry name with
    | none => exact ⟨here, of_answer (missing present)⟩
    | some n => exact ⟨here, of_answer (found n present)⟩
  | some cause => exact ⟨here, of_answer (failed cause)⟩

theorem manage_readMarker {post : Except String (Option Marker) → Volume → Prop}
    (failed : ∀ e, post (.error e) v)
    (unmarked : (∀ n, v.home database = some n → v.marker (database, n) = none) → post (.ok none) v)
    (marked : ∀ n m, v.home database = some n → v.marker (database, n) = some m →
      post (.ok (some m)) v) : Manages crash (.readMarker database) post v := by
  refine manage_rule here fun c => ?_
  simp only [Volume.effect, Volume.read]
  cases c.fault with
  | some cause => exact ⟨here, of_answer (failed cause)⟩
  | none =>
    refine ⟨here, fun x h => ?_⟩
    cases h
    cases present : v.home database with
    | none => exact unmarked (by simp [present])
    | some n =>
      cases content : v.marker (database, n) with
      | none =>
        simp only [bind_some, content]
        exact unmarked (by simp [present, content])
      | some m =>
        simp only [bind_some, content]
        exact marked n m present content

theorem manage_readTxt {post : Except String (Option Text) → Volume → Prop}
    (failed : ∀ e, post (.error e) v) (read : post (.ok v.view.txt) v) :
    Manages crash .readTxt post v := by
  refine manage_rule here fun c => ?_
  simp only [Volume.effect, Volume.read]
  cases c.fault with
  | none => exact ⟨here, of_answer read⟩
  | some cause => exact ⟨here, of_answer (failed cause)⟩

theorem manage_writeTmp {w : MetaWrite} (failed : ∀ cause, post (.error cause) v)
    (done : post (.ok ()) v) : Manages crash (.writeTmp w) post v :=
  manage_rule here fun c => attempt_rule c here here failed done

theorem manage_renameTxt {text : Text} (there : crash (v.change (.txt (some text))))
    (failed : ∀ cause, post (.error cause) v) (done : post (.ok ()) (v.change (.txt (some text)))) :
    Manages crash (.rename (.databasesTxt text)) post v :=
  manage_rule here fun c => attempt_rule c here there failed done

theorem manage_syncRoot (there : crash v.syncRoot) (failed : ∀ cause, post (.error cause) v)
    (done : post (.ok ()) v.syncRoot) : Manages crash (.syncDir .root) post v :=
  manage_rule here fun c => attempt_rule c here there failed done

theorem manage_renameMarker {m : Marker} (present : v.home database = some n)
    (there : crash (v.setMarker (database, n) (some m))) (failed : ∀ cause, post (.error cause) v)
    (done : post (.ok ()) (v.setMarker (database, n) (some m))) :
    Manages crash (.rename (.marker database m)) post v := by
  refine manage_rule here fun c => ?_
  simp only [Volume.effect, Volume.onHome, present]
  exact attempt_rule c here there failed done

theorem manage_syncMarker (present : v.home database = some n)
    (there : crash (v.syncMarker (database, n))) (failed : ∀ cause, post (.error cause) v)
    (done : post (.ok ()) (v.syncMarker (database, n))) :
    Manages crash (.syncDir (.database database)) post v := by
  refine manage_rule here fun c => ?_
  simp only [Volume.effect, Volume.onHome, present]
  exact attempt_rule c here there failed done

theorem manage_removeMarker (failed : ∀ cause, look (.failed cause) v)
    (missing : (∀ n, v.home database = some n → v.marker (database, n) = none) → look .missing v)
    (removed : ∀ n m, v.home database = some n → v.marker (database, n) = some m →
      crash (v.setMarker (database, n) none) ∧ look .found (v.setMarker (database, n) none)) :
    Manages crash (.removeMeta (.marker database)) look v := by
  refine manage_rule here fun c => ?_
  simp only [Volume.effect]
  cases present : v.home database with
  | none =>
    simp only [Volume.lookup]
    cases c.fault with
    | none => exact ⟨here, of_answer (missing (by simp [present]))⟩
    | some cause => exact ⟨here, of_answer (failed cause)⟩
  | some n =>
    simp only [Volume.removeMeta]
    cases c.fault with
    | some cause => exact ⟨here, of_answer (failed cause)⟩
    | none =>
      cases content : v.marker (database, n) with
      | none => exact ⟨here, of_answer (missing (by simp [present, content]))⟩
      | some m =>
        obtain ⟨safe, next⟩ := removed n m present content
        exact ⟨safe, of_answer next⟩

theorem manage_removeTxt (there : crash (v.change (.txt none)))
    (failed : ∀ cause, look (.failed cause) v) (missing : v.view.txt = none → look .missing v)
    (removed : look .found (v.change (.txt none))) :
    Manages crash (.removeMeta .databasesTxt) look v := by
  refine manage_rule here fun c => ?_
  simp only [Volume.effect, Volume.removeMeta]
  cases c.fault with
  | some cause => exact ⟨here, of_answer (failed cause)⟩
  | none =>
    cases content : v.view.txt with
    | none => exact ⟨here, of_answer (missing content)⟩
    | some text => exact ⟨there, of_answer removed⟩

theorem manage_mkdir {post : Made → Volume → Prop} (failed : ∀ cause, post (.failed cause) v)
    (taken : post .taken v)
    (made : v.home database = none → crash (v.make database) ∧ post .made (v.make database)) :
    Manages crash (.mkdir database) post v := by
  refine manage_rule here fun c => ?_
  simp only [Volume.effect]
  cases c.fault with
  | some cause => exact ⟨here, of_answer (failed cause)⟩
  | none =>
    cases present : v.home database with
    | some n => exact ⟨here, of_answer taken⟩
    | none =>
      obtain ⟨safe, next⟩ := made present
      exact ⟨safe, of_answer next⟩

theorem manage_removeAll (absent : ∀ x, post x v)
    (removed : ∀ n progress, v.entry name = some n → crash (v.remove name n progress) ∧
      ∀ x, post x (v.remove name n progress)) : Manages crash (.removeAll name) post v := by
  refine manage_rule here fun c => ?_
  simp only [Volume.effect, Volume.removeAll]
  cases present : v.entry name with
  | none => exact ⟨here, fun x _ => absent x⟩
  | some n =>
    cases c.fault with
    | some cause => exact ⟨(removed n _ present).1, fun x _ => (removed n _ present).2 x⟩
    | none =>
      cases c.killed with
      | true => exact ⟨(removed n _ present).1, fun x h => by cases h⟩
      | false => exact ⟨(removed n .whole present).1, fun x _ => (removed n .whole present).2 x⟩

theorem manage_moveAside (failed : ∀ cause, post (.error cause) v)
    (moved : ∀ n, v.home database = some n → crash (v.setAside database n) ∧
      post (.ok ()) (v.setAside database n)) : Manages crash (.moveAside database) post v := by
  refine manage_rule here fun c => ?_
  simp only [Volume.effect]
  cases c.fault with
  | some cause => exact ⟨here, of_answer (failed cause)⟩
  | none =>
    cases present : v.home database with
    | none => exact ⟨here, of_answer (failed _)⟩
    | some n =>
      cases v.tomb database with
      | some m => exact ⟨here, of_answer (failed _)⟩
      | none =>
        obtain ⟨safe, next⟩ := moved n present
        exact ⟨safe, of_answer next⟩

theorem manage_createdb {hosts : String} (present : v.home database = some n)
    (ran : ∀ v', v' = v ∨ (∃ text, v' = v.change (.txt text)) → crash v' ∧
      (∀ e, post (.error e) v') ∧
      crash (v'.create (database, n)) ∧ post (.ok ()) (v'.create (database, n))) :
    Manages crash (.createdb database hosts) post v := by
  refine manage_rule here fun c => ?_
  simp only [Volume.effect]
  have shape : v.wrote c = v ∨ ∃ text, v.wrote c = v.change (.txt text) := by
    unfold Volume.wrote
    cases c.wrote with
    | none => exact .inl rfl
    | some text => exact .inr ⟨some text, rfl⟩
  rw [present]
  obtain ⟨safe, failed, safe', done⟩ := ran _ shape
  cases c.reply (.createdb database hosts) with
  | error e => exact ⟨safe, of_answer (failed e)⟩
  | ok u => exact ⟨safe', of_answer done⟩

theorem manage_start {cmd : StartCommand} (absent : ∀ x, post x v)
    (started : ∀ n, v.home cmd.database = some n → crash (v.start (cmd.database, n)) ∧
      ∀ x, post x (v.start (cmd.database, n))) : Manages crash (.start cmd) post v := by
  refine manage_rule here fun c => ?_
  simp only [Volume.effect]
  cases present : v.home cmd.database with
  | none => exact ⟨here, fun x _ => absent x⟩
  | some n => exact ⟨(started n present).1, fun x _ => (started n present).2 x⟩

end Answers

end Effects

/-- The directories, their names and the records are as they were. -/
structure Frame (v v' : Volume) : Prop where
  home : v'.home = v.home
  dirs : v'.dirs = v.dirs
  store : v'.store = v.store
  next : v'.next = v.next

/-- The same, except for what the directories are marked with. -/
structure Kept (v v' : Volume) : Prop where
  home : v'.home = v.home
  store : v'.store = v.store
  next : v'.next = v.next
  started : ∀ d, (v'.dirs d).started = (v.dirs d).started

theorem Frame.refl (v : Volume) : Frame v v := ⟨rfl, rfl, rfl, rfl⟩

theorem Frame.txt (v : Volume) (text : Option Text) : Frame v (v.change (.txt text)) :=
  ⟨by funext; simp [Volume.home, RootChange.apply], rfl, rfl, rfl⟩

variable {v v' : Volume}

theorem Frame.syncRoot (frame : Frame v v') : Frame v v'.syncRoot :=
  ⟨by rw [← frame.home]; funext; simp [Volume.home], frame.dirs, frame.store, frame.next⟩

theorem Kept.refl (v : Volume) : Kept v v := ⟨rfl, rfl, rfl, fun _ => rfl⟩

theorem Kept.onDir {d : DirID} {f : Directory → Directory} (kept : Kept v v')
    (same : ∀ dir, (f dir).started = dir.started) : Kept v (v'.onDir d f) := by
  refine ⟨by rw [← kept.home]; rfl, kept.store, kept.next, fun e => ?_⟩
  rw [Volume.dirs_onDir, ← kept.started e]
  split
  · rename_i here
    rw [same, here]
  · rfl

theorem Kept.syncRoot (kept : Kept v v') : Kept v v'.syncRoot :=
  ⟨by rw [← kept.home]; funext; simp [Volume.home], kept.store, kept.next, kept.started⟩

/-- The directory of the database, if there is one, was made by the attempt and
    has not been started. -/
def Attempt.Fresh (a : Attempt) (v : Volume) (database : String) : Prop :=
  ∀ n, v.home database = some n → a.first ≤ n ∧ (v.dirs (database, n)).started = false

theorem Attempt.Fresh.kept {a : Attempt} {database : String} (fresh : a.Fresh v database)
    (kept : Kept v v') : a.Fresh v' database := by
  intro n here
  rw [kept.home] at here
  rw [kept.started]
  exact fresh n here

/-- The directory carries the operation's marker, durably, and no other
    directory may ever show it. -/
structure Owns (v : Volume) (d : DirID) (id : OperationID) : Prop where
  home : v.home d.1 = some d.2
  marked : v.Marks d (· = some (.operation id))
  only : ∀ e, e ≠ d → v.Marks e (· ≠ some (.operation id))

abbrev Attempt.Ensures (a : Attempt) (start : Volume) {α : Type} (p : ManagerM α)
    (post : α → Volume → Prop) (v : Volume) : Prop :=
  Program.Ensures volumeHandler (VolumeMoves a start) p post v

section Programs

variable {a : Attempt} {start v : Volume} {database : String} {id : OperationID} {cfg : Config}
  {post : Except String Unit → Volume → Prop}

section

variable (reach : VolumeMoves a start v)
include reach

section

variable (next : ∀ answer v', VolumeMoves a start v' → Frame v v' → post answer v')
include next

theorem replaceTxt_spec {text : Text} :
    a.Ensures start (replaceFile (.databasesTxt text)) post v := by
  have written := reach.tail (.txt v (some text))
  have synced := written.tail (.syncRoot _)
  have frame := Frame.txt v (some text)
  unfold replaceFile
  refine ensures_bind.mpr (manage_writeTmp reach (fun _ => next _ v reach (.refl v)) ?_)
  refine ensures_bind.mpr (manage_renameTxt reach written (fun _ => next _ v reach (.refl v)) ?_)
  exact manage_syncRoot written synced (fun _ => next _ _ written frame)
    (next _ _ synced frame.syncRoot)

theorem removeTxt_spec : a.Ensures start (removeFile .databasesTxt) post v := by
  have written := reach.tail (.txt v none)
  have synced := written.tail (.syncRoot _)
  have frame := Frame.txt v none
  unfold removeFile
  refine ensures_bind.mpr (manage_removeTxt reach written (fun _ => next _ v reach (.refl v))
    (fun _ => next _ v reach (.refl v)) ?_)
  exact manage_syncRoot written synced (fun _ => next _ _ written frame)
    (next _ _ synced frame.syncRoot)

theorem unregisterDatabaseLocked_spec {removeEmpty : Bool} :
    a.Ensures start (unregisterDatabaseLocked database removeEmpty) post v := by
  unfold unregisterDatabaseLocked
  refine ensures_bind.mpr (manage_readTxt reach (fun _ => next _ v reach (.refl v)) ?_)
  cases v.view.txt with
  | none => exact next _ v reach (.refl v)
  | some text =>
    dsimp only
    split
    · refine ensures_bind.mpr (removeTxt_spec reach fun answer v' reach' frame => ?_)
      cases answer <;> exact next _ v' reach' frame
    · split
      · exact next _ v reach (.refl v)
      · refine ensures_bind.mpr (replaceTxt_spec reach fun answer v' reach' frame => ?_)
        cases answer <;> exact next _ v' reach' frame

end

theorem registeredInDatabasesTxt_spec {post : Except String Bool → Volume → Prop}
    (failed : ∀ e, post (.error e) v) (read : post (.ok (v.registered database)) v) :
    a.Ensures start (registeredInDatabasesTxt database) post v := by
  unfold registeredInDatabasesTxt
  refine ensures_bind.mpr (manage_readTxt reach (fun _ => failed _) ?_)
  unfold Volume.registered at read
  cases content : v.view.txt with
  | none | some => simpa [content] using read

theorem markOwned_spec {n : Nat} (here : v.home database = some n)
    (may : VolumeMove a v (v.setMarker (database, n) (some (.operation id))))
    (unnamed : ∀ d, v.Marks d (· ≠ some (.operation id)))
    (failed : ∀ e v', VolumeMoves a start v' → Kept v v' → post (.error e) v')
    (done : ∀ v', VolumeMoves a start v' → Kept v v' → Owns v' (database, n) id →
      post (.ok ()) v') :
    a.Ensures start (markOwned database id) post v := by
  have written := reach.tail may
  have synced := written.tail (.syncMarker _ (database, n))
  have durable := synced.tail (.syncRoot _)
  have kept : Kept v (v.setMarker (database, n) (some (.operation id))) :=
    (Kept.refl v).onDir fun _ => rfl
  have kept' := kept.onDir (d := (database, n))
    (f := fun dir => { dir with marker := dir.marker.sync overwrite }) fun _ => rfl
  unfold markOwned replaceFile
  refine ensures_bind.mpr
    (ensures_bind.mpr (manage_writeTmp reach (fun _ => failed _ v reach (.refl v)) ?_))
  refine ensures_bind.mpr
    (manage_renameMarker reach here written (fun _ => failed _ v reach (.refl v)) ?_)
  refine manage_syncMarker written here synced (fun _ => failed _ _ written kept) ?_
  refine ensures_bind.mpr (manage_syncRoot synced durable (fun _ => failed _ _ synced kept') ?_)
  refine done _ durable kept'.syncRoot ⟨?_, ?_, fun e other => ?_⟩
  · exact (congrFun kept'.syncRoot.home database).trans here
  · exact Volume.marks_syncMarker.mpr (by simp)
  · refine Volume.marks_syncMarker.mpr ?_
    rw [if_neg other]
    exact (Volume.marks_setMarker _).mpr ⟨unnamed e, fun same => absurd same other⟩

theorem clearOwned_spec (may : ∀ n m, v.home database = some n → v.marker (database, n) = some m →
      VolumeMove a v (v.setMarker (database, n) none))
    (failed : ∀ e v', VolumeMoves a start v' → post (.error e) v')
    (bare : (∀ n, v.home database = some n → v.marker (database, n) = none) → post (.ok ()) v)
    (cleared : ∀ n v', VolumeMoves a start v' → v.home database = some n →
      v' = (v.setMarker (database, n) none).syncMarker (database, n) → post (.ok ()) v') :
    a.Ensures start (clearOwned database) post v := by
  unfold clearOwned
  refine ensures_bind.mpr (manage_openRoot reach (fun _ => failed _ v reach) ?_)
  unfold removeFile
  refine ensures_bind.mpr
    (ensures_bind.mpr (manage_removeMarker reach (fun _ => failed _ v reach) bare ?_))
  intro n m here marked
  have removed := reach.tail (may n m here marked)
  have synced := removed.tail (.syncMarker _ (database, n))
  refine ⟨removed, manage_syncMarker removed here synced (fun _ => failed _ _ removed) ?_⟩
  exact cleared n _ synced here rfl

end

theorem marker_cleared (v : Volume) (d : DirID) :
    ((v.setMarker d none).syncMarker d).marker d = none := by
  simp [Volume.marker, Volume.syncMarker, Volume.setMarker, Volume.dirs_onDir, overwrite]

theorem home_remove_tomb (v : Volume) (n : Nat) (progress : Removal) :
    (v.remove (.tomb database) n progress).home = v.home := by
  rcases progress with _ | (_ | _) | _
  · rfl
  · rfl
  · rfl
  · funext other
    simp [Volume.remove, Volume.home, RootChange.apply, Volume.setMarker, Volume.harm]

theorem removeTomb_spec (reach : VolumeMoves a start v)
    (next : ∀ answer v', VolumeMoves a start v' → v'.home = v.home → v'.next = v.next →
      post answer v') :
    a.Ensures start (removeTomb cfg database) post v := by
  unfold removeTomb
  refine ensures_bind.mpr (manage_lookup reach (fun _ => next _ v reach rfl rfl) ?_ ?_)
  · intro n here
    refine ensures_bind.mpr (manage_removeAll reach (fun x => ?_) fun m progress there => ?_)
    · cases x <;> exact next _ v reach rfl rfl
    · have removed := reach.tail (.removeTomb v database m progress there)
      refine ⟨removed, fun x => ?_⟩
      cases x <;> exact next _ _ removed (home_remove_tomb v m progress) (by simp)
  · exact fun _ => next _ v reach rfl rfl

theorem markedOperation_spec {marker : Marker} {post : Except StoreError Operation → Volume → Prop}
    (sound : v.store.Sound) (reach : VolumeMoves a start v)
    (failed : ∀ e w, VolumeMoves a start (v.setStore w) → VolumeMoves a.quiet v (v.setStore w) →
      post (.error e) (v.setStore w))
    (answered : ∀ op w, marker = .operation op.id → Answer w op →
      VolumeMoves a start (v.setStore w) →
      VolumeMoves a.quiet v (v.setStore w) → post (.ok op) (v.setStore w)) :
    a.Ensures start (markedOperation marker) post v := by
  cases marker with
  | other text => exact failed _ v.store reach .refl
  | operation id =>
    have may : ∀ b : Attempt, ∀ w, Moves (.get id) v.store.issued v.store w →
        VolumeMove b v (v.setStore w) :=
        fun b w moves => .store v _ w (.read _ (by simp) (by simp)) moves
    unfold markedOperation
    refine ensures_bind.mpr
      (manage_store sound reach (fun w moves => reach.tail (may a w moves)) ?_)
    intro w reply moves holds
    have there := reach.tail (may a w moves)
    have quiet : VolumeMoves a.quiet v (v.setStore w) := .single (may a.quiet w moves)
    rcases reply with e | op | (_ | ⟨op, _ | _⟩) | op | _
    · exact failed e w there quiet
    · exact failed _ w there quiet
    · exact failed _ w there quiet
    · obtain ⟨-, answer, named, -⟩ := holds
      obtain ⟨_, ⟨⟩, same⟩ := named id rfl
      exact answered op w (by rw [same]) (answer op (by simp)) there quiet
    · exact failed _ w there quiet
    · exact failed _ w there quiet
    · exact failed _ w there quiet

theorem removeUnfinished_spec {n : Nat} {op : Operation} (reach : VolumeMoves a start v)
    (here : v.home database = some n) (marked : v.marker (database, n) = some (.operation op.id))
    (visible : v.store.record op.id = some op) (ended : op.state = .failed)
    (unrestored : op.restored = none) (failed : ∀ e v', VolumeMoves a start v' → post (.error e) v')
    (done : ∀ v', VolumeMoves a start v' → v'.home database = none → v'.next = v.next →
      post (.ok ()) v') :
    a.Ensures start (removeUnfinished cfg database) post v := by
  unfold removeUnfinished
  refine ensures_bind.mpr (unregisterDatabaseLocked_spec reach fun answer v₁ reach₁ frame => ?_)
  cases answer with
  | error e => exact failed _ v₁ reach₁
  | ok _ =>
    refine ensures_bind.mpr
      (manage_moveAside reach₁ (fun _ => failed _ v₁ reach₁) fun m there => ?_)
    obtain rfl : m = n := by
      rw [frame.home, here] at there
      exact (some.inj there).symm
    have moved := reach₁.tail (.aside v₁ database m op.id op there
      (by unfold Volume.marker at marked ⊢; rwa [frame.dirs]) (by rwa [frame.store])
        ended unrestored)
    have gone : (v₁.setAside database m).home database = none := by
      simp [Volume.setAside, Volume.home, RootChange.apply]
    have synced := moved.tail (.syncRoot _)
    refine ⟨moved, ensures_bind.mpr (manage_syncRoot moved synced (fun _ => failed _ _ moved) ?_)⟩
    have gone' : (v₁.setAside database m).syncRoot.home database = none := by
      simpa [Volume.home] using gone
    refine ensures_bind.mpr (manage_removeAll synced (fun x => ?_) fun k progress there' => ?_)
    · cases x with
      | error e => exact failed _ _ synced
      | ok _ => exact done _ synced gone' frame.next
    · have removed := synced.tail (.removeTomb _ database k progress there')
      refine ⟨removed, fun x => ?_⟩
      cases x with
      | error e => exact failed _ _ removed
      | ok _ =>
        refine done _ removed ?_ ?_
        · rw [home_remove_tomb]
          exact gone'
        · rw [Volume.next_remove]
          exact frame.next

/-- A reclaim that succeeds leaves no directory of the database, or one that
    shows no marker. -/
theorem reclaimIncomplete_spec
    (sound : start.store.Sound) (reach : VolumeMoves a start v)
    (failed : ∀ e v', VolumeMoves a start v' → post (.error e) v')
    (done : ∀ v', VolumeMoves a start v' → v'.next = v.next →
      (∀ n, v'.home database = some n → v'.marker (database, n) = none) → post (.ok ()) v') :
    a.Ensures start (reclaimIncomplete cfg database) post v := by
  unfold reclaimIncomplete
  dsimp only
  split
  · exact failed _ v reach
  refine ensures_bind.mpr (manage_openRoot reach (fun _ => failed _ v reach) ?_)
  refine ensures_bind.mpr (removeTomb_spec reach fun answer v₁ reach₁ home₁ next₁ => ?_)
  cases answer with
  | error e => exact failed _ v₁ reach₁
  | ok _ =>
    refine ensures_bind.mpr (manage_readMarker reach₁ (fun _ => failed _ v₁ reach₁)
      (fun bare => done v₁ reach₁ next₁ bare) fun n m here marked => ?_)
    cases m with
    | other text => exact failed _ v₁ reach₁
    | operation id =>
      refine ensures_bind.mpr (markedOperation_spec (reach₁.sound sound) reach₁ ?_ ?_)
      · intro e w reach₂ _
        dsimp only
        split <;> exact failed _ _ reach₂
      · rintro op w ⟨⟩ answer reach₂ _
        dsimp only
        split
        · rename_i completed
          have may : ∀ k m', (v₁.setStore w).home database = some k →
              (v₁.setStore w).marker (database, k) = some m' →
              VolumeMove a (v₁.setStore w) ((v₁.setStore w).setMarker (database, k) none) := by
            intro k m' there _
            obtain rfl : k = n := some.inj (there.symm.trans here)
            exact .unmark _ _ (.inr ⟨op.id, op, marked, answer.visible, completed⟩)
          refine clearOwned_spec reach₂ may failed (fun bare => done _ reach₂ next₁ bare) ?_
          rintro k v' reach₃ there rfl
          refine done _ reach₃ next₁ fun k' there' => ?_
          obtain rfl : k' = k := some.inj (there'.symm.trans there)
          exact marker_cleared _ _
        · rename_i ended
          split
          · exact failed _ _ reach₂
          · rename_i unrestored
            refine removeUnfinished_spec reach₂ here marked answer.visible ended
              (by simpa using unrestored)
              failed fun v' reach₃ gone next₃ => done v' reach₃ (next₃.trans next₁) ?_
            simp [gone]
        · exact failed _ _ reach₂

theorem manage_update {m : Mutation} {post : StoreReply → Volume → Prop} (own : a.owner = some id)
    (sound : v.store.Sound) (reach : VolumeMoves a start v)
    (failed : ∀ reply w, (∀ op, reply ≠ .updated op) →
      Moves (.update id m) v.store.issued v.store w →
      VolumeMoves a start (v.setStore w) → post reply (v.setStore w))
    (updated : ∀ old w, Moves (.update id m) v.store.issued v.store w →
      VolumeMoves a start (v.setStore w) → w.Durably id (· = some (m.apply old)) →
      post (.updated (m.apply old)) (v.setStore w)) :
    a.Ensures start (manage (.store (.update id m))) post v := by
  have may : ∀ w, Moves (.update id m) v.store.issued v.store w → VolumeMove a v (v.setStore w) :=
    fun w moves => .store v _ w (.update id m own) moves
  refine manage_store sound reach (fun w moves => reach.tail (may w moves))
    fun w reply moves holds => ?_
  have there := reach.tail (may w moves)
  cases reply with
  | updated op =>
    obtain ⟨id', m', old, asked, rfl, named, durable⟩ := holds
    cases asked
    exact updated old w moves there durable
  | _ => exact failed _ w (by simp) moves there

theorem adoptRestored_spec {post : Except String (Option OperationArtifact) → Volume → Prop}
    (own : a.owner = some id) (sound : start.store.Sound) (begun : Begun v id)
    (reach : VolumeMoves a start v) (failed : ∀ e v', VolumeMoves a start v' → post (.error e) v')
    (nothing : ∀ v', VolumeMoves a start v' → v'.next = v.next → Begun v' id → post (.ok none) v')
    (adopted : ∀ r n v', VolumeMoves a start v' → Owns v' (database, n) id →
      v'.store.Durably id RestoredOp → id ∈ v'.store.issued → post (.ok (some r)) v') :
    a.Ensures start (adoptRestored id database) post v := by
  unfold adoptRestored
  split
  · exact failed _ v reach
  refine ensures_bind.mpr (manage_openRoot reach (fun _ => failed _ v reach) ?_)
  refine ensures_bind.mpr (manage_readMarker reach (fun _ => failed _ v reach)
    (fun _ => nothing v reach rfl begun) fun n m here marked => ?_)
  refine ensures_bind.mpr (markedOperation_spec (reach.sound sound) reach ?_ ?_)
  · intro e w reach₁ quiet₁
    dsimp only
    split
    · exact nothing _ reach₁ rfl (begun.quiet quiet₁)
    · exact failed _ _ reach₁
  · intro previous w _ _ reach₁ quiet₁
    have begun₁ := begun.quiet quiet₁
    refine ensures_bind.mpr (markedOperation_spec (reach₁.sound sound) reach₁ ?_ ?_)
    · exact fun e w' reach₂ _ => failed _ _ reach₂
    · intro current w' _ _ reach₂ quiet₂
      have begun₂ := begun₁.quiet quiet₂
      dsimp only
      split
      · exact nothing _ reach₂ rfl begun₂
      · rename_i restored recorded
        split
        · exact nothing _ reach₂ rfl begun₂
        · refine ensures_bind.mpr (manage_update own (reach₂.sound sound) reach₂ ?_ ?_)
          · intro reply w'' other _ reach₃
            cases reply with
            | updated op => exact absurd rfl (other op)
            | _ => exact failed _ _ reach₃
          · intro old w'' moves reach₃ durable
            have begun₃ := begun₂.setStore moves (by simp)
            have recorded' : w''.Durably id RestoredOp :=
              durable.mono fun r same => ⟨_, same, rfl⟩
            refine ensures_bind.mpr (markOwned_spec reach₃ here
              (.adopt _ (database, n) id own here begun₃.issued begun₃.never recorded')
              begun₃.unnamed (fun e v' reach₄ _ => failed _ v' reach₄) ?_)
            intro v' reach₄ kept owns
            exact adopted restored n v' reach₄ owns (kept.store ▸ recorded')
              (kept.store ▸ begun₃.issued)

end Programs
end InstanceManager
