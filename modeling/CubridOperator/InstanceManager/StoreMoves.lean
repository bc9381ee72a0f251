import CubridOperator.InstanceManager.OperationStore
import Mathlib.Logic.Relation

/-!
What a call of the operation store may do, one change at a time. Every program
of the store makes only these moves; the invariants are facts about moves.
-/
namespace InstanceManager
open Foundation Program Relation Function List

inductive StoreCall where
  | start
  | findOrCreate (kind : OperationKind) (idempotencyKey requestHash database : String)
  | findByKey (idempotencyKey : String)
  | get (id : OperationID)
  | update (id : OperationID) (m : Mutation)
  | settle (id : OperationID) (e : End)
  | unwrittenEnds

/-- No visible record holds the key for the kind, or the database. -/
def Admits (w : StoreWorld) (kind : OperationKind) (idempotencyKey database : String) : Prop :=
  ∀ id op, w.record id = some op →
    ¬(op.idempotencyKey = idempotencyKey ∧ op.kind = kind) ∧
    (op.database = database → op.state.isTerminal = true)

/-- One move of a call. `before` are the IDs generated before the call. -/
inductive Move (call : StoreCall) (before : List OperationID) : StoreWorld → StoreWorld → Prop
  | sync (w) : Move call before w w.sync
  | list (w unreadable) (known : ∀ id ∈ unreadable.map (·.1), id ∈ w.issued) :
      Move call before w (w.remember { w.memory with unreadable := unreadable })
  | interrupt (w op) (known : op.id ∈ w.memory.interrupted) (found : w.record op.id = some op)
      (running : op.state.isTerminal = false) : Move call before w (w.change (.put op.interrupt))
  | judged (w op) (found : w.record op.id = some op) (ended : op.state.isTerminal = true) :
      Move call before w (w.remember (w.memory.forgetInterrupted op.id))
  | writeEnd (w op e) (kept : w.memory.keptEnd op.id = some e)
      (judged : op.id ∉ w.memory.interrupted) (found : w.record op.id = some op) :
      Move call before w (w.change (.put (e.apply op)))
  | endWritten (w op e) (kept : w.memory.keptEnd op.id = some e)
      (written : w.Durably op.id (· = some (e.apply op))) :
      Move call before w (w.remember (w.memory.forgetEnd op.id))
  | endMissing (w id) (missing : w.record id = none) :
      Move call before w (w.remember (w.memory.forgetEnd id))
  | mutate (w op m) (asked : call = .update op.id m) (judged : op.id ∉ w.memory.interrupted)
      (found : w.record op.id = some op) : Move call before w (w.change (.put (m.apply op)))
  | keepEnd (w id e) (asked : call = .settle id e) :
      Move call before w (w.remember (w.memory.keepEnd id e))
  | issue (w id) (fresh : id ∉ w.issued) : Move call before w (w.issue id)
  | create (w id kind key hash database) (asked : call = .findOrCreate kind key hash database)
      (unused : id ∉ before) (issued : id ∈ w.issued) (missing : w.record id = none)
      (admits : Admits w kind key database) :
      Move call before w (w.change (.put (newRecord id kind key hash database)))
  | discard (w id) (unused : id ∉ before)
      (running : ∀ op, w.record id = some op → op.state.isTerminal = false) :
      Move call before w (w.change (.drop id))
  | noteUnreadable (w) (asked : call = .start) :
      Move call before w (w.remember { w.memory with interrupted := w.memory.unreadable.map (·.1) })
  | failOnStart (w op) (asked : call = .start) (found : w.record op.id = some op)
      (running : op.state.isTerminal = false) : Move call before w (w.change (.put op.interrupt))

abbrev Moves (call : StoreCall) (before : List OperationID) : StoreWorld → StoreWorld → Prop :=
  ReflTransGen (Move call before)

/-- Whatever a power loss leaves, a record is found under its own ID, and that
    ID was generated; no ID was generated twice. -/
structure StoreWorld.Sound (w : StoreWorld) : Prop where
  durable : ∀ id, w.Durably id fun r => ∀ op, r = some op → op.id = id ∧ id ∈ w.issued
  nodup : w.issued.Nodup

section Moves

variable {call : StoreCall} {before : List OperationID} {w w' : StoreWorld} {id : OperationID}
  {op now : Operation}

theorem StoreWorld.Sound.named (sound : w.Sound)
    (found : w.record id = some op) : op.id = id ∧ id ∈ w.issued :=
  (sound.durable id).visible op found

theorem sound_put (sound : w.Sound) (found : w.record op.id = some op) (same : SameRequest op now) :
    (w.change (.put now)).Sound := by
  refine ⟨fun id => (StoreWorld.durably_put now).mpr ⟨sound.durable id, ?_⟩, sound.nodup⟩
  rintro rfl current visible
  cases visible
  exact ⟨rfl, same.id ▸ (sound.named found).2⟩

theorem Move.sound (move : Move call before w w') (sound : w.Sound) : w'.Sound := by
  cases move with
  | sync =>
    exact ⟨fun id => StoreWorld.durably_sync.mpr (sound.durable id).visible, sound.nodup⟩
  | interrupt op known found running => exact sound_put sound found op.interrupt_sameRequest
  | writeEnd op e kept judged found => exact sound_put sound found (e.sameRequest op)
  | mutate op m asked judged found => exact sound_put sound found (m.sameRequest op)
  | failOnStart op asked found running => exact sound_put sound found op.interrupt_sameRequest
  | issue id fresh =>
    refine ⟨fun k => ?_, nodup_cons.mpr ⟨fresh, sound.nodup⟩⟩
    refine (StoreWorld.durably_issue id).mpr ((sound.durable k).mono fun r named op found => ?_)
    exact ⟨(named op found).1, mem_cons_of_mem _ (named op found).2⟩
  | create id kind key hash database asked unused issued missing admits =>
    refine ⟨fun k => (StoreWorld.durably_put _).mpr ⟨sound.durable k, ?_⟩, sound.nodup⟩
    rintro rfl current found
    cases found
    exact ⟨rfl, issued⟩
  | discard id unused running =>
    refine ⟨fun k => (StoreWorld.durably_drop id).mpr ⟨sound.durable k, ?_⟩, sound.nodup⟩
    exact fun _ _ found => by cases found
  | list | judged | endWritten | endMissing | keepEnd | noteUnreadable =>
    exact ⟨sound.durable, sound.nodup⟩

theorem Moves.sound (moves : Moves call before w w') (sound : w.Sound) : w'.Sound := by
  induction moves with
  | refl => exact sound
  | tail _ move ih => exact move.sound ih

theorem Moves.issued (moves : Moves call before w w') (old : id ∈ w.issued) : id ∈ w'.issued := by
  induction moves with
  | refl => exact old
  | tail _ move ih =>
    cases move with
    | issue k fresh => exact mem_cons_of_mem _ ih
    | _ => exact ih

/-- How a call rewrites the record of an operation that exists. -/
inductive Rewrite (op : Operation) : Operation → Prop
  | interrupt : Rewrite op op.interrupt
  | ended (e : End) : Rewrite op (e.apply op)
  | mutated (m : Mutation) : Rewrite op (m.apply op)

theorem Rewrite.sameRequest (rewrite : Rewrite op now) : SameRequest op now := by
  cases rewrite with
  | interrupt => exact op.interrupt_sameRequest
  | ended e => exact e.sameRequest op
  | mutated m => exact m.sameRequest op

theorem Move.durably_cases {P : Option Operation → Prop} (move : Move call before w w')
    (durable : w.Durably id P)
    (interrupted : ∀ op, w.record id = some op → op.id = id → op.state.isTerminal = false →
      id ∈ w.memory.interrupted ∨ call = .start → P (some op.interrupt))
    (ended : ∀ op e, w.record id = some op → op.id = id → w.memory.keptEnd id = some e →
      P (some (e.apply op)))
    (mutated : ∀ op m, w.record id = some op → op.id = id → call = .update id m →
      P (some (m.apply op)))
    (created : ∀ kind key hash database, id ∉ before → w.record id = none →
      P (some (newRecord id kind key hash database)))
    (discarded : id ∉ before →
      (∀ op, w.record id = some op → op.state.isTerminal = false) → P none) :
    w'.Durably id P := by
  cases move with
  | sync => exact StoreWorld.durably_sync.mpr durable.visible
  | interrupt op known found running =>
    refine (StoreWorld.durably_put _).mpr ⟨durable, ?_⟩
    rintro rfl
    exact interrupted op found rfl running (.inl known)
  | writeEnd op e kept judged found =>
    refine (StoreWorld.durably_put _).mpr ⟨durable, fun same => ?_⟩
    obtain rfl : id = op.id := same.trans (e.sameRequest op).id
    exact ended op e found rfl kept
  | mutate op m asked judged found =>
    refine (StoreWorld.durably_put _).mpr ⟨durable, fun same => ?_⟩
    obtain rfl : id = op.id := same.trans (m.sameRequest op).id
    exact mutated op m found rfl asked
  | failOnStart op asked found running =>
    refine (StoreWorld.durably_put _).mpr ⟨durable, ?_⟩
    rintro rfl
    exact interrupted op found rfl running (.inr asked)
  | create k kind key hash database asked unused issued missing admits =>
    refine (StoreWorld.durably_put _).mpr ⟨durable, ?_⟩
    rintro rfl
    exact created kind key hash database unused missing
  | discard k unused running =>
    refine (StoreWorld.durably_drop k).mpr ⟨durable, ?_⟩
    rintro rfl
    exact discarded unused running
  | list | judged | endWritten | endMissing | keepEnd | issue | noteUnreadable => exact durable

inductive Rewritten (call : StoreCall) (w : StoreWorld) (id : OperationID) (op : Operation) :
    Operation → Prop
  | interrupt : Rewritten call w id op op.interrupt
  | ended (e : End) (kept : w.memory.keptEnd id = some e) : Rewritten call w id op (e.apply op)
  | mutated (m : Mutation) (asked : call = .update id m) : Rewritten call w id op (m.apply op)

theorem Rewritten.rewrite (rewritten : Rewritten call w id op now) : Rewrite op now := by
  cases rewritten with
  | interrupt => exact .interrupt
  | ended e kept => exact .ended e
  | mutated m asked => exact .mutated m

/-- A move leaves the record of an operation that existed before the call, or
    rewrites it. -/
theorem Move.record_cases (move : Move call before w w') (old : id ∈ before) :
    w'.record id = w.record id ∨ ∃ op now, w.record id = some op ∧ w'.record id = some now ∧
      Rewritten call w id op now := by
  have put : ∀ op now : Operation, now.id = op.id → w.record op.id = some op →
      (id = op.id → Rewritten call w id op now) →
      (w.change (.put now)).record id = w.record id ∨ ∃ op now', w.record id = some op ∧
        (w.change (.put now)).record id = some now' ∧ Rewritten call w id op now' := by
    intro op now same found rewritten
    by_cases here : id = op.id
    · refine .inr ⟨op, now, here ▸ found, ?_, rewritten here⟩
      rw [StoreWorld.record_put, here, same, update_self]
    · exact .inl (by rw [StoreWorld.record_put, same, update_of_ne here])
  cases move with
  | interrupt op known found running => exact put op _ rfl found fun _ => .interrupt
  | writeEnd op e kept judged found =>
    exact put op _ (e.sameRequest op).id found fun same => .ended e (same ▸ kept)
  | mutate op m asked judged found =>
    exact put op _ (m.sameRequest op).id found fun same => .mutated m (same ▸ asked)
  | failOnStart op asked found running => exact put op _ rfl found fun _ => .interrupt
  | create k kind key hash database asked unused issued missing admits =>
    have differs : id ≠ k := fun same => unused (same ▸ old)
    exact .inl (by simp [update_of_ne differs])
  | discard k unused running =>
    have differs : id ≠ k := fun same => unused (same ▸ old)
    exact .inl (by simp [update_of_ne differs])
  | sync | list | judged | endWritten | endMissing | keepEnd | issue | noteUnreadable =>
    exact .inl rfl

/-- A property of a record that every rewrite keeps stays true of what a power
    loss may leave. -/
theorem Move.durably {P : Operation → Prop} (move : Move call before w w') (old : id ∈ before)
    (closed : ∀ op now, Rewrite op now → P op → P now)
    (durable : w.Durably id fun r => ∃ op, r = some op ∧ P op) :
    w'.Durably id fun r => ∃ op, r = some op ∧ P op := by
  have rewritten : ∀ op now, w.record id = some op → Rewrite op now →
      ∃ op, some now = some op ∧ P op := by
    intro op now found rewrite
    obtain ⟨current, visible, holds⟩ := durable.visible
    rw [found] at visible
    cases visible
    exact ⟨now, rfl, closed op now rewrite holds⟩
  refine move.durably_cases durable ?_ ?_ ?_ ?_ ?_
  · exact fun op found _ _ _ => rewritten op _ found .interrupt
  · exact fun op e found _ _ => rewritten op _ found (.ended e)
  · exact fun op m found _ _ => rewritten op _ found (.mutated m)
  · exact fun _ _ _ _ unused => absurd old unused
  · exact fun unused => absurd old unused

theorem Moves.durably {P : Operation → Prop} (moves : Moves call before w w') (old : id ∈ before)
    (closed : ∀ op now, Rewrite op now → P op → P now)
    (durable : w.Durably id fun r => ∃ op, r = some op ∧ P op) :
    w'.Durably id fun r => ∃ op, r = some op ∧ P op := by
  induction moves with
  | refl => exact durable
  | tail _ move ih => exact move.durably old closed ih

end Moves

theorem freshID_notMem (issued : List OperationID) (c : StoreChoice) :
    freshID issued c ∉ issued := by
  have beyond : issued.foldr max 0 + 1 ∉ issued := by
    have bound : ∀ id ∈ issued, id ≤ issued.foldr max 0 := by
      induction issued with
      | nil => simp
      | cons head issued ih =>
        intro id member
        rcases mem_cons.mp member with rfl | member
        · exact le_max_left _ _
        · exact le_trans (ih id member) (le_max_right _ _)
    exact fun member => absurd (bound _ member) (Nat.not_succ_le_self _)
  cases c with
  | fresh id =>
    simp only [freshID]
    split
    · exact beyond
    · assumption
  | _ => exact beyond

section Effects

variable {crash : StoreWorld → Prop} {w : StoreWorld} {id : OperationID} {op : Operation}
  {post : Except StoreError Unit → StoreWorld → Prop} (here : crash w)
include here

theorem perform_memory {post : Memory → StoreWorld → Prop} (next : post w.memory w) :
    Ensures storeHandler crash (perform .memory) post w :=
  ⟨here, fun _ => next⟩

theorem perform_setMemory {m : Memory} {post : Unit → StoreWorld → Prop}
    (next : post () (w.remember m)) : Ensures storeHandler crash (perform (.setMemory m)) post w :=
  ⟨here, fun _ => next⟩

theorem perform_mapOrder {ids : List OperationID} {post : List OperationID → StoreWorld → Prop}
    (next : ∀ order, post order w) :
    Ensures storeHandler crash (perform (.mapOrder ids)) post w := by
  refine ⟨here, fun c => ?_⟩
  cases c <;> exact next _

theorem perform_mkdirAll
    (next : ∀ answer, post answer w) : Ensures storeHandler crash (perform .mkdirAll) post w := by
  refine ⟨here, fun c => ?_⟩
  cases c <;> exact next _

theorem perform_readDir {post : Except StoreError (List OperationID) → StoreWorld → Prop}
    (failed : ∀ e, post (.error e) w) (listed : post (.ok w.entries) w) :
    Ensures storeHandler crash (perform .readDir) post w := by
  refine ⟨here, fun c => ?_⟩
  cases c
  case fail => exact failed _
  case failAt => exact failed _
  all_goals exact listed

theorem perform_readFile {post : Except StoreError Operation → StoreWorld → Prop}
    (failed : ∀ e, e.isNotFound = false → post (.error e) w)
    (missing : w.record id = none → post (.error .notFound) w)
    (found : ∀ op, w.record id = some op → post (.ok op) w) :
    Ensures storeHandler crash (perform (.readFile id)) post w := by
  refine ⟨here, fun c => ?_⟩
  cases c
  case fail => exact failed _ rfl
  case failAt => exact failed _ rfl
  case garbled => exact failed _ rfl
  all_goals
    simp only [storeHandler]
    cases answer : w.record id with
    | none => exact missing answer
    | some op => exact found op answer

section

variable (failed : ∀ step cause, post (.error (.write step cause)) w)
include failed

theorem perform_writeTemp (next : post (.ok ()) w) :
    Ensures storeHandler crash (perform (.writeTemp op)) post w := by
  refine ⟨here, fun c => ?_⟩
  cases c
  case fail => exact failed _ _
  case failAt => exact failed _ _
  all_goals exact next

theorem perform_rename (next : post (.ok ()) (w.change (.put op))) :
    Ensures storeHandler crash (perform (.rename op)) post w := by
  refine ⟨here, fun c => ?_⟩
  cases c
  case fail => exact failed _ _
  case failAt => exact failed _ _
  all_goals exact next

theorem perform_syncDir (next : post (.ok ()) w.sync) :
    Ensures storeHandler crash (perform .syncDir) post w := by
  refine ⟨here, fun c => ?_⟩
  cases c
  case fail => exact failed _ _
  case failAt => exact failed _ _
  all_goals exact next

end

theorem perform_remove (failed : ∀ e, post (.error e) w)
    (next : post (.ok ()) (w.change (.drop id))) :
    Ensures storeHandler crash (perform (.remove id)) post w := by
  refine ⟨here, fun c => ?_⟩
  cases c <;> simp only [storeHandler] <;> cases w.record id <;> first | exact next | exact failed _

theorem perform_newOperationID {post : Except StoreError OperationID → StoreWorld → Prop}
    (failed : ∀ e, post (.error e) w) (next : ∀ id, id ∉ w.issued → post (.ok id) (w.issue id)) :
    Ensures storeHandler crash (perform .newOperationID) post w := by
  refine ⟨here, fun c => ?_⟩
  cases c
  case fail => exact failed _
  case failAt => exact failed _
  all_goals exact next _ (freshID_notMem _ _)

end Effects

abbrev StoreCall.Ensures (call : StoreCall) (before : List OperationID) (start : StoreWorld)
    {α : Type} (p : StoreM α) (post : α → StoreWorld → Prop) (w : StoreWorld) : Prop :=
  Program.Ensures storeHandler (Moves call before start) p post w

section Programs

variable {call : StoreCall} {start w : StoreWorld} {before : List OperationID}

/-- Reading changes only a record that the start could not read, and creates and
    forgets none. -/
structure ReadFrame (w w' : StoreWorld) : Prop where
  issued : w'.issued = w.issued
  keptEnd : ∀ id, w'.memory.keptEnd id = w.memory.keptEnd id
  interrupted : ∀ id, id ∈ w'.memory.interrupted → id ∈ w.memory.interrupted
  record : ∀ id, id ∉ w.memory.interrupted → w'.record id = w.record id
  missing : ∀ id, w.record id = none → w'.record id = none

theorem ReadFrame.refl (w : StoreWorld) : ReadFrame w w :=
  ⟨rfl, fun _ => rfl, fun _ => id, fun _ _ => rfl, fun _ => id⟩

theorem ReadFrame.trans {a b c : StoreWorld} (first : ReadFrame a b) (second : ReadFrame b c) :
    ReadFrame a c where
  issued := second.issued.trans first.issued
  keptEnd id := (second.keptEnd id).trans (first.keptEnd id)
  interrupted id h := first.interrupted id (second.interrupted id h)
  record id h := (second.record id fun h' => h (first.interrupted id h')).trans (first.record id h)
  missing id h := second.missing id (first.missing id h)

theorem ReadFrame.interrupt {op : Operation} (known : op.id ∈ w.memory.interrupted)
    (found : w.record op.id = some op) : ReadFrame w (w.change (.put op.interrupt)) where
  issued := rfl
  keptEnd _ := rfl
  interrupted _ := id
  record id h := by
    have other : id ≠ op.interrupt.id := fun same => h (same ▸ known)
    simp [update_of_ne other]
  missing id h := by
    have other : id ≠ op.interrupt.id := fun same => by
      rw [same, show op.interrupt.id = op.id from rfl, found] at h
      cases h
    simpa [update_of_ne other] using h

theorem ReadFrame.sync (w : StoreWorld) : ReadFrame w w.sync :=
  ⟨rfl, fun _ => rfl, fun _ => id, fun _ _ => rfl, fun _ => id⟩

theorem ReadFrame.forgetInterrupted (w : StoreWorld) (id : OperationID) :
    ReadFrame w (w.remember (w.memory.forgetInterrupted id)) where
  issued := rfl
  keptEnd _ := rfl
  interrupted _ h := by
    simp only [StoreWorld.memory_remember, Memory.mem_forgetInterrupted] at h
    exact h.1
  record _ _ := rfl
  missing _ h := h

/-- An answer of the store: the visible record, not one the start left to be
    judged, and not one whose end is kept in memory. -/
structure Answer (w : StoreWorld) (op : Operation) : Prop where
  visible : w.record op.id = some op
  judged : op.id ∉ w.memory.interrupted
  settled : w.memory.keptEnd op.id = none

theorem Answer.of_readFrame {w w' : StoreWorld} (answer : Answer w op)
    (frame : ReadFrame w w') : Answer w' op where
  visible := (frame.record op.id answer.judged).trans answer.visible
  judged h := answer.judged (frame.interrupted op.id h)
  settled := (frame.keptEnd op.id).trans answer.settled

section Read

variable {id : OperationID} {op : Operation} (reach : Moves call before start w)
include reach

theorem writeLocked_spec {post : Except StoreError Unit → StoreWorld → Prop}
    (may : Move call before w (w.change (.put op)))
    (failed : ∀ step cause, post (.error (.write step cause)) w)
    (unsynced : ∀ step cause, post (.error (.write step cause)) (w.change (.put op)))
    (written : post (.ok ()) (w.change (.put op)).sync) :
    call.Ensures before start (writeLocked op) post w := by
  unfold writeLocked
  refine ensures_bind.mpr (perform_writeTemp reach (fun step cause => failed step cause) ?_)
  refine ensures_bind.mpr (perform_rename reach (fun step cause => failed step cause) ?_)
  exact perform_syncDir (reach.tail may) unsynced written

theorem forgetInterrupted_spec {post : Unit → StoreWorld → Prop}
    (next : post () (w.remember (w.memory.forgetInterrupted op.id))) :
    call.Ensures before start (forgetInterrupted op.id) post w := by
  unfold forgetInterrupted
  exact ensures_bind.mpr (perform_memory reach (perform_setMemory reach next))

theorem forgetEnd_spec {post : Unit → StoreWorld → Prop}
    (next : post () (w.remember (w.memory.forgetEnd id))) :
    call.Ensures before start (forgetEnd id) post w := by
  unfold forgetEnd
  exact ensures_bind.mpr (perform_memory reach (perform_setMemory reach next))

theorem decodeLocked_spec {post : Except StoreError Operation → StoreWorld → Prop}
    (failed : ∀ e, e.isNotFound = false → post (.error e) w)
    (missing : w.record id = none → post (.error .notFound) w)
    (found : ∀ op, w.record id = some op → op.id = id → post (.ok op) w) :
    call.Ensures before start (decodeLocked id) post w := by
  unfold decodeLocked
  refine ensures_bind.mpr (perform_readFile reach failed missing fun op present => ?_)
  dsimp only
  split
  · exact failed _ rfl
  · rename_i usable
    exact found op present (by tauto)

theorem failInterruptedLocked_spec {post : Except StoreError Operation → StoreWorld → Prop}
    (known : op.id ∈ w.memory.interrupted) (present : w.record op.id = some op)
    (failed : ∀ e w', Moves call before start w' → ReadFrame w w' → e.isNotFound = false →
      post (.error e) w')
    (read : ∀ now w', Moves call before start w' → ReadFrame w w' → now.id = op.id →
      w'.record op.id = some now → op.id ∉ w'.memory.interrupted → post (.ok now) w') :
    call.Ensures before start (failInterruptedLocked op) post w := by
  unfold failInterruptedLocked
  split
  · rename_i ended
    refine ensures_bind.mpr (forgetInterrupted_spec reach ?_)
    exact read op _ (reach.tail (.judged w op present ended))
      (ReadFrame.forgetInterrupted w op.id) rfl present (by simp)
  · rename_i running
    have stillRunning : op.state.isTerminal = false := by simpa using running
    have may : Move call before w (w.change (.put op.interrupt)) :=
      .interrupt w op known present stillRunning
    have renamed := ReadFrame.interrupt known present
    refine ensures_bind.mpr (writeLocked_spec reach may ?_ ?_ ?_)
    · exact fun step cause => failed _ w reach (ReadFrame.refl w) rfl
    · exact fun step cause => failed _ _ (reach.tail may) renamed rfl
    · have synced := (reach.tail may).tail (.sync _)
      have visible : (w.change (.put op.interrupt)).sync.record op.interrupt.id =
          some op.interrupt := by
        simp
      refine ensures_bind.mpr (forgetInterrupted_spec synced ?_)
      refine read op.interrupt _ (synced.tail (.judged _ op.interrupt visible rfl)) ?_ rfl visible
        (by simp)
      exact (renamed.trans (ReadFrame.sync _)).trans (ReadFrame.forgetInterrupted _ _)

theorem readLocked_spec {post : Except StoreError Operation → StoreWorld → Prop}
    (failed : ∀ e w', Moves call before start w' → ReadFrame w w' → e.isNotFound = false →
      post (.error e) w')
    (missing : w.record id = none → post (.error .notFound) w)
    (read : ∀ op w', Moves call before start w' → ReadFrame w w' → op.id = id →
      w'.record id = some op → id ∉ w'.memory.interrupted → post (.ok op) w') :
    call.Ensures before start (readLocked id) post w := by
  unfold readLocked
  refine ensures_bind.mpr (decodeLocked_spec reach ?_ missing ?_)
  · exact fun e other => failed e w reach (ReadFrame.refl w) other
  · rintro op present rfl
    refine ensures_bind.mpr (perform_memory reach ?_)
    split
    · rename_i known
      exact failInterruptedLocked_spec reach known present failed read
    · rename_i unknown
      exact read op w reach (ReadFrame.refl w) rfl present unknown

theorem updateLocked_spec {mutate : Operation → Operation}
    {post : Except StoreError Operation → StoreWorld → Prop}
    (may : ∀ op w', ReadFrame w w' → op.id = id → w'.record id = some op →
      id ∉ w'.memory.interrupted → Move call before w' (w'.change (.put (mutate op))))
    (failed : ∀ e w', Moves call before start w' → e.isNotFound = false → post (.error e) w')
    (missing : w.record id = none → post (.error .notFound) w)
    (written : ∀ op w', Moves call before start w' → ReadFrame w w' → op.id = id →
      w'.record id = some op → id ∉ w'.memory.interrupted →
      post (.ok (mutate op)) (w'.change (.put (mutate op))).sync) :
    call.Ensures before start (updateLocked id mutate) post w := by
  unfold updateLocked
  refine ensures_bind.mpr (readLocked_spec reach ?_ missing ?_)
  · exact fun e w' reach' _ other => failed e w' reach' other
  · intro op w' reach' frame named present judged
    have step := may op w' frame named present judged
    refine ensures_bind.mpr (writeLocked_spec reach' step ?_ ?_ ?_)
    · exact fun _ _ => failed _ w' reach' rfl
    · exact fun _ _ => failed _ _ (reach'.tail step) rfl
    · exact written op w' reach' frame named present judged

theorem settleLocked_spec {post : Except StoreError Unit → StoreWorld → Prop}
    (failed : ∀ e w', Moves call before start w' → (e.isNotFound = true → w'.record id = none) →
      post (.error e) w')
    (settled : ∀ w', Moves call before start w' → w'.memory.keptEnd id = none →
      (∀ e, w.memory.keptEnd id = some e → ∃ op, w'.Durably id (· = some (e.apply op))) →
      post (.ok ()) w') :
    call.Ensures before start (settleLocked id) post w := by
  unfold settleLocked
  refine ensures_bind.mpr (perform_memory reach ?_)
  split
  · rename_i none
    exact settled w reach none (by simp [none])
  · rename_i e kept
    have may : ∀ op w', ReadFrame w w' → op.id = id → w'.record id = some op →
        id ∉ w'.memory.interrupted → Move call before w' (w'.change (.put (e.apply op))) := by
      rintro op w' frame rfl present judged
      exact .writeEnd w' op e ((frame.keptEnd op.id).trans kept) judged present
    refine ensures_bind.mpr (updateLocked_spec reach may ?_ ?_ ?_)
    · intro err w' reach' other
      simp only [other]
      exact failed err w' reach' (by simp [other])
    · intro missing
      refine ensures_bind.mpr (forgetEnd_spec reach ?_)
      exact failed _ _ (reach.tail (.endMissing w id missing)) fun _ => missing
    · rintro op w' reach' frame rfl present judged
      have synced := (reach'.tail (may op w' frame rfl present judged)).tail (.sync _)
      refine ensures_bind.mpr (forgetEnd_spec synced ?_)
      have named := (e.sameRequest op).id
      have durable : (w'.change (.put (e.apply op))).sync.Durably op.id
          (· = some (e.apply op)) := by
        simp [← named]
      refine settled _ (synced.tail (.endWritten _ op e ?_ durable)) (by simp) ?_
      · exact (frame.keptEnd op.id).trans kept
      · rintro other same
        rw [kept] at same
        cases same
        exact ⟨op, durable⟩

theorem settleEach_spec {ids : List OperationID} {post : Unit → StoreWorld → Prop}
    (next : ∀ w', Moves call before start w' → post () w') :
    call.Ensures before start (settleEach ids) post w := by
  induction ids generalizing w with
  | nil => exact next w reach
  | cons id rest ih =>
    exact ensures_bind.mpr (settleLocked_spec reach (fun _ _ reach' _ => ih reach')
      fun _ reach' _ _ => ih reach')

theorem retryUnsettled_spec {post : Unit → StoreWorld → Prop}
    (next : ∀ w', Moves call before start w' → post () w') :
    call.Ensures before start retryUnsettled post w := by
  unfold retryUnsettled
  refine ensures_bind.mpr (perform_memory reach (ensures_bind.mpr (perform_mapOrder reach ?_)))
  exact fun order => settleEach_spec reach next

theorem get_spec {post : Except StoreError Operation → StoreWorld → Prop}
    (failed : ∀ e w', Moves call before start w' → (e.isNotFound = true → w'.record id = none) →
      post (.error e) w')
    (answered : ∀ op w', Moves call before start w' → op.id = id → Answer w' op →
      post (.ok op) w') :
    call.Ensures before start (get id) post w := by
  unfold get
  refine ensures_bind.mpr (settleLocked_spec reach ?_ ?_)
  · exact fun e w' reach' missing => failed _ w' reach' missing
  · intro w' reach' settled _
    refine readLocked_spec reach' ?_ ?_ ?_
    · exact fun e w'' reach'' _ other => failed e w'' reach'' (by simp [other])
    · exact fun missing => failed _ w' reach' fun _ => missing
    · rintro op w'' reach'' frame rfl present judged
      exact answered op w'' reach'' rfl ⟨present, judged, (frame.keptEnd op.id).trans settled⟩

/-- Each of the records `ids` is missing, read or kept as unreadable, and what
    was read is still the visible record. -/
structure Listed (ids : List OperationID) (ops : List Operation)
    (unreadable : List (OperationID × StoreError)) (w : StoreWorld) : Prop where
  covers : ∀ id ∈ ids, w.record id = none ∨ (∃ op ∈ ops, w.record id = some op) ∨
    id ∈ unreadable.map (·.1)
  visible : ∀ op ∈ ops, w.record op.id = some op
  judged : ∀ op ∈ ops, op.id ∉ w.memory.interrupted
  ordered : (ops.map (·.id)).Sublist ids
  among : ∀ id ∈ unreadable.map (·.1), id ∈ ids

theorem readEach_spec {ids : List OperationID}
    {post : List Operation × List (OperationID × StoreError) → StoreWorld → Prop}
    (next : ∀ ops unreadable w', Moves call before start w' → ReadFrame w w' →
      Listed ids ops unreadable w' → post (ops, unreadable) w') :
    call.Ensures before start (readEach ids) post w := by
  induction ids generalizing w post with
  | nil => exact next [] [] w reach (ReadFrame.refl w) ⟨by simp, by simp, by simp, by simp, by simp⟩
  | cons id rest ih =>
    refine ensures_bind.mpr (readLocked_spec reach ?_ ?_ ?_)
    · intro e w' reach' frame other
      refine ensures_bind.mpr (ih reach' fun ops unreadable w'' reach'' frame' listed => ?_)
      simp only [other]
      refine next ops _ w'' reach'' (frame.trans frame')
        ⟨?_, listed.visible, listed.judged, listed.ordered.cons id, ?_⟩
      swap
      · rintro k (_ | ⟨_, member⟩)
        · exact mem_cons_self
        · exact mem_cons_of_mem _ (listed.among k member)
      rintro k (_ | ⟨_, member⟩)
      · simp
      · rcases listed.covers k member with gone | read | kept
        · exact .inl gone
        · exact .inr (.inl read)
        · exact .inr (.inr (mem_cons_of_mem _ kept))
    · intro missing
      refine ensures_bind.mpr (ih reach fun ops unreadable w' reach' frame listed => ?_)
      refine next ops unreadable w' reach' frame
        ⟨?_, listed.visible, listed.judged, listed.ordered.cons id,
          fun k member => mem_cons_of_mem _ (listed.among k member)⟩
      rintro k (_ | ⟨_, member⟩)
      · exact .inl (frame.missing id missing)
      · exact listed.covers k member
    · rintro op w' reach' frame rfl present judged
      refine ensures_bind.mpr (ih reach' fun ops unreadable w'' reach'' frame' listed => ?_)
      have kept : w''.record op.id = some op := (frame'.record op.id judged).trans present
      refine next (op :: ops) unreadable w'' reach'' (frame.trans frame')
        ⟨?_, ?_, ?_, listed.ordered.cons_cons op.id,
          fun k member => mem_cons_of_mem _ (listed.among k member)⟩
      · rintro k (_ | ⟨_, member⟩)
        · exact .inr (.inl ⟨op, by simp, kept⟩)
        · rcases listed.covers k member with gone | ⟨later, among, read⟩ | kept
          · exact .inl gone
          · exact .inr (.inl ⟨later, mem_cons_of_mem _ among, read⟩)
          · exact .inr (.inr kept)
      · rintro k (_ | ⟨_, member⟩)
        · exact kept
        · exact listed.visible k member
      · rintro k (_ | ⟨_, member⟩)
        · exact fun known => judged (frame'.interrupted op.id known)
        · exact listed.judged k member

end Read

theorem listLocked_spec {post : Except StoreError (List Operation) → StoreWorld → Prop}
    (sound : start.Sound) (reach : Moves call before start w)
    (failed : ∀ e, post (.error e) w)
    (next : ∀ ops w', Moves call before start w' → ReadFrame w w' →
      (∀ id op, w'.record id = some op → op ∈ ops ∨ id ∈ w'.memory.unreadable.map (·.1)) →
      (∀ op ∈ ops, w'.record op.id = some op) → (∀ op ∈ ops, op.id ∉ w'.memory.interrupted) →
      (ops.map (·.id)).Nodup → post (.ok ops) w') :
    call.Ensures before start listLocked post w := by
  unfold listLocked
  refine ensures_bind.mpr (perform_readDir reach failed ?_)
  refine ensures_bind.mpr (readEach_spec reach fun ops unreadable w' reach' frame listed => ?_)
  refine ensures_bind.mpr (perform_memory reach' (ensures_bind.mpr (perform_setMemory reach' ?_)))
  have distinct : w.entries.Nodup :=
    (((perm_insertionSort _ _).nodup_iff.mpr (reach.sound sound).nodup).filter _)
  have known : ∀ id ∈ unreadable.map (·.1), id ∈ w'.issued := by
    intro id member
    have entry := listed.among id member
    simp only [StoreWorld.mem_entries] at entry
    exact frame.issued ▸ entry.1
  refine next ops _ (reach'.tail (.list w' unreadable known))
    ⟨frame.issued, frame.keptEnd, frame.interrupted, frame.record, frame.missing⟩ ?_ listed.visible
      listed.judged
    (listed.ordered.nodup distinct)
  intro id op found
  have present : w.record id ≠ none := fun missing => by
    have := frame.missing id missing
    simp_all
  obtain ⟨old, hold⟩ := Option.ne_none_iff_exists'.mp present
  have entry : id ∈ w.entries := by
    simp [hold, ((reach.sound sound).named hold).2]
  rcases listed.covers id entry with missing | ⟨current, member, visible⟩ | kept
  · simp_all
  · simp only [StoreWorld.record_remember, visible, Option.some.injEq] at found
    exact .inl (found ▸ member)
  · exact .inr kept

end Programs
end InstanceManager
