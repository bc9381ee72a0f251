import CubridOperator.InstanceManager.StoreEnds

/-!
What failing writes leave behind in the operation store.
-/
namespace InstanceManager
open Foundation Program Relation Function List

section Moves

variable {c : StoreCall} {before : List OperationID} {w w' : StoreWorld} {id : OperationID}

theorem Move.missing (move : Move c before w w')
    (creates : ∀ kind key hash database, c ≠ .findOrCreate kind key hash database)
    (missing : w.record id = none) : w'.record id = none := by
  have put : ∀ op now : Operation, now.id = op.id → w.record op.id = some op →
      (w.change (.put now)).record id = none := by
    intro op now same found
    have differs : id ≠ now.id := by
      intro equal
      rw [equal, same, found] at missing
      cases missing
    rw [StoreWorld.record_put, update_of_ne differs]
    exact missing
  cases move with
  | interrupt op known found running => exact put op _ rfl found
  | writeEnd op e kept judged found => exact put op _ (e.sameRequest op).id found
  | mutate op m asked judged found => exact put op _ (m.sameRequest op).id found
  | failOnStart op asked found running => exact put op _ rfl found
  | create k kind key hash database asked unused issued absent admits =>
    exact absurd asked (creates kind key hash database)
  | discard k unused running =>
    by_cases same : id = k
    · simp [same]
    · simpa [update_of_ne same] using missing
  | sync | list | judged | endWritten | endMissing | keepEnd | issue | noteUnreadable =>
    exact missing

theorem Moves.missing (moves : Moves c before w w')
    (creates : ∀ kind key hash database, c ≠ .findOrCreate kind key hash database)
    (missing : w.record id = none) : w'.record id = none := by
  induction moves with
  | refl => exact missing
  | tail _ move ih => exact move.missing creates ih

theorem Moves.request {op : Operation} (moves : Moves c before w w') (old : id ∈ before)
    (found : w.record id = some op) : ∃ now, w'.record id = some now ∧ SameRequest op now := by
  induction moves with
  | refl => exact ⟨op, found, ⟨rfl, rfl, rfl, rfl, rfl⟩⟩
  | tail _ move ih =>
    obtain ⟨now, visible, same⟩ := ih
    rcases move.record_cases old with unchanged | ⟨current, later, present, written, rewritten⟩
    · exact ⟨now, unchanged.trans visible, same⟩
    · rw [visible] at present
      cases present
      exact ⟨later, written, same.trans rewritten.rewrite.sameRequest⟩

/-- A record that has not ended is left to the start's judgement, has its end
    kept, or is held by somebody. -/
def Accounted (held : OperationID → Prop) (w : StoreWorld) (id : OperationID) : Prop :=
  ∀ op, w.record id = some op → op.state.isTerminal = false →
    id ∈ w.memory.interrupted ∨ w.memory.keptEnd id ≠ none ∨ held id

theorem Move.accounted {held : OperationID → Prop} (move : Move c before w w')
    (notStart : c ≠ .start)
    (creates : ∀ kind key hash database, c ≠ .findOrCreate kind key hash database)
    (updates : ∀ m, c = .update id m → held id) (accounted : Accounted held w id) :
    Accounted held w' id := by
  have overwrite : ∀ now : Operation, (id = now.id → now.state.isTerminal = false → held id) →
      Accounted held (w.change (.put now)) id := by
    intro now written op found going
    by_cases same : id = now.id
    · rw [StoreWorld.record_put, same, update_self] at found
      cases found
      exact .inr (.inr (written same going))
    · rw [StoreWorld.record_put, update_of_ne same] at found
      exact accounted op found going
  cases move with
  | interrupt op known found running =>
    refine overwrite _ fun _ going => ?_
    cases going
  | writeEnd op e kept _ found =>
    refine overwrite _ fun _ going => ?_
    simp at going
  | mutate op m asked _ found =>
    refine overwrite _ fun same _ => updates m ?_
    rw [asked, same, (m.sameRequest op).id]
  | failOnStart op asked found running | noteUnreadable asked => exact absurd asked notStart
  | create k kind key hash database asked unused issued missing admits =>
    exact absurd asked (creates kind key hash database)
  | discard k unused running =>
    intro op found going
    by_cases same : id = k
    · simp [same] at found
    · rw [StoreWorld.record_drop, update_of_ne same] at found
      exact accounted op found going
  | judged op found ended =>
    intro now visible going
    -- Only the operation that has ended is taken off the list.
    have differs : id ≠ op.id := by
      rintro rfl
      rw [StoreWorld.record_remember, found] at visible
      cases visible
      simp [ended] at going
    rcases accounted now visible going with known | kept | holder
    · exact .inl (by simp [known, differs])
    · exact .inr (.inl (by simpa using kept))
    · exact .inr (.inr holder)
  | endWritten op e kept written =>
    intro now visible going
    have differs : id ≠ op.id := by
      rintro rfl
      have shown := written.visible
      rw [StoreWorld.record_remember, shown] at visible
      cases visible
      simp at going
    rcases accounted now visible going with known | kept | holder
    · exact .inl known
    · exact .inr (.inl (by simpa [differs] using kept))
    · exact .inr (.inr holder)
  | endMissing k missing =>
    intro now visible going
    have differs : id ≠ k := by
      rintro rfl
      rw [StoreWorld.record_remember, missing] at visible
      cases visible
    rcases accounted now visible going with known | kept | holder
    · exact .inl known
    · exact .inr (.inl (by simpa [differs] using kept))
    · exact .inr (.inr holder)
  | keepEnd k e asked =>
    intro now visible going
    by_cases same : id = k
    · exact .inr (.inl (by simp [same]))
    · rcases accounted now visible going with known | kept | holder
      · exact .inl known
      · exact .inr (.inl (by simpa [same] using kept))
      · exact .inr (.inr holder)
  | sync | list | issue => exact accounted

theorem Moves.accounted {held : OperationID → Prop} (moves : Moves c before w w')
    (notStart : c ≠ .start)
    (creates : ∀ kind key hash database, c ≠ .findOrCreate kind key hash database)
    (updates : ∀ m, c = .update id m → held id) (accounted : Accounted held w id) :
    Accounted held w' id := by
  induction moves with
  | refl => exact accounted
  | tail _ move ih => exact move.accounted notStart creates updates ih

end Moves

/-- What a try to write a new record leaves: everything else as it was, and the
    record in place or not. -/
structure Tried (listed : StoreWorld) (record : Operation) (w : StoreWorld) : Prop where
  fresh : record.id ∉ listed.issued
  issued : w.issued = record.id :: listed.issued
  memory : w.memory = listed.memory
  others : ∀ id, id ≠ record.id → w.record id = listed.record id
  own : w.record record.id = none ∨ w.record record.id = some record

/-- Where `ok` allows it, a record is not left because its removal failed. -/
def Removes (ok : StoreWorld → StoreEffect → StoreChoice → Bool) : Prop :=
  ∀ w id c, ok w (.remove id) c = true → c.failure = none ∨ w.record id = none

inductive Answered (ok : StoreWorld → StoreEffect → StoreChoice → Bool) (listed : StoreWorld)
    (kind : OperationKind) (key hash database : String) :
    Except StoreError (Operation × Bool) → StoreWorld → Prop
  | refused (e) : Answered ok listed kind key hash database (.error e) listed
  | existed (op) (claims : op.idempotencyKey = key ∧ op.kind = kind) (answer : Answer listed op) :
      Answered ok listed kind key hash database (.ok (op, true)) listed
  | failed (e id w) (admits : Admits listed kind key database)
      (tried : Tried listed (newRecord id kind key hash database) w)
      (discarded : Removes ok → w.record id = none) :
      Answered ok listed kind key hash database (.error e) w
  | created (id w) (admits : Admits listed kind key database)
      (tried : Tried listed (newRecord id kind key hash database) w) :
      Answered ok listed kind key hash database (.ok (newRecord id kind key hash database, false)) w

section Creation

variable {w : StoreWorld} {kind : OperationKind} {key hash database : String}
  {ok : StoreWorld → StoreEffect → StoreChoice → Bool}

theorem tried_put {id : OperationID} (fresh : id ∉ w.issued) :
    Tried w (newRecord id kind key hash database)
      ((w.issue id).change (.put (newRecord id kind key hash database))) where
  fresh := fresh
  issued := rfl
  memory := rfl
  others k differs := by
    rw [newRecord_id] at differs
    simp [update_of_ne differs]
  own := .inr (by simp)

theorem tried_drop {record : Operation} {w' : StoreWorld} (tried : Tried w record w') :
    Tried w record (w'.change (.drop record.id)) where
  fresh := tried.fresh
  issued := tried.issued
  memory := tried.memory
  others k differs := by simpa [update_of_ne differs] using tried.others k differs
  own := .inl (by simp)

/-- The removal after a failed write leaves the record only where it fails. -/
theorem remove_answered {id : OperationID} {w' : StoreWorld} (e : StoreError)
    (admits : Admits w kind key database)
    (tried : Tried w (newRecord id kind key hash database) w') :
    Ensures (under storeHandler ok) (fun _ => True) (perform (.remove id))
      (fun _ w'' => Answered ok w kind key hash database (.error e) w'') w' := by
  refine ensures_ask_under trivial fun c allowed => ?_
  simp only [storeHandler]
  cases present : w'.record id with
  | none => cases c.failure <;> exact .failed e id w' admits tried fun _ => present
  | some op =>
    cases failure : c.failure with
    | none => exact .failed e id _ admits (tried_drop tried) fun _ => by simp
    | some cause =>
      refine .failed e id w' admits tried fun removes => ?_
      rcases removes w' id c allowed with succeeded | missing
      · simp [failure] at succeeded
      · exact missing

theorem createRecord_answered (sound : w.Sound) (admits : Admits w kind key database) :
    Ensures (under storeHandler ok) (fun _ => True) (createRecord kind key hash database)
      (Answered ok w kind key hash database) w := by
  unfold createRecord
  refine ensures_bind.mpr
    (perform_newOperationID trivial (fun e => .refused e) fun id fresh => ?_).under
  have missing : (w.issue id).record id = none := by
    cases present : w.record id with
    | none => simpa using present
    | some op => exact absurd (sound.named present).2 fresh
  have issued : Tried w (newRecord id kind key hash database) (w.issue id) :=
    ⟨fresh, rfl, rfl, fun _ _ => rfl, .inl missing⟩
  unfold writeLocked
  refine ensures_bind.mpr (ensures_bind.mpr (perform_writeTemp trivial ?_ ?_).under)
  · exact fun _ _ => ensures_bind.mpr (remove_answered _ admits issued)
  · refine ensures_bind.mpr (perform_rename trivial ?_ (perform_syncDir trivial ?_ ?_).under).under
    · exact fun _ _ => ensures_bind.mpr (remove_answered _ admits issued)
    · exact fun _ _ => ensures_bind.mpr (remove_answered _ admits (tried_put fresh))
    · have tried : Tried w (newRecord id kind key hash database) _ := tried_put fresh
      exact .created id _ admits ⟨fresh, rfl, rfl, tried.others, tried.own⟩

variable (kind key hash database) in
/-- What FindOrCreate answers rests on the listing, which finds what the retry
    of the kept ends left. -/
theorem findOrCreate_answered {P : StoreWorld → Prop} (sound : w.Sound)
    (retry : Ensures (under storeHandler ok) (fun _ => True) retryUnsettled (fun _ w' => P w') w) :
    Ensures (under storeHandler ok) (fun _ => True) (findOrCreate kind key hash database)
      (fun answer w' => ∃ retried listed, P retried ∧ ReadFrame retried listed ∧
        Moves .unwrittenEnds w.issued w listed ∧
        Answered ok listed kind key hash database answer w') w := by
  have moves : Ensures storeHandler (Moves .unwrittenEnds w.issued w) retryUnsettled
      (fun _ w' => Moves .unwrittenEnds w.issued w w') w :=
      retryUnsettled_spec .refl fun _ reach => reach
  unfold findOrCreate
  refine ensures_bind.mpr (((retry.and moves.under).weaken fun _ _ => trivial).mono ?_)
  rintro _ w₁ ⟨holds, reach⟩
  refine findListed_stages Ensures.under sound reach (fun _ _ => trivial) ?_ ?_ ?_
  · exact fun e w' reach frame => ⟨w₁, w', holds, frame, reach, .refused e⟩
  · exact fun op w' reach frame key kind _ answer =>
      ⟨w₁, w', holds, frame, reach, .existed op ⟨key, kind⟩ answer⟩
  · intro listed reach frame admits
    refine (createRecord_answered (reach.sound sound) admits).mono fun answer w' answered => ?_
    exact ⟨w₁, listed, holds, frame, reach, answered⟩

end Creation

/-- No sync of the directory fails while the record of `id` shows an end that
    is kept: the step after the rename of that end. -/
def syncsEnd (id : OperationID) (w : StoreWorld) : StoreEffect → StoreChoice → Bool
  | .syncDir, c =>
    c.failure.isNone || (w.memory.keptEnd id).isNone || (w.record id).all (!·.state.isTerminal)
  | _, _ => true

/-- The operation is one of this process, and its record does not show the end
    that is kept for it. -/
structure Unshown (id : OperationID) (w : StoreWorld) : Prop where
  own : id ∉ w.memory.interrupted
  going : w.memory.keptEnd id ≠ none → ∀ op, w.record id = some op → op.state.isTerminal = false

namespace Unshown

variable {id k : OperationID} {w w' : StoreWorld}

theorem read (unshown : Unshown id w) (frame : ReadFrame w w') : Unshown id w' where
  own known := unshown.own (frame.interrupted id known)
  going kept op found := by
    rw [frame.keptEnd] at kept
    rw [frame.record id unshown.own] at found
    exact unshown.going kept op found

theorem forgetEnd (unshown : k ≠ id → Unshown id w) (own : id ∉ w.memory.interrupted) :
    Unshown id (w.remember (w.memory.forgetEnd k)) where
  own := own
  going kept := by
    by_cases same : k = id
    · simp [same] at kept
    · exact (unshown same).going (by simpa [Ne.symm same] using kept)

theorem put {op : Operation} (unshown : Unshown id w) (other : id ≠ op.id) :
    Unshown id (w.change (.put op)) where
  own := unshown.own
  going kept now found := by
    rw [StoreWorld.record_put, update_of_ne other] at found
    exact unshown.going kept now found

/-- The retry of an end puts the record in place and syncs it: no step between
    the two fails. -/
theorem settleLocked (unshown : Unshown id w) :
    Ensures (Program.under storeHandler (syncsEnd id)) (fun _ => True) (settleLocked k)
      (fun _ w' => Unshown id w') w := by
  have forget : ∀ w' : StoreWorld, (k ≠ id → Unshown id w') → id ∉ w'.memory.interrupted →
      Ensures storeHandler (fun _ => True) (InstanceManager.forgetEnd k)
        (fun _ w'' => Unshown id w'') w' :=
    fun w' other own =>
      ensures_bind.mpr (perform_memory trivial (perform_setMemory trivial (forgetEnd other own)))
  unfold InstanceManager.settleLocked
  refine ensures_bind.mpr (perform_memory trivial ?_).under
  split
  · exact unshown
  · rename_i e kept
    unfold updateLocked
    have here : Moves .unwrittenEnds w.issued w w := .refl
    refine ensures_bind.mpr
      (ensures_bind.mpr (((readLocked_spec here ?_ ?_ ?_).weaken fun _ _ => trivial).under))
    · intro err w' _ frame other
      simp only [ensures_pure, other]
      exact unshown.read frame
    · exact fun _ => ensures_bind.mpr (forget w (fun _ => unshown) unshown.own).under
    · rintro op w' _ frame rfl present _
      have read := unshown.read frame
      unfold writeLocked
      refine ensures_bind.mpr
        (ensures_bind.mpr (perform_writeTemp trivial (fun _ _ => read) ?_).under)
      refine ensures_bind.mpr (perform_rename trivial (fun _ _ => read) ?_).under
      refine ensures_ask_under trivial fun c allowed => ?_
      have named := (e.sameRequest op).id
      have renamed : op.id ≠ id → Unshown id (w'.change (.put (e.apply op))) :=
        fun differs => read.put fun same => differs (named.symm.trans same.symm)
      simp only [storeHandler]
      cases failure : c.failure with
      | none =>
        have synced : op.id ≠ id → Unshown id (w'.change (.put (e.apply op))).sync :=
          fun differs => (renamed differs).read (.sync _)
        exact ensures_bind.mpr (forget _ synced read.own).under
      | some cause =>
        refine renamed ?_
        rintro rfl
        have shown : Function.update w'.record (e.apply op).id (some (e.apply op)) op.id = some
            (e.apply op) := by
          rw [named, update_self]
        simp [syncsEnd, failure, frame.keptEnd, kept, shown] at allowed

theorem retryUnsettled (unshown : Unshown id w) :
    Ensures (Program.under storeHandler (syncsEnd id)) (fun _ => True) retryUnsettled
      (fun _ w' => Unshown id w') w := by
  have each : ∀ ids (w : StoreWorld), Unshown id w →
      Ensures (Program.under storeHandler (syncsEnd id)) (fun _ => True) (settleEach ids)
        (fun _ w' => Unshown id w') w := by
    intro ids
    induction ids with
    | nil => exact fun w unshown => unshown
    | cons k rest ih =>
      exact fun w unshown => ensures_bind.mpr (unshown.settleLocked.mono fun _ => ih)
  unfold InstanceManager.retryUnsettled
  refine ensures_bind.mpr (perform_memory trivial ?_).under
  exact ensures_bind.mpr (perform_mapOrder trivial fun order => each order w unshown).under

end Unshown

theorem not_admits_of_kept {c : StoreCall} {w retried listed w' : StoreWorld} {kind : OperationKind}
    {key database : String} {record op : Operation} (moves : Moves c w.issued w listed)
    (unshown : Unshown op.id retried) (frame : ReadFrame retried listed)
    (tried : Tried listed record w') (sound : w.Sound) (found : w.record op.id = some op)
    (same : op.database = database) (still : w'.memory.keptEnd op.id ≠ none) :
    ¬ Admits listed kind key database := by
  intro admits
  obtain ⟨now, visible, request⟩ := moves.request (sound.named found).2 found
  have ended := (admits op.id now visible).2 (request.database.trans same)
  rw [tried.memory] at still
  have going := (unshown.read frame).going still now visible
  simp [ended] at going

def unwrittenRestore : List StoreEvent :=
  [.call .start calm, .call (.findOrCreate .restore "key" "hash" "db") calm,
   .call (.settle 1 (.completed none)) (replicate 5 .ok ++ [.fail "no space left on device"])]

def unsyncedRestore : List StoreEvent :=
  [.call .start calm, .call (.findOrCreate .restore "key" "hash" "db") calm,
   .call (.settle 1 (.completed none)) (replicate 7 .ok ++ [.fail "input/output error"])]

def failedRetry : List StoreChoice := replicate 5 .ok ++ [.fail "no space left on device"] ++ calm

def busyAnswer : StoreWorld × Option (Except StoreError (Operation × Bool)) :=
  (findOrCreate .backup "other" "hash" "db").run
    (({} : StoreState).run unwrittenRestore).world failedRetry

section Accounts

variable {w : StoreWorld} {held still : OperationID → Prop}

theorem settle_keeps (id : OperationID) (e : End) :
    Ensures storeHandler (fun _ => True) (settle id e)
      (fun _ w' => Moves (.settle id e) w.issued (w.remember (w.memory.keepEnd id e)) w') w := by
  unfold settle
  refine ensures_bind.mpr (perform_memory trivial (ensures_bind.mpr (perform_setMemory trivial ?_)))
  have here : Moves (.settle id e) w.issued (w.remember (w.memory.keepEnd id e))
      (w.remember (w.memory.keepEnd id e)) := .refl
  exact (settleLocked_spec here (fun _ _ reach _ => reach) fun _ reach _ _ => reach).weaken
    fun _ _ => trivial

def removes (w : StoreWorld) : StoreEffect → StoreChoice → Bool
  | .remove id, c => c.failure.isNone || (w.record id).isNone
  | _, _ => true

theorem removes_removes : Removes removes := by
  intro w id c allowed
  simpa [removes] using allowed

/-- The operation is held, or it is the one the reply hands out as new. -/
def StoreReply.Holder (held : OperationID → Prop) (reply : StoreReply) (id : OperationID) : Prop :=
  held id ∨ ∃ op, reply = .created op ∧ op.id = id

theorem Accounted.mono {w : StoreWorld} {id : OperationID} (accounted : Accounted held w id)
    (implies : held id → still id) : Accounted still w id := by
  intro op found going
  rcases accounted op found going with known | kept | holder
  · exact .inl known
  · exact .inr (.inl kept)
  · exact .inr (.inr (implies holder))

theorem Tried.accounted {listed w' : StoreWorld} {record : Operation}
    (tried : Tried listed record w') (accounted : ∀ id, Accounted held listed id)
    (own : w'.record record.id = some record → held record.id) (id : OperationID) :
    Accounted held w' id := by
  intro op found going
  by_cases same : id = record.id
  · subst same
    rcases tried.own with missing | present
    · rw [missing] at found
      cases found
    · exact .inr (.inr (own present))
  · rw [tried.others id same] at found
    rw [tried.memory]
    exact accounted id op found going

theorem findOrCreate_accounted (kind : OperationKind) (key hash database : String) (sound : w.Sound)
    (accounted : ∀ id, Accounted held w id) :
    Ensures (under storeHandler removes) (fun _ => True)
      (StoreCall.program (.findOrCreate kind key hash database))
      (fun reply w' => ∀ id, Accounted (reply.Holder held) w' id) w := by
  have here : Moves .unwrittenEnds w.issued w w := .refl
  have retry : Ensures storeHandler (Moves .unwrittenEnds w.issued w) retryUnsettled
      (fun _ _ => True) w :=
    retryUnsettled_spec here fun _ _ => trivial
  refine ensures_bind.mpr ((findOrCreate_answered kind key hash database sound
    (retry.weaken fun _ _ => trivial).under).mono ?_)
  rintro answer w' ⟨-, listed, -, -, moves, answered⟩
  have quiet : ∀ id, Accounted held listed id := fun id =>
    moves.accounted (by simp) (by simp) (by simp) (accounted id)
  cases answered with
  | refused | existed => exact fun id => (quiet id).mono .inl
  | failed e id _ admits tried discarded =>
    refine tried.accounted (fun j => (quiet j).mono .inl) fun present => ?_
    rw [newRecord_id, discarded removes_removes] at present
    cases present
  | created id _ admits tried =>
    exact tried.accounted (fun j => (quiet j).mono .inl) (fun _ => .inr ⟨_, rfl, rfl⟩)

/-- A call other than the start leaves every record that has not ended accounted
    for, where no removal fails. -/
theorem program_accounted (c : StoreCall) (sound : w.Sound) (notStart : c ≠ .start)
    (updates : ∀ id m, c = .update id m → held id)
    (settles : ∀ id, held id → still id ∨ ∃ e, c = .settle id e)
    (accounted : ∀ id, Accounted held w id) :
    Ensures (under storeHandler removes) (fun _ => True) c.program
      (fun reply w' => ∀ id, Accounted (reply.Holder still) w' id) w := by
  -- The calls that neither create nor settle only make moves.
  have moved : (∀ kind key hash database, c ≠ .findOrCreate kind key hash database) →
      (∀ id e, c ≠ .settle id e) → Ensures (under storeHandler removes) (fun _ => True) c.program
        (fun reply w' => ∀ id, Accounted (reply.Holder still) w' id) w := by
    intro creates settling
    refine (((program_spec c sound).weaken fun _ _ => trivial).mono
      fun reply w' result id => ?_).under
    refine (result.1.accounted notStart creates (updates id) (accounted id)).mono fun holder => ?_
    rcases settles id holder with remains | ⟨e, asked⟩
    · exact .inl remains
    · exact absurd asked (settling id e)
  cases c with
  | start => exact absurd rfl notStart
  | findOrCreate kind key hash database =>
    have remains : ∀ id, Accounted still w id := by
      intro id
      refine (accounted id).mono fun holder => ?_
      rcases settles id holder with remains | ⟨e, asked⟩
      · exact remains
      · cases asked
    exact findOrCreate_accounted kind key hash database sound remains
  | settle id e =>
    refine ensures_bind.mpr ((settle_keeps id e).mono fun answer w' moves => ?_).under
    have kept : ∀ k, Accounted still (w.remember (w.memory.keepEnd id e)) k := by
      intro k op found going
      by_cases same : k = id
      · exact .inr (.inl (by simp [same]))
      · rcases accounted k op found going with known | kept | holder
        · exact .inl known
        · exact .inr (.inl (by simpa [same] using kept))
        · rcases settles k holder with remains | ⟨e', asked⟩
          · exact .inr (.inr remains)
          · cases asked
            exact absurd rfl same
    have after : ∀ k, Accounted still w' k :=
      fun k => moves.accounted notStart (by simp) (by simp) (kept k)
    cases answer with
    | error | ok => exact fun k => (after k).mono .inl
  | findByKey | get | update | unwrittenEnds => exact moved (by simp) (by simp)

end Accounts

namespace StoreState

def Runs (s : StoreState) (id : OperationID) : Prop := ∃ op ∈ s.active, op.id = id

/-- No call fails to remove a record that its own failed write left. -/
def removesFailed (s : StoreState) : StoreEvent → Bool
  | .call c choices => c.program.meets storeHandler removes s.world choices
  | _ => true

end StoreState

structure Attended (s : StoreState) : Prop where
  admission : Admission s
  accounted : s.up = true → ∀ id, Accounted s.Runs s.world id

namespace StoreState

variable {s : StoreState} {c : StoreCall} {id : OperationID}

theorem runs_calling (runs : s.Runs id) : (s.calling c).Runs id ∨ ∃ e, c = .settle id e := by
  obtain ⟨op, active, rfl⟩ := runs
  cases c with
  | settle k e =>
    by_cases same : op.id = k
    · exact .inr ⟨e, by rw [same]⟩
    · exact .inl ⟨op, mem_filter.mpr ⟨active, by simpa using same⟩, rfl⟩
  | _ => exact .inl ⟨op, active, rfl⟩

theorem runs_replied {w : StoreWorld} {reply : StoreReply} (notStart : c ≠ .start)
    (holder : reply.Holder s.Runs id) : (s.replied c w reply).Runs id := by
  rcases holder with ⟨op, active, rfl⟩ | ⟨op, rfl, rfl⟩
  · cases reply with
    | created other => exact ⟨op, mem_cons_of_mem _ active, rfl⟩
    | error e =>
      cases c with
      | start => exact absurd rfl notStart
      | _ => exact ⟨op, active, rfl⟩
    | done => cases c <;> exact ⟨op, active, rfl⟩
    | _ => exact ⟨op, active, rfl⟩
  · exact ⟨op, mem_cons_self, rfl⟩

theorem replied_world {w : StoreWorld} {reply : StoreReply} (notStart : c ≠ .start) :
    (s.replied c w reply).world = w := by
  cases reply with
  | error e =>
    cases c with
    | start => exact absurd rfl notStart
    | _ => rfl
  | done => cases c <;> rfl
  | _ => rfl

end StoreState

namespace Attended

variable {s : StoreState} {c : StoreCall} {choices : List StoreChoice} {w : StoreWorld}
  {reply : StoreReply}

theorem replied (attended : Attended s) (up : s.up = true) (notStart : c ≠ .start)
    (meets : s.underRunners (.call c choices) = true ∧ s.removesFailed (.call c choices) = true)
    (ran : c.program.run s.world choices = (w, some reply)) (id : OperationID) :
    Accounted ((s.calling c).replied c w reply).Runs w id := by
  have updates : ∀ id m, c = .update id m → s.Runs id := by
    rintro id m rfl
    have runners := meets.1
    simp only [StoreState.underRunners, any_eq_true, decide_eq_true_eq] at runners
    exact runners
  have truth := run_ensures (program_accounted c attended.admission.sound notStart updates
    (fun _ => StoreState.runs_calling) (attended.accounted up)) choices
  rw [StoreM.run, ← run_under meets.2] at ran
  rw [ran] at truth
  exact (truth id).mono (StoreState.runs_replied notStart)

/-- A manager that started has failed every record it read, and left the others
    to be judged. -/
theorem started (attended : Attended s)
    (ran : StoreCall.start.program.run s.world choices = (w, some reply))
    (up : ((s.calling .start).replied .start w reply).up = true) (id : OperationID) :
    Accounted ((s.calling .start).replied .start w reply).Runs
      ((s.calling .start).replied .start w reply).world id := by
  have truth := run_ensures (program_spec .start attended.admission.sound) choices
  rw [StoreM.run] at ran
  rw [ran] at truth
  cases reply with
  | error e => cases up
  | created op =>
    obtain ⟨kind, key, hash, database, w₁, asked, -⟩ := truth.2
    cases asked
  | answered ops => exact absurd rfl truth.2.1
  | updated op =>
    obtain ⟨k, m, old, asked, -⟩ := truth.2
    cases asked
  | done =>
    intro op found going
    rcases truth.2.1 rfl id op found with ended | known
    · simp [ended] at going
    · exact .inl known

theorem step (attended : Attended s) (e : StoreEvent)
    (meets : s.underRunners e = true ∧ s.removesFailed e = true) : Attended (s.step e) := by
  refine ⟨attended.admission.step e, fun up id => ?_⟩
  cases e with
  | kill | powerLoss => cases up
  | call c choices =>
    by_cases accepted : s.accepts c = true
    · simp only [StoreState.step, if_pos accepted] at up ⊢
      cases result : c.program.run s.world choices with
      | mk w answer =>
        rw [result] at up
        cases answer with
        | none => cases up
        | some reply =>
          by_cases start : c = .start
          · subst start
            exact started attended result up id
          · have running : s.up = true := by
              cases c <;> simp_all [StoreState.accepts]
            have after := attended.replied running start meets result id
            simp only [StoreState.replied_world start] at after ⊢
            exact after
    · simp only [StoreState.step, if_neg accepted] at up ⊢
      exact attended.accounted up id

end Attended

def StoreReply.operations : StoreReply → List Operation
  | .created op => [op]
  | .answered ops => ops
  | _ => []

inductive StoreCall.Answers : StoreCall → Prop
  | findOrCreate (kind key hash database) : Answers (.findOrCreate kind key hash database)
  | get (id) : Answers (.get id)
  | findByKey (key) : Answers (.findByKey key)

/-- Where, since the process was started, no removal of a record that a failed
    creation left has failed, an operation that is answered as not ended was
    handed out as new by this process and is not settled. -/
theorem answered_running_is_run (earlier events : List StoreEvent) {c : StoreCall}
    {choices : List StoreChoice} {w : StoreWorld} {reply : StoreReply}
    (down : (({} : StoreState).run earlier).up = false)
    (along : StoreState.Along (fun s e => s.underRunners e = true ∧ s.removesFailed e = true)
      (({} : StoreState).run earlier) events)
    (up : ((({} : StoreState).run earlier).run events).up = true) (asks : c.Answers)
    (removed : c.program.meets storeHandler removes
      ((({} : StoreState).run earlier).run events).world choices = true)
    (ran : c.program.run ((({} : StoreState).run earlier).run events).world choices =
      (w, some reply)) :
    ∀ op ∈ reply.operations, op.state.isTerminal = false →
      (((({} : StoreState).run earlier).run events).step (.call c choices)).Runs op.id := by
  have before : Attended (({} : StoreState).run earlier) :=
    ⟨runEvents_kept Admission (fun _ e adm => adm.step e) earlier admission_init, by simp [down]⟩
  have attended :=
    runEvents_invariant Attended (fun _ e meets attended => attended.step e meets) events
    before along
  intro op member going
  have truth := run_ensures (program_spec c attended.admission.sound) choices
  have accepted : ((({} : StoreState).run earlier).run events).accepts c = true := by
    cases asks <;> exact up
  have notStart : c ≠ .start := by
    cases asks <;> simp
  have runners : ((({} : StoreState).run earlier).run events).underRunners
      (.call c choices) = true := by
    cases asks <;> rfl
  simp only [StoreState.step, if_pos accepted, ran]
  rw [StoreM.run] at ran
  rw [ran] at truth
  cases reply with
  | created other =>
    obtain rfl := mem_singleton.mp member
    exact ⟨op, mem_cons_self, rfl⟩
  | answered ops =>
    have answer := truth.2.2.1 op member
    have accounted := attended.replied up notStart ⟨runners, removed⟩ ran op.id
    rcases accounted op answer.visible going with known | kept | runs
    · exact absurd known answer.judged
    · exact absurd answer.settled kept
    · exact runs
  | error | updated | done => cases member

def unsyncedCreation (rest : List StoreChoice) : List StoreEvent :=
  [.call .start calm, .call (.findOrCreate .restore "key" "hash" "db")
    (replicate 9 .ok ++ .fail "input/output error" :: rest)]

/-- The first process leaves a record that it could not remove; the second one
    removes what its failed creation left, and creates the restore anew. -/
def leftRestore : List StoreEvent :=
  unsyncedCreation (.fail "input/output error" :: calm) ++ [.kill]

def repeatedRestore : List StoreEvent :=
  [.call .start calm, .call (.findOrCreate .restore "second" "hash" "db")
    (replicate 11 .ok ++ .fail "input/output error" :: calm),
   .call (.findOrCreate .restore "second" "hash" "db") calm]

def repeatedState : StoreState := (({} : StoreState).run leftRestore).run repeatedRestore

def repeatedAnswer : StoreWorld × Option StoreReply :=
  (StoreCall.get 3).program.run repeatedState.world calm

theorem repeatedRestore_is_run :
    (repeatedState.world.record 1).isSome = true ∧ 2 ∈ repeatedState.world.issued ∧
    repeatedAnswer.2.map (·.operations) = some [newRecord 3 .restore "second" "hash" "db"] ∧
    (repeatedState.step (.call (.get 3) calm)).Runs 3 := by
  have answered : repeatedAnswer.2.map (·.operations) = some
      [newRecord 3 .restore "second" "hash" "db"] := by
    decide +kernel
  obtain ⟨reply, given, operations⟩ := Option.map_eq_some_iff.mp answered
  have member : newRecord 3 .restore "second" "hash" "db" ∈ reply.operations := by
    rw [operations]
    exact mem_singleton_self _
  have ran : (StoreCall.get 3).program.run repeatedState.world calm =
      (repeatedAnswer.1, some reply) :=
    Prod.ext rfl given
  refine ⟨by decide +kernel, by decide +kernel, answered, ?_⟩
  exact answered_running_is_run leftRestore repeatedRestore (by decide +kernel) (by decide +kernel)
    (by decide +kernel) (.get 3) (by decide +kernel) ran _ member rfl

/-- The removal fails too: the same request is answered with an operation that
    nobody was given. -/
theorem left_record_answered_as_running :
    StoreState.Along (fun s e => s.underRunners e = true) {}
      (unsyncedCreation (.fail "input/output error" :: calm)) ∧
    (({} : StoreState).run (unsyncedCreation (.fail "input/output error" :: calm))).created = [] ∧
    ((({} : StoreState).run (unsyncedCreation (.fail "input/output error" :: calm))).step
      (.call (.findOrCreate .restore "key" "hash" "db") calm)).answers =
        [newRecord 1 .restore "key" "hash" "db"] ∧
    ((({} : StoreState).run (unsyncedCreation (.fail "input/output error" :: calm))).step
      (.call (.findOrCreate .restore "key" "hash" "db") calm)).active = [] := by
  decide +kernel

end InstanceManager
