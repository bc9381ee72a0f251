import CubridOperator.InstanceManager.StoreRuns

/-!
Admission is idempotent and exclusive over any run of the store.
-/
namespace InstanceManager
open Foundation Program Relation Function List

structure StoreWorld.MemorySound (w : StoreWorld) : Prop where
  kept : ∀ id, w.memory.keptEnd id ≠ none → id ∈ w.issued
  interrupted : ∀ id ∈ w.memory.interrupted, id ∈ w.issued
  unreadable : ∀ id ∈ w.memory.unreadable.map (·.1), id ∈ w.issued

theorem memorySound_kill (w : StoreWorld) : w.kill.MemorySound :=
  ⟨fun _ h => absurd rfl h, fun _ h => (not_mem_nil h).elim, fun _ h => (not_mem_nil h).elim⟩

variable {before : List OperationID} {w w' : StoreWorld} {call : StoreCall}

theorem Move.memorySound (move : Move call before w w')
    (settles : ∀ id e, call = .settle id e → id ∈ w.issued) (sound : w.MemorySound) :
    w'.MemorySound := by
  cases move with
  | list unreadable known => exact ⟨sound.kept, sound.interrupted, known⟩
  | judged op found ended =>
    refine ⟨sound.kept, fun id known => ?_, sound.unreadable⟩
    simp only [StoreWorld.memory_remember, Memory.mem_forgetInterrupted] at known
    exact sound.interrupted id known.1
  | endWritten op e kept written =>
    refine ⟨fun id still => sound.kept id fun gone => still ?_, sound.interrupted, sound.unreadable⟩
    simp [gone]
  | endMissing k missing =>
    refine ⟨fun id still => sound.kept id fun gone => still ?_, sound.interrupted, sound.unreadable⟩
    simp [gone]
  | keepEnd k e asked =>
    refine ⟨fun id still => ?_, sound.interrupted, sound.unreadable⟩
    simp only [StoreWorld.memory_remember, Memory.keptEnd_keepEnd] at still
    split at still
    · rename_i same
      exact same ▸ settles k e asked
    · exact sound.kept id still
  | issue k fresh =>
    exact ⟨fun id h => mem_cons_of_mem _ (sound.kept id h),
      fun id h => mem_cons_of_mem _ (sound.interrupted id h),
      fun id h => mem_cons_of_mem _ (sound.unreadable id h)⟩
  | noteUnreadable asked => exact ⟨sound.kept, sound.unreadable, sound.unreadable⟩
  | _ => exact ⟨sound.kept, sound.interrupted, sound.unreadable⟩

theorem Moves.memorySound (moves : Moves call before w w')
    (settles : ∀ id e, call = .settle id e → id ∈ w.issued) (sound : w.MemorySound) :
    w'.MemorySound := by
  induction moves with
  | refl => exact sound
  | tail moves move ih =>
    exact move.memorySound (fun id e asked => Moves.issued moves (settles id e asked)) ih

/-- Nothing in memory says that the operation has ended or was interrupted. -/
structure Unnamed (w : StoreWorld) (id : OperationID) : Prop where
  judged : id ∉ w.memory.interrupted
  unsettled : w.memory.keptEnd id = none

theorem Move.unnamed {id : OperationID} (move : Move call before w w') (notStart : call ≠ .start)
    (notSettled : ∀ e, call ≠ .settle id e) (unnamed : Unnamed w id) : Unnamed w' id := by
  obtain ⟨judged, unsettled⟩ := unnamed
  cases move with
  | judged op found ended => exact ⟨by simp [judged], unsettled⟩
  | endWritten | endMissing => exact ⟨judged, by simp [unsettled]⟩
  | keepEnd k e asked =>
    have differs : id ≠ k := fun same => notSettled e (same ▸ asked)
    exact ⟨judged, by simp [differs, unsettled]⟩
  | noteUnreadable asked => exact absurd asked notStart
  | _ => exact ⟨judged, unsettled⟩

theorem Moves.unnamed {id : OperationID} (moves : Moves call before w w') (notStart : call ≠ .start)
    (notSettled : ∀ e, call ≠ .settle id e) (unnamed : Unnamed w id) : Unnamed w' id := by
  induction moves with
  | refl => exact unnamed
  | tail _ move ih => exact move.unnamed notStart notSettled ih

structure Running (w : StoreWorld) (op : Operation) : Prop where
  recorded : ∃ now, w.record op.id = some now ∧ now.database = op.database ∧
    now.state.isTerminal = false
  unnamed : Unnamed w op.id

variable {op : Operation}

theorem Mutation.apply_running (m : Mutation) (running : op.state.isTerminal = false) :
    (m.apply op).state.isTerminal = false := by
  by_contra ended
  have := m.apply_isTerminal op (by simpa using ended)
  simp [running] at this

theorem Move.running (move : Move call before w w') (old : op.id ∈ before)
    (notStart : call ≠ .start) (notSettled : ∀ e, call ≠ .settle op.id e) (running : Running w op) :
    Running w' op := by
  refine ⟨?_, move.unnamed notStart notSettled running.unnamed⟩
  obtain ⟨⟨now, visible, database, going⟩, judged, unsettled⟩ := running
  have rewritten : ∀ other, op.id ≠ other.id →
      ∃ now, (w.change (.put other)).record op.id = some now ∧
      now.database = op.database ∧ now.state.isTerminal = false := by
    intro other differs
    exact ⟨now, by simpa [update_of_ne differs] using visible, database, going⟩
  cases move with
  | interrupt other known found ended =>
    exact rewritten other.interrupt fun same => judged (same.symm ▸ known)
  | writeEnd other e kept _ found =>
    refine rewritten _ fun same => ?_
    rw [← (e.sameRequest other).id, ← same, unsettled] at kept
    cases kept
  | mutate other m asked _ found =>
    by_cases same : op.id = other.id
    · rw [← same, visible] at found
      cases found
      refine ⟨m.apply now, ?_, (m.sameRequest now).database.trans database, m.apply_running going⟩
      simp [same, ← (m.sameRequest now).id]
    · exact rewritten _ fun equal => same (equal.trans (m.sameRequest other).id)
  | create id kind key hash database _ unused issued missing admits =>
    have differs : op.id ≠ id := fun same => unused (same ▸ old)
    exact rewritten _ differs
  | discard id unused going' =>
    have differs : op.id ≠ id := fun same => unused (same ▸ old)
    exact ⟨now, by simpa [update_of_ne differs] using visible, database, going⟩
  | failOnStart other asked found ended => exact absurd asked notStart
  | sync | list | judged | endWritten | endMissing | keepEnd | issue | noteUnreadable =>
    exact ⟨now, visible, database, going⟩

theorem Moves.running (moves : Moves call before w w') (old : op.id ∈ before)
    (notStart : call ≠ .start) (notSettled : ∀ e, call ≠ .settle op.id e) (running : Running w op) :
    Running w' op := by
  induction moves with
  | refl => exact running
  | tail _ move ih => exact move.running old notStart notSettled ih

abbrev Claims (op now : Operation) : Prop :=
  now.idempotencyKey = op.idempotencyKey ∧ now.kind = op.kind

theorem claims_closed (op : Operation) (old now : Operation) (rewrite : Rewrite old now)
    (claims : Claims op old) : Claims op now :=
  ⟨rewrite.sameRequest.idempotencyKey.trans claims.1, rewrite.sameRequest.kind.trans claims.2⟩

/-- A created operation holds its kind and key whatever a power loss leaves, and
    one that was not settled runs. -/
structure Admission (s : StoreState) : Prop where
  sound : s.world.Sound
  memory : s.world.MemorySound
  recorded : ∀ op ∈ s.created, s.world.Durably op.id fun r => ∃ now, r = some now ∧ Claims op now
  distinct : s.created.Pairwise fun later earlier => ¬ Claims earlier later
  running : ∀ op ∈ s.active, Running s.world op
  exclusive : s.active.Pairwise fun later earlier => later.database ≠ earlier.database
  stopped : s.up = false → s.active = []

namespace Admission

variable {s : StoreState} {c : StoreCall} {w : StoreWorld}

section

variable (adm : Admission s)
include adm

theorem issued (member : op ∈ s.created) : op.id ∈ s.world.issued := by
  obtain ⟨now, visible, -⟩ := (adm.recorded op member).visible
  exact (adm.sound.named visible).2

theorem active_issued (member : op ∈ s.active) : op.id ∈ s.world.issued := by
  obtain ⟨now, visible, -⟩ := (adm.running op member).recorded
  exact (adm.sound.named visible).2

theorem calling (c : StoreCall) : Admission (s.calling c) := by
  cases c with
  | settle id e =>
    refine ⟨adm.sound, adm.memory, adm.recorded, adm.distinct, ?_, adm.exclusive.filter _, ?_⟩
    · exact fun op member => adm.running op (mem_of_mem_filter member)
    · exact fun down => by simp [StoreState.calling, adm.stopped down]
  | _ => exact adm

theorem moved (accepted : s.accepts c = true) (moves : Moves c s.world.issued s.world w) :
    Admission { s.calling c with world := w } := by
  have settles : ∀ id e, c = .settle id e → id ∈ s.world.issued := by
    rintro id e rfl
    simp only [StoreState.accepts, Bool.and_eq_true, decide_eq_true_eq] at accepted
    exact accepted.2
  have before := adm.calling c
  refine ⟨moves.sound adm.sound, moves.memorySound settles adm.memory, ?_, before.distinct, ?_,
    before.exclusive, before.stopped⟩
  · intro op member
    rw [StoreState.calling_created] at member
    exact moves.durably (adm.issued member) (claims_closed op) (adm.recorded op member)
  · intro op member
    obtain ⟨active, unsettled⟩ := StoreState.calling_active member
    refine moves.running (adm.active_issued active) ?_ unsettled (adm.running op active)
    rintro rfl
    rw [adm.stopped (by simpa [StoreState.accepts] using accepted)] at active
    cases active

theorem ended : Admission (s.ended s.world) :=
  ⟨adm.sound.kill, memorySound_kill _, adm.recorded, adm.distinct, fun _ h => (not_mem_nil h).elim,
    List.Pairwise.nil, fun _ => rfl⟩

theorem powerLoss (mask : List Bool) : Admission (s.ended (s.world.powerLoss mask)) :=
  ⟨(adm.sound.powerLoss mask).kill, memorySound_kill _,
    fun op member => (adm.recorded op member).powerLoss mask, adm.distinct,
    fun _ h => (not_mem_nil h).elim, List.Pairwise.nil, fun _ => rfl⟩

theorem replied (accepted : s.accepts c = true) {reply : StoreReply}
    (moves : Moves c s.world.issued s.world w) (holds : reply.Holds c s.world w) :
    Admission ((s.calling c).replied c w reply) := by
  have after := adm.moved accepted moves
  cases reply with
  | updated op => exact after
  | answered ops =>
    exact ⟨after.sound, after.memory, after.recorded, after.distinct, after.running,
      after.exclusive, after.stopped⟩
  | error e =>
    cases c with
    | start => exact after.ended
    | _ => exact after
  | done =>
    cases c with
    | start =>
      have none := adm.stopped (by simpa [StoreState.accepts] using accepted)
      refine ⟨after.sound, after.memory, after.recorded, after.distinct, after.running,
        after.exclusive, ?_⟩
      exact fun up => by cases up
    | _ => exact after
  | created op =>
    obtain ⟨kind, key, hash, database, w₁, rfl, shape, unused, moves₁, admits, missing, rfl⟩ :=
      holds
    have earlier := adm.moved accepted moves₁
    have fields : op.kind = kind ∧ op.idempotencyKey = key ∧ op.database = database ∧
        op.state = .pending := by
      rw [shape]
      exact ⟨rfl, rfl, rfl, rfl⟩
    obtain ⟨rfl, rfl, rfl, pending⟩ := fields
    have unnamed : Unnamed s.world op.id :=
      ⟨fun known => unused (adm.memory.interrupted _ known),
        by_contra fun kept => unused (adm.memory.kept _ kept)⟩
    have visible : (w₁.change (.put op)).sync.record op.id = some op := by simp
    refine ⟨after.sound, after.memory, ?_, ?_, ?_, ?_, ?_⟩
    · rintro other (_ | ⟨_, member⟩)
      · exact StoreWorld.durably_sync.mpr ⟨op, visible, rfl, rfl⟩
      · exact after.recorded other member
    · refine pairwise_cons.mpr ⟨fun other member claims => ?_, after.distinct⟩
      obtain ⟨now, visible, held⟩ := (earlier.recorded other member).visible
      exact (admits other.id now visible).1 ⟨held.1.trans claims.1.symm, held.2.trans claims.2.symm⟩
    · rintro other (_ | ⟨_, member⟩)
      · refine ⟨⟨op, visible, rfl, by rw [pending]; rfl⟩, ?_⟩
        exact moves.unnamed (by simp) (fun e => by simp) unnamed
      · exact after.running other member
    · refine pairwise_cons.mpr ⟨fun other member same => ?_, after.exclusive⟩
      obtain ⟨now, visible, held, going⟩ := (earlier.running other member).recorded
      have ended := (admits other.id now visible).2 (held.trans same.symm)
      simp [going] at ended
    · intro down
      have up : s.up = true := accepted
      have off : s.up = false := down
      simp [up] at off

theorem step (e : StoreEvent) : Admission (s.step e) := by
  have outcome := StoreState.step_outcome adm.sound e
  generalize s.step e = s' at outcome
  cases outcome with
  | refused => exact adm
  | cut c choices w accepted moves => exact (adm.moved accepted moves).ended
  | replied c choices w reply accepted moves holds => exact adm.replied accepted moves holds
  | kill => exact adm.ended
  | powerLoss mask => exact adm.powerLoss mask

end

end Admission

theorem admission_init : Admission {} :=
  ⟨StoreWorld.sound_empty, memorySound_kill {}, fun _ h => (not_mem_nil h).elim, List.Pairwise.nil,
    fun _ h => (not_mem_nil h).elim, List.Pairwise.nil, fun _ => rfl⟩

/-- For each kind and key at most one FindOrCreate ever returned a new
    operation, and each database has at most one that is not settled. -/
theorem store_admits_once (events : List StoreEvent) :
    (({} : StoreState).run events).created.Pairwise
      (fun later earlier => ¬(later.idempotencyKey = earlier.idempotencyKey ∧
        later.kind = earlier.kind)) ∧
    (({} : StoreState).run events).active.Pairwise
      (fun later earlier => later.database ≠ earlier.database) := by
  have step : ∀ s e, Admission s → Admission (s.step e) := fun _ e adm => adm.step e
  have adm := runEvents_kept Admission step events admission_init
  exact ⟨adm.distinct, adm.exclusive⟩

/-- Whatever ran, failed and was lost before, a call makes only its own moves,
    wherever the process ends, and what it replies is true. -/
theorem store_replies_are_true (events : List StoreEvent) (call : StoreCall) :
    Ensures storeHandler
      (Moves call (({} : StoreState).run events).world.issued (({} : StoreState).run events).world)
      call.program (fun reply w => reply.Holds call (({} : StoreState).run events).world w)
      (({} : StoreState).run events).world := by
  have adm := runEvents_kept Admission (fun _ e adm => adm.step e) events admission_init
  exact (program_spec call adm.sound).mono fun _ _ truth => truth.2

end InstanceManager
