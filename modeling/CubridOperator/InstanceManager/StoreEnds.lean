import CubridOperator.InstanceManager.StoreAdmission

/-!
How operations end. Only a manager that starts on a directory with a Completed
record that no sync followed gives an answer that is not durable.
-/
namespace InstanceManager
open Foundation Program Relation Function List

abbrev IsCompleted (r : Option Operation) : Prop := ∃ op, r = some op ∧ op.state = .completed

instance decidableIsCompleted : DecidablePred IsCompleted
  | none => isFalse fun ⟨_, found, _⟩ => by cases found
  | some op => decidable_of_iff (op.state = .completed)
    ⟨fun done => ⟨op, rfl, done⟩, fun ⟨_, found, done⟩ => Option.some.inj found ▸ done⟩

abbrev NotCompleted (r : Option Operation) : Prop := ∀ op, r = some op → op.state ≠ .completed

abbrev EndsAs (e : End) (r : Option Operation) : Prop :=
  ∃ op, r = some op ∧ (op.state.isTerminal = false ∨ op.state = e.state)

abbrev IsRunning (r : Option Operation) : Prop := ∃ op, r = some op ∧ op.state.isTerminal = false

variable {r : Option Operation}

theorem IsRunning.notCompleted (running : IsRunning r) : NotCompleted r := by
  obtain ⟨op, rfl, going⟩ := running
  rintro _ ⟨⟩ done
  simp [done, OperationState.isTerminal] at going

theorem IsRunning.endsAs (running : IsRunning r) (e : End) : EndsAs e r := by
  obtain ⟨op, found, going⟩ := running
  exact ⟨op, found, .inl going⟩

variable {e : End}

theorem EndsAs.completed (ends : EndsAs e r) (done : IsCompleted r) : e.state = .completed := by
  obtain ⟨op, rfl, going | same⟩ := ends
  · obtain ⟨_, ⟨⟩, done⟩ := done
    simp [done, OperationState.isTerminal] at going
  · obtain ⟨_, ⟨⟩, done⟩ := done
    exact same.symm.trans done

theorem End.state_completed (done : e.state = .completed) : ∃ a, e = .completed a := by
  cases e with
  | failed reason => cases done
  | completed a => exact ⟨a, rfl⟩

/-- An end kept in memory agrees with every record a power loss may leave, and
    is of a record the start could read. -/
structure KeptEnd (w : StoreWorld) (id : OperationID) (e : End) : Prop where
  judged : id ∉ w.memory.interrupted
  durable : w.Durably id (EndsAs e)

structure Owned (w : StoreWorld) (id : OperationID) : Prop where
  unnamed : Unnamed w id
  durable : w.Durably id IsRunning

/-- A Completed record is durable, or its end is still kept. -/
def Firm (w : StoreWorld) (id : OperationID) : Prop :=
  w.Durably id NotCompleted ∨ IsCompleted (w.record id) ∧
    (w.Durably id IsCompleted ∨ ∃ a, w.memory.keptEnd id = some (.completed a))

structure Ready (c : StoreCall) (before : List OperationID) (w : StoreWorld) : Prop where
  start : c = .start → ∀ id, w.memory.keptEnd id = none
  update : ∀ id m, c = .update id m → id ∈ before ∧ Owned w id
  settle : ∀ id e, c = .settle id e → id ∈ before ∧ KeptEnd w id e ∧
    (w.memory.keptEnd id = none ∨ w.memory.keptEnd id = some e)

structure EndsKept (c : StoreCall) (before : List OperationID) (w : StoreWorld) : Prop where
  ready : Ready c before w
  kept : ∀ id e, w.memory.keptEnd id = some e → id ∈ before ∧ KeptEnd w id e
  firm : ∀ id, Firm w id

section Moves

variable {c : StoreCall} {before : List OperationID} {w w' : StoreWorld} {id : OperationID}

section

variable (move : Move c before w w')
include move

theorem Move.interrupted (notStart : c ≠ .start) (judged : id ∉ w.memory.interrupted) :
    id ∉ w'.memory.interrupted := by
  cases move with
  | judged op found ended => simp [judged]
  | noteUnreadable asked => exact absurd asked notStart
  | _ => exact judged

/-- The record of an operation whose end is kept is only ever given that end. -/
theorem Move.keptEnd (old : id ∈ before) (only : ∀ e', w.memory.keptEnd id = some e' → e' = e)
    (notStart : c ≠ .start) (notUpdate : ∀ m, c ≠ .update id m) (kept : KeptEnd w id e) :
    KeptEnd w' id e := by
  obtain ⟨judged, durable⟩ := kept
  refine ⟨move.interrupted notStart judged, move.durably_cases durable ?_ ?_ ?_ ?_ ?_⟩
  · rintro op _ _ _ (known | asked)
    · exact absurd known judged
    · exact absurd asked notStart
  · rintro op e' _ _ held
    obtain rfl := only e' held
    exact ⟨_, rfl, .inr (e'.apply_state op)⟩
  · exact fun op m _ _ asked => absurd asked (notUpdate m)
  · exact fun _ _ _ _ unused => absurd old unused
  · exact fun unused => absurd old unused

theorem Move.owned (old : id ∈ before) (notStart : c ≠ .start) (notSettled : ∀ e, c ≠ .settle id e)
    (owned : Owned w id) : Owned w' id := by
  obtain ⟨unnamed, durable⟩ := owned
  refine ⟨move.unnamed notStart notSettled unnamed, move.durably_cases durable ?_ ?_ ?_ ?_ ?_⟩
  · rintro op _ _ _ (known | asked)
    · exact absurd known unnamed.judged
    · exact absurd asked notStart
  · rintro op e _ _ held
    rw [unnamed.unsettled] at held
    cases held
  · intro op m found _ _
    obtain ⟨now, visible, going⟩ := durable.visible
    rw [found] at visible
    cases visible
    exact ⟨_, rfl, m.apply_running going⟩
  · exact fun _ _ _ _ unused => absurd old unused
  · exact fun unused => absurd old unused

/-- A durable completion stays: whatever a call may still write over it is a
    completion too. -/
theorem Move.completed (ends : EndsKept c before w) (durable : w.Durably id IsCompleted) :
    w'.Durably id IsCompleted := by
  obtain ⟨now, visible, done⟩ := durable.visible
  have overwrite : ∀ {p : Prop} {op : Operation}, w.record id = some op →
      op.state.isTerminal = false → p := by
    intro p op found going
    rw [found] at visible
    cases visible
    simp [done, OperationState.isTerminal] at going
  refine move.durably_cases durable ?_ ?_ ?_ ?_ ?_
  · exact fun op found _ going _ => overwrite found going
  · intro op e found _ held
    have same := (ends.kept id e held).2.durable.visible.completed durable.visible
    exact ⟨_, rfl, (e.apply_state op).trans same⟩
  · intro op m found _ asked
    obtain ⟨current, running, going⟩ := (ends.ready.update id m asked).2.durable.visible
    exact overwrite running going
  · intro _ _ _ _ _ missing
    rw [missing] at visible
    cases visible
  · exact fun _ running => overwrite visible (running now visible)

theorem Move.notCompleted (notKept : ∀ a, w.memory.keptEnd id ≠ some (.completed a))
    (durable : w.Durably id NotCompleted) : w'.Durably id NotCompleted := by
  refine move.durably_cases durable ?_ ?_ ?_ ?_ ?_
  · rintro op _ _ _ _ _ ⟨⟩
    simp
  · rintro op e _ _ held _ ⟨⟩ done
    obtain ⟨a, rfl⟩ := End.state_completed ((e.apply_state op).symm.trans done)
    exact notKept a held
  · rintro op m found _ _ _ ⟨⟩ done
    cases m with
    | enter state =>
      have := state.property
      simp [show state.val = .completed from done, OperationState.isTerminal] at this
    | setRestored | setStagingDir => exact durable.visible op found done
  · rintro kind key hash database _ _ _ ⟨⟩ done
    cases done
  · rintro _ _ _ ⟨⟩

end

theorem Firm.put {now : Operation} (firm : Firm w id)
    (overwrite : id = now.id → NotCompleted (w.record id) ∧ now.state ≠ .completed) :
    Firm (w.change (.put now)) id := by
  by_cases same : id = now.id
  · obtain ⟨open', unended⟩ := overwrite same
    rcases firm with none | ⟨⟨op, visible, done⟩, -⟩
    · refine .inl ((StoreWorld.durably_put now).mpr ⟨none, ?_⟩)
      rintro - _ ⟨⟩
      exact unended
    · exact absurd done (open' op visible)
  · have kept : (w.change (.put now)).record id = w.record id := by
      simp [update_of_ne same]
    rcases firm with none | ⟨done, durable | held⟩
    · exact .inl ((StoreWorld.durably_put now).mpr ⟨none, fun equal => absurd equal same⟩)
    · exact .inr ⟨kept ▸ done,
        .inl ((StoreWorld.durably_put now).mpr ⟨durable, fun equal => absurd equal same⟩)⟩
    · exact .inr ⟨kept ▸ done, .inr held⟩

theorem Firm.drop {k : OperationID} (firm : Firm w id)
    (overwrite : id = k → NotCompleted (w.record id)) : Firm (w.change (.drop k)) id := by
  rcases firm with none | ⟨⟨op, visible, done⟩, how⟩
  · exact .inl ((StoreWorld.durably_drop k).mpr ⟨none, fun _ _ found => by cases found⟩)
  · have differs : id ≠ k := fun same => overwrite same op visible done
    have kept : (w.change (.drop k)).record id = w.record id := by
      simp [update_of_ne differs]
    refine .inr ⟨⟨op, kept.trans visible, done⟩, how.imp_left fun durable => ?_⟩
    exact (StoreWorld.durably_drop k).mpr ⟨durable, fun same => absurd same differs⟩

theorem Firm.remember {m : Memory} (firm : Firm w id)
    (still : IsCompleted (w.record id) → ∀ a, w.memory.keptEnd id = some (.completed a) →
      w.Durably id IsCompleted ∨ m.keptEnd id = some (.completed a)) : Firm (w.remember m) id := by
  rcases firm with none | ⟨done, durable | ⟨a, held⟩⟩
  · exact .inl none
  · exact .inr ⟨done, .inl durable⟩
  · exact .inr ⟨done, (still done a held).imp_right fun kept => ⟨a, kept⟩⟩

theorem notCompleted_of_running {op : Operation} (found : w.record id = some op)
    (running : op.state.isTerminal = false) : NotCompleted (w.record id) :=
  IsRunning.notCompleted ⟨op, found, running⟩

theorem Move.firm (move : Move c before w w') (ends : EndsKept c before w) (id : OperationID) :
    Firm w' id := by
  have firm := ends.firm id
  cases move with
  | sync =>
    rcases firm with none | ⟨done, -⟩
    · exact .inl (StoreWorld.durably_sync.mpr none.visible)
    · exact .inr ⟨done, .inl (StoreWorld.durably_sync.mpr done)⟩
  | interrupt op known found running =>
    refine firm.put ?_
    rintro rfl
    exact ⟨notCompleted_of_running found running, by simp⟩
  | failOnStart op asked found running =>
    refine firm.put ?_
    rintro rfl
    exact ⟨notCompleted_of_running found running, by simp⟩
  | mutate op m asked judged found =>
    refine firm.put fun same => ?_
    rw [(m.sameRequest op).id] at same
    subst same
    have visible := (ends.ready.update op.id m asked).2.durable.visible
    obtain ⟨now, current, going⟩ := visible
    rw [found] at current
    cases current
    exact ⟨notCompleted_of_running found going,
      IsRunning.notCompleted ⟨_, rfl, m.apply_running going⟩ _ rfl⟩
  | writeEnd op e held judged found =>
    by_cases same : id = op.id
    · subst same
      cases e with
      | completed a =>
        refine .inr ⟨⟨_, ?_, (End.completed a).apply_state op⟩, .inr ⟨a, held⟩⟩
        rw [StoreWorld.record_put, ← ((End.completed a).sameRequest op).id, update_self]
      | failed reason =>
        refine firm.put fun _ => ⟨fun now visible done => ?_, by simp [End.state]⟩
        have := (ends.kept op.id _ held).2.durable.visible.completed ⟨now, visible, done⟩
        cases this
    · exact firm.put fun equal => absurd (equal.trans (e.sameRequest op).id) same
  | create k kind key hash database asked unused issued missing admits =>
    refine firm.put ?_
    rintro rfl
    refine ⟨fun op found => ?_, by simp [newRecord]⟩
    rw [missing] at found
    cases found
  | discard k unused running =>
    refine firm.drop ?_
    rintro rfl op found
    exact notCompleted_of_running found (running op found) op found
  | endWritten op e held written =>
    refine firm.remember fun done a kept => ?_
    by_cases same : id = op.id
    · subst same
      rw [kept] at held
      cases held
      exact .inl (written.mono fun r found => ⟨_, found, (End.completed a).apply_state op⟩)
    · exact .inr (by simpa [same] using kept)
  | endMissing k missing =>
    refine firm.remember fun done a kept => .inr ?_
    have differs : id ≠ k := by
      rintro rfl
      obtain ⟨op, visible, -⟩ := done
      rw [missing] at visible
      cases visible
    simpa [differs] using kept
  | keepEnd k e asked =>
    refine firm.remember fun done a kept => .inr ?_
    by_cases same : id = k
    · subst same
      rcases (ends.ready.settle id e asked).2.2 with none | again
      · rw [none] at kept
        cases kept
      · rw [← kept, again]
        simp
    · simpa [same] using kept
  | judged | list | issue | noteUnreadable => exact firm

theorem Move.keptEnd_of_settle (move : Move c before w w') (asked : c = .settle id e)
    (held : w.memory.keptEnd id = none ∨ w.memory.keptEnd id = some e) :
    w'.memory.keptEnd id = none ∨ w'.memory.keptEnd id = some e := by
  subst asked
  cases move with
  | endWritten op e' kept written =>
    by_cases same : id = op.id <;> simp [same] at held ⊢
    exact held
  | endMissing k missing =>
    by_cases same : id = k <;> simp [same] at held ⊢
    exact held
  | keepEnd k e' asked =>
    cases asked
    simp
  | _ => exact held

theorem Move.keptEnd_of_start (move : Move c before w w') (asked : c = .start)
    (empty : ∀ id, w.memory.keptEnd id = none) (id : OperationID) :
    w'.memory.keptEnd id = none := by
  subst asked
  cases move with
  | endWritten | endMissing => simp [empty]
  | keepEnd k e asked => cases asked
  | _ => exact empty id

theorem Move.keptEnd_cases (move : Move c before w w') (held : w'.memory.keptEnd id = some e) :
    w.memory.keptEnd id = some e ∨ c = .settle id e := by
  cases move with
  | endWritten op e' kept written =>
    by_cases same : id = op.id <;> simp [same] at held
    exact .inl held
  | endMissing k missing =>
    by_cases same : id = k <;> simp [same] at held
    exact .inl held
  | keepEnd k e' asked =>
    by_cases same : id = k <;> simp [same] at held
    · exact .inr (by rw [asked, same, held])
    · exact .inl held
  | _ => exact .inl held

theorem Ready.move (ready : Ready c before w) (move : Move c before w w') : Ready c before w' where
  start asked := move.keptEnd_of_start asked (ready.start asked)
  update id m asked :=
    ⟨(ready.update id m asked).1, move.owned (ready.update id m asked).1 (by simp [asked])
      (by simp [asked]) (ready.update id m asked).2⟩
  settle id e asked := by
    obtain ⟨old, kept, held⟩ := ready.settle id e asked
    refine ⟨old, move.keptEnd old (fun e' same => ?_) (by simp [asked]) (by simp [asked]) kept,
      move.keptEnd_of_settle asked held⟩
    rcases held with none | some
    · simp [none] at same
    · exact Option.some.inj (same.symm.trans some)

theorem EndsKept.move (ends : EndsKept c before w) (move : Move c before w w') :
    EndsKept c before w' := by
  have ready := ends.ready.move move
  refine ⟨ready, fun id e held => ?_, move.firm ends⟩
  rcases move.keptEnd_cases held with same | asked
  · obtain ⟨old, kept⟩ := ends.kept id e same
    have notStart : c ≠ .start := by
      rintro rfl
      simp [ends.ready.start rfl id] at same
    have notUpdate : ∀ m, c ≠ .update id m := by
      rintro m rfl
      simp [(ends.ready.update id m rfl).2.unnamed.unsettled] at same
    exact ⟨old, move.keptEnd old (fun e' other => Option.some.inj (other.symm.trans same)) notStart
      notUpdate kept⟩
  · exact ⟨(ready.settle id e asked).1, (ready.settle id e asked).2.1⟩

theorem EndsKept.moves (ends : EndsKept c before w) (moves : Moves c before w w') :
    EndsKept c before w' := by
  induction moves with
  | refl => exact ends
  | tail _ move ih => exact ih.move move

theorem Moves.completed (moves : Moves c before w w') (ends : EndsKept c before w)
    (durable : w.Durably id IsCompleted) : w'.Durably id IsCompleted := by
  induction moves with
  | refl => exact durable
  | tail moves move ih => exact move.completed (ends.moves moves) ih

theorem Moves.owned (moves : Moves c before w w') (old : id ∈ before) (notStart : c ≠ .start)
    (notSettled : ∀ e, c ≠ .settle id e) (owned : Owned w id) : Owned w' id := by
  induction moves with
  | refl => exact owned
  | tail _ move ih => exact move.owned old notStart notSettled ih

/-- What an answer Failed rests on: no record says Completed, and no such end
    is kept. -/
structure NeverCompleted (w : StoreWorld) (id : OperationID) : Prop where
  durable : w.Durably id NotCompleted
  kept : ∀ a, w.memory.keptEnd id ≠ some (.completed a)

theorem Moves.neverCompleted (moves : Moves c before w w')
    (notSettled : ∀ a, c ≠ .settle id (.completed a)) (never : NeverCompleted w id) :
    NeverCompleted w' id := by
  induction moves with
  | refl => exact never
  | tail _ move ih =>
    refine ⟨move.notCompleted ih.kept ih.durable, fun a held => ?_⟩
    rcases move.keptEnd_cases held with same | asked
    · exact ih.kept a same
    · exact notSettled _ asked

def Judged (w : StoreWorld) (id : OperationID) : Prop :=
  ∀ op, w.record id = some op → op.state.isTerminal = false → id ∈ w.memory.interrupted

theorem Move.staysJudged (move : Move c before w w') (old : id ∈ before) (notStart : c ≠ .start)
    (notUpdate : ∀ m, c ≠ .update id m) (judged : Judged w id) : Judged w' id := by
  have overwrite : ∀ now : Operation, (id = now.id → now.state.isTerminal = true) →
      Judged (w.change (.put now)) id := by
    intro now ended op found going
    by_cases same : id = now.id
    · rw [StoreWorld.record_put, same, update_self] at found
      cases found
      simp [ended same] at going
    · rw [StoreWorld.record_put, update_of_ne same] at found
      exact judged op found going
  cases move with
  | interrupt op known found running => exact overwrite _ fun _ => rfl
  | writeEnd op e held _ found => exact overwrite _ fun _ => by simp
  | mutate op m asked _ found =>
    refine overwrite _ fun same => ?_
    rw [(m.sameRequest op).id] at same
    exact absurd (same ▸ asked) (notUpdate m)
  | failOnStart op asked found running => exact absurd asked notStart
  | create k kind key hash database asked unused issued missing admits =>
    exact overwrite _ fun same => absurd old (same.symm ▸ unused)
  | discard k unused running =>
    intro op found going
    have differs : id ≠ k := fun same => unused (same ▸ old)
    rw [StoreWorld.record_drop, update_of_ne differs] at found
    exact judged op found going
  | judged op found ended =>
    intro now visible going
    have known := judged now visible going
    refine (Memory.mem_forgetInterrupted _ _ _).mpr ⟨known, ?_⟩
    rintro rfl
    rw [StoreWorld.record_remember, found] at visible
    cases visible
    simp [ended] at going
  | noteUnreadable asked => exact absurd asked notStart
  | sync | list | endWritten | endMissing | keepEnd | issue => exact judged

theorem Moves.staysJudged (moves : Moves c before w w') (old : id ∈ before) (notStart : c ≠ .start)
    (notUpdate : ∀ m, c ≠ .update id m) (judged : Judged w id) : Judged w' id := by
  induction moves with
  | refl => exact judged
  | tail _ move ih => exact move.staysJudged old notStart notUpdate ih

end Moves

namespace StoreState

/-- Only the runner of an operation updates and settles it, until its Settle. -/
def underRunners (s : StoreState) : StoreEvent → Bool
  | .call (.update id _) _ | .call (.settle id _) _ => s.active.any (·.id = id)
  | _ => true

/-- A manager starts on a directory whose Completed records are durable. -/
def StartsDurable (s : StoreState) : StoreEvent → Prop
  | .call .start _ => ∀ id, IsCompleted (s.world.record id) → s.world.Durably id IsCompleted
  | _ => True

def FinalAnswers (s : StoreState) : Prop :=
  s.answers.Pairwise fun later earlier => later.id = earlier.id →
    earlier.state.isTerminal = true → later.state = earlier.state

def CompletedDurably (s : StoreState) : Prop :=
  ∀ op ∈ s.answers, op.state = .completed → s.world.Durably op.id IsCompleted

instance (s : StoreState) : Decidable s.FinalAnswers :=
  inferInstanceAs (Decidable (List.Pairwise _ _))

end StoreState

structure Ends (s : StoreState) : Prop where
  admission : Admission s
  owned : ∀ op ∈ s.active, Owned s.world op.id
  kept : ∀ id e, s.world.memory.keptEnd id = some e → KeptEnd s.world id e
  firm : s.up = true → ∀ id, Firm s.world id
  half : ∀ id, s.world.Durably id NotCompleted ∨ IsCompleted (s.world.record id)
  idle : s.up = false → ∀ id, s.world.memory.keptEnd id = none
  known : ∀ op ∈ s.answers, op.id ∈ s.world.issued
  completed : s.CompletedDurably
  failed : ∀ op ∈ s.answers, op.state = .failed → NeverCompleted s.world op.id
  judged : s.up = true → ∀ op ∈ s.answers, op.state = .failed → Judged s.world op.id
  final : s.FinalAnswers

namespace Ends

variable {s : StoreState} {c : StoreCall} {w : StoreWorld}

theorem failed_not_active (ends : Ends s) {op other : Operation} (answered : op ∈ s.answers)
    (failed : op.state = .failed) (active : other ∈ s.active) : other.id ≠ op.id := by
  intro same
  have up : s.up = true := by
    by_contra down
    rw [ends.admission.stopped (by simpa using down)] at active
    cases active
  obtain ⟨⟨now, visible, -, going⟩, unnamed⟩ := ends.admission.running other active
  rw [same] at visible
  exact unnamed.judged (same ▸ ends.judged up op answered failed now visible going)

variable {choices : List StoreChoice}

section

variable (ends : Ends s)
include ends

theorem ready (accepted : s.accepts c = true) (runners : s.underRunners (.call c choices) = true) :
    Ready c s.world.issued s.world where
  start asked := by
    subst asked
    exact ends.idle (by simpa [StoreState.accepts] using accepted)
  update id m asked := by
    subst asked
    simp only [StoreState.underRunners, any_eq_true, decide_eq_true_eq] at runners
    obtain ⟨op, active, rfl⟩ := runners
    exact ⟨ends.admission.active_issued active, ends.owned op active⟩
  settle id e asked := by
    subst asked
    simp only [StoreState.underRunners, any_eq_true, decide_eq_true_eq] at runners
    obtain ⟨op, active, rfl⟩ := runners
    have own := ends.owned op active
    exact ⟨ends.admission.active_issued active,
      ⟨own.unnamed.judged, own.durable.mono fun _ running => running.endsAs e⟩,
      .inl own.unnamed.unsettled⟩

theorem endsKept (accepted : s.accepts c = true) (runners : s.underRunners (.call c choices) = true)
    (durable : s.StartsDurable (.call c choices)) : EndsKept c s.world.issued s.world := by
  refine ⟨ends.ready accepted runners, fun id e held => ?_, fun id => ?_⟩
  · exact ⟨ends.admission.memory.kept id (by simp [held]), ends.kept id e held⟩
  · by_cases up : s.up = true
    · exact ends.firm up id
    · have start : c = .start := by
        cases c <;> simp_all [StoreState.accepts]
      subst start
      exact (ends.half id).imp_right fun done => ⟨done, .inl (durable id done)⟩

theorem moved (accepted : s.accepts c = true) (runners : s.underRunners (.call c choices) = true)
    (durable : s.StartsDurable (.call c choices)) (moves : Moves c s.world.issued s.world w) :
    Ends { s.calling c with world := w } := by
  have kept := (ends.endsKept accepted runners durable).moves moves
  have inactive : ∀ op ∈ s.answers, op.state = .failed → ¬ s.active.any (·.id = op.id) = true := by
    intro op answered failed active
    obtain ⟨other, active, same⟩ := any_eq_true.mp active
    exact ends.failed_not_active answered failed active (of_decide_eq_true same)
  have notSettled : ∀ op ∈ s.answers, op.state = .failed → ∀ e, c ≠ .settle op.id e := by
    rintro op answered failed e rfl
    exact inactive op answered failed runners
  have notUpdated : ∀ op ∈ s.answers, op.state = .failed → ∀ m, c ≠ .update op.id m := by
    rintro op answered failed m rfl
    exact inactive op answered failed runners
  have notStart : s.up = true → c ≠ .start := by
    rintro up rfl
    simp [StoreState.accepts, up] at accepted
  refine ⟨ends.admission.moved accepted moves, ?_, fun id e held => (kept.kept id e held).2,
    fun _ => kept.firm, fun id => (kept.firm id).imp_right And.left, ?_, ?_, ?_, ?_, ?_, ?_⟩
  · intro op member
    obtain ⟨active, unsettled⟩ := StoreState.calling_active member
    refine moves.owned (ends.admission.active_issued active) ?_ unsettled (ends.owned op active)
    rintro rfl
    rw [ends.admission.stopped (by simpa [StoreState.accepts] using accepted)] at active
    cases active
  · intro down id
    simp only [StoreState.calling_up] at down
    have start : c = .start := by
      cases c <;> simp_all [StoreState.accepts]
    exact kept.ready.start start id
  · intro op member
    simp only [StoreState.calling_answers] at member
    exact Moves.issued moves (ends.known op member)
  · intro op member done
    simp only [StoreState.calling_answers] at member
    exact moves.completed (ends.endsKept accepted runners durable) (ends.completed op member done)
  · intro op member failed
    simp only [StoreState.calling_answers] at member
    exact moves.neverCompleted (fun a => notSettled op member failed _)
      (ends.failed op member failed)
  · intro up op member failed
    simp only [StoreState.calling_up, StoreState.calling_answers] at up member
    exact moves.staysJudged (ends.known op member) (notStart up) (notUpdated op member failed)
      (ends.judged up op member failed)
  · have final := ends.final
    simp only [StoreState.FinalAnswers, StoreState.calling_answers] at final ⊢
    exact final

theorem ended : Ends (s.ended s.world) where
  admission := ends.admission.ended
  owned _ h := (not_mem_nil h).elim
  kept _ _ h := by cases h
  firm h := by cases h
  half := ends.half
  idle _ _ := rfl
  known := ends.known
  completed := ends.completed
  failed op h failed := ⟨(ends.failed op h failed).durable, fun _ held => by cases held⟩
  judged h := by cases h
  final := ends.final

theorem powerLoss (mask : List Bool) : Ends (s.ended (s.world.powerLoss mask)) where
  admission := ends.admission.powerLoss mask
  owned _ h := (not_mem_nil h).elim
  kept _ _ h := by cases h
  firm h := by cases h
  half id := by
    by_cases done : IsCompleted ((s.world.powerLoss mask).record id)
    · exact .inr done
    · refine .inl ((StoreWorld.durably_powerLoss mask).mpr fun op found completed => ?_)
      exact done ⟨op, found, completed⟩
  idle _ _ := rfl
  known := ends.known
  completed op h done := (ends.completed op h done).powerLoss mask
  failed op h failed :=
    ⟨(ends.failed op h failed).durable.powerLoss mask, fun _ held => by cases held⟩
  judged h := by cases h
  final := ends.final

theorem answer_same (up : s.up = true) {op earlier : Operation} (answer : Answer s.world op)
    (member : earlier ∈ s.answers) (same : op.id = earlier.id)
    (ended : earlier.state.isTerminal = true) : op.state = earlier.state := by
  rcases (isTerminal_iff _).mp ended with done | failed
  · obtain ⟨now, visible, completed⟩ := (ends.completed earlier member done).visible
    rw [← same, answer.visible] at visible
    cases visible
    exact completed.trans done.symm
  · have never := (ends.failed earlier member failed).durable.visible op (same ▸ answer.visible)
    by_cases going : op.state.isTerminal = true
    · rcases (isTerminal_iff _).mp going with done | also
      · exact absurd done never
      · exact also.trans failed.symm
    · have known := ends.judged up earlier member failed op (same ▸ answer.visible)
        (by simpa using going)
      exact absurd (same ▸ known) answer.judged

theorem answered (up : s.up = true) {ops : List Operation}
    (answers : ∀ op ∈ ops, Answer s.world op) : Ends { s with answers := ops ++ s.answers } := by
  have unique : ∀ a ∈ ops, ∀ b ∈ ops, a.id = b.id → a = b := by
    intro a ha b hb same
    have visible := (answers a ha).visible
    rw [same, (answers b hb).visible] at visible
    exact (Option.some.inj visible).symm
  refine ⟨?_, ends.owned, ends.kept, ends.firm, ends.half, ends.idle, ?_, ?_, ?_, ?_, ?_⟩
  · obtain ⟨sound, memory, recorded, distinct, running, exclusive, stopped⟩ := ends.admission
    exact ⟨sound, memory, recorded, distinct, running, exclusive, stopped⟩
  · intro op member
    rcases mem_append.mp member with fresh | old
    · exact (ends.admission.sound.named (answers op fresh).visible).2
    · exact ends.known op old
  · intro op member done
    rcases mem_append.mp member with fresh | old
    · rcases ends.firm up op.id with none | ⟨-, durable | ⟨a, held⟩⟩
      · exact absurd done (none.visible op (answers op fresh).visible)
      · exact durable
      · simp [(answers op fresh).settled] at held
    · exact ends.completed op old done
  · intro op member failed
    rcases mem_append.mp member with fresh | old
    · refine ⟨?_, fun a held => by simp [(answers op fresh).settled] at held⟩
      rcases ends.firm up op.id with none | ⟨⟨now, visible, done⟩, -⟩
      · exact none
      · rw [(answers op fresh).visible] at visible
        cases visible
        simp [failed] at done
    · exact ends.failed op old failed
  · intro _ op member failed
    rcases mem_append.mp member with fresh | old
    · intro now visible going
      rw [(answers op fresh).visible] at visible
      cases visible
      simp [failed, OperationState.isTerminal] at going
    · exact ends.judged up op old failed
  · refine pairwise_append.mpr ⟨?_, ends.final, ?_⟩
    · exact pairwise_of_forall_mem_list fun a ha b hb same _ =>
        congrArg Operation.state (unique a ha b hb same)
    · exact fun op fresh earlier old same ended =>
        ends.answer_same up (answers op fresh) old same ended

theorem replied (accepted : s.accepts c = true) (runners : s.underRunners (.call c choices) = true)
    (durable : s.StartsDurable (.call c choices)) {reply : StoreReply}
    (moves : Moves c s.world.issued s.world w) (holds : reply.Holds c s.world w) :
    Ends ((s.calling c).replied c w reply) := by
  have after := ends.moved accepted runners durable moves
  cases reply with
  | updated op => exact after
  | answered ops =>
    have up : s.up = true := by
      cases c <;> simp_all [StoreState.accepts, StoreReply.Holds]
    exact after.answered (by simpa using up) holds.2.1
  | error e =>
    cases c with
    | start => exact after.ended
    | _ => exact after
  | done =>
    cases c with
    | start =>
      have kept := (ends.endsKept accepted runners durable).moves moves
      have ready := holds.1 rfl
      refine ⟨ends.admission.replied accepted moves holds, after.owned, after.kept,
        fun _ => kept.firm,
        after.half, fun down => absurd down (by simp [StoreState.replied]), after.known,
        after.completed, after.failed, ?_, after.final⟩
      intro _ op _ _ now visible going
      rcases ready op.id now visible with ended | known
      · simp [going] at ended
      · exact known
    | _ => exact after
  | created op =>
    have admission := ends.admission.replied accepted moves holds
    obtain ⟨kind, key, hash, database, w₁, rfl, shape, unused, -, -, -, rfl⟩ := holds
    have pending : op.state = .pending := by rw [shape]; rfl
    have visible : (w₁.change (.put op)).sync.record op.id = some op := by simp
    have fresh := (admission.running op mem_cons_self).unnamed
    refine ⟨admission, ?_, after.kept, after.firm, after.half, after.idle, ?_, ?_, ?_, ?_, ?_⟩
    · rintro other (_ | ⟨_, member⟩)
      · exact ⟨fresh, StoreWorld.durably_sync.mpr ⟨op, visible, by rw [pending]; rfl⟩⟩
      · exact after.owned other member
    · rintro other (_ | ⟨_, member⟩)
      · exact (admission.sound.named visible).2
      · exact after.known other member
    · rintro other (_ | ⟨_, member⟩) done
      · simp [pending] at done
      · exact after.completed other member done
    · rintro other (_ | ⟨_, member⟩) failed
      · simp [pending] at failed
      · exact after.failed other member failed
    · rintro up other (_ | ⟨_, member⟩) failed
      · simp [pending] at failed
      · exact after.judged up other member failed
    · refine pairwise_cons.mpr ⟨fun earlier member same => ?_, after.final⟩
      exact absurd (same ▸ ends.known earlier member) unused

theorem step (e : StoreEvent) (meets : s.underRunners e = true ∧ s.StartsDurable e) :
    Ends (s.step e) := by
  have outcome := StoreState.step_outcome ends.admission.sound e
  generalize s.step e = s' at outcome
  cases outcome with
  | refused => exact ends
  | cut c choices w accepted moves => exact (ends.moved accepted meets.1 meets.2 moves).ended
  | replied c choices w reply accepted moves holds =>
    exact ends.replied accepted meets.1 meets.2 moves holds
  | kill => exact ends.ended
  | powerLoss mask => exact ends.powerLoss mask

end

end Ends

theorem ends_init : Ends {} where
  admission := admission_init
  owned _ h := (not_mem_nil h).elim
  kept _ _ h := by cases h
  firm h := by cases h
  half _ := by
    refine .inl fun changes part op found => ?_
    rw [sublist_nil.mp part] at found
    cases found
  idle _ _ := rfl
  known _ h := (not_mem_nil h).elim
  completed _ h := (not_mem_nil h).elim
  failed _ h := (not_mem_nil h).elim
  judged h := by cases h
  final := List.Pairwise.nil

/-- Where starts find only durable completions, an answered end is final and an
    operation is answered as Completed only when that is durable. -/
theorem answered_ends_final (events : List StoreEvent)
    (along : StoreState.Along (fun s e => s.underRunners e = true ∧ s.StartsDurable e) {} events) :
    (({} : StoreState).run events).FinalAnswers ∧
    (({} : StoreState).run events).CompletedDurably := by
  have step : ∀ s e, s.underRunners e = true ∧ s.StartsDurable e → Ends s → Ends (s.step e) :=
    fun _ e meets ends => ends.step e meets
  have ends := runEvents_invariant Ends step events ends_init along
  exact ⟨ends.final, ends.completed⟩

def calm : List StoreChoice := List.replicate 40 .ok

/-- The member loses power after the completion and starts again. -/
def settledRestore : List StoreEvent :=
  [.call .start calm, .call (.findOrCreate .restore "key" "hash" "db") calm,
   .call (.settle 1 (.completed none)) calm, .call (.get 1) calm, .powerLoss [], .call .start calm,
   .call (.get 1) calm]

theorem settledRestore_ends_final :
    (({} : StoreState).run settledRestore).answers.map (·.state) =
    [.completed, .completed, .pending] ∧ (({} : StoreState).run settledRestore).FinalAnswers ∧
    (({} : StoreState).run settledRestore).CompletedDurably := by
  refine ⟨by decide, answered_ends_final settledRestore ⟨⟨by decide, ?_⟩, ⟨by decide, trivial⟩,
    ⟨by decide, trivial⟩, ⟨by decide, trivial⟩, ⟨by decide, trivial⟩, ⟨by decide, ?_⟩,
    ⟨by decide, trivial⟩, trivial⟩⟩
  · rintro id ⟨op, found, -⟩
    cases found
  · -- Nothing is left to lose: the completion was synced.
    intro id completed changes part
    rw [sublist_nil.mp part]
    exact completed

/-- The sync of a Completed record fails, the process ends, and the next one
    reads it before a power loss takes it back. -/
def lostCompletion : List StoreEvent :=
  [.call .start calm, .call (.findOrCreate .restore "key" "hash" "db") calm,
   .call (.settle 1 (.completed none)) (List.replicate 7 .ok ++ [.fail "input/output error"]),
   .kill, .call .start calm, .call (.get 1) calm, .powerLoss [], .call .start calm,
   .call (.get 1) calm]

theorem restarted_manager_answers_lost_completion :
    StoreState.Along (fun s e => s.underRunners e = true) {} lostCompletion ∧
    (({} : StoreState).run lostCompletion).answers.map (·.state) = [.failed, .completed, .pending] ∧
    ¬(({} : StoreState).run lostCompletion).FinalAnswers ∧
    ∀ n ∈ List.range 10, ¬(({} : StoreState).run (lostCompletion.take n)).world.Durably 1
      IsCompleted := by
  refine ⟨by decide, by decide, by decide, ?_⟩
  unfold StoreWorld.Durably
  decide

end InstanceManager
