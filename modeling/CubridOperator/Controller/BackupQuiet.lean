import CubridOperator.Controller.BackupLifecycle

/-!
A backup that ends because its target holds no operation of it says that nothing
runs. A start that arrives after the lookup makes it false.
-/
namespace Controller
open Foundation Program InstanceManager Function List Option

abbrev BackupWorld := OperatorWorld CubridBackup BackupRequest BackupQuery BackupQuery.Ans
abbrev BackupPool := OperatorPool CubridBackup BackupRequest BackupQuery BackupQuery.Ans
abbrev BackupEvent := OperatorEvent BackupQuery BackupQuery.Ans BackupEdit
abbrev BackupChoice := OperatorChoice BackupQuery BackupQuery.Ans

def EndedUnstarted (s : CubridBackup) : Prop :=
  s.status.phase = some .failed ∧
  readyReason s ∈ [some reasonRecordedTargetNotStarted, some reasonRequestRefused]

instance (s : CubridBackup) : Decidable (EndedUnstarted s) := inferInstanceAs (Decidable (_ ∧ _))

def HoldsNothing (key : String) (ms : Members BackupRequest) : Prop :=
  ∀ m, ∀ h ∈ ms.held m, h.op.idempotencyKey ≠ key

def settledCall (w : BackupWorld) :
    Call CubridBackup BackupRequest BackupQuery → BackupChoice → Bool
  | .read, .version n => n = w.object.version
  | .find _ _ _, .failed _ => true
  | .find m kind key, _ => (w.members.findOperation m kind key).isSome || w.members.inFlight.isEmpty
  | _, _ => true

def settledStep (pool : BackupPool) : BackupEvent → Bool
  | .act i c => decide (i + 1 = pool.threads.length) &&
    match pool.threads[i]? with
    | some (.call e _) => settledCall pool.world e c
    | _ => true
  | _ => true

section Invariant

variable {backup : CubridBackup} {w : BackupWorld} {parts : List BackupPart} {part : BackupPart}
  {i : Nat}

/-- The newest reconcile was told only what is still so, and once the backup
    has ended unstarted nobody may start it. -/
structure Hushed (backup : CubridBackup) (w : BackupWorld) (parts : List BackupPart) : Prop where
  looked : ∀ part, parts.getLast? = some part →
    ∀ m, .holdsNone m .backup (idempotencyKey backup) ∈ part.seen →
    (∀ h ∈ w.members.held m, h.op.idempotencyKey ≠ idempotencyKey backup) ∧ w.members.inFlight = []
  ended : EndedUnstarted (latest backup.created w.log) →
    HoldsNothing (idempotencyKey backup) w.members ∧ w.members.inFlight = [] ∧
      ∀ part, parts.getLast? = some part → part.base = none ∨
        (∃ v b, part.base = some (v, b) ∧ b.isTerminal = true) ∨ ∃ m kind key,
        .holdsNone m kind key ∈ part.seen

theorem getLast?_newest (here : parts[i]? = some part) (newest : i + 1 = parts.length) :
    parts.getLast? = some part := by
  rw [getLast?_eq_getElem?, ← newest]
  exact here

theorem getLast?_set_newest (newest : i + 1 = parts.length) (next : BackupPart) :
    (parts.set i next).getLast? = some next := by
  rw [getLast?_eq_getElem?, length_set, ← newest]
  exact getElem?_set_self (by omega)

theorem Hushed.still (hushed : Hushed backup w parts) (here : parts[i]? = some part)
    (newest : i + 1 = parts.length) {w' : BackupWorld} {next : BackupPart}
    (members : w'.members = w.members)
    (stored : latest backup.created w'.log = latest backup.created w.log)
    (base : next.base = part.base)
    (heard : ∀ m kind key, .holdsNone m kind key ∈ next.seen ↔ .holdsNone m kind key ∈ part.seen) :
    Hushed backup w' (parts.set i next) := by
  have last := getLast?_newest here newest
  constructor
  · intro next' is m told
    rw [getLast?_set_newest newest] at is
    cases is
    rw [members]
    exact hushed.looked part last m ((heard _ _ _).mp told)
  · intro unstarted
    rw [stored] at unstarted
    obtain ⟨nothing, quiet, idle⟩ := hushed.ended unstarted
    rw [members]
    refine ⟨nothing, quiet, fun next' is => ?_⟩
    rw [getLast?_set_newest newest] at is
    cases is
    rw [base]
    exact (idle part last).imp_right fun rest => rest.imp_right fun ⟨m, kind, key, told⟩ =>
      ⟨m, kind, key, (heard _ _ _).mpr told⟩

theorem Hushed.note (hushed : Hushed backup w parts) (here : parts[i]? = some part)
    (newest : i + 1 = parts.length) {e : BackupEntry} (quiet : e.stores = none)
    (other : ∀ m kind key, e ≠ .holdsNone m kind key) :
    Hushed backup (w.note i e) (parts.set i (part.note e)) := by
  refine hushed.still here newest rfl (latest_cons_of_none quiet) rfl fun m kind key => ?_
  constructor
  · intro told
    exact (mem_cons.mp told).resolve_left fun same => other m kind key same.symm
  · exact mem_cons_of_mem _

end Invariant

section Calls

variable {backup : CubridBackup} {w : BackupWorld} {parts : List BackupPart} {part : BackupPart}
  {i : Nat}

abbrev BackupInv (w : BackupWorld) (parts : List BackupPart) : Prop :=
  OperatorInv backupRules CubridBackup.persisted backupModel.edits w parts

theorem BackupInv.ledger (inv : BackupInv w parts) (first : w.initial = backup.created) :
    Ledger backup.created w.log :=
  ledger_of_justified backup (first ▸ inv.ruled)

theorem held_on_target (inv : BackupInv w parts) (first : w.initial = backup.created) {m : String}
    {h : Held BackupRequest} (held : h ∈ w.members.held m) :
    h.op.kind = .backup ∧ m = (latest backup.created w.log).core.target := by
  obtain ⟨req, made, is, -⟩ := inv.members.held m h held
  obtain ⟨j, sent⟩ := inv.made m h.op.id req made
  obtain ⟨-, target, kind, -⟩ := (inv.ledger first).sent j m req sent
  exact ⟨is.kind.trans kind, target.symm⟩

section

variable (hushed : Hushed backup w parts)
include hushed

theorem Hushed.lookedUp (inv : BackupInv w parts) (first : w.initial = backup.created)
    (here : parts[i]? = some part) (newest : i + 1 = parts.length) {m : String}
    {kind : OperationKind} {key : String} (none : w.members.findOperation m kind key = none)
    (quiet : w.members.inFlight = []) :
    Hushed backup (w.note i (.holdsNone m kind key))
      (parts.set i (part.note (.holdsNone m kind key))) := by
  have last := getLast?_newest here newest
  constructor
  · intro next is m' told
    rw [getLast?_set_newest newest] at is
    cases is
    rcases mem_cons.mp told with same | before
    · cases same
      refine ⟨fun h held own => ?_, quiet⟩
      have kind := (held_on_target inv first held).1
      have missing := find?_eq_none.mp (map_eq_none_iff.mp none) h held
      simp [own, kind] at missing
    · exact hushed.looked part last m' before
  · intro unstarted
    obtain ⟨nothing, quiet, -⟩ := hushed.ended unstarted
    refine ⟨nothing, quiet, fun next is => ?_⟩
    rw [getLast?_set_newest newest] at is
    cases is
    exact .inr (.inr ⟨m, kind, key, mem_cons_self⟩)

theorem Hushed.read (inv : BackupInv w parts) (first : w.initial = backup.created)
    (here : parts[i]? = some part) (newest : i + 1 = parts.length) {s : CubridBackup}
    (current : w.object.atVersion w.object.version = some s) :
    Hushed backup (w.note i (.read s))
      (parts.set i { base := some (w.object.version, s), seen := .read s :: part.seen }) := by
  have last := getLast?_newest here newest
  have same : latest backup.created w.log = s := by
    rw [Versioned.atVersion_version, inv.current, first] at current
    exact some.inj current
  constructor
  · intro next is m told
    rw [getLast?_set_newest newest] at is
    cases is
    exact hushed.looked part last m (by simpa using told)
  · intro unstarted
    obtain ⟨nothing, quiet, -⟩ := hushed.ended unstarted
    refine ⟨nothing, quiet, fun next is => ?_⟩
    rw [getLast?_set_newest newest] at is
    cases is
    have failed : s.status.phase = some .failed := same ▸ unstarted.1
    exact .inr (.inl ⟨w.object.version, s, rfl, by simp [CubridBackup.isTerminal, failed]⟩)

theorem Hushed.wrote (inv : BackupInv w parts) (first : w.initial = backup.created)
    (here : parts[i]? = some part) (newest : i + 1 = parts.length) {object : CubridBackup}
    {b : CubridBackup} (goes : part.base = some (w.object.version, b))
    (move : Move b object part.seen) {w' : BackupWorld} {next : BackupPart}
    (members : w'.members = w.members) (stored : latest backup.created w'.log = object.persisted)
    (heard : ∀ m kind key, .holdsNone m kind key ∈ next.seen ↔ .holdsNone m kind key ∈ part.seen)
    (base : next.base = part.base ∨ ∃ v, next.base = some (v, object.persisted)) :
    Hushed backup w' (parts.set i next) := by
  have last := getLast?_newest here newest
  have ledger := inv.ledger first
  constructor
  · intro next' is m told
    rw [getLast?_set_newest newest] at is
    cases is
    rw [members]
    exact hushed.looked part last m ((heard _ _ _).mp told)
  · intro unstarted
    rw [stored] at unstarted
    obtain ⟨failed, reason⟩ := unstarted
    rw [persisted_readyReason] at reason
    have told := (move.failed failed).unstarted reason
    have atop : latest backup.created w.log = b := by
      have current := (inv.base i part _ b here goes).1
      rw [Versioned.atVersion_version, inv.current, first] at current
      exact some.inj current
    have key : object.core.key = idempotencyKey backup := by
      rw [move.draft.key, ← atop]
      exact ledger.key latest_mem
    rw [key] at told
    obtain ⟨none, quiet⟩ := hushed.looked part last _ told
    have nothing : HoldsNothing (idempotencyKey backup) w.members := by
      intro m h held own
      obtain ⟨req, made, is, -⟩ := inv.members.held m h held
      obtain ⟨j, sent⟩ := inv.made m h.op.id req made
      obtain ⟨named, target, -⟩ := ledger.sent j m req sent
      rw [atop] at target
      have same : object.core.target = m := ((move.draft.target (target ▸ named)).1).trans target
      exact none h (same ▸ held) own
    rw [members]
    refine ⟨nothing, quiet, fun next' is => ?_⟩
    rw [getLast?_set_newest newest] at is
    cases is
    rcases base with same | ⟨v, is⟩
    · exact .inr (.inr ⟨_, _, _, (heard _ _ _).mpr told⟩)
    · refine .inr (.inl ⟨v, object.persisted, is, ?_⟩)
      have failed : object.persisted.status.phase = some .failed := failed
      simp [CubridBackup.isTerminal, failed]

theorem Hushed.sent (here : parts[i]? = some part) (newest : i + 1 = parts.length) {v : Nat}
    {b : CubridBackup} {m : String} {req : Request BackupRequest} (goes : part.base = some (v, b))
    (send : Send b m req part.seen) {w' : BackupWorld} {next : BackupPart}
    (stored : latest backup.created w'.log = latest backup.created w.log)
    (heard : ∀ m kind key, .holdsNone m kind key ∈ next.seen ↔ .holdsNone m kind key ∈ part.seen) :
    ¬ EndedUnstarted (latest backup.created w.log) ∧ Hushed backup w' (parts.set i next) := by
  have last := getLast?_newest here newest
  have live : ¬ EndedUnstarted (latest backup.created w.log) := by
    intro unstarted
    obtain ⟨-, -, idle⟩ := hushed.ended unstarted
    rcases idle part last with none | ⟨v', b', is, terminal⟩ | ⟨m', kind, key, told⟩
    · rw [goes] at none
      cases none
    · rw [goes] at is
      cases is
      rw [send.live] at terminal
      cases terminal
    · exact send.unheld m' kind key told
  refine ⟨live, ?_, fun unstarted => absurd (stored ▸ unstarted) live⟩
  intro next' is m' told
  rw [getLast?_set_newest newest] at is
  cases is
  exact absurd ((heard _ _ _).mp told) (send.unheld m' _ _)

end

/-- Once the backup has ended unstarted it stays so, and nothing is created. -/
def Silent (backup : CubridBackup) (w w' : BackupWorld) : Prop :=
  EndedUnstarted (latest backup.created w.log) →
    EndedUnstarted (latest backup.created w'.log) ∧ w'.members.made = w.members.made

theorem silent_of_same {w' : BackupWorld} (members : w'.members = w.members)
    (stored : latest backup.created w'.log = latest backup.created w.log) : Silent backup w w' := by
  intro unstarted
  rw [stored, members]
  exact ⟨unstarted, rfl⟩

theorem startSent_latest (backup : CubridBackup) (w : BackupWorld) (i : Nat) (m : String)
    (req : Request BackupRequest) (f : StartFate) :
    latest backup.created (w.startSent i m req f).1.log = latest backup.created w.log := by
  cases f with
  | answered v =>
    simp only [OperatorWorld.startSent]
    split <;> exact latest_cons_of_none rfl
  | _ => exact latest_cons_of_none rfl

def Leaves (backup : CubridBackup) (w : BackupWorld) (parts : List BackupPart) (i : Nat)
    (part : BackupPart) (e : Call CubridBackup BackupRequest BackupQuery)
    (outcome : BackupWorld × Option (Call.Ans BackupQuery.Ans e)) : Prop :=
  match outcome with
  | (w', none) => Hushed backup w' parts ∧ Silent backup w w'
  | (w', some a) =>
    Hushed backup w'
      (parts.set i ((operatorProtocol backupRules CubridBackup.persisted).next part e a)) ∧
      Silent backup w w'

theorem hushed_write (hushed : Hushed backup w parts) (inv : BackupInv w parts)
    (first : w.initial = backup.created) (here : parts[i]? = some part)
    (newest : i + 1 = parts.length) {v : Nat} {b object : CubridBackup}
    (goes : part.base = some (v, b)) (move : Move b object part.seen) (f : Fate) :
    Leaves backup w parts i part (.write v object)
      ((w.statusWritten CubridBackup.persisted i v object f).1,
        some (w.statusWritten CubridBackup.persisted i v object f).2) := by
  have silent : ∀ w' : BackupWorld, v = w.object.version → Silent backup w w' := by
    intro w' current unstarted
    have stored := (inv.base i part v b here goes).1
    rw [current, Versioned.atVersion_version, inv.current, first] at stored
    have live := move.live
    rw [← some.inj stored] at live
    simp [CubridBackup.isTerminal, unstarted.1] at live
  unfold OperatorWorld.statusWritten
  obtain is | ⟨current, is | is⟩ := w.object.write_cases v object.persisted f
  · simp only [is, if_true]
    exact ⟨hushed.note here newest rfl (by simp), silent_of_same rfl (latest_cons_of_none rfl)⟩
  · simp only [is, Versioned.version_push, Nat.succ_ne_self, if_false]
    refine ⟨hushed.wrote inv first here newest (current ▸ goes) move rfl ?_ ?_ (.inl rfl),
      silent _ current⟩
    · exact (latest_cons_of_none rfl).trans (latest_cons_of_some rfl)
    · simp [OperatorPart.note, operatorProtocol]
  · simp only [is, Versioned.version_push, Nat.succ_ne_self, if_false]
    refine ⟨hushed.wrote inv first here newest (current ▸ goes) move rfl
      (latest_cons_of_some rfl) ?_ ?_, silent _ current⟩
    · simp [operatorProtocol, goes]
    · exact .inr ⟨v + 1, by simp [operatorProtocol, goes]⟩

theorem hushed_start (hushed : Hushed backup w parts) (here : parts[i]? = some part)
    (newest : i + 1 = parts.length) {v : Nat} {b : CubridBackup} {m : String}
    {req : Request BackupRequest} (goes : part.base = some (v, b)) (send : Send b m req part.seen)
    (f : StartFate) :
    Leaves backup w parts i part (.start m req)
      (((w.note i (.sent m req)).startSent i m req f).1,
        some ((w.note i (.sent m req)).startSent i m req f).2) := by
  have stored := (startSent_latest backup (w.note i (.sent m req)) i m req f).trans
    (latest_cons_of_none rfl)
  have heard : ∀ m' kind key,
      .holdsNone m' kind key ∈ ((operatorProtocol backupRules CubridBackup.persisted).next part
      (.start m req) ((w.note i (.sent m req)).startSent i m req f).2).seen ↔
      .holdsNone m' kind key ∈ part.seen := by
    intro m' kind key
    cases ((w.note i (.sent m req)).startSent i m req f).2 <;>
      simp [operatorProtocol, OperatorPart.note]
  obtain ⟨live, kept⟩ := hushed.sent here newest goes send stored heard
  exact ⟨kept, fun unstarted => absurd unstarted live⟩

theorem hushed_call (hushed : Hushed backup w parts) (inv : BackupInv w parts)
    (first : w.initial = backup.created) (here : parts[i]? = some part)
    (newest : i + 1 = parts.length) (e : Call CubridBackup BackupRequest BackupQuery)
    (may : backupRules.Allows part e) (c : BackupChoice) (settled : settledCall w e c = true) :
    Leaves backup w parts i part e (operatorHandler CubridBackup.persisted i w e c) := by
  have noted : ∀ {x : BackupEntry}, x.stores = none → (∀ m kind key, x ≠ .holdsNone m kind key) →
      Hushed backup (w.note i x) (parts.set i (part.note x)) ∧ Silent backup w (w.note i x) := by
    intro x quiet other
    exact ⟨hushed.note here newest quiet other, silent_of_same rfl (latest_cons_of_none quiet)⟩
  have waiting : Hushed backup w parts ∧ Silent backup w w := ⟨hushed, silent_of_same rfl rfl⟩
  cases e with
  | read =>
    cases c with
    | version n =>
      obtain rfl : n = w.object.version := by simpa [settledCall] using settled
      simp only [operatorHandler]
      cases stored : w.object.atVersion w.object.version with
      | none => exact noted rfl (by simp)
      | some s =>
        exact ⟨hushed.read inv first here newest stored,
          silent_of_same rfl (latest_cons_of_none rfl)⟩
    | _ => exact noted rfl (by simp)
  | write v object =>
    obtain ⟨b, goes, move⟩ := may
    cases c with
    | fate f => exact hushed_write hushed inv first here newest goes move f
    | _ => exact noted rfl (by simp)
  | now =>
    cases c with
    | time t =>
      refine ⟨hushed.still here newest rfl (latest_cons_of_none rfl) rfl ?_,
        silent_of_same rfl (latest_cons_of_none rfl)⟩
      simp [operatorProtocol, OperatorPart.note]
    | _ => exact waiting
  | start m req =>
    obtain ⟨v, b, goes, send⟩ := may
    cases c with
    | start f => exact hushed_start hushed here newest goes send f
    | _ => exact hushed_start hushed here newest goes send .lost
  | get m id =>
    cases c with
    | failed e => exact noted rfl (by simp)
    | _ =>
      simp only [operatorHandler]
      cases w.members.getOperation m id <;> exact noted rfl (by simp)
  | find m kind key =>
    cases c with
    | failed e => exact noted rfl (by simp)
    | _ =>
      simp only [operatorHandler]
      simp only [settledCall, Bool.or_eq_true, List.isEmpty_iff] at settled
      cases found : w.members.findOperation m kind key with
      | some op => exact noted rfl (by simp)
      | none =>
        rw [found] at settled
        have quiet := settled.resolve_left (by simp)
        exact ⟨hushed.lookedUp inv first here newest found quiet,
          silent_of_same rfl (latest_cons_of_none rfl)⟩
  | query q =>
    cases c with
    | replies f => exact noted rfl (by simp)
    | _ => exact waiting

end Calls

section Runs

variable {backup : CubridBackup} {pool : BackupPool} {parts : List BackupPart}

structure QuietInv (backup : CubridBackup) (w : BackupWorld) (parts : List BackupPart) : Prop where
  inv : BackupInv w parts
  first : w.initial = backup.created
  hushed : Hushed backup w parts

abbrev QuietPlays (backup : CubridBackup) (pool : BackupPool) (parts : List BackupPart) : Prop :=
  Pool.Plays (operatorProtocol backupRules CubridBackup.persisted) Finished
    (QuietInv backup) pool parts

theorem backup_step (e : Call CubridBackup BackupRequest BackupQuery) :
    Pool.Step (operatorProtocol backupRules CubridBackup.persisted)
      (operatorHandler CubridBackup.persisted) BackupInv e :=
  operator_step (fun _ _ => trivial) e

theorem quiet_act (plays : QuietPlays backup pool parts) {i : Nat} {c : BackupChoice}
    (settled : settledStep pool (.act i c) = true) :
    ∃ next, Pool.Plays (operatorProtocol backupRules CubridBackup.persisted) Finished
      (fun w parts => QuietInv backup w parts ∧ Silent backup pool.world w)
      (pool.act (operatorHandler CubridBackup.persisted) i c) next := by
  obtain ⟨inv, first, hushed⟩ := plays.holds
  simp only [settledStep, Bool.and_eq_true, decide_eq_true_eq] at settled
  refine plays.act_of i c (fun e k part here played may => ?_) ⟨plays.holds, silent_of_same rfl rfl⟩
  have newest : i + 1 = parts.length := settled.1.trans plays.length_eq.symm
  have quiet : settledCall pool.world e c = true := by simpa [here] using settled.2
  have left := hushed_call hushed inv first played newest e (may (inv.trusts played)) c quiet
  have kept := backup_step e pool.world parts i part c inv played may
  have initial := operatorHandler_initial (i := i) (w := pool.world) CubridBackup.persisted e c
  generalize operatorHandler CubridBackup.persisted i pool.world e c =
    outcome at left kept initial ⊢
  obtain ⟨w', _ | a⟩ := outcome <;> exact ⟨⟨kept, initial.trans first, left.1⟩, left.2⟩

theorem Hushed.members {w : BackupWorld} (hushed : Hushed backup w parts)
    {ms : Members BackupRequest}
    (held : ∀ m, ∀ h ∈ ms.held m, ∃ h' ∈ w.members.held m, h.op.idempotencyKey =
      h'.op.idempotencyKey)
    (inFlight : w.members.inFlight = [] → ms.inFlight = []) :
    Hushed backup { w with members := ms } parts := by
  constructor
  · intro part last m told
    obtain ⟨none, quiet⟩ := hushed.looked part last m told
    refine ⟨fun h inside => ?_, inFlight quiet⟩
    obtain ⟨h', before, same⟩ := held m h inside
    rw [same]
    exact none h' before
  · intro unstarted
    obtain ⟨nothing, quiet, idle⟩ := hushed.ended unstarted
    refine ⟨fun m h inside => ?_, inFlight quiet, idle⟩
    obtain ⟨h', before, same⟩ := held m h inside
    rw [same]
    exact nothing m h' before

theorem change_held {ms : Members BackupRequest} {m n : String} {id : OperationID} {p : Progress}
    {h : Held BackupRequest} (inside : h ∈ (ms.change m id p).held n) :
    ∃ h' ∈ ms.held n, h.op.idempotencyKey = h'.op.idempotencyKey := by
  by_cases this : n = m
  · subst this
    simp only [Members.change, update_self, List.mem_map] at inside
    obtain ⟨h', before, rfl⟩ := inside
    refine ⟨h', before, ?_⟩
    split_ifs <;> rfl
  · exact ⟨h, by simpa [Members.change, update_of_ne this] using inside, rfl⟩

theorem lose_held {ms : Members BackupRequest} {m n : String} {id : OperationID}
    {h : Held BackupRequest} (inside : h ∈ (ms.lose m id).held n) :
    ∃ h' ∈ ms.held n, h.op.idempotencyKey = h'.op.idempotencyKey := by
  by_cases this : n = m
  · subst this
    simp only [Members.lose, update_self] at inside
    exact ⟨h, (mem_filter.mp inside).1, rfl⟩
  · exact ⟨h, by simpa [Members.lose, update_of_ne this] using inside, rfl⟩

theorem Hushed.spawn {w : BackupWorld} (hushed : Hushed backup w parts) {n : Nat} {t : Int} :
    Hushed backup (w.record (some n, .began t)) (parts ++ [{ seen := [.began t] }]) := by
  have stored : latest backup.created (w.record (some n, .began t)).log =
      latest backup.created w.log :=
    latest_cons_of_none rfl
  constructor
  · intro part last m told
    simp only [getLast?_append, getLast?_singleton, some_or, some.injEq] at last
    subst last
    simp at told
  · intro unstarted
    rw [stored] at unstarted
    obtain ⟨nothing, quiet, -⟩ := hushed.ended unstarted
    refine ⟨nothing, quiet, fun part last => ?_⟩
    simp only [getLast?_append, getLast?_singleton, some_or, some.injEq] at last
    subst last
    exact .inl rfl

theorem Hushed.edit {w : BackupWorld} (hushed : Hushed backup w parts) (edit : BackupEdit) :
    Hushed backup
      (w.record (none, .edited (backupModel.amend edit (latest backup.created w.log)))) parts := by
  have stored : latest backup.created
      (w.record (none, .edited (backupModel.amend edit (latest backup.created w.log)))).log =
      backupModel.amend edit (latest backup.created w.log) := latest_cons_of_some rfl
  refine ⟨hushed.looked, fun unstarted => ?_⟩
  rw [stored] at unstarted
  exact hushed.ended unstarted

theorem quiet_step (plays : QuietPlays backup pool parts) (event : BackupEvent)
    (settled : settledStep pool event = true) :
    (∃ next, QuietPlays backup (backupModel.step pool event) next) ∧
      Silent backup pool.world (backupModel.step pool event).world := by
  obtain ⟨inv, first, hushed⟩ := plays.holds
  have ofModel : OperatorInv backupRules backupModel.persist backupModel.edits pool.world parts :=
    inv
  -- An event that leaves the threads alone, and of the members only what is held and on its way.
  have around : ∀ {ms : Members BackupRequest}, BackupInv { pool.world with members := ms } parts →
      (∀ m, ∀ h ∈ ms.held m, ∃ h' ∈ pool.world.members.held m, h.op.idempotencyKey =
        h'.op.idempotencyKey) →
      (pool.world.members.inFlight = [] → ms.inFlight = []) → ms.made = pool.world.members.made →
      (∃ next, QuietPlays backup { pool with world.members := ms } next) ∧
        Silent backup pool.world { pool.world with members := ms } := by
    intro ms inv' held inFlight made
    exact ⟨⟨parts, plays.follow, inv', first, hushed.members held inFlight⟩,
      fun unstarted => ⟨unstarted, made⟩⟩
  have dropped : ∀ k m req, (m, req) ∈ pool.world.members.inFlight.eraseIdx k →
      ∃ i, (some i, .sent m req) ∈ pool.world.log :=
    fun k m req flying => inv.inFlight m req (mem_of_mem_eraseIdx flying)
  cases event with
  | act i c =>
    obtain ⟨next, plays⟩ := quiet_act plays settled
    exact ⟨⟨next, plays.follow, plays.holds.1⟩, plays.holds.2⟩
  | reconcile =>
    refine ⟨⟨parts ++ [{ seen := [.began pool.world.clock] }], ?_, ?_⟩,
      silent_of_same rfl (latest_cons_of_none rfl)⟩
    · exact (Pool.Plays.spawn ⟨plays.follow, trivial⟩ (backup_keeps.obeys _) trivial :
        Pool.Plays (operatorProtocol backupRules CubridBackup.persisted) Finished
          (fun _ _ => True) _ _).follow
    · exact ⟨ofModel.spawn plays.length_eq, first, hushed.spawn⟩
  | deliver k v =>
    simp only [OperatorModel.step]
    split
    · rename_i m req flying
      have kept := inv.receive (inv.inFlight m req (mem_of_getElem? flying)) v
      have kept : BackupInv { pool.world with
          members := { (pool.world.members.receive m req v).1 with
          inFlight := pool.world.members.inFlight.eraseIdx k } } parts :=
        kept.received ⟨kept.members.ids, kept.members.held⟩ (Members.becomes_of_held rfl rfl)
          kept.made (dropped k)
      have flown : pool.world.members.inFlight ≠ [] := fun none => by simp [none] at flying
      refine ⟨⟨parts, plays.follow, kept, first, ?_, ?_⟩, ?_⟩
      · intro part last m' told
        exact absurd (hushed.looked part last m' told).2 flown
      · intro unstarted
        exact absurd (hushed.ended unstarted).2.1 flown
      · intro unstarted
        exact absurd (hushed.ended unstarted).2.1 flown
    · exact ⟨⟨parts, plays⟩, silent_of_same rfl rfl⟩
  | drop k =>
    refine around
      (inv.received ⟨inv.members.ids, inv.members.held⟩ (Members.becomes_of_held rfl rfl) inv.made
      (dropped k)) ?_ ?_ rfl
    · exact fun m h inside => ⟨h, inside, rfl⟩
    · intro none
      simp [none]
  | change m id p =>
    exact around (inv.received (inv.members.change p) (pool.world.members.becomes_change m id p)
      inv.made inv.inFlight) (fun _ _ => change_held) (fun none => none) rfl
  | lose m id =>
    exact around
      (inv.received inv.members.lose (pool.world.members.becomes_lose m id) inv.made inv.inFlight)
      (fun _ _ => lose_held) (fun none => none) rfl
  | edit x =>
    simp only [OperatorModel.step]
    split
    · rename_i s current
      have same : latest backup.created pool.world.log = s := by
        rw [inv.current, first] at current
        exact some.inj current
      subst same
      refine ⟨⟨parts, plays.follow, ofModel.edit (fun _ _ _ => trivial) x current, first,
        hushed.edit x⟩, ?_⟩
      intro unstarted
      have stored : latest backup.created (pool.world.record
          (none, .edited (backupModel.amend x (latest backup.created pool.world.log)))).log =
          backupModel.amend x (latest backup.created pool.world.log) := latest_cons_of_some rfl
      rw [stored]
      exact ⟨unstarted, rfl⟩
    · exact ⟨⟨parts, plays⟩, silent_of_same rfl rfl⟩
  | tick t =>
    exact ⟨⟨parts, plays.follow, inv.later (le_max_left _ _), first, hushed.looked, hushed.ended⟩,
      silent_of_same rfl rfl⟩

theorem quiet_created (backup : CubridBackup) :
    QuietPlays backup (backupModel.created backup.created) [] := by
  have plays : backupModel.Plays backupRules Finished (backupModel.created backup.created) [] :=
    OperatorModel.plays_created trivial
  refine ⟨plays.follow, plays.holds, rfl, fun part last => (by cases last), fun unstarted => ?_⟩
  cases unstarted.1

theorem quiet_run (later : List BackupEvent) (plays : QuietPlays backup pool parts)
    (unstarted : EndedUnstarted (latest backup.created pool.world.log))
    (settled : Along backupModel.step (fun pool event => settledStep pool event = true)
      pool later) :
    HoldsNothing (idempotencyKey backup) (runEvents backupModel.step pool later).world.members ∧
      (runEvents backupModel.step pool later).world.members.made = pool.world.members.made := by
  have kept := runEvents_invariant (fun next => (∃ parts, QuietPlays backup next parts) ∧
      EndedUnstarted (latest backup.created next.world.log) ∧ next.world.members.made =
        pool.world.members.made)
    (fun next event settled ⟨⟨_, plays⟩, unstarted, made⟩ => by
      obtain ⟨plays, silent⟩ := quiet_step plays event settled
      obtain ⟨unstarted, same⟩ := silent unstarted
      exact ⟨plays, unstarted, same.trans made⟩)
    later ⟨⟨parts, plays⟩, unstarted, rfl⟩ settled
  obtain ⟨⟨_, plays⟩, unstarted, made⟩ := kept
  exact ⟨(plays.holds.hushed.ended unstarted).1, made⟩

/-- In every settled run: when the backup has ended because its target holds no
    operation of it, no member holds one, then or later. -/
theorem ended_unstarted_nothing_runs (backup : CubridBackup) (events later : List BackupEvent)
    (settled : Along backupModel.step (fun pool event => settledStep pool event = true)
      (backupModel.created backup.created) (events ++ later))
    (unstarted : EndedUnstarted (latest backup.created (backupLog backup events))) :
    HoldsNothing (idempotencyKey backup) (backupRun backup events).world.members ∧
      HoldsNothing (idempotencyKey backup) (backupRun backup (events ++ later)).world.members ∧
      (backupRun backup (events ++ later)).world.members.made =
      (backupRun backup events).world.members.made := by
  obtain ⟨before, after⟩ := (along_append events).mp settled
  obtain ⟨parts, plays⟩ := runEvents_invariant (fun pool => ∃ parts, QuietPlays backup pool parts)
    (fun _ event settled ⟨_, plays⟩ => (quiet_step plays event settled).1) events
      ⟨[], quiet_created backup⟩ before
  have joined : backupRun backup (events ++ later) = runEvents backupModel.step
      (backupRun backup events) later :=
    runEvents_append _ _ _ _
  rw [joined]
  exact ⟨(plays.holds.hushed.ended unstarted).1, quiet_run later plays unstarted after⟩

end Runs

def soleStorage : CubridObjectStorage where
  endpoint := "s3:9000"
  bucket := "seeds"
  credentialsSecretRef := "keys"

def soleCluster : BackedCluster where
  name := "db"
  uid := "c"
  promotableMembers := 1
  version := "11.4"
  objectStorage := some soleStorage
  identified := by decide

def soleReplies : (q : BackupQuery) → q.Ans
  | .cluster _ => .found soleCluster
  | .probe _ => { reply := fun _ => .failed, receivedAt := fun _ => 0 }
  | .positions _ => fun _ => none
  | .pod _ => .found [{ name := "cubrid", env := objectStorageEnv soleStorage }]
  | .createdAt _ => none

def nightly : CubridBackup where
  inNamespace := "prod"
  name := "nightly"
  uid := "b"
  creationTimestamp := 0
  spec := { clusterRef := "db", database := "demo", objectStorage := some { bucket := "backups" } }

def soleReply : BackupChoice := .replies soleReplies

def firstStart (start : StartFate) : List BackupEvent :=
  .reconcile :: ([.version 1, soleReply, .time 0, soleReply, .time 0, .time 0, soleReply, .time 0,
    soleReply, .time 0,
    .time 0, .fate .answered, .start start, .time 0, .fate .answered] : List BackupChoice).map
      (.act 0)

def lateLook : List BackupEvent :=
  [.tick (minutes 31), .reconcile] ++
  ([.version 3, soleReply, .time 0, soleReply, .time 0, .time 0, .time 0, .time 0,
    .time 0, .fate .answered] : List BackupChoice).map (.act 1)

/-- The target is recorded, the start does not arrive at all, and the wait for
    it runs out. -/
def lostStart : List BackupEvent := firstStart .lost ++ lateLook

def lookAgain : List BackupEvent := [.reconcile, .act 2 (.version 4)]

theorem lost_start_nothing_runs :
    HoldsNothing (idempotencyKey nightly) (backupRun nightly lostStart).world.members ∧
      HoldsNothing (idempotencyKey nightly)
      (backupRun nightly (lostStart ++ lookAgain)).world.members ∧
      (backupRun nightly (lostStart ++ lookAgain)).world.members.made =
        (backupRun nightly lostStart).world.members.made := by
  have settled : Along backupModel.step (fun pool event => settledStep pool event = true)
      (backupModel.created nightly.created) (lostStart ++ lookAgain) := by decide +kernel
  have unstarted : EndedUnstarted (latest nightly.created (backupLog nightly lostStart)) := by
    decide +kernel
  exact ended_unstarted_nothing_runs nightly lostStart lookAgain settled unstarted

/-- The start arrives after the lookup: the backup has ended with the message
    that nothing runs, and its operation is created. -/
theorem late_start_runs :
    EndedUnstarted (latest nightly.created (backupLog nightly (firstStart .delayed ++ lateLook))) ∧
      (latest nightly.created
        (backupLog nightly (firstStart .delayed ++ lateLook))).status.conditions.map (·.message) =
        ["spec is valid and the referenced cluster exists",
          "the backup was not started on its recorded target db-0 within 30m0s (last: " ++
          "InstanceManagerUnavailable: the start was not answered; waiting for at most 30m0s " ++
          "from when the target was recorded), and db-0 holds no operation of it; " ++
          "nothing runs, and the backup is not started on another member"] ∧
      ((backupRun nightly
        (firstStart .delayed ++ lateLook ++ [.deliver 0 (.accept 7)])).world.members.held
        "db-0").map (·.op.idempotencyKey) = [idempotencyKey nightly] := by
  decide +kernel

end Controller
