import CubridOperator.InstanceManager.LifeRuns
import Mathlib.Data.List.Infix

/-!
What a stop guarantees over every interleaving of the manager's threads.
-/
namespace InstanceManager
open Foundation Program List Option

section Log

variable {i : Nat} {database : String} {log log' : List LifeEntry}

/-- The last thing that thread `i` did. -/
def newest (i : Nat) (log : List LifeEntry) : Option LifeEntry := log.find? (·.thread = i)

theorem newest_cons_self {e : LifeEntry} (same : e.thread = i) : newest i (e :: log) = some e := by
  simp [newest, same]

theorem newest_cons_of_ne {e : LifeEntry} (other : e.thread ≠ i) :
    newest i (e :: log) = newest i log := by
  simp [newest, other]

theorem newest_split {e : LifeEntry} (is : newest i log = some e) :
    ∃ after past, log = after ++ e :: past ∧ ∀ e' ∈ after, e'.thread ≠ i := by
  obtain ⟨-, after, past, same, others⟩ := find?_eq_some_iff_append.mp is
  exact ⟨after, past, same, fun e' inside => by simpa using others e' inside⟩

/-- A command that had recorded the stop found nobody listening. -/
def Unheard (log : List LifeEntry) : Prop :=
  ∃ i past, .unreached i :: past <:+ log ∧ ∃ k, .recorded k ∈ past

/-- What an entry says of the log before it. -/
def LifeEntry.Holds : LifeEntry → List LifeEntry → Prop
  | .started i _, past =>
    (∀ j, .awaited j ∉ past) ∧ ¬ Unheard past ∧ .admitted i ∈ past ∧
    newest i past = some (.passed i)
  | .passed i, past => (∀ j, .marked j ∉ past) ∧ newest i past = some (.looked i)
  | .looked _, past => ∀ j, .recorded j ∉ past
  | .admitted _, past => ∀ j, .marked j ∉ past
  | .awaited _, past =>
    ∀ later i cmd earlier, past = later ++ .started i cmd :: earlier → .ended i ∈ later
  | _, _ => True

/-- The wait of the stop ended with no operation running, and heartbeat was
    withdrawn after it. -/
def Withdrawn (i : Nat) (log : List LifeEntry) : Prop :=
  ∃ later past r, log = later ++ .withdrew i r :: past ∧ .awaited i ∈ past ∧
    heartbeatStopError r = none

def ShutDown (i : Nat) (database : String) (log : List LifeEntry) : Prop :=
  ∃ later past r, log = later ++ .withdrew i r :: past ∧ .awaited i ∈ past ∧
    heartbeatStopError r = none ∧
    (database ≠ "" → ∃ s, .serverStopped i database s ∈ later ∧ serverStopError s = none)

theorem Withdrawn.of_suffix (withdrawn : Withdrawn i log) (grown : log <:+ log') :
    Withdrawn i log' := by
  obtain ⟨later, past, r, rfl, rest⟩ := withdrawn
  obtain ⟨new, rfl⟩ := grown
  exact ⟨new ++ later, past, r, by simp, rest⟩

theorem ShutDown.of_suffix (finished : ShutDown i database log) (grown : log <:+ log') :
    ShutDown i database log' := by
  obtain ⟨later, past, r, rfl, waited, withdrawn, stopped⟩ := finished
  obtain ⟨new, rfl⟩ := grown
  refine ⟨new ++ later, past, r, by simp, waited, withdrawn, fun named => ?_⟩
  obtain ⟨s, inside, good⟩ := stopped named
  exact ⟨s, mem_append_right _ inside, good⟩

/-- The stop whose shutdown succeeded set the flag. -/
structure Settled (i : Nat) (database : String) (log : List LifeEntry) : Prop where
  shut : ShutDown i database log
  flagged : .settled i database ∈ log

theorem Settled.of_suffix (settled : Settled i database log) (grown : log <:+ log') :
    Settled i database log' :=
  ⟨settled.shut.of_suffix grown, grown.subset settled.flagged⟩

theorem Withdrawn.finished_unnamed (withdrawn : Withdrawn i log) : ShutDown i "" log := by
  obtain ⟨later, past, r, same, waited, good⟩ := withdrawn
  exact ⟨later, past, r, same, waited, good, fun named => absurd rfl named⟩

theorem Withdrawn.finished {s : CommandResult} (withdrawn : Withdrawn i log)
    (good : serverStopError s = none) :
    ShutDown i database (.serverStopped i database s :: log) := by
  obtain ⟨later, past, r, rfl, waited, none⟩ := withdrawn
  exact ⟨_ :: later, past, r, rfl, waited, none, fun _ => ⟨s, mem_cons_self, good⟩⟩

theorem withdrawn_cons {r : CommandResult} (waited : .awaited i ∈ log)
    (good : heartbeatStopError r = none) : Withdrawn i (.withdrew i r :: log) :=
  ⟨[], log, r, rfl, waited, good⟩

end Log

def ServiceStage.Holds (w : Life) : ServiceStage → Prop
  | .fresh | .unheard => w.listening = false
  | .starting => w.listening = false ∧ w.starting = true
  | .listening | .noticed => w.listening = true ∧ w.starting = true
  | .closing => w.stopping = true
  | .serving => w.listening = true
  | .finished => True

def StopStage.Holds (w : Life) (i : Nat) (database : String) : StopStage → Prop
  | .called => True
  | .marked | .cancelled => w.stopping = true
  | .locked | .entered | .hurried => w.stopping = true ∧ w.lock = some i
  | .already => w.stopping = true ∧ w.lock = some i
  | .quiet => w.stopping = true ∧ w.lock = some i ∧ .awaited i ∈ w.log
  | .withdrawn clean => w.stopping = true ∧ w.lock = some i ∧ (clean = true → Withdrawn i w.log)
  | .shut clean => w.stopping = true ∧ w.lock = some i ∧ (clean = true → ShutDown i database w.log)
  | .settled => w.stopping = true ∧ w.lock = some i ∧ Settled i database w.log
  | .ended _ => True

def Check.Holds (w : Life) (i : Nat) : Check → Prop
  | .idle => True
  | .looked => newest i w.log = some (.looked i)
  | .cleared => newest i w.log = some (.passed i)

def LifePart.Holds (w : Life) (i : Nat) : LifePart → Prop
  | .admitted _ check => i ∈ w.ops ∧ w.listening = true ∧ check.Holds w i
  | .service stage => i ∉ w.ops ∧ stage.Holds w
  | .stop database stage => i ∉ w.ops ∧ stage.Holds w i database
  | .alone _ => i ∉ w.ops ∧ .unreached i ∈ w.log
  | _ => i ∉ w.ops

def LifePart.isService : LifePart → Bool
  | .service _ | .admitted true _ => true
  | _ => false

/-- Nothing is admitted, now or later: the manager does not listen yet, or it is
    still starting and finds the record. -/
structure Barred (w : Life) (parts : List LifePart) : Prop where
  recorded : w.recorded = true
  outside : ∀ (i : Nat) part, parts[i]? = some part →
    (∀ service check, part ≠ .admitted service check) ∧ part ≠ .service .serving
  refused : w.stopping = true ∨ w.listening = false ∨ w.starting = true

structure LogInv (w : Life) : Prop where
  justified : Justified LifeEntry.Holds w.log
  pending : ∀ later i cmd earlier, w.log = later ++ .started i cmd :: earlier →
    .ended i ∈ later ∨ i ∈ w.ops
  running : ∀ i ∈ w.ops, .admitted i ∈ w.log
  marked : ∀ i, .marked i ∈ w.log → w.stopping = true
  awaited : ∀ i, .awaited i ∈ w.log → w.ops = [] ∧ w.stopping = true
  recorded : ∀ i, .recorded i ∈ w.log → w.recorded = true

def HasStopped (w : Life) (parts : List LifePart) : Prop :=
  ∃ (j : Nat) (database : String), Settled j database w.log ∧
    parts[j]? = some (.stop database (.ended true))

structure LifeInv (w : Life) (parts : List LifePart) : Prop where
  each : ∀ (i : Nat) part, parts[i]? = some part → part.Holds w i
  bound : ∀ i ∈ w.ops, i < parts.length
  nodup : w.ops.Nodup
  log : LogInv w
  barred : Unheard w.log → Barred w parts
  -- The stop that set the flag has returned, or still holds the lock.
  stopped : w.stopped = true → HasStopped w parts ∨
    ∃ (j : Nat) (database : String), Settled j database w.log ∧
      parts[j]? = some (.stop database .settled)
  finisher : ∀ (i : Nat) (name : String) (stage : StopStage), parts[i]? = some (.stop name stage) →
    stage = .already ∨ stage = .ended true → HasStopped w parts
  one : ∀ (i j : Nat) (p q : LifePart), parts[i]? = some p → parts[j]? = some q →
    p.isService = true →
    q.isService = true → i = j
  launched : w.launched = false → w.listening = false ∧ ∀ (i : Nat) (p : LifePart),
    parts[i]? = some p → p.isService = false

section Frames

variable {i j : Nat} {w w' : Life} {part next : LifePart}

/-- What a change of the member spares to thread `j`. -/
structure Spares (j : Nat) (w w' : Life) : Prop where
  ops : j ∈ w'.ops ↔ j ∈ w.ops
  stopping : w.stopping = true → w'.stopping = true
  listening : w.listening = true → w'.listening = true
  lock : w.lock = some j → w'.lock = some j
  log : w.log <:+ w'.log
  own : newest j w'.log = newest j w.log

theorem Spares.refl (j : Nat) (w : Life) : Spares j w w := ⟨Iff.rfl, id, id, id, suffix_refl _, rfl⟩

theorem Spares.note {e : LifeEntry} (w : Life) (other : e.thread ≠ j) : Spares j w (w.note e) :=
  ⟨Iff.rfl, id, id, id, suffix_cons _ _, newest_cons_of_ne other⟩

theorem Check.Holds.kept {check : Check} (holds : check.Holds w j) (spares : Spares j w w') :
    check.Holds w' j := by
  cases check with
  | idle => trivial
  | looked | cleared => exact spares.own.trans holds

theorem StopStage.Holds.kept {database : String} {stage : StopStage}
    (holds : stage.Holds w j database) (spares : Spares j w w') : stage.Holds w' j database := by
  cases stage with
  | called => trivial
  | marked | cancelled => exact spares.stopping holds
  | locked | already | entered | hurried => exact ⟨spares.stopping holds.1, spares.lock holds.2⟩
  | quiet => exact ⟨spares.stopping holds.1, spares.lock holds.2.1, spares.log.subset holds.2.2⟩
  | withdrawn clean =>
    exact ⟨spares.stopping holds.1, spares.lock holds.2.1,
      fun good => (holds.2.2 good).of_suffix spares.log⟩
  | shut clean =>
    exact ⟨spares.stopping holds.1, spares.lock holds.2.1,
      fun good => (holds.2.2 good).of_suffix spares.log⟩
  | settled =>
    exact ⟨spares.stopping holds.1, spares.lock holds.2.1, holds.2.2.of_suffix spares.log⟩
  | ended clean => trivial

theorem LifePart.Holds.kept (holds : part.Holds w j) (spares : Spares j w w')
    (flags : (∃ stage, part = .service stage) → w'.listening = w.listening ∧
      w'.starting = w.starting) :
    part.Holds w' j := by
  cases part with
  | admitted service check =>
    exact ⟨spares.ops.mpr holds.1, spares.listening holds.2.1, holds.2.2.kept spares⟩
  | service stage =>
    obtain ⟨listening, starting⟩ := flags ⟨stage, rfl⟩
    refine ⟨fun inside => holds.1 (spares.ops.mp inside), ?_⟩
    have held := holds.2
    cases stage <;> simp only [ServiceStage.Holds, listening, starting] at held ⊢ <;>
      first | exact held | exact spares.stopping held
  | stop database stage => exact ⟨fun inside => holds.1 (spares.ops.mp inside), holds.2.kept spares⟩
  | alone database =>
    exact ⟨fun inside => holds.1 (spares.ops.mp inside), spares.log.subset holds.2⟩
  | _ => exact fun inside => holds (spares.ops.mp inside)

theorem Turn.spares (turn : Turn i w part w' next) (holds : part.Holds w i) (other : j ≠ i) :
    Spares j w w' := by
  have mine : i ≠ j := Ne.symm other
  cases turn with
  | still _ _ same =>
    rcases same with rfl | rfl
    · exact Spares.refl j _
    · exact { Spares.refl j w with }
  | request listening unstopped serving =>
    exact { Spares.note (e := .admitted i) w mine with ops := by simp [Life.opsAdd, other] }
  | resume unstopped =>
    exact { Spares.note (e := .admitted i) w mine with ops := by simp [Life.opsAdd, other] }
  | finish service => exact { Spares.note (e := .ended i) w mine with ops := mem_erase_of_ne other }
  | check service check w' next turn =>
    cases turn <;> first | exact Spares.note w mine | exact Spares.refl j w
  | mark _ _ marks => exact { Spares.note (e := .marked i) w mine with stopping := fun _ => rfl }
  | serve stage w' next turn =>
    cases turn with
    | listens => exact { Spares.refl j w with listening := fun _ => rfl }
    | serves unrecorded => exact Spares.note w mine
    | _ => exact { Spares.refl j w with }
  | stop database stage w' next turn =>
    cases turn with
    | locks free => exact { Spares.refl j w with lock := fun held => by simp [free] at held }
    | unlocks stage clean last =>
      have locked : w.lock = some i := by
        rcases last with ⟨rfl | rfl, -⟩ | ⟨rfl, -⟩
        · exact holds.2.2
        · exact holds.2.2.1
        · exact holds.2.2.1
      refine { Spares.refl j w with lock := fun held => ?_ }
      rw [locked] at held
      exact absurd (some.inj held).symm other
    | awaits | withdraws | stops => exact Spares.note w mine
    | settles => exact { Spares.note (e := .settled i database) w mine with }
    | _ => exact { Spares.refl j w with }
  | record database => exact { Spares.note (e := .recorded i) w mine with }
  | unrecorded | reach => exact Spares.refl j w
  | unreached database nobody => exact Spares.note w mine
  | alone database e stops =>
    rcases stops with ⟨r, rfl⟩ | ⟨name, r, rfl⟩ <;> exact Spares.note w mine

theorem Turn.flags (turn : Turn i w part w' next) (other : ∀ stage, part ≠ .service stage) :
    w'.listening = w.listening ∧ w'.starting = w.starting := by
  cases turn with
  | still _ _ same => rcases same with rfl | rfl <;> exact ⟨rfl, rfl⟩
  | serve stage w' next turn => exact absurd rfl (other stage)
  | stop database stage w' next turn | check service check w' next turn =>
    cases turn <;> exact ⟨rfl, rfl⟩
  | _ => exact ⟨rfl, rfl⟩

theorem CheckTurn.holds {check next : Check} (turn : CheckTurn i w check w' next) :
    next.Holds w' i := by
  cases turn with
  | looks | passes => exact newest_cons_self rfl
  | _ => trivial

theorem ServiceTurn.holds {stage next : ServiceStage} (turn : ServiceTurn i w stage w' next)
    (holds : stage.Holds w) : next.Holds w' := by
  cases turn with
  | begins => exact ⟨holds, rfl⟩
  | listens => exact ⟨rfl, holds.2⟩
  | unheard | serves => exact holds.1
  | notices => exact holds
  | finishes stage last => trivial

theorem StopTurn.holds {database : String} {stage next : StopStage}
    (turn : StopTurn i database w stage w' next) (holds : stage.Holds w i database) :
    next.Holds w' i database := by
  cases turn with
  | cancels => exact holds
  | locks free => exact ⟨holds, rfl⟩
  | returns | enters => exact holds
  | awaits none => exact ⟨holds.1, holds.2, mem_cons_self⟩
  | hurries => exact holds
  | withdraws clean r =>
    have held : w.stopping = true ∧ w.lock = some i := by
      cases clean
      · exact holds
      · exact ⟨holds.1, holds.2.1⟩
    have withdrawn : (clean && (heartbeatStopError r).isNone) = true →
        Withdrawn i (.withdrew i r :: w.log) := by
      intro good
      cases clean with
      | false => cases good
      | true => exact withdrawn_cons holds.2.2 (by simpa using good)
    split
    · rename_i unnamed
      subst unnamed
      exact ⟨held.1, held.2, fun good => (withdrawn good).finished_unnamed⟩
    · exact ⟨held.1, held.2, withdrawn⟩
  | stops clean r =>
    refine ⟨holds.1, holds.2.1, fun good => ?_⟩
    rw [Bool.and_eq_true] at good
    exact (holds.2.2 good.1).finished (by simpa using good.2)
  | settles =>
    exact ⟨holds.1, holds.2.1, (holds.2.2 rfl).of_suffix (suffix_cons _ _), mem_cons_self⟩
  | unlocks stage clean last => trivial

theorem Turn.holds (turn : Turn i w part w' next) (holds : part.Holds w i) (nodup : w.ops.Nodup) :
    next.Holds w' i := by
  cases turn with
  | still _ _ same =>
    rcases same with rfl | rfl
    · exact holds
    · exact holds.kept { Spares.refl i w with } fun _ => ⟨rfl, rfl⟩
  | request listening unstopped serving => exact ⟨mem_cons_self, listening, trivial⟩
  | resume unstopped => exact ⟨mem_cons_self, holds.2, trivial⟩
  | finish service =>
    have gone : i ∉ w.ops.erase i := nodup.not_mem_erase
    cases service
    · exact gone
    · exact ⟨gone, holds.2.1⟩
  | check service check w' next turn =>
    have same : w'.ops = w.ops ∧ w'.listening = w.listening := by cases turn <;> exact ⟨rfl, rfl⟩
    exact ⟨same.1 ▸ holds.1, same.2 ▸ holds.2.1, turn.holds⟩
  | mark _ _ marks =>
    rcases marks with ⟨service, rfl, rfl⟩ | ⟨rfl, rfl⟩ | ⟨database, rfl, rfl⟩
    · exact holds
    · exact ⟨holds.1, rfl⟩
    · exact ⟨holds.1, rfl⟩
  | serve stage w' next turn =>
    have same : w'.ops = w.ops := by cases turn <;> rfl
    exact ⟨same ▸ holds.1, turn.holds holds.2⟩
  | stop database stage w' next turn =>
    have same : w'.ops = w.ops := by cases turn <;> rfl
    exact ⟨same ▸ holds.1, turn.holds holds.2⟩
  | record | unrecorded => exact holds
  | reach database => exact ⟨holds, trivial⟩
  | unreached database nobody => exact ⟨holds, mem_cons_self⟩
  | alone database e stops => exact ⟨holds.1, mem_cons_of_mem _ holds.2⟩

end Frames

section Entries

variable {i : Nat} {w w' : Life} {part next : LifePart} {parts : List LifePart}

structure Writes (w w' : Life) (e : LifeEntry) : Prop where
  log : w'.log = e :: w.log
  holds : e.Holds w.log
  started : ∀ i cmd, e = .started i cmd → i ∈ w'.ops
  entered : ∀ i ∈ w'.ops, i ∈ w.ops ∨ e = .admitted i
  kept : ∀ i ∈ w.ops, i ∈ w'.ops ∨ e = .ended i
  idle : w.ops = [] → w.stopping = true → w'.ops = []
  stopping : w.stopping = true ∨ (∃ i, e = .marked i) → w'.stopping = true
  awaited : ∀ i, e = .awaited i → w'.ops = [] ∧ w'.stopping = true
  recorded : w.recorded = true ∨ (∃ i, e = .recorded i) → w'.recorded = true

theorem Writes.note {e : LifeEntry} (holds : e.Holds w.log)
    (started : ∀ i cmd, e = .started i cmd → i ∈ w.ops)
    (awaited : ∀ i, e = .awaited i → w.ops = [] ∧ w.stopping = true) (unmarked : ∀ i, e ≠ .marked i)
    (unrecorded : ∀ i, e ≠ .recorded i) : Writes w (w.note e) e where
  log := rfl
  holds := holds
  started := started
  entered := fun _ inside => .inl inside
  kept := fun _ inside => .inl inside
  idle := fun none _ => none
  stopping := by
    rintro (set | ⟨i, rfl⟩)
    · exact set
    · exact absurd rfl (unmarked i)
  awaited := awaited
  recorded := by
    rintro (set | ⟨i, rfl⟩)
    · exact set
    · exact absurd rfl (unrecorded i)

theorem LogInv.writes {e : LifeEntry} (inv : LogInv w) (writes : Writes w w' e) : LogInv w' where
  justified := by
    rw [writes.log]
    exact ⟨writes.holds, inv.justified⟩
  pending := by
    intro later i cmd earlier split
    rw [writes.log] at split
    cases later with
    | nil => exact .inr (writes.started i cmd (cons.inj split).1)
    | cons newest later =>
      obtain ⟨rfl, rest⟩ := cons.inj split
      rcases inv.pending later i cmd earlier rest with ended | running
      · exact .inl (mem_cons_of_mem _ ended)
      · rcases writes.kept i running with still | rfl
        · exact .inr still
        · exact .inl mem_cons_self
  running := by
    intro i inside
    rw [writes.log]
    rcases writes.entered i inside with before | rfl
    · exact mem_cons_of_mem _ (inv.running i before)
    · exact mem_cons_self
  marked := by
    intro i logged
    rw [writes.log] at logged
    rcases mem_cons.mp logged with rfl | earlier
    · exact writes.stopping (.inr ⟨i, rfl⟩)
    · exact writes.stopping (.inl (inv.marked i earlier))
  awaited := by
    intro i logged
    rw [writes.log] at logged
    rcases mem_cons.mp logged with rfl | earlier
    · exact writes.awaited i rfl
    · obtain ⟨none, stopping⟩ := inv.awaited i earlier
      exact ⟨writes.idle none stopping, writes.stopping (.inl stopping)⟩
  recorded := by
    intro i logged
    rw [writes.log] at logged
    rcases mem_cons.mp logged with rfl | earlier
    · exact writes.recorded (.inr ⟨i, rfl⟩)
    · exact writes.recorded (.inl (inv.recorded i earlier))

theorem LogInv.same (inv : LogInv w) (log : w'.log = w.log) (ops : w'.ops = w.ops)
    (stopping : w'.stopping = w.stopping) (recorded : w'.recorded = w.recorded) : LogInv w' := by
  constructor
  · exact log ▸ inv.justified
  · exact log ▸ ops ▸ inv.pending
  · exact log ▸ ops ▸ inv.running
  · exact log ▸ stopping ▸ inv.marked
  · exact log ▸ ops ▸ stopping ▸ inv.awaited
  · exact log ▸ recorded ▸ inv.recorded

theorem LogInv.admits (inv : LogInv w) (unstopped : w.stopping = false) (i : Nat) :
    Writes w (w.opsAdd i) (.admitted i) where
  log := rfl
  holds := by
    intro j logged
    rw [inv.marked j logged] at unstopped
    cases unstopped
  started := by simp
  entered := by
    intro j inside
    rcases mem_cons.mp inside with rfl | before
    · exact .inr rfl
    · exact .inl before
  kept := fun _ inside => .inl (mem_cons_of_mem _ inside)
  idle := by
    intro _ stopping
    rw [unstopped] at stopping
    cases stopping
  stopping := by simp [Life.opsAdd]
  awaited := by simp
  recorded := by simp [Life.opsAdd]

theorem LogInv.ends (i : Nat) :
    Writes w { w with ops := w.ops.erase i, log := .ended i :: w.log } (.ended i) where
  log := rfl
  holds := trivial
  started := by simp
  entered := fun _ inside => .inl (mem_of_mem_erase inside)
  kept := by
    intro j inside
    by_cases same : j = i
    · exact .inr (same ▸ rfl)
    · exact .inl ((mem_erase_of_ne same).mpr inside)
  idle := by
    intro none _
    simp [none]
  stopping := by simp
  awaited := by simp
  recorded := by simp

/-- An admitted operation starts CUBRID before any wait has ended, and not
    beside a command that stops CUBRID itself. -/
theorem LifeInv.starts {service : Bool} (inv : LifeInv w parts)
    (played : parts[i]? = some (.admitted service .cleared)) (cmd : StartCommand) :
    Writes w (w.note (.started i cmd)) (.started i cmd) := by
  have running := (inv.each i _ played).1
  refine Writes.note ⟨fun j logged => ?_, fun unheard => ?_, inv.log.running i running,
    (inv.each i _ played).2.2⟩ ?_ (by simp) (by simp) (by simp)
  · rw [(inv.log.awaited j logged).1] at running
    cases running
  · exact ((inv.barred unheard).outside i _ played).1 service .cleared rfl
  · intro j other same
    cases same
    exact running

theorem LogInv.looks (inv : LogInv w) (unrecorded : w.recorded = false) (i : Nat) :
    Writes w (w.note (.looked i)) (.looked i) := by
  refine Writes.note (fun j logged => ?_) (by simp) (by simp) (by simp) (by simp)
  rw [inv.recorded j logged] at unrecorded
  cases unrecorded

theorem LifeInv.check_turn {service : Bool} {check next : Check} (inv : LifeInv w parts)
    (played : parts[i]? = some (.admitted service check)) (turn : CheckTurn i w check w' next) :
    LogInv w' := by
  cases turn with
  | looks unrecorded => exact inv.log.writes (inv.log.looks unrecorded i)
  | passes unstopped =>
    refine inv.log.writes (Writes.note ⟨fun j logged => ?_, (inv.each i _ played).2.2⟩ (by simp)
      (by simp) (by simp) (by simp))
    rw [inv.log.marked j logged] at unstopped
    cases unstopped
  | starts cmd => exact inv.log.writes (inv.starts played cmd)
  | _ => exact inv.log

theorem LogInv.awaits (inv : LogInv w) (none : w.ops = []) (stopping : w.stopping = true)
    (i : Nat) : Writes w (w.note (.awaited i)) (.awaited i) := by
  refine Writes.note ?_ (by simp) (fun _ _ => ⟨none, stopping⟩) (by simp) (by simp)
  intro later j cmd earlier split
  rcases inv.pending later j cmd earlier split with ended | running
  · exact ended
  · rw [none] at running
    cases running

theorem LogInv.stop_turn {database : String} {stage next : StopStage} (inv : LogInv w)
    (turn : StopTurn i database w stage w' next) (holds : stage.Holds w i database) :
    LogInv w' := by
  cases turn with
  | awaits none => exact inv.writes (inv.awaits none holds.1 i)
  | withdraws | stops =>
    exact inv.writes (Writes.note trivial (by simp) (by simp) (by simp) (by simp))
  | settles =>
    have noted : Writes w (w.note (.settled i database)) _ :=
      Writes.note trivial (by simp) (by simp) (by simp) (by simp)
    exact (inv.writes noted).same rfl rfl rfl rfl
  | _ => exact inv.same rfl rfl rfl rfl

theorem LifeInv.log_turn (inv : LifeInv w parts) (played : parts[i]? = some part)
    (turn : Turn i w part w' next) : LogInv w' := by
  have log := inv.log
  cases turn with
  | still _ _ same => rcases same with rfl | rfl <;> exact log.same rfl rfl rfl rfl
  | request listening unstopped serving | resume unstopped =>
    exact log.writes (log.admits unstopped i)
  | finish service => exact log.writes (LogInv.ends i)
  | check service check w' next turn => exact inv.check_turn played turn
  | mark _ _ marks =>
    have marks : Writes w { w.note (.marked i) with stopping := true } (.marked i) := {
      log := rfl
      holds := trivial
      started := by simp
      entered := fun _ inside => .inl inside
      kept := fun _ inside => .inl inside
      idle := fun none _ => none
      stopping := fun _ => rfl
      awaited := by simp
      recorded := by simp [Life.note] }
    exact log.writes marks
  | serve stage w' next turn =>
    cases turn with
    | serves unrecorded => exact log.writes (log.looks unrecorded i)
    | _ => exact log.same rfl rfl rfl rfl
  | stop database stage w' next turn => exact log.stop_turn turn (inv.each i _ played).2
  | record database =>
    have records : Writes w { w.note (.recorded i) with recorded := true } (.recorded i) := {
      log := rfl
      holds := trivial
      started := by simp
      entered := fun _ inside => .inl inside
      kept := fun _ inside => .inl inside
      idle := fun none _ => none
      stopping := by simp [Life.note]
      awaited := by simp
      recorded := fun _ => rfl }
    exact log.writes records
  | unrecorded | reach => exact log
  | unreached database nobody =>
    exact log.writes (Writes.note trivial (by simp) (by simp) (by simp) (by simp))
  | alone database e stops =>
    rcases stops with ⟨r, rfl⟩ | ⟨name, r, rfl⟩
    · exact log.writes (Writes.note trivial (by simp) (by simp) (by simp) (by simp))
    · exact log.writes (Writes.note trivial (by simp) (by simp) (by simp) (by simp))

end Entries

section Steps

variable {i : Nat} {w w' : Life} {part next : LifePart} {parts : List LifePart}

theorem parts_set (played : parts[i]? = some part) (j : Nat) (p : LifePart) :
    (parts.set i next)[j]? = some p ↔ j = i ∧ p = next ∨ j ≠ i ∧ parts[j]? = some p := by
  have inside := (List.getElem?_eq_some_iff.mp played).1
  by_cases same : j = i
  · subst same
    simp [getElem?_set_self inside, eq_comm]
  · simp [getElem?_set_ne (Ne.symm same), same]

theorem Turn.isService (turn : Turn i w part w' next) (service : next.isService = true) :
    part.isService = true := by
  cases turn with
  | still _ _ same => exact service
  | finish s | check s check w' next turn => cases s <;> exact service
  | mark _ _ marks =>
    rcases marks with ⟨s, rfl, rfl⟩ | ⟨rfl, rfl⟩ | ⟨database, rfl, rfl⟩ <;> exact service
  | _ => first | rfl | exact service

theorem Turn.launched (turn : Turn i w part w' next) : w'.launched = w.launched := by
  cases turn with
  | still _ _ same => rcases same with rfl | rfl <;> rfl
  | serve stage w' next turn | stop database stage w' next turn
  | check service check w' next turn => cases turn <;> rfl
  | _ => rfl

theorem Turn.ops (turn : Turn i w part w' next) (holds : part.Holds w i) (nodup : w.ops.Nodup) :
    w'.ops.Nodup ∧ ∀ j ∈ w'.ops, j = i ∨ j ∈ w.ops := by
  have same : w'.ops = w.ops → w'.ops.Nodup ∧ ∀ j ∈ w'.ops, j = i ∨ j ∈ w.ops :=
    fun same => by rw [same]; exact ⟨nodup, fun _ inside => .inr inside⟩
  cases turn with
  | still _ _ other => rcases other with rfl | rfl <;> exact same rfl
  | request listening unstopped serving =>
    exact ⟨nodup_cons.mpr ⟨holds, nodup⟩, fun _ => mem_cons.mp⟩
  | resume unstopped => exact ⟨nodup_cons.mpr ⟨holds.1, nodup⟩, fun _ => mem_cons.mp⟩
  | finish service => exact ⟨nodup.erase i, fun _ inside => .inr (mem_of_mem_erase inside)⟩
  | serve stage w' next turn | stop database stage w' next turn
  | check service check w' next turn => exact same (by cases turn <;> rfl)
  | _ => exact same rfl

theorem LifeInv.each_turn (inv : LifeInv w parts) (played : parts[i]? = some part)
    (turn : Turn i w part w' next) :
    ∀ (j : Nat) p, (parts.set i next)[j]? = some p → p.Holds w' j := by
  intro j p plays
  have mine := inv.each i part played
  rcases (parts_set played j p).mp plays with ⟨rfl, rfl⟩ | ⟨other, there⟩
  · exact turn.holds mine inv.nodup
  · refine (inv.each j p there).kept (turn.spares mine other) ?_
    rintro ⟨stage, rfl⟩
    -- No second thread is the manager that starts.
    refine turn.flags fun stage' same => other ?_
    subst same
    exact inv.one j i _ _ there played rfl rfl

theorem Barred.turn (barred : Barred w parts) (played : parts[i]? = some part)
    (holds : part.Holds w i) (turn : Turn i w part w' next) : Barred w' (parts.set i next) := by
  have outside := barred.outside i part played
  -- It is enough to say where the acting thread ends up and what it did to the flags.
  have close : (∀ service check, next ≠ .admitted service check) ∧ next ≠ .service .serving →
      w'.recorded = true →
      (w'.stopping = true ∨ w'.listening = false ∨ w'.starting = true) →
      Barred w' (parts.set i next) := by
    intro here recorded refused
    refine ⟨recorded, fun j p plays => ?_, refused⟩
    rcases (parts_set played j p).mp plays with ⟨rfl, rfl⟩ | ⟨-, there⟩
    · exact here
    · exact barred.outside j p there
  cases turn with
  | still _ _ same =>
    rcases same with rfl | rfl <;> exact close outside barred.recorded barred.refused
  | request listening unstopped serving =>
    rcases barred.refused with stopping | deaf | starting
    · rw [unstopped] at stopping
      cases stopping
    · rw [listening] at deaf
      cases deaf
    · rw [serving] at starting
      cases starting
  | resume unstopped => exact absurd rfl outside.2
  | finish service => exact absurd rfl (outside.1 service .idle)
  | check service check w' next turn => exact absurd rfl (outside.1 service check)
  | mark _ _ marks =>
    rcases marks with ⟨service, rfl, rfl⟩ | ⟨rfl, rfl⟩ | ⟨database, rfl, rfl⟩
    · exact absurd rfl (outside.1 service .idle)
    · exact close (by simp) barred.recorded (.inl rfl)
    · exact close (by simp) barred.recorded (.inl rfl)
  | serve stage w' next turn =>
    cases turn with
    | begins => exact close (by simp) barred.recorded (.inr (.inr rfl))
    | listens => exact close (by simp) barred.recorded (.inr (.inr holds.2.2))
    | unheard => exact close (by simp) barred.recorded barred.refused
    | serves unrecorded =>
      have recorded := barred.recorded
      rw [unrecorded] at recorded
      cases recorded
    | notices => exact close (by simp) barred.recorded barred.refused
    | finishes stage last =>
      rcases last with rfl | rfl | rfl
      · exact close (by simp) barred.recorded (.inr (.inl holds.2))
      · exact close (by simp) barred.recorded (.inl holds.2)
      · exact absurd rfl outside.2
  | stop database stage w' next turn =>
    cases turn <;> exact close (by simp) barred.recorded barred.refused
  | record database => exact close (by simp) rfl barred.refused
  | unrecorded | reach | unreached | alone => exact close (by simp) barred.recorded barred.refused

/-- While nobody listens, nothing is admitted; the record then does the rest. -/
theorem LifeInv.barred_unheard (inv : LifeInv w parts) (nobody : w.listening = false)
    (recorded : w.recorded = true) : Barred w parts := by
  refine ⟨recorded, fun j p there => ?_, .inr (.inl nobody)⟩
  have holds := inv.each j p there
  constructor
  · rintro service check rfl
    have listening := holds.2.1
    rw [nobody] at listening
    cases listening
  · rintro rfl
    have listening : w.listening = true := holds.2
    rw [nobody] at listening
    cases listening

theorem Turn.unheard (turn : Turn i w part w' next) (unheard : Unheard w'.log) :
    Unheard w.log ∨ w.listening = false ∧ ∃ k, .recorded k ∈ w.log := by
  have before : w'.log = w.log → Unheard w.log := fun same => same ▸ unheard
  have other : ∀ e, w'.log = e :: w.log → (∀ j, e ≠ .unreached j) → Unheard w.log := by
    intro e added differs
    obtain ⟨j, past, within, recorded⟩ := unheard
    rw [added] at within
    rcases suffix_cons_iff.mp within with same | inside
    · exact absurd (cons.inj same).1.symm (differs j)
    · exact ⟨j, past, inside, recorded⟩
  cases turn with
  | still _ _ same => rcases same with rfl | rfl <;> exact .inl (before rfl)
  | check service check w' next turn =>
    cases turn <;> first | exact .inl unheard | exact .inl (other _ rfl (by simp))
  | serve stage w' next turn =>
    cases turn with
    | serves unrecorded => exact .inl (other _ rfl (by simp))
    | _ => exact .inl (before rfl)
  | stop database stage w' next turn =>
    cases turn with
    | awaits | withdraws | stops | settles => exact .inl (other _ rfl (by simp))
    | _ => exact .inl (before rfl)
  | unrecorded | reach => exact .inl unheard
  | unreached database nobody =>
    obtain ⟨j, past, within, recorded⟩ := unheard
    rcases suffix_cons_iff.mp within with same | inside
    · obtain ⟨-, rfl⟩ := cons.inj same
      exact .inr ⟨nobody, recorded⟩
    · exact .inl ⟨j, past, inside, recorded⟩
  | alone database e stops =>
    rcases stops with ⟨r, rfl⟩ | ⟨name, r, rfl⟩ <;> exact .inl (other _ rfl (by simp))
  | _ => exact .inl (other _ rfl (by simp))

end Steps

section Stopped

variable {i : Nat} {w w' : Life} {part next : LifePart} {parts : List LifePart} {database : String}

theorem Turn.grows (turn : Turn i w part w' next) : w.log <:+ w'.log := by
  cases turn with
  | still _ _ same => rcases same with rfl | rfl <;> exact suffix_refl _
  | check service check w' next turn | serve stage w' next turn
  | stop database stage w' next turn =>
    cases turn <;> first | exact suffix_refl _ | exact suffix_cons _ _
  | _ => first | exact suffix_refl _ | exact suffix_cons _ _

theorem Turn.ended {clean : Bool} (turn : Turn i w (.stop database (.ended clean)) w' next) :
    next = .stop database (.ended clean) := by
  cases turn with
  | still _ _ same => rfl
  | mark _ _ marks => rcases marks with ⟨s, bad, -⟩ | ⟨bad, -⟩ | ⟨name, bad, -⟩ <;> cases bad
  | stop name stage w' next turn =>
    generalize reached : StopStage.ended clean = stage at turn
    cases turn with
    | withdraws good r => cases good <;> cases reached
    | unlocks stage good last => rcases last with ⟨rfl | rfl, -⟩ | ⟨rfl, -⟩ <;> cases reached
    | _ => cases reached

theorem Turn.settled (turn : Turn i w (.stop database .settled) w' next) :
    next = .stop database .settled ∨ next = .stop database (.ended true) := by
  cases turn with
  | still _ _ same => exact .inl rfl
  | mark _ _ marks => rcases marks with ⟨s, bad, -⟩ | ⟨bad, -⟩ | ⟨name, bad, -⟩ <;> cases bad
  | stop name stage w' next turn =>
    generalize reached : StopStage.settled = stage at turn
    cases turn with
    | withdraws good r => cases good <;> cases reached
    | unlocks stage good last =>
      rcases last with ⟨-, rfl⟩ | ⟨rfl, -⟩
      · exact .inr rfl
      · cases reached
    | _ => cases reached

theorem Turn.sets (turn : Turn i w part w' next) (set : w'.stopped = true) :
    w.stopped = true ∨ ∃ database, part = .stop database (.shut true) ∧
    next = .stop database .settled := by
  cases turn with
  | still _ _ same => rcases same with rfl | rfl <;> exact .inl set
  | check service check w' next turn | serve stage w' next turn => cases turn <;> exact .inl set
  | stop database stage w' next turn =>
    cases turn with
    | settles => exact .inr ⟨database, rfl, rfl⟩
    | _ => exact .inl set
  | _ => exact .inl set

theorem Turn.reports {stage : StopStage} (turn : Turn i w part w' (.stop database stage))
    (done : stage = .already ∨ stage = .ended true) : part = .stop database stage ∨
      part = .stop database .locked ∧ w.stopped = true ∨ part = .stop database .already ∨
      part = .stop database .settled ∧ stage = .ended true := by
  generalize reached : LifePart.stop database stage = next at turn
  cases turn with
  | still _ _ same => exact .inl rfl
  | finish service => cases service <;> cases reached
  | mark _ _ marks =>
    rcases marks with ⟨s, rfl, rfl⟩ | ⟨rfl, rfl⟩ | ⟨name, rfl, rfl⟩
    · cases reached
    · cases reached
    · cases reached
      rcases done with bad | bad <;> cases bad
  | stop name stage' w' next turn =>
    obtain ⟨rfl, rfl⟩ := LifePart.stop.inj reached
    generalize last : stage = next at turn
    cases turn with
    | returns stopped => exact .inr (.inl ⟨rfl, stopped⟩)
    | withdraws clean r => split at last <;> subst last <;> rcases done with bad | bad <;> cases bad
    | unlocks stage' clean from' =>
      subst last
      rcases from' with ⟨rfl | rfl, rfl⟩ | ⟨rfl, rfl⟩
      · exact .inr (.inr (.inl rfl))
      · exact .inr (.inr (.inr ⟨rfl, rfl⟩))
      · rcases done with bad | bad <;> cases bad
    | _ =>
      subst last
      rcases done with bad | bad <;> cases bad
  | reach name =>
    cases reached
    rcases done with bad | bad <;> cases bad
  | _ => cases reached

theorem HasStopped.turn (turn : Turn i w part w' next) (played : parts[i]? = some part)
    (stopped : HasStopped w parts) : HasStopped w' (parts.set i next) := by
  obtain ⟨j, database, shut, there⟩ := stopped
  refine ⟨j, database, shut.of_suffix turn.grows, (parts_set played j _).mpr ?_⟩
  by_cases same : j = i
  · subst same
    obtain rfl : part = .stop database (.ended true) := some.inj (played.symm.trans there)
    exact .inl ⟨rfl, turn.ended.symm⟩
  · exact .inr ⟨same, there⟩

theorem LifeInv.stopped_turn (inv : LifeInv w parts) (played : parts[i]? = some part)
    (turn : Turn i w part w' next) (set : w'.stopped = true) :
    HasStopped w' (parts.set i next) ∨ ∃ (j : Nat) (database : String),
      Settled j database w'.log ∧ (parts.set i next)[j]? = some (.stop database .settled) := by
  rcases turn.sets set with before | ⟨database, rfl, rfl⟩
  · rcases inv.stopped before with stopped | ⟨j, database, shut, there⟩
    · exact .inl (stopped.turn turn played)
    · have shut' := shut.of_suffix turn.grows
      by_cases same : j = i
      · subst same
        obtain rfl : part = .stop database .settled := some.inj (played.symm.trans there)
        rcases turn.settled with rfl | rfl
        · exact .inr ⟨j, database, shut', (parts_set played j _).mpr (.inl ⟨rfl, rfl⟩)⟩
        · exact .inl ⟨j, database, shut', (parts_set played j _).mpr (.inl ⟨rfl, rfl⟩)⟩
      · exact .inr ⟨j, database, shut', (parts_set played j _).mpr (.inr ⟨same, there⟩)⟩
  · have settled := turn.holds (inv.each i _ played) inv.nodup
    exact .inr ⟨i, database, settled.2.2.2, (parts_set played i _).mpr (.inl ⟨rfl, rfl⟩)⟩

/-- A stop that holds the lock and finds the flag set: another one set it, and
    that one has returned. -/
theorem LifeInv.has_stopped (inv : LifeInv w parts) (set : w.stopped = true)
    (played : parts[i]? = some (.stop database .locked)) : HasStopped w parts := by
  rcases inv.stopped set with stopped | ⟨j, name, -, settled⟩
  · exact stopped
  · have held : w.lock = some j := (inv.each j _ settled).2.2.1
    have mine : w.lock = some i := (inv.each i _ played).2.2
    rw [mine] at held
    obtain rfl := some.inj held
    cases some.inj (played.symm.trans settled)

theorem LifeInv.finisher_turn (inv : LifeInv w parts) (played : parts[i]? = some part)
    (turn : Turn i w part w' next) (k : Nat) (name : String) (stage : StopStage)
    (plays : (parts.set i next)[k]? = some (.stop name stage))
    (done : stage = .already ∨ stage = .ended true) : HasStopped w' (parts.set i next) := by
  rcases (parts_set played k _).mp plays with ⟨rfl, rfl⟩ | ⟨-, there⟩
  · rcases turn.reports done with rfl | ⟨rfl, set⟩ | rfl | ⟨rfl, rfl⟩
    · exact (inv.finisher k name stage played done).turn turn played
    · exact (inv.has_stopped set played).turn turn played
    · exact (inv.finisher k name _ played (.inl rfl)).turn turn played
    · have settled : Settled k name w.log := (inv.each k _ played).2.2.2
      exact ⟨k, name, settled.of_suffix turn.grows, plays⟩
  · exact (inv.finisher k name stage there done).turn turn played

end Stopped

section Runs

variable {w w' : Life} {part next : LifePart} {parts : List LifePart} {cfg : Config}

theorem LifeInv.turn {i : Nat} (inv : LifeInv w parts) (played : parts[i]? = some part)
    (turn : Turn i w part w' next) : LifeInv w' (parts.set i next) := by
  have mine := inv.each i part played
  obtain ⟨nodup, ops⟩ := turn.ops mine inv.nodup
  refine ⟨inv.each_turn played turn, fun j inside => ?_, nodup, inv.log_turn played turn,
    fun unheard => ?_, inv.stopped_turn played turn, inv.finisher_turn played turn, ?_, ?_⟩
  · rw [length_set]
    rcases ops j inside with rfl | before
    · exact (List.getElem?_eq_some_iff.mp played).1
    · exact inv.bound j before
  · rcases turn.unheard unheard with before | ⟨nobody, k, logged⟩
    · exact (inv.barred before).turn played mine turn
    · exact (inv.barred_unheard nobody (inv.log.recorded k logged)).turn played mine turn
  · intro j k p q hp hq sp sq
    -- The thread that turned plays the service only if it did before.
    have earlier : ∀ (j : Nat) p, (parts.set i next)[j]? = some p → p.isService = true →
        ∃ p', parts[j]? = some p' ∧ p'.isService = true := by
      intro j p there service
      rcases (parts_set played j p).mp there with ⟨rfl, rfl⟩ | ⟨-, old⟩
      · exact ⟨part, played, turn.isService service⟩
      · exact ⟨p, old, service⟩
    obtain ⟨p', hp', sp'⟩ := earlier j p hp sp
    obtain ⟨q', hq', sq'⟩ := earlier k q hq sq
    exact inv.one j k p' q' hp' hq' sp' sq'
  · intro unlaunched
    rw [turn.launched] at unlaunched
    obtain ⟨deaf, nobody⟩ := inv.launched unlaunched
    have absent := nobody i part played
    have calm : ∀ stage, part ≠ .service stage := by
      rintro stage rfl
      cases absent
    refine ⟨(turn.flags calm).1.trans deaf, fun j p there => ?_⟩
    rcases (parts_set played j p).mp there with ⟨rfl, rfl⟩ | ⟨-, old⟩
    · cases service : p.isService
      · rfl
      · rw [turn.isService service] at absent
        cases absent
    · exact nobody j p old

theorem lifeHandler_step (e : ManagerEffect) : Pool.Step lifeProtocol lifeHandler LifeInv e := by
  intro w parts i part c inv played allowed
  have turns := handler_turn (i := i) (w := w) (c := c) allowed
  generalize lifeHandler i w e c = outcome at turns ⊢
  obtain ⟨w', _ | a⟩ := outcome
  · have same : w' = w := turns
    exact same ▸ inv
  · exact inv.turn played turns

structure Fresh (part : LifePart) : Prop where
  outside : (∀ service check, part ≠ .admitted service check) ∧ part ≠ .service .serving
  begins : ∀ name stage, part = .stop name stage → stage = .called

theorem LifeInv.spawn (inv : LifeInv w parts) (launched : Bool) (fresh : Fresh part)
    (holds : part.Holds w parts.length) (first : part.isService = true → w.launched = false)
    (none : launched = false → w.launched = false ∧ part.isService = false) :
    LifeInv { w with launched := launched } (parts ++ [part]) := by
  have added : ∀ (j : Nat) p, (parts ++ [part])[j]? = some p → parts[j]? = some p ∨
      j = parts.length ∧ p = part := by
    intro j p there
    rw [getElem?_append] at there
    split at there
    · exact .inl there
    · obtain ⟨last, same⟩ := List.getElem?_eq_some_iff.mp there
      have zero : j - parts.length = 0 := by simpa using last
      exact .inr ⟨by omega, by simpa [zero, eq_comm] using same⟩
  have kept : ∀ (j : Nat) p, parts[j]? = some p → (parts ++ [part])[j]? = some p := by
    intro j p there
    rw [getElem?_append_left (List.getElem?_eq_some_iff.mp there).1]
    exact there
  have stopped : HasStopped w parts → HasStopped
      { w with launched := launched } (parts ++ [part]) := by
    rintro ⟨j, database, shut, there⟩
    exact ⟨j, database, shut, kept j _ there⟩
  refine ⟨fun j p there => ?_, fun j inside => ?_, inv.nodup, inv.log.same rfl rfl rfl rfl,
    fun unheard => ?_, fun set => ?_,
    fun j name stage there done => ?_, fun j k p q hp hq sp sq => ?_, fun unlaunched => ?_⟩
  · have before : p.Holds w j := by
      rcases added j p there with old | ⟨rfl, rfl⟩
      · exact inv.each j p old
      · exact holds
    exact before.kept { Spares.refl j w with } fun _ => ⟨rfl, rfl⟩
  · have bound := inv.bound j inside
    rw [length_append]
    omega
  · have barred := inv.barred unheard
    refine ⟨barred.recorded, fun j p there => ?_, barred.refused⟩
    rcases added j p there with old | ⟨-, rfl⟩
    · exact barred.outside j p old
    · exact fresh.outside
  · rcases inv.stopped set with done | ⟨j, database, shut, there⟩
    · exact .inl (stopped done)
    · exact .inr ⟨j, database, shut, kept j _ there⟩
  · rcases added j _ there with old | ⟨-, same⟩
    · exact stopped (inv.finisher j name stage old done)
    · have called := fresh.begins name stage same.symm
      rcases done with rfl | rfl <;> cases called
  · -- Before the manager is launched no thread plays it.
    have alone : ∀ (j : Nat) p, parts[j]? = some p → p.isService = true →
        part.isService = true → False := by
      intro j p old service new
      have absent := (inv.launched (first new)).2 j p old
      rw [service] at absent
      cases absent
    rcases added j p hp with oldp | ⟨rfl, rfl⟩
    · rcases added k q hq with oldq | ⟨rfl, rfl⟩
      · exact inv.one j k p q oldp oldq sp sq
      · exact (alone j p oldp sp sq).elim
    · rcases added k q hq with oldq | ⟨rfl, rfl⟩
      · exact (alone k q oldq sq sp).elim
      · rfl
  · obtain ⟨before, other⟩ := none unlaunched
    obtain ⟨deaf, nobody⟩ := inv.launched before
    refine ⟨deaf, fun j p there => ?_⟩
    rcases added j p there with old | ⟨-, rfl⟩
    · exact nobody j p old
    · exact other

theorem lifeInv_init : LifeInv {} [] where
  each := by simp
  bound := by simp
  nodup := by simp
  log := ⟨trivial, by simp, by simp, by simp, by simp, by simp⟩
  barred := by
    rintro ⟨i, past, within, -⟩
    simp at within
  stopped := by simp
  finisher := by simp
  one := by simp
  launched := by simp

def LifePlays (pool : LifePool) : Prop :=
  ∃ parts, Pool.Plays lifeProtocol LifeDone LifeInv pool parts

theorem LifePlays.call {pool : LifePool} (plays : LifePlays pool) (c : LifeCall) :
    LifePlays (lifeAct cfg pool (.call c)) := by
  obtain ⟨parts, plays⟩ := plays
  have inv := plays.holds
  have outside : parts.length ∉ pool.world.ops :=
    fun inside => absurd (inv.bound _ inside) (Nat.lt_irrefl _)
  have other : c.part.isService = false → Fresh c.part → c.part.Holds pool.world parts.length →
      LifePlays (pool.spawn (c.program cfg)) := by
    intro another fresh holds
    have joined := inv.spawn pool.world.launched fresh holds
      (fun service => by rw [another] at service; cases service)
      (fun unlaunched => ⟨unlaunched, another⟩)
    exact ⟨parts ++ [c.part], plays.spawn (program_follows c) joined⟩
  cases c with
  | serve =>
    unfold lifeAct
    dsimp only
    split
    · exact ⟨parts, plays⟩
    · rename_i unlaunched
      rw [Bool.not_eq_true] at unlaunched
      have holds : (LifePart.service .fresh).Holds pool.world parts.length :=
        ⟨outside, (inv.launched unlaunched).1⟩
      have joined : LifeInv { pool.world with launched := true } (parts ++ [.service .fresh]) :=
        inv.spawn true ⟨by simp, by simp⟩ holds (fun _ => unlaunched) (by simp)
      have launched : Pool.Plays lifeProtocol LifeDone (fun _ _ => True)
          ({ pool with world := { pool.world with launched := true } } : LifePool)
            parts := ⟨plays.follow, trivial⟩
      have follow := (launched.spawn (@program_follows cfg .serve) trivial).follow
      exact ⟨parts ++ [LifePart.service ServiceStage.fresh], follow, joined⟩
  | restore | bootstrap | backup =>
    exact other rfl ⟨by simp [LifeCall.part], by simp [LifeCall.part]⟩ outside
  | stop database =>
    exact other rfl ⟨by simp [LifeCall.part], by simp [LifeCall.part]⟩ ⟨outside, trivial⟩
  | command database => exact other rfl ⟨by simp [LifeCall.part], by simp [LifeCall.part]⟩ outside

theorem lifeRun_plays (cfg : Config) (events : List LifeEvent) :
    LifePlays (lifeRun cfg events) := by
  refine runEvents_kept LifePlays (fun pool e plays => ?_) events
    ⟨[], fun i => by simp, lifeInv_init⟩
  cases e with
  | call c => exact plays.call c
  | act i c =>
    obtain ⟨parts, plays⟩ := plays
    exact plays.act lifeHandler_step i c

/-- Every start command is of an operation that was admitted before any stop, and
    has ended since or is still counted; a wait ends with none counted. -/
theorem operations_are_accounted_for (cfg : Config) (events : List LifeEvent) :
    LogInv (lifeRun cfg events).world := by
  obtain ⟨parts, plays⟩ := lifeRun_plays cfg events
  exact plays.holds.log

end Runs

def standaloneMember : Config := { target := "/db", staging := "/restore", standaloneDB := "appdb" }

def completedRestore : Operation :=
  { id := 0, kind := .restore, idempotencyKey := "k", requestHash := "h", database := "appdb",
    state := .completed,
    restored := some {} }

def markedDisk : (e : ManagerEffect) → Option e.Ans
  | .listRoot => some (.ok ["appdb"])
  | .readMarker _ => some (.ok (some (.operation 0)))
  | .store _ => some (.answered [completedRestore])
  | .openRoot => some .found
  | .removeMeta _ => some .found
  | .syncDir _ => some (.ok ())
  | _ => none

def resumeChecked : List LifeEvent := .call .serve :: replicate 9 (.act 0 { other := markedDisk })

def awaitedResume : List LifeEvent :=
  resumeChecked ++ .call (.stop "appdb") :: replicate 5 (.act 1 {}) ++
    replicate 6 (.act 0 { other := markedDisk }) ++ replicate 5 (.act 1 {})

/-- A command asks for the stop there, and its wait runs out. -/
def hurriedStop : List LifeEvent :=
  resumeChecked ++ .call (.command "appdb") :: replicate 6 (.act 1 {}) ++
    [.act 1 { failure := some ("operations were still running when the stop proceeded: " ++
        "context deadline exceeded") }, .act 1 {}, .act 0 {}]

/-- A stop that names no database, on a member without HA, and one that names it. -/
def unnamedStop : List LifeEvent :=
  .call (.stop "") ::
    replicate 8 (.act 0
      { result := { output := "not configured for HA", error := some "exit status 1" } }) ++
    .call (.stop "appdb") :: replicate 5 (.act 1 {})

theorem awaitedResume_threads :
    (lifeRun standaloneMember awaitedResume).threads =
    [.ret .served, .ret (.stopped "appdb" (.ok ()))] :=
  rfl

section Results

variable {cfg : Config} {events : List LifeEvent} {log later earlier : List LifeEntry} {i : Nat}

theorem follows_entry {e first : LifeEntry} (justified : Justified LifeEntry.Holds log)
    (split : log = later ++ first :: earlier) (logged : e ∈ later) :
    ∃ past, e.Holds (past ++ first :: earlier) := by
  obtain ⟨front, past, rfl⟩ := append_of_mem logged
  have suffix : e :: (past ++ first :: earlier) <:+ log := ⟨front, by simp [split]⟩
  exact ⟨past, (justified.suffix suffix).1⟩

theorem lifeRun_justified (cfg : Config) (events : List LifeEvent) :
    Justified LifeEntry.Holds (lifeRun cfg events).world.log := by
  obtain ⟨parts, plays⟩ := lifeRun_plays cfg events
  exact plays.holds.log.justified

theorem no_start_after_wait (justified : Justified LifeEntry.Holds log)
    (split : log = later ++ .awaited i :: earlier) (k : Nat) (cmd : StartCommand) :
    .started k cmd ∉ later := by
  intro logged
  obtain ⟨past, unawaited, -⟩ := follows_entry justified split logged
  exact unawaited i (by simp)

/-- The reply of a stop that returned with no error: of a call, or of a command
    that asked the manager. -/
def LifeReply.StopOf (log : List LifeEntry) (i : Nat) (database : String) (reply : LifeReply) :
    Prop :=
  reply = .stopped database (.ok ()) ∨ reply = .commanded database (.ok ()) ∧ .unreached i ∉ log

theorem stopped_means_settled {database : String} {reply : LifeReply}
    (returned : (lifeRun cfg events).threads[i]? = some (.ret reply))
    (good : reply.StopOf (lifeRun cfg events).world.log i database) :
    ∃ (j : Nat) (name : String), Settled j name (lifeRun cfg events).world.log := by
  obtain ⟨parts, plays⟩ := lifeRun_plays cfg events
  obtain ⟨part, played, ended⟩ := plays.returned returned
  have stopped : part = .stop database (.ended true) := by
    rcases good with rfl | ⟨rfl, reached⟩
    · exact ended
    · rcases ended with ended | rfl
      · exact ended
      · exact absurd (plays.holds.each i _ played).2 reached
  obtain ⟨j, name, settled, -⟩ := plays.holds.finisher i database _ (stopped ▸ played) (.inr rfl)
  exact ⟨j, name, settled⟩

/-- Once a stop has returned with no error, the stop that set the flag waited
    until no operation was left and its shutdown succeeded; since that wait
    nothing starts CUBRID. A member that is stopping admits no operation. -/
theorem no_start_after_stop (cfg : Config) (events : List LifeEvent) :
    (∀ (i : Nat) database reply, (lifeRun cfg events).threads[i]? = some (.ret reply) →
      reply.StopOf (lifeRun cfg events).world.log i database →
      ∃ (j : Nat) (name : String) (r : CommandResult) (later earlier : List LifeEntry),
        (lifeRun cfg events).world.log = later ++ .awaited j :: earlier ∧
        .settled j name ∈ (lifeRun cfg events).world.log ∧
        .withdrew j r ∈ later ∧ heartbeatStopError r = none ∧
        (name ≠ "" → ∃ s, .serverStopped j name s ∈ later ∧ serverStopError s = none) ∧
        (∀ k cmd, .started k cmd ∉ later) ∧
        ∀ between k cmd past, earlier = between ++ .started k cmd :: past → .ended k ∈ between) ∧
    ∀ i k later earlier, (lifeRun cfg events).world.log = later ++ .marked i :: earlier →
      .admitted k ∉ later := by
  have justified := lifeRun_justified cfg events
  constructor
  · intro i database reply returned good
    obtain ⟨j, name, shut, flagged⟩ := stopped_means_settled returned good
    obtain ⟨after, past, r, split, waited, withdrawn, stopped⟩ := shut
    obtain ⟨between, earlier, rfl⟩ := append_of_mem waited
    have here : (lifeRun cfg events).world.log = (after ++ .withdrew j r :: between) ++
        .awaited j :: earlier := by
      simp [split]
    have suffix : .awaited j :: earlier <:+ (lifeRun cfg events).world.log := ⟨_, here.symm⟩
    refine ⟨j, name, r, _, earlier, here,
      flagged, by simp, withdrawn, fun named => ?_, no_start_after_wait justified here,
      (justified.suffix suffix).1⟩
    obtain ⟨s, inside, clean⟩ := stopped named
    exact ⟨s, by simp [inside], clean⟩
  · intro i k later earlier split logged
    obtain ⟨past, unmarked⟩ := follows_entry justified split logged
    exact unmarked i (by simp)

theorem awaitedResume_is_quiet : ∃ (j : Nat) (later earlier : List LifeEntry),
    (lifeRun standaloneMember awaitedResume).world.log = later ++ .awaited j :: earlier ∧
      (∀ k cmd, .started k cmd ∉ later) ∧ ∃ k cmd, .started k cmd ∈ earlier := by
  obtain ⟨j, _, _, later, earlier, split, -, -, -, -, quiet, -⟩ :=
    (no_start_after_stop standaloneMember awaitedResume).1 1 "appdb" _
      (by rw [awaitedResume_threads]; rfl) (.inl rfl)
  refine ⟨j, later, earlier, split, quiet, 0, .serverStart "appdb", ?_⟩
  have started : .started 0 (.serverStart "appdb") ∈
      (lifeRun standaloneMember awaitedResume).world.log := by decide +kernel
  rw [split] at started
  rcases mem_append.mp started with bad | there
  · exact absurd bad (quiet _ _)
  · rcases mem_cons.mp there with bad | there
    · cases bad
    · exact there

theorem settled_by_handler {w : Life} {e : ManagerEffect} {c : LifeChoice} {j : Nat} {name : String}
    (logged : .settled j name ∈ (lifeHandler i w e c).1.log) :
    .settled j name ∈ w.log ∨ i = j ∧ e = .life (.setStopped name) := by
  unfold lifeHandler lifeStep Life.opsAdd Life.note at logged
  repeat' split at logged
  all_goals simp_all
  rcases logged with ⟨rfl, rfl⟩ | old
  · exact .inr ⟨rfl, rfl⟩
  · exact .inl old

/-- An event leaves the log alone, or is the step of a thread. -/
theorem lifeAct_log (pool : LifePool) (event : LifeEvent) :
    (lifeAct cfg pool event).world.log = pool.world.log ∨
      ∃ i c e k, event = .act i c ∧ pool.threads[i]? = some (.call e k) ∧
        (lifeAct cfg pool event).world.log = (lifeHandler i pool.world e c).1.log := by
  unfold lifeAct Pool.act
  split
  · split <;> exact .inl rfl
  · exact .inl rfl
  · split
    · rename_i i c _ e k asks
      refine .inr ⟨i, c, e, k, rfl, asks, ?_⟩
      split <;> simp_all
    · exact .inl rfl

theorem lifeHandler_grows {i : Nat} (w : Life) (e : ManagerEffect) (c : LifeChoice) :
    w.log <:+ (lifeHandler i w e c).1.log := by
  unfold lifeHandler lifeStep Life.opsAdd Life.note
  repeat' split
  all_goals simp

/-- Every stop that set the flag did so in a step of its own. -/
theorem settled_by_step {j : Nat} {name : String}
    (logged : .settled j name ∈ (lifeRun cfg events).world.log) :
    ∃ earlier c later k, events = earlier ++ .act j c :: later ∧
      (lifeRun cfg earlier).threads[j]? = some (.call (.life (.setStopped name)) k) := by
  induction events using reverseRecOn with
  | nil => cases logged
  | append_singleton events e ih =>
    have before : .settled j name ∈ (lifeRun cfg events).world.log → ∃ earlier c later k,
        events ++ [e] = earlier ++ .act j c :: later ∧
          (lifeRun cfg earlier).threads[j]? = some (.call (.life (.setStopped name)) k) := by
      intro logged
      obtain ⟨earlier, c, later, k, rfl, asks⟩ := ih logged
      exact ⟨earlier, c, later ++ [e], k, by simp, asks⟩
    rw [lifeRun, runEvents_append] at logged
    rcases lifeAct_log (lifeRun cfg events) e with same | ⟨i, c, e, k, rfl, asks, told⟩
    · exact before (same ▸ logged)
    · rcases settled_by_handler (told ▸ logged) with old | ⟨rfl, rfl⟩
      · exact before old
      · exact ⟨events, c, [], k, rfl, asks⟩

/-- A step that sets the flag stays in the log. -/
theorem settled_of_step {before : List LifeEvent} {j : Nat} {c : LifeChoice} {name : String}
    {k : Unit → ManagerM LifeReply}
    (asks : (lifeRun cfg before).threads[j]? = some (.call (.life (.setStopped name)) k))
    (later : List LifeEvent) :
    .settled j name ∈ (lifeRun cfg (before ++ .act j c :: later)).world.log := by
  have stepped : .settled j name ∈ (lifeAct cfg (lifeRun cfg before) (.act j c)).world.log := by
    simp [lifeAct, Pool.act, asks, lifeHandler, lifeStep, Life.note]
  rw [lifeRun, runEvents_append]
  refine runEvents_kept (fun pool : LifePool => .settled j name ∈ pool.world.log)
    (fun pool event logged => ?_) later stepped
  rcases lifeAct_log pool event with same | ⟨i, c, e, k, -, -, told⟩
  · rwa [same]
  · rw [told]
    exact (lifeHandler_grows _ _ _).subset logged

/-- A stop that named a database and returned with no error withdrew heartbeat
    and stopped that server, and nothing starts CUBRID afterwards, as long as
    every step that set the flag was of a stop of that database. -/
theorem stop_stopped_server {cfg : Config} {events : List LifeEvent} {i : Nat} {database : String}
    (named : database ≠ "")
    (returned : (lifeRun cfg events).threads[i]? = some (.ret (.stopped database (.ok ()))))
    (own : ∀ earlier j c later name k, events = earlier ++ .act j c :: later →
      (lifeRun cfg earlier).threads[j]? = some (.call (.life (.setStopped name)) k) →
      name = database) :
    ∃ (j : Nat) (r s : CommandResult) (after between earlier : List LifeEntry),
      (lifeRun cfg events).world.log =
        after ++ .serverStopped j database s :: (between ++ .withdrew j r :: earlier) ∧
      heartbeatStopError r = none ∧ serverStopError s = none ∧
      ∀ k cmd, .started k cmd ∉ after ∧ .started k cmd ∉ between := by
  have justified := lifeRun_justified cfg events
  obtain ⟨j, name, shut, flagged⟩ := stopped_means_settled returned (.inl rfl)
  obtain ⟨before, c, rest, k, split, asks⟩ := settled_by_step flagged
  obtain rfl := own before j c rest name k split asks
  obtain ⟨later, past, r, split, waited, withdrawn, stopped⟩ := shut
  obtain ⟨s, logged, clean⟩ := stopped named
  obtain ⟨after, between, rfl⟩ := append_of_mem logged
  obtain ⟨middle, earlier, rfl⟩ := append_of_mem waited
  refine ⟨j, r, s, after, between,
    middle ++ .awaited j :: earlier, by simp [split], withdrawn, clean, fun k cmd => ?_⟩
  have quiet := no_start_after_wait justified
    (show _ = (after ++ .serverStopped j name s ::
      (between ++ .withdrew j r :: middle)) ++ .awaited j :: earlier by
      simp [split]) k cmd
  constructor
  · exact fun inside => quiet (by simp [inside])
  · exact fun inside => quiet (by simp [inside])

theorem awaitedResume_stopped_server : ∃ (j : Nat) (s : CommandResult),
    .serverStopped j "appdb" s ∈ (lifeRun standaloneMember awaitedResume).world.log ∧
      serverStopError s = none := by
  have settles : ((lifeRun standaloneMember awaitedResume).world.log.all fun
      | .settled _ name => name = "appdb"
      | _ => true) = true := by decide +kernel
  obtain ⟨j, r, s, after, between, earlier, split, -, clean, -⟩ :=
    @stop_stopped_server standaloneMember awaitedResume 1 "appdb" (by decide)
      (by rw [awaitedResume_threads]; rfl) fun before j c later name k split asks => by
        have logged := settled_of_step (c := c) asks later
        rw [← split] at logged
        simpa using all_eq_true.mp settles _ logged
  exact ⟨j, s, by simp [split], clean⟩

/-- The flag that one stop set answers for every later one. -/
theorem unnamed_stop_leaves_server_running :
    (lifeRun standaloneMember unnamedStop).threads[1]? = some (.ret (.stopped "appdb" (.ok ()))) ∧
      ∀ j s, .serverStopped j "appdb" s ∉ (lifeRun standaloneMember unnamedStop).world.log := by
  constructor
  · rfl
  · intro j s
    have log : (lifeRun standaloneMember unnamedStop).world.log =
        [.marked 1, .settled 0 "", .withdrew 0
          { output := "not configured for HA", error := some "exit status 1" }, .awaited 0,
          .marked 0] := by decide +kernel
    simp [log]

/-- Every start was checked: the operation looked for a record while none was
    written, then passed the other check while no stop had marked the member,
    and did nothing else in between or since. -/
theorem started_after_checks {k : Nat} {cmd : StartCommand}
    (justified : Justified LifeEntry.Holds log) (split : log = later ++ .started k cmd :: earlier) :
    ∃ after between past, earlier = after ++ .passed k :: (between ++ .looked k :: past) ∧
      (∀ e ∈ after ++ between, e.thread ≠ k) ∧ (∀ i, .recorded i ∉ past) ∧
      (∀ i, .marked i ∉ between ++ .looked k :: past) ∧ .admitted k ∈ past := by
  have started : .started k cmd :: earlier <:+ log := ⟨later, split.symm⟩
  obtain ⟨⟨-, -, admitted, cleared⟩, -⟩ := justified.suffix started
  obtain ⟨after, rest, rfl, others⟩ := newest_split cleared
  have passed : .passed k :: rest <:+ log :=
    ((suffix_append after _).trans (suffix_cons (.started k cmd) _)).trans started
  obtain ⟨⟨unmarked, saw⟩, -⟩ := justified.suffix passed
  obtain ⟨between, past, rfl, others'⟩ := newest_split saw
  have looked : .looked k :: past <:+ log :=
    ((suffix_append between _).trans (suffix_cons (.passed k) _)).trans passed
  have every : ∀ e ∈ after ++ between, e.thread ≠ k := by
    intro e inside
    rcases mem_append.mp inside with inside | inside
    · exact others e inside
    · exact others' e inside
  refine ⟨after, between, past, rfl, every, (justified.suffix looked).1, unmarked, ?_⟩
  have elsewhere : .admitted k ∉ after ++ between := fun inside => every _ inside rfl
  simp only [mem_append, mem_cons, reduceCtorEq, false_or, not_or] at admitted elsewhere
  exact (admitted.resolve_left elsewhere.1).resolve_left elsewhere.2

/-- A stop recorded before nobody was found listening, and one whose wait ended
    with no operation, is followed by no start. Where the wait ran out, the
    starts that follow are of operations whose two checks were answered before
    the record and before the mark. -/
theorem recorded_stop_is_followed_by_no_start (cfg : Config) (events : List LifeEvent) :
    (∀ i k cmd later earlier, (lifeRun cfg events).world.log = later ++ .unreached i :: earlier →
      .recorded i ∈ earlier → .started k cmd ∉ later) ∧
    (∀ i k cmd later earlier, (lifeRun cfg events).world.log = later ++ .awaited i :: earlier →
      .started k cmd ∉ later) ∧
    ∀ k cmd later earlier, (lifeRun cfg events).world.log = later ++ .started k cmd :: earlier →
      ∃ after between past, earlier = after ++ .passed k :: (between ++ .looked k :: past) ∧
        (∀ e ∈ after ++ between, e.thread ≠ k) ∧ (∀ i, .recorded i ∉ past) ∧
        (∀ i, .marked i ∉ between ++ .looked k :: past) ∧ .admitted k ∈ past := by
  have justified := lifeRun_justified cfg events
  refine ⟨?_, fun i k cmd later earlier split => no_start_after_wait justified split k cmd,
    fun k cmd later earlier => started_after_checks justified⟩
  intro i k cmd later earlier split recorded logged
  obtain ⟨past, -, heard, -⟩ := follows_entry justified split logged
  exact heard ⟨i, earlier, suffix_append _ _, i, recorded⟩

theorem hurried_stop_is_followed_by_start : ∃ r earlier,
    (lifeRun standaloneMember hurriedStop).world.log =
      .started 0 (.serverStart "appdb") :: .withdrew 1 r :: earlier ∧ .recorded 1 ∈ earlier := by
  refine ⟨{}, [.marked 1, .recorded 1, .passed 0, .looked 0, .admitted 0, .looked 0], ?_, by simp⟩
  decide +kernel

end Results

end InstanceManager
