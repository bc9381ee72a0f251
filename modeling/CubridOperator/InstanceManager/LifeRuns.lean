import CubridOperator.Foundation.Log
import CubridOperator.Foundation.Runs
import CubridOperator.Foundation.Threads
import CubridOperator.InstanceManager.EffectKinds
import CubridOperator.InstanceManager.Lifecycle

/-!
The life of one member: its manager, requests, stops and stop commands,
interleaved effect by effect, each by its protocol.
-/
namespace InstanceManager
open Foundation Program

/-- What happened, newest first. `looked` is a look for the record of a stop that
    found none, `passed` a look at the flag that found the member not stopping.
    `awaited` is a wait that ended with no operation running, right before its
    shutdown; `settled` is a stop of that database that set the flag of a stopped
    member; `unreached` is a command that found nobody listening and runs the
    shutdown itself. -/
inductive LifeEntry where
  | admitted (thread : Nat)
  | ended (thread : Nat)
  | looked (thread : Nat)
  | passed (thread : Nat)
  | started (thread : Nat) (cmd : StartCommand)
  | marked (thread : Nat)
  | awaited (thread : Nat)
  | withdrew (thread : Nat) (result : CommandResult)
  | serverStopped (thread : Nat) (database : String) (result : CommandResult)
  | settled (thread : Nat) (database : String)
  | recorded (thread : Nat)
  | unreached (thread : Nat)
  deriving DecidableEq

def LifeEntry.thread : LifeEntry → Nat
  | .admitted i | .ended i | .looked i | .passed i | .started i _ | .marked i | .awaited
      i | .withdrew i _
  | .serverStopped i _ _ | .settled i _ | .recorded i | .unreached i => i

structure Life where
  launched : Bool := false
  starting : Bool := false
  listening : Bool := false
  stopping : Bool := false
  opsEnded : Bool := false
  stopped : Bool := false
  ops : List Nat := []
  lock : Option Nat := none
  recorded : Bool := false
  log : List LifeEntry := []

namespace Life

def note (w : Life) (e : LifeEntry) : Life := { w with log := e :: w.log }

def opsAdd (w : Life) (i : Nat) : Life := { w with ops := i :: w.ops, log := .admitted i :: w.log }

end Life

/-- How the environment answers; without an answer the thread waits. `cancelled`
    is the context of an operation that saw its end: the cancellation reaches it
    in a goroutine of its own. -/
structure LifeChoice where
  failure : Option String := none
  cancelled : Bool := false
  result : CommandResult := {}
  other : (e : ManagerEffect) → Option e.Ans := fun _ => none

def errStarting : String := "the manager is starting"

def answered (failure : Option String) : Except String Unit :=
  match failure with
  | some e => .error e
  | none => .ok ()

def lifeStep (i : Nat) (w : Life) (c : LifeChoice) : (e : LifeEffect) → Life × Option e.Ans
  | .setStarting b => ({ w with starting := b }, some ())
  | .listen => ({ w with listening := w.listening || c.failure.isNone }, some (answered c.failure))
  | .endOps => ({ w with opsEnded := true }, some ())
  | .lockStop => if w.lock.isNone then ({ w with lock := some i }, some ()) else (w, none)
  | .unlockStop => ({ w with lock := none }, some ())
  | .isStopped => (w, some w.stopped)
  | .setStopped database => ({ w.note (.settled i database) with stopped := true }, some ())
  | .awaitOperations =>
    match c.failure with
    | some e => (w, some (.error e))
    | none => if w.ops = [] then (w.note (.awaited i), some (.ok ())) else (w, none)
  | .heartbeatStop => (w.note (.withdrew i c.result), some c.result)
  | .serverStop database => (w.note (.serverStopped i database c.result), some c.result)
  | .recordStop =>
    match c.failure with
    | some e => (w, some (.error e))
    | none => ({ w.note (.recorded i) with recorded := true }, some (.ok ()))
  -- The request fails only when nobody listens.
  | .reachManager => if w.listening then (w, some true) else (w.note (.unreached i), some false)

def lifeHandler (i : Nat) : Handler ManagerEffect ManagerEffect.Ans Life LifeChoice := fun w e c =>
  match e with
  -- A request reaches the manager once it listens.
  | .admitOperation =>
    if !w.listening then (w, none)
    else if w.stopping then (w, some (.error errStopping))
    else if w.starting then (w, some (.error errStarting))
    else (w.opsAdd i, some (.ok ()))
  | .admitResume =>
    if w.stopping then (w, some (.error errStopping)) else (w.opsAdd i, some (.ok ()))
  | .endOperation => ({ w with ops := w.ops.erase i, log := .ended i :: w.log }, some ())
  | .lookStop =>
    match c.failure with
    | some e => (w, some (.failed e))
    | none => if w.recorded then (w, some .found) else (w.note (.looked i), some .missing)
  | .markStopping => ({ w.note (.marked i) with stopping := true }, some ())
  | .isStopping => if w.stopping then (w, some true) else (w.note (.passed i), some false)
  | .opsEnded => (w, some w.opsEnded)
  -- A command whose context was cancelled before is not run.
  | .start cmd =>
    if w.opsEnded && c.cancelled then (w, some (.error "context canceled"))
    else (w.note (.started i cmd), some (answered c.failure))
  | .life e => lifeStep i w c e
  | e => (w, c.other e)

inductive LifeCall where
  | serve
  | restore (key hash : String) (req : RestoreRequest)
  | bootstrap (key hash database : String)
  | backup (key hash : String) (req : BackupRequest)
  | stop (database : String)
  | command (database : String)

inductive LifeReply where
  | served
  | answered (answer : Except (Nat × String) Operation)
  | stopped (database : String) (result : Except String Unit)
  | commanded (database : String) (result : Except String Unit)

def LifeCall.program (cfg : Config) : LifeCall → ManagerM LifeReply
  | .serve => do
    let _ ← resumeAndServe cfg
    pure .served
  | .restore key hash req => do pure (.answered (← restorePrepare cfg key hash req))
  | .bootstrap key hash database => do pure (.answered (← haBootstrap cfg key hash database))
  | .backup key hash req => do pure (.answered (← InstanceManager.backup cfg key hash req))
  | .stop database => do pure (.stopped database (← InstanceManager.stop database))
  | .command database => do pure (.commanded database (← shutdownCommand database))

abbrev LifePool := Pool ManagerEffect ManagerEffect.Ans Life LifeReply

inductive LifeEvent where
  | call (c : LifeCall)
  | act (i : Nat) (c : LifeChoice)

def lifeAct (cfg : Config) (pool : LifePool) : LifeEvent → LifePool
  | .call .serve =>
    if pool.world.launched then pool
    else
      ({ pool with world := { pool.world with launched := true } } : LifePool).spawn
        (LifeCall.serve.program cfg)
  | .call c => pool.spawn (c.program cfg)
  | .act i c => pool.act lifeHandler i c

def lifeRun (cfg : Config) (events : List LifeEvent) : LifePool :=
  runEvents (lifeAct cfg) ⟨{}, []⟩ events

inductive ServiceStage where
  | fresh
  | starting
  | unheard
  | listening
  | noticed
  | closing
  | serving
  | finished

/-- How far a stop has come. `withdrawn` and `shut` say whether everything so
    far succeeded, the wait for the operations first. -/
inductive StopStage where
  | called
  | marked
  | cancelled
  | locked
  | already
  | entered
  | quiet
  | hurried
  | withdrawn (clean : Bool)
  | shut (clean : Bool)
  | settled
  | ended (clean : Bool)

inductive LifePart where
  | request
  | admitted (service : Bool) (check : Check)
  | service (stage : ServiceStage)
  | stop (database : String) (stage : StopStage)
  | command (database : String)
  | asking (database : String)
  | alone (database : String)

def StopStage.may (database : String) : StopStage → ManagerEffect → Prop
  | .called, e => e = .markStopping
  | .marked, e => e = .life .endOps
  | .cancelled, e => e = .life .lockStop
  | .locked, e => e = .life .isStopped
  | .entered, e => e = .life .awaitOperations
  | .quiet, e | .hurried, e => e = .life .heartbeatStop
  | .withdrawn _, e => e = .life (.serverStop database)
  | .shut true, e => e = .life (.setStopped database)
  | .already, e | .shut false, e | .settled, e => e = .life .unlockStop
  | .ended _, _ => False

def ServiceStage.may : ServiceStage → ManagerEffect → Prop
  | .fresh, e => e = .life (.setStarting true)
  | .starting, e => e = .life .listen
  | .unheard, e => e = .life (.setStarting false)
  | .listening, e => e = .lookStop
  | .noticed, e => e = .markStopping
  | .closing, e => e = .life .endOps ∨ e = .life (.setStarting false)
  | .serving, e => e.kind ∈ [.store, .backup] ∨ e = .admitResume ∨ e = .life (.setStarting false)
  | .finished, _ => False

def LifePart.may : LifePart → ManagerEffect → Prop
  | .request, e => e = .admitOperation
  | .admitted _ check, e => check = .idle ∧ e = .endOperation ∨ check.may operationKinds e
  | .service stage, e => stage.may e
  | .stop database stage, e => stage.may database e
  | .command _, e => e = .life .recordStop
  | .asking _, e => e = .life .reachManager
  | .alone database, e => e = .life .heartbeatStop ∨ e = .life (.serverStop database)

def StopStage.next (database : String) : StopStage → (e : ManagerEffect) → e.Ans → StopStage
  | .called, _, _ => .marked
  | .marked, _, _ => .cancelled
  | .cancelled, _, _ => .locked
  | .locked, .life .isStopped, stopped => if stopped then .already else .entered
  | .entered, .life .awaitOperations, waited => if waited.isOk then .quiet else .hurried
  | .quiet, .life .heartbeatStop, r =>
    if database = "" then
      .shut (heartbeatStopError r).isNone else .withdrawn (heartbeatStopError r).isNone
  | .hurried, _, _ => if database = "" then .shut false else .withdrawn false
  | .withdrawn clean, .life (.serverStop _), r => .shut (clean && (serverStopError r).isNone)
  | .shut true, _, _ => .settled
  | .shut false, _, _ => .ended false
  | .already, _, _ | .settled, _, _ => .ended true
  | stage, _, _ => stage

def ServiceStage.next : ServiceStage → (e : ManagerEffect) → e.Ans → ServiceStage
  | .fresh, _, _ => .starting
  | .starting, .life .listen, heard => if heard.isOk then .listening else .unheard
  | .unheard, _, _ => .finished
  | .listening, .lookStop, .missing => .serving
  | .listening, _, _ => .noticed
  | .noticed, _, _ => .closing
  | .closing, .life (.setStarting _), _ | .serving, .life (.setStarting _), _ => .finished
  | stage, _, _ => stage

def LifePart.next : LifePart → (e : ManagerEffect) → e.Ans → LifePart
  | .request, .admitOperation, .ok () => .admitted false .idle
  | .service .serving, .admitResume, .ok () => .admitted true .idle
  | .admitted false _, .endOperation, _ => .request
  | .admitted true _, .endOperation, _ => .service .serving
  | .admitted resumed check, e, a => .admitted resumed (check.next e a)
  | .service stage, e, a => .service (stage.next e a)
  | .stop database stage, e, a => .stop database (stage.next database e a)
  | .command database, _, _ => .asking database
  | .asking database, .life .reachManager, reached =>
    if reached then .stop database .called else .alone database
  | part, _, _ => part

def lifeProtocol : Protocol ManagerEffect ManagerEffect.Ans LifePart :=
  ⟨LifePart.may, LifePart.next⟩

variable {e : ManagerEffect}

section Follows

variable {α : Type} {cfg : Config} {database : String}

theorem follows_manage {done : LifePart → α → Prop} {part : LifePart} {next : e.Ans → ManagerM α}
    (allowed : part.may e) (rest : ∀ a, (next a).Follows lifeProtocol done (part.next e a)) :
    (manage e >>= next).Follows lifeProtocol done part := follows_step allowed rest

theorem admitted_next {check : Check} (allowed : check.may operationKinds e) (service : Bool)
    (a : e.Ans) :
    (LifePart.admitted service check).next e a = .admitted service (check.next e a) := by
  have other : e ≠ .endOperation := by
    rintro rfl
    cases check with
    | idle =>
      rcases allowed with ⟨among, -⟩ | bad | bad | bad <;>
        first | exact absurd among (by decide) | cases bad
    | looked => cases allowed
    | cleared => obtain ⟨cmd, bad⟩ := allowed; cases bad
  cases service <;> cases e <;> first | rfl | exact absurd rfl other

theorem operation_follows {p : ManagerM α} (operates : Operates operationKinds p) (service : Bool) :
    p.Follows lifeProtocol (fun last _ => last = .admitted service .idle)
      (.admitted service .idle) :=
  Follows.lift (P := checks operationKinds) (R := lifeProtocol) (LifePart.admitted service)
    (fun _ _ allowed => .inr allowed) (fun _ _ a allowed => admitted_next allowed service a)
    (fun _ _ same => congrArg _ same) operates

theorem endOperation_follows {done : LifePart → α → Prop} {next : ManagerM α} {service : Bool}
    (rest : next.Follows lifeProtocol done (if service then .service .serving else .request)) :
    (do manage .endOperation; next).Follows lifeProtocol done (.admitted service .idle) := by
  refine follows_manage (.inl ⟨rfl, rfl⟩) fun _ => ?_
  cases service <;> exact rest

theorem startOperation_follows (kind : OperationKind) (key hash : String)
    (runner : OperationID → ManagerM Unit) (operates : ∀ id, Operates operationKinds (runner id)) :
    (startOperation kind key hash database runner).Follows lifeProtocol
    (fun last _ => last = .request) .request := by
  unfold startOperation
  split
  · rfl
  · refine follows_manage rfl fun answer => ?_
    cases answer with
    | error e => rfl
    | ok _ =>
      have looked :
          Operates operationKinds (manage (.store (.findOrCreate kind key hash database))) :=
        manage_operates rfl
      refine (operation_follows looked false).bind fun part reply same => ?_
      subst same
      split
      · rename_i op
        refine (operation_follows (operates op.id) false).bind fun part _ same => ?_
        subst same
        exact endOperation_follows rfl
      all_goals exact endOperation_follows rfl

theorem restorePrepare_follows (key hash : String) (req : RestoreRequest) :
    (restorePrepare cfg key hash req).Follows lifeProtocol (fun last _ => last = .request)
    .request := by
  unfold restorePrepare
  split
  · rfl
  · exact startOperation_follows _ _ _ _ fun _ => runRestore_operates

theorem haBootstrap_follows (key hash : String) :
    (haBootstrap cfg key hash database).Follows lifeProtocol (fun last _ => last = .request)
    .request := by
  unfold haBootstrap
  split
  · rfl
  · split
    · rfl
    · exact startOperation_follows _ _ _ _ fun _ => runHABootstrap_operates

theorem backup_follows (key hash : String) (req : BackupRequest) :
    (InstanceManager.backup cfg key hash req).Follows lifeProtocol (fun last _ => last = .request)
    .request := by
  unfold InstanceManager.backup
  split
  · rfl
  · rename_i name _
    refine follows_manage rfl fun answer => ?_
    cases answer with
    | error e => rfl
    | ok _ =>
      have operates : Operates operationKinds (backupAdmitted cfg key hash req name) :=
        (backupAdmitted_uses key hash req).operates (by simp [operationKinds]) (by simp)
      refine (operation_follows operates false).bind fun part _ same => ?_
      subst same
      exact endOperation_follows rfl

theorem resumeCompletedRestores_follows :
    (resumeCompletedRestores cfg).Follows lifeProtocol (fun last _ => last = .service .serving)
      (.service .serving) := by
  unfold resumeCompletedRestores
  refine follows_manage (.inr (.inl rfl)) fun answer => ?_
  cases answer with
  | error e => rfl
  | ok _ =>
    have lists : Operates operationKinds (manage .listRoot) := manage_operates rfl
    have hosts : Operates operationKinds (manage .haHosts) := manage_operates rfl
    refine (operation_follows lists true).bind fun part listed same => ?_
    subst same
    split
    · exact endOperation_follows rfl
    · rename_i databases
      have resumes : ∀ haErr, (do
          let errs ← resumeEach cfg haErr databases
          manage .endOperation
          pure errs : ManagerM (List String)).Follows lifeProtocol
            (fun last _ => last = .service .serving) (.admitted true .idle) := by
        intro haErr
        refine (operation_follows (resumeEach_operates haErr databases) true).bind
          fun part errs same => ?_
        subst same
        exact endOperation_follows rfl
      dsimp only
      split
      · exact resumes none
      · refine (operation_follows hosts true).bind fun part answer same => ?_
        subst same
        split <;> exact resumes _

theorem reclaimBackupStaging_follows :
    (reclaimBackupStaging cfg).Follows lifeProtocol (fun last _ => last = .service .serving)
      (.service .serving) := by
  refine Only.follows reclaimBackupStaging_uses fun e among =>
    ⟨.inl (by simpa using among), fun a => ?_⟩
  cases e with
  | life e => cases e <;> simp [ManagerEffect.kind] at among
  | _ => first | rfl | exact absurd among (by decide)

theorem inService_follows :
    (inService cfg).Follows lifeProtocol
      (fun last _ => last = .service .unheard ∨ last = .service .closing ∨ last = .service .serving)
      (.service .starting) := by
  unfold inService live honorRecordedStop
  refine follows_manage rfl fun heard => ?_
  cases heard with
  | error e => exact .inl rfl
  | ok _ =>
    refine follows_manage rfl fun look => ?_
    cases look with
    | missing =>
      refine reclaimBackupStaging_follows.bind fun part _ same => ?_
      subst same
      refine resumeCompletedRestores_follows.bind fun part _ same => ?_
      exact .inr (.inr same)
    | found | failed =>
      exact follows_manage rfl fun _ => follows_manage (.inl rfl) fun _ => .inr (.inl rfl)

theorem resumeAndServe_follows :
    (resumeAndServe cfg).Follows lifeProtocol (fun last _ => last = .service .finished)
    (.service .fresh) := by
  unfold resumeAndServe
  refine follows_manage rfl fun _ => ?_
  refine inService_follows.bind fun part result reached => ?_
  rcases reached with rfl | rfl | rfl
  · exact follows_manage rfl fun _ => rfl
  · exact follows_manage (.inr rfl) fun _ => rfl
  · exact follows_manage (.inr (.inr rfl)) fun _ => rfl

theorem joinErrors_one (error : Option String) : (joinErrors [error]).isOk = error.isNone := by
  cases error <;> rfl

theorem joinErrors_two (first second : Option String) :
    (joinErrors [first, second]).isOk = (first.isNone && second.isNone) := by
  cases first <;> cases second <;> rfl

theorem failure_isNone (r : Except String Unit) : (failure r).isNone = r.isOk := by
  cases r <;> rfl

theorem shutdown_follows (clean : Bool) :
    (shutdown database).Follows lifeProtocol
      (fun last result => last = .stop database (.shut (clean && result.isOk)))
      (.stop database (if clean then .quiet else .hurried)) := by
  unfold shutdown live
  have allowed : (LifePart.stop database (if clean then .quiet else .hurried)).may
      (.life .heartbeatStop) := by
    cases clean <;> exact rfl
  refine follows_manage allowed fun r => ?_
  have next : (LifePart.stop database (if clean then .quiet else .hurried)).next
      (.life .heartbeatStop) r =
      .stop database (if database = "" then .shut (clean && (heartbeatStopError r).isNone)
        else .withdrawn (clean && (heartbeatStopError r).isNone)) := by
    cases clean <;> simp [LifePart.next, StopStage.next]
  rw [next]
  split
  · change _ = _
    rw [joinErrors_one]
  · refine follows_manage rfl fun s => ?_
    change _ = _
    rw [joinErrors_two]
    simp [LifePart.next, StopStage.next, Bool.and_assoc]

theorem stopLocked_follows :
    (stopLocked database).Follows lifeProtocol
      (fun last result => (last = .stop database .already ∨ last = .stop database .settled) ∧
        result.isOk = true ∨
        last = .stop database (.shut false) ∧ result.isOk = false) (.stop database .locked) := by
  unfold stopLocked live
  refine follows_manage rfl fun stopped => ?_
  cases stopped with
  | true => exact .inl ⟨.inl rfl, rfl⟩
  | false =>
    refine follows_manage rfl fun waited => ?_
    have next : ((LifePart.stop database .locked).next (.life .isStopped) false).next
        (.life .awaitOperations) waited =
        .stop database (if waited.isOk then .quiet else .hurried) := by
      cases waited <;> rfl
    rw [next]
    refine (shutdown_follows waited.isOk).bind fun part shut same => ?_
    subst same
    have both : (joinErrors [failure waited, failure shut]).isOk = (waited.isOk && shut.isOk) := by
      rw [joinErrors_two, failure_isNone, failure_isNone]
    rw [← both]
    cases joinErrors [failure waited, failure shut] with
    | error e => exact .inr ⟨rfl, rfl⟩
    | ok _ => exact follows_manage rfl fun _ => .inl ⟨.inr rfl, rfl⟩

theorem stop_follows :
    (InstanceManager.stop database).Follows lifeProtocol
      (fun last result => last = .stop database (.ended result.isOk)) (.stop database .called) := by
  unfold InstanceManager.stop live
  refine follows_manage rfl fun _ => follows_manage rfl fun _ => follows_manage rfl fun _ => ?_
  refine stopLocked_follows.bind fun part result reached => ?_
  cases result with
  | error e =>
    rcases reached with ⟨-, good⟩ | ⟨rfl, -⟩
    · cases good
    · exact follows_manage rfl fun _ => rfl
  | ok _ =>
    rcases reached with ⟨rfl | rfl, -⟩ | ⟨-, bad⟩
    · exact follows_manage rfl fun _ => rfl
    · exact follows_manage rfl fun _ => rfl
    · cases bad

theorem shutdownCommand_follows :
    (shutdownCommand database).Follows lifeProtocol
      (fun last result => last = .stop database (.ended result.isOk) ∨ last = .alone database)
      (.command database) := by
  unfold shutdownCommand live
  refine follows_manage rfl fun _ => follows_manage rfl fun reached => ?_
  cases reached with
  | true =>
    refine stop_follows.bind fun part result same => ?_
    subst same
    cases result <;> exact .inl rfl
  | false =>
    unfold shutdown live
    refine follows_manage (.inl rfl) fun r => ?_
    split
    · exact .inr rfl
    · exact follows_manage (.inr rfl) fun _ => .inr rfl

def LifeCall.part : LifeCall → LifePart
  | .serve => .service .fresh
  | .restore _ _ _ | .bootstrap _ _ _ | .backup _ _ _ => .request
  | .stop database => .stop database .called
  | .command database => .command database

def LifeDone (part : LifePart) : LifeReply → Prop
  | .served => part = .service .finished
  | .answered _ => part = .request
  | .stopped database result => part = .stop database (.ended result.isOk)
  | .commanded database result =>
    part = .stop database (.ended result.isOk) ∨ part = .alone database

theorem program_follows (c : LifeCall) : (c.program cfg).Follows lifeProtocol LifeDone c.part := by
  cases c with
  | serve => exact resumeAndServe_follows.bind fun _ _ ended => ended
  | restore key hash req => exact (restorePrepare_follows key hash req).bind fun _ _ ended => ended
  | bootstrap key hash database => exact (haBootstrap_follows key hash).bind fun _ _ ended => ended
  | backup key hash req => exact (backup_follows key hash req).bind fun _ _ ended => ended
  | stop database => exact stop_follows.bind fun _ _ ended => ended
  | command database => exact shutdownCommand_follows.bind fun _ _ ended => ended

end Follows

inductive CheckTurn (i : Nat) (w : Life) : Check → Life → Check → Prop
  | looks (unrecorded : w.recorded = false) : CheckTurn i w .idle (w.note (.looked i)) .looked
  | passes (unstopped : w.stopping = false) : CheckTurn i w .looked (w.note (.passed i)) .cleared
  | refused : CheckTurn i w .looked w .idle
  | starts (cmd) : CheckTurn i w .cleared (w.note (.started i cmd)) .idle
  | cancelled : CheckTurn i w .cleared w .idle

inductive ServiceTurn (i : Nat) (w : Life) : ServiceStage → Life → ServiceStage → Prop
  | begins : ServiceTurn i w .fresh { w with starting := true } .starting
  | listens : ServiceTurn i w .starting { w with listening := true } .listening
  | unheard : ServiceTurn i w .starting w .unheard
  | serves (unrecorded : w.recorded = false) : ServiceTurn i w .listening
      (w.note (.looked i)) .serving
  | notices : ServiceTurn i w .listening w .noticed
  | finishes (stage) (last : stage = .unheard ∨ stage = .closing ∨ stage = .serving) :
      ServiceTurn i w stage { w with starting := false } .finished

inductive StopTurn (i : Nat) (database : String) (w : Life) : StopStage → Life → StopStage → Prop
  | cancels : StopTurn i database w .marked { w with opsEnded := true } .cancelled
  | locks (free : w.lock = none) : StopTurn i database w .cancelled
      { w with lock := some i } .locked
  | returns (stopped : w.stopped = true) : StopTurn i database w .locked w .already
  | enters (unstopped : w.stopped = false) : StopTurn i database w .locked w .entered
  | awaits (none : w.ops = []) : StopTurn i database w .entered (w.note (.awaited i)) .quiet
  | hurries : StopTurn i database w .entered w .hurried
  | withdraws (clean r) : StopTurn i database w (if clean then .quiet else .hurried)
      (w.note (.withdrew i r))
      (if database = "" then .shut (clean && (heartbeatStopError r).isNone)
        else .withdrawn (clean && (heartbeatStopError r).isNone))
  | stops (clean r) : StopTurn i database w (.withdrawn clean)
      (w.note (.serverStopped i database r))
      (.shut (clean && (serverStopError r).isNone))
  | settles : StopTurn i database w (.shut true) { w.note (.settled i database) with
      stopped := true } .settled
  | unlocks (stage clean)
      (last : (stage = .already ∨ stage = .settled) ∧ clean = true ∨ stage = .shut false ∧
        clean = false) :
      StopTurn i database w stage { w with lock := none } (.ended clean)

/-- What one effect of thread `i` does to the member and to its own part. -/
inductive Turn (i : Nat) (w : Life) : LifePart → Life → LifePart → Prop
  | still (part w') (same : w' = w ∨ w' = { w with opsEnded := true }) : Turn i w part w' part
  | request (listening : w.listening = true) (unstopped : w.stopping = false)
      (serving : w.starting = false) :
      Turn i w .request (w.opsAdd i) (.admitted false .idle)
  | resume (unstopped : w.stopping = false) : Turn i w (.service .serving) (w.opsAdd i)
      (.admitted true .idle)
  | finish (service) : Turn i w (.admitted service .idle)
      { w with ops := w.ops.erase i, log := .ended i :: w.log }
      (if service then .service .serving else .request)
  | check (service check w' next) (turn : CheckTurn i w check w' next) :
      Turn i w (.admitted service check) w' (.admitted service next)
  | mark (part next) (marks : (∃ service, part = .admitted service .idle ∧ next = part) ∨
      part = .service .noticed ∧ next = .service .closing ∨
      ∃ database, part = .stop database .called ∧ next = .stop database .marked) :
      Turn i w part { w.note (.marked i) with stopping := true } next
  | serve (stage w' next) (turn : ServiceTurn i w stage w' next) : Turn i w (.service stage) w'
      (.service next)
  | stop (database stage w' next) (turn : StopTurn i database w stage w' next) :
      Turn i w (.stop database stage) w' (.stop database next)
  | record (database) :
      Turn i w (.command database) { w.note (.recorded i) with recorded := true } (.asking database)
  | unrecorded (database) : Turn i w (.command database) w (.asking database)
  | reach (database) : Turn i w (.asking database) w (.stop database .called)
  | unreached (database) (nobody : w.listening = false) :
      Turn i w (.asking database) (w.note (.unreached i)) (.alone database)
  | alone (database e) (stops : (∃ r, e = .withdrew i r) ∨ ∃ name r, e = .serverStopped i name r) :
      Turn i w (.alone database) (w.note e) (.alone database)

section Cases

variable {i : Nat} {w : Life} {e : ManagerEffect} {c : LifeChoice}

theorem other_turn {part : LifePart} (same : ∀ a, part.next e a = part) :
    match (w, c.other e) with
    | (w', none) => w' = w
    | (w', some a) => Turn i w part w' (part.next e a) := by
  cases c.other e with
  | none => rfl
  | some a =>
    have turn : Turn i w part w part := .still part w (.inl rfl)
    simpa [same a] using turn

theorem looked_turn {service : Bool} (looks : e = .lookStop) :
    match lifeHandler i w e c with
    | (w', none) => w' = w
    | (w', some a) =>
      Turn i w (.admitted service .idle) w' ((LifePart.admitted service .idle).next e a) := by
  subst looks
  unfold lifeHandler
  dsimp only
  cases c.failure with
  | some e => cases service <;> exact .still _ _ (.inl rfl)
  | none =>
    dsimp only
    split_ifs with recorded
    · cases service <;> exact .still _ _ (.inl rfl)
    · have looks := CheckTurn.looks (i := i) (w := w) (by simpa using recorded)
      cases service <;> exact .check _ _ _ _ looks

theorem idle_turn {service : Bool} (among : e.kind ∈ operationKinds) :
    match lifeHandler i w e c with
    | (w', none) => w' = w
    | (w', some a) =>
      Turn i w (.admitted service .idle) w' ((LifePart.admitted service .idle).next e a) := by
  have same : ∀ a, (LifePart.admitted service .idle).next e a = .admitted service .idle := by
    intro a
    cases service <;> cases e <;> first | rfl | exact absurd among (by decide)
  cases e with
  | opsEnded => cases service <;> exact .still _ _ (.inl rfl)
  | life e => cases e <;> simp [ManagerEffect.kind, operationKinds] at among
  | start cmd => simp [ManagerEffect.kind, operationKinds] at among
  | _ => first | exact other_turn same | exact absurd among (by decide)

theorem admitted_turn {service : Bool} {check : Check}
    (allowed : (LifePart.admitted service check).may e) :
    match lifeHandler i w e c with
    | (w', none) => w' = w
    | (w', some a) =>
      Turn i w (.admitted service check) w' ((LifePart.admitted service check).next e a) := by
  rcases allowed with ⟨rfl, rfl⟩ | allowed
  · have finish : Turn i w (.admitted service .idle) _ _ := .finish service
    cases service <;> exact finish
  cases check with
  | idle =>
    rcases allowed with ⟨among, -⟩ | looks | rfl | rfl
    · exact idle_turn among
    · exact looked_turn looks
    · cases service <;> exact .mark _ _ (.inl ⟨_, rfl, rfl⟩)
    · cases service <;> exact .still _ _ (.inr rfl)
  | looked =>
    obtain rfl := allowed
    unfold lifeHandler
    dsimp only
    split_ifs with stopping
    · cases service <;> exact .check _ _ _ _ .refused
    · have passes := CheckTurn.passes (i := i) (w := w) (by simpa using stopping)
      cases service <;> exact .check _ _ _ _ passes
  | cleared =>
    obtain ⟨cmd, rfl⟩ := allowed
    unfold lifeHandler
    dsimp only
    split_ifs
    · cases service <;> exact .check _ _ _ _ .cancelled
    · cases service <;> exact .check _ _ _ _ (.starts cmd)

theorem service_turn {stage : ServiceStage} (allowed : (LifePart.service stage).may e) :
    match lifeHandler i w e c with
    | (w', none) => w' = w
    | (w', some a) => Turn i w (.service stage) w' ((LifePart.service stage).next e a) := by
  cases stage with
  | fresh =>
    obtain rfl := allowed
    exact .serve _ _ _ .begins
  | starting =>
    obtain rfl := allowed
    unfold lifeHandler lifeStep
    dsimp only
    cases c.failure with
    | none =>
      have listens : Turn i w (.service .starting) _ _ := .serve _ _ _ .listens
      simpa [LifePart.next, ServiceStage.next, answered, Except.isOk, Except.toBool] using listens
    | some e =>
      have unheard : Turn i w (.service .starting) _ _ := .serve _ _ _ .unheard
      simpa [LifePart.next, ServiceStage.next, answered, Except.isOk, Except.toBool] using unheard
  | unheard =>
    obtain rfl := allowed
    exact .serve _ _ _ (.finishes _ (.inl rfl))
  | listening =>
    obtain rfl := allowed
    unfold lifeHandler
    dsimp only
    cases c.failure with
    | none =>
      dsimp only
      split_ifs with recorded
      · exact .serve _ _ _ .notices
      · exact .serve _ _ _ (.serves (by simpa using recorded))
    | some e => exact .serve _ _ _ .notices
  | noticed =>
    obtain rfl := allowed
    exact .mark _ _ (.inr (.inl ⟨rfl, rfl⟩))
  | closing =>
    rcases allowed with rfl | rfl
    · exact .still _ _ (.inr rfl)
    · exact .serve _ _ _ (.finishes _ (.inr (.inl rfl)))
  | serving =>
    rcases allowed with among | rfl | rfl
    · cases e with
      | life e => cases e <;> simp [ManagerEffect.kind] at among
      | _ => first | exact other_turn fun _ => rfl | simp [ManagerEffect.kind] at among
    · unfold lifeHandler
      dsimp only
      split_ifs with stopping
      · exact .still _ _ (.inl rfl)
      · exact .resume (by simpa using stopping)
    · exact .serve _ _ _ (.finishes _ (.inr (.inr rfl)))
  | finished => cases allowed

theorem stop_turn {database : String} {stage : StopStage}
    (allowed : (LifePart.stop database stage).may e) :
    match lifeHandler i w e c with
    | (w', none) => w' = w
    | (w', some a) =>
      Turn i w (.stop database stage) w' ((LifePart.stop database stage).next e a) := by
  cases stage with
  | called =>
    obtain rfl := allowed
    exact .mark _ _ (.inr (.inr ⟨database, rfl, rfl⟩))
  | marked =>
    obtain rfl := allowed
    exact .stop _ _ _ _ .cancels
  | cancelled =>
    obtain rfl := allowed
    unfold lifeHandler lifeStep
    dsimp only
    split_ifs with free
    · exact .stop _ _ _ _ (.locks (by simpa using free))
    · rfl
  | locked =>
    obtain rfl := allowed
    unfold lifeHandler lifeStep LifePart.next StopStage.next
    dsimp only
    split_ifs with stopped
    · exact .stop _ _ _ _ (.returns stopped)
    · exact .stop _ _ _ _ (.enters (by simpa using stopped))
  | entered =>
    obtain rfl := allowed
    unfold lifeHandler lifeStep
    dsimp only
    cases c.failure with
    | none =>
      dsimp only
      split_ifs with none
      · exact .stop _ _ _ _ (.awaits none)
      · rfl
    | some e => exact .stop _ _ _ _ .hurries
  | quiet =>
    obtain rfl := allowed
    have withdraws : StopTurn i database w .quiet _ _ := .withdraws true c.result
    exact .stop _ _ _ _ (by simpa [LifePart.next, StopStage.next] using withdraws)
  | hurried =>
    obtain rfl := allowed
    have withdraws : StopTurn i database w .hurried _ _ := .withdraws false c.result
    exact .stop _ _ _ _ (by simpa [LifePart.next, StopStage.next] using withdraws)
  | withdrawn clean =>
    obtain rfl := allowed
    exact .stop _ _ _ _ (.stops clean c.result)
  | shut clean =>
    cases clean with
    | true =>
      obtain rfl := allowed
      exact .stop _ _ _ _ .settles
    | false =>
      obtain rfl := allowed
      exact .stop _ _ _ _ (.unlocks _ _ (.inr ⟨rfl, rfl⟩))
  | already =>
    obtain rfl := allowed
    exact .stop _ _ _ _ (.unlocks _ _ (.inl ⟨.inl rfl, rfl⟩))
  | settled =>
    obtain rfl := allowed
    exact .stop _ _ _ _ (.unlocks _ _ (.inl ⟨.inr rfl, rfl⟩))
  | ended clean => cases allowed

end Cases

theorem handler_turn {i : Nat} {w : Life} {part : LifePart} {c : LifeChoice}
    (allowed : part.may e) :
    match lifeHandler i w e c with
    | (w', none) => w' = w
    | (w', some a) => Turn i w part w' (part.next e a) := by
  cases part with
  | request =>
    obtain rfl := allowed
    unfold lifeHandler
    dsimp only
    split_ifs with deaf stopping starting
    · rfl
    · exact .still _ _ (.inl rfl)
    · exact .still _ _ (.inl rfl)
    · exact .request (by simpa using deaf) (by simpa using stopping) (by simpa using starting)
  | admitted service check => exact admitted_turn allowed
  | service stage => exact service_turn allowed
  | stop database stage => exact stop_turn allowed
  | command database =>
    obtain rfl := allowed
    unfold lifeHandler lifeStep
    dsimp only
    cases c.failure with
    | none => exact .record database
    | some e => exact .unrecorded database
  | asking database =>
    obtain rfl := allowed
    unfold lifeHandler lifeStep
    dsimp only
    split_ifs with heard
    · exact .reach database
    · exact .unreached database (by simpa using heard)
  | alone database =>
    rcases allowed with rfl | rfl
    · exact .alone database _ (.inl ⟨_, rfl⟩)
    · exact .alone database _ (.inr ⟨_, _, rfl⟩)

end InstanceManager
