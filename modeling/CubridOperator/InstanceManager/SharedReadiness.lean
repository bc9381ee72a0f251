import CubridOperator.Foundation.Runs
import Mathlib.Data.List.Basic

/-!
The readiness check that the `/readyz` requests of a member share. A section
under `readyMu` is one step; everything outside of it is steps of their own.
-/
namespace InstanceManager
open Foundation List Option

structure ReadinessFindings where
  unwrittenEnds : List String := []
  standaloneDB : String := ""
  serverRunning : Except String Bool := .ok true
  role : String := ""
  roleReason : String := ""

def reasonOperationStoreWriteFailed : String := "OperationStoreWriteFailed"

def notReadyReason (found : ReadinessFindings) : String :=
  if found.unwrittenEnds ≠ [] then
    reasonOperationStoreWriteFailed ++ ": the end of " ++
      (if found.unwrittenEnds.length > 1 then "operations" else "operation") ++ " " ++
      ", ".intercalate found.unwrittenEnds ++ " could not be written to the operation store"
  else if found.standaloneDB ≠ "" then
    match found.serverRunning with
    | .error reason => reason
    | .ok false => "server " ++ found.standaloneDB ++ " is not running"
    | .ok true => ""
  else if found.role = "master" ∨ found.role = "slave" ∨ found.role = "replica" then ""
  else if found.roleReason = "" then "the member has no HA role"
  else found.roleReason

inductive CheckRun where
  | found (findings : ReadinessFindings)
  | panicked (value : String)

/-- A panic answers not ready. -/
def checkReadiness : CheckRun → String
  | .found findings => notReadyReason findings
  | .panicked value => "the readiness check failed: " ++ value

def readinessAbandoned : String :=
  "no request waited for the readiness check to end; it was cancelled"

inductive CheckPhase where
  /-- In `checkReadiness`, with or without its command running. -/
  | checking (command : Bool)
  /-- It has the reason; whether it was cancelled is not looked at yet. -/
  | returned
  | noted
  | published
  | logged
  | closed
  | finished
  deriving DecidableEq

/-- Not published yet. -/
def CheckPhase.current : CheckPhase → Bool
  | .checking _ | .returned | .noted => true
  | _ => false

def CheckPhase.doneClosed : CheckPhase → Bool
  | .closed | .finished => true
  | _ => false

structure ReadinessCheck where
  phase : CheckPhase := .checking false
  waiters : Int := 0
  abandoned : Bool := false
  cancelled : Bool := false
  /-- What `checkReadiness` returned, and what the goroutine notes after it. -/
  result : String := ""
  cut : Bool := false
  wasAbandoned : Bool := false
  reason : String := ""

/-- A request that waited leaves the check, which is the server's own or not. -/
def ReadinessCheck.leftBy (own : Bool) (check : ReadinessCheck) : ReadinessCheck :=
  let check := { check with waiters := check.waiters - 1 }
  if check.waiters = 0 ∧ own then { check with abandoned := true, cancelled := true } else check

inductive ReadyRequest where
  | arriving
  /-- It found an abandoned check and waits for its end. -/
  | awaits (check : Nat)
  | joined (check : Nat)
  /-- Its context ended while it waited for the check. -/
  | leaving (check : Nat)
  | answered (check : Nat) (reason : String)
  | left
  deriving DecidableEq

/-- A request is counted as a waiter until it has been answered or has left. -/
def ReadyRequest.waitsFor (c : Nat) : ReadyRequest → Bool
  | .joined c' | .leaving c' => c' = c
  | _ => false

structure Readiness where
  readyCheck : Option Nat := none
  checks : List ReadinessCheck := []
  requests : List ReadyRequest := []
  /-- The reason that was logged last, and the lines, those for a change first. -/
  notReady : String := ""
  lines : List (Bool × String) := []

inductive ReadyEvent where
  | arrive
  | enter (request : Nat)
  | receive (request : Nat)
  | expire (request : Nat)
  /-- It takes `readyMu` to leave. -/
  | leave (request : Nat)
  | startCommand (check : Nat)
  | endCommand (check : Nat)
  | finishRun (check : Nat) (run : CheckRun)
  | note (check : Nat)
  | publish (check : Nat)
  | log (check : Nat)
  | close (check : Nat)
  /-- The deferred `cancel`. -/
  | finish (check : Nat)

namespace Readiness

variable {f : ReadinessCheck → ReadinessCheck}

section Steps

variable (s : Readiness)

def place (i : Nat) (r : ReadyRequest) : Readiness := { s with requests := s.requests.set i r }

def modify (c : Nat) (f : ReadinessCheck → ReadinessCheck) : Readiness :=
  { s with checks := s.checks.modify c f }

def closed (c : Nat) : Bool := (s.checks[c]?).any (·.phase.doneClosed)

def startReadinessCheck : Readiness :=
  { s with checks := s.checks ++ [{}], readyCheck := some s.checks.length }

def join (i c : Nat) : Readiness :=
  (s.modify c fun check => { check with waiters := check.waiters + 1 }).place i (.joined c)

def enter (i : Nat) : Readiness :=
  match s.readyCheck with
  | some c =>
    if (s.checks[c]?).any (·.abandoned) then s.place i (.awaits c) else s.join i c
  | none => s.startReadinessCheck.join i s.checks.length

/-- The section of a request whose context ended: the last one that leaves the
    server's own check abandons it. -/
def leave (i c : Nat) : Readiness :=
  (s.modify c (ReadinessCheck.leftBy (s.readyCheck = some c))).place i .left

def publish (c : Nat) : Readiness :=
  let s := s.modify c fun check =>
    { check with phase := .published, wasAbandoned := check.abandoned, reason := check.result }
  if s.readyCheck = some c then { s with readyCheck := none } else s

def logReadiness (reason : String) : Readiness :=
  { s with
    notReady := reason
    lines := if reason = "" then s.lines else (decide (reason ≠ s.notReady), reason) :: s.lines }

def advance (c : Nat) (from_ : CheckPhase) (f : ReadinessCheck → ReadinessCheck) : Readiness :=
  if (s.checks[c]?).any (·.phase = from_) then s.modify c f else s

def step (s : Readiness) : ReadyEvent → Readiness
  | .arrive => { s with requests := s.requests ++ [.arriving] }
  | .enter i => if s.requests[i]? = some .arriving then s.enter i else s
  | .receive i =>
    match s.requests[i]? with
    | some (.awaits c) => if s.closed c then s.place i .arriving else s
    | some (.joined c) =>
      match s.checks[c]? with
      | some check => if check.phase.doneClosed then s.place i (.answered c check.reason) else s
      | none => s
    | _ => s
  | .expire i =>
    match s.requests[i]? with
    | some (.awaits _) => s.place i .left
    | some (.joined c) => s.place i (.leaving c)
    | _ => s
  | .leave i =>
    match s.requests[i]? with
    | some (.leaving c) => s.leave i c
    | _ => s
  | .startCommand c =>
    s.advance c (.checking false) fun check => { check with phase := .checking true }
  | .endCommand c =>
    s.advance c (.checking true) fun check => { check with phase := .checking false }
  | .finishRun c run =>
    s.advance c (.checking false) fun check => { check with
      phase := .returned, result := checkReadiness run }
  | .note c =>
    s.advance c .returned fun check => { check with phase := .noted, cut := check.cancelled }
  | .publish c => if (s.checks[c]?).any (·.phase = .noted) then s.publish c else s
  | .log c =>
    match s.checks[c]? with
    | some check =>
      if check.phase = .published then
        (s.modify c fun check => { check with phase := .logged }).logReadiness
          (if check.wasAbandoned && check.cut then readinessAbandoned else check.result)
      else s
    | none => s
  | .close c => s.advance c .logged fun check => { check with phase := .closed }
  | .finish c =>
    s.advance c .closed fun check => { check with phase := .finished, cancelled := true }

def run (events : List ReadyEvent) : Readiness := runEvents step {} events

/-- How a check goes on from a phase. -/
inductive Progress : CheckPhase → (ReadinessCheck → ReadinessCheck) → Prop where
  | startCommand : Progress (.checking false) fun check => { check with phase := .checking true }
  | endCommand : Progress (.checking true) fun check => { check with phase := .checking false }
  | finishRun (run : CheckRun) :
      Progress (.checking false) fun check => { check with
        phase := .returned, result := checkReadiness run }
  | note : Progress .returned fun check => { check with phase := .noted, cut := check.cancelled }
  | log : Progress .published fun check => { check with phase := .logged }
  | close : Progress .logged fun check => { check with phase := .closed }
  | finish : Progress .closed fun check => { check with phase := .finished, cancelled := true }

/-- What one step does. -/
inductive Move (s : Readiness) : Readiness → Prop where
  | stays : Move s s
  | arrives : Move s { s with requests := s.requests ++ [.arriving] }
  | passes {i : Nat} {old new : ReadyRequest} (is : s.requests[i]? = some old)
      (same : ∀ c, new.waitsFor c = old.waitsFor c) (unjoined : ∀ c, new ≠ .joined c)
      (unanswered : ∀ c reason, new ≠ .answered c reason) : Move s (s.place i new)
  | joins {i c : Nat} (arriving : s.requests[i]? = some .arriving) (own : s.readyCheck = some c)
      (staying : (s.checks[c]?).any (·.abandoned) = false) : Move s (s.join i c)
  | starts {i : Nat} (arriving : s.requests[i]? = some .arriving) (none : s.readyCheck = none) :
      Move s (s.startReadinessCheck.join i s.checks.length)
  | receives {i c : Nat} {check : ReadinessCheck} (joined : s.requests[i]? = some (.joined c))
      (has : s.checks[c]? = some check) (closed : check.phase.doneClosed = true) :
      Move s (s.place i (.answered c check.reason))
  | leaves {i c : Nat} (leaving : s.requests[i]? = some (.leaving c)) : Move s (s.leave i c)
  | progresses {c : Nat} {phase : CheckPhase} {f : ReadinessCheck → ReadinessCheck}
      (progress : Progress phase f)
      (at_ : ∀ check, s.checks[c]? = some check → check.phase = phase) (notReady : String)
      (lines : List (Bool × String)) : Move s { s.modify c f with notReady, lines }
  | publishes {c : Nat} (noted : (s.checks[c]?).any (·.phase = .noted) = true) :
      Move s (s.publish c)

variable {s}

theorem advance_move {c : Nat} {phase : CheckPhase} (progress : Progress phase f) :
    Move s (s.advance c phase f) := by
  unfold advance
  split_ifs with at_
  · exact .progresses progress (fun check has => by simpa [has] using at_) s.notReady s.lines
  · exact .stays

theorem enter_move {i : Nat} (arriving : s.requests[i]? = some .arriving) : Move s (s.enter i) := by
  unfold enter
  split
  · rename_i c own
    split_ifs with abandoned
    · exact .passes arriving (fun _ => rfl) (by simp) (by simp)
    · exact .joins arriving own (by simpa using abandoned)
  · rename_i none
    exact .starts arriving none

theorem receive_move (i : Nat) : Move s (s.step (.receive i)) := by
  unfold step
  dsimp only
  split
  · rename_i c awaits
    split_ifs
    · exact .passes awaits (fun _ => rfl) (by simp) (by simp)
    · exact .stays
  · rename_i c joined
    split
    · rename_i check has
      split_ifs with closed
      · exact .receives joined has closed
      · exact .stays
    · exact .stays
  · exact .stays

theorem log_move (c : Nat) : Move s (s.step (.log c)) := by
  unfold step
  dsimp only
  split
  · rename_i check has
    by_cases published : check.phase = .published
    · rw [if_pos published]
      refine .progresses .log (fun was is => ?_) _ _
      rwa [some.inj (is.symm.trans has)]
    · rw [if_neg published]
      exact .stays
  · exact .stays

theorem step_move (e : ReadyEvent) : Move s (s.step e) := by
  cases e with
  | arrive => exact .arrives
  | enter i =>
    unfold step
    dsimp only
    split_ifs with arriving
    · exact enter_move arriving
    · exact .stays
  | receive i => exact receive_move i
  | expire i =>
    unfold step
    dsimp only
    split
    · rename_i awaits
      exact .passes awaits (fun _ => rfl) (by simp) (by simp)
    · rename_i joined
      exact .passes joined (fun _ => rfl) (by simp) (by simp)
    · exact .stays
  | leave i =>
    unfold step
    dsimp only
    split
    · rename_i leaving
      exact .leaves leaving
    · exact .stays
  | startCommand c => exact advance_move .startCommand
  | endCommand c => exact advance_move .endCommand
  | finishRun c run => exact advance_move (.finishRun run)
  | note c => exact advance_move .note
  | publish c =>
    unfold step
    dsimp only
    split_ifs with noted
    · exact .publishes noted
    · exact .stays
  | log c => exact log_move c
  | close c => exact advance_move .close
  | finish c => exact advance_move .finish

end Steps

variable {s' : Readiness}

section Invariant

/-- A check counts the requests that wait for it until `done` is closed, and is
    cancelled only when it is abandoned, with no request waiting. -/
structure CheckSound (readyCheck : Option Nat) (requests : List ReadyRequest) (c : Nat)
    (check : ReadinessCheck) : Prop where
  current : check.phase.current = true ↔ readyCheck = some c
  counted : check.phase.doneClosed = false →
    check.waiters = requests.countP (ReadyRequest.waitsFor c)
  deserted : check.abandoned = true → requests.countP (ReadyRequest.waitsFor c) = 0
  cancelled : check.cancelled = true → check.abandoned = true ∨ check.phase = .finished
  cut : check.cut = true → check.abandoned = true
  reason : check.phase.current = false → check.reason = check.result

/-- A request waits for a check that was started, and is answered by one that
    ended and was never abandoned. -/
def RequestSound (checks : List ReadinessCheck) : ReadyRequest → Prop
  | .joined c | .leaving c => c < checks.length
  | .answered c reason => ∃ check, checks[c]? = some check ∧ check.phase.doneClosed = true ∧
      check.abandoned = false ∧ check.result = reason
  | _ => True

structure Sound (s : Readiness) : Prop where
  checks : ∀ c check, s.checks[c]? = some check → CheckSound s.readyCheck s.requests c check
  requests : ∀ (i : Nat) r, s.requests[i]? = some r → RequestSound s.checks r
  pointer : ∀ c, s.readyCheck = some c → c < s.checks.length

variable {s : Readiness} {i c : Nat} {old new : ReadyRequest} {requests : List ReadyRequest}

theorem countP_place (new : ReadyRequest) (p : ReadyRequest → Bool) (is : requests[i]? = some old) :
    (requests.set i new).countP p + (if p old then 1 else 0) = requests.countP p + if p new then 1
    else 0 := by
  obtain ⟨inside, rfl⟩ := List.getElem?_eq_some_iff.mp is
  have counted := boole_getElem_le_countP (p := p) inside
  rw [countP_set inside]
  omega

@[simp] theorem modify_readyCheck (f : ReadinessCheck → ReadinessCheck) :
    (s.modify c f).readyCheck = s.readyCheck := rfl

@[simp] theorem modify_requests (f : ReadinessCheck → ReadinessCheck) :
    (s.modify c f).requests = s.requests := rfl

@[simp] theorem place_readyCheck : (s.place i new).readyCheck = s.readyCheck := rfl

@[simp] theorem place_requests : (s.place i new).requests = s.requests.set i new := rfl

@[simp] theorem place_checks : (s.place i new).checks = s.checks := rfl

def KeepsAnswer (check after : ReadinessCheck) : Prop :=
  check.phase.doneClosed = true → after.phase.doneClosed = true ∧
  after.abandoned = check.abandoned ∧
    after.result = check.result

theorem RequestSound.modify {r : ReadyRequest} (sound : RequestSound s.checks r)
    (kept : ∀ check, s.checks[c]? = some check → KeepsAnswer check (f check)) :
    RequestSound (s.modify c f).checks r := by
  cases r with
  | joined | leaving => simpa [RequestSound, Readiness.modify] using sound
  | answered c' reason =>
    obtain ⟨check, has, closed, never, result⟩ := sound
    simp only [RequestSound, Readiness.modify, getElem?_modify, has]
    by_cases same : c = c'
    · subst same
      obtain ⟨closed', never', result'⟩ := kept check has closed
      exact ⟨f check, by simp, closed', never'.trans never, result'.trans result⟩
    · exact ⟨check, by simp [same], closed, never, result⟩
  | _ => trivial

theorem Sound.moved (sound : Sound s) (is : s.requests[i]? = some old)
    (request : RequestSound s.checks new)
    (others : ∀ c', c' ≠ c → new.waitsFor c' = old.waitsFor c')
    (each : ∀ check, s.checks[c]? = some check →
      CheckSound s.readyCheck (s.requests.set i new) c (f check))
    (kept : ∀ check, s.checks[c]? = some check → KeepsAnswer check (f check)) :
    Sound ((s.modify c f).place i new) := by
  constructor
  · intro c' check has
    simp only [place_checks, Readiness.modify, getElem?_modify] at has
    obtain ⟨was, before, rfl⟩ := map_eq_some_iff.mp has
    by_cases same : c = c'
    · subst same
      simpa using each was before
    · have count := countP_place new (ReadyRequest.waitsFor c') is
      rw [others c' (Ne.symm same)] at count
      have unmoved : (s.requests.set i new).countP (ReadyRequest.waitsFor c') =
          s.requests.countP (ReadyRequest.waitsFor c') := by omega
      obtain ⟨current, counted, deserted, cancelled, cut, reason⟩ := sound.checks c' was before
      simp only [same, if_false]
      refine ⟨current, fun opened => ?_, fun abandoned => ?_, cancelled, cut, reason⟩
      · exact (counted opened).trans (congrArg _ unmoved.symm)
      · exact unmoved.trans (deserted abandoned)
  · intro j r at_
    have asked : (s.requests.set i new)[j]? = some r := at_
    rw [getElem?_set] at asked
    split_ifs at asked with here
    · obtain rfl := some.inj asked
      exact RequestSound.modify request kept
    · exact RequestSound.modify (sound.requests j r asked) kept
  · intro c' own
    simpa [Readiness.modify] using sound.pointer c' own

theorem Sound.modify (sound : Sound s)
    (each : ∀ check, s.checks[c]? = some check → CheckSound s.readyCheck s.requests c (f check))
    (kept : ∀ check, s.checks[c]? = some check → KeepsAnswer check (f check)) :
    Sound (s.modify c f) := by
  constructor
  · intro c' check is
    simp only [Readiness.modify, getElem?_modify] at is
    obtain ⟨was, has, rfl⟩ := map_eq_some_iff.mp is
    by_cases same : c = c'
    · subst same
      simpa using each was has
    · simpa [same] using sound.checks c' was has
  · intro j r is
    exact RequestSound.modify (sound.requests j r is) kept
  · intro c' is
    simpa [Readiness.modify] using sound.pointer c' is

theorem Sound.place (sound : Sound s) (is : s.requests[i]? = some old)
    (request : RequestSound s.checks new)
    (fewer : ∀ c, new.waitsFor c = true → old.waitsFor c = true)
    (same : ∀ c check, s.checks[c]? = some check → check.phase.doneClosed = false →
      new.waitsFor c = old.waitsFor c) : Sound (s.place i new) := by
  constructor
  · intro c check has
    obtain ⟨current, counted, deserted, cancelled, cut, reason⟩ := sound.checks c check has
    have count := countP_place new (ReadyRequest.waitsFor c) is
    refine ⟨current, fun opened => ?_, fun abandoned => ?_, cancelled, cut, reason⟩
    · rw [counted opened]
      rw [same c check has opened] at count
      change _ = (((s.requests.set i new).countP (ReadyRequest.waitsFor c) : Nat) : Int)
      omega
    · have none := deserted abandoned
      have less := fewer c
      change (s.requests.set i new).countP (ReadyRequest.waitsFor c) = 0
      cases waits : new.waitsFor c <;> simp_all
  · intro j r at_
    have asked : (s.requests.set i new)[j]? = some r := at_
    rw [getElem?_set] at asked
    split_ifs at asked with here
    · obtain rfl := some.inj asked
      exact request
    · exact sound.requests j r asked
  · exact sound.pointer

theorem Sound.join (sound : Sound s) (arriving : s.requests[i]? = some .arriving)
    (own : s.readyCheck = some c) (staying : (s.checks[c]?).any (·.abandoned) = false) :
    Sound (s.join i c) := by
  refine sound.moved arriving (sound.pointer c own) (fun c' other => ?_) (fun check has => ?_)
    fun check _ closed => ?_
  · simpa [ReadyRequest.waitsFor] using Ne.symm other
  · obtain ⟨current, counted, -, cancelled, cut, reason⟩ := sound.checks c check has
    have count := countP_place (.joined c) (ReadyRequest.waitsFor c) arriving
    simp only [ReadyRequest.waitsFor, decide_true, if_true, Bool.false_eq_true, if_false] at count
    have stays : check.abandoned = false := by simpa [has] using staying
    refine ⟨current, fun opened => ?_, fun abandoned => ?_, cancelled, cut, reason⟩
    · have before := counted opened
      change check.waiters + 1 =
        (((s.requests.set i (.joined c)).countP (ReadyRequest.waitsFor c) : Nat) : Int)
      omega
    · rw [stays] at abandoned
      cases abandoned
  · exact ⟨closed, rfl, rfl⟩

theorem Sound.leave (sound : Sound s) (leaving : s.requests[i]? = some (.leaving c)) :
    Sound (s.leave i c) := by
  have count := countP_place .left (ReadyRequest.waitsFor c) leaving
  simp only [ReadyRequest.waitsFor, decide_true, if_true, Bool.false_eq_true, if_false] at count
  refine sound.moved leaving trivial (fun c' other => ?_) (fun check has => ?_)
    fun check has closed => ?_
  · simpa [ReadyRequest.waitsFor] using Ne.symm other
  · obtain ⟨current, counted, deserted, cancelled, cut, reason⟩ := sound.checks c check has
    have staying : check.abandoned = false := by
      -- This request still waits, so nobody has abandoned the check.
      by_contra abandoned
      have none := deserted (by simpa using abandoned)
      omega
    unfold ReadinessCheck.leftBy
    dsimp only
    split_ifs with last
    · refine ⟨current, fun opened => ?_, fun _ => ?_, fun _ => .inl rfl, fun _ => rfl, reason⟩
      · have before := counted opened
        change check.waiters - 1 =
          (((s.requests.set i .left).countP (ReadyRequest.waitsFor c) : Nat) : Int)
        omega
      · have own : s.readyCheck = some c := by simpa using last.2
        have running := current.mpr own
        have opened : check.phase.doneClosed = false := by
          cases phase : check.phase <;>
            simp [phase, CheckPhase.current, CheckPhase.doneClosed] at running ⊢
        have before := counted opened
        have zero := last.1
        omega
    · refine ⟨current, fun opened => ?_, fun abandoned => ?_, cancelled, cut, reason⟩
      · have before := counted opened
        change check.waiters - 1 =
          (((s.requests.set i .left).countP (ReadyRequest.waitsFor c) : Nat) : Int)
        omega
      · rw [staying] at abandoned
        cases abandoned
  · unfold ReadinessCheck.leftBy
    dsimp only
    split_ifs with last
    · have own : s.readyCheck = some c := by simpa using last.2
      have running := (sound.checks c check has).current.mpr own
      cases phase : check.phase <;>
        simp [phase, CheckPhase.current, CheckPhase.doneClosed] at running closed
    · exact ⟨closed, rfl, rfl⟩

theorem Sound.start (sound : Sound s) (none : s.readyCheck = none) :
    Sound s.startReadinessCheck := by
  constructor
  · intro c check has
    simp only [startReadinessCheck] at has ⊢
    rw [getElem?_append] at has
    split_ifs at has with earlier
    · obtain ⟨current, counted, deserted, cancelled, cut, reason⟩ := sound.checks c check has
      refine ⟨⟨fun is => ?_, fun is => ?_⟩, counted, deserted, cancelled, cut, reason⟩
      · rw [none] at current
        simp [is] at current
      · obtain rfl := some.inj is
        omega
    · obtain ⟨here, rfl⟩ := List.getElem?_eq_some_iff.mp has
      have last : c = s.checks.length := by simp at here; omega
      subst last
      have nobody : s.requests.countP (ReadyRequest.waitsFor s.checks.length) = 0 := by
        refine countP_eq_zero.mpr fun r among waits => ?_
        obtain ⟨i, inside, rfl⟩ := getElem_of_mem among
        have known := sound.requests i _ (getElem?_eq_getElem inside)
        cases is : s.requests[i] with
        | joined c =>
          simp only [is, ReadyRequest.waitsFor, decide_eq_true_eq] at waits
          simp [is, RequestSound, waits] at known
        | leaving c =>
          simp only [is, ReadyRequest.waitsFor, decide_eq_true_eq] at waits
          simp [is, RequestSound, waits] at known
        | _ => simp [is, ReadyRequest.waitsFor] at waits
      refine ⟨?_, fun _ => ?_, ?_, ?_, ?_, ?_⟩
      · simp [CheckPhase.current]
      · simp [nobody]
      all_goals simp
  · intro i r is
    have before := sound.requests i r is
    cases r with
    | joined c =>
      have earlier : c < s.checks.length := before
      simp only [RequestSound, startReadinessCheck, length_append, length_singleton]
      omega
    | leaving c =>
      have earlier : c < s.checks.length := before
      simp only [RequestSound, startReadinessCheck, length_append, length_singleton]
      omega
    | answered c reason =>
      obtain ⟨check, has, closed, never, result⟩ := before
      have earlier := (List.getElem?_eq_some_iff.mp has).1
      refine ⟨check, ?_, closed, never, result⟩
      rw [startReadinessCheck, getElem?_append_left earlier]
      exact has
    | _ => trivial
  · intro c is
    obtain rfl := some.inj is
    simp [startReadinessCheck]

theorem keepsAnswer_open {check after : ReadinessCheck} (opened : check.phase.doneClosed = false) :
    KeepsAnswer check after := by
  intro closed
  rw [opened] at closed
  cases closed

variable {check : ReadinessCheck}

theorem CheckSound.phase {readyCheck : Option Nat} (sound : CheckSound readyCheck requests c check)
    (phase : CheckPhase) (same : phase.current = check.phase.current)
    (opened : phase.doneClosed = false → check.phase.doneClosed = false)
    (unfinished : check.phase ≠ .finished) :
    CheckSound readyCheck requests c { check with phase } := by
  obtain ⟨current, counted, deserted, cancelled, cut, reason⟩ := sound
  refine ⟨same ▸ current, fun still => counted (opened still), deserted, fun is => ?_, cut,
    fun is => reason (same ▸ is)⟩
  exact .inl ((cancelled is).resolve_right unfinished)

theorem Sound.publish (sound : Sound s) (noted : (s.checks[c]?).any (·.phase = .noted) = true) :
    Sound (s.publish c) := by
  obtain ⟨check, has, is⟩ := (any_eq_true _ _).mp noted
  have phase : check.phase = .noted := of_decide_eq_true is
  have own : s.readyCheck = some c := (sound.checks c check has).current.mp (by rw [phase]; rfl)
  unfold Readiness.publish
  simp only [modify_readyCheck, own, if_true]
  constructor
  · intro c' check' has'
    simp only [Readiness.modify, getElem?_modify] at has'
    obtain ⟨was, before, rfl⟩ := map_eq_some_iff.mp has'
    obtain ⟨current, counted, deserted, cancelled, cut, reason⟩ := sound.checks c' was before
    by_cases same : c = c'
    · subst same
      obtain rfl := some.inj (before.symm.trans has)
      simp only [if_true]
      refine ⟨by simp [CheckPhase.current], fun _ => counted (by rw [phase]; rfl), deserted,
        fun is => ?_, cut, fun _ => rfl⟩
      exact .inl ((cancelled is).resolve_right (by simp [phase]))
    · simp only [same, if_false]
      refine ⟨⟨fun is => ?_, fun is => by cases is⟩, counted, deserted, cancelled, cut, reason⟩
      have also := current.mp is
      rw [own] at also
      exact absurd (some.inj also) same
  · intro j r is
    refine RequestSound.modify (sound.requests j r is) fun was before => ?_
    obtain rfl := some.inj (before.symm.trans has)
    exact keepsAnswer_open (by rw [phase]; rfl)
  · intro c' is
    cases is

theorem CheckSound.progress {readyCheck : Option Nat} {phase : CheckPhase}
    (sound : CheckSound readyCheck requests c check) (progress : Progress phase f)
    (at_ : check.phase = phase) : CheckSound readyCheck requests c (f check) := by
  have moved : ∀ next : CheckPhase, next.current = phase.current →
      (next.doneClosed = false → phase.doneClosed = false) → phase ≠ .finished →
      CheckSound readyCheck requests c { check with phase := next } :=
    fun next same opened unfinished => sound.phase next (at_ ▸ same) (at_ ▸ opened)
      (at_ ▸ unfinished)
  cases progress with
  | finishRun run =>
    have moved := moved .returned rfl id (by simp)
    exact ⟨moved.current, moved.counted, moved.deserted, moved.cancelled, moved.cut,
      fun is => by cases is⟩
  | note =>
    have moved := moved .noted rfl id (by simp)
    refine ⟨moved.current, moved.counted, moved.deserted, moved.cancelled, fun cut => ?_,
      fun is => by cases is⟩
    exact (sound.cancelled cut).resolve_right (by simp [at_])
  | finish =>
    have moved := moved .finished rfl id (by simp)
    exact ⟨moved.current, fun is => (by cases is), moved.deserted, fun _ => .inr rfl, moved.cut,
      moved.reason⟩
  | startCommand | endCommand | log => exact moved _ rfl id (by simp)
  | close => exact moved .closed rfl (fun is => by cases is) (by simp)

theorem Progress.keepsAnswer {phase : CheckPhase} (progress : Progress phase f)
    (at_ : check.phase = phase) : KeepsAnswer check (f check) := by
  cases progress with
  | finish => exact fun _ => ⟨rfl, rfl, rfl⟩
  | _ => exact keepsAnswer_open (by rw [at_]; rfl)

theorem Sound.arrive (sound : Sound s) :
    Sound { s with requests := s.requests ++ [.arriving] } := by
  constructor
  · intro c check has
    obtain ⟨current, counted, deserted, cancelled, cut, reason⟩ := sound.checks c check has
    have count : (s.requests ++ [ReadyRequest.arriving]).countP (ReadyRequest.waitsFor c) =
        s.requests.countP (ReadyRequest.waitsFor c) := by simp [ReadyRequest.waitsFor]
    exact ⟨current, fun opened => (counted opened).trans (congrArg _ count.symm),
      fun abandoned => count.trans (deserted abandoned), cancelled, cut, reason⟩
  · intro i r is
    rcases mem_append.mp (mem_of_getElem? is) with among | new
    · obtain ⟨j, inside, rfl⟩ := getElem_of_mem among
      exact sound.requests j _ (getElem?_eq_getElem inside)
    · obtain rfl := mem_singleton.mp new
      trivial
  · exact sound.pointer

/-- A request that received the reason had joined a check that nobody abandoned. -/
theorem Sound.receive (sound : Sound s) (joined : s.requests[i]? = some (.joined c))
    (has : s.checks[c]? = some check) (closed : check.phase.doneClosed = true) :
    Sound (s.place i (.answered c check.reason)) := by
  have checked := sound.checks c check has
  have staying : check.abandoned = false := by
    by_contra abandoned
    have none := countP_eq_zero.mp (checked.deserted (by simpa using abandoned)) (.joined c)
      (mem_of_getElem? joined)
    simp [ReadyRequest.waitsFor] at none
  have published : check.phase.current = false := by
    cases phase : check.phase <;>
      simp [phase, CheckPhase.current, CheckPhase.doneClosed] at closed ⊢
  refine sound.place joined ⟨check, has, closed, staying, (checked.reason published).symm⟩
    (fun c' waits => by cases waits) fun c' check' has' opened => ?_
  have other : c ≠ c' := by
    rintro rfl
    rw [some.inj (has'.symm.trans has), closed] at opened
    cases opened
  simp [ReadyRequest.waitsFor, other]

theorem Sound.pass (sound : Sound s) (is : s.requests[i]? = some old)
    (same : ∀ c, new.waitsFor c = old.waitsFor c) (unjoined : ∀ c, new ≠ .joined c)
    (unanswered : ∀ c reason, new ≠ .answered c reason) : Sound (s.place i new) := by
  refine sound.place is ?_ (fun c waits => same c ▸ waits) fun c _ _ _ => same c
  have known := sound.requests i old is
  cases new with
  | joined c => exact absurd rfl (unjoined c)
  | answered c reason => exact absurd rfl (unanswered c reason)
  | leaving c => cases old <;> simp_all [ReadyRequest.waitsFor, RequestSound]
  | _ => trivial

theorem Sound.move (sound : Sound s) (move : Move s s') : Sound s' := by
  cases move with
  | stays => exact sound
  | arrives => exact sound.arrive
  | passes is same unjoined unanswered => exact sound.pass is same unjoined unanswered
  | joins arriving own staying => exact sound.join arriving own staying
  | starts arriving none =>
    exact (sound.start none).join arriving rfl (by simp [startReadinessCheck])
  | receives joined has closed => exact sound.receive joined has closed
  | leaves leaving => exact sound.leave leaving
  | progresses progress at_ notReady lines =>
    have moved :=
      sound.modify (fun check has => (sound.checks _ check has).progress progress (at_ check has))
      fun check has => progress.keepsAnswer (at_ check has)
    exact ⟨moved.checks, moved.requests, moved.pointer⟩
  | publishes noted => exact sound.publish noted

theorem sound_run (events : List ReadyEvent) : Sound (run events) := by
  refine runEvents_kept Sound (fun s e sound => sound.move (step_move e)) events ⟨?_, ?_, ?_⟩
  · intro c check has
    simp at has
  · intro i r is
    simp at is
  · intro c is
    cases is

end Invariant

section Law

variable (s : Readiness) {i j c : Nat}

def commandRuns (c : Nat) : Prop :=
  ∃ check, s.checks[c]? = some check ∧ check.phase = .checking true

def cancelled (c : Nat) : Prop := ∃ check, s.checks[c]? = some check ∧ check.cancelled = true

def published (c : Nat) : Prop := ∃ check, s.checks[c]? = some check ∧ check.phase.current = false

def waits (i c : Nat) : Prop := s.requests[i]? = some (.joined c) ∧ s.closed c = false

variable {s}

theorem published_modify {c' : Nat}
    (forward : ∀ check, s.checks[c']? = some check → check.phase.current = false →
      (f check).phase.current = false)
    (ended : s.published c) : (s.modify c' f).published c := by
  obtain ⟨check, has, phase⟩ := ended
  by_cases same : c' = c
  · subst same
    exact ⟨f check, by simp [Readiness.modify, has], forward check has phase⟩
  · exact ⟨check, by simp [Readiness.modify, has, same], phase⟩

theorem published_publish {c' : Nat} (ended : s.published c) : (s.publish c').published c := by
  have moved : (s.modify c' fun check =>
      { check with
        phase := .published, wasAbandoned := check.abandoned, reason := check.result }).published
          c :=
    published_modify (fun _ _ _ => rfl) ended
  unfold Readiness.publish
  dsimp only
  split_ifs
  · exact moved
  · exact moved

theorem published_join {c' : Nat} (ended : s.published c) : (s.join i c').published c :=
  published_modify (fun _ _ after => after) ended

theorem published_start (ended : s.published c) : s.startReadinessCheck.published c := by
  obtain ⟨check, has, phase⟩ := ended
  have earlier := (List.getElem?_eq_some_iff.mp has).1
  exact ⟨check, by rw [startReadinessCheck, getElem?_append_left earlier]; exact has, phase⟩

theorem Progress.forward {phase : CheckPhase} (progress : Progress phase f)
    (after : phase.current = false) (check : ReadinessCheck) : (f check).phase.current = false := by
  cases progress with
  | log | close | finish => rfl
  | _ => cases after

theorem Move.published (move : Move s s') (ended : s.published c) : s'.published c := by
  cases move with
  | joins arriving own staying => exact published_join ended
  | starts arriving none => exact published_join (published_start ended)
  | leaves leaving =>
    refine published_modify (fun check _ after => ?_) ended
    unfold ReadinessCheck.leftBy
    dsimp only
    split_ifs <;> exact after
  | progresses progress at_ notReady lines =>
    exact published_modify
      (fun check has after => progress.forward (at_ check has ▸ after) check) ended
  | publishes noted => exact published_publish ended
  | _ => exact ended

theorem place_requests_some {r r' : ReadyRequest} (is : (s.place i r).requests[j]? = some r') :
    s.requests[j]? = some r' ∨ j = i ∧ r = r' := by
  rw [place_requests, getElem?_set] at is
  split_ifs at is with here
  · exact .inr ⟨here.symm, some.inj is⟩
  · exact .inl is

theorem publish_requests : (s.publish c).requests = s.requests := by
  unfold Readiness.publish
  dsimp only
  split_ifs <;> rfl

theorem arrive_requests {r : ReadyRequest} (is : (s.requests ++ [.arriving])[j]? = some r) :
    s.requests[j]? = some r ∨ r = .arriving := by
  rw [getElem?_append] at is
  split_ifs at is
  · exact .inl is
  · exact .inr (mem_singleton.mp (mem_of_getElem? is))

theorem Move.answered {reason : String} (move : Move s s')
    (is : s'.requests[j]? = some (.answered c reason)) :
    s.requests[j]? = some (.answered c reason) ∨ s.requests[j]? = some (.joined c) := by
  cases move with
  | stays => exact .inl is
  | arrives => exact .inl ((arrive_requests is).resolve_right (by simp))
  | passes _ _ _ unanswered =>
    exact .inl ((place_requests_some is).resolve_right fun new => unanswered c reason new.2)
  | joins | starts | leaves => exact .inl ((place_requests_some is).resolve_right (by simp))
  | receives joined _ _ =>
    rcases place_requests_some is with was | ⟨rfl, same⟩
    · exact .inl was
    · obtain ⟨rfl, -⟩ := ReadyRequest.answered.inj same
      exact .inr joined
  | progresses => exact .inl is
  | publishes => exact .inl (publish_requests ▸ is)

/-- The check can be joined: it runs or is not published yet, no request has
    abandoned it and nothing has cancelled it. -/
def Joinable (s : Readiness) (c : Nat) : Prop :=
  ∃ check, s.checks[c]? = some check ∧ check.phase.current = true ∧ check.abandoned = false ∧
    check.cancelled = false

theorem Sound.joinable (sound : Sound s) (own : s.readyCheck = some c)
    (staying : (s.checks[c]?).any (·.abandoned) = false) : Joinable (s.join i c) c := by
  obtain ⟨check, has⟩ : ∃ check, s.checks[c]? = some check :=
    ⟨_, getElem?_eq_getElem (sound.pointer c own)⟩
  obtain ⟨current, -, -, cancelled, -, -⟩ := sound.checks c check has
  have stays : check.abandoned = false := by simpa [has] using staying
  have running := current.mpr own
  refine ⟨{ check with waiters := check.waiters + 1 }, ?_, running, stays, ?_⟩
  · simp [Readiness.join, Readiness.modify, has]
  · by_contra is
    rcases cancelled (by simpa using is) with abandoned | finished
    · rw [stays] at abandoned
      cases abandoned
    · rw [finished] at running
      cases running

/-- What holds of the shared checks in a state, and of every step from it. -/
structure SharedChecks (s : Readiness) : Prop where
  oneCommand : ∀ c c', s.commandRuns c → s.commandRuns c' → c = c'
  cancelled : ∀ c, s.cancelled c → ∀ i, ¬ s.waits i c
  joins : ∀ e (i : Nat) c, (s.step e).requests[i]? = some (.joined c) →
    s.requests[i]? = some (.joined c) ∨ Joinable (s.step e) c
  receives : ∀ e (i : Nat) c reason, (s.step e).requests[i]? = some (.answered c reason) →
    s.requests[i]? = some (.answered c reason) ∨ s.requests[i]? = some (.joined c)
  answered : ∀ (i : Nat) c reason, s.requests[i]? = some (.answered c reason) →
    ∃ check, s.checks[c]? = some check ∧ check.phase.doneClosed = true ∧ check.result = reason ∧
      check.cut = false
  ended : ∀ e c, s.published c → (s.step e).published c ∧
    ∀ i : Nat, (s.step e).requests[i]? = some (.joined c) → s.requests[i]? = some (.joined c)

theorem Sound.joins (sound : Sound s) (move : Move s s') (is : s'.requests[i]? = some (.joined c)) :
    s.requests[i]? = some (.joined c) ∨ Joinable s' c := by
  cases move with
  | stays => exact .inl is
  | arrives => exact .inl ((arrive_requests is).resolve_right (by simp))
  | passes _ _ unjoined _ =>
    exact .inl ((place_requests_some is).resolve_right fun new => unjoined c new.2)
  | joins _ own staying =>
    rcases place_requests_some is with was | ⟨rfl, same⟩
    · exact .inl was
    · obtain rfl := ReadyRequest.joined.inj same
      exact .inr (sound.joinable own staying)
  | starts _ none =>
    rcases place_requests_some is with was | ⟨rfl, same⟩
    · exact .inl was
    · obtain rfl := ReadyRequest.joined.inj same
      exact .inr ((sound.start none).joinable rfl (by simp [startReadinessCheck]))
  | receives | leaves => exact .inl ((place_requests_some is).resolve_right (by simp))
  | progresses => exact .inl is
  | publishes => exact .inl (publish_requests ▸ is)

theorem Sound.not_waits (sound : Sound s) (is : s.cancelled c) : ¬ s.waits i c := by
  rintro ⟨joined, opened⟩
  obtain ⟨check, has, cut⟩ := is
  have checked := sound.checks c check has
  rcases checked.cancelled cut with abandoned | finished
  · have none := countP_eq_zero.mp (checked.deserted abandoned) (.joined c) (mem_of_getElem? joined)
    simp [ReadyRequest.waitsFor] at none
  · simp [Readiness.closed, has, finished, CheckPhase.doneClosed] at opened

/-- In every interleaving: one status command at a time, no check cancelled
    while a request waits for it, answers only from checks joined before they
    ended, and no check joined after it ended. -/
theorem shared_readiness (events : List ReadyEvent) : SharedChecks (run events) := by
  have sound := sound_run events
  have own : ∀ c, (run events).commandRuns c → (run events).readyCheck = some c := by
    rintro c ⟨check, has, phase⟩
    exact (sound.checks c check has).current.mp (by rw [phase]; rfl)
  constructor
  · intro c c' first second
    exact some.inj ((own c first).symm.trans (own c' second))
  · exact fun c is i => sound.not_waits is
  · exact fun e i c => sound.joins (step_move e)
  · exact fun e i c reason => (step_move e).answered
  · intro i c reason is
    obtain ⟨check, has, closed, never, result⟩ := sound.requests i _ is
    refine ⟨check, has, closed, result, ?_⟩
    by_contra cut
    have abandoned := (sound.checks c check has).cut (by simpa using cut)
    rw [never] at abandoned
    cases abandoned
  · intro e c over_
    have after := (step_move e).published over_
    refine ⟨after, fun i is => (sound.joins (step_move e) is).resolve_right ?_⟩
    rintro ⟨check, has, running, -⟩
    obtain ⟨check', has', ended⟩ := after
    rw [some.inj (has'.symm.trans has), running] at ended
    cases ended

/-- One of two requests leaves, and the check goes on for the other. -/
example : (run [.arrive, .arrive, .enter 0, .enter 1, .startCommand 0, .expire 0, .leave 0,
    .endCommand 0,
    .finishRun 0 (.found { role := "master" }), .note 0, .publish 0, .log 0, .close 0,
      .receive 1]).requests =
    [.left, .answered 0 ""] := by decide +kernel

end Law
end Readiness
end InstanceManager
