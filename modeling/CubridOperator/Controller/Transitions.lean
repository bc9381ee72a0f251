import CubridOperator.Controller.Bootstrap
import Mathlib.Algebra.GroupWithZero.Nat

/-!
What a reconcile tells of a change of the cluster's state: the transitions
between two statuses, and the Events.
-/
namespace Controller
open Foundation InstanceManager List

abbrev CubridClusterStatus := ClusterStatus BootstrapRecords

structure Transition where
  event : String
  reason : String := ""
  warning : Bool := false
  message : String
  fields : List (String × String) := []
  deriving DecidableEq

def ConditionType.text : ConditionType → String
  | .ready => "Ready"
  | .progressing => "Progressing"
  | .haReady => "HAReady"
  | .primaryResolved => "PrimaryResolved"
  | .replicationHealthy => "ReplicationHealthy"
  | .brokerReady => "BrokerReady"
  | .writeEndpointReady => "WriteEndpointReady"
  | .readEndpointReady => "ReadEndpointReady"
  | .routingReady => "RoutingReady"
  | .bootstrapReady => "BootstrapReady"
  | .updating => "Updating"
  | .memberPlacement => "MemberPlacement"

def statusText : ConditionStatus → String
  | .conditionTrue => "True"
  | .conditionFalse => "False"
  | .conditionUnknown => "Unknown"

def operationText : Option OperationID → String
  | none => ""
  | some id => toString id

def decisive (c : Option (Condition ConditionType)) : Bool := c.any (·.status ≠ .conditionUnknown)

def changedMessage (now : Condition ConditionType) : String :=
  "Condition " ++ now.type.text ++ " changed to " ++ statusText now.status ++ " (" ++
  now.reason ++ ")"

def primaryTransitions (before after : CubridClusterStatus) : List Transition :=
  match after.condition .primaryResolved with
  | none => []
  | some now =>
    let old := before.condition .primaryResolved
    let oldReason := (old.map (·.reason)).getD ""
    let was := before.isTrue .primaryResolved
    let is := decide (now.status = .conditionTrue)
    -- Entering this reason is reported under its own name, whatever was before.
    let refused : Transition :=
      { event := "instance_manager_token_refused", reason := reasonTokenRefused, warning := true
        message := "Primary is not resolved: " ++ now.message
        fields := [("oldReason", oldReason), ("reason", now.reason)] }
    if was ∧ is ∧ before.currentPrimary ≠ after.currentPrimary then
      [{ event := "primary_changed", reason := "PrimaryChanged"
         message := "Primary changed from " ++ before.currentPrimary ++ " to " ++
           after.currentPrimary
         fields := [("oldPrimary", before.currentPrimary), ("newPrimary", after.currentPrimary)] }]
    else if was ∧ !is then
      { event := "primary_unresolved", reason := "PrimaryUnresolved", warning := true
        message := "Primary is no longer resolved (" ++ now.reason ++ "); it was " ++
          before.currentPrimary
        fields := [("oldPrimary", before.currentPrimary), ("reason", now.reason)] } ::
      (if now.reason = reasonTokenRefused then [refused] else [])
    else if !was ∧ is then
      [{ event := "primary_resolved", reason := "PrimaryResolved"
         message := "Primary resolved: " ++ after.currentPrimary
         fields := [("newPrimary", after.currentPrimary)] }]
    else if !is ∧ old.all (fun old => old.reason ≠ now.reason ∨ old.status ≠ now.status) then
      if now.reason = reasonTokenRefused then [refused]
      else
        [{ event := "condition_changed", message := changedMessage now
           fields :=
             [("condition", now.type.text), ("oldReason", oldReason),
               ("newStatus", statusText now.status),
             ("reason", now.reason)] }]
    else []

def replicationTransitions (before after : CubridClusterStatus) : List Transition :=
  match before.condition .replicationHealthy, after.condition .replicationHealthy with
  | some was, some now =>
    if !decisive (some was) ∨ !decisive (some now) ∨ was.status = now.status ∧
      was.reason = now.reason then []
    else if now.status = .conditionTrue then
      [{ event := "replication_recovered", reason := "ReplicationRecovered"
         message := "Replication recovered: " ++ now.message }]
    else
      [{ event := if now.reason = reasonApplyFailures then "apply_failures"
           else if now.reason = reasonLogCopyStalled then
             "log_copy_stalled" else "replication_stalled"
         reason := now.reason, warning := true
         message := "Replication is not healthy: " ++ now.message
         fields := [("reason", now.reason)] }]
  | _, _ => []

def conditionTransitions (before : CubridClusterStatus) (now : Condition ConditionType) :
    List Transition :=
  let was := before.condition now.type
  if now.type = .primaryResolved then []
  else if was.any (fun was => was.status = now.status ∧ was.reason = now.reason) then []
  else if now.type = .replicationHealthy ∧ decisive was ∧ decisive (some now) then []
  else
    [{ event := "condition_changed", message := changedMessage now
       fields :=
         [("condition", now.type.text),
           ("oldStatus", ((was.map (·.status)).map statusText).getD ""),
         ("oldReason", (was.map (·.reason)).getD ""), ("newStatus", statusText now.status),
         ("reason", now.reason)] }]

def UnfinishedDatabaseState.text : UnfinishedDatabaseState → String
  | .waitingForOperation => "WaitingForOperation"
  | .refused => "Refused"

def unfinishedTransitions (member : String) (was now : Option InstanceUnfinishedDatabase) :
    List Transition :=
  match was, now with
  | none, none => []
  | some was, none =>
    [{ event := "member_database_unfinished_cleared"
       message := "Member " ++ member ++ " no longer reports database " ++ was.database ++
         " as unfinished"
       fields := [("member", member), ("database", was.database), ("operationID", was.operation)] }]
  | was, some now =>
    if was.any (fun was => was.database = now.database ∧ was.operation = now.operation ∧
      was.state = now.state) then []
    else
      let marker := "the marker of an unfinished createdb or restoredb" ++
        (if now.operation ≠ "" then " (operation " ++ now.operation ++ ")" else "")
      let carries := "Member " ++ member ++ " does not start database " ++ now.database ++
        ": it carries " ++ marker
      let fields := [("member", member), ("database", now.database), ("operationID", now.operation),
        ("state", now.state.text)]
      if now.state = .waitingForOperation then
        [{ event := "member_database_unfinished", reason := "UnfinishedDatabaseWaiting"
           message := carries ++ ", which the Instance Manager takes up: " ++ now.message, fields }]
      else
        [{ event := "member_database_unfinished", reason := "UnfinishedDatabaseRefused"
           warning := true
           message := carries ++ ", which no operation of the Instance Manager takes up now: " ++
             now.message, fields }]

def stallTransitions (member : String) (was now : Option InstanceReplication) : List Transition :=
  match was.bind (·.stalledSince), now, now.bind (·.stalledSince) with
  | none, some r, some _ =>
    [{ event := "member_replication_stalled", warning := true
       message := "Member " ++ member ++
         " has log pages waiting and applied nothing since the last observation"
       fields :=
         [("member", member), ("delayedPages", toString r.delayedPages), ("source", r.source)] }]
  | some _, _, none =>
    [{ event := "member_replication_resumed"
       message := "Member " ++ member ++ " applies the master's log again",
       fields := [("member", member)] }]
  | _, _, _ => []

def copyTransitions (member : String) (was now : Option InstanceReplication) : List Transition :=
  match was.bind (·.notReceivingSince), now, now.bind (·.notReceivingSince) with
  | none, some r, some _ =>
    [{ event := "member_log_copy_stalled", warning := true
       message := "Member " ++ member ++
         " has log pages waiting to be copied and its copy of the master's log " ++
         "did not grow since the last observation"
       fields := [("member", member), ("copyDelayedPages", toString r.copyDelayedPages),
         ("source", r.source)] }]
  | some _, _, none =>
    [{ event := "member_log_copy_resumed"
       message := "Member " ++ member ++ " receives the master's log again",
       fields := [("member", member)] }]
  | _, _, _ => []

def memberTransitions (before : CubridClusterStatus) (now : InstanceStatus) : List Transition :=
  let was := entryOf before.instances now.name
  let oldRole := (was.map (·.role)).getD ""
  -- A member first listed without a known role has changed no role.
  let firstUnknown := was.isNone && now.role = roleUnknown
  (if (was.isNone ∨ oldRole ≠ now.role) ∧ !firstUnknown then
    [{ event := "member_role_changed"
       message := "Member " ++ now.name ++ " changed role from " ++ quoted oldRole ++ " to " ++
         quoted now.role
       fields := [("member", now.name), ("oldRole", oldRole), ("newRole", now.role)] }]
    else []) ++
  stallTransitions now.name (was.bind (·.replication)) now.replication ++
  copyTransitions now.name (was.bind (·.replication)) now.replication ++
  unfinishedTransitions now.name (was.bind (·.unfinishedDatabase)) now.unfinishedDatabase

def phaseTransitions (after : CubridClusterStatus) (now : BootstrapStatus) : List Transition :=
  let fields := [("member", now.targetMember), ("operationID", operationText now.operationID)]
  match now.phase with
  | .restoring =>
    [{ event := "restore_running", reason := "RestoreRunning"
       message := "The backup is downloaded; restoredb is running on " ++
         now.targetMember, fields }]
  | .complete =>
    [{ event := "restore_completed", reason := "RestoreCompleted"
       message := "Recovery from " ++ now.manifestURI ++ " completed", fields }]
  | .failed =>
    [{ event := "restore_failed", reason := "RestoreFailed", warning := true
       message := "Recovery from " ++ now.manifestURI ++ " failed" ++
         ((after.condition .bootstrapReady).map fun ready => ": " ++ ready.message).getD
           "", fields }]
  | _ => []

def recoveryTransitions (before after : CubridClusterStatus) : List Transition :=
  match after.rest.bootstrap with
  | none => []
  | some now =>
    let was := before.rest.bootstrap
    let oldOperation := was.bind (·.operationID)
    (if now.operationID ≠ none ∧ now.operationID ≠ oldOperation then
      [{ event := "restore_started", reason := "RestoreStarted"
         message := "Restore of " ++ now.manifestURI ++ " started on " ++ now.targetMember ++
           " (attempt " ++
           toString (now.attempts + 1) ++ ")"
         fields := [("member", now.targetMember), ("operationID", operationText now.operationID)] }]
      else []) ++
    if was.map (·.phase) = some now.phase then [] else phaseTransitions after now

def transitions (before after : CubridClusterStatus) : List Transition :=
  primaryTransitions before after ++ replicationTransitions before after ++
  recoveryTransitions before after ++
    after.conditions.flatMap (conditionTransitions before) ++ after.instances.flatMap
      (memberTransitions before)

section Unchanged

variable {s : CubridClusterStatus}

/-- The API server keeps one condition of a type and one entry of a member. -/
def ClusterStatus.Keyed {ρ : Type} (s : ClusterStatus ρ) : Prop :=
  (s.conditions.map (·.type)).Nodup ∧ (s.instances.map (·.name)).Nodup

instance {ρ : Type} (s : ClusterStatus ρ) : Decidable s.Keyed := inferInstanceAs (Decidable (_ ∧ _))

theorem find_of_nodup {α β : Type} [DecidableEq β] {f : α → β} {xs : List α} {x : α}
    (keys : (xs.map f).Nodup) (member : x ∈ xs) : xs.find? (fun y => f y = f x) = some x := by
  induction xs with
  | nil => cases member
  | cons first rest ih =>
    rw [map_cons, nodup_cons] at keys
    rcases mem_cons.mp member with rfl | later
    · simp
    · have other : f first ≠ f x := fun same => keys.1 (same ▸ mem_map_of_mem later)
      rw [find?_cons_of_neg (by simpa using other)]
      exact ih keys.2 later

theorem primaryTransitions_self (s : CubridClusterStatus) : primaryTransitions s s = [] := by
  unfold primaryTransitions
  cases found : s.condition .primaryResolved with
  | none => rfl
  | some now =>
    by_cases resolved : now.status = .conditionTrue
    · simp [ClusterStatus.isTrue_eq, found, resolved]
    · simp [ClusterStatus.isTrue_eq, found, resolved]

theorem replicationTransitions_self (s : CubridClusterStatus) :
    replicationTransitions s s = [] := by
  unfold replicationTransitions
  cases s.condition .replicationHealthy <;> simp

theorem recoveryTransitions_self (s : CubridClusterStatus) : recoveryTransitions s s = [] := by
  unfold recoveryTransitions
  cases s.rest.bootstrap <;> simp

theorem conditionTransitions_self (keyed : s.Keyed) {now : Condition ConditionType}
    (member : now ∈ s.conditions) : conditionTransitions s now = [] := by
  have found : s.condition now.type = some now := find_of_nodup keyed.1 member
  simp [conditionTransitions, found]

theorem memberTransitions_self (keyed : s.Keyed) {now : InstanceStatus}
    (member : now ∈ s.instances) : memberTransitions s now = [] := by
  have keys : ((s.instances.reverse).map (·.name)).Nodup := by
    rw [map_reverse, nodup_reverse]
    exact keyed.2
  have found : entryOf s.instances now.name = some now :=
    find_of_nodup keys (mem_reverse.mpr member)
  have stall : stallTransitions now.name now.replication now.replication = [] := by
    unfold stallTransitions
    cases now.replication with
    | none => rfl
    | some r => cases stalled : r.stalledSince <;> simp [stalled]
  have copy : copyTransitions now.name now.replication now.replication = [] := by
    unfold copyTransitions
    cases now.replication with
    | none => rfl
    | some r => cases stalled : r.notReceivingSince <;> simp [stalled]
  have unfinished : unfinishedTransitions now.name now.unfinishedDatabase
      now.unfinishedDatabase = [] := by
    unfold unfinishedTransitions
    cases now.unfinishedDatabase <;> simp
  simp [memberTransitions, found, stall, copy, unfinished]

theorem transitions_self (keyed : s.Keyed) : transitions s s = [] := by
  have conditions : s.conditions.flatMap (conditionTransitions s) = [] :=
    flatMap_eq_nil_iff.mpr fun _ => conditionTransitions_self keyed
  have members : s.instances.flatMap (memberTransitions s) = [] :=
    flatMap_eq_nil_iff.mpr fun _ => memberTransitions_self keyed
  rw [transitions, primaryTransitions_self, replicationTransitions_self, recoveryTransitions_self,
    conditions, members]
  rfl

end Unchanged

structure PendingEvent where
  warning : Bool
  reason : String
  message : String
  deriving DecidableEq

structure ReconcileReport where
  before : CubridClusterStatus
  statusWritten : Bool := false
  events : List PendingEvent := []

/-- The operator as far as it tells of one cluster: the running report, the
    Events recorded and the transitions reported. -/
structure Teller where
  report : Option ReconcileReport := none
  recorded : List PendingEvent := []
  reported : List Transition := []

namespace Teller

variable (op : Teller)

def beginReport (status : CubridClusterStatus) : Teller :=
  { op with report := some { before := status } }

def statusEvent (e : PendingEvent) : Teller :=
  match op.report with
  | some report => { op with report := some { report with events := report.events ++ [e] } }
  | none => { op with recorded := op.recorded ++ [e] }

def noteWrite (ok : Bool) : Teller :=
  { op with report := op.report.map ({ · with statusWritten := ok }) }

def reportTransitions (before status : CubridClusterStatus) : Teller :=
  { op with reported := op.reported ++ transitions before status }

/-- What was kept is recorded when the status was written, and what changed is
    reported; otherwise nothing is. -/
def endReport (status : CubridClusterStatus) : Teller :=
  match op.report with
  | none => op
  | some report =>
    let op := { op with report := none }
    if !report.statusWritten then op
    else { op with recorded := op.recorded ++ report.events }.reportTransitions report.before status

end Teller

inductive WriteFate where
  | answered
  | unanswered
  | failed
  | conflict
  deriving DecidableEq

/-- One reconcile: the status that it reads, the Events that it keeps, the
    status that it comes to, and the write of it. -/
structure Attempt where
  read : Nat
  events : List PendingEvent := []
  status : CubridClusterStatus
  write : Option WriteFate
  now : Int := 0

/-- The statuses that were stored, the last one first; the Events kept for one
    of them; and what was stored by writes whose answers were lost. -/
structure Telling where
  versions : List CubridClusterStatus
  teller : Teller := {}
  kept : List PendingEvent := []
  unanswered : List (List Transition × List PendingEvent) := []

namespace Telling

def current (t : Telling) : Option CubridClusterStatus := t.versions.head?

def version (t : Telling) (n : Nat) : Option CubridClusterStatus := t.versions.reverse[n]?

def persisted (d : ClusterDefinition) (s : CubridClusterStatus) : CubridClusterStatus :=
  ({ d with status := s } : CubridCluster).persisted.status

def applies (t : Telling) (a : Attempt) (stored : CubridClusterStatus) : Bool :=
  (a.write = some .answered ∨ a.write = some .unanswered) ∧ a.read + 1 = t.versions.length ∧
  stored.Keyed

/-- A status that is the stored one already leaves nothing to write. -/
def store (t : Telling) (stored : CubridClusterStatus) : List CubridClusterStatus :=
  if t.current = some stored then t.versions else stored :: t.versions

def reconcile (d : ClusterDefinition) (t : Telling) (a : Attempt) : Telling :=
  match t.version a.read with
  | none => t
  | some before =>
    let op := a.events.foldl Teller.statusEvent (t.teller.beginReport before)
    let stored := persisted d (holdObservationTimes before a.status a.now)
    if !t.applies a stored then { t with teller := (op.noteWrite false).endReport a.status }
    else
      let answered := decide (a.write = some .answered)
      { versions := t.store stored
        teller := (op.noteWrite answered).endReport stored
        kept := t.kept ++ a.events
        unanswered := if answered then t.unanswered
          else (transitions before stored, a.events) :: t.unanswered }

def created : Telling := { versions := [{ rest := {} }] }

def run (d : ClusterDefinition) (attempts : List Attempt) : Telling :=
  runEvents (reconcile d) created attempts

def changes : List CubridClusterStatus → List Transition
  | after :: before :: older => changes (before :: older) ++ transitions before after
  | _ => []

end Telling

section Telescoping

variable {d : ClusterDefinition} {t : Telling} {a : Attempt}

namespace Teller

variable {op : Teller} {report : ReconcileReport}

theorem statusEvents (is : op.report = some report) (events : List PendingEvent) :
    events.foldl statusEvent op = { op with
      report := some { report with events := report.events ++ events } } := by
  induction events generalizing op report with
  | nil => simp [← is]
  | cons e events ih =>
    have kept : op.statusEvent e = { op with
        report := some { report with events := report.events ++ [e] } } := by
      simp [statusEvent, is]
    rw [foldl_cons, kept, ih rfl]
    simp

/-- A reconcile whose write is known to have succeeded tells what it kept and
    what changed; any other one tells nothing. -/
theorem told (op : Teller) (before status : CubridClusterStatus) (events : List PendingEvent)
    (ok : Bool) :
    ((events.foldl statusEvent (op.beginReport before)).noteWrite ok).endReport status =
      { report := none
        recorded := op.recorded ++ if ok then events else []
        reported := op.reported ++ if ok then transitions before status else [] } := by
  rw [statusEvents rfl]
  cases ok <;> simp [noteWrite, endReport, beginReport, reportTransitions]

end Teller

namespace Telling

/-- A reconcile tells and stores nothing, or stores a status made from the
    current one and tells of it if the write is answered. -/
theorem reconcile_cases (d : ClusterDefinition) (t : Telling) (a : Attempt) :
    ((t.reconcile d a).versions = t.versions ∧ (t.reconcile d a).kept = t.kept ∧
      (t.reconcile d a).unanswered = t.unanswered ∧ (t.reconcile d a).teller.recorded =
      t.teller.recorded ∧ (t.reconcile d a).teller.reported = t.teller.reported) ∨
    ∃ before older stored, ∃ answered : Bool, t.versions = before :: older ∧ stored.Keyed ∧
      (answered = false → a.write = some .unanswered) ∧
      (t.reconcile d a).versions = t.store stored ∧ (t.reconcile d a).kept = t.kept ++ a.events ∧
      (t.reconcile d a).unanswered =
        (if answered then t.unanswered else (transitions before stored, a.events) :: t.unanswered) ∧
      (t.reconcile d a).teller.recorded = t.teller.recorded ++ (if answered then a.events else []) ∧
      (t.reconcile d a).teller.reported =
        t.teller.reported ++ (if answered then transitions before stored else []) := by
  unfold reconcile
  cases read : t.version a.read with
  | none => exact .inl ⟨rfl, rfl, rfl, rfl, rfl⟩
  | some before =>
    dsimp only
    rw [Teller.told, Teller.told]
    split
    · exact .inl ⟨rfl, rfl, rfl, by simp, by simp⟩
    · rename_i applied
      simp only [applies, Bool.not_eq_true', decide_eq_false_iff_not, not_not] at applied
      obtain ⟨fate, current, keyed⟩ := applied
      obtain ⟨older, versions⟩ : ∃ older, t.versions = before :: older := by
        cases is : t.versions with
        | nil => simp [version, is] at read
        | cons newest older =>
          have last : a.read = older.length := by simpa [is] using current
          simp [version, is, last] at read
          exact ⟨older, by rw [read]⟩
      exact .inr ⟨before, older, _, decide (a.write = some .answered), versions, keyed,
        fun lost => fate.resolve_left (of_decide_eq_false lost), rfl, rfl, by simp, rfl, rfl⟩

/-- What was told is among what was stored, and what is missing was stored by
    writes whose answers were lost. -/
structure Told (t : Telling) : Prop where
  keyed : ∀ s ∈ t.versions, s.Keyed
  reported : t.teller.reported.Sublist (changes t.versions)
  recorded : t.teller.recorded.Sublist t.kept
  changes : (changes t.versions).length =
    t.teller.reported.length + (t.unanswered.map fun lost => lost.1.length).sum
  kept : t.kept.length = t.teller.recorded.length + (t.unanswered.map fun lost => lost.2.length).sum

theorem changes_store {before stored : CubridClusterStatus} {older : List CubridClusterStatus}
    (versions : t.versions = before :: older) (keyed : stored.Keyed) :
    Telling.changes (t.store stored) = Telling.changes t.versions ++ transitions before stored := by
  unfold store current
  rw [versions]
  split
  · rename_i same
    obtain rfl := Option.some.inj same
    rw [transitions_self keyed, append_nil]
  · rfl

theorem Told.reconcile (told : t.Told) (a : Attempt) : (t.reconcile d a).Told := by
  rcases reconcile_cases d t a with ⟨versions, kept, lost, recorded, reported⟩ |
    ⟨before, older, stored, answered, current, keyed, -, versions, kept, lost, recorded, reported⟩
  · constructor
    · rw [versions]
      exact told.keyed
    · rw [versions, reported]
      exact told.reported
    · rw [kept, recorded]
      exact told.recorded
    · rw [versions, reported, lost]
      exact told.changes
    · rw [kept, recorded, lost]
      exact told.kept
  · have lengths := told.changes
    have events := told.kept
    constructor
    · rw [versions]
      intro s member
      unfold store at member
      split at member
      · exact told.keyed s member
      · rcases mem_cons.mp member with rfl | before
        · exact keyed
        · exact told.keyed s before
    · rw [versions, reported, changes_store current keyed]
      cases answered with
      | true => exact told.reported.append (List.Sublist.refl _)
      | false => exact told.reported.append (nil_sublist _)
    · rw [kept, recorded]
      cases answered with
      | true => exact told.recorded.append (List.Sublist.refl _)
      | false => exact told.recorded.append (nil_sublist _)
    · rw [versions, reported, lost, changes_store current keyed, length_append, length_append]
      cases answered with
      | true | false => simp; omega
    · rw [kept, recorded, lost, length_append, length_append]
      cases answered with
      | true | false => simp; omega

theorem run_told (d : ClusterDefinition) (attempts : List Attempt) : (run d attempts).Told := by
  refine runEvents_kept _ (fun t a told => told.reconcile a) attempts ?_
  constructor
  · intro s member
    obtain rfl := mem_singleton.mp member
    decide
  · exact List.Sublist.refl _
  · exact List.Sublist.refl _
  · rfl
  · rfl

theorem run_unanswered {attempts : List Attempt}
    (answered : ∀ a ∈ attempts, a.write ≠ some .unanswered) : (run d attempts).unanswered = [] := by
  induction attempts using List.reverseRecOn with
  | nil => rfl
  | append_singleton attempts a ih =>
    rw [run, runEvents_append]
    change (reconcile d (run d attempts) a).unanswered = []
    have before := ih fun a inside => answered a (mem_append_left _ inside)
    rcases reconcile_cases d (run d attempts) a with ⟨-, -, lost, -⟩ | ⟨_, _, _, known, -, -, fate,
      -, -, lost, -⟩
    · rw [lost, before]
    · cases known with
      | true => rw [lost, if_pos rfl, before]
      | false => exact absurd (fate rfl) (answered a (by simp))

theorem sum_lengths_eq_zero_iff {α β : Type} (f : α → List β) (xs : List α) :
    (xs.map fun x => (f x).length).sum = 0 ↔ ∀ x ∈ xs, f x = [] := by
  simp [List.sum_eq_zero_iff_forall_eq_nat]

/-- What is reported and recorded is part of what was stored, each once and in
    order; it is all of it exactly if nothing to tell was lost with the answer
    to a write, so wherever no answer is lost. -/
theorem told_exactly_iff (d : ClusterDefinition) (attempts : List Attempt) :
    let t := run d attempts
    (t.teller.reported.Sublist (changes t.versions) ∧ t.teller.recorded.Sublist t.kept) ∧
      ((t.teller.reported = changes t.versions ∧ t.teller.recorded = t.kept) ↔
        ∀ lost ∈ t.unanswered, lost.1 = [] ∧ lost.2 = []) ∧
      ((∀ a ∈ attempts, a.write ≠ some .unanswered) →
        t.teller.reported = changes t.versions ∧ t.teller.recorded = t.kept) := by
  intro t
  have told : t.Told := run_told d attempts
  have lengths := told.changes
  have events := told.kept
  have all : (∀ lost ∈ t.unanswered, lost.1 = [] ∧ lost.2 = []) →
      t.teller.reported = changes t.versions ∧ t.teller.recorded = t.kept := by
    intro none
    have transitions := (sum_lengths_eq_zero_iff (·.1) t.unanswered).mpr fun lost member =>
      (none lost member).1
    have kept := (sum_lengths_eq_zero_iff (·.2) t.unanswered).mpr fun lost member =>
      (none lost member).2
    exact ⟨told.reported.eq_of_length (by omega), told.recorded.eq_of_length (by omega)⟩
  refine ⟨⟨told.reported, told.recorded⟩, ⟨?_, all⟩, fun answered => all ?_⟩
  · rintro ⟨reported, recorded⟩ lost member
    rw [reported] at lengths
    rw [recorded] at events
    have transitions := (sum_lengths_eq_zero_iff (·.1) t.unanswered).mp (by omega)
    have kept := (sum_lengths_eq_zero_iff (·.2) t.unanswered).mp (by omega)
    exact ⟨transitions lost member, kept lost member⟩
  · intro lost member
    rw [show t.unanswered = [] from run_unanswered answered] at member
    cases member

end Telling
end Telescoping

def resolvedStatus : CubridClusterStatus :=
  { currentPrimary := "c-0", rest := {}
    conditions :=
      [⟨.primaryResolved, .conditionTrue, "PrimaryResolved", "single primary resolved: c-0", 1, 0⟩]
        }

def demoDefinition : ClusterDefinition :=
  { name := "c", uid := "u",
    spec := { version := "11.4", databases := ["demo"], promotableMembers := 3
              highAvailability := true } }

/-- The first reconcile resolves the primary and the answer to its write is
    lost; the second one finds nothing new. -/
def unansweredWrite : List Attempt :=
  [{ read := 0, status := resolvedStatus, write := some .unanswered },
    { read := 1, status := resolvedStatus, write := some .answered }]

/-- The answer comes, and a later reconcile that read the status before is refused. -/
def answeredWrite : List Attempt :=
  [{ read := 0, status := resolvedStatus, write := some .answered },
    { read := 0, status := resolvedStatus, write := some .answered }]

theorem answered_write_reported :
    (Telling.run demoDefinition answeredWrite).teller.reported.map (·.event) =
    ["primary_resolved"] := by
  rw [((Telling.told_exactly_iff demoDefinition answeredWrite).2.2 (by decide)).1]
  decide +kernel

theorem lost_answer_unreported :
    (Telling.run demoDefinition unansweredWrite).teller.reported = [] ∧
      (Telling.changes (Telling.run demoDefinition unansweredWrite).versions).map (·.event) =
      ["primary_resolved"] := by
  decide +kernel

end Controller
