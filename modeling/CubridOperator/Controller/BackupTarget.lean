import CubridOperator.Controller.HAStatus

/-!
Which member runs a backup: a standby only on evidence of this very reading, the
primary where it is asked for or as a fallback.
-/
namespace Controller
open Foundation List

inductive TargetPreference where
  | preferStandby
  | standbyOnly
  | primaryOnly
  deriving DecidableEq

structure TargetSelection where
  instanceName : String := ""
  role : CubridRole := ""
  fallbackUsed : Bool := false
  selected : Bool := false
  reason : String
  deriving DecidableEq

def reasonNoHealthyStandby : String := "NoHealthyStandby"
def reasonStandbySelected : String := "StandbySelected"
def reasonMasterFallbackSelected : String := "MasterFallbackSelected"
def reasonPrimaryLogEndNotRead : String := "PrimaryLogEndNotRead"
def reasonMasterFallbackPrimaryLogEndNotRead : String := "MasterFallbackPrimaryLogEndNotRead"

def primaryLogEndWait : Int := seconds 30

abbrev ReplicationHistory := String → Option InstanceReplication

def replicationHistory (instances : List InstanceStatus) : ReplicationHistory := fun m =>
  (entryOf instances m).bind (·.replication)

def authoritativeSlaves (members : List String) (obs : Observations) (now : Int) : List String :=
  members.filter fun m => obs.counts now m && decide ((obs.of m).role = roleSlave)

def copyGrewSinceRecentReading (prev : Option InstanceReplication) (r : ReplicationObservation)
    (now : Int) : Bool :=
  prev.any fun prev =>
    match prev.copiedEOF, prev.observedAt, r.copiedEOF with
    | some before, some t, some copied =>
      decide (prev.source = r.source) && decide (0 ≤ now - t ∧ now - t ≤ replicationStallWindow) &&
        logBefore before copied
    | _, _, _ => false

inductive StandbyVerdict where
  | ineligible
  /-- Only the end of the primary's own log is wanting. -/
  | logEndUnread
  | eligible (delayed : Int)
  deriving DecidableEq

def standbyVerdict (obs : Observations) (history : ReplicationHistory) (positions : Positions)
    (primary : String) (now : Int) (m : String) : StandbyVerdict :=
  match (obs.of m).replication with
  | none => .ineligible
  | some r =>
    if r.failCount > 0 ∨ r.source ≠ primary ∨ r.copiedEOF = none then .ineligible
    else
      let withEnd := withSourceLogEnd r obs now
      let next := nextReplication (history m) (some withEnd) (positions m) now
      if lasted (next.bind (·.stalledSince)) now ∨ lasted (next.bind (·.notReceivingSince)) now then
        .ineligible
      else if withEnd.sourceLogEnd = none ∧ !copyGrewSinceRecentReading (history m) r now then
        .logEndUnread
      else .eligible r.delayedPages

def StandbyVerdict.delayed : StandbyVerdict → Option Int
  | .eligible delayed => some delayed
  | _ => none

/-- The standbys a backup may be taken on, fewest waiting pages first, and
    whether one was left out for want of the log end alone. -/
def eligibleStandbys (members : List String) (obs : Observations) (history : ReplicationHistory)
    (positions : Positions) (res : PrimaryResolution) (now : Int) : List String × Bool :=
  if res.status ≠ .conditionTrue ∨ res.currentPrimary = "" then ([], false)
  else
    let verdict := standbyVerdict obs history positions res.currentPrimary now
    let slaves := authoritativeSlaves members obs now
    let candidates := slaves.filterMap fun m => (verdict m).delayed.map (m, ·)
    ((candidates.mergeSort fun a b => a.2 ≤ b.2).map (·.1), slaves.any (verdict · = .logEndUnread))

def onlyMember : List String → Option String
  | [only] => some only
  | _ => none

def selectBackupTarget (members : List String) (obs : Observations) (history : ReplicationHistory)
    (positions : Positions) (res : PrimaryResolution) (pref : TargetPreference)
    (single primaryLogEndWaitOver : Bool) (now : Int) : TargetSelection :=
  let (standbys, logEndUnread) := eligibleStandbys members obs history positions res now
  let primaryResolved := decide (res.status = .conditionTrue ∧ res.currentPrimary ≠ "")
  let standby (m : String) : TargetSelection :=
    { instanceName := m, role := roleSlave, selected := true, reason := reasonStandbySelected }
  let master (reason : String) : TargetSelection :=
    { instanceName := res.currentPrimary, role := roleMaster, fallbackUsed := true,
      selected := true, reason }
  match pref with
  | .standbyOnly =>
    match standbys with
    | [] => { reason := reasonNoHealthyStandby }
    | m :: _ => standby m
  | .primaryOnly =>
    if !primaryResolved then { reason := "PrimaryNotResolved" }
    else
      { instanceName := res.currentPrimary, role := roleMaster, selected := true,
        reason := "PrimarySelected" }
  | .preferStandby =>
    match standbys with
    | m :: _ => standby m
    | [] =>
      match (if single && !primaryResolved then onlyMember members else none) with
      | some only =>
        { instanceName := only, role := roleUnknown, selected := true,
          reason := "RoleUnknownSingleInstanceFallback" }
      | none =>
        if primaryResolved && logEndUnread && !primaryLogEndWaitOver then
          { reason := reasonPrimaryLogEndNotRead }
        else if primaryResolved && logEndUnread then master reasonMasterFallbackPrimaryLogEndNotRead
        else if primaryResolved then master reasonMasterFallbackSelected
        else { reason := "NoSafeTarget" }

def recordedTargetEligible (sel : TargetSelection) (members : List String) (obs : Observations)
    (res : PrimaryResolution) (single : Bool) (now : Int) : Bool :=
  if sel.role = roleSlave then decide (sel.instanceName ∈ authoritativeSlaves members obs now)
  else if sel.role = roleMaster then
    decide (res.status = .conditionTrue ∧ res.currentPrimary = sel.instanceName)
  else if sel.role = roleUnknown then single && decide (onlyMember members = some sel.instanceName)
  else false

section Members

variable {members : List String} {obs : Observations} {history : ReplicationHistory}
  {positions : Positions} {res : PrimaryResolution} {now : Int}

theorem eligibleStandbys_subset {m : String}
    (among : m ∈ (eligibleStandbys members obs history positions res now).1) : m ∈ members := by
  unfold eligibleStandbys at among
  split_ifs at among
  · cases among
  · simp only [mem_map, mem_mergeSort, mem_filterMap, Option.map_eq_some_iff] at among
    obtain ⟨_, ⟨slave, inside, delayed, -, rfl⟩, rfl⟩ := among
    exact mem_of_mem_filter inside

theorem selectBackupTarget_member {pref : TargetPreference} {single waitOver : Bool}
    (selected : (selectBackupTarget members obs history positions res pref single waitOver
      now).selected = true) :
    (selectBackupTarget members obs history positions res pref single waitOver now).instanceName ∈
    members ∨
      (selectBackupTarget members obs history positions res pref single waitOver now).instanceName ≠
      "" := by
  have subset : ∀ {m}, m ∈ (eligibleStandbys members obs history positions res now).1 →
      m ∈ members :=
    eligibleStandbys_subset
  unfold selectBackupTarget at selected ⊢
  generalize eligibleStandbys members obs history positions res now = found at selected subset ⊢
  obtain ⟨standbys, logEndUnread⟩ := found
  cases pref with
  | standbyOnly =>
    cases standbys with
    | nil => cases selected
    | cons m rest => exact .inl (subset mem_cons_self)
  | primaryOnly =>
    by_cases resolved : res.status = .conditionTrue ∧ res.currentPrimary ≠ ""
    · simp [resolved]
    · simp [resolved] at selected
  | preferStandby =>
    cases standbys with
    | cons m rest => exact .inl (subset mem_cons_self)
    | nil =>
      by_cases resolved : res.status = .conditionTrue ∧ res.currentPrimary ≠ ""
      · right
        cases logEndUnread <;> cases waitOver <;> simp_all
      · left
        cases single with
        | false => simp [resolved] at selected
        | true =>
          simp only [resolved, decide_false, Bool.not_false, Bool.and_true, if_true, Bool.false_and,
            Bool.false_eq_true, if_false] at selected ⊢
          cases only : onlyMember members with
          | none => simp [only] at selected
          | some m =>
            match members, only with
            | [m], rfl => exact mem_singleton_self m

end Members
end Controller
