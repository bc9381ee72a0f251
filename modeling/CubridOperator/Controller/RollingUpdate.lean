import CubridOperator.Controller.HeldReadiness
import CubridOperator.InstanceManager.RestoreRequest
import Mathlib.Data.List.Nodup

/-!
The update of the Pods of an HA cluster: the version guard, the plan over the
outdated slaves, the recorded baseline.
-/
namespace Controller
open Foundation List Option Nat
open InstanceManager (engineSeries)

section Guard

structure UpdateStatus where
  desiredRevision : String
  currentRevision : String
  engineVersion : String
  deriving DecidableEq

structure UpdateRecords where
  observedEngineVersion : String := ""
  update : Option UpdateStatus := none
  deriving DecidableEq

inductive UpdateClass where
  | unchanged
  | engineUpgradeBlocked
  | unverifiable
  deriving DecidableEq

def classifyEngineChange (desired observed : String) : UpdateClass :=
  if engineSeries desired = "" then .unverifiable
  else if observed = "" then .unchanged
  else if engineSeries observed = "" then .unverifiable
  else if engineSeries desired ≠ engineSeries observed then .engineUpgradeBlocked
  else .unchanged

/-- The loop over the members; `version` is the one that those before agree on. -/
def agreedVersion : String → List InstanceStatus → Option String
  | version, [] => some version
  | version, inst :: rest =>
    if inst.observedEngineVersion = "" then none
    else if version = "" then agreedVersion inst.observedEngineVersion rest
    else if version ≠ inst.observedEngineVersion then none
    else agreedVersion version rest

def agreedEngineVersion (instances : List InstanceStatus) (expected : Nat) : Option String :=
  if expected = 0 ∨ instances.length < expected then none else agreedVersion "" instances

structure Refusal where
  reason : String
  message : String
  deriving DecidableEq

def firstMismatch (baseline : String) : List InstanceStatus → Option Refusal
  | [] => none
  | inst :: rest =>
    if inst.observedEngineVersion = "" then
      some ⟨"UpdateBlockedEngineVersionUnknown",
        "member " ++ inst.name ++ " has not reported its engine version in a fresh observation"⟩
    else if engineSeries inst.observedEngineVersion ≠ engineSeries baseline then
      some ⟨"UpdateBlockedMixedEngineVersions",
        "member " ++ inst.name ++ " runs engine " ++ inst.observedEngineVersion ++
        ", the cluster's baseline is " ++
          baseline⟩
    else firstMismatch baseline rest

def membersMatchBaseline (instances : List InstanceStatus) (expected : Nat) (baseline : String) :
    Option Refusal :=
  match firstMismatch baseline instances with
  | some refusal => some refusal
  | none =>
    if instances.length < expected then
      some ⟨"UpdateBlockedEngineVersionUnknown",
        toString instances.length ++ " of " ++ toString expected ++
        " members have reported an engine version"⟩
    else none

structure GuardOutcome where
  records : UpdateRecords
  verdict : Option Verdict := none
  proceed : Bool := false

def blocked (records : UpdateRecords) (reason message : String) : GuardOutcome :=
  { records, verdict := some ⟨.conditionFalse, reason, message⟩ }

def reconcileUpdateGuard (instances : List InstanceStatus) (expected : Nat) (specVersion : String)
    (records : UpdateRecords) : GuardOutcome :=
  let observed :=
    if records.observedEngineVersion = "" then agreedEngineVersion instances expected
    else some records.observedEngineVersion
  match observed with
  | none => blocked records "UpdateBlockedEngineVersionNotObserved"
      "not every member has reported the same engine version yet; no update is carried out"
  | some observed =>
    let records := { records with observedEngineVersion := observed }
    match membersMatchBaseline instances expected observed with
    | some refusal => blocked records refusal.reason (refusal.message ++ " (no pod deletion)")
    | none =>
      match classifyEngineChange specVersion observed with
      | .engineUpgradeBlocked => blocked records "UpdateBlockedEngineUpgrade"
          ("desired engine version " ++ specVersion ++ " differs from observed " ++ observed ++
            "; engine upgrades are out of MVP scope (no pod deletion)")
      | .unverifiable => blocked records "UpdateBlockedUnverifiableEngineVersion"
          "desired engine version is missing or unverifiable (no pod deletion)"
      | .unchanged => { records, proceed := true }

variable {instances : List InstanceStatus} {expected : Nat} {version v baseline : String}
  {records : UpdateRecords}

theorem agreedVersion_some (agreed : agreedVersion version instances = some v) :
    (version ≠ "" → v = version) ∧ ∀ inst ∈ instances, inst.observedEngineVersion = v ∧ v ≠ "" := by
  induction instances generalizing version with
  | nil =>
    obtain rfl := some.inj agreed
    simp
  | cons inst rest ih =>
    unfold agreedVersion at agreed
    split_ifs at agreed with silent first differs
    · obtain ⟨same, others⟩ := ih agreed
      have is := same silent
      refine ⟨fun known => absurd first known, ?_⟩
      rw [forall_mem_cons]
      exact ⟨⟨is.symm, is ▸ silent⟩, others⟩
    · obtain ⟨same, others⟩ := ih agreed
      have is := same first
      have equal : version = inst.observedEngineVersion := not_not.mp differs
      refine ⟨same, ?_⟩
      rw [forall_mem_cons]
      exact ⟨⟨(is.trans equal).symm, is ▸ first⟩, others⟩

theorem agreedEngineVersion_some (agreed : agreedEngineVersion instances expected = some v) :
    0 < expected ∧ expected ≤ instances.length ∧ ∀ inst ∈ instances, inst.observedEngineVersion =
      v ∧ v ≠ "" := by
  unfold agreedEngineVersion at agreed
  split_ifs at agreed with few
  obtain ⟨some_, enough⟩ := not_or.mp few
  exact ⟨Nat.pos_of_ne_zero some_, Nat.le_of_not_lt enough, (agreedVersion_some agreed).2⟩

theorem firstMismatch_none (none : firstMismatch baseline instances = none) :
    ∀ inst ∈ instances, inst.observedEngineVersion ≠ "" ∧
      engineSeries inst.observedEngineVersion = engineSeries baseline := by
  induction instances with
  | nil => simp
  | cons inst rest ih =>
    unfold firstMismatch at none
    split_ifs at none with silent other
    rw [forall_mem_cons]
    exact ⟨⟨silent, not_not.mp other⟩, ih none⟩

theorem membersMatchBaseline_none (none : membersMatchBaseline instances expected baseline = none) :
    expected ≤ instances.length ∧ ∀ inst ∈ instances, inst.observedEngineVersion ≠ "" ∧
      engineSeries inst.observedEngineVersion = engineSeries baseline := by
  unfold membersMatchBaseline at none
  split at none
  · cases none
  · rename_i matched
    split_ifs at none with few
    exact ⟨Nat.le_of_not_lt few, firstMismatch_none matched⟩

theorem classifyEngineChange_unchanged {desired observed : String} (known : observed ≠ "")
    (same : classifyEngineChange desired observed = .unchanged) :
    engineSeries desired ≠ "" ∧ engineSeries desired = engineSeries observed := by
  unfold classifyEngineChange at same
  rw [if_neg known] at same
  split_ifs at same with unnamed unread differs
  exact ⟨unnamed, not_not.mp differs⟩

variable {specVersion : String}

theorem reconcileUpdateGuard_cases (instances : List InstanceStatus) (expected : Nat)
    (specVersion : String) (records : UpdateRecords) :
    (∃ verdict, records.observedEngineVersion = "" ∧
      reconcileUpdateGuard instances expected specVersion records = { records, verdict }) ∨
    ∃ b, b ≠ "" ∧
      (records.observedEngineVersion = b ∨
        records.observedEngineVersion = "" ∧ agreedEngineVersion instances expected = some b) ∧
      (reconcileUpdateGuard instances expected specVersion records).records =
        { records with observedEngineVersion := b } ∧
      ((reconcileUpdateGuard instances expected specVersion records).proceed = true →
        membersMatchBaseline instances expected b = none ∧ classifyEngineChange specVersion b =
          .unchanged) := by
  unfold reconcileUpdateGuard
  dsimp only
  split
  · rename_i nothing
    split_ifs at nothing with unset
    exact .inl ⟨_, unset, rfl⟩
  · rename_i b is
    have origin : b ≠ "" ∧ (records.observedEngineVersion = b ∨
        records.observedEngineVersion = "" ∧ agreedEngineVersion instances expected = some b) := by
      split_ifs at is with unset
      · have agreed := agreedEngineVersion_some is
        obtain ⟨inst, member⟩ := exists_mem_of_length_pos (lt_of_lt_of_le agreed.1 agreed.2.1)
        exact ⟨(agreed.2.2 inst member).2, .inr ⟨unset, is⟩⟩
      · obtain rfl := some.inj is
        exact ⟨unset, .inl rfl⟩
    refine .inr ⟨b, origin.1, origin.2, ?_⟩
    split
    · exact ⟨rfl, fun proceed => absurd proceed (by simp [blocked])⟩
    · rename_i matched
      split
      · exact ⟨rfl, fun proceed => absurd proceed (by simp [blocked])⟩
      · exact ⟨rfl, fun proceed => absurd proceed (by simp [blocked])⟩
      · rename_i unchanged
        exact ⟨rfl, fun _ => ⟨matched, unchanged⟩⟩

theorem reconcileUpdateGuard_proceed
    (proceed : (reconcileUpdateGuard instances expected specVersion records).proceed = true) :
    let b :=
      (reconcileUpdateGuard instances expected specVersion records).records.observedEngineVersion
    engineSeries specVersion ≠ "" ∧ engineSeries specVersion = engineSeries b ∧
      ∀ inst ∈ instances, inst.observedEngineVersion ≠ "" ∧
        engineSeries inst.observedEngineVersion = engineSeries b := by
  obtain ⟨verdict, -, is⟩ | ⟨b, set, -, kept, shown⟩ :=
    reconcileUpdateGuard_cases instances expected specVersion records
  · rw [is] at proceed
    cases proceed
  · obtain ⟨matched, unchanged⟩ := shown proceed
    obtain ⟨known, same⟩ := classifyEngineChange_unchanged set unchanged
    rw [kept]
    exact ⟨known, same, (membersMatchBaseline_none matched).2⟩

theorem reconcileUpdateGuard_baseline (instances : List InstanceStatus) (expected : Nat)
    (specVersion : String) (records : UpdateRecords) :
    let b :=
      (reconcileUpdateGuard instances expected specVersion records).records.observedEngineVersion
    b = records.observedEngineVersion ∨
      records.observedEngineVersion = "" ∧ agreedEngineVersion instances expected = some b := by
  obtain ⟨verdict, -, is⟩ | ⟨b, -, origin, kept, -⟩ :=
    reconcileUpdateGuard_cases instances expected specVersion records
  · rw [is]
    exact .inl rfl
  · rw [kept]
    exact origin.imp_left Eq.symm

end Guard

section Planning

structure UpdateMember where
  name : String
  role : CubridRole := ""
  ready : Bool := false
  outdated : Bool := false
  converged : Bool := false
  deriving DecidableEq

inductive RollingAction where
  | nothing
  | deletePod
  | wait
  | masterUpdatePending
  deriving DecidableEq

structure RollingPlan where
  action : RollingAction
  target : String := ""
  reason : String
  deriving DecidableEq

structure UpdateTally where
  outdated : Nat := 0
  outdatedSlaves : List UpdateMember := []
  outdatedMaster : Bool := false
  healthy : Nat := 0
  anyNotReady : Bool := false

def countUpdate (tally : UpdateTally) (m : UpdateMember) : UpdateTally :=
  let tally := if m.ready then { tally with healthy := tally.healthy + 1 }
    else { tally with anyNotReady := true }
  if !m.outdated then tally
  else
    let tally := { tally with outdated := tally.outdated + 1 }
    if m.role = roleMaster then { tally with outdatedMaster := true }
    else if m.role = roleSlave then { tally with outdatedSlaves := tally.outdatedSlaves ++ [m] }
    else tally

def planOutdated (tally : UpdateTally) (minHealthy : Int) : RollingPlan :=
  match tally.outdatedSlaves with
  | s :: _ =>
    if !s.converged then { action := .wait, reason := "WaitingForCatchUp" }
    else if (tally.healthy : Int) - 1 < minHealthy then
      { action := .wait, reason := "WaitingForHealthyCluster" }
    else { action := .deletePod, target := s.name, reason := "RollingUpdateInProgress" }
  | [] =>
    if tally.outdatedMaster then { action := .masterUpdatePending, reason := "MasterUpdatePending" }
    else { action := .wait, reason := "WaitingForPrimaryResolved" }

def planRollingUpdate (members : List UpdateMember)
    (primaryResolved fencingRequired pdbAllowsDisruption : Bool) (minHealthy : Int) : RollingPlan :=
  let tally := members.foldl countUpdate {}
  if tally.outdated = 0 then { action := .nothing, reason := "UpdateCompleted" }
  else if !primaryResolved then { action := .wait, reason := "WaitingForPrimaryResolved" }
  else if fencingRequired then { action := .wait, reason := "UpdatePausedFencingRequired" }
  else if tally.anyNotReady then { action := .wait, reason := "WaitingForHealthyCluster" }
  else if !pdbAllowsDisruption then { action := .wait, reason := "WaitingForPDB" }
  else planOutdated tally minHealthy

def minHealthyHA : Int := 2

variable {members : List UpdateMember} {tally : UpdateTally}

structure UpdateTally.Counts (tally : UpdateTally) (members : List UpdateMember) : Prop where
  healthy : tally.healthy = members.countP (·.ready)
  ready : tally.anyNotReady = false → ∀ m ∈ members, m.ready = true
  slaves : ∀ m ∈ tally.outdatedSlaves, m ∈ members ∧ m.outdated = true ∧ m.role = roleSlave

theorem UpdateTally.Counts.next (counts : tally.Counts members) (m : UpdateMember) :
    (countUpdate tally m).Counts (members ++ [m]) := by
  have slaves : ∀ s ∈ (countUpdate tally m).outdatedSlaves,
      s ∈ tally.outdatedSlaves ∨ s = m ∧ m.outdated = true ∧ m.role = roleSlave := by
    intro s inside
    unfold countUpdate at inside
    dsimp only at inside
    split_ifs at inside with ready current master slave current master slave
    all_goals simp_all
  constructor
  · unfold countUpdate
    dsimp only
    rw [countP_append, ← counts.healthy]
    split_ifs <;> simp_all
  · intro all
    have first : m.ready = true ∧ tally.anyNotReady = false := by
      unfold countUpdate at all
      dsimp only at all
      split_ifs at all <;> simp_all
    intro n among
    rcases mem_append.mp among with before | last
    · exact counts.ready first.2 n before
    · exact mem_singleton.mp last ▸ first.1
  · intro s inside
    rcases slaves s inside with before | ⟨rfl, outdated, slave⟩
    · obtain ⟨member, kept⟩ := counts.slaves s before
      exact ⟨mem_append_left _ member, kept⟩
    · exact ⟨mem_append_right _ (mem_singleton.mpr rfl), outdated, slave⟩

theorem UpdateTally.Counts.all {before : List UpdateMember} (counts : tally.Counts before)
    (members : List UpdateMember) :
    (members.foldl countUpdate tally).Counts (before ++ members) := by
  induction members generalizing tally before with
  | nil => simpa using counts
  | cons m members ih => simpa using ih (counts.next m)

theorem planOutdated_delete {minHealthy : Int}
    (planned : (planOutdated tally minHealthy).action = .deletePod) :
    minHealthy < tally.healthy ∧ ∃ s ∈ tally.outdatedSlaves,
      s.name = (planOutdated tally minHealthy).target := by
  unfold planOutdated at planned ⊢
  split at planned
  · rename_i s others slaves
    split_ifs at planned with behind few
    refine ⟨by omega, s, slaves ▸ mem_cons_self, ?_⟩
    simp [behind, few]
  · split_ifs at planned

theorem planRollingUpdate_delete {primaryResolved fencingRequired pdbAllowsDisruption : Bool}
    {minHealthy : Int}
    (planned : (planRollingUpdate members primaryResolved fencingRequired pdbAllowsDisruption
      minHealthy).action = .deletePod) :
    primaryResolved = true ∧ (∀ m ∈ members, m.ready = true) ∧ minHealthy < members.length ∧
      ∃ s ∈ members, s.outdated = true ∧ s.role = roleSlave ∧
        s.name = (planRollingUpdate members primaryResolved fencingRequired pdbAllowsDisruption
          minHealthy).target := by
  have none : UpdateTally.Counts {} [] :=
    ⟨rfl, fun _ _ inside => absurd inside not_mem_nil, fun _ inside => absurd inside not_mem_nil⟩
  have counts := none.all members
  rw [nil_append] at counts
  unfold planRollingUpdate at planned ⊢
  dsimp only at planned ⊢
  split_ifs at planned ⊢ with outdated unresolved fencing waiting budget
  have ready := counts.ready (by simpa using waiting)
  obtain ⟨enough, s, inside, name⟩ := planOutdated_delete planned
  obtain ⟨member, old, slave⟩ := counts.slaves s inside
  rw [counts.healthy, countP_eq_length.mpr ready] at enough
  exact ⟨by simpa using unresolved, ready, enough, s, member, old, slave, name⟩

end Planning

section Step

inductive RevisionRead where
  | found (revision : String)
  | notFound
  | failed (err : String)
  deriving DecidableEq

structure UpdateInputs where
  specVersion : String
  updateRevision : String
  currentRevision : String
  pods : String → RevisionRead
  automaticReplacement : Bool
  fencing : Bool := false
  deleteError : Option String := none
  recovering : Bool := false
  runningImage : String := ""
  desiredImage : String := ""

def buildUpdateMembers (instances : List InstanceStatus) (pods : String → RevisionRead)
    (desiredRev : String) : List String → Except String (List UpdateMember)
  | [] => .ok []
  | name :: rest =>
    match pods name with
    | .failed err => .error err
    -- A missing Pod is one that is being replaced.
    | .notFound => (buildUpdateMembers instances pods desiredRev rest).map ({ name } :: ·)
    | .found revision =>
      let inst := entryOf instances name
      let ready := inst.any (·.ready)
      (buildUpdateMembers instances pods desiredRev rest).map
        ({ name, role := (inst.map (·.role)).getD "", ready
           outdated := decide (revision ≠ desiredRev), converged := ready } :: ·)

structure UpdateOutcome where
  records : UpdateRecords
  verdicts : List Verdict := []
  deletes : List String := []

def carryOut (plan : RollingPlan) (inputs : UpdateInputs) (records : UpdateRecords) :
    UpdateOutcome :=
  match plan.action with
  | .deletePod =>
    if !inputs.automaticReplacement then
      { records, verdicts := [⟨.conditionFalse, "AutomaticReplacementDisabled",
          "member " ++ plan.target ++
            " runs an outdated revision; the operator does not replace Pods by itself yet " ++
            "(#96), so the change takes effect when a Pod is replaced by hand"⟩] }
    else match inputs.deleteError with
      | some err =>
          { records, deletes := [plan.target],
            verdicts := [⟨.conditionTrue, "MemberUpdateInProgress",
          "failed to delete " ++ plan.target ++ ": " ++ err⟩] }
      | none => { records, deletes := [plan.target], verdicts := [⟨.conditionTrue, plan.reason,
          "replacing outdated slave " ++ plan.target⟩] }
  | .masterUpdatePending => { records, verdicts := [⟨.conditionFalse, "MasterUpdatePending",
      "only the master is outdated; a master update requires explicit planned-failover " ++
        "intent (ADR-0009)"⟩] }
  | .wait => { records, verdicts := [⟨.conditionTrue, plan.reason,
      "rolling update waiting: " ++ plan.reason⟩] }
  | .nothing =>
    { records, verdicts := [⟨.conditionFalse, "UpToDate", "all members run the desired revision"⟩] }

def reconcileRollingUpdate (members : List String) (instances : List InstanceStatus)
    (resolved : Bool) (inputs : UpdateInputs) (records : UpdateRecords) : UpdateOutcome :=
  if inputs.updateRevision = "" then { records }
  else
    let records := { records with
      update :=
        some ⟨inputs.updateRevision, inputs.currentRevision, records.observedEngineVersion⟩ }
    match buildUpdateMembers instances inputs.pods inputs.updateRevision members with
    | .error err => { records, verdicts := [⟨.conditionUnknown, "UpdateStateUnavailable", err⟩] }
    | .ok states =>
      carryOut (planRollingUpdate states resolved inputs.fencing true minHealthyHA) inputs records

def updateStep (expected : Nat) (members : List String) (instances : List InstanceStatus)
    (resolved : Bool) (inputs : UpdateInputs) (records : UpdateRecords) : UpdateOutcome :=
  let guarded := reconcileUpdateGuard instances expected inputs.specVersion records
  if guarded.proceed && !inputs.recovering then
    reconcileRollingUpdate members instances resolved inputs guarded.records
  else { records := guarded.records, verdicts := guarded.verdict.toList }

variable {instances : List InstanceStatus} {pods : String → RevisionRead} {rev : String}
  {names : List String} {states : List UpdateMember}

theorem buildUpdateMembers_ok (built : buildUpdateMembers instances pods rev names = .ok states) :
    states.map (·.name) = names ∧ ∀ s ∈ states, s.ready = true → ∃ revision inst,
      pods s.name = .found revision ∧
      entryOf instances s.name = some inst ∧ inst.ready = true ∧ s.role = inst.role ∧
      s.outdated = decide (revision ≠ rev) := by
  induction names generalizing states with
  | nil =>
    cases built
    exact ⟨rfl, fun _ inside => absurd inside not_mem_nil⟩
  | cons name names ih =>
    unfold buildUpdateMembers at built
    split at built
    · cases built
    · cases rest : buildUpdateMembers instances pods rev names with
      | error err => rw [rest] at built; cases built
      | ok others =>
        rw [rest] at built
        cases built
        obtain ⟨same, each⟩ := ih rest
        refine ⟨congrArg (name :: ·) same, ?_⟩
        rw [forall_mem_cons]
        exact ⟨fun ready => absurd ready (by simp), each⟩
    · rename_i revision found
      cases rest : buildUpdateMembers instances pods rev names with
      | error err => rw [rest] at built; cases built
      | ok others =>
        rw [rest] at built
        cases built
        obtain ⟨same, each⟩ := ih rest
        refine ⟨congrArg (name :: ·) same, ?_⟩
        rw [forall_mem_cons]
        refine ⟨fun ready => ?_, each⟩
        obtain ⟨inst, is, good⟩ := (any_eq_true _ _).mp ready
        exact ⟨revision, inst, found, is, good, by simp [is], rfl⟩

theorem carryOut_records (plan : RollingPlan) (inputs : UpdateInputs) (records : UpdateRecords) :
    (carryOut plan inputs records).records = records := by
  unfold carryOut
  repeat' split
  all_goals rfl

theorem carryOut_deletes (plan : RollingPlan) (inputs : UpdateInputs) (records : UpdateRecords) :
    (carryOut plan inputs records).deletes = [] ∨
      inputs.automaticReplacement = true ∧ plan.action = .deletePod ∧
        (carryOut plan inputs records).deletes = [plan.target] := by
  unfold carryOut
  split
  · rename_i planned
    split
    · exact .inl rfl
    · rename_i automatic
      refine .inr ⟨by simpa using automatic, planned, ?_⟩
      split <;> rfl
  all_goals exact .inl rfl

variable {expected : Nat} {members : List String} {resolved : Bool} {inputs : UpdateInputs}
  {records : UpdateRecords}

theorem reconcileRollingUpdate_baseline :
    (reconcileRollingUpdate members instances resolved inputs
      records).records.observedEngineVersion =
      records.observedEngineVersion := by
  unfold reconcileRollingUpdate
  dsimp only
  split_ifs
  · rfl
  · split
    · rfl
    · rw [carryOut_records]

theorem reconcileRollingUpdate_deletes :
    (reconcileRollingUpdate members instances resolved inputs records).deletes = [] ∨
    inputs.automaticReplacement = true ∧
    ∃ states, buildUpdateMembers instances inputs.pods inputs.updateRevision members = .ok states ∧
      (planRollingUpdate states resolved inputs.fencing true minHealthyHA).action = .deletePod ∧
      (reconcileRollingUpdate members instances resolved inputs records).deletes =
        [(planRollingUpdate states resolved inputs.fencing true minHealthyHA).target] := by
  unfold reconcileRollingUpdate
  dsimp only
  split_ifs with unset
  · exact .inl rfl
  · split
    · exact .inl rfl
    · rename_i states built
      refine (carryOut_deletes _ _ _).imp_right fun deletes => ?_
      exact ⟨deletes.1, states, built, deletes.2⟩

theorem updateStep_deletes :
    (updateStep expected members instances resolved inputs records).deletes = [] ∨
    (reconcileUpdateGuard instances expected inputs.specVersion records).proceed = true ∧
    inputs.automaticReplacement = true ∧
    ∃ states, buildUpdateMembers instances inputs.pods inputs.updateRevision members = .ok states ∧
      (planRollingUpdate states resolved inputs.fencing true minHealthyHA).action = .deletePod ∧
      (updateStep expected members instances resolved inputs records).deletes =
        [(planRollingUpdate states resolved inputs.fencing true minHealthyHA).target] := by
  unfold updateStep
  dsimp only
  split_ifs with proceed
  · rw [Bool.and_eq_true] at proceed
    exact reconcileRollingUpdate_deletes.imp_right fun deletes => ⟨proceed.1, deletes⟩
  · exact .inl rfl

theorem updateStep_baseline :
    (updateStep expected members instances resolved inputs records).records.observedEngineVersion =
      (reconcileUpdateGuard instances expected inputs.specVersion
        records).records.observedEngineVersion := by
  unfold updateStep
  dsimp only
  split_ifs
  · exact reconcileRollingUpdate_baseline
  · rfl

def upToDate : Verdict := ⟨.conditionFalse, "UpToDate", "all members run the desired revision"⟩

theorem foldl_countUpdate_outdated (states : List UpdateMember) (tally : UpdateTally) :
    (states.foldl countUpdate tally).outdated = tally.outdated + states.countP (·.outdated) := by
  induction states generalizing tally with
  | nil => rfl
  | cons m states ih =>
    have one : (countUpdate tally m).outdated = tally.outdated + if m.outdated then 1 else 0 := by
      unfold countUpdate
      dsimp only
      split_ifs <;> simp_all
    rw [foldl_cons, ih, one, countP_cons]
    omega

theorem planOutdated_acts (tally : UpdateTally) (minHealthy : Int) :
    (planOutdated tally minHealthy).action ≠ .nothing := by
  unfold planOutdated
  repeat' split
  all_goals simp

theorem planRollingUpdate_nothing {primaryResolved fencingRequired pdbAllowsDisruption : Bool}
    {minHealthy : Int} :
    (planRollingUpdate states primaryResolved fencingRequired pdbAllowsDisruption
      minHealthy).action = .nothing ↔
      ∀ m ∈ states, m.outdated = false := by
  have counted : (states.foldl countUpdate {}).outdated = 0 ↔ ∀ m ∈ states, m.outdated = false := by
    rw [foldl_countUpdate_outdated, Nat.zero_add, countP_eq_zero]
    simp
  rw [← counted]
  unfold planRollingUpdate
  dsimp only
  split_ifs with done
  · simp [done]
  all_goals simp [done, planOutdated_acts]

theorem carryOut_upToDate (plan : RollingPlan) (inputs : UpdateInputs) (records : UpdateRecords) :
    upToDate ∈ (carryOut plan inputs records).verdicts ↔ plan.action = .nothing := by
  unfold carryOut upToDate
  cases plan.action with
  | deletePod =>
    dsimp only
    split_ifs
    · simp
    · split <;> simp
  | nothing | wait | masterUpdatePending => simp

theorem buildUpdateMembers_current :
    (∃ states, buildUpdateMembers instances pods rev names = .ok states ∧ ∀ s ∈ states,
      s.outdated = false) ↔
      ∀ name ∈ names, pods name = .notFound ∨ pods name = .found rev := by
  induction names with
  | nil => simp [buildUpdateMembers]
  | cons name names ih =>
    rw [forall_mem_cons, buildUpdateMembers, ← ih]
    cases pods name with
    | failed err => simp
    | notFound =>
      cases buildUpdateMembers instances pods rev names with
      | error | ok => simp [Except.map]
    | found revision =>
      cases buildUpdateMembers instances pods rev names with
      | error | ok => simp [Except.map]

/-- UpToDate is reported exactly when no Pod that exists runs another revision. -/
theorem reconcileRollingUpdate_upToDate :
    upToDate ∈ (reconcileRollingUpdate members instances resolved inputs records).verdicts ↔
      inputs.updateRevision ≠ "" ∧
      ∀ m ∈ members, inputs.pods m = .notFound ∨ inputs.pods m = .found inputs.updateRevision := by
  have current : (∃ states, buildUpdateMembers instances inputs.pods inputs.updateRevision members =
      .ok states ∧
      ∀ s ∈ states, s.outdated = false) ↔ _ := buildUpdateMembers_current
  rw [← current]
  unfold reconcileRollingUpdate
  dsimp only
  split_ifs with unset
  · simp [unset]
  · cases built : buildUpdateMembers instances inputs.pods inputs.updateRevision members with
    | error err => simp [upToDate]
    | ok states => simp [carryOut_upToDate, planRollingUpdate_nothing, unset]

/-- UpToDate speaks for every member exactly if no Pod is missing, or something
    else keeps it from being reported. -/
theorem upToDate_means_desired_revision_iff (members : List String)
    (instances : List InstanceStatus) (resolved : Bool) (inputs : UpdateInputs)
    (records : UpdateRecords) :
    (upToDate ∈ (reconcileRollingUpdate members instances resolved inputs records).verdicts →
      ∀ m ∈ members, inputs.pods m = .found inputs.updateRevision) ↔
    (∀ m ∈ members, inputs.pods m ≠ .notFound) ∨ inputs.updateRevision = "" ∨
      ∃ m ∈ members, inputs.pods m ≠ .notFound ∧ inputs.pods m ≠ .found inputs.updateRevision := by
  rw [reconcileRollingUpdate_upToDate]
  constructor
  · intro speaks
    by_contra none
    push Not at none
    obtain ⟨⟨m, member, missing⟩, named, current⟩ := none
    have desired :=
      speaks ⟨named, fun m member => or_iff_not_imp_left.mpr (current m member)⟩ m member
    exact nomatch missing.symm.trans desired
  · rintro (present | unset | ⟨n, among, exists_, outdated⟩) ⟨named, current⟩ m member
    · exact (current m member).resolve_left (present m member)
    · exact absurd unset named
    · exact ((current n among).elim exists_ outdated).elim

def updatedTrio : UpdateInputs where
  specVersion := "11.4"
  updateRevision := "new"
  currentRevision := "new"
  pods _ := .found "new"
  automaticReplacement := true

/-- Two of the three Pods are gone, and UpToDate is reported all the same. -/
theorem missing_pods_reported_upToDate :
    let inputs :=
      { updatedTrio with pods := fun m => if m = "c-0" then .found "new" else .notFound }
    upToDate ∈ (reconcileRollingUpdate ["c-0", "c-1", "c-2"] [] true inputs {}).verdicts ∧
    inputs.pods "c-1" = .notFound ∧ inputs.pods "c-2" = .notFound := by
  decide

end Step

section Passes

def heldImage (inputs : UpdateInputs) : Option Verdict :=
  if inputs.runningImage ≠ "" ∧ inputs.runningImage ≠ inputs.desiredImage then
    some ⟨.conditionFalse, "ImageChangeNotAccepted",
      "the spec asks for image " ++ inputs.desiredImage ++ "; the Pods keep " ++
      inputs.runningImage ++
        " until the new image is accepted with the annotation database.cubrid.io/accept-image: " ++
        inputs.desiredImage⟩
  else none

namespace Reconciler

def updateOutcome (r : Reconciler UpdateRecords) (inputs : PassInputs UpdateRecords)
    (answers : Answers) (update : UpdateInputs) : UpdateOutcome :=
  let pass := rolePass r.stored inputs answers r.positions
  updateStep inputs.desired pass.members pass.instances (decide (pass.res.status = .conditionTrue))
    update r.stored.rest

def withUpdate (r : Reconciler UpdateRecords) (inputs : PassInputs UpdateRecords)
    (answers : Answers) (update : UpdateInputs) : PassInputs UpdateRecords :=
  let outcome := r.updateOutcome inputs answers update
  { inputs with
    updating := outcome.verdicts ++ (heldImage update).toList
    -- No step of the pass replaced the report of an image that is no longer held.
    dropUpdating := outcome.verdicts.isEmpty && (heldImage update).isNone &&
      (r.stored.condition .updating).any (·.reason = "ImageChangeNotAccepted")
    rest := outcome.records }

def standaloneInstances (r : Reconciler UpdateRecords) (inputs : PassInputs UpdateRecords)
    (answers : Answers) (podReady : String → Bool) : List InstanceStatus :=
  (rolePass r.stored inputs answers fun _ => none).instances.map fun inst =>
    { inst with role := roleUnknown, ready := podReady inst.name, replication := none }

end Reconciler

/-- The reconciles of a cluster whose update is followed. Those of a standalone
    cluster keep the baseline the same way. -/
inductive UpdateEvent where
  | pass (inputs : PassInputs UpdateRecords) (answers : Answers) (update : UpdateInputs)
      (brokers : BrokerWrite)
      (write : StatusWrite)
  | standalone (inputs : PassInputs UpdateRecords) (answers : Answers) (update : UpdateInputs)
      (podReady : String → Bool) (conditions : List (Condition ConditionType)) (write : StatusWrite)
  | recovering (inputs : PassInputs UpdateRecords) (reason msg : String)
      (progressing : ConditionStatus)
      (write : StatusWrite)
  | failed (ctx : PassContext) (reason cause : String) (progressing : ConditionStatus)
      (write : StatusWrite)
  | forgetConflicts
  | restart

namespace Reconciler

variable (r : Reconciler UpdateRecords)

def updateReconcile : UpdateEvent → Reconciler UpdateRecords
  | .pass inputs answers update brokers write =>
    r.step (.pass (r.withUpdate inputs answers update) answers brokers write)
  | .standalone inputs answers update podReady conditions write =>
    let instances := r.standaloneInstances inputs answers podReady
    let guarded := reconcileUpdateGuard instances inputs.desired update.specVersion r.stored.rest
    r.store (holdObservationTimes r.stored { r.stored with
      instances, conditions, rest := guarded.records }
      inputs.writtenAt) write
  -- A pass that ends before the update leaves its records as they are.
  | .recovering inputs reason msg progressing write =>
    r.step (.recovering { inputs with rest := r.stored.rest } reason msg progressing write)
  | .failed ctx reason cause progressing write =>
    r.step (.failed ctx reason cause progressing write)
  | .forgetConflicts => r.step .forgetConflicts
  | .restart => r.step .restart

def updateRun (events : List UpdateEvent) : Reconciler UpdateRecords :=
  runEvents updateReconcile (created {}) events

def baseline : String := r.stored.rest.observedEngineVersion

end Reconciler

variable {ρ : Type}

/-- What a pass has observed when it deletes the Pod of a member. -/
structure SafeDelete (pass : RolePass ρ) (update : UpdateInputs) (baseline target : String) :
    Prop where
  automatic : update.automaticReplacement = true
  podsRead : ∀ m ∈ pass.members, ∃ revision, update.pods m = .found revision
  answered : ∀ m ∈ pass.members, pass.obs.counts pass.now m = true
  engines : ∀ m ∈ pass.members, engineSeries (pass.obs.of m).engineVersion = engineSeries baseline ∧
    engineSeries (pass.obs.of m).engineVersion = engineSeries update.specVersion
  series : engineSeries baseline ≠ ""
  primary : ∃ p, pass.res.names p
  slave : pass.ObservedSlave target
  outdated : ∃ revision, update.pods target = .found revision ∧ revision ≠ update.updateRevision
  others : 2 ≤ (pass.members.filter fun m => m ≠ target ∧ (entryOf pass.instances m).any (·.ready) =
    true).length

def AllReport (inputs : PassInputs UpdateRecords) (answers : Answers) (version : String) : Prop :=
  0 < inputs.desired ∧ ∀ m ∈ inputs.members, ∃ st, answers.Gives m st ∧
  Recent (answers.receivedAt m) inputs.ctx.now ∧
    st.engineVersion = version

def UpdateEvent.Reports (version : String) : UpdateEvent → Prop
  | .pass inputs answers _ _ _ => AllReport inputs answers version
  | .standalone inputs answers _ _ _ _ => AllReport inputs answers version
  | _ => False

section Deleting

theorem memberNames_nodup (cluster : String) (count : Nat) : (memberNames cluster count).Nodup := by
  refine List.Nodup.map ?_ nodup_range
  intro i j same
  have suffix : (toString i).toList = (toString j).toList := by
    simpa using congrArg String.toList same
  have digits : toDigits 10 i = toDigits 10 j := by
    simpa only [toString_eq_repr, toList_repr] using suffix
  simpa using congrArg (ofDigitChars 10 · 0) digits

variable {pass : RolePass ρ} {m : String}

theorem RolePass.counts_of_ready {i : Nat} (ready : (pass.entry i m).ready = true) :
    pass.obs.counts pass.now m = true := by
  simp only [entry, instanceStatus, decide_eq_true_eq] at ready
  exact ready.1

theorem RolePass.entry_engine {i : Nat} (version : (pass.entry i m).observedEngineVersion ≠ "") :
    fresh (pass.obs.of m) pass.now = true ∧ (pass.entry i m).observedEngineVersion =
      (pass.obs.of m).engineVersion := by
  simp only [entry, instanceStatus] at version ⊢
  split_ifs at version ⊢ with answered
  · rw [Bool.and_eq_true] at answered
    exact ⟨answered.2, rfl⟩
  · exact absurd rfl version

theorem others_ready {target : String} (distinct : pass.members.Nodup)
    (several : 2 < pass.members.length)
    (ready : ∀ m ∈ pass.members, (entryOf pass.instances m).any (·.ready) = true) :
    2 ≤ (pass.members.filter fun m => m ≠ target ∧ (entryOf pass.instances m).any (·.ready) =
      true).length := by
  have same : (pass.members.filter fun m => m ≠ target ∧ (entryOf pass.instances m).any
      (·.ready) = true) = pass.members.filter (· != target) :=
    filter_congr fun m member => by simp [ready m member, bne, BEq.beq]
  rw [same, ← distinct.erase_eq_filter, length_erase]
  split <;> omega

variable {r : Reconciler UpdateRecords} {inputs : PassInputs UpdateRecords} {answers : Answers}
  {update : UpdateInputs}

theorem safeDelete_of_plan {expected : Nat} {records : UpdateRecords} {states : List UpdateMember}
    (distinct : pass.members.Nodup) (automatic : update.automaticReplacement = true)
    (proceed : (reconcileUpdateGuard pass.instances expected update.specVersion records).proceed =
      true)
    (built : buildUpdateMembers pass.instances update.pods update.updateRevision
      pass.members = .ok states)
    (planned : (planRollingUpdate states (decide (pass.res.status = .conditionTrue))
      update.fencing true minHealthyHA).action = .deletePod) :
    SafeDelete pass update
      (reconcileUpdateGuard pass.instances expected update.specVersion
        records).records.observedEngineVersion
      (planRollingUpdate states (decide (pass.res.status = .conditionTrue)) update.fencing true
        minHealthyHA).target := by
  obtain ⟨names, each⟩ := buildUpdateMembers_ok built
  obtain ⟨resolved, ready, enough, s, among, outdated, slave, named⟩ :=
    planRollingUpdate_delete planned
  have state : ∀ m ∈ pass.members, ∃ revision i, update.pods m = .found revision ∧
      entryOf pass.instances m = some (pass.entry i m) ∧ (pass.entry i m).ready = true := by
    intro m member
    rw [← names] at member
    obtain ⟨t, inside, rfl⟩ := mem_map.mp member
    obtain ⟨revision, inst, found, is, good, -⟩ := each t inside (ready t inside)
    obtain ⟨i, entry⟩ := RolePass.entryOf_instances (names ▸ member : t.name ∈ pass.members)
    obtain rfl : inst = pass.entry i t.name := some.inj (is.symm.trans entry)
    exact ⟨revision, i, found, is, good⟩
  have answered : ∀ m ∈ pass.members, pass.obs.counts pass.now m = true := by
    intro m member
    obtain ⟨-, i, -, -, good⟩ := state m member
    exact RolePass.counts_of_ready good
  obtain ⟨known, same, shown⟩ := reconcileUpdateGuard_proceed proceed
  constructor
  case automatic => exact automatic
  case podsRead =>
    intro m member
    obtain ⟨revision, -, found, -⟩ := state m member
    exact ⟨revision, found⟩
  case answered => exact answered
  case engines =>
    intro m member
    obtain ⟨i, inside⟩ := RolePass.exists_entry member
    obtain ⟨reported, series⟩ := shown _ inside
    rw [(RolePass.entry_engine reported).2] at series
    exact ⟨series, series.trans same.symm⟩
  case series => exact same ▸ known
  case primary => exact ⟨_, of_decide_eq_true resolved, rfl⟩
  case slave =>
    obtain ⟨revision, inst, -, is, -, role, -⟩ := each s among (ready s among)
    have member : s.name ∈ pass.members := names ▸ mem_map_of_mem among
    obtain ⟨i, entry⟩ := RolePass.entryOf_instances member
    obtain rfl : inst = pass.entry i s.name := some.inj (is.symm.trans entry)
    rw [← named]
    have counts := answered _ member
    exact ⟨member, counts, (RolePass.entry_role_of_counts counts).symm.trans
      (role.symm.trans slave)⟩
  case outdated =>
    obtain ⟨revision, inst, found, -, -, -, old⟩ := each s among (ready s among)
    rw [← named]
    exact ⟨revision, found, of_decide_eq_true (old.symm.trans outdated)⟩
  case others =>
    have size : states.length = pass.members.length := names ▸ (length_map _).symm
    refine others_ready distinct ?_ fun m member => ?_
    · rw [minHealthyHA] at enough
      omega
    · obtain ⟨-, i, -, is, good⟩ := state m member
      simp [is, good]

theorem Reconciler.updateOutcome_safe {target : String}
    (deleted : target ∈ (r.updateOutcome inputs answers update).deletes) :
    (r.updateOutcome inputs answers update).deletes = [target] ∧
      SafeDelete (rolePass r.stored inputs answers r.positions) update
        (r.updateOutcome inputs answers update).records.observedEngineVersion target := by
  rw [updateOutcome, updateStep_baseline]
  rcases updateStep_deletes with none | ⟨proceed, automatic, states, built, planned, deletes⟩
  · rw [updateOutcome, none] at deleted
    cases deleted
  · rw [updateOutcome, deletes, mem_singleton] at deleted
    subst deleted
    exact ⟨deletes, safeDelete_of_plan (memberNames_nodup _ _) automatic proceed built planned⟩

end Deleting

theorem RolePass.answer_of_engine {pass : RolePass ρ} {m : String} {i : Nat}
    (member : m ∈ pass.members) (version : (pass.entry i m).observedEngineVersion ≠ "") :
    ∃ st, pass.answers.Gives m st ∧ Recent (pass.answers.receivedAt m) pass.now ∧
      st.engineVersion = (pass.entry i m).observedEngineVersion := by
  obtain ⟨recent, same⟩ := entry_engine version
  rw [same] at version ⊢
  rw [obs, probeAll_of member] at recent version ⊢
  cases reply : pass.answers.reply m with
  | failed => simp [reply, probeRole] at version
  | answered status body =>
    rw [reply] at recent version
    by_cases ok : status = 200
    · subst ok
      cases body with
      | none => simp [probeRole] at version
      | some st => exact ⟨st, reply, fresh_probeRole_iff.mp recent, probeRole_engineVersion.symm⟩
    · simp [probeRole, ok] at version

namespace Reconciler

variable {r : Reconciler UpdateRecords} {inputs : PassInputs UpdateRecords} {answers : Answers}
  {version : String}

theorem allReport_of_agreed {positions : Positions} {instances : List InstanceStatus}
    (each : ∀ i m, (rolePass r.stored inputs answers positions).entry i m ∈
        (rolePass r.stored inputs answers positions).instances →
      ∃ inst ∈ instances, inst.observedEngineVersion =
        ((rolePass r.stored inputs answers positions).entry i m).observedEngineVersion)
    (agreed : agreedEngineVersion instances inputs.desired = some version) :
    AllReport inputs answers version := by
  obtain ⟨some_, -, all⟩ := agreedEngineVersion_some agreed
  refine ⟨some_, fun m member => ?_⟩
  have asked : m ∈ (rolePass r.stored inputs answers positions).members := member
  obtain ⟨i, inside⟩ := RolePass.exists_entry asked
  obtain ⟨inst, listed, same⟩ := each i m inside
  obtain ⟨is, named⟩ := all inst listed
  rw [is] at same
  obtain ⟨st, gives, recent, reported⟩ := RolePass.answer_of_engine asked (same ▸ named)
  exact ⟨st, gives, recent, reported.trans same.symm⟩

theorem store_baseline (s : ClusterStatus UpdateRecords) (now : Int) (write : StatusWrite) :
    (r.store (holdObservationTimes r.stored s now) write).baseline = r.baseline ∨
      (r.store (holdObservationTimes r.stored s now) write).baseline =
      s.rest.observedEngineVersion := by
  unfold store
  split_ifs
  · exact .inl rfl
  · refine .inr ?_
    unfold baseline holdObservationTimes
    dsimp only
    split_ifs <;> rfl

theorem baseline_step (r : Reconciler UpdateRecords) (e : UpdateEvent) :
    (r.updateReconcile e).baseline = r.baseline ∨
      r.baseline = "" ∧ e.Reports (r.updateReconcile e).baseline := by
  cases e with
  | forgetConflicts | restart => exact .inl rfl
  | failed | recovering => exact .inl (or_self_iff.mp (store_baseline _ _ _))
  | standalone inputs answers update podReady conditions write =>
    refine (store_baseline _ _ _).elim .inl fun is => ?_
    rw [show (r.updateReconcile
      (.standalone inputs answers update podReady conditions write)).baseline = _ from is]
    refine (reconcileUpdateGuard_baseline _ _ _ _).imp_right fun ⟨unset, agreed⟩ => ⟨unset, ?_⟩
    exact allReport_of_agreed (fun i m inside => ⟨_, mem_map_of_mem inside, rfl⟩) agreed
  | pass inputs answers update brokers write =>
    have written : (r.updateReconcile (.pass inputs answers update brokers write)).baseline =
        r.baseline ∨ (r.updateReconcile (.pass inputs answers update brokers write)).baseline =
          (r.updateOutcome inputs answers update).records.observedEngineVersion :=
          store_baseline _ _ _
    refine written.elim .inl fun is => ?_
    rw [is, updateOutcome, updateStep_baseline]
    refine (reconcileUpdateGuard_baseline _ _ _ _).imp_right fun ⟨unset, agreed⟩ => ⟨unset, ?_⟩
    exact allReport_of_agreed (fun i m inside => ⟨_, inside, rfl⟩) agreed

structure BaselineFixed (events : List UpdateEvent) : Prop where
  origin : (updateRun events).baseline ≠ "" → ∃ earlier e later, events = earlier ++ e :: later ∧
    (updateRun earlier).baseline = "" ∧ e.Reports (updateRun events).baseline
  kept : (updateRun events).baseline ≠ "" → ∀ later,
    (updateRun (events ++ later)).baseline = (updateRun events).baseline

theorem baseline_kept (set : r.baseline ≠ "") (later : List UpdateEvent) :
    (runEvents updateReconcile r later).baseline = r.baseline := by
  refine runEvents_kept (fun s : Reconciler UpdateRecords => s.baseline = r.baseline)
    (fun s e same => ?_) later rfl
  obtain kept | ⟨unset, -⟩ := s.baseline_step e
  · exact kept.trans same
  · exact absurd (same.symm.trans unset) set

theorem baselineFixed (events : List UpdateEvent) : BaselineFixed events := by
  constructor
  · intro set
    obtain ⟨earlier, e, later, rfl, unset, change⟩ :=
      runEvents_change (fun s : Reconciler UpdateRecords => s.baseline ≠ "") events
        (not_not.mpr rfl) set
    refine ⟨earlier, e, later, rfl, not_not.mp unset, ?_⟩
    have stays : (updateRun (earlier ++ e :: later)).baseline =
        ((updateRun earlier).updateReconcile e).baseline := by
      rw [updateRun, runEvents_append]
      exact baseline_kept change later
    rw [stays]
    obtain kept | ⟨-, reports⟩ := (updateRun earlier).baseline_step e
    · exact absurd (kept.trans (not_not.mp unset)) change
    · exact reports
  · intro set later
    rw [updateRun, runEvents_append]
    exact baseline_kept set later

/-- A pass deletes one Pod at most, and only with all it has to know; the
    baseline is what all members once reported. -/
theorem rolling_update_safe (r : Reconciler UpdateRecords) (inputs : PassInputs UpdateRecords)
    (answers : Answers) (update : UpdateInputs) (events : List UpdateEvent) :
    (r.updateOutcome inputs answers update).deletes.length ≤ 1 ∧
    (∀ target ∈ (r.updateOutcome inputs answers update).deletes,
      SafeDelete (rolePass r.stored inputs answers r.positions) update
        (r.updateOutcome inputs answers update).records.observedEngineVersion target) ∧
    BaselineFixed events := by
  refine ⟨?_, fun target deleted => (updateOutcome_safe deleted).2, baselineFixed events⟩
  cases deletes : (r.updateOutcome inputs answers update).deletes with
  | nil => exact zero_le 1
  | cons target others =>
    have only := (updateOutcome_safe (deletes ▸ mem_cons_self : target ∈ _)).1
    rw [← deletes, only]
    exact le_refl 1

def updateTrio : Answers where
  reply m := .answered 200 (some
    { current := m, role := if m = "c-0" then "master" else "slave", serverActive := true,
      engineVersion := "11.4.2.10" })
  receivedAt _ := 0

def outdatedSecond : UpdateInputs where
  specVersion := "11.4"
  updateRevision := "new"
  currentRevision := "old"
  pods m := .found (if m = "c-1" then "old" else "new")
  automaticReplacement := true

example : ((created {}).updateOutcome { readyInputs 0 with rest := ({} : UpdateRecords) } updateTrio
    outdatedSecond).deletes = ["c-1"] := by decide +kernel

end Reconciler
end Passes
end Controller
