import CubridOperator.Controller.PrimaryResolution

/-!
The status of a slave's replication: each reading of its applier is compared
with the one before.
-/
namespace Controller
open Foundation

structure InstanceReplication where
  source : String
  appliedChanges : Int
  failCount : Int
  delayedPages : Int
  applier : String
  stalledSince : Option Int := none
  copyDelayedPages : Int := 0
  copiedEOF : Option LogAddress := none
  notReceivingSince : Option Int := none
  observedAt : Option Int
  deriving DecidableEq

structure ApplierReading where
  source : String
  applier : String
  finalLSA : Option LogAddress
  copiedEOF : Option LogAddress
  delayedPages : Nat
  readAt : Int
  deriving DecidableEq

abbrev Positions := String → Option ApplierReading

def replicationStallWindow : Int := seconds 60
def replicationHistoryTTL : Int := 2 * replicationStallWindow
def haResyncInterval : Int := seconds 10
def observationWriteInterval : Int := seconds 30
def positionCompareInterval : Int := haResyncInterval / 2

def tooClose (before now : Int) : Bool := now - before ≥ 0 ∧ now - before < positionCompareInterval

def sameApplier (a b : String) : Bool := a = "" ∨ b = "" ∨ a = b

/-- Another applier process starts the series again, but the stall goes on. -/
def continued (reported : Option Int) (same : Bool) (now : Int) : Option Int :=
  reported.map fun since => if same then since else now

def logBefore (a b : LogAddress) : Bool := a.page < b.page ∨ a.page = b.page ∧ a.offset < b.offset

def Positions.readings (positions : Positions) (now : Int) : Positions := fun m =>
  (positions m).filter fun r => now - r.readAt ≤ replicationHistoryTTL ∧
  now - r.readAt ≥ -roleObservationTTL

def readingPositions (members : List String) (obs : Observations) (before : Positions) (now : Int) :
    Positions := fun m =>
  if m ∉ members then none
  else if obs.counts now m ∧ (obs.of m).role ≠ roleSlave then none
  else
    match (obs.of m).replication, before m with
    | some r, kept =>
      if obs.counts now m ∧ (kept.all fun kept => !tooClose kept.readAt now) then
        some { source := r.source, applier := r.applier, finalLSA := r.finalLSA
               copiedEOF := r.copiedEOF, delayedPages := r.delayedPages, readAt := now }
      else kept
    | none, kept => kept

def positionStall (reported : Option Int) (pos : ApplierReading) (finalLSA copiedEOF : LogAddress)
    (posFinal posCopied : LogAddress) (obs : ReplicationObservation) (now : Int) : Option Int :=
  if tooClose pos.readAt now then reported
  else if pos.source ≠ obs.source ∨ posFinal ≠ finalLSA ∨ obs.delayedPages = 0 then none
  else if !sameApplier pos.applier obs.applier then continued reported false now
  else if reported = none ∧ pos.delayedPages > 0 ∧ logBefore posCopied copiedEOF then some now
  else reported

def nextLogCopy (prev : Option InstanceReplication) (obs : ReplicationObservation)
    (next : InstanceReplication) (now : Int) : InstanceReplication :=
  match obs.copiedEOF with
  | none => next
  | some copied =>
    -- The reading before, when the copy ends where it ended then.
    let still := prev.filter fun prev => prev.source = obs.source ∧ prev.copiedEOF = some copied
    match obs.sourceLogEnd with
    | none =>
      match still with
      | none => next
      | some prev =>
        { next with
          copiedEOF := prev.copiedEOF
          copyDelayedPages := prev.copyDelayedPages
          notReceivingSince := prev.notReceivingSince }
    | some logEnd =>
      let delayed := logEnd.page - copied.page
      if delayed ≤ 0 then next
      else
        { next with
          copiedEOF := some copied
          copyDelayedPages := delayed
          notReceivingSince := still.bind fun prev => some (prev.notReceivingSince.getD now) }

def usableHistory (prev : Option InstanceReplication) (now : Int) : Option InstanceReplication :=
  prev.filter fun prev =>
    prev.observedAt.any fun t =>
      now - t ≤ replicationHistoryTTL + observationWriteInterval ∧ now - t ≥ -roleObservationTTL

def nextReplication (prev : Option InstanceReplication) (obs : Option ReplicationObservation)
    (pos : Option ApplierReading) (now : Int) : Option InstanceReplication :=
  let prev := usableHistory prev now
  match obs with
  | none => prev
  | some obs =>
    let next := nextLogCopy prev obs
      { source := obs.source, appliedChanges := obs.appliedChanges, failCount := obs.failCount,
        delayedPages := obs.delayedPages, applier := obs.applier, observedAt := some now } now
    -- The stall reported before, for the same source, is what a series continues from.
    let series := prev.filter (·.source = obs.source)
    let reported := series.bind (·.stalledSince)
    let byCounters : Option Int :=
      match series with
      | none => none
      | some prev =>
        if prev.delayedPages > 0 ∧ obs.delayedPages > 0 ∧
          prev.appliedChanges = obs.appliedChanges then
          let same := sameApplier prev.applier obs.applier
          if reported = none ∧ same then some now else continued reported same now
        else none
    let stalledSince :=
      match obs.finalLSA, obs.copiedEOF, pos with
      | some _, some _, none =>
        if obs.delayedPages > 0 then
          continued reported (prev.any fun prev => sameApplier prev.applier obs.applier) now
        else none
      | some finalLSA, some copiedEOF, some pos =>
        match pos.finalLSA, pos.copiedEOF with
        | some posFinal, some posCopied =>
          positionStall reported pos finalLSA copiedEOF posFinal posCopied obs now
        | _, _ => byCounters
      | _, _, _ => byCounters
    some { next with stalledSince }

section

variable (prev : Option InstanceReplication)
include prev

theorem nextReplication_none (pos : Option ApplierReading) (now : Int) :
    nextReplication prev none pos now = usableHistory prev now := rfl

section

variable (obs : ReplicationObservation)
include obs

@[simp] theorem nextLogCopy_keeps (next : InstanceReplication) (now : Int) :
    (nextLogCopy prev obs next now).source = next.source ∧
      (nextLogCopy prev obs next now).failCount = next.failCount ∧
      (nextLogCopy prev obs next now).observedAt = next.observedAt := by
  unfold nextLogCopy
  split
  · simp
  · dsimp only
    split <;> split <;> simp

theorem nextReplication_some (pos : Option ApplierReading) (now : Int) :
    ∃ r, nextReplication prev (some obs) pos now = some r ∧ r.source = obs.source ∧
      r.failCount = obs.failCount ∧ r.observedAt = some now := by
  refine ⟨_, rfl, ?_, ?_, ?_⟩ <;> simp

end

end

end Controller
