import CubridOperator.Foundation.Clock
import Mathlib.Data.List.Count

/-!
What the operator takes from a member's answer to its role query. The texts of
an answer are those of the member.
-/
namespace Controller
open Foundation

/-- The API keeps a role as the text it was reported with. -/
abbrev CubridRole := String

def roleMaster : CubridRole := "master"
def roleSlave : CubridRole := "slave"
def roleReplica : CubridRole := "replica"
def roleUnknown : CubridRole := "unknown"

structure LogAddress where
  page : Int
  offset : Int
  deriving DecidableEq

structure NodeState where
  name : String
  state : String
  deriving DecidableEq

structure ApplyConvergence where
  available : Bool
  source : String
  appliedChanges : Int := 0
  failCount : Int := 0
  -- The manager takes the count from a run of digits (reDelayedPages).
  delayedPageCount : Nat := 0
  applier : String := ""
  finalLSA : Option LogAddress := none
  copiedEOF : Option LogAddress := none
  deriving DecidableEq

structure UnfinishedDatabase where
  database : String
  operation : String
  state : String
  reason : String
  deriving DecidableEq

structure RoleAnswer where
  current : String
  role : String
  serverActive : Bool := false
  nodes : List NodeState := []
  engineVersion : String := ""
  replication : Option ApplyConvergence := none
  logEnd : Option LogAddress := none
  unfinished : Option UnfinishedDatabase := none
  deriving DecidableEq

inductive RoleReply where
  | failed
  | answered (status : Nat) (body : Option RoleAnswer)
  deriving DecidableEq

structure ReplicationObservation where
  source : String
  appliedChanges : Int
  failCount : Int
  delayedPages : Nat
  applier : String
  finalLSA : Option LogAddress
  copiedEOF : Option LogAddress
  sourceLogEnd : Option LogAddress := none
  deriving DecidableEq

inductive UnfinishedDatabaseState where
  | waitingForOperation
  | refused
  deriving DecidableEq

structure InstanceUnfinishedDatabase where
  database : String
  operation : String
  state : UnfinishedDatabaseState
  message : String
  deriving DecidableEq

/-- The defaults are those of a member nobody asked. -/
structure RoleObservation where
  reachable : Bool := false
  tokenRefused : Bool := false
  role : CubridRole := ""
  observedAt : Option Int := none
  conflicting : Bool := false
  activeMasterClaim : Bool := false
  masterNotYetActive : Bool := false
  engineVersion : String := ""
  replication : Option ReplicationObservation := none
  logEnd : Option LogAddress := none
  unfinished : Option InstanceUnfinishedDatabase := none
  deriving DecidableEq

abbrev Observations := String → Option RoleObservation

def Observations.of (obs : Observations) (member : String) : RoleObservation := (obs member).getD {}

/-- The member's texts are taken to be printable and short, as cleaning leaves them. -/
def unfinishedFromStatus (u : UnfinishedDatabase) : InstanceUnfinishedDatabase :=
  { database := u.database, operation := u.operation, message := u.reason,
    state := if u.state = "WaitingForOperation" then .waitingForOperation else .refused }

def ApplyConvergence.observation (r : ApplyConvergence) : ReplicationObservation :=
  { source := r.source, appliedChanges := r.appliedChanges, failCount := r.failCount,
    delayedPages := r.delayedPageCount, applier := r.applier, finalLSA := r.finalLSA,
    copiedEOF := r.copiedEOF }

structure NodeTally where
  contradictsNodeList : Bool := false
  localEntries : Nat := 0
  localMaster : Bool := true

def RoleAnswer.tallyNode (st : RoleAnswer) (tally : NodeTally) (n : NodeState) : NodeTally :=
  let own := decide (n.name = st.current)
  { contradictsNodeList := tally.contradictsNodeList || own && decide (n.state ≠ st.role) ||
      !own && decide (st.role = roleMaster) && decide (n.state = roleMaster),
    localEntries := tally.localEntries + if own then 1 else 0,
    localMaster := tally.localMaster && (!own || decide (n.state = roleMaster)) }

def RoleAnswer.tally (st : RoleAnswer) : NodeTally := st.nodes.foldl st.tallyNode {}

def observationFromStatus (st : RoleAnswer) (t : Int) : RoleObservation :=
  let o : RoleObservation :=
    { reachable := true, role := st.role, observedAt := some t, engineVersion := st.engineVersion,
      unfinished := st.unfinished.map unfinishedFromStatus }
  if st.role ≠ roleMaster ∧ st.role ≠ roleSlave then o
  else
    let notYetActive := decide (st.role = roleMaster) && !st.serverActive
    let tally := st.tally
    { o with
      replication := if st.role = roleSlave then
          (st.replication.filter (·.available)).map ApplyConvergence.observation else none
      logEnd := if st.role = roleMaster then st.logEnd else none
      activeMasterClaim := decide (st.role = roleMaster) && st.serverActive && decide
        (st.current ≠ "") &&
        decide (tally.localEntries = 1) && tally.localMaster
      conflicting := notYetActive || tally.contradictsNodeList
      masterNotYetActive := notYetActive && !tally.contradictsNodeList }

def tokenRefused (status : Nat) : Bool := status = 401 ∨ status = 403

def probeRole (podName : String) (reply : RoleReply) (now : Int) : RoleObservation :=
  match reply with
  | .failed => { observedAt := some now }
  | .answered status body =>
    if status ≠ 200 then { tokenRefused := tokenRefused status, observedAt := some now }
    else
      match body with
      | none => { reachable := true, role := roleUnknown, observedAt := some now }
      | some st =>
        let o := observationFromStatus st now
        let o := if st.current ≠ podName then { o with activeMasterClaim := false } else o
        -- An answer that names another member is not this member's role.
        if st.current ≠ "" ∧ st.current ≠ podName then
          { o with conflicting := true, masterNotYetActive := false }
        else o

def roleObservationTTL : Int := seconds 15

def fresh (o : RoleObservation) (now : Int) : Bool :=
  o.reachable &&
    match o.observedAt with
    | none => false
    | some t => now - t ≤ roleObservationTTL ∧ now - t ≥ -roleObservationTTL

def authoritative (o : RoleObservation) (now : Int) : Bool :=
  if o.role = roleUnknown ∨ o.role = "" ∨ o.conflicting then false else fresh o now

theorem authoritative_iff {o : RoleObservation} {now : Int} :
    authoritative o now = true ↔
      o.role ≠ roleUnknown ∧ o.role ≠ "" ∧ o.conflicting = false ∧ fresh o now = true := by
  unfold authoritative
  split
  · rename_i untrusted
    simp only [Bool.false_eq_true, false_iff, not_and]
    intro known named consistent
    rcases untrusted with unknown | empty | conflicting
    · exact absurd unknown known
    · exact absurd empty named
    · simp [consistent] at conflicting
  · rename_i trusted
    simp only [not_or, Bool.not_eq_true] at trusted
    exact ⟨fun h => ⟨trusted.1, trusted.2.1, trusted.2.2, h⟩, fun h => h.2.2.2⟩

section Tally

variable (st : RoleAnswer)

def RoleAnswer.contradictedBy (n : NodeState) : Prop :=
  n.name = st.current ∧ n.state ≠ st.role ∨
    n.name ≠ st.current ∧ st.role = roleMaster ∧ n.state = roleMaster

instance (n : NodeState) : Decidable (st.contradictedBy n) :=
  inferInstanceAs (Decidable (_ ∨ _))

private theorem foldl_tallyNode (nodes : List NodeState) (start : NodeTally) :
    nodes.foldl st.tallyNode start =
      { contradictsNodeList := start.contradictsNodeList || nodes.any fun n => st.contradictedBy n
        localEntries := start.localEntries + nodes.countP (·.name = st.current)
        localMaster := start.localMaster && nodes.all fun n => n.name = st.current →
          n.state = roleMaster } := by
  induction nodes generalizing start with
  | nil => simp
  | cons n rest ih =>
    rw [List.foldl_cons, ih]
    by_cases own : n.name = st.current <;>
      simp [RoleAnswer.tallyNode, RoleAnswer.contradictedBy, own, Bool.or_assoc, Bool.and_assoc,
        Nat.add_assoc, Nat.add_comm 1]

theorem RoleAnswer.tally_eq :
    st.tally =
      { contradictsNodeList := st.nodes.any fun n => st.contradictedBy n
        localEntries := st.nodes.countP (·.name = st.current)
        localMaster := st.nodes.all fun n => n.name = st.current → n.state = roleMaster } := by
  rw [RoleAnswer.tally, foldl_tallyNode]
  simp

end Tally

section Trust

variable {st : RoleAnswer} {m : String} {reply : RoleReply} {t now : Int}

/-- An answer as master or slave that its own node list and server bear out. -/
def RoleAnswer.Consistent (st : RoleAnswer) : Prop :=
  st.role = roleMaster ∨ st.role = roleSlave →
    (st.role = roleMaster → st.serverActive = true) ∧ ∀ n ∈ st.nodes, ¬ st.contradictedBy n

@[simp] theorem observationFromStatus_keeps :
    (observationFromStatus st t).role = st.role ∧
      (observationFromStatus st t).observedAt = some t ∧
      (observationFromStatus st t).reachable = true ∧
      (observationFromStatus st t).engineVersion = st.engineVersion := by
  unfold observationFromStatus
  dsimp only
  split <;> simp

theorem conflicting_observationFromStatus_iff :
    (observationFromStatus st t).conflicting = false ↔ st.Consistent := by
  unfold observationFromStatus RoleAnswer.Consistent
  dsimp only
  split
  · rename_i other
    exact iff_of_true rfl fun role => (role.elim other.1 other.2).elim
  · rename_i role
    have said : st.role = roleMaster ∨ st.role = roleSlave := by tauto
    simp only [RoleAnswer.tally_eq, Bool.or_eq_false_iff, Bool.and_eq_false_iff,
      decide_eq_false_iff_not, Bool.not_eq_false', List.any_eq_false, decide_eq_true_eq, said,
      true_implies]
    exact and_congr_left fun _ => Decidable.imp_iff_not_or.symm

theorem probeRole_role : (probeRole m (.answered 200 (some st)) t).role = st.role := by
  simp only [probeRole, ne_eq, not_true_eq_false, if_false]
  split <;> split <;> simp

theorem probeRole_engineVersion :
    (probeRole m (.answered 200 (some st)) t).engineVersion = st.engineVersion := by
  simp only [probeRole, ne_eq, not_true_eq_false, if_false]
  split <;> split <;> simp

theorem conflicting_probeRole_iff :
    (probeRole m (.answered 200 (some st)) t).conflicting = false ↔
      (st.current = "" ∨ st.current = m) ∧ st.Consistent := by
  rw [← conflicting_observationFromStatus_iff (t := t)]
  simp only [probeRole, ne_eq, not_true_eq_false, if_false]
  by_cases named : st.current = m
  · simp [named]
  · by_cases nobody : st.current = ""
    · rw [if_pos named, if_neg fun other => other.1 nobody]
      simp [nobody]
    · simp [named, nobody]

def Recent (t now : Int) : Prop := now - t ≤ roleObservationTTL ∧ now - t ≥ -roleObservationTTL

instance : Decidable (Recent t now) := inferInstanceAs (Decidable (_ ∧ _))

theorem fresh_probeRole_iff :
    fresh (probeRole m (.answered 200 (some st)) t) now = true ↔ Recent t now := by
  simp only [probeRole, ne_eq, not_true_eq_false, if_false]
  split <;> split <;> simp [fresh, Recent]

theorem authoritative_probeRole_iff :
    authoritative (probeRole m reply t) now = true ↔
      ∃ st, reply = .answered 200 (some st) ∧ Recent t now ∧ st.role ≠ roleUnknown ∧ st.role ≠ "" ∧
        (st.current = "" ∨ st.current = m) ∧ st.Consistent := by
  constructor
  · intro counts
    obtain ⟨known, named, consistent, recent⟩ := authoritative_iff.mp counts
    match reply with
    | .failed => exact absurd rfl named
    | .answered status body =>
      by_cases ok : status = 200
      · subst ok
        match body with
        | none => exact absurd rfl known
        | some st =>
          rw [probeRole_role] at known named
          exact ⟨st, rfl, fresh_probeRole_iff.mp recent, known, named,
            conflicting_probeRole_iff.mp consistent⟩
      · simp [probeRole, ok] at named
  · rintro ⟨st, rfl, recent, known, named, trusted⟩
    exact authoritative_iff.mpr ⟨probeRole_role ▸ known, probeRole_role ▸ named,
      conflicting_probeRole_iff.mpr trusted, fresh_probeRole_iff.mpr recent⟩

end Trust
end Controller
