import CubridOperator.Controller.RoleObservation
import CubridOperator.Foundation.Conditions

/-!
The verdict on who is the primary, from the observations of all members, and
what it says about the answers the members gave.
-/
namespace Controller
open Foundation List

structure PrimaryResolution where
  currentPrimary : String := ""
  status : ConditionStatus := .conditionFalse
  reason : String
  multipleMasters : Bool
  tokenRefused : List String := []
  deriving DecidableEq

def reasonMultiplePrimaries : String := "MultiplePrimariesObserved"
def reasonTokenRefused : String := "InstanceManagerTokenRefused"

structure PrimaryCount where
  masters : Nat := 0
  masterClaims : Nat := 0
  primary : String := ""
  incomplete : Bool := false
  ambiguous : Bool := false
  refused : List String := []

section Judgements

variable (obs : Observations) (now : Int) (m : String)

def Observations.claims : Bool :=
  fresh (obs.of m) now && decide ((obs.of m).role = roleMaster) && (obs.of m).activeMasterClaim

def Observations.contradicts : Bool :=
  (obs m).isSome && (obs.of m).reachable && (obs.of m).conflicting

def Observations.counts : Bool := (obs m).isSome && authoritative (obs.of m) now

def Observations.refuses : Bool := (obs m).isSome && (obs.of m).tokenRefused

end Judgements

def countMember (obs : Observations) (now : Int) (count : PrimaryCount) (m : String) :
    PrimaryCount :=
  let count := if obs.claims now m then { count with
    masterClaims := count.masterClaims + 1 } else count
  if obs.contradicts m then { count with ambiguous := true }
  else if !obs.counts now m then
    { count with
      incomplete := true
      refused := if obs.refuses m then count.refused ++ [m] else count.refused }
  else if (obs.of m).role = roleMaster then
    { count with masters := count.masters + 1, primary := m }
  else count

def PrimaryCount.verdict (count : PrimaryCount) : PrimaryResolution :=
  let multipleMasters := decide (count.masters > 1 ∨ count.masterClaims > 1)
  if count.masters > 1 then { reason := reasonMultiplePrimaries, multipleMasters }
  else if count.ambiguous then { reason := "AmbiguousPrimaryObservation", multipleMasters }
  else if count.refused ≠ [] then
    { reason := reasonTokenRefused, multipleMasters, tokenRefused := count.refused }
  else if count.incomplete then { reason := "PrimaryObservationIncomplete", multipleMasters }
  else if count.masters = 0 then { reason := "NoPrimaryObserved", multipleMasters }
  else
    { currentPrimary := count.primary, status := .conditionTrue, reason := "SinglePrimaryObserved",
      multipleMasters }

def resolvePrimary (members : List String) (obs : Observations) (now : Int) : PrimaryResolution :=
  (members.foldl (countMember obs now) {}).verdict

def PrimaryResolution.names (res : PrimaryResolution) (p : String) : Prop :=
  res.status = .conditionTrue ∧ res.currentPrimary = p

instance (res : PrimaryResolution) (p : String) : Decidable (res.names p) :=
  inferInstanceAs (Decidable (_ ∧ _))

section Counting

variable (obs : Observations) (now : Int)

def Observations.isMaster (m : String) : Bool :=
  obs.counts now m && decide ((obs.of m).role = roleMaster)

def Observations.missing (m : String) : Bool := !obs.contradicts m && !obs.counts now m

def Observations.refused (m : String) : Bool := obs.missing now m && obs.refuses m

theorem Observations.contradicts_of_counts {m : String} (counts : obs.counts now m = true) :
    obs.contradicts m = false := by
  simp only [Observations.counts, Bool.and_eq_true] at counts
  simp [Observations.contradicts, (authoritative_iff.mp counts.2).2.2.1]

private theorem countMember_eq (count : PrimaryCount) (m : String) :
    countMember obs now count m =
      { masters := count.masters + if obs.isMaster now m then 1 else 0
        masterClaims := count.masterClaims + if obs.claims now m then 1 else 0
        primary := if obs.isMaster now m then m else count.primary
        incomplete := count.incomplete || obs.missing now m
        ambiguous := count.ambiguous || obs.contradicts m
        refused := count.refused ++ if obs.refused now m then [m] else [] } := by
  by_cases claims : obs.claims now m = true <;> by_cases counts : obs.counts now m = true
  all_goals try have consistent := obs.contradicts_of_counts now counts
  all_goals by_cases master : (obs.of m).role = roleMaster
  all_goals by_cases contradicts : obs.contradicts m = true
  all_goals by_cases refuses : obs.refuses m = true
  all_goals simp_all [countMember, Observations.isMaster, Observations.missing,
    Observations.refused]

private theorem foldl_countMember (members : List String) (start : PrimaryCount) :
    members.foldl (countMember obs now) start =
      { masters := start.masters + members.countP (obs.isMaster now)
        masterClaims := start.masterClaims + members.countP (obs.claims now)
        primary := (members.filter (obs.isMaster now)).getLastD start.primary
        incomplete := start.incomplete || members.any (obs.missing now)
        ambiguous := start.ambiguous || members.any obs.contradicts
        refused := start.refused ++ members.filter (obs.refused now) } := by
  induction members generalizing start with
  | nil => simp
  | cons m rest ih =>
    have last : ((m :: rest).filter (obs.isMaster now)).getLastD start.primary =
        (rest.filter (obs.isMaster now)).getLastD (if obs.isMaster now m then m
          else start.primary) := by
      by_cases master : obs.isMaster now m = true
      · rw [filter_cons_of_pos master, getLastD_cons, if_pos master]
      · rw [filter_cons_of_neg master, if_neg master]
    rw [foldl_cons, ih, countMember_eq, last]
    by_cases claims : obs.claims now m = true <;> by_cases master : obs.isMaster now m = true <;>
      by_cases refused : obs.refused now m = true <;>
      simp [claims, master, refused, Bool.or_assoc, Nat.add_assoc, Nat.add_comm 1]

def Observations.count (members : List String) : PrimaryCount where
  masters := members.countP (obs.isMaster now)
  masterClaims := members.countP (obs.claims now)
  primary := (members.filter (obs.isMaster now)).getLastD ""
  incomplete := members.any (obs.missing now)
  ambiguous := members.any obs.contradicts
  refused := members.filter (obs.refused now)

theorem resolvePrimary_eq (members : List String) :
    resolvePrimary members obs now = (obs.count now members).verdict := by
  simp [resolvePrimary, foldl_countMember, Observations.count]

theorem PrimaryCount.verdict_names_iff {count : PrimaryCount} {p : String} :
    count.verdict.names p ↔
      count.masters = 1 ∧ count.ambiguous = false ∧ count.refused = [] ∧ count.incomplete = false ∧
        count.primary = p := by
  unfold PrimaryCount.verdict PrimaryResolution.names
  split_ifs with many ambiguous refused incomplete none
  all_goals simp_all
  · omega
  · omega

theorem PrimaryCount.verdict_multipleMasters (count : PrimaryCount) :
    count.verdict.multipleMasters = decide (count.masters > 1 ∨ count.masterClaims > 1) := by
  unfold PrimaryCount.verdict
  dsimp only
  split_ifs <;> rfl

theorem PrimaryCount.verdict_unresolved {count : PrimaryCount}
    (unresolved : count.verdict.status ≠ .conditionTrue) : count.verdict.currentPrimary = "" := by
  unfold PrimaryCount.verdict at unresolved ⊢
  dsimp only at unresolved ⊢
  split_ifs at unresolved ⊢ <;> first | rfl | exact absurd rfl unresolved

theorem resolvePrimary_names_iff {members : List String} {p : String} :
    (resolvePrimary members obs now).names p ↔
      (∀ m ∈ members, obs.counts now m = true) ∧ members.filter (obs.isMaster now) = [p] := by
  rw [resolvePrimary_eq, PrimaryCount.verdict_names_iff]
  simp only [Observations.count, countP_eq_length_filter]
  constructor
  · rintro ⟨one, consistent, -, complete, named⟩
    obtain ⟨q, only⟩ := length_eq_one_iff.mp one
    rw [only] at named ⊢
    refine ⟨fun m member => ?_, by simpa using named⟩
    have first := any_eq_false.mp consistent m member
    have second := any_eq_false.mp complete m member
    simp only [Observations.missing, first, Bool.and_eq_true, Bool.not_eq_eq_eq_not,
      Bool.not_true, not_and, Bool.not_eq_false] at second
    exact second trivial
  · rintro ⟨counts, only⟩
    have unread : ∀ m ∈ members, obs.missing now m = false := fun m member => by
      simp [Observations.missing, counts m member]
    refine ⟨by simp [only], ?_, ?_, ?_, by simp [only]⟩
    · exact any_eq_false.mpr fun m member => by
        simp [obs.contradicts_of_counts now (counts m member)]
    · exact filter_eq_nil_iff.mpr fun m member => by simp [Observations.refused, unread m member]
    · exact any_eq_false.mpr fun m member => by simp [unread m member]

/-- The two resolutions differ at most in the order of the members that refused
    the token. -/
structure PrimaryResolution.Same (res other : PrimaryResolution) : Prop where
  currentPrimary : res.currentPrimary = other.currentPrimary
  status : res.status = other.status
  reason : res.reason = other.reason
  multipleMasters : res.multipleMasters = other.multipleMasters
  tokenRefused : res.tokenRefused.Perm other.tokenRefused

theorem PrimaryCount.verdict_same {count other : PrimaryCount}
    (masters : count.masters = other.masters)
    (masterClaims : count.masterClaims = other.masterClaims)
    (incomplete : count.incomplete = other.incomplete)
    (ambiguous : count.ambiguous = other.ambiguous) (refused : count.refused.Perm other.refused)
    (primary : other.masters = 1 → count.primary = other.primary) :
    count.verdict.Same other.verdict := by
  have none : count.refused = [] ↔ other.refused = [] :=
    ⟨fun h => (h ▸ refused).nil_eq.symm, fun h => (h ▸ refused).eq_nil⟩
  unfold PrimaryCount.verdict
  rw [masters, masterClaims, incomplete, ambiguous]
  by_cases many : other.masters > 1
  · simpa [many] using ⟨rfl, rfl, rfl, rfl, .refl _⟩
  by_cases contradicts : other.ambiguous = true
  · simpa [many, contradicts] using ⟨rfl, rfl, rfl, rfl, .refl _⟩
  by_cases silent : other.refused = []
  · by_cases unread : other.incomplete = true
    · simpa [many, contradicts, none, silent, unread] using ⟨rfl, rfl, rfl, rfl, .refl _⟩
    by_cases empty : other.masters = 0
    · simpa [contradicts, none, silent, unread, empty] using ⟨rfl, rfl, rfl, rfl, .refl _⟩
    · simpa [many, contradicts, none, silent, unread, empty] using
        ⟨primary (by omega), rfl, rfl, rfl, .refl _⟩
  · simpa [many, contradicts, none, silent] using ⟨rfl, rfl, rfl, rfl, refused⟩

theorem resolvePrimary_perm {members others : List String} (same : members.Perm others) :
    (resolvePrimary members obs now).Same (resolvePrimary others obs now) := by
  rw [resolvePrimary_eq, resolvePrimary_eq]
  refine PrimaryCount.verdict_same (same.countP_eq _) (same.countP_eq _) same.any_eq same.any_eq
    (same.filter _) fun one => ?_
  simp only [Observations.count, countP_eq_length_filter] at one ⊢
  obtain ⟨q, only⟩ := length_eq_one_iff.mp one
  have alone := same.filter (obs.isMaster now)
  rw [only, perm_singleton] at alone
  rw [alone, only]

end Counting

section Answers

structure Answers where
  reply : String → RoleReply
  receivedAt : String → Int

def probeAll (members : List String) (answers : Answers) : Observations := fun m =>
  if m ∈ members then some (probeRole m (answers.reply m) (answers.receivedAt m)) else none

variable {members : List String} {answers : Answers} {now : Int} {m p : String} {st : RoleAnswer}

def Answers.Gives (answers : Answers) (m : String) (st : RoleAnswer) : Prop :=
  answers.reply m = .answered 200 (some st)

theorem Answers.Gives.unique {other : RoleAnswer} (gives : answers.Gives m st)
    (again : answers.Gives m other) : st = other := by
  have same := gives.symm.trans again
  simpa using same

theorem probeAll_of (member : m ∈ members) :
    (probeAll members answers).of m = probeRole m (answers.reply m) (answers.receivedAt m) := by
  simp [probeAll, Observations.of, member]

theorem probeAll_counts_iff (member : m ∈ members) :
    (probeAll members answers).counts now m = true ↔
      ∃ st, answers.Gives m st ∧ Recent (answers.receivedAt m) now ∧ st.role ≠ roleUnknown ∧
        st.role ≠ "" ∧ (st.current = "" ∨ st.current = m) ∧ st.Consistent := by
  rw [Observations.counts, probeAll_of member, Bool.and_eq_true,
    and_iff_right (by simp [probeAll, member]), authoritative_probeRole_iff]
  rfl

theorem probeAll_role (member : m ∈ members) (gives : answers.Gives m st) :
    ((probeAll members answers).of m).role = st.role := by
  rw [probeAll_of member, gives, probeRole_role]

/-- Every member answered for itself, in time, with a role of its own that its
    node list bears out, and one of them is the only master. -/
structure SoundPrimary (members : List String) (answers : Answers) (now : Int) (p : String) :
    Prop where
  answered : ∀ m ∈ members, ∃ st, answers.Gives m st ∧ Recent (answers.receivedAt m) now ∧
    (st.current = m ∨ st.current = "") ∧ st.role ∈ [roleMaster, roleSlave, roleReplica] ∧
    ∀ n ∈ st.nodes, n.name = m → n.state = st.role
  member : p ∈ members
  only : ∀ m ∈ members, ∀ st, answers.Gives m st → (st.role = roleMaster ↔ m = p)
  active : ∀ st, answers.Gives p st →
    st.serverActive = true ∧ ∀ n ∈ st.nodes, n.name ≠ p → n.state ≠ roleMaster

/-- What the code does not check of an answer: the role is CUBRID's, and the
    node list bears out a replica or an answer that names nobody. -/
structure PlainAnswer (m : String) (st : RoleAnswer) : Prop where
  role : st.role ∈ [roleMaster, roleSlave, roleReplica]
  ownLine : st.role = roleReplica ∨ st.current = "" → ∀ n ∈ st.nodes, n.name = m → n.state = st.role
  nameless : st.role = roleMaster → st.current = "" →
    ∀ n ∈ st.nodes, n.name = "" → n.name ≠ m → n.state ≠ roleMaster

theorem SoundPrimary.plain (sound : SoundPrimary members answers now p) (member : m ∈ members)
    (gives : answers.Gives m st) : PlainAnswer m st := by
  obtain ⟨st', gives', -, -, role, own⟩ := sound.answered m member
  obtain rfl := gives'.unique gives
  refine ⟨role, fun _ => own, fun master _ n inside _ other => ?_⟩
  obtain rfl := (sound.only m member st' gives).mp master
  exact (sound.active st' gives).2 n inside other

theorem soundPrimary_of_plain
    (named : (resolvePrimary members (probeAll members answers) now).names p)
    (plain : ∀ m ∈ members, ∀ st, answers.Gives m st → PlainAnswer m st) :
    SoundPrimary members answers now p := by
  obtain ⟨counts, only⟩ := (resolvePrimary_names_iff _ _).mp named
  have master : ∀ m, m = p ↔ m ∈ members ∧ (probeAll members answers).isMaster now m =
      true := fun m => by
    rw [← mem_filter, only, mem_singleton]
  have accepted := fun m (member : m ∈ members) => (probeAll_counts_iff member).mp (counts m member)
  have sole : ∀ m ∈ members, ∀ st, answers.Gives m st → (st.role = roleMaster ↔ m = p) := by
    intro m member st gives
    rw [master, ← probeAll_role member gives]
    simp [member, Observations.isMaster, counts m member]
  have inside := ((master p).mp rfl).1
  refine ⟨fun m member => ?_, inside, sole, fun st gives => ?_⟩
  · obtain ⟨st, gives, recent, -, -, current, consistent⟩ := accepted m member
    have kind := plain m member st gives
    refine ⟨st, gives, recent, current.symm, kind.role, fun n listed own => ?_⟩
    by_cases replica : st.role = roleReplica
    · exact kind.ownLine (.inl replica) n listed own
    · rcases current with nobody | itself
      · exact kind.ownLine (.inr nobody) n listed own
      · have said : st.role = roleMaster ∨ st.role = roleSlave := by
          have := kind.role
          simp only [mem_cons, not_mem_nil, or_false] at this
          tauto
        by_contra differs
        exact (consistent said).2 n listed (.inl ⟨own.trans itself.symm, differs⟩)
  · obtain ⟨st', gives', -, -, -, current, consistent⟩ := accepted p inside
    obtain rfl := gives'.unique gives
    have lead := (sole p inside st' gives).mpr rfl
    obtain ⟨active, listed⟩ := consistent (.inl lead)
    refine ⟨active lead, fun n member other state => ?_⟩
    by_cases own : n.name = st'.current
    · rcases current with nobody | itself
      · exact (plain p inside st' gives).nameless lead nobody n member
          (own.trans nobody) other state
      · exact other (own.trans itself)
    · exact listed n member (.inr ⟨own, lead, state⟩)

theorem probeAll_perm {others : List String} (same : members.Perm others) :
    probeAll members answers = probeAll others answers := by
  funext m
  simp only [probeAll, same.mem_iff]

/-- A named primary is sound exactly if every member's answer is a plain one;
    the order of the members makes no difference. -/
theorem named_primary_sound_iff (members : List String) (answers : Answers) (now : Int) :
    ((∀ p, (resolvePrimary members (probeAll members answers) now).names p →
      SoundPrimary members answers now p) ↔
      ((resolvePrimary members (probeAll members answers) now).status = .conditionTrue →
        ∀ m ∈ members, ∀ st, answers.Gives m st → PlainAnswer m st)) ∧
    ∀ others, members.Perm others →
      (resolvePrimary members (probeAll members answers) now).Same
        (resolvePrimary others (probeAll others answers) now) := by
  refine ⟨⟨fun sound resolved m member st gives => ?_, fun plain p named => ?_⟩,
    fun others same => ?_⟩
  · exact (sound _ ⟨resolved, rfl⟩).plain member gives
  · exact soundPrimary_of_plain named (plain named.1)
  · rw [← probeAll_perm same]
    exact resolvePrimary_perm _ _ same

def listedMaster : RoleAnswer where
  current := "c-2"
  role := "replica"
  nodes := [⟨"c-0", "slave"⟩, ⟨"c-1", "slave"⟩, ⟨"c-2", "master"⟩]

def contradictedReplica : Answers where
  receivedAt _ := 0
  reply
    | "c-0" => .answered 200 (some
        { current := "c-0", role := "master", serverActive := true,
          nodes := [⟨"c-0", "master"⟩, ⟨"c-1", "slave"⟩, ⟨"c-2", "replica"⟩] })
    | "c-1" => .answered 200 (some
        { current := "c-1", role := "slave",
          nodes := [⟨"c-0", "master"⟩, ⟨"c-1", "slave"⟩, ⟨"c-2", "replica"⟩] })
    | "c-2" => .answered 200 (some listedMaster)
    | _ => .failed

theorem contradicted_replica_resolves :
    (resolvePrimary ["c-0", "c-1", "c-2"] (probeAll ["c-0", "c-1", "c-2"] contradictedReplica)
      0).names "c-0" ∧ ¬ SoundPrimary ["c-0", "c-1", "c-2"] contradictedReplica 0 "c-0" := by
  refine ⟨by decide +kernel, fun sound => ?_⟩
  obtain ⟨st, gives, -, -, -, own⟩ := sound.answered "c-2" (by simp)
  obtain rfl : st = listedMaster := gives.unique rfl
  have state := own ⟨"c-2", "master"⟩ (by simp [listedMaster]) rfl
  exact absurd state (by decide)

end Answers
end Controller
