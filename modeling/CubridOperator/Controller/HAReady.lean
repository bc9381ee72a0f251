import CubridOperator.Controller.HAStatus

/-!
What a pass that leaves HAReady True rests on.
-/
namespace Controller
open Foundation List Option

section Judging

variable {instances : List InstanceStatus} {obs : Observations} {now : Int} {inst : InstanceStatus}

def SlaveFinding.bad (finding : SlaveFinding) : Prop :=
  finding = .failing ∨ finding = .stalled ∨ finding = .notReceiving

theorem replicationCondition_false_iff :
    (replicationCondition instances obs now).status = .conditionFalse ↔
      ∃ inst ∈ instances, inst.role = roleSlave ∧ (slaveFinding inst obs now).bad := by
  have found : ∀ finding, (instances.filter (·.role = roleSlave)).filter
      (fun i => slaveFinding i obs now = finding) ≠ [] ↔
        ∃ inst ∈ instances, inst.role = roleSlave ∧ slaveFinding inst obs now = finding :=
          fun finding => by
    rw [ne_eq, filter_eq_nil_iff]
    simp
  have iff : (∃ inst ∈ instances, inst.role = roleSlave ∧ (slaveFinding inst obs now).bad) ↔
      ∃ finding : SlaveFinding, finding.bad ∧ (instances.filter (·.role = roleSlave)).filter
        (fun i => slaveFinding i obs now = finding) ≠ [] := by
    simp only [found]
    exact ⟨fun ⟨inst, member, slave, bad⟩ => ⟨slaveFinding inst obs now, bad, inst, member,
      slave, rfl⟩, fun ⟨_, bad, inst, member, slave, same⟩ => ⟨inst, member, slave, same ▸ bad⟩⟩
  rw [iff]
  unfold replicationCondition
  dsimp only
  split_ifs with failing stalled notReceiving none unread
  · exact iff_of_true rfl ⟨.failing, .inl rfl, fun empty => failing (by simp [empty])⟩
  · exact iff_of_true rfl ⟨.stalled, .inr (.inl rfl), fun empty => stalled (by simp [empty])⟩
  · exact iff_of_true rfl
      ⟨.notReceiving, .inr (.inr rfl), fun empty => notReceiving (by simp [empty])⟩
  all_goals
    simp only [ne_eq, map_eq_nil_iff, not_not] at failing stalled notReceiving
    refine iff_of_false (by simp) ?_
    rintro ⟨finding, rfl | rfl | rfl, some⟩
    · exact some failing
    · exact some stalled
    · exact some notReceiving

theorem replicationCondition_true_iff :
    (replicationCondition instances obs now).status = .conditionTrue ↔
      (∃ inst ∈ instances, inst.role = roleSlave) ∧
        ∀ inst ∈ instances, inst.role = roleSlave → slaveFinding inst obs now = .applies := by
  constructor
  · intro healthy
    unfold replicationCondition at healthy
    dsimp only at healthy
    split_ifs at healthy with failing stalled notReceiving none unread
    simp only [ne_eq, map_eq_nil_iff, not_not] at failing stalled notReceiving none unread
    refine ⟨?_, fun inst member slave => ?_⟩
    · obtain ⟨inst, member⟩ := exists_mem_of_ne_nil _ none
      exact ⟨inst, (mem_filter.mp member).1, by simpa using (mem_filter.mp member).2⟩
    · have inside : inst ∈ instances.filter (·.role = roleSlave) :=
        mem_filter.mpr ⟨member, by simpa using slave⟩
      have other : ∀ finding, (instances.filter (·.role = roleSlave)).filter
          (fun i => slaveFinding i obs now = finding) = [] → slaveFinding inst obs now ≠ finding :=
        fun finding empty found => by
          simpa [found] using filter_eq_nil_iff.mp empty inst inside
      cases found : slaveFinding inst obs now with
      | unread => exact absurd found (other _ unread)
      | failing => exact absurd found (other _ failing)
      | stalled => exact absurd found (other _ stalled)
      | notReceiving => exact absurd found (other _ notReceiving)
      | applies => rfl
  · rintro ⟨⟨inst, member, slave⟩, applies⟩
    have none : ∀ finding, finding ≠ .applies →
        (instances.filter (·.role = roleSlave)).filter
          (fun i => slaveFinding i obs now = finding) = [] :=
      fun finding other => filter_eq_nil_iff.mpr fun i inside => by
        obtain ⟨member, slave⟩ := mem_filter.mp inside
        simpa [applies i member (by simpa using slave)] using Ne.symm other
    have slaves : instances.filter (·.role = roleSlave) ≠ [] :=
      ne_nil_of_mem (mem_filter.mpr ⟨member, by simpa using slave⟩)
    simp [replicationCondition, none .failing, none .stalled, none .notReceiving,
      none .unread, slaves]

variable {res : PrimaryResolution} {previous : Option (Condition ConditionType)} {repl : Verdict}

def JudgedReady (res : PrimaryResolution) (instances : List InstanceStatus) (repl : Verdict)
    (ha : Verdict) : Prop :=
  unobservedAmong res.currentPrimary instances = [] ∧
    (instances.length ≤ 1 ∨ repl.status = .conditionTrue) ∧
    ha = ⟨.conditionTrue, reasonHealthyReplication, resolvedText res.currentPrimary⟩

/-- HAReady is left as it was, because some evidence is missing that was there
    a short time ago. -/
def HeldReady (res : PrimaryResolution) (instances : List InstanceStatus) (obs : Observations)
    (previous : Option (Condition ConditionType)) (repl : Verdict) (now : Int) (ha : Verdict) :
    Prop :=
  ∃ old, previous = some old ∧ old.status = .conditionTrue ∧
    ha = ⟨.conditionTrue, old.reason, old.message⟩ ∧
    (unobservedAmong res.currentPrimary instances).all
      (fun inst => young inst.lastObservedTime now) = true ∧
    unreadRecently instances obs now = true ∧
    (unobservedAmong res.currentPrimary instances ≠ [] ∨
      ¬ (instances.length ≤ 1 ∨ repl.status = .conditionTrue))

theorem heldReady_of_filter {old : Condition ConditionType}
    (held : (previous.filter fun _ => replicationDecided previous &&
      (unobservedAmong res.currentPrimary instances).all
      (fun inst => young inst.lastObservedTime now) && unreadRecently instances obs now) = some old)
    (yes : old.status = .conditionTrue)
    (lacks : unobservedAmong res.currentPrimary instances ≠ [] ∨
      ¬ (instances.length ≤ 1 ∨ repl.status = .conditionTrue)) :
    HeldReady res instances obs previous repl now ⟨old.status, old.reason, old.message⟩ := by
  obtain ⟨previously, decided⟩ := filter_eq_some_iff.mp held
  simp only [Bool.and_eq_true] at decided
  exact ⟨old, previously, yes, by rw [yes], decided.1.2, decided.2, lacks⟩

theorem haReadyCondition_true
    (ready : (haReadyCondition res instances obs previous repl now).status = .conditionTrue) :
    res.status = .conditionTrue ∧ repl.status ≠ .conditionFalse ∧
      (JudgedReady res instances repl (haReadyCondition res instances obs previous repl now) ∨
        HeldReady res instances obs previous repl now
        (haReadyCondition res instances obs previous repl now)) := by
  unfold haReadyCondition at ready ⊢
  dsimp only at ready ⊢
  split_ifs at ready ⊢ with unresolved bad unobserved judged
  · refine ⟨not_not.mp unresolved, bad, .inr ?_⟩
    split at ready
    · rename_i old held
      exact heldReady_of_filter held ready (.inl unobserved)
    · cases ready
  · exact ⟨not_not.mp unresolved, bad, .inl ⟨not_not.mp unobserved, judged, rfl⟩⟩
  · refine ⟨not_not.mp unresolved, bad, .inr ?_⟩
    split at ready
    · rename_i old held
      exact heldReady_of_filter held ready (.inr judged)
    · exact absurd (.inr ready) judged

end Judging

/-- One observation of the roles, from a status and with the members' replies. -/
structure RolePass (ρ : Type) where
  before : ClusterStatus ρ
  ctx : PassContext
  members : List String
  answers : Answers
  positions : Positions

namespace RolePass

variable {ρ : Type} (pass : RolePass ρ)

def now : Int := pass.ctx.now

def obs : Observations := probeAll pass.members pass.answers

def res : PrimaryResolution := resolvePrimary pass.members pass.obs pass.now

def entry (ordinal : Nat) (m : String) : InstanceStatus :=
  instanceStatus pass.obs pass.now pass.before.instances
    (pass.positions.readings pass.now) ordinal m

def instances : List InstanceStatus := pass.members.mapIdx pass.entry

def repl : Verdict := replicationCondition pass.instances pass.obs pass.now

def haReady : Verdict :=
  haReadyCondition pass.res pass.instances pass.obs (pass.before.condition .haReady)
    pass.repl pass.now

def after : ClusterStatus ρ :=
  (reconcileHAStatus pass.before pass.ctx pass.members pass.answers pass.positions).1

theorem res_names_iff {p : String} :
    pass.res.names p ↔ (∀ m ∈ pass.members, pass.obs.counts pass.now m = true) ∧
      pass.members.filter (pass.obs.isMaster pass.now) = [p] :=
  resolvePrimary_names_iff pass.obs pass.now

def stored (m : String) : Option InstanceReplication :=
  (entryOf pass.before.instances m).bind (·.replication)

theorem after_condition_haReady :
    pass.after.condition .haReady =
      some ((ClusterStatus.newCondition pass.ctx .haReady pass.haReady).after
        (pass.before.condition .haReady)) := by
  simp only [after, reconcileHAStatus, ClusterStatus.condition_setCondition_self, ne_eq,
    reduceCtorEq, not_false_eq_true, ClusterStatus.condition_setCondition_other]
  rfl

theorem after_other {type : ConditionType}
    (other : type ∉ [.primaryResolved, .replicationHealthy, .haReady]) :
    pass.after.condition type = pass.before.condition type := by
  simp only [mem_cons, not_mem_nil, or_false, not_or] at other
  obtain ⟨primary, replication, ha⟩ := other
  simp [after, reconcileHAStatus, Ne.symm primary, Ne.symm ha, Ne.symm replication]
  rfl

theorem after_isTrue_haReady :
    pass.after.isTrue .haReady = decide (pass.haReady.status = .conditionTrue) := by
  simp [ClusterStatus.isTrue_eq, after_condition_haReady, ClusterStatus.newCondition]

theorem after_isTrue_primaryResolved :
    pass.after.isTrue .primaryResolved = decide (pass.res.status = .conditionTrue) := by
  simp only [after, reconcileHAStatus, ne_eq, reduceCtorEq, not_false_eq_true,
    ClusterStatus.isTrue_setCondition_other, ClusterStatus.isTrue_setCondition_self]
  rfl

variable {o : ReplicationObservation} {r : InstanceReplication}

section Entries

variable {pass} {i : Nat} {m : String} {inst : InstanceStatus}

theorem mem_instances :
    inst ∈ pass.instances ↔ ∃ (i : Nat) (m : String), pass.members[i]? = some m ∧
    pass.entry i m = inst := by
  rw [instances, mem_mapIdx]
  constructor
  · rintro ⟨i, inside, rfl⟩
    exact ⟨i, pass.members[i], getElem?_eq_getElem inside, rfl⟩
  · rintro ⟨i, m, at_, rfl⟩
    obtain ⟨inside, rfl⟩ := List.getElem?_eq_some_iff.mp at_
    exact ⟨i, inside, rfl⟩

theorem exists_entry (member : m ∈ pass.members) : ∃ i, pass.entry i m ∈ pass.instances := by
  obtain ⟨i, inside, rfl⟩ := getElem_of_mem member
  exact ⟨i, mem_instances.mpr ⟨i, _, getElem?_eq_getElem inside, rfl⟩⟩

@[simp] theorem entry_name : (pass.entry i m).name = m := rfl

theorem entry_role_of_counts (counts : pass.obs.counts pass.now m = true) :
    (pass.entry i m).role = (pass.obs.of m).role := by
  simp [entry, instanceStatus, counts]

theorem counts_of_slave (slave : (pass.entry i m).role = roleSlave) :
    pass.obs.counts pass.now m = true := by
  by_contra silent
  have unknown : (pass.entry i m).role = roleUnknown := by simp [entry, instanceStatus, silent]
  rw [unknown] at slave
  exact absurd slave (by decide)

theorem slave_of_replication (has : (pass.entry i m).replication = some r) :
    (pass.entry i m).role = roleSlave := by
  by_contra other
  have none : (pass.entry i m).replication = none := by
    simp only [entry, instanceStatus] at other ⊢
    rw [if_neg other]
  simp [none] at has

theorem entry_replication_read (slave : (pass.entry i m).role = roleSlave)
    (read : (pass.obs.of m).replication = some o) :
    ∃ r, (pass.entry i m).replication = some r ∧ r.source = o.source ∧
      r.observedAt = some pass.now := by
  obtain ⟨r, is, source, -, time⟩ :=
    nextReplication_some (pass.stored m) (withSourceLogEnd o pass.obs pass.now)
    ((pass.positions.readings pass.now) m) pass.now
  refine ⟨r, ?_, source.trans ?_, time⟩
  · simp only [entry, instanceStatus] at slave ⊢
    rw [if_pos slave, read]
    exact is
  · unfold withSourceLogEnd
    split <;> rfl

theorem entry_replication_unread (slave : (pass.entry i m).role = roleSlave)
    (unread : (pass.obs.of m).replication = none) :
    (pass.entry i m).replication = usableHistory (pass.stored m) pass.now := by
  simp only [entry, instanceStatus] at slave ⊢
  rw [if_pos slave, unread]
  rfl

theorem slaveFinding_read (slave : (pass.entry i m).role = roleSlave)
    (read : (pass.obs.of m).replication = some o) :
    slaveFinding (pass.entry i m) pass.obs pass.now ≠ .unread := by
  obtain ⟨r, is, -⟩ := entry_replication_read slave read
  simp only [slaveFinding, is, entry_name, read]
  split_ifs <;> simp

theorem slaveFinding_unread (unread : (pass.obs.of m).replication = none) :
    slaveFinding (pass.entry i m) pass.obs pass.now = .unread := by
  simp [slaveFinding, unread]

theorem reading_of_applies (has : inst.replication = some r)
    (applies : slaveFinding inst pass.obs pass.now = .applies) :
    r.failCount ≤ 0 ∧ lasted r.stalledSince pass.now = false ∧
    lasted r.notReceivingSince pass.now = false := by
  cases read : (pass.obs.of inst.name).replication with
  | none => simp [slaveFinding, read] at applies
  | some o =>
    simp only [slaveFinding, has, read] at applies
    split_ifs at applies with failing stalled notReceiving
    exact ⟨by omega, by simpa using stalled, by simpa using notReceiving⟩

end Entries

section Evidence

/-- HAReady names the primary of this pass, and rests for every other member on
    a young and healthy reading of its log. -/
structure SpeaksOfPrimary : Prop where
  message : pass.haReady.message = resolvedText pass.res.currentPrimary
  readings : ∀ inst ∈ pass.instances, inst.name ≠ pass.res.currentPrimary →
    ∃ r, inst.replication = some r ∧ young r.observedAt pass.now = true ∧
      r.source = pass.res.currentPrimary ∧
      r.failCount ≤ 0 ∧ lasted r.stalledSince pass.now = false ∧
      lasted r.notReceivingSince pass.now = false

/-- The answers and the status before are of one primary: every other member
    answers as a slave of it, and what is read, kept or held speaks of its log.
    -/
structure Unmixed : Prop where
  slaves : ∀ m ∈ pass.members, m ≠ pass.res.currentPrimary → (pass.obs.of m).role = roleSlave
  read : ∀ m ∈ pass.members, m ≠ pass.res.currentPrimary →
    (pass.obs.of m).replication.all (·.source = pass.res.currentPrimary) = true
  kept : ∀ m ∈ pass.members, m ≠ pass.res.currentPrimary → (pass.obs.of m).replication = none →
    (pass.stored m).all (fun r => r.source = pass.res.currentPrimary ∧ r.failCount ≤ 0 ∧
      lasted r.stalledSince pass.now = false ∧ lasted r.notReceivingSince pass.now = false) = true
  message : (∃ m ∈ pass.members, m ≠ pass.res.currentPrimary ∧ (pass.obs.of m).replication = none) →
    (pass.before.condition .haReady).all (·.message = resolvedText pass.res.currentPrimary) = true

variable {pass}

theorem young_now : young (some pass.now) pass.now = true := by
  simp [young, replicationStallWindow, seconds]

theorem instances_length : pass.instances.length = pass.members.length := length_mapIdx

theorem usableHistory_eq_some {prev : Option InstanceReplication} {now : Int}
    (usable : usableHistory prev now = some r) : prev = some r :=
  (filter_eq_some_iff.mp usable).1

variable {i : Nat}

theorem reading_of_read {m : String} (slave : (pass.entry i m).role = roleSlave)
    (read : (pass.obs.of m).replication = some o)
    (applies : slaveFinding (pass.entry i m) pass.obs pass.now = .applies) :
    ∃ r, (pass.entry i m).replication = some r ∧ young r.observedAt pass.now = true ∧
      r.source = o.source ∧
      r.failCount ≤ 0 ∧ lasted r.stalledSince pass.now = false ∧
      lasted r.notReceivingSince pass.now = false := by
  obtain ⟨r, has, source, time⟩ := entry_replication_read slave read
  exact ⟨r, has, time ▸ young_now, source, reading_of_applies has applies⟩

theorem exists_other {p : String} (only : pass.members.filter (pass.obs.isMaster pass.now) = [p])
    (several : 1 < pass.members.length) : ∃ m ∈ pass.members, m ≠ p := by
  by_contra none
  simp only [not_exists, not_and, not_not, ne_eq] at none
  have master : pass.obs.isMaster pass.now p = true :=
    (mem_filter.mp (only ▸ mem_singleton_self p)).2
  have all : pass.members.filter (pass.obs.isMaster pass.now) = pass.members :=
    filter_eq_self.mpr fun m member => none m member ▸ master
  rw [all] at only
  simp [only] at several

theorem SpeaksOfPrimary.unmixed (several : 1 < pass.members.length)
    (ready : pass.haReady.status = .conditionTrue) (speaks : SpeaksOfPrimary pass) :
    Unmixed pass := by
  have slave : ∀ m ∈ pass.members, m ≠ pass.res.currentPrimary →
      ∃ i r, pass.entry i m ∈ pass.instances ∧ (pass.entry i m).role = roleSlave ∧
        (pass.entry i m).replication = some r ∧ r.source = pass.res.currentPrimary ∧
        r.failCount ≤ 0 ∧
        lasted r.stalledSince pass.now = false ∧ lasted r.notReceivingSince pass.now = false := by
    intro m member other
    obtain ⟨i, inside⟩ := exists_entry member
    obtain ⟨r, has, -, rest⟩ := speaks.readings _ inside other
    exact ⟨i, r, inside, slave_of_replication has, has, rest⟩
  refine ⟨fun m member other => ?_, fun m member other => ?_, fun m member other unread => ?_, ?_⟩
  · obtain ⟨i, r, -, role, -⟩ := slave m member other
    exact (entry_role_of_counts (counts_of_slave role)).symm.trans role
  · obtain ⟨i, r, -, role, has, source, -⟩ := slave m member other
    cases read : (pass.obs.of m).replication with
    | none => rfl
    | some o =>
      obtain ⟨r', has', source', -⟩ := entry_replication_read role read
      obtain rfl : r = r' := some.inj (has.symm.trans has')
      simpa using source'.symm.trans source
  · obtain ⟨i, r, -, role, has, rest⟩ := slave m member other
    rw [entry_replication_unread role unread] at has
    rw [usableHistory_eq_some has]
    simpa using rest
  · rintro ⟨m, member, other, unread⟩
    obtain ⟨i, r, inside, role, -⟩ := slave m member other
    obtain ⟨-, -, judged | ⟨old, previous, -, same, -⟩⟩ := haReadyCondition_true ready
    · -- A pass that judges by itself has read every applier.
      have healthy := judged.2.1.resolve_left (by rw [instances_length]; omega)
      have applies := (replicationCondition_true_iff.mp healthy).2 _ inside role
      rw [slaveFinding_unread unread] at applies
      cases applies
    · have message := speaks.message
      rw [haReady, same] at message
      rw [previous]
      simpa using message

theorem applies_of_read {m : String} (sound : pass.repl.status ≠ .conditionFalse)
    (inside : pass.entry i m ∈ pass.instances) (role : (pass.entry i m).role = roleSlave)
    (read : (pass.obs.of m).replication = some o) :
    slaveFinding (pass.entry i m) pass.obs pass.now = .applies := by
  have fine : ¬ (slaveFinding (pass.entry i m) pass.obs pass.now).bad := fun bad =>
    sound (replicationCondition_false_iff.mpr ⟨_, inside, role, bad⟩)
  have seen := slaveFinding_read role read
  cases found : slaveFinding (pass.entry i m) pass.obs pass.now <;> simp_all [SlaveFinding.bad]

theorem primary_not_slave {p : String}
    (only : pass.members.filter (pass.obs.isMaster pass.now) = [p]) :
    (pass.entry i p).role ≠ roleSlave := by
  intro slave
  have master : pass.obs.isMaster pass.now p = true :=
    (mem_filter.mp (only ▸ mem_singleton_self p)).2
  simp only [Observations.isMaster, Bool.and_eq_true, decide_eq_true_eq] at master
  rw [entry_role_of_counts master.1, master.2] at slave
  exact absurd slave (by decide)

theorem Unmixed.reading {m : String} (unmixed : Unmixed pass)
    (sound : pass.repl.status ≠ .conditionFalse) (inside : pass.entry i m ∈ pass.instances)
    (member : m ∈ pass.members) (other : m ≠ pass.res.currentPrimary)
    (role : (pass.entry i m).role = roleSlave) (recent : (pass.obs.of m).replication.isSome = true ∨
      young ((pass.entry i m).replication.bind (·.observedAt)) pass.now = true) :
    ∃ r, (pass.entry i m).replication = some r ∧ young r.observedAt pass.now = true ∧
      r.source = pass.res.currentPrimary ∧ r.failCount ≤ 0 ∧
      lasted r.stalledSince pass.now = false ∧ lasted r.notReceivingSince pass.now = false := by
  cases read : (pass.obs.of m).replication with
  | some o =>
    obtain ⟨r, has, time, source, rest⟩ :=
      reading_of_read role read (applies_of_read sound inside role read)
    have same := unmixed.read m member other
    rw [read] at same
    exact ⟨r, has, time, source.trans (by simpa using same), rest⟩
  | none =>
    have kept := unmixed.kept m member other read
    cases has : (pass.entry i m).replication with
    | none => simp [read, has, young] at recent
    | some r =>
      rw [entry_replication_unread role read] at has
      rw [usableHistory_eq_some has] at kept
      simp only [entry_replication_unread role read, has, read] at recent
      exact ⟨r, rfl, by simpa using recent, by simpa using kept⟩

theorem Unmixed.speaks (several : 1 < pass.members.length)
    (ready : pass.haReady.status = .conditionTrue) (unmixed : Unmixed pass) :
    SpeaksOfPrimary pass := by
  obtain ⟨resolved, sound, how⟩ := haReadyCondition_true ready
  obtain ⟨counts, only⟩ := pass.res_names_iff.mp ⟨resolved, rfl⟩
  have slave : ∀ m ∈ pass.members, m ≠ pass.res.currentPrimary →
      ∀ i, (pass.entry i m).role = roleSlave :=
    fun m member other i => (entry_role_of_counts (counts m member)).trans
      (unmixed.slaves m member other)
  have none : unobservedAmong pass.res.currentPrimary pass.instances = [] := by
    refine filter_eq_nil_iff.mpr fun inst inside => ?_
    obtain ⟨i, m, at_, rfl⟩ := mem_instances.mp inside
    intro unobserved
    obtain ⟨other, role⟩ := of_decide_eq_true unobserved
    exact role (slave m (mem_of_getElem? at_) other i)
  rcases how with judged | ⟨old, previous, -, same, -, recent, missing⟩
  · refine ⟨by rw [haReady, judged.2.2], fun inst inside other => ?_⟩
    obtain ⟨i, m, at_, rfl⟩ := mem_instances.mp inside
    have member := mem_of_getElem? at_
    have role := slave m member other i
    have healthy := judged.2.1.resolve_left (by rw [instances_length]; omega)
    have applies := (replicationCondition_true_iff.mp healthy).2 _ inside role
    refine unmixed.reading sound inside member other role (.inl ?_)
    cases read : (pass.obs.of m).replication with
    | none => simp [slaveFinding_unread read] at applies
    | some o => rfl
  · -- The condition is held, so some applier was not read.
    have unread : ∃ m ∈ pass.members, m ≠ pass.res.currentPrimary ∧ (pass.obs.of m).replication =
        Option.none := by
      by_contra all
      simp only [not_exists, not_and] at all
      refine missing.resolve_left (not_not_intro none)
        (.inr (replicationCondition_true_iff.mpr ⟨?_, ?_⟩))
      · obtain ⟨m, member, other⟩ := exists_other only several
        obtain ⟨i, inside⟩ := exists_entry member
        exact ⟨_, inside, slave m member other i⟩
      · intro inst inside role
        obtain ⟨i, m, at_, rfl⟩ := mem_instances.mp inside
        have other : m ≠ pass.res.currentPrimary :=
          fun primary => primary_not_slave only (primary ▸ role)
        obtain ⟨o, read⟩ := ne_none_iff_exists'.mp (all m (mem_of_getElem? at_) other)
        exact applies_of_read sound inside role read
    have message := unmixed.message unread
    rw [previous] at message
    refine ⟨by rw [haReady, same]; simpa using message, fun inst inside other => ?_⟩
    obtain ⟨i, m, at_, rfl⟩ := mem_instances.mp inside
    have member := mem_of_getElem? at_
    have role := slave m member other i
    have time := List.all_eq_true.mp recent _ inside
    simp only [role, ne_eq, not_true_eq_false, entry_name, false_or, decide_eq_true_eq] at time
    exact unmixed.reading sound inside member other role time

/-- HAReady speaks of the primary of the pass exactly if the evidence is not mixed. -/
theorem haReady_speaks_of_primary_iff (pass : RolePass ρ) (several : 1 < pass.members.length) :
    (pass.after.isTrue .haReady = true → SpeaksOfPrimary pass) ↔
      (pass.after.isTrue .haReady = true → Unmixed pass) := by
  rw [after_isTrue_haReady, decide_eq_true_iff]
  exact forall_congr' fun ready =>
    ⟨fun speaks => speaks.unmixed several ready, fun unmixed => unmixed.speaks several ready⟩

end Evidence

def finding (m : String) : SlaveFinding := slaveFinding (pass.entry 0 m) pass.obs pass.now

/-- HAReady was True for the only master `p`, every other member but `m` answers
    as a healthy slave of it, and `m` gives no usable role answer but gave one a
    short time ago. -/
structure OneMissing (p m : String) (old : Condition ConditionType) : Prop where
  was : pass.before.condition .haReady = some old
  ready : old.status = .conditionTrue
  decided : replicationDecided (some old) = true
  names : old.message = resolvedText p
  master : pass.members.filter (pass.obs.isMaster pass.now) = [p]
  slaves : ∀ other ∈ pass.members, other ≠ p → other ≠ m →
    pass.obs.counts pass.now other = true ∧ (pass.obs.of other).role = roleSlave ∧
    (pass.obs.of other).replication.any (·.source = p) = true ∧ pass.finding other = .applies
  member : m ∈ pass.members
  other : m ≠ p
  answered : young ((entryOf pass.before.instances m).bind (·.lastObservedTime)) pass.now = true
  unusable : pass.obs.counts pass.now m = false

/-- One member without a usable answer leaves the primary unresolved, and that
    decides HAReady before the hold is looked at. -/
theorem one_missed_answer_never_keeps_haReady (p m : String) (old : Condition ConditionType)
    (missing : OneMissing pass p m old) :
    ¬ ∃ c, pass.after.condition .haReady = some c ∧ c.status = .conditionTrue ∧
      c.lastTransitionTime = old.lastTransitionTime := by
  rw [after_condition_haReady, missing.was]
  rintro ⟨c, is, status, -⟩
  obtain rfl := some.inj is
  have ready : pass.haReady.status = .conditionTrue := by
    simpa [ClusterStatus.newCondition] using status
  have counts := (pass.res_names_iff.mp ⟨(haReadyCondition_true ready).1, rfl⟩).1 m missing.member
  rw [missing.unusable] at counts
  cases counts

def masterAnswer (m : String) : RoleReply :=
  .answered 200 (some { current := m, role := "master", serverActive := true })

def slaveAnswer (m source : String) (read : Bool) : RoleReply :=
  .answered 200
    (some { current := m, role := "slave", replication := some { available := read, source } })

def trio (before : ClusterStatus Unit) (now : Int) (first second third : RoleReply) :
    RolePass Unit where
  before
  ctx := { cluster := "c", generation := 1, now, wall := now }
  members := ["c-0", "c-1", "c-2"]
  answers :=
    { reply := fun m => if m = "c-0" then first else if m = "c-1" then second else third
      receivedAt := fun _ => now }
  positions _ := none

def healthyTrio : RolePass Unit :=
  trio { rest := () } 0 (masterAnswer "c-0") (slaveAnswer "c-1" "c-0" true)
    (slaveAnswer "c-2" "c-0" true)

theorem healthyTrio_speaks :
    healthyTrio.after.isTrue .haReady = true ∧ SpeaksOfPrimary healthyTrio := by
  refine ⟨by decide +kernel, ?_⟩
  refine (haReady_speaks_of_primary_iff healthyTrio (by decide)).mpr ?_ (by decide +kernel)
  exact fun _ => ⟨by decide +kernel, by decide +kernel, by decide +kernel, by decide +kernel⟩

def failoverTrio : RolePass Unit :=
  trio healthyTrio.after (seconds 10) (slaveAnswer "c-0" "c-1" true) (masterAnswer "c-1")
    (slaveAnswer "c-2" "c-1" false)

theorem failover_keeps_old_primary :
    failoverTrio.after.isTrue .haReady = true ∧ failoverTrio.res.names "c-1" ∧
    ¬ SpeaksOfPrimary failoverTrio := by
  refine ⟨by decide +kernel, by decide +kernel, fun speaks => ?_⟩
  have message := speaks.message
  exact absurd message (by decide +kernel)

def healthyReady : Condition ConditionType :=
  ClusterStatus.newCondition healthyTrio.ctx .haReady
    ⟨.conditionTrue, reasonHealthyReplication, resolvedText "c-0"⟩

def silentTrio : RolePass Unit :=
  trio healthyTrio.after (seconds 10) (masterAnswer "c-0") (slaveAnswer "c-1" "c-0" true) .failed

theorem silentTrio_missing : OneMissing silentTrio "c-0" "c-2" healthyReady :=
  ⟨by decide +kernel, rfl, by decide +kernel, rfl, by decide +kernel, by decide +kernel,
    by decide +kernel, by decide +kernel, by decide +kernel, by decide +kernel⟩

theorem silentTrio_moves_haReady :
    ¬ ∃ c, silentTrio.after.condition .haReady = some c ∧ c.status = .conditionTrue ∧
      c.lastTransitionTime = healthyReady.lastTransitionTime :=
  one_missed_answer_never_keeps_haReady silentTrio "c-0" "c-2" healthyReady silentTrio_missing

theorem one_missed_answer_moves_haReady :
    OneMissing silentTrio "c-0" "c-2" healthyReady ∧ silentTrio.after.isTrue .haReady = false ∧
      (silentTrio.after.condition .haReady).map (·.lastTransitionTime) ≠ some
      healthyReady.lastTransitionTime :=
  ⟨silentTrio_missing, by decide +kernel, by decide +kernel⟩

end RolePass
end Controller
