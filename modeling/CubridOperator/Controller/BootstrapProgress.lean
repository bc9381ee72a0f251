import CubridOperator.Controller.BootstrapAttempts
import CubridOperator.Controller.RollingUpdate

/-!
What a bootstrap has come to is never lost: over every run its records stay
sound, and its progress is kept from one stored status to the next.
-/
namespace Controller
open Foundation InstanceManager Boot List

variable {hashRequest : StartBody → String} {c b : CubridCluster} {log past : ClusterLog}
  {seen : List ClusterEntry} {x y z : Boot}

/-- The database, the members that hold it, in their order, and the attempts
    that were counted are kept. -/
structure Boot.Progress (x y : Boot) : Prop where
  created : x.database.primaryCreated = true → y.database.primaryCreated = true
  seeded : x.database.seededMembers <+: y.database.seededMembers
  attempts : ∀ recovering, x.attempts recovering ≤ y.attempts recovering

theorem Boot.Progress.refl (x : Boot) : Progress x x := ⟨id, prefix_refl _, fun _ => le_refl _⟩

theorem Boot.Progress.trans (first : Progress x y) (second : Progress y z) : Progress x z where
  created := second.created ∘ first.created
  seeded := first.seeded.trans second.seeded
  attempts recovering := (first.attempts recovering).trans (second.attempts recovering)

theorem Boot.Advance.progress (advance : Advance b seen x y) : Progress x y := by
  have same := fun recovering => (advance.attempts recovering).ge
  cases advance with
  | created | restored => exact ⟨fun _ => rfl, prefix_refl _, same⟩
  | seeded => exact ⟨id, prefix_append _ _, same⟩
  | _ => exact ⟨id, prefix_refl _, same⟩

theorem Boot.Reaches.progress (reaches : Reaches b seen x) : Boot.Progress b.boot x := by
  unfold Reaches at reaches
  induction reaches with
  | refl => exact Progress.refl _
  | tail _ advance ih => exact ih.trans advance.progress

theorem Boot.Halt.kept (halt : Halt b seen x y) :
    y.database.seededMembers = x.database.seededMembers ∧
    y.database.primaryCreated = x.database.primaryCreated := by
  have retried : ∀ d : DatabaseStatus, d.retried.seededMembers = d.seededMembers ∧
      d.retried.primaryCreated = d.primaryCreated :=
      fun d => ⟨(retried_fields d).2.2.2.1, (retried_fields d).2.2.2.2.1⟩
  cases halt with
  | failed => cases ‹BootStep› <;> first | exact ⟨rfl, rfl⟩ | exact retried _
  | running | missing | lost | stopped => cases ‹BootStep› <;> exact ⟨rfl, rfl⟩
  | _ => exact ⟨rfl, rfl⟩

theorem Boot.Moved.progress (moved : Moved b seen y) : Progress b.boot y := by
  have attempts : ∀ recovering, b.boot.attempts recovering ≤ y.attempts recovering := by
    intro recovering
    rcases moved.attempts recovering with same | ⟨x, -, same, more, -⟩
    · exact same.ge
    · omega
  cases moved with
  | same is => exact is ▸ Progress.refl _
  | @moved x z _ reaches halt is =>
    have reached := reaches.progress
    obtain ⟨members, there⟩ := halt.kept
    refine ⟨fun made => ?_, ?_, attempts⟩
    · rw [is]
      exact there.trans (reached.created made)
    · rw [is]
      exact members.symm ▸ reached.seeded

theorem stored_progress (justified : ClusterJustified hashRequest c log) :
    ∀ s ∈ storedIn c.created log, Boot.Progress s.boot (latest c.created log).boot := by
  refine latest_keeps (fun s now => Boot.Progress s.boot now.boot) justified
    (fun _ => Progress.refl _) ?_ ?_
  · intro s object seen past move _ _ before
    obtain ⟨created, seeded, attempts⟩ := before.trans move.moved.progress
    rw [persisted_boot]
    exact ⟨created, seeded, fun recovering => persisted_attempts object.boot recovering ▸
      attempts recovering⟩
  · rintro s _ _ ⟨edit, rfl⟩ before
    exact before

/-- The members that the database is copied to, in the order of their ordinals. -/
def ClusterDefinition.peers (k : ClusterDefinition) : List String :=
  (memberNames k.name k.spec.promotableMembers).filter (· ≠ k.firstMember)

theorem nextPeer_after {k : ClusterDefinition} {d : DatabaseStatus} {m : String}
    (front : d.seededMembers <+: k.peers) (next : k.nextPeer d = some m) :
    d.seededMembers ++ [m] <+: k.peers := by
  have distinct : k.peers.Nodup := (memberNames_nodup _ _).filter _
  have next : k.peers.find? (· ∉ d.seededMembers) = some m := by
    unfold ClusterDefinition.peers
    rw [find?_filter, ← next]
    unfold ClusterDefinition.nextPeer
    simp
  obtain ⟨rest, is⟩ := front
  rw [← is] at next distinct ⊢
  rw [find?_append, find?_eq_none.mpr (by simp), Option.none_or] at next
  cases rest with
  | nil => cases next
  | cons first rest =>
    have new : first ∉ d.seededMembers :=
      fun old => (disjoint_of_nodup_append distinct) old mem_cons_self
    rw [find?_cons_of_pos (by simpa using new)] at next
    cases next
    exact ⟨rest, by simp⟩

theorem Boot.Reaches.ordered (reaches : Reaches b seen x) (live : b.boot.Live)
    (sound : b.boot.Sound b) (front : b.database.seededMembers <+: ClusterDefinition.peers b) :
    x.database.seededMembers <+: ClusterDefinition.peers b := by
  unfold Reaches at reaches
  induction reaches with
  | refl => exact front
  | tail before advance ih =>
    cases advance with
    | seeded at_ =>
      cases at_ with
      | restore _ is =>
        exact nextPeer_after ih ((Reaches.live_coherent before live sound).2.next _ is)
    | _ => exact ih

theorem stored_ordered (justified : ClusterJustified hashRequest c log) :
    ∀ s ∈ storedIn c.created log, s.database.seededMembers <+: ClusterDefinition.peers s := by
  refine stored_induction (fun _ (s : CubridCluster) => s.boot.database.seededMembers <+:
    ClusterDefinition.peers s) justified (fun _ _ _ => id) nil_prefix ?_ ?_ log (suffix_refl _)
  · intro i object seen past _ _ move justified before
    have stored := @latest_mem _ _ _ _ c.created past
    have front := before past (suffix_refl _) _ stored
    rw [persisted_boot]
    show object.boot.database.seededMembers <+: ClusterDefinition.peers object
    rw [move.definition]
    cases move.moved with
    | same is => exact is ▸ front
    | moved live reaches halt is =>
      rw [is]
      exact halt.kept.1.symm ▸ reaches.ordered live (stored_sound justified _ stored) front
  · rintro past after ⟨edit, rfl⟩ front
    exact front

section Results

variable (hashRequest c) (events : List (OperatorEvent ClusterQuery ClusterQuery.Ans ClusterEdit))

/-- Every status that a run stores is sound and is what the API server keeps of
    it, and what it records rests on the log up to it. -/
theorem stored_bootstraps_are_sound :
    (∀ s ∈ storedIn c.created (clusterLog hashRequest c events), s.boot.Sound s ∧
      s.boot.persisted = s.boot) ∧
    ∀ past, past <:+ clusterLog hashRequest c events → ∀ s ∈ storedIn c.created past,
      Boot.Ledger past s s.boot := by
  have justified := clusterLog_justified hashRequest c events
  constructor
  · intro s stored
    exact ⟨stored_sound justified s stored, stored_persisted justified s stored⟩
  · exact stored_ledgers justified

/-- From a stored status to every later one nothing of the progress is lost,
    whichever reconcile wrote it. -/
theorem bootstrap_progress_is_kept :
    (storedIn c.created (clusterLog hashRequest c events)).Pairwise fun later earlier =>
      Boot.Progress earlier.boot later.boot := by
  refine stored_pairwise (clusterLog_justified hashRequest c events) fun log justified => ?_
  exact stored_progress justified

/-- The members are seeded in the order of their ordinals, each once. -/
theorem members_are_seeded_in_order :
    (∀ s ∈ storedIn c.created (clusterLog hashRequest c events),
      s.database.seededMembers <+: ClusterDefinition.peers s) ∧
    ∀ s ∈ storedIn c.created (clusterLog hashRequest c events), s.database.seededMembers.Nodup := by
  have front := stored_ordered (clusterLog_justified hashRequest c events)
  exact ⟨front, fun s stored => (front s stored).sublist.nodup ((memberNames_nodup _ _).filter _)⟩

/-- A status names only what the members did: an operation that it records was
    made by the member of its step, for a request of that step, and a member
    that it calls seeded made a restore. -/
theorem recorded_operations_were_made :
    (∀ s ∈ storedIn c.created (clusterLog hashRequest c events),
      ∀ (step : BootStep) (id : OperationID),
      step.At s s.boot → step.recorded s.database = some id →
      ∃ req, (step.member s, id, req) ∈ (clusterRun hashRequest c events).world.members.made ∧
        req.kind = step.kind ∧ req.key = step.key s s.database) ∧
    ∀ s ∈ storedIn c.created (clusterLog hashRequest c events), ∀ m ∈ s.database.seededMembers,
      ∃ id req, (m, id, req) ∈ (clusterRun hashRequest c events).world.members.made ∧
        req.kind = .restore := by
  have ledgers := stored_ledgers (clusterLog_justified hashRequest c events) _ (suffix_refl _)
  obtain ⟨_, -, world⟩ :=
    OperatorModel.plays_run (@cluster_keeps hashRequest) (createdCluster_sound c) events
  constructor
  · intro s stored step id at_ recorded
    cases ((ledgers s stored).traced at_).brought id recorded with
    | answered told is of =>
      obtain ⟨made, -⟩ := world.told _ _ told
      exact ⟨_, is ▸ made, of⟩
    | found told is =>
      obtain ⟨kind, key, req, made, of⟩ := world.told _ _ told
      exact ⟨req, is ▸ made, of.kind ▸ kind, of.key ▸ key⟩
  · intro s stored m seeded
    obtain ⟨op, read, -⟩ := (ledgers s stored).seeded m seeded
    cases read with
    | polled told kind =>
      obtain ⟨-, req, made, of⟩ := world.told _ _ told
      exact ⟨_, req, made, of.kind ▸ kind⟩
    | found told =>
      obtain ⟨kind, -, req, made, of⟩ := world.told _ _ told
      exact ⟨_, req, made, of.kind ▸ kind⟩
    | answered told kind => exact ⟨_, _, (world.told _ _ told).1, kind⟩

end Results
end Controller
