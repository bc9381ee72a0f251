import CubridOperator.InstanceManager.RequestSpecs

/-!
What the store and the reclaim do where nothing fails.
-/
namespace InstanceManager
open Foundation Program Relation

section Undisturbed

variable {w : StoreWorld} {id : OperationID}

theorem storeHandler_answers (w : StoreWorld) (e : StoreEffect) :
    ((storeHandler w e .ok).2).isSome = true := by
  cases e with
  | readFile id =>
    simp only [storeHandler]
    split <;> rfl
  | remove id =>
    simp only [storeHandler, StoreChoice.failure]
    split <;> rfl
  | _ => rfl

theorem writeLocked_completes (op : Operation) :
    (writeLocked op).Completes storeHandler .ok (fun answer _ => answer = .ok ()) w := rfl

theorem failEach_completes (ops : List Operation) :
    (failEach ops).Completes storeHandler .ok (fun answer _ => answer = .ok ()) w := by
  induction ops generalizing w with
  | nil => rfl
  | cons op rest ih =>
    unfold failEach
    split
    · exact ih
    · refine completes_bind.mpr ((writeLocked_completes op.interrupt).mono ?_)
      rintro _ w' rfl
      exact ih

theorem listLocked_completes :
    listLocked.Completes storeHandler .ok (fun answer _ => ∃ ops, answer = .ok ops) w := by
  change (readEach w.entries >>= _).Completes storeHandler .ok _ w
  refine completes_bind.mpr ((completes_of_answers storeHandler_answers _ w).mono ?_)
  rintro ⟨ops, unreadable⟩ w' -
  exact ⟨ops, rfl⟩

theorem start_completes :
    (StoreCall.program .start).Completes storeHandler .ok (fun reply _ => reply = .done) w := by
  have reconciled : reconcileOnStart.Completes storeHandler .ok
      (fun answer _ => answer = .ok ()) w := by
    unfold reconcileOnStart
    refine completes_bind.mpr (listLocked_completes.mono ?_)
    rintro _ w' ⟨ops, rfl⟩
    exact failEach_completes ops
  refine completes_bind.mpr (completes_iff.mpr ?_)
  obtain ⟨answer, w', same, rfl⟩ := completes_iff.mp reconciled
  exact ⟨.ok (), w', same, rfl⟩

theorem get_completes {op : Operation} (found : w.record id = some op) (named : op.id = id)
    (usable : op.idempotencyKey ≠ "") (settled : w.memory.keptEnd id = none) :
    (StoreCall.program (.get id)).Completes storeHandler .ok
      (fun reply _ => ∃ now, reply = .answered [now]) w := by
  have judged : (failInterruptedLocked op).Completes storeHandler .ok
      (fun answer _ => ∃ now, answer = .ok now) w := by
    unfold failInterruptedLocked
    split
    · exact ⟨op, rfl⟩
    · exact ⟨op.interrupt, rfl⟩
  have decoded : (decodeLocked id).Completes storeHandler .ok
      (fun answer w' => answer = .ok op ∧ w' = w) w := by
    refine completes_bind.mpr (completes_iff.mpr ⟨.ok op, w, ?_, ?_⟩)
    · simp [perform, ask, finish, storeHandler, found]
    · simp [named, usable, Completes, pure]
  have read : (readLocked id).Completes storeHandler .ok
      (fun answer _ => ∃ now, answer = .ok now) w := by
    refine completes_bind.mpr (decoded.mono ?_)
    rintro _ _ ⟨rfl, rfl⟩
    change Completes storeHandler .ok (if id ∈ _ then failInterruptedLocked op
      else pure (.ok op)) _ _
    split
    · exact judged
    · exact ⟨op, rfl⟩
  have unkept : (settleLocked id).Completes storeHandler .ok
      (fun answer w' => answer = .ok () ∧ w' = w) w := by
    simp [settleLocked, perform, ask, completes_bind, Completes, storeHandler, settled, pure]
  refine completes_bind.mpr (completes_bind.mpr (unkept.mono ?_))
  rintro _ _ ⟨rfl, rfl⟩
  refine read.mono ?_
  rintro _ w' ⟨now, rfl⟩
  exact ⟨now, rfl⟩

end Undisturbed

/-- An operation whose record can be used, shows no restored data, and neither
    is Completed nor is about to be. -/
structure Discardable (w : StoreWorld) (id : OperationID) : Prop where
  record : ∃ op, w.record id = some op ∧ op.idempotencyKey ≠ "" ∧ op.restored = none ∧
    op.state ≠ .completed
  kept : ∀ a, w.memory.keptEnd id ≠ some (.completed a)

section Discardable

variable {c : StoreCall} {before : List OperationID} {w w' : StoreWorld} {id : OperationID}

theorem Discardable.kill (discardable : Discardable w id) : Discardable w.kill id :=
  ⟨discardable.record, fun _ held => by cases held⟩

theorem Move.restoredOp (move : Move c before w w') (old : id ∈ before)
    (restored : RestoredOp (w.record id)) : RestoredOp (w'.record id) := by
  rcases move.record_cases old with same | ⟨op, now, found, visible, rewritten⟩
  · rw [same]
    exact restored
  · obtain ⟨current, present, some⟩ := restored
    rw [found] at present
    cases present
    exact ⟨now, visible, rewritten.rewrite.restored some⟩

theorem Moves.restoredOp (moves : Moves c before w w') (old : id ∈ before)
    (restored : RestoredOp (w.record id)) : RestoredOp (w'.record id) := by
  induction moves with
  | refl => exact restored
  | tail _ move ih => exact move.restoredOp old ih

theorem Move.discardable (move : Move c before w w') (old : id ∈ before)
    (notCompleted : ∀ a, c ≠ .settle id (.completed a)) (discardable : Discardable w id) :
    Discardable w' id ∨ RestoredOp (w'.record id) ∧ ∃ m, c = .update id m := by
  have kept : ∀ a, w'.memory.keptEnd id ≠ some (.completed a) := by
    intro a held
    rcases move.keptEnd_cases held with before | asked
    · exact discardable.kept a before
    · exact notCompleted a asked
  obtain ⟨op, found, keyed, unrestored, open'⟩ := discardable.record
  rcases move.record_cases old with same | ⟨current, now, present, visible, rewritten⟩
  · exact .inl ⟨⟨op, same.trans found, keyed, unrestored, open'⟩, kept⟩
  · rw [found] at present
    cases present
    cases rewritten with
    | interrupt => exact .inl ⟨⟨_, visible, keyed, unrestored, by simp⟩, kept⟩
    | ended e held =>
      rcases e with reason | artifact
      · exact .inl ⟨⟨_, visible, keyed, unrestored, by simp [End.apply]⟩, kept⟩
      · exact absurd held (discardable.kept artifact)
    | mutated m asked =>
      cases m with
      | enter state =>
        refine .inl ⟨⟨_, visible, keyed, unrestored, fun done => ?_⟩, kept⟩
        have running := state.property
        rw [show state.val = .completed from done] at running
        cases running
      | setRestored artifact => exact .inr ⟨⟨_, visible, rfl⟩, _, asked⟩
      | setStagingDir dir => exact .inl ⟨⟨_, visible, keyed, unrestored, open'⟩, kept⟩

theorem Moves.discardable (moves : Moves c before w w') (old : id ∈ before)
    (notCompleted : ∀ a, c ≠ .settle id (.completed a)) (discardable : Discardable w id) :
    Discardable w' id ∨ RestoredOp (w'.record id) ∧ ∃ m, c = .update id m := by
  induction moves with
  | refl => exact .inl discardable
  | tail _ move ih =>
    rcases ih with still | ⟨restored, asked⟩
    · exact move.discardable old notCompleted still
    · exact .inr ⟨move.restoredOp old restored, asked⟩

end Discardable

structure Recovered (w : StoreWorld) (id : OperationID) : Prop where
  sound : w.Sound
  discardable : Discardable w id
  judged : Judged w id
  settled : w.memory.keptEnd id = none

namespace Recovered

variable {c : StoreCall} {w w' : StoreWorld} {id : OperationID}

theorem issued (recovered : Recovered w id) : id ∈ w.issued := by
  obtain ⟨op, found, -⟩ := recovered.discardable.record
  exact (recovered.sound.named found).2

theorem moves (recovered : Recovered w id) (moves : Moves c w.issued w w') (notStart : c ≠ .start)
    (notUpdate : ∀ m, c ≠ .update id m) (notSettle : ∀ e, c ≠ .settle id e) : Recovered w' id where
  sound := moves.sound recovered.sound
  discardable := by
    rcases moves.discardable recovered.issued (fun _ => notSettle _) recovered.discardable with
      still | ⟨-, m, asked⟩
    · exact still
    · exact absurd asked (notUpdate m)
  judged := moves.staysJudged recovered.issued notStart notUpdate recovered.judged
  settled := by
    have unkept := recovered.settled
    clear recovered
    induction moves with
    | refl => exact unkept
    | tail _ move ih =>
      refine Option.eq_none_iff_forall_ne_some.mpr fun e held => ?_
      rcases move.keptEnd_cases held with before | asked
      · rw [ih] at before
        cases before
      · exact notSettle e asked

theorem get (recovered : Recovered w id) :
    (StoreCall.program (.get id)).Completes storeHandler .ok
      (fun reply _ => ∃ now, reply = .answered [now] ∧ now.state = .failed ∧
        now.restored = none) w := by
  obtain ⟨op, found, keyed, -, -⟩ := recovered.discardable.record
  have returns := get_completes found (recovered.sound.named found).1 keyed recovered.settled
  refine ((program_spec (.get id) recovered.sound).completes returns).mono ?_
  rintro _ w' ⟨⟨moved, holds⟩, now, rfl⟩
  have after := recovered.moves moved (by simp) (by simp) (by simp)
  have answer := holds.2.1 now (by simp)
  obtain ⟨_, ⟨⟩, rfl⟩ := holds.2.2.1 id rfl
  obtain ⟨current, visible, -, unrestored, open'⟩ := after.discardable.record
  rw [answer.visible] at visible
  cases visible
  refine ⟨_, rfl, ?_, unrestored⟩
  have ended : now.state.isTerminal = true := by
    by_contra running
    exact answer.judged (after.judged now answer.visible (by simpa using running))
  exact ((isTerminal_iff _).mp ended).resolve_left open'

end Recovered

section Reclaim

variable {v : Volume} {database : String} {n : Nat}

theorem manage_completes {e : ManagerEffect} {post : e.Ans → Volume → Prop} (v' : Volume)
    (answer : e.Ans) (same : v.effect e {} = (v', some answer)) (holds : post answer v') :
    (manage e).Completes volumeHandler {} post v :=
  completes_iff.mpr ⟨answer, v', by simp [manage, ask, finish, volumeHandler, same], holds⟩

theorem manage_store_completes {c : StoreCall} {post : StoreReply → Volume → Prop}
    (returns : c.program.Completes storeHandler .ok
      (fun reply w => post reply (v.setStore w)) v.store) :
    (manage (.store c)).Completes volumeHandler {} post v := by
  obtain ⟨reply, w, same, holds⟩ := completes_iff.mp returns
  exact manage_completes _ _ (by simp [Volume.effect, Volume.callStore, same]) holds

theorem markedOperation_completes {id : OperationID} (recovered : Recovered v.store id) :
    (markedOperation (.operation id)).Completes volumeHandler {} (fun answer v' => ∃ now w,
      answer = .ok now ∧ now.state = .failed ∧ now.restored = none ∧ v' = v.setStore w) v := by
  refine completes_bind.mpr (manage_store_completes (recovered.get.mono ?_))
  rintro _ w ⟨now, rfl, failed, unrestored⟩
  exact ⟨now, w, rfl, failed, unrestored, rfl⟩

theorem unregister_completes :
    (unregisterDatabaseLocked database false).Completes volumeHandler {} (fun answer v' =>
      answer = .ok () ∧ v'.registered database = false ∧ v'.home = v.home ∧
      v'.tomb = v.tomb) v := by
  refine completes_bind.mpr (manage_completes _ _ rfl ?_)
  cases registry : v.view.txt with
  | none => exact ⟨rfl, by simp [Volume.registered, registry], rfl, rfl⟩
  | some text =>
    dsimp only
    rw [if_neg (by simp)]
    split
    · rename_i unnamed
      refine ⟨rfl, ?_, rfl, rfl⟩
      simpa [Volume.registered, registry] using registeredIn_of_not_named (by simpa using unnamed)
    · have left :
          (v.change (.txt (some (Text.unlines (otherLines database text))))).registered database =
          false := by
        simpa [Volume.registered, RootChange.apply] using registeredIn_otherLines database text
      refine completes_bind.mpr (completes_iff.mpr
        ⟨.ok (), (v.change (.txt (some (Text.unlines (otherLines database text))))).syncRoot, rfl,
          ?_⟩)
      refine ⟨rfl, by simpa [Volume.registered] using left, ?_, ?_⟩
      · funext other
        simp [Volume.home, RootChange.apply]
      · funext other
        simp [Volume.tomb, RootChange.apply]

theorem removeTomb_completes {cfg : Config}
    (apart : ∀ n, v.home database = some n → v.tomb database ≠ some n) :
    (removeTomb cfg database).Completes volumeHandler {} (fun answer v' => answer = .ok () ∧
      v'.tomb database = none ∧ v'.home = v.home ∧ v'.view.txt = v.view.txt ∧ v'.store = v.store ∧
      ∀ n, v.home database = some n → v'.marker (database, n) = v.marker (database, n)) v := by
  refine completes_bind.mpr (manage_completes _ _ rfl ?_)
  cases aside : v.tomb database with
  | none =>
    have absent : (v.entry (.tomb database)).isSome = false := by simp [Volume.entry, aside]
    rw [absent]
    exact ⟨rfl, aside, rfl, rfl, rfl, fun _ _ => rfl⟩
  | some m =>
    have present : (v.entry (.tomb database)).isSome = true := by simp [Volume.entry, aside]
    rw [present]
    refine completes_bind.mpr (manage_completes (v.remove (.tomb database) m .whole) (.ok ()) ?_ ?_)
    · simp [Volume.effect, Volume.removeAll, Volume.entry, aside]
    · refine ⟨rfl, ?_, ?_, ?_, by simp, fun n here => ?_⟩
      · simp [Volume.remove, Volume.tomb, RootChange.apply]
      · funext other
        simp [Volume.remove, Volume.home, RootChange.apply, Volume.setMarker, Volume.harm]
      · simp [Volume.remove, RootChange.apply, Volume.setMarker, Volume.harm]
      · refine Volume.marker_remove .whole fun same => apart n here ?_
        have number : n = m := (Prod.ext_iff.mp same).2
        rw [aside, number]

theorem removeUnfinished_completes {cfg : Config} (here : v.home database = some n)
    (free : v.tomb database = none) :
    (removeUnfinished cfg database).Completes volumeHandler {} (fun answer v' =>
      answer = .ok () ∧ v'.home database = none ∧ v'.registered database = false) v := by
  refine completes_bind.mpr (unregister_completes.mono ?_)
  rintro _ v₁ ⟨rfl, unregistered, homes, tombs⟩
  have here₁ : v₁.home database = some n := by rw [homes]; exact here
  have free₁ : v₁.tomb database = none := by rw [tombs]; exact free
  refine completes_bind.mpr (manage_completes (v₁.setAside database n) (.ok ()) ?_ ?_)
  · simp [Volume.effect, here₁, free₁]
  refine completes_bind.mpr (manage_completes ((v₁.setAside database n).syncRoot) (.ok ()) rfl ?_)
  refine completes_bind.mpr
    (manage_completes ((v₁.setAside database n).syncRoot.remove (.tomb database) n .whole)
      (.ok ()) ?_ ?_)
  · have moved : (v₁.setAside database n).syncRoot.tomb database = some n := by
      simp [Volume.tomb, Volume.setAside, RootChange.apply]
    simp [Volume.effect, Volume.removeAll, Volume.entry, moved]
  · refine ⟨rfl, ?_, ?_⟩
    · simp [Volume.home, Volume.remove, Volume.setMarker, Volume.harm, Volume.setAside,
        RootChange.apply]
    · simpa [Volume.registered, Volume.remove, Volume.setMarker, Volume.harm, Volume.setAside,
        RootChange.apply] using unregistered

theorem reclaim_unmarked (cfg : Config) (valid : isDatabaseName database = true)
    (apart : ∀ n, v.home database = some n → v.tomb database ≠ some n)
    (bare : ∀ n, v.home database = some n → v.marker (database, n) = none) :
    (reclaimIncomplete cfg database).Completes volumeHandler {} (fun answer v' =>
      answer = .ok () ∧ v'.home = v.home ∧ v'.registered database = v.registered database) v := by
  unfold reclaimIncomplete
  rw [if_neg (by simp [valid])]
  refine completes_bind.mpr
    (manage_completes _ _ rfl (completes_bind.mpr ((removeTomb_completes apart).mono ?_)))
  rintro _ v₁ ⟨rfl, -, homes, registry, -, markers⟩
  have unread : ((v₁.home database).bind fun n => v₁.marker (database, n)) = none := by
    rw [homes]
    cases here : v.home database with
    | none => rfl
    | some n => exact (markers n here).trans (bare n here)
  refine completes_bind.mpr (manage_completes v₁ (.ok none) ?_ ?_)
  · simp [Volume.effect, Volume.read, unread]
  · exact ⟨rfl, homes, by simp [Volume.registered, registry]⟩

theorem reclaim_recovered (cfg : Config) {id : OperationID} (valid : isDatabaseName database = true)
    (apart : ∀ n, v.home database = some n → v.tomb database ≠ some n)
    (here : v.home database = some n) (marked : v.marker (database, n) = some (.operation id))
    (recovered : Recovered v.store id) :
    (reclaimIncomplete cfg database).Completes volumeHandler {} (fun answer v' =>
      answer = .ok () ∧ v'.home database = none ∧ v'.registered database = false) v := by
  unfold reclaimIncomplete
  rw [if_neg (by simp [valid])]
  refine completes_bind.mpr
    (manage_completes _ _ rfl (completes_bind.mpr ((removeTomb_completes apart).mono ?_)))
  rintro _ v₁ ⟨rfl, free, homes, -, same, markers⟩
  have here₁ : v₁.home database = some n := by rw [homes]; exact here
  refine completes_bind.mpr (manage_completes v₁ (.ok (some (.operation id))) ?_ ?_)
  · simp [Volume.effect, Volume.read, here₁, markers n here, marked]
  refine completes_bind.mpr ((markedOperation_completes (same ▸ recovered)).mono ?_)
  rintro _ _ ⟨now, w, rfl, failed, unrestored, rfl⟩
  simp only [failed, unrestored, Option.isSome_none, Bool.false_eq_true, if_false]
  exact removeUnfinished_completes here₁ free

end Reclaim

end InstanceManager
