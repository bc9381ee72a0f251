import CubridOperator.InstanceManager.StoreMoves

/-!
The calls of the operation store, each with what it may do and what its answer
says.
-/
namespace InstanceManager
open Foundation Program Relation Function List

section Calls

variable {call : StoreCall} {start w : StoreWorld} {before : List OperationID}

theorem update_spec {id : OperationID} {m : Mutation}
    {post : Except StoreError Operation → StoreWorld → Prop} (asked : call = .update id m)
    (reach : Moves call before start w)
    (failed : ∀ e w', Moves call before start w' → post (.error e) w')
    (written : ∀ op w', Moves call before start w' → op.id = id →
      w'.Durably id (· = some (m.apply op)) → post (.ok (m.apply op)) w') :
    call.Ensures before start (update id m) post w := by
  have may : ∀ op w', ReadFrame w w' → op.id = id → w'.record id = some op →
      id ∉ w'.memory.interrupted → Move call before w' (w'.change (.put (m.apply op))) := by
    rintro op w' _ rfl present judged
    exact .mutate w' op m asked judged present
  refine updateLocked_spec reach may (fun e w' reach' _ => failed e w' reach')
    (fun _ => failed _ w reach) ?_
  rintro op w' reach' frame rfl present judged
  have synced := (reach'.tail (may op w' frame rfl present judged)).tail (.sync _)
  have named := (m.sameRequest op).id
  exact written op _ synced rfl (by simp [← named])

variable {post : Except StoreError Unit → StoreWorld → Prop}

theorem settle_spec {id : OperationID} {e : End} (asked : call = .settle id e)
    (reach : Moves call before start w)
    (failed : ∀ err w', Moves call before start w' → post (.error err) w')
    (settled : ∀ op w', Moves call before start w' → w'.Durably id (· = some (e.apply op)) →
      post (.ok ()) w') : call.Ensures before start (settle id e) post w := by
  unfold settle
  refine ensures_bind.mpr (perform_memory reach (ensures_bind.mpr (perform_setMemory reach ?_)))
  refine settleLocked_spec (reach.tail (.keepEnd w id e asked)) ?_ ?_
  · exact fun err w' reach' _ => failed err w' reach'
  · intro w' reach' _ written
    obtain ⟨op, durable⟩ := written e (by simp)
    exact settled op w' reach' durable

theorem unwrittenEnds_spec {post : List OperationID → StoreWorld → Prop}
    (reach : Moves call before start w)
    (next : ∀ ids w', Moves call before start w' → post ids w') :
    call.Ensures before start unwrittenEnds post w := by
  unfold unwrittenEnds
  refine ensures_bind.mpr (retryUnsettled_spec reach fun w' reach' => ?_)
  exact ensures_bind.mpr (perform_memory reach' (next _ w' reach'))

theorem findEach_spec {key : String} {ids : List OperationID}
    {post : Except StoreError (List Operation) → StoreWorld → Prop}
    (reach : Moves call before start w)
    (failed : ∀ e w', Moves call before start w' → post (.error e) w')
    (next : ∀ found w', Moves call before start w' → ReadFrame w w' →
      (∀ op ∈ found, op.idempotencyKey = key ∧ Answer w' op) →
      (∀ id ∈ ids, ∀ op, w'.record id = some op → op.idempotencyKey = key → op ∈ found) →
      post (.ok found) w') :
    call.Ensures before start (findEach key ids) post w := by
  induction ids generalizing w post with
  | nil => exact next [] w reach (ReadFrame.refl w) (by simp) (by simp)
  | cons id rest ih =>
    refine ensures_bind.mpr (readLocked_spec reach ?_ ?_ ?_)
    · intro e w' reach' frame other
      simp only [other]
      exact failed e w' reach'
    · intro missing
      refine ih reach failed fun found w'' reach'' frame answers all =>
        next found w'' reach'' frame answers ?_
      refine forall_mem_cons.mpr ⟨fun op visible => ?_, all⟩
      cases (frame.missing id missing).symm.trans visible
    · rintro op w' reach' frame rfl present judged
      dsimp only
      split
      · rename_i matched
        refine ensures_bind.mpr (perform_memory reach' ?_)
        split
        · exact failed _ w' reach'
        · rename_i written
          have answer : Answer w' op := ⟨present, judged, by simpa using written⟩
          refine ensures_bind.mpr (ih reach' failed fun found w'' reach'' frame' answers all => ?_)
          refine next _ w'' reach'' (frame.trans frame') ?_
            (forall_mem_cons.mpr ⟨fun other visible _ => ?_, ?_⟩)
          · exact forall_mem_cons.mpr ⟨⟨matched, answer.of_readFrame frame'⟩, answers⟩
          · obtain rfl :=
              Option.some.inj (((frame'.record op.id judged).trans present).symm.trans visible)
            exact mem_cons_self
          · exact fun id member other visible same =>
              mem_cons_of_mem _ (all id member other visible same)
      · rename_i other
        refine ih reach' failed fun found w'' reach'' frame' answers all => ?_
        refine next found w'' reach'' (frame.trans frame') answers
          (forall_mem_cons.mpr ⟨fun now visible same => ?_, all⟩)
        obtain rfl :=
          Option.some.inj (((frame'.record op.id judged).trans present).symm.trans visible)
        exact absurd same other

theorem findByKey_spec {key : String}
    {post : Except StoreError (List Operation) → StoreWorld → Prop} (sound : start.Sound)
    (reach : Moves call before start w)
    (failed : ∀ e w', Moves call before start w' → post (.error e) w')
    (next : ∀ found w', Moves call before start w' →
      (∀ op ∈ found, op.idempotencyKey = key ∧ Answer w' op) →
      (∀ id op, w'.record id = some op → op.idempotencyKey = key → op ∈ found) →
      post (.ok found) w') :
    call.Ensures before start (findByKey key) post w := by
  unfold findByKey
  refine ensures_bind.mpr (retryUnsettled_spec reach fun w' reach' => ?_)
  refine ensures_bind.mpr (perform_readDir reach' (fun e => failed e w' reach') ?_)
  refine findEach_spec reach' failed fun found w'' reach'' frame answers all =>
    next found w'' reach'' answers ?_
  intro id op visible
  refine all id (StoreWorld.mem_entries.mpr ⟨frame.issued ▸ ((reach''.sound sound).named visible).2,
    ?_⟩) op visible
  rw [Option.isSome_iff_ne_none]
  intro missing
  cases (frame.missing id missing).symm.trans visible

/-- FindOrCreate creates only in a world that admits the operation. -/
theorem findListed_stages {kind : OperationKind} {key hash database : String}
    {crash : StoreWorld → Prop} {h : Handler StoreEffect StoreEffect.Ans StoreWorld StoreChoice}
    {post : Except StoreError (Operation × Bool) → StoreWorld → Prop}
    (env : ∀ {α : Type} {p : StoreM α} {post : α → StoreWorld → Prop} {w : StoreWorld},
      Ensures storeHandler crash p post w → Ensures h crash p post w)
    (sound : start.Sound) (reach : Moves call before start w)
    (here : ∀ w', Moves call before start w' → crash w')
    (failed : ∀ e w', Moves call before start w' → ReadFrame w w' → post (.error e) w')
    (existed : ∀ op w', Moves call before start w' → ReadFrame w w' → op.idempotencyKey = key →
      op.kind = kind → op.requestHash = hash → Answer w' op → post (.ok (op, true)) w')
    (admitted : ∀ w', Moves call before start w' → ReadFrame w w' → Admits w' kind key database →
      Ensures h crash (createRecord kind key hash database) post w') :
    Ensures h crash (findListed kind key hash database) post w := by
  unfold findListed
  refine ensures_bind.mpr
    (env ((listLocked_spec sound reach (fun e => failed e w reach (.refl w)) ?_).weaken here))
  intro ops w₂ reach₂ frame covers visible judged _
  refine ensures_bind.mpr (env (perform_memory (here w₂ reach₂) ?_))
  split
  · rename_i op matched
    have member := mem_of_find?_eq_some matched
    have same := find?_some matched
    simp only [decide_eq_true_eq] at same
    split
    · exact failed _ w₂ reach₂ frame
    · rename_i hashed
      split
      · exact failed _ w₂ reach₂ frame
      · rename_i written
        exact existed op w₂ reach₂ frame same.1 same.2 (not_not.mp hashed)
          ⟨visible op member, judged op member, by simpa using written⟩
  · rename_i unmatched
    split
    · exact failed _ w₂ reach₂ frame
    · rename_i readable
      split
      · exact failed _ w₂ reach₂ frame
      · rename_i idle
        have all : ∀ id op, w₂.record id = some op → op ∈ ops := by
          intro id op found
          rcases covers id op found with member | kept
          · exact member
          · cases unreadable : w₂.memory.unreadable with
            | nil => simp [unreadable] at kept
            | cons => simp [unreadableErr, unreadable] at readable
        refine admitted w₂ reach₂ frame fun id op found => ?_
        have member := all id op found
        constructor
        · have := find?_eq_none.mp unmatched op member
          simpa using this
        · intro same
          simp only [any_eq_true, not_exists, not_and, decide_eq_true_eq] at idle
          have := idle op member same
          simpa using this

theorem findOrCreate_spec {kind : OperationKind} {key hash database : String}
    {post : Except StoreError (Operation × Bool) → StoreWorld → Prop}
    (asked : call = .findOrCreate kind key hash database) (sound : start.Sound)
    (known : ∀ id ∈ before, id ∈ start.issued) (reach : Moves call before start w)
    (failed : ∀ e w', Moves call before start w' → post (.error e) w')
    (existed : ∀ op w', Moves call before start w' → op.idempotencyKey = key → op.kind = kind →
      op.requestHash = hash → Answer w' op → post (.ok (op, true)) w')
    (created : ∀ id w', Moves call before start w' → id ∉ before → Admits w' kind key database →
      w'.record id = none →
      Moves call before start (w'.change (.put (newRecord id kind key hash database))).sync →
      post (.ok (newRecord id kind key hash database, false))
        (w'.change (.put (newRecord id kind key hash database))).sync) :
    call.Ensures before start (findOrCreate kind key hash database) post w := by
  unfold findOrCreate
  refine ensures_bind.mpr (retryUnsettled_spec reach fun w₁ reach₁ => ?_)
  refine findListed_stages id sound reach₁ (fun _ => id) (fun e w' reach _ => failed e w' reach)
    (fun op w' reach _ => existed op w' reach) fun w₂ reach₂ _ admits => ?_
  unfold createRecord
  refine ensures_bind.mpr (perform_newOperationID reach₂ (fun e => failed e w₂ reach₂) ?_)
  intro id fresh
  have issued := reach₂.tail (.issue w₂ id fresh)
  have unused : id ∉ before := fun old => fresh (reach₂.issued (known id old))
  have missing : (w₂.issue id).record id = none := by
    cases present : w₂.record id with
    | none => simpa using present
    | some op => exact absurd ((reach₂.sound sound).named present).2 fresh
  have may : Move call before (w₂.issue id)
      ((w₂.issue id).change (.put (newRecord id kind key hash database))) :=
    .create _ id kind key hash database asked unused (by simp) missing admits
  have discard : ∀ e w', Moves call before start w' →
      (∀ op, w'.record id = some op → op.state.isTerminal = false) →
      call.Ensures before start (perform (.remove id))
        (fun _ w'' => post (.error e) w'') w' := by
    intro e w' reach' running
    exact perform_remove reach' (fun _ => failed e w' reach')
      (failed e _ (reach'.tail (.discard w' id unused running)))
  refine ensures_bind.mpr (writeLocked_spec issued may ?_ ?_ ?_)
  · exact fun _ _ => ensures_bind.mpr (discard _ _ issued (by simp [missing]))
  · refine fun _ _ => ensures_bind.mpr (discard _ _ (issued.tail may) fun op visible => ?_)
    simp only [StoreWorld.record_put, newRecord_id, update_self] at visible
    cases visible
    rfl
  · exact created id (w₂.issue id) issued unused admits missing ((issued.tail may).tail (.sync _))

theorem failEach_spec {ops : List Operation} (asked : call = .start)
    (reach : Moves call before start w) (visible : ∀ op ∈ ops, w.record op.id = some op)
    (distinct : (ops.map (·.id)).Nodup)
    (failed : ∀ e w', Moves call before start w' → post (.error e) w')
    (next : ∀ w', Moves call before start w' → w'.memory = w.memory →
      (∀ op ∈ ops, ∃ now, w'.record op.id = some now ∧ now.state.isTerminal = true) →
      (∀ id, id ∉ ops.map (·.id) → w'.record id = w.record id) → post (.ok ()) w') :
    call.Ensures before start (failEach ops) post w := by
  induction ops generalizing w post with
  | nil => exact next w reach rfl (by simp) fun _ _ => rfl
  | cons op rest ih =>
    rw [map_cons, nodup_cons] at distinct
    have present := visible op mem_cons_self
    have later : ∀ other ∈ rest, w.record other.id = some other :=
      fun other member => visible other (mem_cons_of_mem _ member)
    unfold failEach
    split
    · rename_i ended
      refine ih reach later distinct.2 failed fun w' reach' memory all others => ?_
      have kept : w'.record op.id = some op := (others op.id distinct.1).trans present
      refine next w' reach' memory ?_ fun id other => ?_
      · rintro k (_ | ⟨_, member⟩)
        · exact ⟨op, kept, ended⟩
        · exact all k member
      · exact others id fun member => other (mem_cons_of_mem _ member)
    · rename_i running
      have may : Move call before w (w.change (.put op.interrupt)) :=
        .failOnStart w op asked present (by simpa using running)
      refine ensures_bind.mpr (writeLocked_spec reach may ?_ ?_ ?_)
      · exact fun _ _ => failed _ w reach
      · exact fun _ _ => failed _ _ (reach.tail may)
      · have untouched : ∀ other ∈ rest,
            (w.change (.put op.interrupt)).sync.record other.id = some other := by
          intro other member
          have differs : other.id ≠ op.interrupt.id := by
            rintro same
            exact distinct.1 (mem_map.mpr ⟨other, member, same⟩)
          simpa [update_of_ne differs] using later other member
        refine ih ((reach.tail may).tail (.sync _)) untouched distinct.2 failed
          fun w' reach' memory all others => ?_
        have kept : w'.record op.id = some op.interrupt := by
          rw [others op.id distinct.1, show op.id = op.interrupt.id from rfl]
          simp
        refine next w' reach' memory ?_ fun id other => ?_
        · rintro k (_ | ⟨_, member⟩)
          · exact ⟨op.interrupt, kept, rfl⟩
          · exact all k member
        · rw [map_cons, mem_cons, not_or] at other
          have differs : id ≠ op.interrupt.id := other.1
          rw [others id other.2]
          simp [update_of_ne differs]

/-- A start that succeeds leaves no visible record that has not ended, except
    those it could not read, which it remembers. -/
theorem newOperationStore_spec (asked : call = .start) (sound : start.Sound)
    (reach : Moves call before start w)
    (failed : ∀ e w', Moves call before start w' → post (.error e) w')
    (ready : ∀ w', Moves call before start w' →
      (∀ id op, w'.record id = some op → op.state.isTerminal = true ∨ id ∈ w'.memory.interrupted) →
      post (.ok ()) w') :
    call.Ensures before start newOperationStore post w := by
  unfold newOperationStore
  refine ensures_bind.mpr (perform_mkdirAll reach fun answer => ?_)
  cases answer with
  | error e => exact failed e w reach
  | ok _ =>
    unfold reconcileOnStart
    refine ensures_bind.mpr (listLocked_spec sound reach (fun e => failed e w reach) ?_)
    intro ops w₁ reach₁ _ covers visible _ distinct
    refine ensures_bind.mpr (perform_memory reach₁ (ensures_bind.mpr (perform_setMemory reach₁ ?_)))
    refine failEach_spec asked (reach₁.tail (.noteUnreadable w₁ asked)) visible distinct failed ?_
    intro w₂ reach₂ memory all others
    refine ready w₂ reach₂ fun id op found => ?_
    by_cases listed : id ∈ ops.map (·.id)
    · obtain ⟨old, member, rfl⟩ := mem_map.mp listed
      obtain ⟨now, current, ended⟩ := all old member
      rw [found] at current
      cases current
      exact .inl ended
    · rw [others id listed] at found
      rcases covers id op found with member | kept
      · exact absurd (mem_map.mpr ⟨op, member, ((reach₁.sound sound).named found).1⟩) listed
      · exact .inr (by rw [memory]; exact kept)

end Calls

inductive StoreReply where
  | error (e : StoreError)
  | created (op : Operation)
  | answered (ops : List Operation)
  | updated (op : Operation)
  | done

def StoreCall.program : StoreCall → StoreM StoreReply
  | .start => do
    match ← newOperationStore with
    | .error e => pure (.error e)
    | .ok () => pure .done
  | .findOrCreate kind key hash database => do
    match ← InstanceManager.findOrCreate kind key hash database with
    | .error e => pure (.error e)
    | .ok (op, true) => pure (.answered [op])
    | .ok (op, false) => pure (.created op)
  | .findByKey key => do
    match ← InstanceManager.findByKey key with
    | .error e => pure (.error e)
    | .ok ops => pure (.answered ops)
  | .get id => do
    match ← InstanceManager.get id with
    | .error e => pure (.error e)
    | .ok op => pure (.answered [op])
  | .update id m => do
    match ← InstanceManager.update id m with
    | .error e => pure (.error e)
    | .ok op => pure (.updated op)
  | .settle id e => do
    match ← InstanceManager.settle id e with
    | .error err => pure (.error err)
    | .ok () => pure .done
  | .unwrittenEnds => do
    let _ ← InstanceManager.unwrittenEnds
    pure .done

def StoreReply.Holds (call : StoreCall) (w w' : StoreWorld) : StoreReply → Prop
  | .created op => ∃ kind key hash database w₁, call = .findOrCreate kind key hash database ∧
      op = newRecord op.id kind key hash database ∧ op.id ∉ w.issued ∧
      Moves call w.issued w w₁ ∧ Admits w₁ kind key database ∧ w₁.record op.id = none ∧
      w' = (w₁.change (.put op)).sync
  | .answered ops => call ≠ .start ∧ (∀ op ∈ ops, Answer w' op) ∧
      (∀ id, call = .get id → ∃ op, ops = [op] ∧ op.id = id) ∧
      (∀ kind key hash database, call = .findOrCreate kind key hash database →
        ∃ op, ops = [op] ∧ op.idempotencyKey = key ∧ op.kind = kind ∧ op.requestHash = hash) ∧
      ∀ key, call = .findByKey key → (∀ op ∈ ops, op.idempotencyKey = key) ∧
        ∀ id op, w'.record id = some op → op.idempotencyKey = key → op ∈ ops
  | .updated op => ∃ id m old, call = .update id m ∧ op = Mutation.apply old m ∧ op.id = id ∧
      w'.Durably id (· = some op)
  | .done => (call = .start → ∀ id op, w'.record id = some op →
      op.state.isTerminal = true ∨ id ∈ w'.memory.interrupted) ∧
      ∀ id e, call = .settle id e → ∃ op, w'.Durably id (· = some (End.apply op e))
  | .error _ => True

/-- Every call makes only moves, wherever the process ends, and its reply tells
    the truth. -/
theorem program_spec (call : StoreCall) {w : StoreWorld} (sound : w.Sound) :
    Ensures storeHandler (Moves call w.issued w) call.program
      (fun reply w' => Moves call w.issued w w' ∧ reply.Holds call w w') w := by
  have here : Moves call w.issued w w := .refl
  cases call with
  | start =>
    refine ensures_bind.mpr (newOperationStore_spec rfl sound here ?_ ?_)
    · exact fun e w' reach => ⟨reach, trivial⟩
    · exact fun w' reach ready => ⟨reach, fun _ => ready, by simp⟩
  | findOrCreate kind key hash database =>
    refine ensures_bind.mpr (findOrCreate_spec rfl sound (fun _ => id) here ?_ ?_ ?_)
    · exact fun e w' reach => ⟨reach, trivial⟩
    · intro op w' reach named kinds hashed answer
      refine ⟨reach, by simp, by simpa using answer, by simp, ?_, by simp⟩
      rintro _ _ _ _ ⟨⟩
      exact ⟨op, rfl, named, kinds, hashed⟩
    · intro id w₁ reach unused admits missing written
      exact ⟨written, kind, key, hash, database, w₁, rfl, rfl, unused, reach, admits, missing, rfl⟩
  | findByKey key =>
    refine ensures_bind.mpr (findByKey_spec sound here ?_ ?_)
    · exact fun e w' reach => ⟨reach, trivial⟩
    · intro found w' reach answers all
      refine ⟨reach, by simp, fun op member => (answers op member).2, by simp, by simp, ?_⟩
      rintro _ ⟨⟩
      exact ⟨fun op member => (answers op member).1, all⟩
  | get id =>
    refine ensures_bind.mpr (get_spec here ?_ ?_)
    · exact fun e w' reach _ => ⟨reach, trivial⟩
    · intro op w' reach named answer
      refine ⟨reach, by simp, by simpa using answer, ?_, by simp, by simp⟩
      rintro _ ⟨⟩
      exact ⟨op, rfl, named⟩
  | update id m =>
    refine ensures_bind.mpr (update_spec rfl here ?_ ?_)
    · exact fun e w' reach => ⟨reach, trivial⟩
    · intro old w' reach named durable
      exact ⟨reach, id, m, old, rfl, rfl, (m.sameRequest old).id.trans named, durable⟩
  | settle id e =>
    refine ensures_bind.mpr (settle_spec rfl here ?_ ?_)
    · exact fun err w' reach => ⟨reach, trivial⟩
    · intro op w' reach durable
      refine ⟨reach, by simp, ?_⟩
      rintro _ _ ⟨⟩
      exact ⟨op, durable⟩
  | unwrittenEnds =>
    refine ensures_bind.mpr (unwrittenEnds_spec here ?_)
    exact fun ids w' reach => ⟨reach, by simp, by simp⟩

end InstanceManager
