import CubridOperator.Foundation.Runs
import CubridOperator.Foundation.Threads
import CubridOperator.InstanceManager.ArtifactRoundTrip

/-!
Uploads and restores over one object store, in any order of their steps.
-/
namespace InstanceManager
open Foundation Program Function List Option

section Restoring

structure RestoreWorld where
  staging : StagingWorld
  copied : List (List Text × List UInt8) := []

def loggedHandler (digest : List UInt8 → String) :
    Handler ManagerEffect ManagerEffect.Ans RestoreWorld StagingChoice := fun w e c =>
  ({ staging := (stagingHandler digest w.staging e c).1
     copied := match e with
      | .staging _ (.copy key _) => (Path.elements key.toList, c.bytes) :: w.copied
      | _ => w.copied },
    (stagingHandler digest w.staging e c).2)

def Copied (digest : List UInt8 → String) (obj : ManifestObject) (file : List Text × List UInt8) :
    Prop :=
  file.1 = obj.path ∧ digest file.2 = obj.sha256

variable {digest : List UInt8 → String} {dir : String} {w : RestoreWorld} {obj : ManifestObject}

theorem logged_rule {e : StagingEffect} {post : e.Ans → RestoreWorld → Prop}
    (next : ∀ c, post (w.staging.stage digest dir e c).2
      (loggedHandler digest w (.staging dir e) c).1) :
    Ensures (loggedHandler digest) (fun _ => True) (stage dir e) post w := ⟨trivial, next⟩

theorem stageObject_copied :
    Ensures (loggedHandler digest) (fun _ => True) (stageObject dir obj) (fun answer w' =>
      answer = .ok () → ∃ file, w'.copied = file :: w.copied ∧ Copied digest obj file) w := by
  unfold stageObject
  refine ensures_bind.mpr (logged_rule fun c₁ => ?_)
  split
  · exact fun h => by cases h
  refine ensures_bind.mpr (logged_rule fun c₂ => ?_)
  split
  · exact fun h => by cases h
  refine ensures_bind.mpr (logged_rule fun c₃ => ?_)
  split
  · exact fun h => by cases h
  refine ensures_bind.mpr (logged_rule fun c₄ => ?_)
  split
  · refine ensures_bind.mpr (logged_rule fun c₅ => ?_)
    exact fun h => by cases h
  · rename_i checked
    intro _
    have got := checkCopied_ok checked
    simp only [StagingWorld.stage, StagingWorld.copy] at got
    split at got
    · cases got
    · have sum := (Prod.ext_iff.mp (Except.ok.inj got)).2
      exact ⟨(Path.elements obj.key.toList, c₄.bytes), rfl, rfl, sum⟩

theorem stageEach_copied (objects : List ManifestObject) :
    Ensures (loggedHandler digest) (fun _ => True) (stageEach dir objects) (fun answer w' =>
      answer = .ok () → ∃ files, w'.copied = files.reverse ++ w.copied ∧
      List.Forall₂ (Copied digest) objects files) w := by
  induction objects generalizing w with
  | nil => exact fun _ => ⟨[], rfl, .nil⟩
  | cons obj rest ih =>
    refine stageObject_copied.bind fun answer w₁ copied => ?_
    cases answer with
    | error e => exact fun h => by cases h
    | ok _ =>
      obtain ⟨file, is, first⟩ := copied rfl
      refine ih.mono fun answer w₂ more ok => ?_
      obtain ⟨files, all, others⟩ := more ok
      exact ⟨file :: files, by simp [all, is], .cons first others⟩

theorem stageArtifact_copied {exp : ManifestExpectation} (nothing : w.copied = []) :
    Ensures (loggedHandler digest) (fun _ => True) (stageArtifact dir exp) (fun answer w' =>
      ∀ m, answer = .ok m → List.Forall₂ (Copied digest) m.objects w'.copied.reverse) w := by
  unfold stageArtifact
  refine ensures_bind.mpr (logged_rule fun c₁ => ?_)
  split
  · exact fun _ h => by cases h
  split
  · exact fun _ h => by cases h
  rename_i manifest _
  refine ensures_bind.mpr (logged_rule fun c₂ => ?_)
  split
  · exact fun _ h => by cases h
  refine ensures_bind.mpr (logged_rule fun c₃ => ?_)
  split
  · exact fun _ h => by cases h
  refine (stageEach_copied manifest.objects).bind fun answer w₄ copied => ?_
  cases answer with
  | error e => exact fun _ h => by cases h
  | ok _ =>
    intro m is
    obtain rfl := Except.ok.inj is
    obtain ⟨files, all, each⟩ := copied rfl
    have files_eq : w₄.copied.reverse = files := by
      rw [all]
      simp [loggedHandler, nothing]
    rw [files_eq]
    exact each

end Restoring

section Machine

structure UploadThread where
  call : UploadCall
  thread : Thread ManagerEffect ManagerEffect.Ans UploadWorld (Except String UploadResult)

structure RestoreCall where
  bucket : String
  above : Text
  exp : ManifestExpectation
  dir : String
  trees : String → StagingTree := fun _ => FileTree.empty

structure RestoreThread where
  call : RestoreCall
  thread : Thread ManagerEffect ManagerEffect.Ans RestoreWorld (Except String BackupManifest)

/-- The uploads and restores so far, and what each upload has put, the last
    object first. -/
structure ArtifactState where
  puts : List (Nat × Put) := []
  uploads : Nat → Option UploadThread := fun _ => none
  restores : Nat → Option RestoreThread := fun _ => none

/-- A restore reads what the store held before the last `late` objects were put. -/
inductive ArtifactEvent where
  | beginUpload (i : Nat) (call : UploadCall)
  | upload (i : Nat) (c : UploadChoice)
  | beginRestore (i : Nat) (call : RestoreCall)
  | restore (i : Nat) (c : StagingChoice) (late : Nat)

variable (codec : ManifestCodec) (digest : List UInt8 → String)

def UploadCall.begin (call : UploadCall) : UploadThread := ⟨call, {}, call.program⟩

def RestoreCall.begin (call : RestoreCall) : RestoreThread :=
  ⟨call, { staging := { trees := call.trees } }, stageArtifact call.dir call.exp⟩

def UploadThread.act (t : UploadThread) (c : UploadChoice) : UploadThread :=
  { t with thread := t.thread.act (uploadHandler digest codec t.call) c }

def UploadThread.added (t t' : UploadThread) : List Put :=
  t'.thread.world.puts.take (t'.thread.world.puts.length - t.thread.world.puts.length)

def restoreHandler (objects : Objects) (call : RestoreCall) :
    Handler ManagerEffect ManagerEffect.Ans RestoreWorld StagingChoice := fun w e c =>
  match e with
  | .staging dir effect =>
    loggedHandler digest w (.staging dir effect)
      (storeChoice codec objects call.bucket call.above effect c)
  | e => loggedHandler digest w e c

def RestoreThread.act (t : RestoreThread) (objects : Objects) (c : StagingChoice) : RestoreThread :=
  { t with thread := t.thread.act (restoreHandler codec digest objects t.call) c }

namespace ArtifactState

def beginUpload (s : ArtifactState) (i : Nat) (call : UploadCall) : ArtifactState :=
  { s with uploads := Function.update s.uploads i (some call.begin) }

def beginRestore (s : ArtifactState) (i : Nat) (call : RestoreCall) : ArtifactState :=
  { s with restores := Function.update s.restores i (some call.begin) }

def upload (s : ArtifactState) (i : Nat) (t : UploadThread) (c : UploadChoice) : ArtifactState :=
  { s with
    puts := (t.added (t.act codec digest c)).map (i, ·) ++ s.puts
    uploads := Function.update s.uploads i (some (t.act codec digest c)) }

def objects (s : ArtifactState) (late : Nat) : Objects :=
  stored codec ((s.puts.drop late).map (·.2))

def restore (s : ArtifactState) (i : Nat) (t : RestoreThread) (c : StagingChoice) (late : Nat) :
    ArtifactState :=
  { s with
    restores := Function.update s.restores i (some (t.act codec digest (s.objects codec late) c)) }

def step (s : ArtifactState) : ArtifactEvent → ArtifactState
  | .beginUpload i asked =>
    match s.uploads i with
    | none => s.beginUpload i asked
    | some _ => s
  | .upload i c =>
    match s.uploads i with
    | none => s
    | some t => s.upload codec digest i t c
  | .beginRestore i asked =>
    match s.restores i with
    | none => s.beginRestore i asked
    | some _ => s
  | .restore i c late =>
    match s.restores i with
    | none => s
    | some t => s.restore codec digest i t c late

def run (events : List ArtifactEvent) : ArtifactState := runEvents (step codec digest) {} events

end ArtifactState
end Machine

section Steps

variable {codec : ManifestCodec} {digest : List UInt8 → String} {s : ArtifactState} {i : Nat}

theorem upload_answers (call : UploadCall) (w : UploadWorld) (e : ManagerEffect)
    (c : UploadChoice) : ((uploadHandler digest codec call w e c).2).isSome = true := by
  unfold uploadHandler
  split
  all_goals first | rfl | (split <;> rfl)

theorem upload_puts (call : UploadCall) (w : UploadWorld) (e : ManagerEffect) (c : UploadChoice) :
    w.puts ⊆ (uploadHandler digest codec call w e c).1.puts := by
  unfold uploadHandler
  split
  · dsimp only
    split
    · exact Subset.refl _
    · exact Subset.refl _
  · exact Subset.refl _
  · exact Subset.refl _
  · exact Subset.refl _
  · split
    · exact UploadCall.put_subset _ _ _
    · exact Subset.refl _
  · exact Subset.refl _
  · exact UploadCall.put_subset _ _ _
  · exact Subset.refl _

theorem logged_answers (w : RestoreWorld) (e : ManagerEffect) (c : StagingChoice) :
    ((loggedHandler digest w e c).2).isSome = true := by
  unfold loggedHandler stagingHandler
  dsimp only
  split
  all_goals rfl

theorem restore_picks (objects : Objects) (call : RestoreCall) (w : RestoreWorld)
    (e : ManagerEffect) (c : StagingChoice) :
    ∃ c', restoreHandler codec digest objects call w e c = loggedHandler digest w e c' := by
  unfold restoreHandler
  split
  · exact ⟨_, rfl⟩
  · exact ⟨_, rfl⟩

theorem restore_manifest (digest : List UInt8 → String) (objects : Objects) (call : RestoreCall)
    (w : RestoreWorld) (e : ManagerEffect) (c : StagingChoice) (m : BackupManifest)
    (read : (restoreHandler codec digest objects call w e c).1.staging.manifest = some m) :
    w.staging.manifest = some m ∨ ∃ bytes,
      objectBelow objects call.bucket call.above manifestObjectName.toList = some bytes ∧
      codec.decode bytes = .ok m := by
  unfold restoreHandler loggedHandler stagingHandler at read
  split at read
  · rename_i dir effect
    cases effect with
    | readManifest =>
      simp only [StagingWorld.stage, storeChoice] at read
      cases fault : c.fault with
      | some cause =>
        simp only [fault] at read
        exact .inl read
      | none =>
        cases held : objectBelow objects call.bucket call.above manifestObjectName.toList with
        | none =>
          simp only [fault, held] at read
          exact .inl read
        | some bytes =>
          simp only [fault, held] at read
          cases decoded : codec.decode bytes with
          | error e =>
            simp only [decoded] at read
            exact .inl read
          | ok got =>
            simp only [decoded] at read
            obtain rfl := some.inj read
            exact .inr ⟨bytes, rfl, decoded⟩
    | _ => exact .inl read
  · rename_i other
    split at read
    · rename_i same
      exact absurd rfl (other _ _)
    · exact .inl read
    · exact .inl read

theorem stored_mem {puts : List Put} {bucket key : String} {bytes : List UInt8}
    (held : stored codec puts bucket key = some bytes) :
    ∃ p ∈ puts, p.bucket = bucket ∧ p.key = key ∧ p.bytes codec = bytes := by
  unfold stored at held
  obtain ⟨p, found, is⟩ := map_eq_some_iff.mp held
  have there : p.bucket = bucket ∧ p.key = key := by simpa using find?_some found
  exact ⟨p, mem_of_find?_eq_some found, there.1, there.2, is⟩

end Steps

section Invariant

variable (codec : ManifestCodec) (digest : List UInt8 → String)

def RestoreCall.Post (call : RestoreCall) (answer : Except String BackupManifest)
    (w : RestoreWorld) : Prop :=
  ∀ m, answer = .ok m → w.staging.manifest = some m ∧ m.validateObjectKeys = .ok () ∧
    (Exact digest (w.staging.trees call.dir) m ↔ OnlyListed (call.trees call.dir) m) ∧
    List.Forall₂ (Copied digest) m.objects w.copied.reverse

def RestoreCall.AtManifest (call : RestoreCall) (p : Put) : Prop :=
  p.bucket = call.bucket ∧ p.key = String.ofList (Path.joined call.above manifestObjectName.toList)

structure ArtifactInv (s : ArtifactState) : Prop where
  uploads : ∀ i t, s.uploads i = some t →
    t.thread.Ensures (uploadHandler digest codec t.call) (t.call.Sound digest) fun _ w =>
      t.call.Sound digest w
  puts : ∀ e ∈ s.puts, ∃ t, s.uploads e.1 = some t ∧ e.2 ∈ t.thread.world.puts
  restores : ∀ i t, s.restores i = some t →
    t.thread.Ensures (loggedHandler digest) (fun _ => True) (t.call.Post digest)
  read : ∀ i t m, s.restores i = some t → t.thread.world.staging.manifest = some m →
    ∃ e ∈ s.puts, t.call.AtManifest e.2 ∧ codec.decode (e.2.bytes codec) = .ok m

variable {codec digest} {s : ArtifactState} {i : Nat}

theorem UploadCall.begin_ensures (call : UploadCall) :
    call.begin.thread.Ensures (uploadHandler digest codec call) (call.Sound digest) fun _ w =>
      call.Sound digest w :=
  (UploadCall.program_spec digest codec call).mono fun _ _ post => post.1

theorem RestoreCall.begin_ensures (call : RestoreCall) :
    call.begin.thread.Ensures (loggedHandler digest) (fun _ => True) (call.Post digest) := by
  have staged : Ensures (loggedHandler digest) _ (stageArtifact call.dir call.exp) _
      call.begin.thread.world :=
    (stageArtifact_progress rfl).lift RestoreWorld.staging fun _ _ _ => rfl
  refine ((staged.and (stageArtifact_copied rfl)).mono ?_).weaken fun _ _ => trivial
  rintro answer w ⟨⟨-, whole⟩, copied⟩ m is
  obtain ⟨read, -, valid, exact⟩ := whole m is
  exact ⟨read, valid, exact, copied m is⟩

section

variable (inv : ArtifactInv codec digest s)
include inv

theorem ArtifactInv.beginUpload (free : s.uploads i = none) (call : UploadCall) :
    ArtifactInv codec digest (s.beginUpload i call) := by
  refine ⟨fun j t is => ?_, fun e member => ?_, inv.restores, inv.read⟩
  · by_cases same : j = i
    · subst same
      obtain rfl := some.inj ((update_self j _ s.uploads).symm.trans is)
      exact call.begin_ensures
    · exact inv.uploads j t ((update_of_ne same _ s.uploads).symm.trans is)
  · obtain ⟨t, is, put⟩ := inv.puts e member
    have other : e.1 ≠ i := fun same => by
      rw [same, free] at is
      cases is
    exact ⟨t, (update_of_ne other _ s.uploads).trans is, put⟩

theorem ArtifactInv.upload {t : UploadThread} (is : s.uploads i = some t) (c : UploadChoice) :
    ArtifactInv codec digest (s.upload codec digest i t c) := by
  have more : t.thread.world.puts ⊆ (t.act codec digest c).thread.world.puts :=
    Thread.act_world (R := fun w w' : UploadWorld => w.puts ⊆ w'.puts) (fun _ => Subset.refl _)
      (upload_puts t.call) c
  refine ⟨fun j u now => ?_, fun e member => ?_, inv.restores, fun j u m now read => ?_⟩
  · by_cases same : j = i
    · subst same
      obtain rfl := some.inj ((update_self j _ s.uploads).symm.trans now)
      exact (inv.uploads j t is).act (fun _ _ c => ⟨c, rfl⟩) (upload_answers t.call) c
    · exact inv.uploads j u ((update_of_ne same _ s.uploads).symm.trans now)
  · rcases mem_append.mp member with new | old
    · obtain ⟨p, added, rfl⟩ := mem_map.mp new
      exact ⟨_, update_self i _ s.uploads, mem_of_mem_take added⟩
    · obtain ⟨u, was, put⟩ := inv.puts e old
      by_cases same : e.1 = i
      · rw [same, is] at was
        obtain rfl := some.inj was
        exact ⟨_, same ▸ update_self i _ s.uploads, more put⟩
      · exact ⟨u, (update_of_ne same _ s.uploads).trans was, put⟩
  · obtain ⟨e, member, there⟩ := inv.read j u m now read
    exact ⟨e, mem_append_right _ member, there⟩

theorem ArtifactInv.beginRestore (call : RestoreCall) :
    ArtifactInv codec digest (s.beginRestore i call) := by
  refine ⟨inv.uploads, inv.puts, fun j t is => ?_, fun j t m is read => ?_⟩
  · by_cases same : j = i
    · subst same
      obtain rfl := some.inj ((update_self j _ s.restores).symm.trans is)
      exact call.begin_ensures
    · exact inv.restores j t ((update_of_ne same _ s.restores).symm.trans is)
  · by_cases same : j = i
    · subst same
      obtain rfl := some.inj ((update_self j _ s.restores).symm.trans is)
      cases read
    · exact inv.read j t m ((update_of_ne same _ s.restores).symm.trans is) read

theorem ArtifactInv.restore {t : RestoreThread} (is : s.restores i = some t) (c : StagingChoice)
    (late : Nat) : ArtifactInv codec digest (s.restore codec digest i t c late) := by
  refine ⟨inv.uploads, inv.puts, fun j u now => ?_, fun j u m now read => ?_⟩
  · by_cases same : j = i
    · subst same
      obtain rfl := some.inj ((update_self j _ s.restores).symm.trans now)
      exact (inv.restores j t is).act (restore_picks _ t.call) logged_answers c
    · exact inv.restores j u ((update_of_ne same _ s.restores).symm.trans now)
  · by_cases same : j = i
    · subst same
      obtain rfl := some.inj ((update_self j _ s.restores).symm.trans now)
      have moved := Thread.act_world
        (R := fun w w' : RestoreWorld => ∀ m, w'.staging.manifest = some m →
          w.staging.manifest = some m ∨ ∃ bytes,
          objectBelow (s.objects codec late) t.call.bucket t.call.above manifestObjectName.toList =
            some bytes ∧ codec.decode bytes = .ok m)
        (fun _ _ read => .inl read) (restore_manifest digest (s.objects codec late) t.call) c m read
      rcases moved with before | ⟨bytes, held, decoded⟩
      · exact inv.read j t m is before
      · obtain ⟨p, member, bucket, key, rfl⟩ := stored_mem held
        obtain ⟨e, among, rfl⟩ := mem_map.mp member
        exact ⟨e, mem_of_mem_drop among, ⟨bucket, key⟩, decoded⟩
    · exact inv.read j u m ((update_of_ne same _ s.restores).symm.trans now) read

theorem ArtifactInv.step (e : ArtifactEvent) :
    ArtifactInv codec digest (s.step codec digest e) := by
  unfold ArtifactState.step
  split
  · split
    · exact inv.beginUpload ‹_› _
    · exact inv
  · split
    · exact inv
    · exact inv.upload ‹_› _
  · split
    · exact inv.beginRestore _
    · exact inv
  · split
    · exact inv
    · exact inv.restore ‹_› _ _

end

theorem ArtifactState.uploads_begun (P : Nat → UploadCall → Prop) (events : List ArtifactEvent)
    (begun : ∀ i asked, ArtifactEvent.beginUpload i asked ∈ events → P i asked)
    (init : ∀ j u, s.uploads j = some u → P j u.call) :
    ∀ j u, (runEvents (step codec digest) s events).uploads j = some u → P j u.call := by
  induction events generalizing s with
  | nil => exact init
  | cons e events ih =>
    refine ih (fun i asked member => begun i asked (mem_cons_of_mem _ member)) fun j u is => ?_
    have changed : ∀ i (t : UploadThread), P i t.call →
        Function.update s.uploads i (some t) j = some u → P j u.call := by
      intro i t new now
      by_cases same : j = i
      · subst same
        rw [update_self] at now
        exact some.inj now ▸ new
      · rw [update_of_ne same] at now
        exact init j u now
    unfold step at is
    split at is
    · split at is
      · rename_i i asked _ _
        exact changed i asked.begin (begun i asked mem_cons_self) is
      · exact init j u is
    · split at is
      · exact init j u is
      · rename_i t was
        exact changed _ (t.act codec digest _) (init _ t was) is
    · split at is <;> exact init j u is
    · split at is <;> exact init j u is

theorem ArtifactInv.init : ArtifactInv codec digest {} := by
  constructor
  · intro i t is
    cases is
  · intro e member
    cases member
  · intro i t is
    cases is
  · intro i t m is
    cases is

theorem ArtifactState.run_inv (codec : ManifestCodec) (digest : List UInt8 → String)
    (events : List ArtifactEvent) : ArtifactInv codec digest (run codec digest events) :=
  runEvents_kept _ (fun _ e inv => inv.step e) events .init

theorem ArtifactInv.placed (inv : ArtifactInv codec digest s) {e : Nat × Put}
    (member : e ∈ s.puts) :
    ∃ t place, s.uploads e.1 = some t ∧ t.call.place t.thread.world.attempt = some place ∧
      ((∃ f ∈ t.call.tree.files, e.2 = t.call.filePut place f) ∨
        ∃ m, t.call.Lists digest m ∧ e.2 = t.call.manifestPut place m) := by
  obtain ⟨t, is, put⟩ := inv.puts e member
  have sound : t.call.Sound digest t.thread.world := (inv.uploads _ t is).here fun _ _ post => post
  obtain ⟨place, placed, kind⟩ := sound e.2 put
  exact ⟨t, place, is, placed, kind⟩

end Invariant

section Whole

variable {codec : ManifestCodec} {digest : List UInt8 → String} {s : ArtifactState}

def HoldsBackup (tree : BackupTree) (t : StagingTree) : Prop :=
  ∀ p bytes, [objectKeyRoot] <+: p → ((∃ i, t.entry p = some (.file i) ∧ t.content i = bytes) ↔
    ∃ f ∈ tree.files, p = f.names ∧ bytes = f.bytes)

/-- The restore has written the paths and bytes of the tree, each once, and
    nothing else stands in its staging directory, if nothing did. -/
def RestoreThread.Whole (t : RestoreThread) (tree : BackupTree) : Prop :=
  t.thread.world.copied.Perm (tree.files.map fun f => (f.names, f.bytes)) ∧
    ((∀ p, [objectKeyRoot] <+: p → (t.call.trees t.call.dir).entry p = none) →
      HoldsBackup tree (t.thread.world.staging.trees t.call.dir))

/-- No file was put where the location has its manifest. -/
def RestoreCall.ManifestsOnly (call : RestoreCall) (s : ArtifactState) : Prop :=
  ∀ e ∈ s.puts, call.AtManifest e.2 → ∃ m, e.2.kind = .manifest m

theorem copied_eq {tree : BackupTree} {listed : List BackupFile}
    {files : List (List Text × List UInt8)} (collisionFree : Function.Injective digest)
    (members : ∀ f ∈ listed, f ∈ tree.files)
    (copied : List.Forall₂ (Copied digest) (listed.map (·.object digest)) files) :
    files = listed.map fun f => (f.names, f.bytes) := by
  induction listed generalizing files with
  | nil =>
    cases copied
    rfl
  | cons f rest ih =>
    cases copied with
    | cons first others =>
      rename_i file files
      rw [map_cons, ih (fun g inside => members g (mem_cons_of_mem _ inside)) others]
      have path : file.1 = f.names :=
        first.1.trans (BackupTree.object_path (members f mem_cons_self))
      have bytes : file.2 = f.bytes := collisionFree first.2
      rw [← path, ← bytes]

theorem exact_holds {call : UploadCall} {m : BackupManifest} {t : StagingTree}
    (collisionFree : Function.Injective digest) (lists : call.Lists digest m)
    (exact : Exact digest t m) : HoldsBackup call.tree t := by
  obtain ⟨listed, perm, -, rfl⟩ := lists
  have object : ∀ obj ∈ (call.manifestOf digest listed).objects, ∃ f ∈ call.tree.files,
      obj = f.object digest := by
    intro obj among
    obtain ⟨f, inside, rfl⟩ := mem_map.mp among
    exact ⟨f, perm.mem_iff.mp inside, rfl⟩
  have holds : ∀ f ∈ call.tree.files, ∃ i, t.entry f.names = some (.file i) ∧
      t.content i = f.bytes := by
    intro f member
    obtain ⟨i, found, -, sum⟩ := exact.2 _ (mem_map_of_mem (perm.mem_iff.mpr member))
    rw [BackupTree.object_path member] at found
    exact ⟨i, found, collisionFree sum⟩
  intro p bytes below
  constructor
  · rintro ⟨i, found, rfl⟩
    obtain ⟨obj, among, rfl⟩ := exact.1 p _ below found (by simp)
    obtain ⟨f, member, rfl⟩ := object obj among
    rw [BackupTree.object_path member] at found ⊢
    obtain ⟨j, there, content⟩ := holds f member
    obtain rfl : i = j := by
      rw [found] at there
      cases there
      rfl
    exact ⟨f, member, rfl, content⟩
  · rintro ⟨f, member, rfl, rfl⟩
    exact holds f member

theorem ArtifactInv.whole (inv : ArtifactInv codec digest s)
    (collisionFree : Function.Injective digest) {i : Nat} {t : RestoreThread} {m : BackupManifest}
    (is : s.restores i = some t) (done : t.thread.result = some (.ok m))
    (manifests : t.call.ManifestsOnly s) : ∃ j u, s.uploads j = some u ∧ t.Whole u.call.tree := by
  obtain ⟨read, valid, exact, copied⟩ := (inv.restores i t is).result done m rfl
  obtain ⟨e, member, there, decoded⟩ := inv.read i t m is read
  obtain ⟨m', kind⟩ := manifests e member there
  obtain ⟨u, place, now, -, put⟩ := inv.placed member
  have lists : u.call.Lists digest m := by
    rcases put with ⟨f, -, file⟩ | ⟨own, lists, manifest⟩
    · rw [file] at kind
      cases kind
    · have bytes : e.2.bytes codec = codec.encode own := by rw [manifest]; rfl
      rw [bytes, codec.decode_encode] at decoded
      exact Except.ok.inj decoded ▸ lists
  refine ⟨e.1, u, now, ?_, fun empty => exact_holds collisionFree lists (exact.mpr ?_)⟩
  · obtain ⟨listed, perm, -, rfl⟩ := lists
    have files := copied_eq collisionFree (fun f => perm.mem_iff.mp) copied
    have same : t.thread.world.copied.reverse.Perm
        (u.call.tree.files.map fun f => (f.names, f.bytes)) :=
      files ▸ perm.map _
    exact (reverse_perm _).symm.trans same
  · have below := (BackupManifest.validateObjectKeys_ok valid).1
    refine ⟨fun p e inside found => ?_, fun first among second _ inode found => ?_⟩
    · rw [empty p inside] at found
      cases found
    · obtain ⟨rest, path⟩ := below first among
      rw [empty _ (path ▸ prefix_append _ rest)] at found
      cases found

end Whole

section Apart

def AttemptID.name (id : AttemptID) : Text := "attempt-".toList ++ id.text

theorem AttemptID.name_eq (id : AttemptID) :
    id.name = ['a', 't', 't', 'e', 'm', 'p', 't', '-'] ++ id.text :=
  congrArg (· ++ id.text) (by decide)

theorem AttemptID.plain (id : AttemptID) : Path.Plain id.name := by
  have slash : '/' ∉ id.text := by
    intro inside
    exact absurd (all_eq_true.mp id.hex.2 _ inside) (by decide)
  have named : id.name ≠ [] ∧ '/' ∉ id.name ∧ id.name ≠ ['.'] ∧ id.name ≠ ['.', '.'] := by
    rw [id.name_eq]
    simp [slash]
  exact named

theorem AttemptID.name_ne (id : AttemptID) :
    id.name ≠ objectKeyRoot ∧ id.name ≠ manifestObjectName.toList := by
  have root : objectKeyRoot = ['b', 'a', 'c', 'k', 'u', 'p'] := by decide
  have manifest : manifestObjectName.toList.head? = some 'm' := by decide
  rw [id.name_eq, root]
  refine ⟨by simp, fun same => ?_⟩
  rw [← same] at manifest
  simp at manifest

theorem backupAttemptPath_name (parent : Text) (id : AttemptID) :
    backupAttemptPath parent id.text = Path.joined parent (Path.join [id.name]) := by
  have single : Path.join [id.name] = id.name := Path.join_singleton _
  exact (congrArg (Path.joined parent) single).symm

/-- A name in the location that an upload is asked for, or in its files' paths. -/
def UploadCall.Names (call : UploadCall) (name : Text) : Prop :=
  name ∈ Path.elements call.up.pathPrefix.toList ∨ ∃ f ∈ call.tree.files, name ∈ f.path

def UploadThread.identity (t : UploadThread) : Option AttemptID :=
  if t.call.up.seed then none else t.thread.world.attempt

/-- Every identity drawn is new: no seed upload names it, and no two ordinary
    uploads name each other's. -/
def ArtifactState.Fresh (s : ArtifactState) : Prop :=
  ∀ i j t u id, i ≠ j → s.uploads i = some t → s.uploads j = some u → t.identity = some id →
    (u.call.up.seed = true → ¬ u.call.Names id.name) ∧
      ∀ other, u.identity = some other → other.text ≠ id.text ∧
        (¬ u.call.Names id.name ∨ ¬ t.call.Names other.name)

variable {codec : ManifestCodec} {digest : List UInt8 → String} {s : ArtifactState}
  {t : UploadThread} {place : Text} {id : AttemptID} {name : Text}

theorem elements_place (ordinary : t.identity = some id)
    (placed : t.call.place t.thread.world.attempt = some place) :
    t.call.up.seed = false ∧ Path.elements place = Path.below t.call.up.pathPrefix.toList
      [id.name] := by
  unfold UploadThread.identity at ordinary
  split at ordinary
  · cases ordinary
  · rename_i unseeded
    rw [UploadCall.place, if_neg unseeded, ordinary] at placed
    obtain rfl := some.inj placed
    have plain : ∀ name ∈ [id.name], Path.Plain name :=
      fun name inside => mem_singleton.mp inside ▸ id.plain
    dsimp only
    rw [backupAttemptPath_name]
    exact ⟨by simpa using unseeded, Path.elements_joined plain (cons_ne_nil _ _)⟩

theorem ArtifactInv.key_names (inv : ArtifactInv codec digest s) {e : Nat × Put}
    (member : e ∈ s.puts) (is : s.uploads e.1 = some t) :
    (∃ place, t.call.place t.thread.world.attempt = some place) ∧
    (∀ id, t.identity = some id → id.name ∈ Path.elements e.2.key.toList) ∧
    ∀ name ∈ Path.elements e.2.key.toList, t.call.Names name ∨
      (∃ id, t.identity = some id ∧ name = id.name) ∨
      name = objectKeyRoot ∨ name = manifestObjectName.toList := by
  obtain ⟨u, place, now, placed, put⟩ := inv.placed member
  obtain rfl := some.inj (is.symm.trans now)
  obtain ⟨names, plain, parts, known⟩ : ∃ names, (∀ name ∈ names, Path.Plain name) ∧
      Path.elements e.2.key.toList = Path.below place names ∧ ∀ name ∈ names,
        t.call.Names name ∨ name = objectKeyRoot ∨ name = manifestObjectName.toList := by
    rcases put with ⟨f, among, file⟩ | ⟨m, -, manifest⟩
    · refine ⟨f.names, BackupTree.plain_names among, ?_, fun name inside => ?_⟩
      · rw [file, UploadCall.filePut, String.toList_ofList]
        exact Path.elements_joined (BackupTree.plain_names among) f.names_ne_nil
      · rcases mem_cons.mp inside with root | path
        · exact .inr (.inl root)
        · exact .inl (.inr ⟨f, among, path⟩)
    · refine ⟨[manifestObjectName.toList], manifestName_plain, ?_, fun name inside => ?_⟩
      · rw [manifest, UploadCall.manifestPut, String.toList_ofList]
        exact Path.elements_joined manifestName_plain (cons_ne_nil _ _)
      · exact .inr (.inr (mem_singleton.mp inside))
  refine ⟨⟨place, placed⟩, fun id ordinary => ?_, fun name inside => ?_⟩
  · have here := (elements_place ordinary placed).2
    rw [parts, Path.below, here, Path.below, Path.normal_append _ fun name inside =>
      mem_singleton.mp inside ▸ id.plain]
    simp
  · rw [parts] at inside
    rcases mem_append.mp inside with over_ | under
    · have above := Path.mem_normal over_
      cases ordinary : t.identity with
      | none =>
        have seed : place = t.call.up.pathPrefix.toList := by
          unfold UploadThread.identity at ordinary
          split at ordinary
          · rename_i seeded
            rw [UploadCall.place, if_pos seeded] at placed
            exact (some.inj placed).symm
          · rename_i unseeded
            rw [UploadCall.place, if_neg unseeded, ordinary] at placed
            cases placed
        exact .inl (.inl (seed ▸ above))
      | some id =>
        rw [(elements_place ordinary placed).2] at above
        rcases mem_append.mp above with asked | own
        · exact .inl (.inl (Path.mem_normal asked))
        · exact .inr (.inl ⟨id, rfl, mem_singleton.mp own⟩)
    · rcases known name under with named | fixed
      · exact .inl named
      · exact .inr (.inr fixed)

theorem ArtifactInv.apart (inv : ArtifactInv codec digest s) (fresh : s.Fresh) {e other : Nat × Put}
    (member : e ∈ s.puts) (also : other ∈ s.puts) (differ : e.1 ≠ other.1)
    (ordinary : ∀ t, s.uploads e.1 = some t → t.call.up.seed = false) : e.2.key ≠ other.2.key := by
  intro same
  obtain ⟨t, is, -⟩ := inv.puts e member
  obtain ⟨u, now, -⟩ := inv.puts other also
  obtain ⟨⟨place, placed⟩, own, names⟩ := inv.key_names member is
  obtain ⟨-, own', names'⟩ := inv.key_names also now
  have unseeded := ordinary t is
  obtain ⟨id, drawn⟩ : ∃ id, t.identity = some id := by
    rw [UploadCall.place, if_neg (by simp [unseeded])] at placed
    obtain ⟨id, drawn, -⟩ := map_eq_some_iff.mp placed
    exact ⟨id, by rw [UploadThread.identity, if_neg (by simp [unseeded]), drawn]⟩
  obtain ⟨seeds, others⟩ := fresh e.1 other.1 t u id differ is now drawn
  have apart : ∀ a b : AttemptID, a.text ≠ b.text → a.name ≠ b.name := fun a b texts same =>
    texts (append_cancel_left same)
  -- The other upload has the identity in its key, so it was asked to go there.
  have asked : u.call.Names id.name := by
    rcases names' id.name (same ▸ own id drawn) with named | ⟨id', drawn', is'⟩ | root | manifest
    · exact named
    · exact absurd is' (apart _ _ (others id' drawn').1.symm)
    · exact absurd root id.name_ne.1
    · exact absurd manifest id.name_ne.2
  cases seeded : u.call.up.seed with
  | true => exact seeds seeded asked
  | false =>
    obtain ⟨place', placed'⟩ := (inv.key_names also now).1
    obtain ⟨id', drawn'⟩ : ∃ id, u.identity = some id := by
      rw [UploadCall.place, if_neg (by simp [seeded])] at placed'
      obtain ⟨id, drawn, -⟩ := map_eq_some_iff.mp placed'
      exact ⟨id, by rw [UploadThread.identity, if_neg (by simp [seeded]), drawn]⟩
    obtain ⟨texts, either⟩ := others id' drawn'
    -- It drew its own identity later, and this one's key would have it.
    have unnamed := either.resolve_left fun not => not asked
    rcases names id'.name (same ▸ own' id' drawn') with named | ⟨id'', drawn'',
      is''⟩ | root | manifest
    · exact unnamed named
    · obtain rfl := some.inj (drawn.symm.trans drawn'')
      exact apart _ _ texts is''
    · exact id'.name_ne.1 root
    · exact id'.name_ne.2 manifest

end Apart

/-- Whatever uploads stop, fail or overlap, a restore that succeeds from a
    location whose manifest is no staged file has staged the paths and bytes of
    one upload; and no ordinary upload touches another's objects. -/
theorem artifact_whole_or_refused (codec : ManifestCodec) (digest : List UInt8 → String)
    (collisionFree : Function.Injective digest) (events : List ArtifactEvent) :
    let s := ArtifactState.run codec digest events
    (∀ i t m, s.restores i = some t → t.thread.result = some (.ok m) → t.call.ManifestsOnly s →
      ∃ j u, s.uploads j = some u ∧ t.Whole u.call.tree) ∧
    (s.Fresh → ∀ e ∈ s.puts, ∀ other ∈ s.puts, e.1 ≠ other.1 →
      (∀ t, s.uploads e.1 = some t → t.call.up.seed = false) →
      ¬ (e.2.bucket = other.2.bucket ∧ e.2.key = other.2.key)) := by
  intro s
  have inv : ArtifactInv codec digest s := ArtifactState.run_inv codec digest events
  constructor
  · intro i t m is done manifests
    exact inv.whole collisionFree is done manifests
  · intro fresh e member other also differ ordinary same
    exact inv.apart fresh member also differ ordinary same.2

def textDigest (bytes : List UInt8) : String := String.ofList (bytes.map Char.ofUInt8)

theorem textDigest_injective : Function.Injective textDigest := by
  have char : Function.Injective Char.ofUInt8 := by
    intro a b same
    exact UInt8.toUInt32_inj.mp (congrArg Char.val same)
  intro one two same
  have texts := congrArg String.toList same
  simp only [textDigest, String.toList_ofList] at texts
  exact map_injective_iff.mpr char texts

def shortCodec (short : BackupManifest) : ManifestCodec where
  encode m := if m = short then [7] else 0 :: countingCodec.encode m
  decode
    | [7] => .ok short
    | 0 :: bytes => countingCodec.decode bytes
    | _ => .error "decode manifest: neither short nor a number"
  decode_encode m := by
    split_ifs with same
    · exact congrArg Except.ok same.symm
    · exact countingCodec.decode_encode m

def uploadThenRestore (asked : UploadCall) (size : Int) (above : Text) : List ArtifactEvent :=
  .beginUpload 0 asked :: replicate 12 (.upload 0 { attempt := firstAttempt, size }) ++
    .beginRestore 0 { bucket := "b", above, exp := expectDemo, dir := "/restore/s" } ::
      replicate 12 (.restore 0 {} 0)

theorem begun_uploadThenRestore {asked other : UploadCall} {size : Int} {above : Text} {i : Nat}
    (member : .beginUpload i other ∈ uploadThenRestore asked size above) :
    i = 0 ∧ other = asked := by
  simpa only [uploadThenRestore, cons_append, mem_cons, mem_append, mem_replicate, reduceCtorEq,
    and_false, or_false, ArtifactEvent.beginUpload.injEq] using member

instance (k : PutKind) : Decidable (∃ m, k = .manifest m) :=
  match k with
  | .file _ => isFalse fun ⟨_, is⟩ => by cases is
  | .manifest m => isTrue ⟨m, rfl⟩

instance (asked : RestoreCall) (p : Put) : Decidable (asked.AtManifest p) :=
  inferInstanceAs (Decidable (_ ∧ _))

instance (asked : RestoreCall) (s : ArtifactState) : Decidable (asked.ManifestsOnly s) :=
  inferInstanceAs (Decidable (∀ e ∈ s.puts, asked.AtManifest e.2 → ∃ m, e.2.kind = .manifest m))

def ArtifactState.restored (s : ArtifactState) (check : RestoreThread → Bool) : Bool :=
  (s.restores 0).any fun t => t.thread.result.any (fun answer => answer.toOption.isSome) && check t

theorem ArtifactState.exists_restored {s : ArtifactState} {check : RestoreThread → Bool}
    (done : s.restored check = true) :
    ∃ t m, s.restores 0 = some t ∧ t.thread.result = some (.ok m) ∧ check t = true := by
  obtain ⟨t, is, rest⟩ := (Option.any_eq_true _ _).mp done
  obtain ⟨ok, checked⟩ := Bool.and_eq_true_iff.mp rest
  obtain ⟨answer, result, value⟩ := (Option.any_eq_true _ _).mp ok
  cases answer with
  | error e => cases value
  | ok m => exact ⟨t, m, is, result, checked⟩

def nightlyCodec : ManifestCodec :=
  shortCodec ((nightlyUpload backupVolume).manifestOf textDigest (oneFile backupVolume).files)

def cutAttempt : AttemptID := ⟨replicate 32 '1', by decide⟩

/-- An upload that stops before its manifest, and the next one. -/
def nightlyEvents : List ArtifactEvent :=
  .beginUpload 1 (nightlyUpload backupVolume) :: replicate 6
    (.upload 1 { attempt := cutAttempt, size := 3 }) ++
    uploadThenRestore (nightlyUpload backupVolume) 3 nightlyPlace

def nightlyState : ArtifactState := ArtifactState.run nightlyCodec textDigest nightlyEvents

theorem nightly_restored :
    nightlyState.restored (fun t => decide (t.call.ManifestsOnly nightlyState)) = true := by
  decide +kernel

theorem nightly_uploads {j : Nat} {u : UploadThread} (is : nightlyState.uploads j = some u) :
    j < 2 ∧ u.call = nightlyUpload backupVolume := by
  refine ArtifactState.uploads_begun (fun j asked => j < 2 ∧ asked = nightlyUpload backupVolume) _
    ?_ ?_ j u is
  · intro i asked member
    simp only [nightlyEvents, cons_append, mem_cons, mem_append, mem_replicate, reduceCtorEq,
      and_false, false_or, ArtifactEvent.beginUpload.injEq] at member
    rcases member with ⟨rfl, rfl⟩ | member
    · exact ⟨by omega, rfl⟩
    · obtain ⟨rfl, rfl⟩ := begun_uploadThenRestore member
      exact ⟨by omega, rfl⟩
  · intro j u is
    cases is

theorem nightly_unnamed (id : AttemptID) : ¬ (nightlyUpload backupVolume).Names id.name := by
  have heads :
      (Path.elements "p".toList ++ (oneFile backupVolume).files.flatMap (·.path)).map head? =
      [some 'p', some 'd'] := by decide +kernel
  intro named
  have head : id.name.head? = some 'a' := by rw [id.name_eq]; rfl
  have among : id.name.head? ∈ [some 'p', some 'd'] := by
    rw [← heads]
    refine mem_map_of_mem (mem_append.mpr ?_)
    rcases named with above | ⟨f, inside, path⟩
    · exact .inl above
    · exact .inr (mem_flatMap.mpr ⟨f, inside, path⟩)
  rw [head] at among
  revert among
  decide

theorem nightly_drawn : ∀ j < 2, ((nightlyState.uploads j).bind (·.identity)).map (·.text) =
    some (replicate 32 (if j = 0 then '0' else '1')) := by decide +kernel

theorem nightly_fresh : nightlyState.Fresh := by
  intro i j t u id differ is is' drawn
  obtain ⟨below, -⟩ := nightly_uploads is
  obtain ⟨below', asked⟩ := nightly_uploads is'
  have unnamed : ¬ u.call.Names id.name := asked ▸ nightly_unnamed id
  refine ⟨fun _ => unnamed, fun other drawn' => ⟨fun same => ?_, .inl unnamed⟩⟩
  have text := nightly_drawn i below
  have text' := nightly_drawn j below'
  rw [is, bind_some, drawn] at text
  rw [is', bind_some, drawn', map_some, same, ← map_some, text] at text'
  have places : i = 0 ∧ j = 1 ∨ i = 1 ∧ j = 0 := by omega
  rcases places with ⟨rfl, rfl⟩ | ⟨rfl, rfl⟩ <;> exact absurd text' (by decide)

theorem nightly_whole :
    Function.Injective textDigest ∧
    (∃ t m, nightlyState.restores 0 = some t ∧ t.thread.result = some (.ok m) ∧
      ∃ j u, nightlyState.uploads j = some u ∧ t.Whole u.call.tree) ∧
    nightlyState.Fresh ∧ nightlyState.puts.map (·.1) = [0, 0, 1] ∧
    ∀ e ∈ nightlyState.puts, ∀ other ∈ nightlyState.puts, e.1 ≠ other.1 →
      ¬ (e.2.bucket = other.2.bucket ∧ e.2.key = other.2.key) := by
  obtain ⟨t, m, is, done, manifests⟩ := ArtifactState.exists_restored nightly_restored
  have holds := artifact_whole_or_refused nightlyCodec textDigest textDigest_injective nightlyEvents
  refine ⟨textDigest_injective,
    ⟨t, m, is, done, holds.1 0 t m is done (of_decide_eq_true manifests)⟩, nightly_fresh,
    by decide +kernel, fun e member other also differ => ?_⟩
  refine holds.2 nightly_fresh e member other also differ fun t now => ?_
  rw [(nightly_uploads now).2]
  rfl

def nestedTree : BackupTree where
  files := [⟨[manifestObjectName.toList], [7]⟩, ⟨["backup".toList, "x".toList], [1]⟩]
  named := by decide +kernel
  distinct := by decide +kernel
  apart := by decide +kernel

def nestedManifest : BackupManifest :=
  { manifestVersion := 1, database := "demo", cubridVersion := "11.4"
    objects := [{ key := "backup/x", sizeBytes := 1, sha256 := textDigest [1] }] }

def nestedUpload : UploadCall := { nightlyUpload backupVolume with tree := nestedTree }

def nestedEvents : List ArtifactEvent :=
  uploadThenRestore nestedUpload 1 "p/attempt-00000000000000000000000000000000/backup".toList

def nestedState : ArtifactState :=
  ArtifactState.run (shortCodec nestedManifest) textDigest nestedEvents

theorem nested_restored :
    nestedState.restored (fun t => t.thread.world.copied.length = 1) = true := by
  decide +kernel

theorem nested_uploads {j : Nat} {u : UploadThread} (is : nestedState.uploads j = some u) :
    u.call = nestedUpload := by
  have none : ∀ j u, (({} : ArtifactState).uploads j = some u) → u.call = nestedUpload := by
    intro j u is
    cases is
  unfold nestedState ArtifactState.run at is
  exact ArtifactState.uploads_begun (fun _ => (· = nestedUpload)) _
    (fun _ _ is => (begun_uploadThenRestore is).2) none j u is

/-- Restored from the directory of its files, that backup gives only what the
    manifest among them lists. -/
theorem nested_manifest_not_whole :
    Function.Injective textDigest ∧ ∃ t m, nestedState.restores 0 = some t ∧
    t.thread.result = some (.ok m) ∧
      ∀ j u, nestedState.uploads j = some u → ¬ t.Whole u.call.tree := by
  obtain ⟨t, m, is, done, one⟩ := ArtifactState.exists_restored nested_restored
  refine ⟨textDigest_injective, t, m, is, done, fun j u now whole => ?_⟩
  have lengths := whole.1.length_eq
  rw [of_decide_eq_true one, nested_uploads now] at lengths
  simp [nestedUpload, nestedTree] at lengths

end InstanceManager
