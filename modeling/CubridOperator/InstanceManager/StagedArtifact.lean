import CubridOperator.InstanceManager.EffectKinds
import CubridOperator.InstanceManager.RestoreStaging

/-!
What restoredb is given. Staging an artifact removes nothing that stood in the
directory.
-/
namespace InstanceManager
open Foundation Program Function List

variable {digest : List UInt8 → String} {m : BackupManifest} {t₀ t t' : StagingTree}
  {done : List ManifestObject} {obj : ManifestObject}

def Matches (digest : List UInt8 → String) (t : StagingTree) (obj : ManifestObject) : Prop :=
  ∃ inode, t.entry obj.path = some (.file inode) ∧ ((t.content inode).length : Int) =
    obj.sizeBytes ∧
    digest (t.content inode) = obj.sha256

/-- The files at or below backup are the objects that the manifest lists. -/
def Exact (digest : List UInt8 → String) (t : StagingTree) (m : BackupManifest) : Prop :=
  (∀ p e, [objectKeyRoot] <+: p → t.entry p = some e → e ≠ .dir → ∃ obj ∈ m.objects, p = obj.path) ∧
    ∀ obj ∈ m.objects, Matches digest t obj

/-- At or below backup stand directories and regular files that the manifest
    lists; names of one file are listed with one content. -/
def OnlyListed (t : StagingTree) (m : BackupManifest) : Prop :=
  (∀ p e, [objectKeyRoot] <+: p → t.entry p = some e → e ≠ .dir →
    (∃ inode, e = .file inode) ∧ ∃ obj ∈ m.objects, p = obj.path) ∧
  ∀ first ∈ m.objects, ∀ second ∈ m.objects, ∀ inode, t.entry first.path = some (.file inode) →
    t.entry second.path = some (.file inode) →
    first.sizeBytes = second.sizeBytes ∧ first.sha256 = second.sha256

/-- The objects staged so far, among nothing that the manifest does not list. -/
structure Staged (digest : List UInt8 → String) (m : BackupManifest) (t : StagingTree)
    (done : List ManifestObject) : Prop where
  only : OnlyListed t m
  matching : ∀ obj ∈ done, Matches digest t obj

structure Progress (digest : List UInt8 → String) (m : BackupManifest) (t₀ t : StagingTree)
    (done : List ManifestObject) : Prop where
  grows : FileTree.Grows t₀ t
  staged : OnlyListed t₀ m → Staged digest m t done

theorem Progress.refl : Progress digest m t t [] :=
  ⟨FileTree.Grows.refl t, fun only => ⟨only, by simp⟩⟩

/-- Nothing that stood there goes away, so the files are the manifest's only if
    nothing else stood there. -/
theorem Progress.exact_iff (progress : Progress digest m t₀ t m.objects) :
    Exact digest t m ↔ OnlyListed t₀ m := by
  refine ⟨fun ⟨listed, matching⟩ => ⟨fun p e below found file => ?_, ?_⟩, fun only => ?_⟩
  · have still := progress.grows p e found
    obtain ⟨obj, member, rfl⟩ := listed p e below still file
    obtain ⟨inode, present, -⟩ := matching obj member
    rw [still] at present
    exact ⟨⟨inode, Option.some.inj present⟩, obj, member, rfl⟩
  · intro first member second also inode found shared
    obtain ⟨i, there, size, sum⟩ := matching first member
    obtain ⟨j, also', size', sum'⟩ := matching second also
    rw [progress.grows _ _ found] at there
    rw [progress.grows _ _ shared] at also'
    cases there
    cases also'
    exact ⟨size.symm.trans size', sum.symm.trans sum'⟩
  · have staged := progress.staged only
    exact ⟨fun p e below found file => (staged.only.1 p e below found file).2, staged.matching⟩

section Steps

variable (valid : m.validateObjectKeys = .ok ()) (member : obj ∈ m.objects)

theorem OnlyListed.no_link (only : OnlyListed t m) {p : List Text} (below : [objectKeyRoot] <+: p) :
    t.entry p ≠ some .link := by
  intro found
  obtain ⟨⟨inode, same⟩, -⟩ := only.1 p .link below found (by simp)
  cases same

include valid member in
theorem below_of_begins {first rest : List Text} (nonempty : first ≠ [])
    (same : obj.path.dropLast = first ++ rest) : [objectKeyRoot] <+: first := by
  obtain ⟨tail, shape⟩ := (BackupManifest.validateObjectKeys_ok valid).1 obj member
  have begins : first <+: objectKeyRoot :: tail := by
    rw [← shape]
    exact (prefix_append first rest).trans (same ▸ dropLast_prefix _)
  obtain ⟨name, names, rfl⟩ := exists_cons_of_ne_nil nonempty
  obtain ⟨rfl, -⟩ := cons_prefix_cons.mp begins
  exact ⟨names, rfl⟩

theorem Staged.frame (staged : Staged digest m t done)
    (entries : ∀ p e, t'.entry p = some e → t.entry p = some e ∨ e = .dir)
    (grows : FileTree.Grows t t') (content : t'.content = t.content) : Staged digest m t' done := by
  have files : ∀ p inode, t'.entry p = some (.file inode) → t.entry p = some (.file inode) :=
    fun p inode found => (entries p _ found).resolve_right (by simp)
  refine ⟨⟨fun p e below found file => ?_, fun first among second also inode found shared => ?_⟩,
    ?_⟩
  · exact staged.only.1 p e below ((entries p e found).resolve_right file) file
  · exact staged.only.2 first among second also inode (files _ _ found) (files _ _ shared)
  · intro other among
    obtain ⟨inode, found, size, sum⟩ := staged.matching other among
    exact ⟨inode, grows _ _ found, by rw [content]; exact size, by rw [content]; exact sum⟩

theorem grows_landDirs (dirs : List (List Text)) :
    FileTree.Grows t (StagingWorld.landDirs t dirs) := by
  unfold StagingWorld.landDirs
  induction dirs generalizing t with
  | nil => exact FileTree.Grows.refl t
  | cons path dirs ih => exact (FileTree.grows_addDir path).trans ih

include valid member in
theorem Progress.mkdirAll (progress : Progress digest m t₀ t done) (c : StagingChoice) :
    Progress digest m t₀ (StagingWorld.mkdirAll t obj.path.dropLast c).1 done := by
  have frame := FileTree.mkdirs_frame (t := t) [] obj.path.dropLast
  have grows := FileTree.grows_mkdirs (t := t) [] obj.path.dropLast
  have plain : Progress digest m t₀ (t.mkdirs [] obj.path.dropLast).1 done :=
    ⟨progress.grows.trans grows, fun only => (progress.staged only).frame frame.1 grows frame.2⟩
  unfold StagingWorld.mkdirAll
  split
  · exact progress
  · split
    · rename_i walked
      rwa [walked] at plain
    · rename_i t₁ walked
      refine ⟨?_, fun only => ?_⟩
      · rw [walked] at plain
        exact plain.grows.trans (grows_landDirs c.dirs)
      · have linked : (t.mkdirs [] obj.path.dropLast).2 = .linked := by rw [walked]
        obtain ⟨first, rest, nonempty, same, found⟩ := FileTree.mkdirs_linked linked
        exact absurd found
          ((progress.staged only).only.no_link (below_of_begins valid member nonempty same))
    · rename_i walked
      rwa [walked] at plain

include valid member in
theorem Staged.create_cases (staged : Staged digest m t done) {landing : Landing Text} {inode : Nat}
    (opened : t.create obj.path landing = (t', some inode)) :
    t.entry obj.path = none ∧ t' = t.addFile obj.path ∧ inode = t.next ∨
      t.entry obj.path = some (.file inode) ∧ t' = t.write inode [] := by
  obtain ⟨tail, shape⟩ := (BackupManifest.validateObjectKeys_ok valid).1 obj member
  have below : [objectKeyRoot] <+: obj.path := ⟨tail, shape.symm⟩
  unfold FileTree.create at opened
  split at opened
  · split at opened
    · rename_i free
      cases opened
      exact .inl ⟨free, rfl, rfl⟩
    · rename_i found
      cases opened
      exact .inr ⟨found, rfl⟩
    · cases opened
    · rename_i found
      exact absurd found (staged.only.no_link below)
    · rename_i found
      obtain ⟨⟨_, same⟩, -⟩ := staged.only.1 _ _ below found (by simp)
      cases same
  · rename_i linked
    obtain ⟨first, rest, nonempty, same, found⟩ := FileTree.walk_linked linked
    exact absurd found (staged.only.no_link (below_of_begins valid member nonempty same))
  · cases opened

variable {bytes : List UInt8}

/-- The bytes of an object are in a file that stood under its name, and so
    listed under all its names. -/
theorem Staged.rewritten (staged : Staged digest m t done) (among : obj ∈ m.objects)
    (objects : ∀ other ∈ done, other ∈ m.objects) {inode : Nat}
    (found : t.entry obj.path = some (.file inode)) (size : (bytes.length : Int) = obj.sizeBytes)
    (sum : digest bytes = obj.sha256) : Staged digest m (t.write inode bytes) (obj :: done) := by
  refine ⟨staged.only, fun other listed => ?_⟩
  rcases mem_cons.mp listed with rfl | earlier
  · exact ⟨inode, found, by simpa [FileTree.write] using size, by simpa [FileTree.write] using sum⟩
  · obtain ⟨j, there, size', sum'⟩ := staged.matching other earlier
    refine ⟨j, there, ?_⟩
    by_cases same : j = inode
    · subst same
      have alike := staged.only.2 obj among other (objects other earlier) j found there
      simp only [FileTree.write, update_self]
      exact ⟨size.trans alike.1, sum.trans alike.2⟩
    · simp only [FileTree.write, update_of_ne same]
      exact ⟨size', sum'⟩

include valid in
theorem Staged.added (staged : Staged digest m t done) (among : obj ∈ m.objects)
    (free : t.entry obj.path = none) (size : (bytes.length : Int) = obj.sizeBytes)
    (sum : digest bytes = obj.sha256) :
    Staged digest m ((t.addFile obj.path).write t.next bytes) (obj :: done) := by
  have distinct := (BackupManifest.validateObjectKeys_ok valid).2
  have entry : ∀ p e, (t.addFile obj.path).entry p = some e →
      p = obj.path ∧ e = .file t.next ∨ t.entry p = some e := by
    intro p e found
    by_cases same : p = obj.path
    · subst same
      simp only [FileTree.addFile, update_self] at found
      exact .inl ⟨rfl, (Option.some.inj found).symm⟩
    · simp only [FileTree.addFile, update_of_ne same] at found
      exact .inr found
  have fresh : ∀ p, t.entry p ≠ some (.file t.next) :=
    fun p found => Nat.lt_irrefl _ (t.bounded p t.next found)
  refine ⟨⟨fun p e below found file => ?_, fun first one second two inode found shared => ?_⟩, ?_⟩
  · rcases entry p e found with ⟨rfl, rfl⟩ | old
    · exact ⟨⟨t.next, rfl⟩, obj, among, rfl⟩
    · exact staged.only.1 p e below old file
  · rcases entry _ _ found with ⟨here, new⟩ | old <;>
      rcases entry _ _ shared with ⟨here', new'⟩ | old'
    · obtain rfl := distinct first one second two (here.trans here'.symm)
      exact ⟨rfl, rfl⟩
    · cases new
      exact absurd old' (fresh _)
    · cases new'
      exact absurd old (fresh _)
    · exact staged.only.2 first one second two inode old old'
  · intro other listed
    rcases mem_cons.mp listed with rfl | earlier
    · exact ⟨t.next, by simp [FileTree.addFile, FileTree.write],
        by simpa [FileTree.write] using size, by simpa [FileTree.write] using sum⟩
    · obtain ⟨j, there, size', sum'⟩ := staged.matching other earlier
      have differs : j ≠ t.next := (t.bounded _ _ there).ne
      refine ⟨j, FileTree.grows_addFile free _ _ there, ?_⟩
      simp only [FileTree.write, FileTree.addFile, update_of_ne differs]
      exact ⟨size', sum'⟩

include valid member in
theorem Progress.copied (progress : Progress digest m t₀ t done)
    (objects : ∀ other ∈ done, other ∈ m.objects) {c : StagingChoice} {inode : Nat}
    (opened : StagingWorld.create t obj.path c = (t', .ok inode))
    (size : (bytes.length : Int) = obj.sizeBytes) (sum : digest bytes = obj.sha256) :
    Progress digest m t₀ (t'.write inode bytes) (obj :: done) := by
  have created : t.create obj.path c.landing = (t', some inode) := by
    unfold StagingWorld.create at opened
    split at opened
    · cases opened
    · split at opened
      · rename_i same
        cases opened
        exact same
      · cases opened
  refine ⟨?_, fun only => ?_⟩
  · have grows := FileTree.grows_create (t := t) obj.path c.landing
    rw [created] at grows
    exact (progress.grows.trans grows).trans (FileTree.grows_write inode bytes)
  · have staged := progress.staged only
    rcases staged.create_cases valid member created with ⟨free, rfl, rfl⟩ | ⟨found, rfl⟩
    · exact staged.added valid member free size sum
    · rw [FileTree.write_write]
      exact staged.rewritten member objects found size sum

end Steps

section Programs

variable {dir : String} {w : StagingWorld} {hs : List Handed}

theorem stage_rule {e : StagingEffect} {post : e.Ans → StagingWorld → Prop} (handed : w.handed = hs)
    (next : ∀ c, post (w.stage digest dir e c).2 (w.stage digest dir e c).1) :
    Ensures (stagingHandler digest) (·.handed = hs) (stage dir e) post w := ⟨handed, next⟩

@[simp] theorem trees_setTree (w : StagingWorld) (dir : String) (t : StagingTree) :
    (w.setTree dir t).trees dir = t := by
  simp [StagingWorld.setTree]

structure Reading (w : StagingWorld) (hs : List Handed) (m : BackupManifest) : Prop where
  handed : w.handed = hs
  manifest : w.manifest = some m

theorem checkCopied_ok {answer : Except String (Int × String)}
    (checked : checkCopied obj answer = .ok ()) : answer = .ok (obj.sizeBytes, obj.sha256) := by
  rcases answer with e | ⟨size, sum⟩
  · cases checked
  · simp only [checkCopied] at checked
    split at checked
    · cases checked
    · split at checked
      · cases checked
      · rename_i size sum
        rw [not_not.mp size, not_not.mp sum]

theorem stageObject_progress (valid : m.validateObjectKeys = .ok ()) (member : obj ∈ m.objects)
    (objects : ∀ other ∈ done, other ∈ m.objects) (reading : Reading w hs m)
    (progress : Progress digest m t₀ (w.trees dir) done) :
    Ensures (stagingHandler digest) (·.handed = hs) (stageObject dir obj) (fun answer w' =>
      Reading w' hs m ∧ (answer = .ok () → Progress digest m t₀ (w'.trees dir) (obj :: done)))
      w := by
  have failed : ∀ e : String, (Except.error e : Except String Unit) = .ok () →
      ∀ t, Progress digest m t₀ t (obj :: done) := fun _ h => by cases h
  unfold stageObject
  refine ensures_bind.mpr (stage_rule reading.handed fun c₁ => ?_)
  have made := progress.mkdirAll valid member c₁
  simp only [StagingWorld.stage]
  split
  · exact ⟨⟨reading.handed, reading.manifest⟩, fun h => failed _ h _⟩
  refine ensures_bind.mpr (stage_rule reading.handed fun c₂ => ?_)
  simp only [StagingWorld.stage]
  split
  · exact ⟨⟨reading.handed, reading.manifest⟩, fun h => failed _ h _⟩
  refine ensures_bind.mpr (stage_rule reading.handed fun c₃ => ?_)
  simp only [StagingWorld.stage, trees_setTree]
  split
  · exact ⟨⟨reading.handed, reading.manifest⟩, fun h => failed _ h _⟩
  rename_i inode opened
  refine ensures_bind.mpr (stage_rule reading.handed fun c₄ => ?_)
  simp only [StagingWorld.stage, trees_setTree, StagingWorld.copy]
  split
  · rename_i e _
    refine ensures_bind.mpr (stage_rule reading.handed fun c₅ => ?_)
    exact ⟨⟨reading.handed, reading.manifest⟩, fun h => failed e h _⟩
  · rename_i checked
    refine ⟨⟨reading.handed, reading.manifest⟩, fun _ => ?_⟩
    rw [trees_setTree]
    have exact := checkCopied_ok checked
    cases fault : c₄.fault with
    | some cause => simp [fault] at exact
    | none =>
      simp only [fault, Except.ok.injEq, Prod.mk.injEq] at exact
      exact made.copied valid member objects (Prod.ext rfl opened) exact.1 exact.2

theorem stageEach_progress (valid : m.validateObjectKeys = .ok ()) (objects : List ManifestObject)
    (members : ∀ obj ∈ objects, obj ∈ m.objects) (earlier : ∀ other ∈ done, other ∈ m.objects)
    (reading : Reading w hs m) (progress : Progress digest m t₀ (w.trees dir) done) :
    Ensures (stagingHandler digest) (·.handed = hs) (stageEach dir objects) (fun answer w' =>
      Reading w' hs m ∧
      (answer = .ok () → Progress digest m t₀ (w'.trees dir) (objects.reverse ++ done))) w := by
  induction objects generalizing w done with
  | nil => exact ⟨reading, fun _ => progress⟩
  | cons obj rest ih =>
    have member := members obj mem_cons_self
    refine (stageObject_progress valid member earlier reading progress).bind
      fun answer w' after => ?_
    obtain ⟨reading', staged⟩ := after
    rcases answer with e | _
    · exact ⟨reading', fun h => by cases h⟩
    · rw [reverse_cons, append_assoc, singleton_append]
      refine ih (fun other among => members other (mem_cons_of_mem _ among)) ?_ reading'
        (staged rfl)
      intro other among
      rcases mem_cons.mp among with rfl | old
      · exact member
      · exact earlier other old

theorem Progress.mkdirStaging (c : StagingChoice) :
    Progress digest m t (StagingWorld.mkdirStaging t c).1 [] := by
  have made : Progress digest m t (t.addDir []) [] :=
    ⟨FileTree.grows_addDir [], fun only => (Progress.refl.staged only).frame
      (fun _ _ found => FileTree.entry_addDir found) (FileTree.grows_addDir []) rfl⟩
  unfold StagingWorld.mkdirStaging
  split <;> first | exact made | exact .refl

theorem except_bind_ok {α β : Type} {x : Except String α} {f : α → Except String β} {b : β}
    (done : x >>= f = .ok b) : ∃ a, x = .ok a ∧ f a = .ok b := by
  cases x with
  | error e => cases done
  | ok a => exact ⟨a, rfl, done⟩

theorem checkManifest_ok {decoded : BackupManifest} {exp : ManifestExpectation}
    (checked : (do let m ← parseManifest decoded; m.verify exp; m.validateObjectKeys; pure m) =
      .ok m) :
    m = decoded ∧ m.verify exp = .ok () ∧ m.validateObjectKeys = .ok () := by
  obtain ⟨parsed, same, rest⟩ := except_bind_ok checked
  obtain rfl : parsed = decoded := by
    unfold parseManifest at same
    split at same
    · cases same
    · exact (Except.ok.inj same).symm
  obtain ⟨_, verified, more⟩ := except_bind_ok rest
  obtain ⟨_, valid, last⟩ := except_bind_ok more
  obtain rfl := Except.ok.inj last
  exact ⟨rfl, verified, valid⟩

/-- A staging that succeeds has read a manifest that meets the expectation, and
    has staged every object of it. -/
theorem stageArtifact_progress {exp : ManifestExpectation} (handed : w.handed = hs) :
    Ensures (stagingHandler digest) (·.handed = hs) (stageArtifact dir exp) (fun answer w' =>
      w'.handed = hs ∧ ∀ m, answer = .ok m → w'.manifest = some m ∧ m.verify exp = .ok () ∧
        m.validateObjectKeys = .ok () ∧
        (Exact digest (w'.trees dir) m ↔ OnlyListed (w.trees dir) m)) w := by
  unfold stageArtifact
  refine ensures_bind.mpr (stage_rule handed fun c => ?_)
  simp only [StagingWorld.stage]
  cases c.manifest with
  | error e => exact ⟨handed, fun _ h => by cases h⟩
  | ok decoded =>
    dsimp only
    split
    · exact ⟨handed, fun _ h => by cases h⟩
    rename_i manifest checked
    obtain ⟨rfl, verified, valid⟩ := checkManifest_ok checked
    refine ensures_bind.mpr (stage_rule handed fun c₁ => ?_)
    have made : Progress digest manifest (w.trees dir)
        (StagingWorld.mkdirStaging (w.trees dir) c₁).1 [] :=
      .mkdirStaging c₁
    simp only [StagingWorld.stage]
    split
    · exact ⟨handed, fun _ h => by cases h⟩
    refine ensures_bind.mpr (stage_rule handed fun c₂ => ?_)
    simp only [StagingWorld.stage]
    split
    · exact ⟨handed, fun _ h => by cases h⟩
    have opened : Reading (StagingWorld.setTree { w with manifest := some manifest } dir
        (StagingWorld.mkdirStaging (w.trees dir) c₁).1) hs manifest := ⟨handed, rfl⟩
    have progress : Progress digest manifest (w.trees dir) (StagingWorld.trees (StagingWorld.setTree
        { w with manifest := some manifest } dir (StagingWorld.mkdirStaging (w.trees dir) c₁).1)
          dir) [] := by
      simpa using made
    refine (stageEach_progress valid manifest.objects (fun _ => id) (by simp) opened progress).bind
      fun answer w' after => ?_
    obtain ⟨reading, staged⟩ := after
    rcases answer with e | _
    · exact ⟨reading.handed, fun _ h => by cases h⟩
    · refine ⟨reading.handed, ?_⟩
      rintro _ ⟨⟩
      have progress := staged rfl
      refine ⟨reading.manifest, verified, valid,
        Progress.exact_iff ⟨progress.grows, fun only => ?_⟩⟩
      exact ⟨(progress.staged only).only, fun obj member => (progress.staged only).matching obj
        (by simpa using member)⟩

end Programs

def Given (digest : List UInt8 → String) (req : RestoreRequest) (trees : String → StagingTree)
    (g : Handed) : Prop :=
  ∃ dir m engine, g.backupDir = dir ++ "/backup" ∧ g.manifest = some m ∧
    m.verify (restoreExpectation req engine) = .ok () ∧ m.validateObjectKeys = .ok () ∧
    (Exact digest (g.trees dir) m ↔ OnlyListed (trees dir) m)

section Restores

variable {cfg : Config} {roots : RestoreRoots} {req : RestoreRequest} {dir : String}
  {id : OperationID} {trees : String → StagingTree} {w : StagingWorld} {α : Type}

def AllGiven (digest : List UInt8 → String) (req : RestoreRequest) (trees : String → StagingTree)
    (w : StagingWorld) : Prop := ∀ g ∈ w.handed, Given digest req trees g

theorem AllGiven.of_none (none : w.handed = []) : AllGiven digest req trees w := by
  intro g member
  rw [none] at member
  cases member

variable {crash : StagingWorld → Prop}

theorem quiet_rule {p : ManagerM α} {post : α → StagingWorld → Prop} {kinds : List EffectKind}
    (uses : Uses kinds p) (here : crash w) (next : ∀ a, post a w)
    (quiet : kinds ⊆ [.store, .volume, .learn, .stop, .start]) :
    Ensures (stagingHandler digest) crash p post w := by
  refine Ensures.mono (Only.ensures uses (fun e c member => ?_) here) fun a w' same => same ▸ next a
  have allowed := quiet member
  cases e with
  | staging | restoredb => simp [ManagerEffect.kind] at allowed
  | _ => rfl

theorem ask_rule {e : ManagerEffect} {post : e.Ans → StagingWorld → Prop} (here : crash w)
    (next : ∀ a, post a w) (quiet : e.kind ∈ [EffectKind.store, .volume, .learn, .stop, .start]) :
    Ensures (stagingHandler digest) crash (manage e) post w := by
  have uses : Uses [e.kind] (manage e) := only_ask (by simp)
  exact quiet_rule uses here next (by simpa using quiet)

theorem restoredb_rule {database source backupDir : String}
    {post : Except String Unit → StagingWorld → Prop} (here : crash w)
    (next : ∀ answer, post answer (w.hand backupDir)) :
    Ensures (stagingHandler digest) crash (manage (.restoredb database source backupDir)) post w :=
  ⟨here, fun _ => next _⟩

theorem restoreStaged_given (none : w.handed = []) (start : w.trees = trees) :
    Ensures (stagingHandler digest) (AllGiven digest req trees)
      (restoreStaged cfg roots req dir id (enter id ⟨.restoring, rfl⟩))
      (fun _ w' => AllGiven digest req trees w') w := by
  unfold restoreStaged
  refine Ensures.bind ((stageArtifact_progress none).weaken fun w' => AllGiven.of_none)
    fun answer w₁ after => ?_
  obtain ⟨none₁, staged⟩ := after
  have here : AllGiven digest req trees w₁ := .of_none none₁
  rcases answer with e | m
  · exact here
  obtain ⟨manifest, verified, valid, exact⟩ := staged m rfl
  refine ensures_bind.mpr (quiet_rule (enter_uses _) here (fun answer => ?_) (by simp))
  rcases answer with e | _
  · exact here
  refine ensures_bind.mpr
    (quiet_rule (registerRestoreHost_uses _) here (fun answer => ?_) (by simp))
  rcases answer with e | existed
  · exact here
  have given : AllGiven digest req trees (w₁.hand (dir ++ "/backup")) := by
    intro g member
    simp only [StagingWorld.hand, none₁, mem_singleton] at member
    subst member
    exact ⟨dir, m, roots.engineVersion, rfl, manifest, verified, valid, start ▸ exact⟩
  refine ensures_bind.mpr (restoredb_rule here fun answer => ?_)
  rcases answer with e | _
  · exact ensures_bind.mpr (quiet_rule (undo_uses _) given (fun _ => given) (by simp))
  · exact given

theorem restore_given (none : w.handed = []) (start : w.trees = trees) :
    Ensures (stagingHandler digest) (AllGiven digest req trees)
      (restore cfg roots req id (enter id ⟨.restoring, rfl⟩))
      (fun _ w' => AllGiven digest req trees w') w := by
  have here : AllGiven digest req trees w := .of_none none
  unfold restore
  split
  · exact here
  rename_i dir _
  refine ensures_bind.mpr (ask_rule here (fun answer => ?_) (by simp [ManagerEffect.kind]))
  split
  · exact here
  refine ensures_bind.mpr
    (quiet_rule registeredInDatabasesTxt_uses here (fun answer => ?_) (by simp))
  split
  · exact here
  · exact here
  refine ensures_bind.mpr ⟨here, fun c => ?_⟩
  refine Ensures.bind (restoreStaged_given none start) fun result w' given => ?_
  split
  · exact ensures_bind.mpr ⟨given, fun c => given⟩
  · exact ensures_bind.mpr ⟨given, fun c => given⟩
  · exact given

theorem runRestoreOn_given (none : w.handed = []) (start : w.trees = trees) :
    Ensures (stagingHandler digest) (AllGiven digest req trees) (runRestoreOn cfg roots id req)
      (fun _ w' => AllGiven digest req trees w') w := by
  have failed : ∀ w' reason, AllGiven digest req trees w' →
      Ensures (stagingHandler digest) (AllGiven digest req trees) (fail id reason)
        (fun _ w'' => AllGiven digest req trees w'') w' :=
    fun w' reason given => quiet_rule (fail_uses reason) given (fun _ => given) (by simp)
  have completes : ∀ w' restored, AllGiven digest req trees w' →
      Ensures (stagingHandler digest) (AllGiven digest req trees)
        (completeRestore cfg id req.database restored)
          (fun _ w'' => AllGiven digest req trees w'') w' :=
    fun w' restored given => quiet_rule (completeRestore_operates restored).uses given
      (fun _ => given) (by simp)
  have here : AllGiven digest req trees w := .of_none none
  unfold runRestoreOn
  refine ensures_bind.mpr (quiet_rule (enter_uses _) here (fun answer => ?_) (by simp))
  split
  · exact failed w _ here
  split
  · exact failed w _ here
  refine ensures_bind.mpr (quiet_rule adoptRestored_uses here (fun answer => ?_) (by simp))
  split
  · exact failed w _ here
  · split
    · exact failed w _ here
    · exact completes w _ here
  · unfold restoreAnew
    refine ensures_bind.mpr (quiet_rule reclaimIncomplete_uses here (fun answer => ?_) (by simp))
    split
    · exact failed w _ here
    refine Ensures.bind (restore_given none start) fun result w' given => ?_
    split
    · exact failed w' _ given
    · exact failed w' _ given
    · refine ensures_bind.mpr (ask_rule given (fun answer => ?_) (by simp [ManagerEffect.kind]))
      split
      · exact completes w' _ given
      · exact failed w' _ given
      · exact failed w' _ given

/-- Whatever stood in the staging directories and whatever is delivered:
    restoredb is given exactly the objects of the verified manifest if and only
    if nothing but files under its names stood below backup before. -/
theorem restoredb_given_verified (digest : List UInt8 → String) (cfg : Config) (id : OperationID)
    (req : RestoreRequest) (trees : String → StagingTree) (choices : List StagingChoice) :
    ∀ g ∈ ((runRestore cfg id req).run (stagingHandler digest) { trees } choices).1.handed,
      ∃ dir m engine, g.backupDir = dir ++ "/backup" ∧ g.manifest = some m ∧
        m.verify (restoreExpectation req engine) = .ok () ∧ m.validateObjectKeys = .ok () ∧
        (Exact digest (g.trees dir) m ↔ OnlyListed (trees dir) m) := by
  have here : AllGiven digest req trees { trees } := .of_none rfl
  have ensured : Ensures (stagingHandler digest) (AllGiven digest req trees) (runRestore cfg id req)
      (fun _ w' => AllGiven digest req trees w') { trees } := by
    unfold runRestore
    refine ensures_bind.mpr (ask_rule here (fun engine => ?_) (by simp [ManagerEffect.kind]))
    dsimp only
    split
    · exact runRestoreOn_given rfl rfl
    · refine ensures_bind.mpr (ask_rule here (fun answer => ?_) (by simp [ManagerEffect.kind]))
      split
      · exact quiet_rule (fail_uses _) here (fun _ => here) (by simp)
      · exact runRestoreOn_given rfl rfl
  have truth := run_ensures ensured choices
  generalize (runRestore cfg id req).run (stagingHandler digest)
    { trees } choices = result at truth ⊢
  obtain ⟨w', _ | _⟩ := result
  · exact truth
  · exact truth

end Restores

def artifactOf (keys : List String) : BackupManifest :=
  { manifestVersion := 1, database := "demo", cubridVersion := "11.4",
    objects := keys.map fun key => { key, sizeBytes := 3, sha256 := "3" } }

def seedRequest : RestoreRequest :=
  { database := "demo", bucket := "b", pathPrefix := "p", stagingDir := "/restore/seed",
    targetDir := "/db" }

def serves (m : BackupManifest) : StagingChoice :=
  { manifest := .ok m, bytes := [1, 2, 3],
    reply := fun e => match e with
      | .store (.update id _) => .updated (newRecord id .restore "k" "h" "demo")
      | .lookup _ => .missing
      | e => e.usual }

def seeded (trees : String → StagingTree) (keys : List String) (choices : Nat) : StagingWorld :=
  ((runRestore { target := "/db", staging := "/restore" } 0 seedRequest).run
    (stagingHandler fun bytes => toString bytes.length) { trees }
    (List.replicate choices (serves (artifactOf keys)))).1

theorem clean_staging_given :
    ∃ g ∈ (seeded (fun _ => FileTree.empty) ["backup/c"] 60).handed, ∃ dir m,
      g.backupDir = dir ++ "/backup" ∧ g.manifest = some m ∧
      Exact (fun bytes => toString bytes.length) (g.trees dir) m := by
  have run : (seeded (fun _ => FileTree.empty) ["backup/c"] 60).handed ≠ [] := by
    decide +kernel
  obtain ⟨g, member⟩ := exists_mem_of_ne_nil _ run
  obtain ⟨dir, m, _, place, manifest, -, -, exactly⟩ :=
    restoredb_given_verified _ _ _ _ _ _ g member
  refine ⟨g, member, dir, m, place, manifest, exactly.mpr ⟨fun p e _ found => ?_, ?_⟩⟩
  · cases found
  · intro first _ second _ inode found
    cases found

/-- A restore is killed when it has staged its first object, and the next one
    hands that object to restoredb. -/
theorem leftover_given_to_restoredb :
    ∃ g ∈ (seeded (seeded (fun _ => FileTree.empty) ["backup/a", "backup/b"] 18).trees
      ["backup/c"] 60).handed,
      g.backupDir = "/restore/seed/backup" ∧ g.manifest = some (artifactOf ["backup/c"]) ∧
      ¬Exact (fun bytes => toString bytes.length) (g.trees "/restore/seed")
      (artifactOf ["backup/c"]) := by
  have run : (seeded (seeded (fun _ => FileTree.empty) ["backup/a", "backup/b"] 18).trees
      ["backup/c"] 60).handed.any (fun g => g.backupDir = "/restore/seed/backup" ∧
        g.manifest = some (artifactOf ["backup/c"]) ∧
        (g.trees "/restore/seed").entry ["backup".toList, "a".toList] = some (.file 0)) = true := by
    decide +kernel
  obtain ⟨g, member, facts⟩ := any_eq_true.mp run
  obtain ⟨place, manifest, left⟩ := of_decide_eq_true facts
  refine ⟨g, member, place, manifest, fun exact => ?_⟩
  obtain ⟨obj, among, same⟩ := exact.1 _ _ ⟨["a".toList], rfl⟩ left (by simp)
  simp only [artifactOf, map_cons, map_nil, mem_singleton] at among
  subst among
  exact absurd same (by decide +kernel)

end InstanceManager
