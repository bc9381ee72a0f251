import CubridOperator.InstanceManager.StagedArtifact
import CubridOperator.InstanceManager.UploadedArtifact
import Mathlib.Logic.Equiv.List
import Mathlib.Tactic.DeriveEncodable

/-!
The way back: what a restore stages from the objects that an upload has put.
-/
namespace InstanceManager
open Foundation Program Function List

section Reading

abbrev Objects := String → String → Option (List UInt8)

def stored (codec : ManifestCodec) (puts : List Put) : Objects := fun bucket key =>
  (puts.find? fun p => p.bucket = bucket ∧ p.key = key).map (·.bytes codec)

def noSuchObject : String := "The specified key does not exist."

variable (codec : ManifestCodec) (digest : List UInt8 → String) (objects : Objects)
  (bucket : String) (above : Text)

def objectBelow (name : Text) : Option (List UInt8) :=
  objects bucket (String.ofList (Path.joined above name))

def storeChoice (e : StagingEffect) (c : StagingChoice) : StagingChoice :=
  match e with
  | .readManifest =>
    { c with
      manifest := match c.fault, objectBelow objects bucket above manifestObjectName.toList with
        | some cause, _ => .error ("read manifest: " ++ cause)
        | none, none => .error ("read manifest: " ++ noSuchObject)
        | none, some bytes => codec.decode bytes }
  | .getObject key =>
    match c.fault, objectBelow objects bucket above key.toList with
    | none, none => { c with fault := some noSuchObject }
    | _, _ => c
  | .copy key _ =>
    match c.fault, objectBelow objects bucket above key.toList with
    | none, none => { c with fault := some noSuchObject }
    | none, some bytes => { c with bytes }
    | some _, _ => c
  | _ => c

def objectHandler : Handler ManagerEffect ManagerEffect.Ans StagingWorld StagingChoice :=
  fun w e c =>
  match e with
  | .staging dir effect =>
    stagingHandler digest w (.staging dir effect) (storeChoice codec objects bucket above effect c)
  | e => stagingHandler digest w e c

variable {codec digest objects bucket above} {c : StagingChoice} {dir : String} {w : StagingWorld}

theorem completes_stage {e : StagingEffect} {post : e.Ans → StagingWorld → Prop} :
    (stage dir e).Completes (objectHandler codec digest objects bucket above) c post w ↔
      post (w.stage digest dir e (storeChoice codec objects bucket above e c)).2
        (w.stage digest dir e (storeChoice codec objects bucket above e c)).1 := Iff.rfl

theorem stored_of_all {puts : List Put} {p : Put} (member : p ∈ puts)
    (same : ∀ q ∈ puts, q.bucket = p.bucket → q.key = p.key → q.bytes codec = p.bytes codec)
    (older : List Put) : stored codec (puts ++ older) p.bucket p.key = some (p.bytes codec) := by
  unfold stored
  rw [find?_append]
  cases found : puts.find? (fun q => q.bucket = p.bucket ∧ q.key = p.key) with
  | none =>
    have none := find?_eq_none.mp found p member
    simp at none
  | some q =>
    have there : q.bucket = p.bucket ∧ q.key = p.key := by simpa using find?_some found
    simp [same q (mem_of_find?_eq_some found) there.1 there.2]

end Reading

section Staging

structure StagedFiles (tree : BackupTree) (done : List BackupFile) (t : StagingTree) : Prop where
  files : ∀ p i, t.entry p = some (.file i) → ∃ f ∈ done, p = f.names ∧ t.content i = f.bytes
  staged : ∀ f ∈ done, ∃ i, t.entry f.names = some (.file i)
  others : ∀ p e, t.entry p = some e → (∃ i, e = .file i) ∨
    e = .dir ∧ ∃ f ∈ tree.files, p <+: f.names ∧ p ≠ f.names

variable {tree : BackupTree} {done : List BackupFile} {t t' : StagingTree} {f g : BackupFile}

theorem BackupTree.names_apart (one : f ∈ tree.files) (two : g ∈ tree.files)
    (below : f.names <+: g.names) : f = g :=
  tree.apart f one g two (cons_prefix_cons.mp below).2

section

variable (staged : StagedFiles tree done t)
include staged

theorem StagedFiles.open (among : ∀ g ∈ done, g ∈ tree.files) (member : f ∈ tree.files) :
    t.Open [] f.names.dropLast := by
  intro first rest some_ same
  have inside : first <+: f.names := (prefix_append first rest).trans (same ▸ dropLast_prefix _)
  rw [nil_append]
  cases found : t.entry first with
  | none => exact .inl rfl
  | some e =>
    rcases staged.others first e found with ⟨i, rfl⟩ | ⟨rfl, -⟩
    · obtain ⟨g, old, is, -⟩ := staged.files first i found
      have equal := BackupTree.names_apart (among g old) member (is ▸ inside)
      have shorter := congrArg length same
      have longer := congrArg length (is.trans (congrArg BackupFile.names equal))
      have positive := length_pos_of_ne_nil f.names_ne_nil
      simp only [length_dropLast, length_append] at shorter
      omega
    · exact .inr rfl

theorem StagedFiles.made (member : f ∈ tree.files) (made : FileTree.Made t t' [] f.names.dropLast)
    (grows : FileTree.Grows t t') (content : t'.content = t.content) :
    StagedFiles tree done t' := by
  constructor
  · intro p i found
    rw [content]
    exact staged.files p i ((made.old p _ found).resolve_right fun dir => by cases dir.1)
  · intro g old
    obtain ⟨i, found⟩ := staged.staged g old
    exact ⟨i, grows _ _ found⟩
  · intro p e found
    rcases made.old p e found with was | ⟨dir, first, rest, -, same, is⟩
    · exact staged.others p e was
    · obtain rfl : p = first := is
      have inside : p <+: f.names.dropLast := same ▸ prefix_append p rest
      refine .inr ⟨dir, f, member, inside.trans (List.dropLast_prefix _), fun whole => ?_⟩
      have shorter := inside.length_le
      have positive := length_pos_of_ne_nil f.names_ne_nil
      rw [whole, length_dropLast] at shorter
      omega

theorem StagedFiles.free (among : ∀ g ∈ done, g ∈ tree.files) (member : f ∈ tree.files)
    (fresh : f ∉ done) : t.entry f.names = none := by
  cases found : t.entry f.names with
  | none => rfl
  | some e =>
    rcases staged.others _ e found with ⟨i, rfl⟩ | ⟨-, g, other, below, differ⟩
    · obtain ⟨g, old, is, -⟩ := staged.files _ i found
      have equal := BackupTree.names_apart member (among g old) (is ▸ prefix_refl _)
      exact absurd (equal ▸ old) fresh
    · exact absurd (congrArg BackupFile.names (BackupTree.names_apart member other below)) differ

theorem StagedFiles.added (member : f ∈ tree.files) (free : t.entry f.names = none) :
    StagedFiles tree (f :: done) ((t.addFile f.names).write t.next f.bytes) := by
  have entry : ∀ p e, (t.addFile f.names).entry p = some e →
      p = f.names ∧ e = .file t.next ∨ t.entry p = some e := by
    intro p e found
    by_cases same : p = f.names
    · subst same
      simp only [FileTree.addFile, update_self] at found
      exact .inl ⟨rfl, (Option.some.inj found).symm⟩
    · simp only [FileTree.addFile, update_of_ne same] at found
      exact .inr found
  constructor
  · intro p i found
    rcases entry p _ found with ⟨rfl, new⟩ | old
    · cases new
      exact ⟨f, mem_cons_self, rfl, by simp [FileTree.write]⟩
    · obtain ⟨g, among, is, bytes⟩ := staged.files p i old
      have differs : i ≠ t.next := (t.bounded _ _ old).ne
      refine ⟨g, mem_cons_of_mem _ among, is, ?_⟩
      simp only [FileTree.write, FileTree.addFile, update_of_ne differs]
      exact bytes
  · intro g among
    rcases mem_cons.mp among with rfl | old
    · exact ⟨t.next, by simp [FileTree.write, FileTree.addFile]⟩
    · obtain ⟨i, found⟩ := staged.staged g old
      exact ⟨i, FileTree.grows_addFile free _ _ found⟩
  · intro p e found
    rcases entry p e found with ⟨-, rfl⟩ | old
    · exact .inl ⟨t.next, rfl⟩
    · exact staged.others p e old

end

end Staging

section Programs

variable {codec : ManifestCodec} {digest : List UInt8 → String} {objects : Objects}
  {bucket : String} {above : Text} {dir : String} {w : StagingWorld} {tree : BackupTree}
  {done : List BackupFile} {f : BackupFile}

theorem BackupTree.object_path (member : f ∈ tree.files) : (f.object digest).path = f.names := by
  rw [ManifestObject.path, BackupFile.object, String.toList_ofList,
    BackupTree.elements_names member]

theorem stageObject_completes (among : ∀ g ∈ done, g ∈ tree.files) (member : f ∈ tree.files)
    (fresh : f ∉ done) (held : objectBelow objects bucket above (Path.join f.names) = some f.bytes)
    (staged : StagedFiles tree done (w.trees dir)) :
    (stageObject dir (f.object digest)).Completes (objectHandler codec digest objects bucket above)
    {}
      (fun answer w' => answer = .ok () ∧ StagedFiles tree (f :: done) (w'.trees dir)) w := by
  have path : Path.elements (f.object digest).key.toList = f.names := BackupTree.object_path member
  have key : (f.object digest).key.toList = Path.join f.names := String.toList_ofList
  obtain ⟨walked, made⟩ := FileTree.mkdirs_open (staged.open among member)
  have after := staged.made member made (FileTree.grows_mkdirs _ _) (FileTree.mkdirs_frame _ _).2
  have free := after.free among member fresh
  have plain := FileTree.walk_plain made.dirs
  generalize made' : (w.trees dir).mkdirs [] f.names.dropLast = outcome at walked after free plain
  obtain ⟨t, walk⟩ := outcome
  obtain rfl : walk = .plain := walked
  dsimp only at after free plain
  have dirs : StagingWorld.mkdirAll (w.trees dir) f.names.dropLast {} = (t, .ok ()) := by
    simp only [StagingWorld.mkdirAll, made']
  have created : StagingWorld.create t f.names {} = (t.addFile f.names, .ok t.next) := by
    simp only [StagingWorld.create, FileTree.create, plain, free]
  unfold stageObject
  rw [path]
  refine completes_bind.mpr (completes_stage.mpr ?_)
  simp only [StagingWorld.stage, storeChoice, dirs]
  refine completes_bind.mpr (completes_stage.mpr ?_)
  simp only [StagingWorld.stage, storeChoice, key, held]
  refine completes_bind.mpr (completes_stage.mpr ?_)
  simp only [StagingWorld.stage, storeChoice, trees_setTree, created]
  refine completes_bind.mpr (completes_stage.mpr ?_)
  have checked : checkCopied (f.object digest) (.ok ((f.bytes.length : Int), digest f.bytes)) =
      .ok () := by
    simp [checkCopied, BackupFile.object]
  simp only [StagingWorld.stage, storeChoice, key, held, trees_setTree, StagingWorld.copy, checked]
  exact ⟨rfl, by rw [trees_setTree]; exact after.added member free⟩

theorem stageEach_completes (listed : List BackupFile) (members : ∀ g ∈ listed, g ∈ tree.files)
    (among : ∀ g ∈ done, g ∈ tree.files) (fresh : (listed.reverse ++ done).Nodup)
    (held : ∀ f ∈ listed, objectBelow objects bucket above (Path.join f.names) = some f.bytes)
    (staged : StagedFiles tree done (w.trees dir)) :
    (stageEach dir (listed.map (·.object digest))).Completes
    (objectHandler codec digest objects bucket above) {}
      (fun answer w' => answer = .ok () ∧ StagedFiles tree (listed.reverse ++ done) (w'.trees dir))
      w := by
  induction listed generalizing w done with
  | nil => exact ⟨rfl, staged⟩
  | cons f rest ih =>
    rw [reverse_cons, append_assoc, singleton_append] at fresh ⊢
    have member := members f mem_cons_self
    have new : f ∉ done := fun old => (nodup_cons.mp (nodup_append.mp fresh).2.1).1 old
    refine completes_bind.mpr
      ((stageObject_completes among member new (held f mem_cons_self) staged).mono
      fun answer w' ⟨ok, staged'⟩ => ?_)
    subst ok
    refine ih (fun g inside => members g (mem_cons_of_mem _ inside)) (fun g inside => ?_) fresh
      (fun g inside => held g (mem_cons_of_mem _ inside)) staged'
    rcases mem_cons.mp inside with rfl | old
    · exact member
    · exact among g old

def BackupFile.Backslash (f : BackupFile) : Prop := ∃ name ∈ f.path, '\\' ∈ name

theorem validateObjectKey_iff (member : f ∈ tree.files) :
    validateObjectKey (Path.join f.names) = .ok () ↔ ¬ f.Backslash := by
  have plain := BackupTree.plain_names member
  have inPath : ∀ c : Char, c ≠ '/' → c ∉ objectKeyRoot →
      (c ∈ Path.join f.names ↔ ∃ name ∈ f.path, c ∈ name) := by
    intro c other outside
    rw [Path.mem_join other, BackupFile.names, exists_mem_cons_iff, or_iff_right outside]
  have slash := inPath '\\' (by decide) (by decide)
  have nul : Char.ofNat 0 ∉ Path.join f.names := by
    rw [inPath _ (by decide) (by decide)]
    rintro ⟨name, inside, bad⟩
    exact ((tree.named f member).2 name inside).2 bad
  have split : (Path.join f.names).splitOn '/' = f.names :=
    splitOn_intercalate '/' (fun name inside => (plain name inside).2.1) f.names_ne_nil
  have text : Path.join f.names = objectKeyRoot ++ '/' :: Path.join f.path :=
    Path.join_cons _ (tree.named f member).1
  have more : Path.join f.path ≠ [] := by
    obtain ⟨name, inside⟩ := exists_mem_of_ne_nil _ (tree.named f member).1
    obtain ⟨c, first⟩ := exists_mem_of_ne_nil _ ((tree.named f member).2 name inside).1.1
    have other : c ≠ '/' := fun same => ((tree.named f member).2 name inside).1.2.1 (same ▸ first)
    exact ne_nil_of_mem ((Path.mem_join other _).mpr ⟨name, inside, first⟩)
  have below : belowObjectKeyRoot (Path.join f.names) = true := by
    rw [belowObjectKeyRoot, decide_eq_true_iff, text, append_cons]
    refine ⟨List.isPrefixOf_iff_prefix.mpr (prefix_append _ _), fun same => more ?_⟩
    simpa using same
  have dots : ¬ (['.', '.'] ∈ f.names ∨ ['.'] ∈ f.names) := by
    rintro (up | here)
    · exact (plain _ up).2.2.2 rfl
    · exact (plain _ here).2.2.1 rfl
  have named : Path.join f.names ≠ [] := by
    rw [text]
    exact append_ne_nil_of_right_ne_nil _ (cons_ne_nil _ _)
  unfold validateObjectKey
  rw [split, Path.isAbs_join fun name inside => ⟨(plain name inside).1, (plain name inside).2.1⟩,
    Path.clean_join plain f.names_ne_nil, below]
  simp only [named, nul, slash, dots, false_or, Bool.false_eq_true, ne_eq, not_true_eq_false,
    or_self, if_false, Bool.not_true]
  unfold BackupFile.Backslash
  split_ifs with bad
  · simp [bad]
  · simp [bad]

theorem keys_nodup {listed : List BackupFile} (perm : listed.Perm tree.files) :
    ((listed.map (·.object digest)).map (·.key)).Nodup := by
  rw [map_map]
  refine Nodup.map_on (fun f one g two same => ?_) (perm.nodup_iff.mpr tree.distinct)
  have one := perm.mem_iff.mp one
  have two := perm.mem_iff.mp two
  have text : Path.join f.names = Path.join g.names := by
    simpa [BackupFile.object] using congrArg String.toList same
  have names : f.names = g.names := by
    rw [← BackupTree.elements_names one, text, BackupTree.elements_names two]
  exact BackupTree.names_apart one two (names ▸ prefix_refl _)

theorem validateObjectKeys_iff (digest : List UInt8 → String) {call : UploadCall}
    {listed : List BackupFile} (perm : listed.Perm call.tree.files) :
    (call.manifestOf digest listed).validateObjectKeys = .ok () ↔ ∀ f ∈ call.tree.files,
    ¬ f.Backslash := by
  have key : ∀ f : BackupFile, (f.object digest).key.toList = Path.join f.names :=
    fun f => String.toList_ofList
  unfold BackupManifest.validateObjectKeys
  constructor
  · intro valid f member
    have usable := (validateObjectKeysFrom_ok valid).1 _ (mem_map_of_mem (perm.mem_iff.mpr member))
    rw [key] at usable
    exact (validateObjectKey_iff member).mp usable
  · intro clear
    refine validateObjectKeysFrom_of (fun obj among => ?_) (keys_nodup perm) fun _ _ => not_mem_nil
    obtain ⟨f, inside, rfl⟩ := mem_map.mp among
    have member := perm.mem_iff.mp inside
    rw [key]
    exact (validateObjectKey_iff member).mpr (clear f member)

end Programs

section RoundTrip

/-- The directory holds the files of the tree below backup, and no other file. -/
def Restored (tree : BackupTree) (t : StagingTree) : Prop :=
  ∀ p bytes, (∃ i, t.entry p = some (.file i) ∧ t.content i = bytes) ↔
    ∃ f ∈ tree.files, p = f.names ∧ bytes = f.bytes

theorem StagedFiles.restored {tree : BackupTree} {done : List BackupFile} {t : StagingTree}
    (staged : StagedFiles tree done t) (all : ∀ f, f ∈ done ↔ f ∈ tree.files) :
    Restored tree t := by
  intro p bytes
  constructor
  · rintro ⟨i, found, rfl⟩
    obtain ⟨f, among, is, content⟩ := staged.files p i found
    exact ⟨f, (all f).mp among, is, content⟩
  · rintro ⟨f, member, rfl, rfl⟩
    obtain ⟨i, found⟩ := staged.staged f ((all f).mpr member)
    obtain ⟨g, among, is, content⟩ := staged.files _ i found
    obtain rfl := BackupTree.names_apart member ((all g).mp among) (is ▸ prefix_refl _)
    exact ⟨i, found, content⟩

variable {codec : ManifestCodec} {digest : List UInt8 → String} {call : UploadCall}
  {w : UploadWorld} {place above : Text} {m : BackupManifest} {f : BackupFile}

theorem manifestName_plain : ∀ name ∈ [manifestObjectName.toList], Path.Plain name := by decide

theorem UploadCall.Completed.file (completed : call.Completed digest place m w) (older : List Put)
    (member : f ∈ call.tree.files) :
    objectBelow (stored codec (w.puts ++ older)) call.up.bucket place (Path.join f.names) =
      some f.bytes := by
  obtain ⟨earlier, is, files, all⟩ := completed.puts
  have put : call.filePut place f ∈ w.puts := is ▸ mem_cons_of_mem _ (all f member)
  refine stored_of_all put (fun q among _ key => ?_) older
  have plain := BackupTree.plain_names member
  rcases mem_cons.mp (is ▸ among) with rfl | before
  · have text : Path.joined place (Path.join [manifestObjectName.toList]) = Path.joined place
        (Path.join f.names) := by
      simpa [manifestPut, filePut, Path.join] using congrArg String.toList key
    have names :=
      Path.joined_injective manifestName_plain (cons_ne_nil _ _) plain f.names_ne_nil text
    exact absurd (cons.inj names).1 (by decide)
  · obtain ⟨g, other, rfl⟩ := files q before
    have text : Path.joined place (Path.join g.names) = Path.joined place (Path.join f.names) := by
      simpa [filePut] using congrArg String.toList key
    have names := Path.joined_injective (BackupTree.plain_names other) g.names_ne_nil plain
      f.names_ne_nil text
    obtain rfl := BackupTree.names_apart other member (names ▸ prefix_refl _)
    rfl

theorem UploadCall.Completed.manifest (completed : call.Completed digest place m w)
    (older : List Put) :
    objectBelow (stored codec (w.puts ++ older)) call.up.bucket place manifestObjectName.toList =
      some (codec.encode m) := by
  obtain ⟨earlier, is, -⟩ := completed.puts
  simp [objectBelow, stored, is, manifestPut, Put.bytes]

theorem stagedFiles_start {tree : BackupTree} (some_ : tree.files ≠ []) :
    StagedFiles tree [] (FileTree.empty.addDir []) := by
  have entry : ∀ p e, ((FileTree.empty : StagingTree).addDir []).entry p = some e → p = [] ∧
      e = .dir := by
    intro p e found
    by_cases same : p = []
    · subst same
      rw [FileTree.entry_addDir_self rfl] at found
      exact ⟨rfl, (Option.some.inj found).symm⟩
    · simp [FileTree.addDir, FileTree.empty, update_of_ne same] at found
  constructor
  · intro p i found
    cases (entry p _ found).2
  · intro f inside
    cases inside
  · intro p e found
    obtain ⟨rfl, rfl⟩ := entry p e found
    obtain ⟨f, member⟩ := exists_mem_of_ne_nil _ some_
    exact .inr ⟨rfl, f, member, nil_prefix, f.names_ne_nil.symm⟩

theorem stageArtifact_completes_iff {exp : ManifestExpectation} {dir : String} {objects : Objects}
    {bucket : String} (lists : call.Lists digest m) (meets : exp.Meets call.metadata)
    (manifest : objectBelow objects bucket above manifestObjectName.toList = some (codec.encode m))
    (files : ∀ f ∈ call.tree.files, objectBelow objects bucket above (Path.join f.names) =
      some f.bytes) :
    (stageArtifact dir exp).Completes (objectHandler codec digest objects bucket above)
    {} (fun answer w' =>
      (∃ m, answer = .ok m) ∧ Restored call.tree (w'.trees dir)) {} ↔ ∀ f ∈ call.tree.files,
      ¬ f.Backslash := by
  obtain ⟨listed, perm, some_, rfl⟩ := lists
  have verified : (call.manifestOf digest listed).verify exp = .ok () :=
    BackupManifest.verify_of ⟨meets.database, meets.cubridVersion, meets.level, meets.sourceRole,
      meets.sourceInstance, meets.clusterUID⟩ rfl (by simpa [UploadCall.manifestOf] using some_)
  have keys := validateObjectKeys_iff digest perm
  have check : (do
      let m ← parseManifest (call.manifestOf digest listed)
      m.verify exp
      m.validateObjectKeys
      pure m) = (call.manifestOf digest listed).validateObjectKeys.map fun _ =>
        call.manifestOf digest listed := by
    have parsed : parseManifest (call.manifestOf digest listed) =
        .ok (call.manifestOf digest listed) := if_neg (by simp [UploadCall.manifestOf])
    rw [parsed]
    simp only [Bind.bind, Except.bind, verified]
    cases (call.manifestOf digest listed).validateObjectKeys <;> rfl
  unfold stageArtifact
  rw [completes_bind, completes_stage]
  simp only [StagingWorld.stage, storeChoice, manifest, codec.decode_encode, check]
  cases checked : (call.manifestOf digest listed).validateObjectKeys with
  | error e =>
    rw [checked] at keys
    refine iff_of_false ?_ fun clear => by cases keys.mpr clear
    rintro ⟨⟨m, is⟩, -⟩
    cases is
  | ok _ =>
    rw [checked] at keys
    refine iff_of_true ?_ (keys.mp rfl)
    refine completes_bind.mpr (completes_stage.mpr ?_)
    have start : StagedFiles call.tree [] (FileTree.empty.addDir []) :=
      stagedFiles_start fun none => some_ (Perm.eq_nil (none ▸ perm))
    have made : StagingWorld.mkdirStaging FileTree.empty {} = (FileTree.empty.addDir [], .ok ()) :=
      rfl
    simp only [StagingWorld.stage, storeChoice, made]
    refine completes_bind.mpr (completes_stage.mpr ?_)
    have opened : StagingWorld.openStaging (FileTree.empty.addDir []) {} = .ok () := rfl
    simp only [StagingWorld.stage, storeChoice, trees_setTree, opened]
    refine completes_bind.mpr ((stageEach_completes listed (fun g => perm.mem_iff.mp)
      (fun g inside => absurd inside not_mem_nil) ?_
        (fun g inside => files g (perm.mem_iff.mp inside)) ?_).mono fun answer w' done => ?_)
    · rw [append_nil, nodup_reverse]
      exact perm.nodup_iff.mpr call.tree.distinct
    · rw [trees_setTree]
      exact start
    · obtain ⟨rfl, staged⟩ := done
      exact ⟨⟨_, rfl⟩, staged.restored fun f => by simp [perm.mem_iff]⟩

theorem UploadCall.Completed.restorable_iff (completed : call.Completed digest place m w)
    (older : List Put)
    (located : Path.joined above manifestObjectName.toList =
      Path.joined place manifestObjectName.toList)
    {exp : ManifestExpectation} (meets : exp.Meets call.metadata) (dir : String) :
    (stageArtifact dir exp).Completes
        (objectHandler codec digest (stored codec (w.puts ++ older)) call.up.bucket above)
        {} (fun answer w' =>
      (∃ m, answer = .ok m) ∧ Restored call.tree (w'.trees dir)) {} ↔ ∀ f ∈ call.tree.files,
      ¬ f.Backslash := by
  have below : ∀ names, (∀ name ∈ names, Path.Plain name) → names ≠ [] →
      objectBelow (stored codec (w.puts ++ older)) call.up.bucket above (Path.join names) =
        objectBelow (stored codec (w.puts ++ older)) call.up.bucket place (Path.join names) := by
    intro names plain some_
    have same : Path.joined above (Path.join [manifestObjectName.toList]) =
        Path.joined place (Path.join [manifestObjectName.toList]) := located
    rw [objectBelow, objectBelow, Path.joined_congr manifestName_plain (cons_ne_nil _ _) same
      plain some_]
  refine stageArtifact_completes_iff completed.lists meets ?_ fun f member => ?_
  · exact (below [manifestObjectName.toList] manifestName_plain (cons_ne_nil _ _)).trans
      (completed.manifest older)
  · exact (below _ (BackupTree.plain_names member) f.names_ne_nil).trans
      (completed.file older member)

theorem located_of_uri (uri : "s3://" ++ call.up.bucket ++ "/" ++ (call.manifestPut place m).key =
      "s3://" ++ call.up.bucket ++ "/" ++ String.ofList
      (Path.joined above manifestObjectName.toList)) :
    Path.joined above manifestObjectName.toList = Path.joined place manifestObjectName.toList := by
  have same := congrArg String.toList uri
  simp only [String.toList_append, append_cancel_left_eq] at same
  simpa [UploadCall.manifestPut] using same.symm

/-- An upload that succeeded is restored, with the paths and the bytes that it
    read, exactly if no name of its files has a backslash. -/
theorem upload_restorable_iff (codec : ManifestCodec) (digest : List UInt8 → String)
    (call : UploadCall) (choices : List UploadChoice) (w : UploadWorld) (result : UploadResult)
    (uploaded : call.program.run (uploadHandler digest codec call)
      {} choices = (w, some (.ok result)))
    (older : List Put) (above : Text)
    (located : result.manifestURI = "s3://" ++ call.up.bucket ++ "/" ++
      String.ofList (Path.joined above manifestObjectName.toList))
    (exp : ManifestExpectation) (meets : exp.Meets call.metadata) (dir : String) :
    (stageArtifact dir exp).Completes
        (objectHandler codec digest (stored codec (w.puts ++ older)) call.up.bucket above)
        {} (fun answer w' =>
      (∃ m, answer = .ok m) ∧ Restored call.tree (w'.trees dir)) {} ↔ ∀ f ∈ call.tree.files,
      ¬ f.Backslash := by
  have ensured := run_ensures (UploadCall.program_spec digest codec call) choices
  rw [uploaded] at ensured
  obtain ⟨place, m, -, completed, uri⟩ := ensured.2 result rfl
  exact completed.restorable_iff older (located_of_uri (uri.symm.trans located)) meets dir

end RoundTrip

instance encodableString : Encodable String :=
  Encodable.ofLeftInjection (fun s => s.toList.map Char.toNat)
    (fun codes => some (String.ofList (codes.map Char.ofNat)))
    fun s => by simp [comp_def]

deriving instance Encodable for ManifestObject, BackupManifest

def countingCodec : ManifestCodec where
  encode m := replicate (Encodable.encode m) 0
  decode bytes :=
    match Encodable.decode bytes.length with
    | some m => .ok m
    | none => .error "decode manifest: no number of a manifest"
  decode_encode m := by simp

def lengthDigest (bytes : List UInt8) : String := toString bytes.length

abbrev FileName := { name : Text // Path.Plain name ∧ Char.ofNat 0 ∉ name }

def backupVolume : FileName := ⟨"demo_bk0v000".toList, by decide⟩

def backslashed : FileName := ⟨"demo\\bk0".toList, by decide⟩

def oneFile (name : FileName) : BackupTree where
  files := [⟨[name.1], [1, 2, 3]⟩]
  named := by simpa using name.2
  distinct := by simp
  apart := by simp

def firstAttempt : AttemptID := ⟨replicate 32 '0', by decide⟩

def nightlyUpload (name : FileName) : UploadCall where
  cfg := { target := "/db", staging := "/restore" }
  dir := ⟨"nightly", 0⟩
  up :=
    { bucket := "b", pathPrefix := "p", clusterUID := "u", cubridVersion := "11.4",
      sourceInstance := "c-0" }
  metadata := { manifestVersion := 0, database := "demo", cubridVersion := "11.4", objects := [] }
  tree := oneFile name

def noFault : List UploadChoice := replicate 7 { attempt := firstAttempt, size := 3 }

def nightlyRun (name : FileName) :
    UploadWorld × Option (Except String UploadResult) :=
  (nightlyUpload name).program.run (uploadHandler lengthDigest countingCodec (nightlyUpload name))
    {} noFault

def nightlyPlace : Text := "p/attempt-00000000000000000000000000000000".toList

def Uploaded (name : FileName) (result : UploadResult) : Prop :=
  (nightlyRun name).2 = some (.ok result) ∧ result.manifestURI = "s3://" ++ "b" ++ "/" ++
    String.ofList (Path.joined nightlyPlace manifestObjectName.toList)

theorem exists_uploaded {name : FileName}
    (done : (nightlyRun name).2.any
      (fun answer => answer.toOption.any fun result => result.manifestURI =
      "s3://" ++ "b" ++ "/" ++ String.ofList (Path.joined nightlyPlace manifestObjectName.toList)) =
      true) :
    ∃ result, Uploaded name result := by
  obtain ⟨answer, is, ok⟩ := (Option.any_eq_true _ _).mp done
  obtain ⟨result, got, uri⟩ := (Option.any_eq_true _ _).mp ok
  cases answer with
  | error e => cases got
  | ok value =>
    obtain rfl := Option.some.inj got
    exact ⟨value, is, of_decide_eq_true uri⟩

def expectDemo : ManifestExpectation :=
  { database := "demo", cubridVersion := "11.4.2", level := some 0 }

theorem expectDemo_series :
    engineSeries "11.4" ≠ "" ∧ engineSeries "11.4" = engineSeries expectDemo.cubridVersion := by
  decide +kernel

theorem expectDemo_meets (name : FileName) :
    expectDemo.Meets (nightlyUpload name).metadata where
  database := fun _ => rfl
  cubridVersion := fun _ => expectDemo_series
  level := fun _ is => Option.some.inj is
  sourceRole := fun named => absurd rfl named
  sourceInstance := fun named => absurd rfl named
  clusterUID := fun named => absurd rfl named

def RestoresNightly (name : FileName) : Prop :=
  (stageArtifact "/restore/s" expectDemo).Completes
    (objectHandler countingCodec lengthDigest
      (stored countingCodec ((nightlyRun name).1.puts ++ [])) "b"
      nightlyPlace) {}
    (fun answer w' => (∃ m, answer = .ok m) ∧ Restored (oneFile name) (w'.trees "/restore/s")) {}

theorem plain_name_restorable :
    ∃ result, Uploaded backupVolume result ∧ RestoresNightly backupVolume := by
  obtain ⟨result, uploaded, uri⟩ : ∃ result, Uploaded backupVolume result :=
    exists_uploaded (by decide +kernel)
  refine ⟨result, ⟨uploaded, uri⟩, ?_⟩
  refine (upload_restorable_iff countingCodec lengthDigest (nightlyUpload _) noFault _ result
    (Prod.ext rfl uploaded) [] nightlyPlace uri expectDemo (expectDemo_meets _) "/restore/s").mpr ?_
  intro f member
  obtain rfl := mem_singleton.mp member
  rintro ⟨name, inside, bad⟩
  obtain rfl := mem_singleton.mp inside
  exact absurd bad (by decide)

/-- A file with a backslash in its name is uploaded, and no restore takes the
    artifact back. -/
theorem backslash_not_restorable :
    ∃ result, Uploaded backslashed result ∧ ¬ RestoresNightly backslashed := by
  obtain ⟨result, uploaded, uri⟩ : ∃ result, Uploaded backslashed result :=
    exists_uploaded (by decide +kernel)
  refine ⟨result, ⟨uploaded, uri⟩, fun restored => ?_⟩
  have ensured := run_ensures (UploadCall.program_spec lengthDigest countingCodec
    (nightlyUpload backslashed)) noFault
  have run : (nightlyUpload backslashed).program.run
      (uploadHandler lengthDigest countingCodec (nightlyUpload backslashed)) {} noFault =
      ((nightlyRun backslashed).1, some (.ok result)) := Prod.ext rfl uploaded
  rw [run] at ensured
  obtain ⟨place, m, -, completed, at_⟩ := ensured.2 result rfl
  have clear :=
    (completed.restorable_iff [] (located_of_uri (at_.symm.trans uri)) (expectDemo_meets _)
    "/restore/s").mp restored
  exact clear _ (mem_singleton.mpr rfl) ⟨_, mem_singleton.mpr rfl, by decide⟩

end InstanceManager
