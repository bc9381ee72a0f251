import CubridOperator.InstanceManager.Backups
import CubridOperator.InstanceManager.Volume

/-!
An upload as the object store sees it: the files, the location, and the manifest
that is put last.
-/
namespace InstanceManager
open Foundation Program List

/-- Names are UTF-8: a file with another name is none of the model's. -/
structure BackupFile where
  path : List Text
  bytes : List UInt8
  deriving DecidableEq

namespace BackupFile

def rel (f : BackupFile) : String := String.ofList (Path.join f.path)

def names (f : BackupFile) : List Text := objectKeyRoot :: f.path

def object (digest : List UInt8 → String) (f : BackupFile) : ManifestObject :=
  { key := String.ofList (Path.join f.names), sizeBytes := f.bytes.length,
    sha256 := digest f.bytes }

theorem names_ne_nil (f : BackupFile) : f.names ≠ [] := cons_ne_nil _ _

end BackupFile

/-- The regular files below a directory: each has a path of names that a file
    can have, and none lies at or below another. -/
structure BackupTree where
  files : List BackupFile
  named : ∀ f ∈ files, f.path ≠ [] ∧ ∀ name ∈ f.path, Path.Plain name ∧ Char.ofNat 0 ∉ name
  distinct : files.Nodup
  apart : ∀ f ∈ files, ∀ g ∈ files, f.path <+: g.path → f = g

namespace BackupTree

variable {tree : BackupTree} {f g : BackupFile}

theorem plain_names (member : f ∈ tree.files) : ∀ name ∈ f.names, Path.Plain name := by
  intro name among
  rcases mem_cons.mp among with rfl | inside
  · decide
  · exact ((tree.named f member).2 name inside).1

theorem elements_names (member : f ∈ tree.files) : Path.elements (Path.join f.names) = f.names :=
  Path.elements_join fun name inside =>
    ⟨(plain_names member name inside).1, (plain_names member name inside).2.1⟩

theorem join_names (member : f ∈ tree.files) :
    "backup/".toList ++ f.rel.toList = Path.join f.names := by
  have text : f.rel.toList = Path.join f.path := String.toList_ofList
  rw [BackupFile.names, Path.join_cons _ (tree.named f member).1, text]
  rfl

theorem path_of_rel (one : f ∈ tree.files) (two : g ∈ tree.files) (same : f.rel = g.rel) :
    f = g := by
  have parts : ∀ h ∈ tree.files, Path.elements h.rel.toList = h.path := by
    intro h member
    have text : h.rel.toList = Path.join h.path := String.toList_ofList
    rw [text]
    exact Path.elements_join fun name inside =>
      ⟨((tree.named h member).2 name inside).1.1, ((tree.named h member).2 name inside).1.2.1⟩
  have path : f.path = g.path := by rw [← parts f one, same, parts g two]
  exact tree.apart f one g two (path ▸ prefix_refl _)

def find (tree : BackupTree) (rel : String) : Option BackupFile := tree.files.find? (·.rel = rel)

theorem find_rel (member : f ∈ tree.files) : tree.find f.rel = some f := by
  cases found : tree.find f.rel with
  | none =>
    have none := find?_eq_none.mp found f member
    simp at none
  | some g =>
    have among := mem_of_find?_eq_some found
    have same : g.rel = f.rel := by simpa using find?_some found
    rw [path_of_rel among member same]

end BackupTree

section Uploads

/-- The JSON of a manifest, which decodes to the manifest it was made from. -/
structure ManifestCodec where
  encode : BackupManifest → List UInt8
  decode : List UInt8 → Except String BackupManifest
  decode_encode : ∀ m, decode (encode m) = .ok m

def isHex (c : Char) : Bool := isDigit c ∨ 'a' ≤ c ∧ c ≤ 'f'

/-- What an ordinary upload draws: 128 random bits, in hex. -/
structure AttemptID where
  text : Text
  hex : text.length = backupAttemptIDLength ∧ text.all isHex = true

inductive PutKind where
  | file (f : BackupFile)
  | manifest (m : BackupManifest)

structure Put where
  bucket : String
  key : String
  kind : PutKind

def Put.bytes (codec : ManifestCodec) (p : Put) : List UInt8 :=
  match p.kind with
  | .file f => f.bytes
  | .manifest m => codec.encode m

structure UploadCall where
  cfg : Config
  dir : BackupDir
  up : BackupUpload
  metadata : BackupManifest
  tree : BackupTree

def UploadCall.program (call : UploadCall) : ManagerM (Except String UploadResult) :=
  uploadBackup call.cfg call.dir call.up call.metadata

structure UploadWorld where
  attempt : Option AttemptID := none
  puts : List Put := []

/-- How the environment answers one effect of an upload. A put that fails may
    have been applied. -/
structure UploadChoice where
  fault : Option String := none
  applied : Bool := false
  attempt : AttemptID
  order : List Nat := []
  size : Int := 0
  handle : DirHandle := 0

def UploadWorld.put (w : UploadWorld) (c : UploadChoice) (p : Put) : UploadWorld :=
  if c.fault = none ∨ c.applied then { w with puts := p :: w.puts } else w

variable (digest : List UInt8 → String) (codec : ManifestCodec)

def UploadChoice.answer {α : Type} (c : UploadChoice) (value : α) : Except String α :=
  match c.fault with
  | some cause => .error cause
  | none => .ok value

/-- The handler of one upload. The size that the store reports is any. -/
def uploadHandler (call : UploadCall) :
    Handler ManagerEffect ManagerEffect.Ans UploadWorld UploadChoice :=
  fun w e c =>
    match e with
    | .backup .attemptID =>
      (if c.fault = none then { w with attempt := some c.attempt }
        else w, some (c.answer (String.ofList c.attempt.text)))
    | .backup (.stagedFiles _) =>
      (w, some (c.answer (arrange c.order (call.tree.files.map (·.rel)))))
    | .backup (.openStaging _) => (w, some (c.answer c.handle))
    | .backup (.hashFile _ rel) =>
      (w, some (match call.tree.find rel with
        | some f => c.answer (digest f.bytes, (f.bytes.length : Int))
        | none => .error noSuchFile))
    | .backup (.putFile _ _ rel bucket key _) =>
      match call.tree.find rel with
      | some f => (w.put c ⟨bucket, key, .file f⟩, some (c.answer ()))
      | none => (w, some (.error noSuchFile))
    | .backup (.statSize _ _) => (w, some (c.answer c.size))
    | .backup (.putManifest bucket key m) =>
      (w.put c ⟨bucket, key, .manifest m⟩, some (c.answer (digest (codec.encode m))))
    | e => (w, some e.usual)

end Uploads

namespace UploadCall

variable (digest : List UInt8 → String) (call : UploadCall)

def place (attempt : Option AttemptID) : Option Text :=
  if call.up.seed then some call.up.pathPrefix.toList
  else attempt.map fun id => backupAttemptPath call.up.pathPrefix.toList id.text

def filePut (place : Text) (f : BackupFile) : Put :=
  ⟨call.up.bucket, String.ofList (Path.joined place (Path.join f.names)), .file f⟩

def manifestPut (place : Text) (m : BackupManifest) : Put :=
  ⟨call.up.bucket, String.ofList (Path.joined place manifestObjectName.toList), .manifest m⟩

def manifestOf (listed : List BackupFile) : BackupManifest :=
  { call.metadata with
    manifestVersion := InstanceManager.manifestVersion, objects := listed.map (·.object digest) }

def Lists (m : BackupManifest) : Prop :=
  ∃ listed : List BackupFile, listed.Perm call.tree.files ∧ listed ≠ [] ∧
    m = call.manifestOf digest listed

def Sound (w : UploadWorld) : Prop :=
  ∀ p ∈ w.puts, ∃ place, call.place w.attempt = some place ∧
    ((∃ f ∈ call.tree.files, p = call.filePut place f) ∨ ∃ m, call.Lists digest m ∧
      p = call.manifestPut place m)

structure Uploading (place : Text) (w : UploadWorld) : Prop where
  placed : call.place w.attempt = some place
  files : ∀ p ∈ w.puts, ∃ f ∈ call.tree.files, p = call.filePut place f

structure Completed (place : Text) (m : BackupManifest) (w : UploadWorld) : Prop where
  lists : call.Lists digest m
  puts : ∃ earlier, w.puts = call.manifestPut place m :: earlier ∧
    (∀ p ∈ earlier, ∃ f ∈ call.tree.files, p = call.filePut place f) ∧
    ∀ f ∈ call.tree.files, call.filePut place f ∈ earlier

variable {digest call} {codec : ManifestCodec} {place : Text} {w : UploadWorld} {f : BackupFile}
  {handle : DirHandle}

theorem Uploading.sound (uploading : call.Uploading place w) : call.Sound digest w :=
  fun p member => ⟨place, uploading.placed, .inl (uploading.files p member)⟩

theorem Uploading.put (uploading : call.Uploading place w) (member : f ∈ call.tree.files)
    (c : UploadChoice) : call.Uploading place (w.put c (call.filePut place f)) := by
  unfold UploadWorld.put
  split
  · refine ⟨uploading.placed, fun p among => ?_⟩
    rcases mem_cons.mp among with rfl | before
    · exact ⟨f, member, rfl⟩
    · exact uploading.files p before
  · exact uploading

theorem put_subset (w : UploadWorld) (c : UploadChoice) (p : Put) : w.puts ⊆ (w.put c p).puts := by
  unfold UploadWorld.put
  split
  · exact subset_cons_self _ _
  · exact Subset.refl _

theorem answer_ok {α : Type} {c : UploadChoice} {value got : α} (ok : c.answer value = .ok got) :
    c.fault = none ∧ value = got := by
  unfold UploadChoice.answer at ok
  split at ok
  · cases ok
  · rename_i none
    exact ⟨none, Except.ok.inj ok⟩

theorem put_of_ok {c : UploadChoice} (none : c.fault = none) (p : Put) :
    w.put c p = { w with puts := p :: w.puts } := if_pos (.inl none)

theorem upload_rule {e : BackupEffect} {crash : UploadWorld → Prop}
    {post : e.Ans → UploadWorld → Prop} (here : crash w)
    (next : ∀ c, match uploadHandler digest codec call w (.backup e) c with
      | (w', none) => crash w'
      | (w', some a) => post a w') :
    Ensures (uploadHandler digest codec call) crash (backupStep e) post w := by
  refine ⟨here, fun c => ?_⟩
  have answered := next c
  generalize uploadHandler digest codec call w (.backup e) c = outcome at answered ⊢
  obtain ⟨w', _ | a⟩ := outcome
  · exact answered
  · exact answered

theorem uploadFile_spec (member : f ∈ call.tree.files) (uploading : call.Uploading place w) :
    Ensures (uploadHandler digest codec call) (call.Sound digest)
      (uploadFile call.dir handle call.up.bucket place f.rel) (fun answer w' =>
        call.Uploading place w' ∧ w.puts ⊆ w'.puts ∧ ∀ obj, answer = .ok obj →
          obj = f.object digest ∧ call.filePut place f ∈ w'.puts) w := by
  have failed : ∀ (e : String) (P : ManifestObject → Prop) obj,
      (Except.error e : Except String ManifestObject) = .ok obj →
      P obj := fun _ _ _ h => by cases h
  have key : Path.joined place ("backup/".toList ++ f.rel.toList) = Path.joined place
      (Path.join f.names) := by
    rw [BackupTree.join_names member]
  have listed : Path.clean ("backup/".toList ++ f.rel.toList) = Path.join f.names := by
    rw [BackupTree.join_names member]
    exact Path.clean_join (BackupTree.plain_names member) f.names_ne_nil
  unfold uploadFile
  refine ensures_bind.mpr (upload_rule uploading.sound fun c₁ => ?_)
  simp only [uploadHandler, BackupTree.find_rel member]
  cases hashed : c₁.answer (digest f.bytes, (f.bytes.length : Int)) with
  | error e => exact ⟨uploading, Subset.refl _, failed e _⟩
  | ok found =>
    obtain ⟨-, rfl⟩ := answer_ok hashed
    refine ensures_bind.mpr (upload_rule uploading.sound fun c₂ => ?_)
    simp only [uploadHandler, BackupTree.find_rel member, key]
    have after := uploading.put member c₂
    have more := put_subset w c₂ (call.filePut place f)
    cases stored : c₂.answer () with
    | error e => exact ⟨after, more, failed e _⟩
    | ok found =>
      have done : call.filePut place f ∈ (w.put c₂ (call.filePut place f)).puts := by
        rw [put_of_ok (answer_ok stored).1]
        exact mem_cons_self
      refine ensures_bind.mpr (upload_rule after.sound fun c₃ => ?_)
      simp only [uploadHandler]
      cases size : c₃.answer c₃.size with
      | error e => exact ⟨after, more, failed _ _⟩
      | ok got =>
        dsimp only
        split
        · exact ⟨after, more, failed _ _⟩
        · refine ⟨after, more, fun obj is => ⟨?_, done⟩⟩
          rw [← Except.ok.inj is, listed]
          rfl

theorem uploadEach_spec (listed : List BackupFile) (members : ∀ f ∈ listed, f ∈ call.tree.files)
    (uploading : call.Uploading place w) :
    Ensures (uploadHandler digest codec call) (call.Sound digest)
      (uploadEach call.dir handle call.up.bucket place (listed.map (·.rel))) (fun answer w' =>
        call.Uploading place w' ∧ w.puts ⊆ w'.puts ∧ ∀ objects, answer = .ok objects →
          objects = listed.map (·.object digest) ∧ ∀ f ∈ listed,
          call.filePut place f ∈ w'.puts) w := by
  induction listed generalizing w with
  | nil =>
    refine ⟨uploading, Subset.refl _, fun objects is => ⟨(Except.ok.inj is).symm, ?_⟩⟩
    exact fun f inside => absurd inside not_mem_nil
  | cons f rest ih =>
    refine (uploadFile_spec (members f mem_cons_self) uploading).bind
      fun answer w₁ ⟨first, more, staged⟩ => ?_
    cases answer with
    | error e => exact ⟨first, more, fun _ is => by cases is⟩
    | ok object =>
      obtain ⟨rfl, put⟩ := staged object rfl
      refine (ih (fun g inside => members g (mem_cons_of_mem _ inside)) first).bind
        fun answer w₂ ⟨second, further, all⟩ => ?_
      cases answer with
      | error e => exact ⟨second, List.Subset.trans more further, fun _ is => by cases is⟩
      | ok objects =>
        obtain ⟨rfl, puts⟩ := all objects rfl
        refine ⟨second, List.Subset.trans more further,
          fun objects is => ⟨(Except.ok.inj is).symm, ?_⟩⟩
        rw [forall_mem_cons]
        exact ⟨further put, puts⟩

theorem uploadPlace_spec (nothing : w.puts = []) :
    Ensures (uploadHandler digest codec call) (call.Sound digest)
      (uploadPlace call.up call.metadata)
      (fun answer w' => w'.puts = [] ∧ ∀ place, answer = .ok place →
        call.place w'.attempt = some place) w := by
  have empty : ∀ w : UploadWorld, w.puts = [] → call.Sound digest w := by
    intro w none p member
    rw [none] at member
    cases member
  unfold uploadPlace
  split
  · rename_i seed
    split
    · exact ⟨nothing, fun _ is => by cases is⟩
    · refine ⟨nothing, fun place is => ?_⟩
      rw [UploadCall.place, if_pos seed, Except.ok.inj is]
  · rename_i ordinary
    refine ensures_bind.mpr (upload_rule (empty w nothing) fun c => ?_)
    simp only [uploadHandler]
    cases drawn : c.answer (String.ofList c.attempt.text) with
    | error e =>
      refine ⟨?_, fun _ is => by cases is⟩
      split
      · exact nothing
      · exact nothing
    | ok id =>
      obtain ⟨none, rfl⟩ := answer_ok drawn
      rw [if_pos none]
      refine ⟨nothing, fun place is => ?_⟩
      rw [UploadCall.place, if_neg ordinary, ← Except.ok.inj is, String.toList_ofList]
      rfl

theorem Uploading.putManifest {listed : List BackupFile} (uploading : call.Uploading place w)
    (perm : listed.Perm call.tree.files) (some_ : listed ≠ [])
    (puts : ∀ f ∈ listed, call.filePut place f ∈ w.puts) (c : UploadChoice) :
    let m := call.manifestOf digest listed
    call.Sound digest (w.put c (call.manifestPut place m)) ∧
      (c.fault = none → call.place (w.put c (call.manifestPut place m)).attempt = some place ∧
        call.Completed digest place m (w.put c (call.manifestPut place m))) := by
  intro m
  have lists : call.Lists digest m := ⟨listed, perm, some_, rfl⟩
  constructor
  · unfold UploadWorld.put
    split
    · intro p member
      rcases mem_cons.mp member with rfl | before
      · exact ⟨place, uploading.placed, .inr ⟨m, lists, rfl⟩⟩
      · exact uploading.sound p before
    · exact uploading.sound
  · intro none
    rw [put_of_ok none]
    exact ⟨uploading.placed, lists, w.puts, rfl, uploading.files,
      fun f member => puts f (perm.mem_iff.mpr member)⟩

/-- An upload puts the files of its tree and, last, a manifest of all of them. -/
theorem program_spec (digest : List UInt8 → String) (codec : ManifestCodec) (call : UploadCall) :
    Ensures (uploadHandler digest codec call) (call.Sound digest) call.program (fun answer w' =>
      call.Sound digest w' ∧ ∀ result, answer = .ok result → ∃ place m, call.place w'.attempt =
      some place ∧
        call.Completed digest place m w' ∧
        result.manifestURI = "s3://" ++ call.up.bucket ++ "/" ++ (call.manifestPut place m).key)
        {} := by
  unfold program uploadBackup
  refine (uploadPlace_spec rfl).bind fun answer w₁ ⟨nothing, placed⟩ => ?_
  have empty : call.Sound digest w₁ := by
    intro p member
    rw [nothing] at member
    cases member
  cases answer with
  | error e => exact ⟨empty, fun _ is => by cases is⟩
  | ok place =>
    have uploading : call.Uploading place w₁ := ⟨placed place rfl, fun p member => by
      rw [nothing] at member
      cases member⟩
    refine ensures_bind.mpr (upload_rule empty fun c₂ => ?_)
    simp only [uploadHandler, arrange_map]
    have perm : (arrange c₂.order call.tree.files).Perm call.tree.files := arrange_perm _ _
    generalize arrange c₂.order call.tree.files = listed at perm
    cases scanned : c₂.answer (listed.map (·.rel)) with
    | error e => exact ⟨empty, fun _ is => by cases is⟩
    | ok names =>
      obtain ⟨-, rfl⟩ := answer_ok scanned
      cases listed with
      | nil => exact ⟨empty, fun _ is => by cases is⟩
      | cons first rest =>
        refine ensures_bind.mpr (upload_rule empty fun c₃ => ?_)
        simp only [uploadHandler]
        cases c₃.answer c₃.handle with
        | error e => exact ⟨empty, fun _ is => by cases is⟩
        | ok handle =>
          refine (uploadEach_spec (first :: rest) (fun f => perm.mem_iff.mp) uploading).bind
            fun answer w₄ ⟨after, _, all⟩ => ?_
          cases answer with
          | error e => exact ⟨after.sound, fun _ is => by cases is⟩
          | ok objects =>
            obtain ⟨rfl, puts⟩ := all objects rfl
            refine ensures_bind.mpr (upload_rule after.sound fun c₅ => ?_)
            simp only [uploadHandler]
            obtain ⟨sound, completed⟩ := after.putManifest perm (cons_ne_nil _ _) puts c₅
            cases stored : c₅.answer (digest _) with
            | error e => exact ⟨sound, fun _ is => by cases is⟩
            | ok sum =>
              refine ⟨sound, fun result is => ?_⟩
              obtain ⟨known, whole⟩ := completed (answer_ok stored).1
              refine ⟨place, _, known, whole, ?_⟩
              rw [← Except.ok.inj is]
              rfl

end UploadCall
end InstanceManager
