import CubridOperator.Foundation.FileTree
import CubridOperator.InstanceManager.Volume

/-!
Restores as the staging directories see them. What a restore does elsewhere does
not touch these.
-/
namespace InstanceManager
open Foundation Program

abbrev StagingTree := FileTree Text UInt8

structure Handed where
  backupDir : String
  manifest : Option BackupManifest
  trees : String → StagingTree

structure StagingWorld where
  trees : String → StagingTree := fun _ => FileTree.empty
  manifest : Option BackupManifest := none
  handed : List Handed := []

/-- How the environment answers one effect. `landing` and `dirs` say where a
    path that meets a link leads; `kept` is what a removal that failed left. -/
structure StagingChoice where
  fault : Option String := none
  manifest : Except String BackupManifest := .error "read manifest: no such object"
  bytes : List UInt8 := []
  landing : Landing Text := .refused
  dirs : List (List Text) := []
  kept : List Text → Bool := fun _ => false
  reply : (e : ManagerEffect) → e.Ans := ManagerEffect.usual

namespace StagingWorld

def setTree (w : StagingWorld) (dir : String) (t : StagingTree) : StagingWorld :=
  { w with trees := Function.update w.trees dir t }

def landDirs (t : StagingTree) (dirs : List (List Text)) : StagingTree :=
  dirs.foldl FileTree.addDir t

def mkdirAll (t : StagingTree) (path : List Text) (c : StagingChoice) :
    StagingTree × Except String Unit :=
  match c.fault with
  | some cause => (t, .error cause)
  | none =>
    match t.mkdirs [] path with
    | (t', .plain) => (t', .ok ())
    | (t', .linked) => (landDirs t' c.dirs, .ok ())
    | (t', _) => (t', .error "not a directory")

def create (t : StagingTree) (path : List Text) (c : StagingChoice) :
    StagingTree × Except String StagedFile :=
  match c.fault with
  | some cause => (t, .error cause)
  | none =>
    match t.create path c.landing with
    | (t', some inode) => (t', .ok inode)
    | (t', none) => (t', .error "cannot be opened")

variable (digest : List UInt8 → String)

/-- The bytes that arrived are in the file also where the copy failed. -/
def copy (t : StagingTree) (file : StagedFile) (c : StagingChoice) :
    StagingTree × Except String (Int × String) :=
  (t.write file c.bytes,
    match c.fault with
    | some cause => .error cause
    | none => .ok (c.bytes.length, digest c.bytes))

/-- A staging directory that is a link is the directory it leads to. -/
def mkdirStaging (t : StagingTree) (c : StagingChoice) : StagingTree × Except String Unit :=
  match c.fault, t.entry [] with
  | some cause, _ => (t, .error cause)
  | none, none => (t.addDir [], .ok ())
  | none, some .dir | none, some .link => (t, .ok ())
  | none, some _ => (t, .error "not a directory")

def openStaging (t : StagingTree) (c : StagingChoice) : Except String Unit :=
  match c.fault, t.entry [] with
  | some cause, _ => .error cause
  | none, some .dir | none, some .link => .ok ()
  | none, _ => .error noSuchFile

def stat (t : StagingTree) (c : StagingChoice) : Lookup :=
  match c.fault, t.entry [] with
  | some cause, _ => .failed cause
  | none, some _ => .found
  | none, none => .missing

def remove (t : StagingTree) (path : List Text) (c : StagingChoice) : StagingTree :=
  match c.fault, t.entry path with
  | none, some .dir => t
  | none, some _ => t.restrict (· ≠ path)
  | _, _ => t

def removeStaging (t : StagingTree) (c : StagingChoice) : StagingTree :=
  match c.fault with
  | some _ => t.restrict c.kept
  | none => t.restrict fun _ => false

def stage (w : StagingWorld) (dir : String) :
    (e : StagingEffect) → StagingChoice → StagingWorld × e.Ans
  | .stat, c => (w, stat (w.trees dir) c)
  | .readManifest, c =>
    match c.manifest with
    | .ok m => ({ w with manifest := some m }, .ok m)
    | .error e => (w, .error e)
  | .mkdirStaging, c =>
    (w.setTree dir (mkdirStaging (w.trees dir) c).1, (mkdirStaging (w.trees dir) c).2)
  | .openStaging, c => (w, openStaging (w.trees dir) c)
  | .mkdirAll path, c =>
    (w.setTree dir (mkdirAll (w.trees dir) path c).1, (mkdirAll (w.trees dir) path c).2)
  | .getObject _, c => (w, match c.fault with | some cause => .error cause | none => .ok ())
  | .create path, c =>
    (w.setTree dir (create (w.trees dir) path c).1, (create (w.trees dir) path c).2)
  | .copy _ file, c =>
    (w.setTree dir (copy digest (w.trees dir) file c).1, (copy digest (w.trees dir) file c).2)
  | .remove path, c => (w.setTree dir (remove (w.trees dir) path c), ())
  | .removeStaging, c => (w.setTree dir (removeStaging (w.trees dir) c), ())

/-- restoredb reads what stands below its backup directory when it is run. -/
def hand (w : StagingWorld) (backupDir : String) : StagingWorld :=
  { w with handed := { backupDir, manifest := w.manifest, trees := w.trees } :: w.handed }

end StagingWorld

/-- The handler of one member's staging directories; `digest` stands for the
    SHA-256 of a file in hex. -/
def stagingHandler (digest : List UInt8 → String) :
    Handler ManagerEffect ManagerEffect.Ans StagingWorld StagingChoice := fun w e c =>
  match e with
  | .staging dir effect => ((w.stage digest dir effect c).1, some (w.stage digest dir effect c).2)
  | .restoredb database source backupDir =>
    (w.hand backupDir, some (c.reply (.restoredb database source backupDir)))
  | e => (w, some (c.reply e))

end InstanceManager
