import CubridOperator.InstanceManager.Runners
import CubridOperator.InstanceManager.StoreEnds

/-!
The data volume as the operations of one member change it. A directory is known
by its database and a number.
-/
namespace InstanceManager
open Foundation Program Relation

structure RootState where
  home : String → Option Nat := fun _ => none
  tomb : String → Option Nat := fun _ => none
  txt : Option Text := none

inductive RootChange where
  | enter (database : String) (n : Nat)
  | aside (database : String) (n : Nat)
  | drop (name : RootName)
  | txt (text : Option Text)

def RootChange.apply (s : RootState) : RootChange → RootState
  | .enter database n => { s with home := Function.update s.home database (some n) }
  | .aside database n =>
    { s with home := Function.update s.home database none
             tomb := Function.update s.tomb database (some n) }
  | .drop (.home database) => { s with home := Function.update s.home database none }
  | .drop (.tomb database) => { s with tomb := Function.update s.tomb database none }
  | .txt text => { s with txt := text }

def overwrite (_ : Option Marker) (m : Option Marker) : Option Marker := m

/-- The marker of a directory, and what became of it, which no program reads:
    created, started, and removed from or moved aside after that. -/
structure Directory where
  marker : Journal (Option Marker) (Option Marker) := ⟨none, []⟩
  created : Bool := false
  started : Bool := false
  lost : Bool := false

abbrev DirID := String × Nat

structure Volume where
  root : Journal RootState RootChange := ⟨{}, []⟩
  dirs : DirID → Directory := fun _ => {}
  next : Nat := 0
  store : StoreWorld := {}

/-- How far the removal of a directory came: nothing, some of its entries, the
    marker perhaps among them, or all of it. -/
inductive Removal where
  | untouched
  | entries (marker : Bool)
  | whole

def RootName.database : RootName → String
  | .home database | .tomb database => database

namespace Volume

def view (v : Volume) : RootState := v.root.view RootChange.apply

def home (v : Volume) (database : String) : Option Nat := v.view.home database

def tomb (v : Volume) (database : String) : Option Nat := v.view.tomb database

def marker (v : Volume) (d : DirID) : Option Marker := (v.dirs d).marker.view overwrite

def registered (v : Volume) (database : String) : Bool :=
  v.view.txt.any (registeredIn database)

def entry (v : Volume) : RootName → Option Nat
  | .home database => v.home database
  | .tomb database => v.tomb database

def change (v : Volume) (c : RootChange) : Volume := { v with root := v.root.push c }

def onDir (v : Volume) (d : DirID) (f : Directory → Directory) : Volume :=
  { v with dirs := Function.update v.dirs d (f (v.dirs d)) }

def setStore (v : Volume) (w : StoreWorld) : Volume := { v with store := w }

def syncRoot (v : Volume) : Volume := { v with root := v.root.sync RootChange.apply }

def syncMarker (v : Volume) (d : DirID) : Volume :=
  v.onDir d fun dir => { dir with marker := dir.marker.sync overwrite }

def setMarker (v : Volume) (d : DirID) (m : Option Marker) : Volume :=
  v.onDir d fun dir => { dir with marker := dir.marker.push m }

def make (v : Volume) (database : String) : Volume :=
  { v.change (.enter database v.next) with
      dirs := Function.update v.dirs (database, v.next) {}
      next := v.next + 1 }

def harm (v : Volume) (d : DirID) : Volume :=
  v.onDir d fun dir => { dir with lost := dir.lost || dir.started }

def remove (v : Volume) (name : RootName) (n : Nat) : Removal → Volume
  | .untouched => v
  | .entries false => v.harm (name.database, n)
  | .entries true => (v.harm (name.database, n)).setMarker (name.database, n) none
  | .whole => ((v.harm (name.database, n)).setMarker (name.database, n) none).change (.drop name)

def setAside (v : Volume) (database : String) (n : Nat) : Volume :=
  (v.harm (database, n)).change (.aside database n)

def start (v : Volume) (d : DirID) : Volume := v.onDir d fun dir => { dir with started := true }

def create (v : Volume) (d : DirID) : Volume := v.onDir d fun dir => { dir with created := true }

def kill (v : Volume) : Volume := v.setStore v.store.kill

end Volume

def BackupEffect.usual : (e : BackupEffect) → e.Ans
  | .lock | .unlock => ()
  | .readRoot | .readDestination _ | .readProcesses _ | .stagedFiles _ => .ok []
  | .openDestination _ => .found
  | .lstat _ _ => .ok .directory
  | .mkdirDestination _ | .mkdirOperation _ => .made
  | .boundPassed => true
  | .readRole => { role := .unknown }
  | .rolePause => .late ""
  | .attemptID | .putManifest _ _ _ => .ok ""
  | .openStaging _ => .ok 0
  | .hashFile _ _ => .ok ("", 0)
  | .statSize _ _ => .ok 0
  | .makeRoot | .openRoot | .mkdirAll _ | .removeEntry _ _ | .removeDestination _ | .backupdb _ _ _
  | .putFile _ _ _ _ _ _ => .ok ()

def LifeEffect.usual : (e : LifeEffect) → e.Ans
  | .setStarting _ | .endOps | .lockStop | .unlockStop | .setStopped _ => ()
  | .isStopped => false
  | .reachManager => true
  | .heartbeatStop | .serverStop _ => {}
  | .listen | .awaitOperations | .recordStop => .ok ()

/-- Answers under which an operation goes on, where the volume does not decide. -/
def ManagerEffect.usual : (e : ManagerEffect) → e.Ans
  | .store _ => .done
  | .openRoot | .lookup _ | .removeMeta _ => .found
  | .lookStop => .missing
  | .readMarker _ => .ok none
  | .readTxt => .ok none
  | .mkdir _ => .made
  | .listRoot => .ok []
  | .haHosts | .hostname => .ok "host"
  | .engineVersion => "11.4"
  | .observeStartable => { startable := true }
  | .markStopping | .endOperation => ()
  | .isStopping | .opsEnded => false
  | .staging _ .stat => .missing
  | .staging _ .readManifest => .error "no manifest"
  | .staging _ (.create _) => .ok 0
  | .staging _ (.copy _ _) => .ok (0, "")
  | .staging _ (.remove _) | .staging _ .removeStaging => ()
  | .staging _ .mkdirStaging | .staging _ .openStaging | .staging _ (.mkdirAll _)
  | .staging _ (.getObject _) => .ok ()
  | .backup e => e.usual
  | .life e => e.usual
  | .writeTmp _ | .rename _ | .syncDir _ | .mkdirRoot | .mkdirLob _ | .removeAll _ | .moveAside _
  | .createdb _ _ | .restoredb _ _ _ | .admitOperation | .admitResume | .start _ => .ok ()

/-- How the environment answers one effect. `progress` is how far a removal
    came, `wrote` what createdb left of databases.txt, `store` the choices
    inside a call of the store. -/
structure VolumeChoice where
  fault : Option String := none
  killed : Bool := false
  progress : Removal := .untouched
  wrote : Option Text := none
  store : Option (List StoreChoice) := none
  reply : (e : ManagerEffect) → e.Ans := ManagerEffect.usual

namespace Volume

def attempt (v : Volume) (c : VolumeChoice) (v' : Volume) : Volume × Option (Except String Unit) :=
  match c.fault with
  | some cause => (v, some (.error cause))
  | none => (v', some (.ok ()))

def callStore (v : Volume) (asked : StoreCall) (c : VolumeChoice) : Volume × Option StoreReply :=
  match c.store with
  | some choices =>
    let (w, reply) := asked.program.run v.store choices
    (v.setStore w, reply)
  | none =>
    let (w, reply) := asked.program.finish storeHandler .ok v.store
    (v.setStore w, reply)

def lookup (v : Volume) (c : VolumeChoice) (present : Bool) : Volume × Option Lookup :=
  match c.fault with
  | some cause => (v, some (.failed cause))
  | none => (v, some (if present then .found else .missing))

def read {α : Type} (v : Volume) (c : VolumeChoice) (content : α) :
    Volume × Option (Except String α) :=
  match c.fault with
  | some cause => (v, some (.error cause))
  | none => (v, some (.ok content))

/-- The markers of a directory that does not stand under the database's name
    cannot be reached. -/
def onHome (v : Volume) (database : String) (f : DirID → Volume × Option (Except String Unit)) :
    Volume × Option (Except String Unit) :=
  match v.home database with
  | none => (v, some (.error noSuchFile))
  | some n => f (database, n)

def removeMeta (v : Volume) (c : VolumeChoice) (present : Bool) (v' : Volume) :
    Volume × Option Lookup :=
  match c.fault with
  | some cause => (v, some (.failed cause))
  | none => if present then (v', some .found) else (v, some .missing)

def removeAll (v : Volume) (c : VolumeChoice) (name : RootName) :
    Volume × Option (Except String Unit) :=
  match v.entry name with
  | none => (v, some (match c.fault with | some cause => .error cause | none => .ok ()))
  | some n =>
    match c.fault, c.killed with
    | some cause, _ => (v.remove name n c.progress, some (.error cause))
    | none, true => (v.remove name n c.progress, none)
    | none, false => (v.remove name n .whole, some (.ok ()))

def wrote (v : Volume) (c : VolumeChoice) : Volume :=
  match c.wrote with
  | some text => v.change (.txt (some text))
  | none => v

def effect (v : Volume) : (e : ManagerEffect) → VolumeChoice → Volume × Option e.Ans
  | .store asked, c => v.callStore asked c
  | .openRoot, c => v.lookup c true
  | .lookup name, c => v.lookup c (v.entry name).isSome
  | .readMarker database, c => v.read c ((v.home database).bind fun n => v.marker (database, n))
  | .readTxt, c => v.read c v.view.txt
  | .writeTmp _, c => v.attempt c v
  | .rename (.marker database m), c =>
    v.onHome database fun d => v.attempt c (v.setMarker d (some m))
  | .rename (.databasesTxt text), c => v.attempt c (v.change (.txt (some text)))
  | .removeMeta (.marker database), c =>
    match v.home database with
    | none => v.lookup c false
    | some n =>
      v.removeMeta c (v.marker (database, n)).isSome (v.setMarker (database, n) none)
  | .removeMeta .databasesTxt, c => v.removeMeta c v.view.txt.isSome (v.change (.txt none))
  | .syncDir .root, c => v.attempt c v.syncRoot
  | .syncDir (.database database), c => v.onHome database fun d => v.attempt c (v.syncMarker d)
  | .mkdirRoot, c | .mkdirLob _, c => v.attempt c v
  | .mkdir database, c =>
    match c.fault, v.home database with
    | some cause, _ => (v, some (.failed cause))
    | none, some _ => (v, some .taken)
    | none, none => (v.make database, some .made)
  | .removeAll name, c => v.removeAll c name
  | .moveAside database, c =>
    match c.fault, v.home database, v.tomb database with
    | none, some n, none => (v.setAside database n, some (.ok ()))
    | some cause, _, _ => (v, some (.error cause))
    | none, _, _ => (v, some (.error noSuchFile))
  | .createdb database hosts, c =>
    match c.reply (.createdb database hosts), v.home database with
    | .ok (), some n => ((v.wrote c).create (database, n), some (.ok ()))
    | answer, _ => (v.wrote c, some answer)
  | .start cmd, c =>
    match v.home cmd.database with
    | none => (v, some (c.reply (.start cmd)))
    | some n => (v.start (cmd.database, n), some (c.reply (.start cmd)))
  | .restoredb database source dir, c => (v, some (c.reply (.restoredb database source dir)))
  | .listRoot, c => (v, some (c.reply .listRoot))
  | .haHosts, c => (v, some (c.reply .haHosts))
  | .hostname, c => (v, some (c.reply .hostname))
  | .engineVersion, c => (v, some (c.reply .engineVersion))
  | .observeStartable, c => (v, some (c.reply .observeStartable))
  | .admitOperation, c => (v, some (c.reply .admitOperation))
  | .admitResume, c => (v, some (c.reply .admitResume))
  | .endOperation, _ => (v, some ())
  | .lookStop, c => (v, some (c.reply .lookStop))
  | .markStopping, _ => (v, some ())
  | .isStopping, c => (v, some (c.reply .isStopping))
  | .opsEnded, c => (v, some (c.reply .opsEnded))
  | .staging dir e, c => (v, some (c.reply (.staging dir e)))
  | .backup e, c => (v, some (c.reply (.backup e)))
  | .life e, c => (v, some (c.reply (.life e)))

end Volume

def volumeHandler : Handler ManagerEffect ManagerEffect.Ans Volume VolumeChoice := fun v e c =>
  ((v.effect e c).1, if c.killed then none else (v.effect e c).2)

end InstanceManager
