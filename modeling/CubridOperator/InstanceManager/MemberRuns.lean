import CubridOperator.Foundation.Runs
import CubridOperator.InstanceManager.Volume

/-!
Runs of one member: requests one after the other, manager starts, polls, kills
and power losses.
-/
namespace InstanceManager
open Foundation Program

/-- A manager comes up when its store does; it then resumes completed
    restores, unless a stop is recorded. -/
def startManager (cfg : Config) : ManagerM Bool := do
  match ← manage (.store .start) with
  | .error _ => pure false
  | _ =>
    if ← honorRecordedStop then pure true
    else
      let _ ← resumeCompletedRestores cfg
      pure true

structure MemberState where
  volume : Volume := {}
  up : Bool := false

structure Masks where
  root : List Bool := []
  store : List Bool := []
  markers : DirID → List Bool := fun _ => []

inductive MemberEvent where
  | start (choices : List VolumeChoice)
  | restore (key hash : String) (req : RestoreRequest) (choices : List VolumeChoice)
  | bootstrap (key hash database : String) (choices : List VolumeChoice)
  | poll (id : OperationID) (choices : List VolumeChoice)
  | kill
  | powerLoss (masks : Masks)

def Volume.powerLoss (v : Volume) (masks : Masks) : Volume :=
  { v with
      root := v.root.powerLoss RootChange.apply masks.root
      dirs := fun d => { v.dirs d with
        marker := (v.dirs d).marker.powerLoss overwrite (masks.markers d) }
      store := v.store.powerLoss masks.store }

namespace MemberState

def ended (v : Volume) : MemberState := { volume := v.kill, up := false }

def after {α : Type} (up : α → Bool) : Volume × Option α → MemberState
  | (v, none) => ended v
  | (v, some a) => if up a then { volume := v, up := true } else ended v

def step (cfg : Config) (s : MemberState) : MemberEvent → MemberState
  | .start choices =>
    if s.up then s else after id ((startManager cfg).run volumeHandler s.volume choices)
  | .restore key hash req choices =>
    if s.up then
      after (fun _ => true) ((restorePrepare cfg key hash req).run volumeHandler s.volume choices)
    else s
  | .bootstrap key hash database choices =>
    if s.up then
      after (fun _ => true) ((haBootstrap cfg key hash database).run volumeHandler s.volume choices)
    else s
  | .poll id choices =>
    if s.up then
      after (fun _ => true) ((manage (.store (.get id))).run volumeHandler s.volume choices)
    else s
  | .kill => ended s.volume
  | .powerLoss masks => ended (s.volume.powerLoss masks)

abbrev run (cfg : Config) (s : MemberState) (events : List MemberEvent) : MemberState :=
  runEvents (step cfg) s events

abbrev Along (cfg : Config) (ok : MemberState → MemberEvent → Prop) (s : MemberState)
    (events : List MemberEvent) : Prop := Foundation.Along (step cfg) ok s events

def member : Config := { target := "/db", staging := "/restore" }

def calmly : List VolumeChoice := List.replicate 40 {}

end MemberState
end InstanceManager
