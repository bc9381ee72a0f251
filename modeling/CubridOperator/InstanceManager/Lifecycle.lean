import CubridOperator.InstanceManager.Backups

/-!
How a manager comes into service and how a member is stopped.
-/
namespace InstanceManager
open Foundation

def live (e : LifeEffect) : ManagerM e.Ans := manage (.life e)

def haNotConfigured : String := "not configured for HA"

def heartbeatStopError (r : CommandResult) : Option String :=
  match r.error with
  | some e =>
    if haNotConfigured.toList <:+: r.output.toList then none
    else some ("heartbeat stop failed: " ++ e ++ ": " ++ r.output)
  | none => none

def serverStopError (r : CommandResult) : Option String :=
  r.error.map fun e => "server stop failed: " ++ e ++ ": " ++ r.output

def joinErrors (errs : List (Option String)) : Except String Unit :=
  match errs.reduceOption with
  | [] => .ok ()
  | texts => .error ("\n".intercalate texts)

/-- Withdraw from HA, then stop the server; a failed step does not end the
    sequence. -/
def shutdown (database : String) : ManagerM (Except String Unit) := do
  let withdrawn ← live .heartbeatStop
  if database = "" then pure (joinErrors [heartbeatStopError withdrawn])
  else
    let stopped ← live (.serverStop database)
    pure (joinErrors [heartbeatStopError withdrawn, serverStopError stopped])

def failure : Except String Unit → Option String
  | .ok () => none
  | .error e => some e

def stopLocked (database : String) : ManagerM (Except String Unit) := do
  if ← live .isStopped then pure (.ok ())
  else
    let waited ← live .awaitOperations
    let shut ← shutdown database
    match joinErrors [failure waited, failure shut] with
    | .error e => pure (.error e)
    | .ok () =>
      live (.setStopped database)
      pure (.ok ())

def stop (database : String) : ManagerM (Except String Unit) := do
  manage .markStopping
  live .endOps
  live .lockStop
  let result ← stopLocked database
  live .unlockStop
  pure result

/-- The command records the stop, asks the manager that listens, and stops
    CUBRID itself when none does. -/
def shutdownCommand (database : String) : ManagerM (Except String Unit) := do
  let _ ← live .recordStop
  if ← live .reachManager then
    match ← stop database with
    | .ok () => pure (.ok ())
    -- The body is the error in JSON; its text stands for it.
    | .error e => pure (.error ("the manager answered the shutdown with status 500: " ++ e))
  else shutdown database

def inService (cfg : Config) : ManagerM (Except String Unit) := do
  match ← live .listen with
  | .error e => pure (.error e)
  | .ok () =>
    if ← honorRecordedStop then pure (.ok ())
    else
      reclaimBackupStaging cfg
      let _ ← resumeCompletedRestores cfg
      pure (.ok ())

/-- Listen, look for a recorded stop, reclaim, and resume completed restores;
    until then no other operation is admitted. -/
def resumeAndServe (cfg : Config) : ManagerM (Except String Unit) := do
  live (.setStarting true)
  let result ← inService cfg
  live (.setStarting false)
  pure result

end InstanceManager
