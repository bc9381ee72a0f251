import Mathlib.Data.List.Sort

/-!
The durable operation record. Of an operation ID only identity and the order of
the file names matter.
-/
namespace InstanceManager

inductive OperationKind where
  | backup
  | restore
  | haBootstrap
  deriving DecidableEq, Repr

def OperationKind.text : OperationKind → String
  | .backup => "backup"
  | .restore => "restore"
  | .haBootstrap => "ha-bootstrap"

inductive OperationState where
  | pending
  | runningBackup
  | uploading
  | downloading
  | restoring
  | creating
  | starting
  | completed
  | failed
  | cleaningUp
  deriving DecidableEq, Repr

def OperationState.text : OperationState → String
  | .pending => "Pending"
  | .runningBackup => "RunningBackup"
  | .uploading => "Uploading"
  | .downloading => "Downloading"
  | .restoring => "Restoring"
  | .creating => "Creating"
  | .starting => "Starting"
  | .completed => "Completed"
  | .failed => "Failed"
  | .cleaningUp => "CleaningUp"

def OperationState.isTerminal (s : OperationState) : Bool := s = .completed ∨ s = .failed

theorem isTerminal_iff (s : OperationState) :
    s.isTerminal = true ↔ s = .completed ∨ s = .failed := by
  simp [OperationState.isTerminal]

abbrev OperationID := Nat

def OperationID.text (id : OperationID) : String :=
  "op-" ++ String.ofList (Nat.toDigits 16 id)

structure OperationArtifact where
  manifestURI : String := ""
  manifestDigest : String := ""
  sizeBytes : Int := 0
  database : String := ""
  cubridVersion : String := ""
  level : Int := 0
  deriving DecidableEq, Repr

structure Operation where
  id : OperationID
  kind : OperationKind
  idempotencyKey : String
  requestHash : String
  database : String
  state : OperationState
  failureReason : String := ""
  artifact : Option OperationArtifact := none
  restored : Option OperationArtifact := none
  stagingDir : String := ""
  deriving DecidableEq, Repr

abbrev RunningState := { s : OperationState // s.isTerminal = false }

/-- What a caller of Update does to the record. No caller ends an operation
    this way. -/
inductive Mutation where
  | enter (state : RunningState)
  | setRestored (artifact : OperationArtifact)
  | setStagingDir (dir : String)
  deriving DecidableEq

def Mutation.apply (op : Operation) : Mutation → Operation
  | .enter state => { op with state := state.val }
  | .setRestored artifact => { op with restored := some artifact }
  | .setStagingDir dir => { op with stagingDir := dir }

/-- What a caller of Settle does to the record: a failure, or a completion with
    its artifact. -/
inductive End where
  | failed (reason : String)
  | completed (artifact : Option OperationArtifact)
  deriving DecidableEq

def End.apply (op : Operation) : End → Operation
  | .failed reason => { op with state := .failed, failureReason := reason }
  | .completed none => { op with state := .completed }
  | .completed (some artifact) => { op with state := .completed, artifact := some artifact }

def End.state : End → OperationState
  | .failed _ => .failed
  | .completed _ => .completed

def reasonRestarted : String := "manager restarted while operation was in progress"

/-- The record of an operation that a restart interrupted. -/
def Operation.interrupt (op : Operation) : Operation :=
  { op with state := .failed, failureReason := reasonRestarted }

/-- The fields that are written once, when the record is created. -/
structure SameRequest (before after : Operation) : Prop where
  id : after.id = before.id
  kind : after.kind = before.kind
  idempotencyKey : after.idempotencyKey = before.idempotencyKey
  requestHash : after.requestHash = before.requestHash
  database : after.database = before.database

theorem SameRequest.trans {a b c : Operation} (first : SameRequest a b) (second : SameRequest b c) :
    SameRequest a c where
  id := second.id.trans first.id
  kind := second.kind.trans first.kind
  idempotencyKey := second.idempotencyKey.trans first.idempotencyKey
  requestHash := second.requestHash.trans first.requestHash
  database := second.database.trans first.database

theorem Mutation.sameRequest (m : Mutation) (op : Operation) : SameRequest op (m.apply op) := by
  cases m <;> exact ⟨rfl, rfl, rfl, rfl, rfl⟩

theorem End.sameRequest (e : End) (op : Operation) : SameRequest op (e.apply op) := by
  rcases e with _ | _ | _ <;> exact ⟨rfl, rfl, rfl, rfl, rfl⟩

theorem Operation.interrupt_sameRequest (op : Operation) : SameRequest op op.interrupt :=
  ⟨rfl, rfl, rfl, rfl, rfl⟩

@[simp] theorem End.apply_state (e : End) (op : Operation) : (e.apply op).state = e.state := by
  rcases e with _ | _ | _ <;> rfl

@[simp] theorem Operation.interrupt_state (op : Operation) : op.interrupt.state = .failed := rfl

theorem Mutation.apply_isTerminal (m : Mutation) (op : Operation) :
    (m.apply op).state.isTerminal = true → op.state.isTerminal = true := by
  cases m with
  | enter state => intro ended; simp [Mutation.apply, state.property] at ended
  | setRestored | setStagingDir => exact id

@[simp] theorem End.state_isTerminal (e : End) : e.state.isTerminal = true := by
  cases e <;> rfl

end InstanceManager
