import CubridOperator.Foundation.Journal
import CubridOperator.Foundation.Program
import CubridOperator.InstanceManager.Operation

/-!
The operation store: one record file for each operation and three maps in
memory. Every call holds the mutex, so a call is one program.
-/
namespace InstanceManager
open Foundation Function List

inductive WriteStep where
  | createTemp
  | writeTemp
  | syncTemp
  | closeTemp
  | rename
  | syncDir
  deriving DecidableEq, Repr

inductive StoreError where
  | idempotencyConflict
  | operationInProgress
  | notFound
  | recordUnreadable (first : StoreError) (more : Nat)
  | unwrittenEnd (id : OperationID)
  | unwrittenEndAfter (id : OperationID) (cause : StoreError)
  | createDir (cause : String)
  | readStore (cause : String)
  | readRecord (id : OperationID) (cause : String)
  | decodeRecord (id : OperationID) (cause : String)
  | interrupted (id : OperationID) (cause : StoreError)
  | generateID (cause : String)
  | write (step : WriteStep) (cause : String)
  deriving DecidableEq, Repr

def StoreError.text : StoreError → String
  | .idempotencyConflict => "idempotency key reused with a different request"
  | .operationInProgress => "a mutating operation is already in progress for this database"
  | .notFound => "operation not found"
  | .recordUnreadable first more =>
    "an operation record cannot be read" ++
      (if more = 0 then "" else " (and " ++ toString more ++ " more)") ++ ": " ++ first.text ++
      "; no operation is started while it may be the one asked for or one that holds the database"
  | .unwrittenEnd id =>
    "operation " ++ id.text ++ " has ended, and how it ended could not be recorded yet"
  | .unwrittenEndAfter id cause =>
    "operation " ++ id.text ++
    " has ended, and how it ended could not be recorded yet: " ++ cause.text
  | .createDir cause => "create operation store dir: " ++ cause
  | .readStore cause => "read operation store: " ++ cause
  | .readRecord id cause => "read operation " ++ id.text ++ ": " ++ cause
  | .decodeRecord id cause => "decode operation " ++ id.text ++ ": " ++ cause
  | .interrupted id cause =>
    "record that operation " ++ id.text ++ " was interrupted by a restart: " ++ cause.text
  | .generateID cause => "generate operation id: " ++ cause
  | .write .createTemp cause => "create temp operation file: " ++ cause
  | .write .writeTemp cause => "write temp operation file: " ++ cause
  | .write .syncTemp cause => "sync temp operation file: " ++ cause
  | .write .closeTemp cause => "close temp operation file: " ++ cause
  | .write .rename cause => "rename operation file: " ++ cause
  | .write .syncDir cause => "sync the operation directory: " ++ cause

def StoreError.isNotFound : StoreError → Bool
  | .notFound => true
  | .recordUnreadable first _ => first.isNotFound
  | .unwrittenEndAfter _ cause => cause.isNotFound
  | .interrupted _ cause => cause.isNotFound
  | _ => false

abbrev Records := OperationID → Option Operation

inductive RecordChange where
  | put (op : Operation)
  | drop (id : OperationID)

def RecordChange.apply (records : Records) : RecordChange → Records
  | .put op => Function.update records op.id (some op)
  | .drop id => Function.update records id none

/-- The ends that could not be written, the records the latest listing could not
    read, and those of the start. -/
structure Memory where
  unsettled : List (OperationID × End) := []
  unreadable : List (OperationID × StoreError) := []
  interrupted : List OperationID := []

namespace Memory

def keptEnd (m : Memory) (id : OperationID) : Option End := m.unsettled.lookup id

def keepEnd (m : Memory) (id : OperationID) (e : End) : Memory :=
  { m with unsettled := (id, e) :: m.unsettled.filter (·.1 ≠ id) }

def forgetEnd (m : Memory) (id : OperationID) : Memory :=
  { m with unsettled := m.unsettled.filter (·.1 ≠ id) }

def forgetInterrupted (m : Memory) (id : OperationID) : Memory :=
  { m with interrupted := m.interrupted.filter (· ≠ id) }

theorem lookup_cons_eq (l : List (OperationID × End)) (key k : OperationID) (e : End) :
    ((key, e) :: l).lookup k = if k = key then some e else l.lookup k := by
  by_cases same : k = key
  · simp [same]
  · simp [lookup_cons, beq_false_of_ne same, same]

theorem lookup_filter_ne (l : List (OperationID × End)) (id k : OperationID) :
    (l.filter (·.1 ≠ id)).lookup k = if k = id then none else l.lookup k := by
  induction l with
  | nil => simp
  | cons entry l ih =>
    obtain ⟨key, e⟩ := entry
    by_cases skipped : key = id
    · rw [filter_cons_of_neg (by simp [skipped]), ih, lookup_cons_eq]
      grind
    · rw [filter_cons_of_pos (by simp [skipped]), lookup_cons_eq, lookup_cons_eq, ih]
      grind

@[simp] theorem keptEnd_keepEnd (m : Memory) (id k : OperationID) (e : End) :
    (m.keepEnd id e).keptEnd k = if k = id then some e else m.keptEnd k := by
  simp only [keptEnd, keepEnd, lookup_cons_eq, lookup_filter_ne]
  split <;> rfl

@[simp] theorem keptEnd_forgetEnd (m : Memory) (id k : OperationID) :
    (m.forgetEnd id).keptEnd k = if k = id then none else m.keptEnd k :=
  lookup_filter_ne m.unsettled id k

@[simp] theorem keptEnd_forgetInterrupted (m : Memory) (id k : OperationID) :
    (m.forgetInterrupted id).keptEnd k = m.keptEnd k := rfl

@[simp] theorem mem_forgetInterrupted (m : Memory) (id k : OperationID) :
    k ∈ (m.forgetInterrupted id).interrupted ↔ k ∈ m.interrupted ∧ k ≠ id := by
  simp [forgetInterrupted]

@[simp] theorem interrupted_keepEnd (m : Memory) (id : OperationID) (e : End) :
    (m.keepEnd id e).interrupted = m.interrupted := rfl

@[simp] theorem interrupted_forgetEnd (m : Memory) (id : OperationID) :
    (m.forgetEnd id).interrupted = m.interrupted := rfl

end Memory

/-- The effects of the store's programs. No reader of the directory looks at the
    temp file. -/
inductive StoreEffect where
  | memory
  | setMemory (m : Memory)
  | mapOrder (ids : List OperationID)
  | mkdirAll
  | readDir
  | readFile (id : OperationID)
  | writeTemp (op : Operation)
  | rename (op : Operation)
  | syncDir
  | remove (id : OperationID)
  | newOperationID

abbrev StoreEffect.Ans : StoreEffect → Type
  | .memory => Memory
  | .setMemory _ => Unit
  | .mapOrder _ => List OperationID
  | .readDir => Except StoreError (List OperationID)
  | .readFile _ => Except StoreError Operation
  | .newOperationID => Except StoreError OperationID
  | _ => Except StoreError Unit

abbrev StoreM := Program StoreEffect StoreEffect.Ans

def perform (e : StoreEffect) : StoreM e.Ans := Program.ask e

def writeLocked (op : Operation) : StoreM (Except StoreError Unit) := do
  match ← perform (.writeTemp op) with
  | .error e => pure (.error e)
  | .ok () =>
    match ← perform (.rename op) with
    | .error e => pure (.error e)
    | .ok () => perform .syncDir

/-- A record that is not this operation's, or lacks what admission matches
    on, is no more usable than one that does not decode. -/
def decodeLocked (id : OperationID) : StoreM (Except StoreError Operation) := do
  match ← perform (.readFile id) with
  | .error e => pure (.error e)
  | .ok op =>
    if op.id ≠ id ∨ op.idempotencyKey = "" then
      pure (.error (.decodeRecord id "the record lacks its ID, kind or idempotency key"))
    else pure (.ok op)

def forgetInterrupted (id : OperationID) : StoreM Unit := do
  let m ← perform .memory
  perform (.setMemory (m.forgetInterrupted id))

def failInterruptedLocked (op : Operation) : StoreM (Except StoreError Operation) := do
  if op.state.isTerminal then
    forgetInterrupted op.id
    pure (.ok op)
  else
    match ← writeLocked op.interrupt with
    | .error e => pure (.error (.interrupted op.id e))
    | .ok () =>
      forgetInterrupted op.id
      pure (.ok op.interrupt)

def readLocked (id : OperationID) : StoreM (Except StoreError Operation) := do
  match ← decodeLocked id with
  | .error e => pure (.error e)
  | .ok op =>
    let m ← perform .memory
    if id ∈ m.interrupted then failInterruptedLocked op else pure (.ok op)

def updateLocked (id : OperationID) (mutate : Operation → Operation) :
    StoreM (Except StoreError Operation) := do
  match ← readLocked id with
  | .error e => pure (.error e)
  | .ok op =>
    match ← writeLocked (mutate op) with
    | .error e => pure (.error e)
    | .ok () => pure (.ok (mutate op))

def update (id : OperationID) (m : Mutation) : StoreM (Except StoreError Operation) :=
  updateLocked id m.apply

def forgetEnd (id : OperationID) : StoreM Unit := do
  let m ← perform .memory
  perform (.setMemory (m.forgetEnd id))

def settleLocked (id : OperationID) : StoreM (Except StoreError Unit) := do
  let m ← perform .memory
  match m.keptEnd id with
  | none => pure (.ok ())
  | some e =>
    match ← updateLocked id e.apply with
    | .ok _ =>
      forgetEnd id
      pure (.ok ())
    | .error err =>
      if err.isNotFound then forgetEnd id
      pure (.error err)

def settle (id : OperationID) (e : End) : StoreM (Except StoreError Unit) := do
  let m ← perform .memory
  perform (.setMemory (m.keepEnd id e))
  settleLocked id

def settleEach : List OperationID → StoreM Unit
  | [] => pure ()
  | id :: rest => do
    let _ ← settleLocked id
    settleEach rest

/-- The retry of every kept end; Go visits the keys of a map in any order. -/
def retryUnsettled : StoreM Unit := do
  let m ← perform .memory
  let order ← perform (.mapOrder (m.unsettled.map (·.1)))
  settleEach order

def unwrittenEnds : StoreM (List OperationID) := do
  retryUnsettled
  let m ← perform .memory
  pure ((m.unsettled.map (·.1)).insertionSort (· ≤ ·))

def get (id : OperationID) : StoreM (Except StoreError Operation) := do
  match ← settleLocked id with
  | .error e => pure (.error (.unwrittenEndAfter id e))
  | .ok () => readLocked id

def readEach : List OperationID → StoreM (List Operation × List (OperationID × StoreError))
  | [] => pure ([], [])
  | id :: rest => do
    match ← readLocked id with
    | .ok op =>
      let (ops, unreadable) ← readEach rest
      pure (op :: ops, unreadable)
    | .error e =>
      let (ops, unreadable) ← readEach rest
      pure (if e.isNotFound then (ops, unreadable) else (ops, (id, e) :: unreadable))

def listLocked : StoreM (Except StoreError (List Operation)) := do
  match ← perform .readDir with
  | .error e => pure (.error e)
  | .ok ids =>
    let (ops, unreadable) ← readEach ids
    let m ← perform .memory
    perform (.setMemory { m with unreadable := unreadable })
    pure (.ok ops)

/-- The listing visits the records in the order of their names, so the first
    one kept is the first by name. -/
def unreadableErr (m : Memory) : Option StoreError :=
  match m.unreadable with
  | [] => none
  | (_, e) :: more => some (.recordUnreadable e more.length)

def newRecord (id : OperationID) (kind : OperationKind)
    (idempotencyKey requestHash database : String) : Operation :=
  { id, kind, idempotencyKey, requestHash, database, state := .pending }

@[simp] theorem newRecord_id (id : OperationID) (kind : OperationKind)
    (key hash database : String) : (newRecord id kind key hash database).id = id := rfl

def createRecord (kind : OperationKind) (idempotencyKey requestHash database : String) :
    StoreM (Except StoreError (Operation × Bool)) := do
  match ← perform .newOperationID with
  | .error e => pure (.error e)
  | .ok id =>
    let op := newRecord id kind idempotencyKey requestHash database
    match ← writeLocked op with
    | .ok () => pure (.ok (op, false))
    | .error e =>
      -- The record may be in place although its directory could not be synced.
      let _ ← perform (.remove id)
      pure (.error e)

/-- What FindOrCreate does behind the retry of the ends that are not written. -/
def findListed (kind : OperationKind) (idempotencyKey requestHash database : String) :
    StoreM (Except StoreError (Operation × Bool)) := do
  match ← listLocked with
  | .error e => pure (.error e)
  | .ok ops =>
    let m ← perform .memory
    match ops.find? fun op => op.idempotencyKey = idempotencyKey ∧ op.kind = kind with
    | some op =>
      if op.requestHash ≠ requestHash then pure (.error .idempotencyConflict)
      else if (m.keptEnd op.id).isSome then pure (.error (.unwrittenEnd op.id))
      else pure (.ok (op, true))
    | none =>
      match unreadableErr m with
      | some e => pure (.error e)
      | none =>
        if ops.any fun op => op.database = database ∧ !op.state.isTerminal then
          pure (.error .operationInProgress)
        else createRecord kind idempotencyKey requestHash database

def findOrCreate (kind : OperationKind) (idempotencyKey requestHash database : String) :
    StoreM (Except StoreError (Operation × Bool)) := do
  retryUnsettled
  findListed kind idempotencyKey requestHash database

def findEach (idempotencyKey : String) :
    List OperationID → StoreM (Except StoreError (List Operation))
  | [] => pure (.ok [])
  | id :: rest => do
    match ← readLocked id with
    | .error e => if e.isNotFound then findEach idempotencyKey rest else pure (.error e)
    | .ok op =>
      if op.idempotencyKey = idempotencyKey then
        let m ← perform .memory
        if (m.keptEnd op.id).isSome then pure (.error (.unwrittenEnd op.id))
        else
          match ← findEach idempotencyKey rest with
          | .error e => pure (.error e)
          | .ok found => pure (.ok (op :: found))
      else findEach idempotencyKey rest

def findByKey (idempotencyKey : String) : StoreM (Except StoreError (List Operation)) := do
  retryUnsettled
  match ← perform .readDir with
  | .error e => pure (.error e)
  | .ok ids => findEach idempotencyKey ids

def failEach : List Operation → StoreM (Except StoreError Unit)
  | [] => pure (.ok ())
  | op :: rest =>
    if op.state.isTerminal then failEach rest
    else do
      match ← writeLocked op.interrupt with
      | .error e => pure (.error e)
      | .ok () => failEach rest

def reconcileOnStart : StoreM (Except StoreError Unit) := do
  match ← listLocked with
  | .error e => pure (.error e)
  | .ok ops =>
    let m ← perform .memory
    perform (.setMemory { m with interrupted := m.unreadable.map (·.1) })
    failEach ops

def newOperationStore : StoreM (Except StoreError Unit) := do
  match ← perform .mkdirAll with
  | .error e => pure (.error e)
  | .ok () => reconcileOnStart

/-- The operation directory with its unsynced changes, the IDs that were ever
    generated, and the memory of the running process. -/
structure StoreWorld where
  dir : Journal Records RecordChange := ⟨fun _ => none, []⟩
  issued : List OperationID := []
  memory : Memory := {}

namespace StoreWorld

def record (w : StoreWorld) : Records := w.dir.view RecordChange.apply

def change (w : StoreWorld) (c : RecordChange) : StoreWorld := { w with dir := w.dir.push c }

def sync (w : StoreWorld) : StoreWorld := { w with dir := w.dir.sync RecordChange.apply }

def issue (w : StoreWorld) (id : OperationID) : StoreWorld := { w with issued := id :: w.issued }

def remember (w : StoreWorld) (m : Memory) : StoreWorld := { w with memory := m }

def kill (w : StoreWorld) : StoreWorld := { w with memory := {} }

def powerLoss (mask : List Bool) (w : StoreWorld) : StoreWorld :=
  { w with dir := w.dir.powerLoss RecordChange.apply mask, memory := {} }

/-- `P` holds of the record of `id` whatever a power loss now leaves. -/
def Durably (w : StoreWorld) (id : OperationID) (P : Option Operation → Prop) : Prop :=
  w.dir.Always RecordChange.apply fun records => P (records id)

def entries (w : StoreWorld) : List OperationID :=
  (w.issued.insertionSort (· ≤ ·)).filter fun id => (w.record id).isSome

variable (w : StoreWorld)

@[simp] theorem record_put (op : Operation) :
    (w.change (.put op)).record = Function.update w.record op.id (some op) := by
  simp [record, change, RecordChange.apply]

@[simp] theorem record_drop (id : OperationID) :
    (w.change (.drop id)).record = Function.update w.record id none := by
  simp [record, change, RecordChange.apply]

@[simp] theorem record_sync : w.sync.record = w.record := rfl

@[simp] theorem record_remember (m : Memory) : (w.remember m).record = w.record := rfl

@[simp] theorem record_issue (id : OperationID) : (w.issue id).record = w.record := rfl

@[simp] theorem record_kill : w.kill.record = w.record := rfl

@[simp] theorem memory_change (c : RecordChange) : (w.change c).memory = w.memory := rfl

@[simp] theorem memory_sync : w.sync.memory = w.memory := rfl

@[simp] theorem memory_remember (m : Memory) : (w.remember m).memory = m := rfl

@[simp] theorem memory_issue (id : OperationID) : (w.issue id).memory = w.memory := rfl

@[simp] theorem issued_issue (id : OperationID) : (w.issue id).issued = id :: w.issued := rfl

@[simp] theorem issued_change (c : RecordChange) : (w.change c).issued = w.issued := rfl

@[simp] theorem issued_sync : w.sync.issued = w.issued := rfl

@[simp] theorem issued_remember (m : Memory) : (w.remember m).issued = w.issued := rfl

variable {w} {id : OperationID} {P Q : Option Operation → Prop}

theorem Durably.visible (durable : w.Durably id P) : P (w.record id) := Journal.Always.view durable

theorem Durably.mono (durable : w.Durably id P) (implies : ∀ r, P r → Q r) : w.Durably id Q :=
  Journal.Always.mono durable fun _ => implies _

@[simp] theorem durably_sync : w.sync.Durably id P ↔ P (w.record id) := Journal.always_sync

@[simp] theorem durably_remember (m : Memory) : (w.remember m).Durably id P ↔ w.Durably id P :=
  Iff.rfl

@[simp] theorem durably_issue (k : OperationID) : (w.issue k).Durably id P ↔ w.Durably id P :=
  Iff.rfl

@[simp] theorem durably_kill : w.kill.Durably id P ↔ w.Durably id P := Iff.rfl

theorem durably_put (op : Operation) :
    (w.change (.put op)).Durably id P ↔ w.Durably id P ∧ (id = op.id → P (some op)) := by
  simp only [Durably, change, Journal.always_push, RecordChange.apply]
  refine and_congr_right fun durable => ?_
  by_cases same : id = op.id
  · simp [same]
  · simpa [update_of_ne same, same] using durable

theorem durably_drop (dropped : OperationID) :
    (w.change (.drop dropped)).Durably id P ↔ w.Durably id P ∧ (id = dropped → P none) := by
  simp only [Durably, change, Journal.always_push, RecordChange.apply]
  refine and_congr_right fun durable => ?_
  by_cases same : id = dropped
  · simp [same]
  · simpa [update_of_ne same, same] using durable

@[simp] theorem mem_entries : id ∈ w.entries ↔ id ∈ w.issued ∧ (w.record id).isSome = true := by
  simp [entries, mem_filter]

theorem Durably.powerLoss (durable : w.Durably id P) (mask : List Bool) :
    (w.powerLoss mask).Durably id P := Journal.Always.powerLoss durable mask

theorem durably_powerLoss (mask : List Bool) :
    (w.powerLoss mask).Durably id P ↔ P ((w.powerLoss mask).record id) := by
  refine ⟨Durably.visible, fun holds changes part => ?_⟩
  rw [sublist_nil.mp part]
  exact holds

end StoreWorld

inductive StoreChoice where
  | ok
  | fail (cause : String)
  | failAt (step : WriteStep) (cause : String)
  | garbled (cause : String)
  | fresh (id : OperationID)
  | order (positions : List Nat)

def StoreChoice.failure : StoreChoice → Option String
  | .fail cause | .failAt _ cause => some cause
  | _ => none

def freshID (issued : List OperationID) : StoreChoice → OperationID
  | .fresh id => if id ∈ issued then issued.foldr max 0 + 1 else id
  | _ => issued.foldr max 0 + 1

def storeHandler : Handler StoreEffect StoreEffect.Ans StoreWorld StoreChoice := fun w e c =>
  match e with
  | .memory => (w, some w.memory)
  | .setMemory m => (w.remember m, some ())
  | .mapOrder ids =>
    match c with
    | .order positions => (w, some (arrange positions ids))
    | _ => (w, some ids)
  | .mkdirAll =>
    match c.failure with
    | some cause => (w, some (.error (.createDir cause)))
    | none => (w, some (.ok ()))
  | .readDir =>
    match c.failure with
    | some cause => (w, some (.error (.readStore cause)))
    | none => (w, some (.ok w.entries))
  | .readFile id =>
    match c with
    | .fail cause | .failAt _ cause => (w, some (.error (.readRecord id cause)))
    | .garbled cause => (w, some (.error (.decodeRecord id cause)))
    | _ =>
      match w.record id with
      | none => (w, some (.error .notFound))
      | some op => (w, some (.ok op))
  | .writeTemp _ =>
    match c with
    | .fail cause => (w, some (.error (.write .writeTemp cause)))
    | .failAt step cause => (w, some (.error (.write step cause)))
    | _ => (w, some (.ok ()))
  | .rename op =>
    match c.failure with
    | some cause => (w, some (.error (.write .rename cause)))
    | none => (w.change (.put op), some (.ok ()))
  | .syncDir =>
    match c.failure with
    | some cause => (w, some (.error (.write .syncDir cause)))
    | none => (w.sync, some (.ok ()))
  | .remove id =>
    match c.failure, w.record id with
    | none, some _ => (w.change (.drop id), some (.ok ()))
    | _, _ => (w, some (.error .notFound))
  | .newOperationID =>
    match c.failure with
    | some cause => (w, some (.error (.generateID cause)))
    | none =>
      let id := freshID w.issued c
      (w.issue id, some (.ok id))

def StoreM.run {α : Type} (p : StoreM α) (w : StoreWorld) (choices : List StoreChoice) :
    StoreWorld × Option α := Program.run storeHandler p w choices

end InstanceManager
