import CubridOperator.InstanceManager.Operation

/-!
The Instance Managers as the operator meets them: their operations, their
answers, and the starts that have not arrived.
-/
namespace Controller
open InstanceManager Function List

inductive CallFailure where
  | tokenRefused
  | objectStorageNotApplied
  | operationInProgress
  | stagingInUse
  | requestConflict
  | notAnHAMember
  | requestRefused
  | conflict
  | operationRecordUnreadable
  | unavailable
  deriving DecidableEq

structure CallError where
  cause : CallFailure
  message : String
  deriving DecidableEq

def instanceManagerFailureReason (e : CallError) : String :=
  match e.cause with
  | .tokenRefused => "InstanceManagerTokenRefused"
  | .objectStorageNotApplied => "ObjectStorageNotApplied"
  | .operationInProgress => "InstanceManagerOperationInProgress"
  | .stagingInUse => "InstanceManagerStagingInUse"
  | .requestConflict => "InstanceManagerRequestConflict"
  | .notAnHAMember => "InstanceManagerNotAnHAMember"
  | .requestRefused => "InstanceManagerRequestRefused"
  | .conflict => "InstanceManagerConflict"
  | .operationRecordUnreadable => "InstanceManagerOperationRecordUnreadable"
  | .unavailable => "InstanceManagerUnavailable"

def CallError.startConflict (e : CallError) : Bool :=
  e.cause ∈ [.operationInProgress, .stagingInUse, .requestConflict, .notAnHAMember, .conflict]

variable {β : Type}

/-- A start request. The manager compares its body with the one it holds under
    the same key. -/
structure Request (β : Type) where
  kind : OperationKind
  key : String
  database : String
  body : β
  hash : String := ""
  deriving DecidableEq

structure Held (β : Type) where
  op : Operation
  body : β

structure IsOf (op : Operation) (req : Request β) : Prop where
  kind : op.kind = req.kind
  key : op.idempotencyKey = req.key
  database : op.database = req.database
  hash : op.requestHash = req.hash

/-- What the managers hold, each operation that was ever created, and the
    starts that are under way. -/
structure Members (β : Type) where
  held : String → List (Held β) := fun _ => []
  made : List (String × OperationID × Request β) := []
  inFlight : List (String × Request β) := []

inductive StartVerdict where
  | accept (id : OperationID)
  | reject (e : CallError)

inductive PollFailure where
  | missing
  | failed (e : CallError)

structure Progress where
  state : OperationState
  failureReason : String := ""
  artifact : Option OperationArtifact := none
  restored : Option OperationArtifact := none

namespace Members

variable [DecidableEq β] (ms : Members β)

def create (m : String) (id : OperationID) (req : Request β) : Members β × Operation :=
  let op : Operation :=
    { id, kind := req.kind, idempotencyKey := req.key, requestHash := req.hash,
      database := req.database,
      state := .pending }
  ({ ms with
      held := update ms.held m (⟨op, req.body⟩ :: ms.held m)
      made := (m, id, req) :: ms.made }, op)

/-- A start arrives. One under a key that the manager holds is answered with
    that operation, or refused. -/
def receive (m : String) (req : Request β) : StartVerdict → Members β × Except CallError Operation
  | .reject e => (ms, .error e)
  | .accept id =>
    match (ms.held m).find? (·.op.idempotencyKey = req.key) with
    | some h =>
      if h.op.kind = req.kind ∧ h.op.database = req.database ∧ h.op.requestHash = req.hash ∧
        h.body = req.body then
        (ms, .ok h.op)
      else (ms, .error ⟨.requestConflict, "the idempotency key is held by another request"⟩)
    | none =>
      if ms.made.any (·.2.1 = id) then (ms, .error ⟨.unavailable, "no fresh operation ID"⟩)
      else ((ms.create m id req).1, .ok (ms.create m id req).2)

def getOperation (m : String) (id : OperationID) : Option Operation :=
  ((ms.held m).find? (·.op.id = id)).map (·.op)

def findOperation (m : String) (kind : OperationKind) (key : String) : Option Operation :=
  ((ms.held m).find? fun h => h.op.idempotencyKey = key ∧ h.op.kind = kind).map (·.op)

def change (m : String) (id : OperationID) (p : Progress) : Members β :=
  { ms with held := update ms.held m ((ms.held m).map fun h =>
      if h.op.id = id then
        { h with op := { h.op with
            state := p.state, failureReason := p.failureReason, artifact := p.artifact,
            restored := p.restored } }
      else h) }

def lose (m : String) (id : OperationID) : Members β :=
  { ms with held := update ms.held m ((ms.held m).filter (·.op.id ≠ id)) }

end Members

section Soundness

variable {ms : Members β} {m : String} {id : OperationID} {req : Request β} {op : Operation}

structure Members.Sound (ms : Members β) : Prop where
  ids : (ms.made.map (·.2.1)).Nodup
  held : ∀ m, ∀ h ∈ ms.held m, ∃ req, (m, h.op.id, req) ∈ ms.made ∧ IsOf h.op req ∧
    h.body = req.body

section

variable (sound : ms.Sound)
include sound

theorem Members.Sound.unique {m' : String} {req' : Request β} (made : (m, id, req) ∈ ms.made)
    (made' : (m', id, req') ∈ ms.made) : m = m' ∧ req = req' := by
  have same := inj_on_of_nodup_map sound.ids made made' rfl
  simpa using same

theorem Members.Sound.create (fresh : ms.made.any (·.2.1 = id) = false) :
    (ms.create m id req).1.Sound := by
  have new : ∀ made ∈ ms.made, made.2.1 ≠ id := by simpa using fresh
  refine ⟨?_, fun n h inside => ?_⟩
  · simp only [Members.create, map_cons, nodup_cons]
    refine ⟨fun used => ?_, sound.ids⟩
    obtain ⟨made, inside, same⟩ := mem_map.mp used
    exact new made inside same
  · have before : h ∈ ms.held n → ∃ req', (n, h.op.id, req') ∈ (ms.create m id req).1.made ∧
        IsOf h.op req' ∧ h.body = req'.body := fun old => by
      obtain ⟨req', made, rest⟩ := sound.held n h old
      exact ⟨req', mem_cons_of_mem _ made, rest⟩
    by_cases this : n = m
    · subst this
      simp only [Members.create, update_self, mem_cons] at inside
      rcases inside with rfl | old
      · exact ⟨req, mem_cons_self, ⟨rfl, rfl, rfl, rfl⟩, rfl⟩
      · exact before old
    · exact before (by simpa [Members.create, update_of_ne this] using inside)

theorem Members.Sound.got (is : ms.getOperation m id = some op) :
    op.id = id ∧ ∃ req, (m, id, req) ∈ ms.made ∧ IsOf op req := by
  obtain ⟨h, found, rfl⟩ := Option.map_eq_some_iff.mp is
  have same : h.op.id = id := by simpa using find?_some found
  obtain ⟨req, made, of, -⟩ := sound.held m h (mem_of_find?_eq_some found)
  exact ⟨same, req, same ▸ made, of⟩

theorem Members.Sound.found {kind : OperationKind} {key : String}
    (is : ms.findOperation m kind key = some op) :
    op.kind = kind ∧ op.idempotencyKey = key ∧ ∃ req, (m, op.id, req) ∈ ms.made ∧ IsOf op req := by
  obtain ⟨h, found, rfl⟩ := Option.map_eq_some_iff.mp is
  have ⟨same, kind⟩ : h.op.idempotencyKey = key ∧ h.op.kind = kind := by
    simpa using find?_some found
  obtain ⟨req, made, of, -⟩ := sound.held m h (mem_of_find?_eq_some found)
  exact ⟨kind, same, req, made, of⟩

theorem Members.Sound.change (p : Progress) : (ms.change m id p).Sound := by
  refine ⟨sound.ids, fun n h inside => ?_⟩
  by_cases this : n = m
  · subst this
    simp only [Members.change, update_self, mem_map] at inside
    obtain ⟨h', before, rfl⟩ := inside
    obtain ⟨req, made, of, body⟩ := sound.held n h' before
    split_ifs
    · exact ⟨req, made, ⟨of.kind, of.key, of.database, of.hash⟩, body⟩
    · exact ⟨req, made, of, body⟩
  · exact sound.held n h (by simpa [Members.change, update_of_ne this] using inside)

theorem Members.Sound.lose : (ms.lose m id).Sound := by
  refine ⟨sound.ids, fun n h inside => ?_⟩
  by_cases this : n = m
  · subst this
    simp only [Members.lose, update_self] at inside
    exact sound.held n h (mem_filter.mp inside).1
  · exact sound.held n h (by simpa [Members.lose, update_of_ne this] using inside)

end

/-- What managers come to: nothing that was made is forgotten, and what is held
    was held before or is new. -/
structure Members.Becomes (ms ms' : Members β) : Prop where
  made : ∀ x ∈ ms.made, x ∈ ms'.made
  held : ∀ m, ∀ h ∈ ms'.held m, (∃ h' ∈ ms.held m, h'.op.id = h.op.id) ∨ ∀ x ∈ ms.made,
    x.2.1 ≠ h.op.id

theorem Members.becomes_of_held {ms' : Members β} (made : ms'.made = ms.made)
    (held : ms'.held = ms.held) : ms.Becomes ms' where
  made x inside := by
    rw [made]
    exact inside
  held m h inside := by
    rw [held] at inside
    exact .inl ⟨h, inside, rfl⟩

theorem Members.becomes_change (ms : Members β) (m : String) (id : OperationID) (p : Progress) :
    ms.Becomes (ms.change m id p) where
  made x inside := inside
  held n h inside := by
    refine .inl ?_
    by_cases this : n = m
    · subst this
      simp only [Members.change, update_self, mem_map] at inside
      obtain ⟨h', before, rfl⟩ := inside
      refine ⟨h', before, ?_⟩
      split_ifs <;> rfl
    · exact ⟨h, by simpa [Members.change, update_of_ne this] using inside, rfl⟩

theorem Members.becomes_lose (ms : Members β) (m : String) (id : OperationID) :
    ms.Becomes (ms.lose m id) where
  made x inside := inside
  held n h inside := by
    refine .inl ⟨h, ?_, rfl⟩
    by_cases this : n = m
    · subst this
      simp only [Members.lose, update_self] at inside
      exact (mem_filter.mp inside).1
    · simpa [Members.lose, update_of_ne this] using inside

variable [DecidableEq β]

theorem Members.receive_cases (ms : Members β) (m : String) (req : Request β) (v : StartVerdict) :
    (ms.receive m req v).1 = ms ∨
      ∃ id, ms.made.any (·.2.1 = id) = false ∧
        (ms.held m).find? (·.op.idempotencyKey = req.key) = none ∧
        ms.receive m req v = ((ms.create m id req).1, .ok (ms.create m id req).2) := by
  unfold Members.receive
  cases v with
  | reject e => exact .inl rfl
  | accept id =>
    dsimp only
    split
    · split_ifs <;> exact .inl rfl
    · rename_i absent
      split_ifs with used
      · exact .inl rfl
      · exact .inr ⟨id, Bool.not_eq_true _ ▸ used, absent, rfl⟩

theorem Members.Sound.receive (sound : ms.Sound) (v : StartVerdict) :
    (ms.receive m req v).1.Sound := by
  obtain same | ⟨id, fresh, -, is⟩ := ms.receive_cases m req v
  · rw [same]
    exact sound
  · rw [is]
    exact sound.create fresh

theorem Members.becomes_receive (ms : Members β) (m : String) (req : Request β) (v : StartVerdict) :
    ms.Becomes (ms.receive m req v).1 := by
  obtain same | ⟨id, fresh, -, is⟩ := ms.receive_cases m req v
  · rw [same]
    exact becomes_of_held rfl rfl
  · rw [is]
    have new : ∀ made ∈ ms.made, made.2.1 ≠ id := by simpa using fresh
    refine ⟨fun x inside => mem_cons_of_mem _ inside, fun n h inside => ?_⟩
    by_cases this : n = m
    · subst this
      simp only [Members.create, update_self, mem_cons] at inside
      rcases inside with rfl | old
      · exact .inr new
      · exact .inl ⟨h, old, rfl⟩
    · exact .inl ⟨h, by simpa [Members.create, update_of_ne this] using inside, rfl⟩

theorem Members.Sound.answered (sound : ms.Sound) {v : StartVerdict}
    (is : (ms.receive m req v).2 = .ok op) :
    (m, op.id, req) ∈ (ms.receive m req v).1.made ∧ IsOf op req := by
  cases v with
  | reject e => cases is
  | accept id =>
    simp only [Members.receive] at is ⊢
    cases found : (ms.held m).find? (·.op.idempotencyKey = req.key) with
    | some h =>
      simp only [found] at is ⊢
      split_ifs at is ⊢ with same
      obtain rfl := Except.ok.inj is
      obtain ⟨req', made, of, body⟩ := sound.held m h (mem_of_find?_eq_some found)
      have key : h.op.idempotencyKey = req.key := by simpa using find?_some found
      have request : req' = req := by
        cases req; cases req'
        simp only [Request.mk.injEq]
        exact ⟨of.kind.symm.trans same.1, of.key.symm.trans key, of.database.symm.trans same.2.1,
          body.symm.trans same.2.2.2, of.hash.symm.trans same.2.2.1⟩
      exact ⟨request ▸ made, same.1, key, same.2.1, same.2.2.1⟩
    | none =>
      simp only [found] at is ⊢
      split_ifs at is ⊢
      obtain rfl := Except.ok.inj is
      exact ⟨mem_cons_self, rfl, rfl, rfl, rfl⟩

end Soundness
end Controller
