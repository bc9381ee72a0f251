import CubridOperator.Controller.Members
import CubridOperator.Foundation.Log
import CubridOperator.Foundation.Runs
import CubridOperator.Foundation.Threads
import CubridOperator.Foundation.Versioned

/-!
Reconciles of one object as programs, interleaved, cut off anywhere, with lost
answers and late starts. A log keeps what each did and was told; every entry of
it is justified by the rules of the reconcile.
-/
namespace Controller
open Foundation Program InstanceManager List

/-- A call of a reconcile over an object `σ`, with start requests of body `β`
    and other reads `ρ`. -/
inductive Call (σ β ρ : Type) where
  | read
  | write (version : Nat) (object : σ)
  | now
  | start (member : String) (req : Request β)
  | get (member : String) (id : OperationID)
  | find (member : String) (kind : OperationKind) (key : String)
  | query (q : ρ)

variable {σ β ρ : Type} {Q : ρ → Type}

abbrev Call.Ans (Q : ρ → Type) : Call σ β ρ → Type
  | .read => Option (Nat × σ)
  | .write _ _ => Option Nat
  | .now => Int
  | .start _ _ => Except CallError Operation
  | .get _ _ => Except PollFailure Operation
  | .find _ _ _ => Except CallError (Option Operation)
  | .query q => Q q

abbrev OperatorM (σ β ρ : Type) (Q : ρ → Type) := Program (Call σ β ρ) (Call.Ans Q)

def readObject : OperatorM σ β ρ Q (Option (Nat × σ)) := ask Call.read
def writeStatus (version : Nat) (object : σ) : OperatorM σ β ρ Q (Option Nat) :=
  ask (Call.write version object)
def now : OperatorM σ β ρ Q Int := ask Call.now
def startOperation (member : String) (req : Request β) :
    OperatorM σ β ρ Q (Except CallError Operation) :=
  ask (Call.start member req)
def getOperation (member : String) (id : OperationID) :
    OperatorM σ β ρ Q (Except PollFailure Operation) :=
  ask (Call.get member id)
def findOperation (member : String) (kind : OperationKind) (key : String) :
    OperatorM σ β ρ Q (Except CallError (Option Operation)) := ask (Call.find member kind key)
def query (q : ρ) : OperatorM σ β ρ Q (Q q) := ask (Call.query q)

def firstTime : Option Int → OperatorM σ β ρ Q Int
  | some t => pure t
  | none => now

/-- What a reconcile did and was told, and what happened to the object besides. -/
inductive Entry (σ β ρ : Type) (Q : ρ → Type) where
  | began (t : Int)
  | read (object : σ)
  | readFailed
  | time (t : Int)
  | sent (member : String) (req : Request β)
  | answered (member : String) (req : Request β) (op : Operation)
  | startFailed (member : String) (req : Request β) (e : CallError)
  | polled (member : String) (id : OperationID) (op : Operation)
  | missing (member : String) (id : OperationID)
  | found (member : String) (kind : OperationKind) (key : String) (op : Operation)
  | holdsNone (member : String) (kind : OperationKind) (key : String)
  | callFailed
  | told (q : ρ) (a : Q q)
  | wrote (before after : σ)
  | unwritten
  | edited (after : σ)

/-- Who an entry is of: a reconcile, or nobody of the operator. -/
abbrev OperatorLog (σ β ρ : Type) (Q : ρ → Type) := List (Option Nat × Entry σ β ρ Q)

def Entry.stores : Entry σ β ρ Q → Option σ
  | .wrote _ after => some after
  | .edited after => some after
  | _ => none

def storedIn (initial : σ) (log : OperatorLog σ β ρ Q) : List σ :=
  log.filterMap (·.2.stores) ++ [initial]

def latest (initial : σ) (log : OperatorLog σ β ρ Q) : σ :=
  (log.findSome? (·.2.stores)).getD initial

structure OperatorWorld (σ β ρ : Type) (Q : ρ → Type) where
  initial : σ
  object : Versioned σ := ⟨[initial]⟩
  members : Members β := {}
  clock : Int := 0
  log : OperatorLog σ β ρ Q := []

/-- What becomes of a start: answered, its answer lost, arrived late, or not
    arrived. -/
inductive StartFate where
  | answered (v : StartVerdict)
  | unanswered (v : StartVerdict)
  | delayed
  | lost

inductive OperatorChoice (ρ : Type) (Q : ρ → Type) where
  | version (n : Nat)
  | fate (f : Fate)
  | time (t : Int)
  | start (f : StartFate)
  | failed (e : CallError)
  | replies (f : (q : ρ) → Q q)

section Handler

variable (persist : σ → σ)

def OperatorWorld.note (w : OperatorWorld σ β ρ Q) (i : Nat) (e : Entry σ β ρ Q) :
    OperatorWorld σ β ρ Q :=
  { w with log := (some i, e) :: w.log }

def OperatorWorld.record (w : OperatorWorld σ β ρ Q) (e : Option Nat × Entry σ β ρ Q) :
    OperatorWorld σ β ρ Q :=
  { w with object := e.2.stores.elim w.object w.object.push, log := e :: w.log }

def lostAnswer : CallError := ⟨.unavailable, "the start was not answered"⟩

def OperatorWorld.startSent [DecidableEq β] (w : OperatorWorld σ β ρ Q) (i : Nat) (m : String)
    (req : Request β) : StartFate → OperatorWorld σ β ρ Q × Except CallError Operation
  | .answered v =>
    let w' := { w with members := (w.members.receive m req v).1 }
    match (w.members.receive m req v).2 with
    | .ok op => (w'.note i (.answered m req op), .ok op)
    | .error e => (w'.note i (.startFailed m req e), .error e)
  | .unanswered v =>
    ({ w with members := (w.members.receive m req v).1 }.note i (.startFailed m req lostAnswer),
      .error lostAnswer)
  | .delayed =>
    ({ w with members := { w.members with inFlight := (m, req) :: w.members.inFlight } }.note i
      (.startFailed m req lostAnswer), .error lostAnswer)
  | .lost => (w.note i (.startFailed m req lostAnswer), .error lostAnswer)

/-- A write from the current version is accepted, and stored as the API server
    keeps it; its answer may be lost. -/
def OperatorWorld.statusWritten (w : OperatorWorld σ β ρ Q) (i v : Nat) (object : σ) (f : Fate) :
    OperatorWorld σ β ρ Q × Option Nat :=
  let (stored, version) := w.object.write v (persist object) f
  if stored.version = w.object.version then (w.note i .unwritten, none)
  else
    let w := { w with object := stored }.note i (.wrote (latest w.initial w.log) (persist object))
    match version with
    | some version => (w, some version)
    | none => (w.note i .unwritten, none)

def operatorHandler [DecidableEq β] (i : Nat) :
    Handler (Call σ β ρ) (Call.Ans Q) (OperatorWorld σ β ρ Q) (OperatorChoice ρ Q)
  | w, .read, .version n =>
    match w.object.atVersion n with
    | some s => (w.note i (.read s), some (some (n, s)))
    | none => (w.note i .readFailed, some none)
  | w, .read, _ => (w.note i .readFailed, some none)
  | w, .write v object, .fate f =>
    ((w.statusWritten persist i v object f).1, some (w.statusWritten persist i v object f).2)
  | w, .write _ _, _ => (w.note i .unwritten, some none)
  | w, .now, .time t =>
    ({ w with clock := max w.clock t }.note i (.time (max w.clock t)), some (max w.clock t))
  | w, .now, _ => (w, none)
  | w, .start m req, .start f =>
    (((w.note i (.sent m req)).startSent i m req f).1,
      some ((w.note i (.sent m req)).startSent i m req f).2)
  | w, .start m req, _ =>
    (((w.note i (.sent m req)).startSent i m req .lost).1,
      some ((w.note i (.sent m req)).startSent i m req .lost).2)
  | w, .get _ _, .failed e => (w.note i .callFailed, some (.error (.failed e)))
  | w, .get m id, _ =>
    match w.members.getOperation m id with
    | some op => (w.note i (.polled m id op), some (.ok op))
    | none => (w.note i (.missing m id), some (.error .missing))
  | w, .find _ _ _, .failed e => (w.note i .callFailed, some (.error e))
  | w, .find m kind key, _ =>
    match w.members.findOperation m kind key with
    | some op => (w.note i (.found m kind key op), some (.ok (some op)))
    | none => (w.note i (.holdsNone m kind key), some (.ok none))
  | w, .query q, .replies f => (w.note i (.told q (f q)), some (f q))
  | w, .query _, _ => (w, none)

end Handler

/-- When a reconcile may write, send a start and poll, from what it has been
    told. It may take what it reads to be as all versions are. -/
structure Rules (σ β ρ : Type) (Q : ρ → Type) where
  mayWrite : σ → σ → List (Entry σ β ρ Q) → Prop
  maySend : σ → String → Request β → List (Entry σ β ρ Q) → Prop
  mayPoll : σ → String → OperationID → List (Entry σ β ρ Q) → Prop := fun _ _ _ _ => True
  assumes : σ → Prop := fun _ => True

def Rules.Trusts (rules : Rules σ β ρ Q) (seen : List (Entry σ β ρ Q)) : Prop :=
  ∀ s, .read s ∈ seen → rules.assumes s

/-- What a reconcile knows: the version that it goes by, and its own entries. -/
structure OperatorPart (σ β ρ : Type) (Q : ρ → Type) where
  base : Option (Nat × σ) := none
  seen : List (Entry σ β ρ Q) := []

def OperatorPart.note (part : OperatorPart σ β ρ Q) (e : Entry σ β ρ Q) : OperatorPart σ β ρ Q :=
  { part with seen := e :: part.seen }

def Rules.Allows (rules : Rules σ β ρ Q) (part : OperatorPart σ β ρ Q) : Call σ β ρ → Prop
  | .read => part.base = none
  | .write v object => ∃ b, part.base = some (v, b) ∧ rules.mayWrite b object part.seen
  | .start m req => ∃ v b, part.base = some (v, b) ∧ rules.maySend b m req part.seen
  | .get m id => ∃ v b, part.base = some (v, b) ∧ rules.mayPoll b m id part.seen
  | _ => True

def operatorProtocol (rules : Rules σ β ρ Q) (persist : σ → σ) :
    Protocol (Call σ β ρ) (Call.Ans Q) (OperatorPart σ β ρ Q) where
  may part e := rules.Trusts part.seen → rules.Allows part e
  next part
    | .read, some (v, s) => { base := some (v, s), seen := .read s :: part.seen }
    | .read, none => part.note .readFailed
    | .write _ object, some v =>
      match part.base with
      | some (_, b) =>
        { base := some (v, persist object), seen := .wrote b (persist object) :: part.seen }
      | none => part
    | .write _ _, none => part.note .unwritten
    | .now, t => part.note (.time t)
    | .start m req, .ok op => (part.note (.sent m req)).note (.answered m req op)
    | .start m req, .error e => (part.note (.sent m req)).note (.startFailed m req e)
    | .get m id, .ok op => part.note (.polled m id op)
    | .get m id, .error .missing => part.note (.missing m id)
    | .get _ _, .error (.failed _) => part.note .callFailed
    | .find m kind key, .ok (some op) => part.note (.found m kind key op)
    | .find m kind key, .ok none => part.note (.holdsNone m kind key)
    | .find _ _ _, .error _ => part.note .callFailed
    | .query q, a => part.note (.told q a)

def GoesBy (b : σ) (seen : List (Entry σ β ρ Q)) : Prop :=
  .read b ∈ seen ∨ ∃ before, .wrote before b ∈ seen

def LoggedBy (i : Nat) (seen : List (Entry σ β ρ Q)) (log : OperatorLog σ β ρ Q) : Prop :=
  ∀ e ∈ seen, (some i, e) ∈ log

/-- A reconcile goes by all that the log has of it, except that it may not know
    that a write of its own was stored. -/
structure Recalls (i : Nat) (seen : List (Entry σ β ρ Q)) (log : OperatorLog σ β ρ Q) : Prop where
  logged : LoggedBy i seen log
  all : ∀ e, (some i, e) ∈ log → e.stores = none → e ∈ seen
  aware : ∀ before after, (some i, .wrote before after) ∈ log → .wrote before after ∈ seen ∨
    .unwritten ∈ seen

def NotAfter (t : Int) (log : OperatorLog σ β ρ Q) : Prop :=
  ∀ j t', (j, .time t') ∈ log ∨ (j, .began t') ∈ log → t' ≤ t

def Entry.brings : Entry σ β ρ Q → Option (String × OperationID)
  | .answered m _ op => some (m, op.id)
  | .polled m id _ => some (m, id)
  | .found m _ _ op => some (m, op.id)
  | _ => none

def Gone (m : String) (id : OperationID) (log : OperatorLog σ β ρ Q) : Prop :=
  ∃ j earlier, (j, .missing m id) :: earlier <:+ log ∧ ∃ x ∈ earlier, x.2.brings = some (m, id)

/-- What an entry rests on in the log before it. -/
def Ruled (rules : Rules σ β ρ Q) (persist : σ → σ) (edits : σ → σ → Prop) (initial : σ) :
    Option Nat × Entry σ β ρ Q → OperatorLog σ β ρ Q → Prop
  | (some i, .wrote before after), past => before = latest initial past ∧
      ∃ object seen, after = persist object ∧ Recalls i seen past ∧ GoesBy before seen ∧
        rules.mayWrite before object seen
  | (some i, .sent m req), past =>
      ∃ b seen, Recalls i seen past ∧ GoesBy b seen ∧ rules.maySend b m req seen
  | (some i, .read s), past => s ∈ storedIn initial past ∧ ∀ s', (some i, .read s') ∉ past
  | (_, .polled m id op), past => op.id = id ∧ ¬ Gone m id past
  | (some i, .missing m id), past =>
      ∃ b seen, Recalls i seen past ∧ GoesBy b seen ∧ rules.mayPoll b m id seen
  | (_, .time t), past => NotAfter t past
  | (who, .began t), past => NotAfter t past ∧ ∀ e, (who, e) ∉ past
  | (_, .edited after), past => edits (latest initial past) after
  | (none, .wrote _ _), _ => False
  | _, _ => True

def Entry.TrueOf (ms : Members β) : Entry σ β ρ Q → Prop
  | .answered m req op => (m, op.id, req) ∈ ms.made ∧ IsOf op req
  | .polled m id op => op.id = id ∧ ∃ req, (m, id, req) ∈ ms.made ∧ IsOf op req
  | .found m kind key op =>
    op.kind = kind ∧ op.idempotencyKey = key ∧ ∃ req, (m, op.id, req) ∈ ms.made ∧ IsOf op req
  | _ => True

structure WorldInv (rules : Rules σ β ρ Q) (persist : σ → σ) (edits : σ → σ → Prop)
    (w : OperatorWorld σ β ρ Q) : Prop where
  versions : w.object.versions.reverse = storedIn w.initial w.log
  members : w.members.Sound
  clock : NotAfter w.clock w.log
  ruled : Justified (Ruled rules persist edits w.initial) w.log
  assumed : ∀ s ∈ storedIn w.initial w.log, rules.assumes s
  told : ∀ i e, (i, e) ∈ w.log → e.TrueOf w.members
  gone : ∀ m id, Gone m id w.log → ∀ h ∈ w.members.held m, h.op.id ≠ id
  made : ∀ m id req, (m, id, req) ∈ w.members.made → ∃ i, (some i, .sent m req) ∈ w.log
  inFlight : ∀ m req, (m, req) ∈ w.members.inFlight → ∃ i, (some i, .sent m req) ∈ w.log

structure OperatorInv (rules : Rules σ β ρ Q) (persist : σ → σ) (edits : σ → σ → Prop)
    (w : OperatorWorld σ β ρ Q) (parts : List (OperatorPart σ β ρ Q)) :
    Prop extends WorldInv rules persist edits w where
  spawned : ∀ i e, (some i, e) ∈ w.log → i < parts.length
  seen : ∀ i part, parts[i]? = some part → Recalls i part.seen w.log
  unread : ∀ (i : Nat) part, parts[i]? = some part → part.base = none →
    ∀ s, (some i, .read s) ∉ w.log
  base : ∀ (i : Nat) part v b, parts[i]? = some part → part.base = some (v, b) →
    w.object.atVersion v = some b ∧ GoesBy b part.seen

section Following

variable {α : Type} {rules : Rules σ β ρ Q} {persist : σ → σ}
  {done : OperatorPart σ β ρ Q → α → Prop} {part : OperatorPart σ β ρ Q}

abbrev Obeys (rules : Rules σ β ρ Q) (persist : σ → σ) (done : OperatorPart σ β ρ Q → α → Prop)
    (part : OperatorPart σ β ρ Q) (p : OperatorM σ β ρ Q α) : Prop :=
  p.Follows (operatorProtocol rules persist) done part

theorem obeys_read {k : Option (Nat × σ) → OperatorM σ β ρ Q α} (first : part.base = none)
    (found : ∀ v s, Obeys rules persist done { base := some (v, s), seen := .read s :: part.seen }
      (k (some (v, s))))
    (failed : Obeys rules persist done (part.note .readFailed) (k none)) :
    Obeys rules persist done part (readObject >>= k) :=
  ⟨fun _ => first, fun a => match a with
    | some (v, s) => found v s
    | none => failed⟩

theorem obeys_write {k : Option Nat → OperatorM σ β ρ Q α} {v : Nat} {b object : σ}
    (goes : part.base = some (v, b)) (may : rules.mayWrite b object part.seen)
    (written : ∀ v', Obeys rules persist done
      { base := some (v', persist object), seen := .wrote b (persist object) :: part.seen }
      (k (some v')))
    (unwritten : Obeys rules persist done (part.note .unwritten) (k none)) :
    Obeys rules persist done part (writeStatus v object >>= k) := by
  refine ⟨fun _ => ⟨b, goes, may⟩, fun a => ?_⟩
  cases a with
  | none => exact unwritten
  | some v' =>
    simp only [operatorProtocol, goes]
    exact written v'

theorem obeys_now {k : Int → OperatorM σ β ρ Q α}
    (next : ∀ t, Obeys rules persist done (part.note (.time t)) (k t)) :
    Obeys rules persist done part (now >>= k) := ⟨fun _ => trivial, next⟩

theorem obeys_start {k : Except CallError Operation → OperatorM σ β ρ Q α} {m : String}
    {req : Request β} {v : Nat} {b : σ} (goes : part.base = some (v, b))
    (may : rules.maySend b m req part.seen)
    (answered : ∀ op, Obeys rules persist done ((part.note (.sent m req)).note (.answered m req op))
      (k (.ok op)))
    (failed : ∀ e, Obeys rules persist done ((part.note (.sent m req)).note (.startFailed m req e))
      (k (.error e))) :
    Obeys rules persist done part (startOperation m req >>= k) :=
  ⟨fun _ => ⟨v, b, goes, may⟩, fun a => match a with
    | .ok op => answered op
    | .error e => failed e⟩

theorem obeys_get {k : Except PollFailure Operation → OperatorM σ β ρ Q α} {m : String}
    {id : OperationID} {v : Nat} {b : σ} (goes : part.base = some (v, b))
    (may : rules.mayPoll b m id part.seen)
    (polled : ∀ op, Obeys rules persist done (part.note (.polled m id op)) (k (.ok op)))
    (missing : Obeys rules persist done (part.note (.missing m id)) (k (.error .missing)))
    (failed : ∀ e, Obeys rules persist done (part.note .callFailed) (k (.error (.failed e)))) :
    Obeys rules persist done part (getOperation m id >>= k) :=
  ⟨fun _ => ⟨v, b, goes, may⟩, fun a => match a with
    | .ok op => polled op
    | .error .missing => missing
    | .error (.failed e) => failed e⟩

theorem obeys_find {k : Except CallError (Option Operation) → OperatorM σ β ρ Q α} {m : String}
    {kind : OperationKind} {key : String}
    (found : ∀ op, Obeys rules persist done (part.note (.found m kind key op)) (k (.ok (some op))))
    (holdsNone : Obeys rules persist done (part.note (.holdsNone m kind key)) (k (.ok none)))
    (failed : ∀ e, Obeys rules persist done (part.note .callFailed) (k (.error e))) :
    Obeys rules persist done part (findOperation m kind key >>= k) :=
  ⟨fun _ => trivial, fun a => match a with
    | .ok (some op) => found op
    | .ok none => holdsNone
    | .error e => failed e⟩

theorem obeys_query {q : ρ} {k : Q q → OperatorM σ β ρ Q α}
    (told : ∀ a, Obeys rules persist done (part.note (.told q a)) (k a)) :
    Obeys rules persist done part (query q >>= k) := ⟨fun _ => trivial, told⟩

theorem next_seen (rules : Rules σ β ρ Q) (persist : σ → σ) (part : OperatorPart σ β ρ Q)
    (e : Call σ β ρ) (a : Call.Ans Q e) :
    part.seen ⊆ ((operatorProtocol rules persist).next part e a).seen := by
  have noted : ∀ e : Entry σ β ρ Q, part.seen ⊆ (part.note e).seen := fun e => subset_cons_self _ _
  cases e with
  | read =>
    cases a with
    | none | some => exact noted _
  | write v object =>
    cases a with
    | none => exact noted _
    | some v' =>
      obtain ⟨_ | ⟨v, b⟩, seen⟩ := part
      · exact Subset.refl _
      · exact subset_cons_self _ _
  | now => exact noted _
  | start m req =>
    cases a with
    | ok | error => exact List.Subset.trans (noted _) (subset_cons_self _ _)
  | get m id =>
    match a with
    | .ok _ | .error .missing | .error (.failed _) => exact noted _
  | find m kind key =>
    match a with
    | .ok (some _) | .ok none | .error _ => exact noted _
  | query q => exact noted _

/-- Nothing is asked of a reconcile that read what no version is. -/
theorem obeys_untrusted {p : OperatorM σ β ρ Q α} (wrong : ¬ rules.Trusts part.seen) :
    Obeys rules persist (fun _ _ => True) part p := by
  induction p generalizing part with
  | ret value => trivial
  | call e k ih =>
    refine ⟨fun trusts => absurd trusts wrong, fun a => ih a fun trusts => wrong fun s read => ?_⟩
    exact trusts s (next_seen rules persist part e a read)

end Following

section Machine

structure OperatorModel (σ β ρ : Type) (Q : ρ → Type) (ε : Type) where
  reconcile : OperatorM σ β ρ Q Unit
  persist : σ → σ
  amend : ε → σ → σ

inductive OperatorEvent (ρ : Type) (Q : ρ → Type) (ε : Type) where
  | reconcile
  | act (i : Nat) (c : OperatorChoice ρ Q)
  | deliver (k : Nat) (v : StartVerdict)
  | drop (k : Nat)
  | change (m : String) (id : OperationID) (p : Progress)
  | lose (m : String) (id : OperationID)
  | edit (x : ε)
  | tick (t : Int)

variable {ε : Type}

abbrev OperatorPool (σ β ρ : Type) (Q : ρ → Type) :=
  Pool (Call σ β ρ) (Call.Ans Q) (OperatorWorld σ β ρ Q) Unit

def OperatorModel.edits (model : OperatorModel σ β ρ Q ε) (before after : σ) : Prop :=
  ∃ x, after = model.amend x before

def OperatorModel.step [DecidableEq β] (model : OperatorModel σ β ρ Q ε)
    (pool : OperatorPool σ β ρ Q) : OperatorEvent ρ Q ε → OperatorPool σ β ρ Q
  | .reconcile =>
    { pool with
      world := pool.world.record (some pool.threads.length, .began pool.world.clock) }.spawn
        model.reconcile
  | .act i c => pool.act (operatorHandler model.persist) i c
  | .deliver k v =>
    match pool.world.members.inFlight[k]? with
    | some (m, req) =>
      { pool with world.members := { (pool.world.members.receive m req v).1 with
          inFlight := pool.world.members.inFlight.eraseIdx k } }
    | none => pool
  | .drop k => { pool with world.members.inFlight := pool.world.members.inFlight.eraseIdx k }
  | .change m id p => { pool with world.members := pool.world.members.change m id p }
  | .lose m id => { pool with world.members := pool.world.members.lose m id }
  | .edit x =>
    match pool.world.object.current with
    | some s => { pool with world := pool.world.record (none, .edited (model.amend x s)) }
    | none => pool
  | .tick t => { pool with world.clock := max pool.world.clock t }

def OperatorModel.created (_ : OperatorModel σ β ρ Q ε) (initial : σ) : OperatorPool σ β ρ Q :=
  { world := { initial }, threads := [] }

def OperatorModel.run [DecidableEq β] (model : OperatorModel σ β ρ Q ε) (initial : σ)
    (events : List (OperatorEvent ρ Q ε)) : OperatorPool σ β ρ Q :=
  runEvents model.step (model.created initial) events

/-- Every reconcile keeps to the rules from its first call on, and what is
    stored stays as they assume. -/
structure OperatorModel.Keeps (model : OperatorModel σ β ρ Q ε) (rules : Rules σ β ρ Q)
    (done : OperatorPart σ β ρ Q → Unit → Prop) : Prop where
  obeys : ∀ t, Obeys rules model.persist done { seen := [.began t] } model.reconcile
  wrote : ∀ {b object seen}, rules.assumes b → rules.mayWrite b object seen →
    rules.assumes (model.persist object)
  edited : ∀ x {b}, rules.assumes b → rules.assumes (model.amend x b)

end Machine
end Controller
