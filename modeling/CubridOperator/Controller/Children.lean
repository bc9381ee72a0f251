import CubridOperator.Controller.StatusPass
import CubridOperator.Foundation.Runs
import CubridOperator.Foundation.Threads
import CubridOperator.Foundation.Versioned
import CubridOperator.InstanceManager.RestoreRequest

/-!
The objects that a reconcile keeps for its cluster. Each has a name that someone
else's object may have, and most reads of them come from a cache.
-/
namespace Controller.Children
open Foundation Program Function List Option

section Objects

inductive ChildKind where
  | service
  | secret
  | configMap
  | networkPolicy
  | statefulSet
  | podDisruptionBudget
  | deployment
  deriving DecidableEq

def ChildKind.text : ChildKind → String
  | .service => "Service"
  | .secret => "Secret"
  | .configMap => "ConfigMap"
  | .networkPolicy => "NetworkPolicy"
  | .statefulSet => "StatefulSet"
  | .podDisruptionBudget => "PodDisruptionBudget"
  | .deployment => "Deployment"

structure ChildKey where
  kind : ChildKind
  name : String
  deriving DecidableEq

structure OwnerRef where
  kind : String
  name : String
  uid : String
  controller : Bool := false
  deriving DecidableEq

abbrev Labels := List (String × String)

/-- An object; `content` is what else a step sets of it. -/
structure Child (κ : Type) where
  labels : Labels
  owners : List OwnerRef
  content : κ
  deriving DecidableEq

variable {κ : Type}

def Child.controllerOf (child : Child κ) : Option OwnerRef := child.owners.find? (·.controller)

def Child.controlledBy (uid : String) (child : Child κ) : Bool :=
  child.controllerOf.any (·.uid = uid)

def managedByLabel : String × String :=
  ("app.kubernetes.io/managed-by", "cubrid-kubernetes-operator")

def Child.cached (child : Child κ) : Bool := managedByLabel ∈ child.labels

inductive ChildCause where
  | notOwned (key : ChildKey) (controller : Option OwnerRef)
  | alreadyOwned (key : ChildKey) (controller : OwnerRef)
  | alreadyExists (key : ChildKey)
  | notCached
  | unlabelled (key : ChildKey)
  | unreadable (key : ChildKey) (cause : String)
  | failed (cause : String)

def ChildCause.text : ChildCause → String
  | .notOwned key controller =>
    "a " ++ key.kind.text ++ " named " ++ InstanceManager.quoted key.name ++
      " exists and is not owned by this cluster" ++
      (match controller with
      | none => ""
      | some ref =>
        " (its controller is " ++ ref.kind ++ " " ++ ref.name ++ ", UID " ++ ref.uid ++ ")") ++
      "; it was left unchanged, and the cluster cannot use the name until it is free"
  | .alreadyOwned key ref =>
    "Object " ++ key.name ++ " is already owned by another " ++ ref.kind ++
    " controller " ++ ref.name
  | .alreadyExists key =>
    key.kind.text ++ " " ++ InstanceManager.quoted key.name ++ " already exists"
  | .notCached => "the token Secret is not in the cache yet"
  | .unlabelled key =>
    "the Secret " ++ key.name ++ " exists without the label " ++ managedByLabel.1 ++ "=" ++
    managedByLabel.2 ++
      ", so the operator neither reads nor adopts it; delete or rename it"
  | .unreadable key cause =>
    "the Secret " ++ key.name ++ " exists but the operator cannot read it (" ++ cause ++
    "); if it lacks the label " ++
      managedByLabel.1 ++ "=" ++ managedByLabel.2 ++ ", the operator neither reads nor adopts it"
  | .failed cause => cause

structure ChildError where
  context : String := ""
  cause : ChildCause

def ChildError.text (e : ChildError) : String := e.context ++ e.cause.text

def ChildError.within (context : String) (e : ChildError) : ChildError :=
  { e with context := context ++ e.context }

end Objects

section Effects

variable (κ : Type)

inductive ChildRead where
  | failed (cause : String)
  | missing
  | found (version : Nat) (child : Child κ)

inductive Created where
  | created (version : Nat)
  | alreadyExists
  | failed (cause : String)

inductive Deleted where
  | deleted
  | notFound
  | failed (cause : String)

inductive ChildEffect where
  | readCached (key : ChildKey)
  | readStored (key : ChildKey)
  | listServices (labels : Labels)
  /-- What the step sets of the object, from what it has. -/
  | mutate (key : ChildKey) (before : Option κ)
  | create (key : ChildKey) (child : Child κ)
  | update (key : ChildKey) (version : Nat) (child : Child κ)
  /-- The request for an object that was read names it and says no more. -/
  | delete (key : ChildKey) (version : Nat) (read : Child κ)

abbrev ChildEffect.Ans : ChildEffect κ → Type
  | .readCached _ => ChildRead κ
  | .readStored _ => ChildRead κ
  | .listServices _ => Except String (List (String × Nat × Child κ))
  | .mutate _ _ => Except String κ
  | .create _ _ => Created
  | .update _ _ _ => Except String Nat
  | .delete _ _ _ => Deleted

abbrev ChildM := Program (ChildEffect κ) (ChildEffect.Ans κ)

variable {κ}

def perform (e : ChildEffect κ) : ChildM κ (ChildEffect.Ans κ e) := ask e

end Effects

structure ClusterSpec where
  name : String
  uid : String
  promotableMembers : Nat := 1
  highAvailability : Bool := false
  haConfRefused : Option String := none
  networkPolicyEnabled : Bool := true

namespace ClusterSpec

variable (cluster : ClusterSpec)

def reference : OwnerRef :=
  { kind := "CubridCluster", name := cluster.name, uid := cluster.uid, controller := true }

def labelsOf (component : String) : Labels :=
  [("app.kubernetes.io/name", "cubrid"), ("app.kubernetes.io/instance", cluster.name),
    ("app.kubernetes.io/component", component), managedByLabel]

def labelsFor : Labels := cluster.labelsOf "database"

def brokerLabelsFor : Labels := cluster.labelsOf "broker"

def memberServiceLabels : Labels :=
  cluster.labelsFor ++ [("database.cubrid.io/service-role", "member")]

def brokerPodLabels (mode : String) : Labels :=
  cluster.brokerLabelsFor ++ [("database.cubrid.io/access-mode", mode)]

def members : List String := memberNames cluster.name cluster.promotableMembers

def instancesService : ChildKey := ⟨.service, cluster.name ++ "-instances"⟩

def imTokenSecret : ChildKey := ⟨.secret, cluster.name ++ "-im-token"⟩

def haConfigMap : ChildKey := ⟨.configMap, cluster.name ++ "-ha-config"⟩

def databaseNetworkPolicy : ChildKey := ⟨.networkPolicy, cluster.name ++ "-database"⟩

def brokerNetworkPolicy : ChildKey := ⟨.networkPolicy, cluster.name ++ "-broker"⟩

def statefulSet : ChildKey := ⟨.statefulSet, cluster.name⟩

def brokerConfigMap : ChildKey := ⟨.configMap, cluster.name ++ "-broker-config"⟩

def legacyBrokerDeployment : ChildKey := ⟨.deployment, cluster.name ++ "-broker"⟩

def brokerDeploymentName (mode : String) : String := cluster.name ++ "-broker-" ++ mode

/-- The PodDisruptionBudgets, with their labels. A single member has none. -/
def disruptionBudgets : List (ChildKey × Labels) :=
  (if 1 < cluster.promotableMembers then
    [(⟨.podDisruptionBudget, cluster.name ++ "-database"⟩, cluster.labelsFor)]
    else []) ++
  ["rw", "ro"].map fun mode =>
    (⟨.podDisruptionBudget, cluster.brokerDeploymentName mode⟩, cluster.brokerLabelsFor)

@[simp] theorem reference_controller : cluster.reference.controller = true := rfl

@[simp] theorem reference_uid : cluster.reference.uid = cluster.uid := rfl

end ClusterSpec

section Reconcile

variable {κ : Type} (cluster : ClusterSpec)

def OwnerRef.same (one other : OwnerRef) : Bool := one.kind = other.kind ∧ one.name = other.name

def upsertOwnerRef (ref : OwnerRef) (owners : List OwnerRef) : List OwnerRef :=
  match owners.findIdx? (OwnerRef.same ref) with
  | some i => owners.set i ref
  | none => owners ++ [ref]

def setControllerReference (key : ChildKey) (child : Child κ) : Except ChildCause (Child κ) :=
  match child.controllerOf with
  | some existing =>
    if existing.same cluster.reference then
      .ok { child with owners := upsertOwnerRef cluster.reference child.owners }
    else .error (.alreadyOwned key existing)
  | none => .ok { child with owners := upsertOwnerRef cluster.reference child.owners }

def readChild (key : ChildKey) : ChildM κ (ChildRead κ) := do
  match ← perform (.readCached key) with
  | .missing => perform (.readStored key)
  | read => pure read

/-- A Secret that the cache does not have is not read as a child. -/
def readForWrite (key : ChildKey) : ChildM κ (ChildRead κ) :=
  if key.kind = .secret then perform (.readCached key) else readChild key

variable [DecidableEq κ]

def reconcileChild (key : ChildKey) (labels : Labels) :
    ChildM κ (Except ChildError (Nat × Child κ)) := do
  let refused := fun cause => pure (.error { cause })
  match ← readForWrite key with
  | .failed cause => refused (.failed cause)
  | .missing =>
    match ← perform (.mutate key none) with
    | .error cause => refused (.failed cause)
    | .ok content =>
      let child : Child κ := { labels, owners := [cluster.reference], content }
      match ← perform (.create key child) with
      | .created version => pure (.ok (version, child))
      | .alreadyExists => refused (.alreadyExists key)
      | .failed cause => refused (.failed cause)
  | .found version read =>
    if !read.controlledBy cluster.uid then refused (.notOwned key read.controllerOf)
    else
      match ← perform (.mutate key (some read.content)) with
      | .error cause => refused (.failed cause)
      | .ok content =>
        match setControllerReference cluster key { read with labels, content } with
        | .error cause => refused cause
        | .ok child =>
          if child = read then pure (.ok (version, read))
          else
            match ← perform (.update key version child) with
            | .error cause => refused (.failed cause)
            | .ok version => pure (.ok (version, child))

def keepChild (context : String) (key : ChildKey) (labels : Labels) :
    ChildM κ (Except ChildError Unit) := do
  match ← reconcileChild cluster key labels with
  | .error e => pure (.error (e.within context))
  | .ok _ => pure (.ok ())

def keepEach (context : ChildKey → String) :
    List (ChildKey × Labels) → ChildM κ (Except ChildError Unit)
  | [] => pure (.ok ())
  | (key, labels) :: rest => do
    match ← keepChild cluster (context key) key labels with
    | .error e => pure (.error e)
    | .ok () => keepEach context rest

def deleteChild (context : String) (key : ChildKey) (version : Nat) (read : Child κ) :
    ChildM κ (Except ChildError Unit) := do
  match ← perform (.delete key version read) with
  | .failed cause => pure (.error { context, cause := .failed cause })
  | _ => pure (.ok ())

def deleteUnwanted : List (String × Nat × Child κ) → ChildM κ (Except ChildError Unit)
  | [] => pure (.ok ())
  | (name, version, svc) :: rest => do
    if name ∈ cluster.members ∨ !svc.controlledBy cluster.uid then deleteUnwanted rest
    else
      match ←
          deleteChild ("delete member Service " ++ name ++ ": ") ⟨.service, name⟩ version svc with
      | .error e => pure (.error e)
      | .ok () => deleteUnwanted rest

def reconcileMemberServices : ChildM κ (Except ChildError Unit) := do
  match ← keepEach cluster (fun key => "member Service " ++ key.name ++ ": ")
      (cluster.members.map fun name => (⟨.service, name⟩, cluster.memberServiceLabels)) with
  | .error e => pure (.error e)
  | .ok () =>
    match ← perform (.listServices cluster.memberServiceLabels) with
    | .error cause => pure (.error { context := "list member Services: ", cause := .failed cause })
    | .ok services => deleteUnwanted cluster services

def imTokenSecretRefused : ChildM κ (Except ChildError Unit) := do
  match ← perform (.readStored cluster.imTokenSecret) with
  | .found _ stored =>
    pure (.error
      { cause := if stored.cached then .notCached else .unlabelled cluster.imTokenSecret })
  | .missing => pure (.error { cause := .unreadable cluster.imTokenSecret "not found" })
  | .failed cause => pure (.error { cause := .unreadable cluster.imTokenSecret cause })

/-- The token Secret. Once it is kept, the rotation time or a deferred rotation
    may be noted on it, `noted` says whether. -/
def reconcileIMTokenSecret (noted : Bool) : ChildM κ (Except ChildError Unit) := do
  match ← reconcileChild cluster cluster.imTokenSecret cluster.labelsFor with
  | .error e =>
    match e.cause with
    | .alreadyExists _ => imTokenSecretRefused cluster
    | _ => pure (.error e)
  | .ok (version, secret) =>
    if noted then
      match ← perform (.mutate cluster.imTokenSecret (some secret.content)) with
      | .error cause => pure (.error { cause := .failed cause })
      | .ok content =>
        match ← perform (.update cluster.imTokenSecret version { secret with content }) with
        | .error cause => pure (.error { cause := .failed cause })
        | .ok _ => pure (.ok ())
    else pure (.ok ())

def reconcileHAConfig : ChildM κ (Except ChildError Unit) :=
  if !cluster.highAvailability then pure (.ok ())
  else
    match cluster.haConfRefused with
    | some cause => pure (.error { cause := .failed cause })
    | none => keepChild cluster "" cluster.haConfigMap cluster.labelsFor

def deleteOwned (reading deleting : String) (key : ChildKey) : ChildM κ (Except ChildError Unit) :=
  do
  match ← readChild key with
  | .failed cause => pure (.error { context := reading, cause := .failed cause })
  | .missing => pure (.ok ())
  | .found version read =>
    if read.controlledBy cluster.uid then deleteChild deleting key version read else pure (.ok ())

def reconcileNetworkPolicy (key : ChildKey) : ChildM κ (Except ChildError Unit) :=
  if !cluster.networkPolicyEnabled then
    deleteOwned cluster ("get NetworkPolicy " ++ key.name ++ ": ")
      ("delete NetworkPolicy " ++ key.name ++ ": ") key
  else keepChild cluster ("NetworkPolicy " ++ key.name ++ ": ") key cluster.labelsFor

def reconcileNetworkPolicies (brokerFirst : Bool) : ChildM κ (Except ChildError Unit) := do
  let (one, two) := if brokerFirst then (cluster.brokerNetworkPolicy, cluster.databaseNetworkPolicy)
    else (cluster.databaseNetworkPolicy, cluster.brokerNetworkPolicy)
  match ← reconcileNetworkPolicy cluster one with
  | .error e => pure (.error e)
  | .ok () => reconcileNetworkPolicy cluster two

def reconcileDisruptionBudgets : ChildM κ (Except ChildError Unit) :=
  keepEach cluster (fun key => "PodDisruptionBudget " ++ key.name ++ ": ") cluster.disruptionBudgets

def deleteLegacyBrokerDeployment : ChildM κ (Except ChildError Unit) :=
  deleteOwned cluster "" "" cluster.legacyBrokerDeployment

def brokerChildren : List (ChildKey × Labels) :=
  (["rw", "ro"].map fun mode => (⟨.deployment, cluster.brokerDeploymentName mode⟩,
    cluster.brokerPodLabels mode)) ++
    ["rw", "ro"].map fun mode => (⟨.service, cluster.name ++ "-" ++ mode⟩, cluster.brokerLabelsFor)

def reconcileBrokerTier : ChildM κ (Except ChildError Unit) := do
  match ← keepChild cluster "" cluster.brokerConfigMap cluster.brokerLabelsFor with
  | .error e => pure (.error e)
  | .ok () =>
    match ← deleteLegacyBrokerDeployment cluster with
    | .error e => pure (.error e)
    | .ok () => keepEach cluster (fun _ => "") (brokerChildren cluster)

def inOrder : List (ChildM κ (Except ChildError Unit)) → ChildM κ (Except ChildError Unit)
  | [] => pure (.ok ())
  | step :: rest => do
    match ← step with
    | .error e => pure (.error e)
    | .ok () => inOrder rest

def reconcile (noted brokerFirst : Bool) : ChildM κ (Except ChildError Unit) :=
  inOrder [
    keepChild cluster "" cluster.instancesService cluster.labelsFor,
    reconcileMemberServices cluster,
    reconcileIMTokenSecret cluster noted,
    reconcileHAConfig cluster,
    reconcileNetworkPolicies cluster brokerFirst,
    keepChild cluster "" cluster.statefulSet cluster.labelsFor,
    reconcileDisruptionBudgets cluster,
    reconcileBrokerTier cluster]

end Reconcile

section World

variable (κ : Type)

inductive Verb where
  | update
  | delete
  deriving DecidableEq

/-- A request of the operator that the API server applied: the version that it
    rests on, and the object that was stored. -/
structure Applied where
  key : ChildKey
  verb : Verb
  rests : Nat
  version : Nat
  stored : Child κ

/-- The objects by kind and name, each with all it has been; deleted, it is none. -/
structure ChildWorld where
  objects : ChildKey → Versioned (Option (Child κ)) := fun _ => {}
  applied : List (Applied κ) := []

/-- How the environment answers: the cache's version of an object, the Services
    it lists, and what the step sets. -/
structure ChildChoice where
  fate : Fate := .answered
  cached : Nat := 0
  listed : List (String × Nat) := []
  set : Except String κ := .error "no content"

variable {κ}

def ChildRead.of (version : Nat) : Option (Option (Child κ)) → ChildRead κ
  | some (some child) => .found version child
  | _ => .missing

namespace ChildWorld

variable (w : ChildWorld κ)

def stored (key : ChildKey) : Option (Child κ) := (w.objects key).current.join

def change (key : ChildKey) (next : Option (Child κ)) : ChildWorld κ :=
  { w with objects := Function.update w.objects key ((w.objects key).push next) }

def log (entry : Applied κ) : ChildWorld κ := { w with applied := entry :: w.applied }

def cached (key : ChildKey) (version : Nat) : Option (Child κ) :=
  ((w.objects key).atVersion version).join.filter (·.cached)

def listed (labels : Labels) (entry : String × Nat) : Option (String × Nat × Child κ) :=
  ((w.cached ⟨.service, entry.1⟩ entry.2).filter fun child => labels.all (· ∈ child.labels)).map
    fun child => (entry.1, entry.2, child)

def create (key : ChildKey) (child : Child κ) (fate : Fate) : ChildWorld κ × Created :=
  match fate, w.stored key with
  | .undelivered, _ => (w, .failed "the request was not delivered")
  | .answered, some _ => (w, .alreadyExists)
  | .unanswered, some _ => (w, .failed "the answer was lost")
  | .answered, none => (w.change key (some child), .created ((w.objects key).version + 1))
  | .unanswered, none => (w.change key (some child), .failed "the answer was lost")

/-- An update is applied to the version that it was made from. -/
def update (key : ChildKey) (version : Nat) (child : Child κ) (fate : Fate) :
    ChildWorld κ × Except String Nat :=
  match fate, w.stored key with
  | .undelivered, _ => (w, .error "the request was not delivered")
  | _, none => (w, .error "not found")
  | fate, some old =>
    if version = (w.objects key).version then
      ((w.log ⟨key, .update, version, version, old⟩).change key (some child),
        if fate = .answered then .ok (version + 1) else .error "the answer was lost")
    else (w, .error "the object has been modified")

/-- A delete is applied to whatever has the name. -/
def delete (key : ChildKey) (version : Nat) (fate : Fate) : ChildWorld κ × Deleted :=
  match fate, w.stored key with
  | .undelivered, _ => (w, .failed "the request was not delivered")
  | _, none => (w, .notFound)
  | fate, some old =>
    ((w.log ⟨key, .delete, version, (w.objects key).version, old⟩).change key none,
      if fate = .answered then .deleted else .failed "the answer was lost")

end ChildWorld

def childHandler : Handler (ChildEffect κ) (ChildEffect.Ans κ) (ChildWorld κ) (ChildChoice κ)
  | w, .readCached key, c =>
    (w, some (if c.fate = .answered then .of c.cached (some (w.cached key c.cached))
      else .failed "the cache cannot be read"))
  | w, .readStored key, c =>
    (w, some (if c.fate = .answered then .of (w.objects key).version (some (w.stored key))
      else .failed "the API server cannot be reached"))
  | w, .listServices labels, c =>
    (w, some (if c.fate = .answered then .ok (c.listed.filterMap (w.listed labels))
      else .error "the cache cannot be read"))
  | w, .mutate _ _, c => (w, some c.set)
  | w, .create key child, c => ((w.create key child c.fate).1, some (w.create key child c.fate).2)
  | w, .update key version child, c =>
    ((w.update key version child c.fate).1, some (w.update key version child c.fate).2)
  | w, .delete key version _, c =>
    ((w.delete key version c.fate).1, some (w.delete key version c.fate).2)

variable (κ)

abbrev ChildPool := Pool (ChildEffect κ) (ChildEffect.Ans κ) (ChildWorld κ) (Except ChildError Unit)

/-- A reconcile begins, with the spec that it has read, or takes its next step;
    or another client changes an object. -/
inductive ChildEvent where
  | begin (cluster : ClusterSpec) (noted brokerFirst : Bool)
  | act (i : Nat) (c : ChildChoice κ)
  | other (key : ChildKey) (next : Option (Child κ))

variable {κ} [DecidableEq κ]

def childStep (uid : String) (pool : ChildPool κ) : ChildEvent κ → ChildPool κ
  | .begin cluster noted brokerFirst =>
    pool.spawn (reconcile { cluster with uid } noted brokerFirst)
  | .act i c => pool.act (fun _ => childHandler) i c
  | .other key next => { pool with world := pool.world.change key next }

def childRun (uid : String) (events : List (ChildEvent κ)) : ChildPool κ :=
  runEvents (childStep uid) { world := {}, threads := [] } events

end World

variable {version : Nat} {key : ChildKey}

section Protocol

variable {κ : Type}

abbrev Held (κ : Type) := List (ChildKey × Nat × Child κ)

/-- A reconcile updates and deletes what it was given as the cluster's own. -/
def childProtocol (uid : String) : Protocol (ChildEffect κ) (ChildEffect.Ans κ) (Held κ) where
  may held
    | .update key version _ => ∃ old, (key, version, old) ∈ held ∧ old.controlledBy uid = true
    | .delete key version old => (key, version, old) ∈ held ∧ old.controlledBy uid = true
    | _ => True
  next held
    | .readCached key, .found version child => (key, version, child) :: held
    | .readStored key, .found version child => (key, version, child) :: held
    | .listServices _, .ok services => services.map (fun s => (⟨.service, s.1⟩, s.2)) ++ held
    | .create key child, .created version => (key, version, child) :: held
    | .update key _ child, .ok version => (key, version, child) :: held
    | _, _ => held

def Safe {α : Type} (uid : String) (p : ChildM κ α) : Prop :=
  ∀ held, p.Follows (childProtocol uid) (fun _ _ => True) held

variable {uid : String} {held : Held κ} {α β : Type}

theorem Safe.pure (value : α) : Safe uid (pure value : ChildM κ α) := fun _ => trivial

theorem Safe.bind {p : ChildM κ α} {next : α → ChildM κ β} (first : Safe uid p)
    (rest : ∀ value, Safe uid (next value)) : Safe uid (p >>= next) :=
  fun held => (first held).bind fun last value _ => rest value last

theorem Safe.of {p : ChildM κ α} {done : Held κ → α → Prop}
    (follows : ∀ held, p.Follows (childProtocol uid) done held) : Safe uid p :=
  fun held => (follows held).mono fun _ _ _ => trivial

theorem controlledBy_upsert {cluster : ClusterSpec} {owners : List OwnerRef} {existing : OwnerRef}
    (controller : owners.find? (·.controller) = some existing)
    (same : cluster.reference.same existing = true) :
    (upsertOwnerRef cluster.reference owners).find? (·.controller) = some cluster.reference := by
  induction owners with
  | nil => cases controller
  | cons first rest ih =>
    by_cases here : cluster.reference.same first = true
    · simp [upsertOwnerRef, findIdx?_cons, here]
    · have other : first.controller = false := by
        by_contra controls
        rw [find?_cons_of_pos (by simpa using controls)] at controller
        exact here (some.inj controller ▸ same)
      rw [find?_cons_of_neg (by simp [other])] at controller
      have later := ih controller
      unfold upsertOwnerRef at later ⊢
      rw [findIdx?_cons, if_neg here]
      cases found : rest.findIdx? (OwnerRef.same cluster.reference) with
      | none | some => simpa [found, other] using later

theorem setControllerReference_controlled {cluster : ClusterSpec} {before after : Child κ}
    (set : setControllerReference cluster key before = .ok after)
    (controlled : before.controlledBy cluster.uid = true) :
    after.controlledBy cluster.uid = true := by
  obtain ⟨existing, controller, -⟩ := (Option.any_eq_true _ _).mp controlled
  unfold setControllerReference at set
  rw [controller] at set
  dsimp only at set
  split at set
  · rename_i same
    obtain rfl := Except.ok.inj set
    have flipped : cluster.reference.same existing = true := by
      simp only [OwnerRef.same, decide_eq_true_eq] at same ⊢
      exact ⟨same.1.symm, same.2.symm⟩
    have now := controlledBy_upsert controller flipped
    simp [Child.controlledBy, Child.controllerOf, now]
  · cases set

theorem readChild_follows (key : ChildKey) :
    (readChild key).Follows (childProtocol uid)
      (fun last read => ∀ version child, read = .found version child →
        (key, version, child) ∈ last) held := by
  refine ⟨trivial, fun read => ?_⟩
  cases read with
  | failed cause =>
    intro version child no
    cases no
  | missing =>
    refine ⟨trivial, fun stored version child is => ?_⟩
    subst is
    exact mem_cons_self
  | found version child =>
    intro v c is
    cases is
    exact mem_cons_self

theorem readForWrite_follows (key : ChildKey) :
    (readForWrite key).Follows (childProtocol uid)
      (fun last read => ∀ version child, read = .found version child →
        (key, version, child) ∈ last) held := by
  unfold readForWrite
  split
  · refine ⟨trivial, fun read version child is => ?_⟩
    subst is
    exact mem_cons_self
  · exact readChild_follows key

theorem deleteChild_follows {context : String} {read : Child κ}
    (given : (key, version, read) ∈ held) (controlled : read.controlledBy uid = true) :
    (deleteChild context key version read).Follows (childProtocol uid)
    (fun last _ => last = held) held := by
  refine ⟨⟨given, controlled⟩, fun answer => ?_⟩
  cases answer <;> rfl

variable {cluster : ClusterSpec}

theorem deleteUnwanted_safe (services : List (String × Nat × Child κ))
    (given : ∀ s ∈ services, (⟨.service, s.1⟩, s.2) ∈ held) :
    (deleteUnwanted cluster services).Follows (childProtocol cluster.uid)
    (fun _ _ => True) held := by
  induction services with
  | nil => trivial
  | cons first rest ih =>
    obtain ⟨name, version, svc⟩ := first
    have others := ih fun s inside => given s (mem_cons_of_mem _ inside)
    unfold deleteUnwanted
    split
    · exact others
    · rename_i unwanted
      have controlled : svc.controlledBy cluster.uid = true := by simpa using (not_or.mp unwanted).2
      refine (deleteChild_follows (given _ mem_cons_self) controlled).bind ?_
      intro last answer same
      subst same
      cases answer with
      | error e => trivial
      | ok _ => exact others

theorem deleteOwned_safe (reading deleting : String) (key : ChildKey) :
    Safe cluster.uid (deleteOwned (κ := κ) cluster reading deleting key) := by
  intro held
  refine (readChild_follows key).bind ?_
  intro last read given
  cases read with
  | failed | missing => trivial
  | found version child =>
    show Follows _ _ _ (if _ then _ else _)
    split
    · rename_i controlled
      exact (deleteChild_follows (given version child rfl) controlled).mono fun _ _ _ => trivial
    · trivial

theorem inOrder_safe (steps : List (ChildM κ (Except ChildError Unit)))
    (each : ∀ step ∈ steps, Safe uid step) : Safe uid (inOrder steps) := by
  induction steps with
  | nil => exact Safe.pure _
  | cons first rest ih =>
    refine (each first mem_cons_self).bind fun result => ?_
    cases result with
    | error e => exact Safe.pure _
    | ok _ => exact ih fun step inside => each step (mem_cons_of_mem _ inside)

variable [DecidableEq κ]

theorem reconcileChild_follows (key : ChildKey) (labels : Labels) :
    (reconcileChild (κ := κ) cluster key labels).Follows (childProtocol cluster.uid)
      (fun last result => ∀ version child, result = .ok (version, child) →
        (key, version, child) ∈ last ∧ child.controlledBy cluster.uid = true) held := by
  have own : ∀ content : κ, (Child.mk labels [cluster.reference] content).controlledBy
      cluster.uid = true := by
    intro content
    simp [Child.controlledBy, Child.controllerOf]
  refine (readForWrite_follows key).bind ?_
  intro last read given
  cases read with
  | failed cause =>
    intro version child no
    cases no
  | missing =>
    refine ⟨trivial, fun content => ?_⟩
    cases content with
    | error cause =>
      intro version child no
      cases no
    | ok content =>
      refine ⟨trivial, fun answer => ?_⟩
      cases answer with
      | created version =>
        intro v c is
        cases is
        exact ⟨mem_cons_self, own content⟩
      | alreadyExists =>
        intro version child no
        cases no
      | failed cause =>
        intro version child no
        cases no
  | found version read =>
    have known := given version read rfl
    show Follows _ _ _ (if _ then _ else _)
    split
    · intro v c no
      cases no
    · rename_i owned
      have controlled : read.controlledBy cluster.uid = true := by simpa using owned
      refine ⟨trivial, fun content => ?_⟩
      cases content with
      | error cause =>
        intro v c no
        cases no
      | ok content =>
        show Follows _ _ _
            (match setControllerReference cluster key { read with labels, content } with
          | .error cause => _
          | .ok child => _)
        cases set : setControllerReference cluster key { read with labels, content } with
        | error cause =>
          intro v c no
          cases no
        | ok child =>
          have now : child.controlledBy cluster.uid = true :=
            setControllerReference_controlled set controlled
          show Follows _ _ _ (if _ then _ else _)
          split
          · intro v c is
            cases is
            exact ⟨known, controlled⟩
          · refine ⟨⟨read, known, controlled⟩, fun answer => ?_⟩
            cases answer with
            | error cause =>
              intro v c no
              cases no
            | ok version =>
              intro v c is
              cases is
              exact ⟨mem_cons_self, now⟩

theorem keepChild_safe (context : String) (key : ChildKey) (labels : Labels) :
    Safe cluster.uid (keepChild (κ := κ) cluster context key labels) := by
  refine (Safe.of fun held => reconcileChild_follows key labels).bind fun result => ?_
  cases result with
  | error | ok => exact Safe.pure _

theorem keepEach_safe (context : ChildKey → String) (children : List (ChildKey × Labels)) :
    Safe cluster.uid (keepEach (κ := κ) cluster context children) := by
  induction children with
  | nil => exact Safe.pure _
  | cons first rest ih =>
    refine (keepChild_safe _ _ _).bind fun result => ?_
    cases result with
    | error e => exact Safe.pure _
    | ok _ => exact ih

theorem reconcileMemberServices_safe :
    Safe cluster.uid (reconcileMemberServices (κ := κ) cluster) := by
  refine (keepEach_safe _ _).bind fun result => ?_
  cases result with
  | error e => exact Safe.pure _
  | ok _ =>
    intro held
    refine ⟨trivial, fun answer => ?_⟩
    cases answer with
    | error cause => trivial
    | ok services =>
      refine deleteUnwanted_safe services fun s inside => ?_
      exact mem_append_left _ (List.mem_map_of_mem inside)

theorem reconcileIMTokenSecret_safe (noted : Bool) :
    Safe cluster.uid (reconcileIMTokenSecret (κ := κ) cluster noted) := by
  intro held
  refine (reconcileChild_follows _ _).bind ?_
  intro last result kept
  cases result with
  | error e =>
    obtain ⟨context, cause⟩ := e
    cases cause with
    | alreadyExists key =>
      refine ⟨trivial, fun stored => ?_⟩
      cases stored <;> trivial
    | _ => trivial
  | ok found =>
    obtain ⟨version, secret⟩ := found
    obtain ⟨known, controlled⟩ := kept version secret rfl
    cases noted with
    | false => trivial
    | true =>
      refine ⟨trivial, fun content => ?_⟩
      cases content with
      | error cause => trivial
      | ok content =>
        refine ⟨⟨secret, known, controlled⟩, fun answer => ?_⟩
        cases answer <;> trivial

theorem reconcileHAConfig_safe : Safe cluster.uid (reconcileHAConfig (κ := κ) cluster) := by
  unfold reconcileHAConfig
  split
  · exact Safe.pure _
  · split
    · exact Safe.pure _
    · exact keepChild_safe _ _ _

theorem reconcileNetworkPolicy_safe (key : ChildKey) :
    Safe cluster.uid (reconcileNetworkPolicy (κ := κ) cluster key) := by
  unfold reconcileNetworkPolicy
  split
  · exact deleteOwned_safe _ _ _
  · exact keepChild_safe _ _ _

theorem reconcileNetworkPolicies_safe (brokerFirst : Bool) :
    Safe cluster.uid (reconcileNetworkPolicies (κ := κ) cluster brokerFirst) := by
  refine (reconcileNetworkPolicy_safe _).bind fun result => ?_
  cases result with
  | error e => exact Safe.pure _
  | ok _ => exact reconcileNetworkPolicy_safe _

theorem reconcileBrokerTier_safe : Safe cluster.uid (reconcileBrokerTier (κ := κ) cluster) := by
  refine (keepChild_safe _ _ _).bind fun result => ?_
  cases result with
  | error e => exact Safe.pure _
  | ok _ =>
    refine (deleteOwned_safe _ _ _).bind fun result => ?_
    cases result with
    | error e => exact Safe.pure _
    | ok _ => exact keepEach_safe _ _

theorem reconcile_safe (noted brokerFirst : Bool) :
    Safe cluster.uid (reconcile (κ := κ) cluster noted brokerFirst) := by
  refine inOrder_safe _ fun step inside => ?_
  simp only [mem_cons, not_mem_nil, or_false] at inside
  rcases inside with rfl | rfl | rfl | rfl | rfl | rfl | rfl | rfl
  · exact keepChild_safe _ _ _
  · exact reconcileMemberServices_safe
  · exact reconcileIMTokenSecret_safe noted
  · exact reconcileHAConfig_safe
  · exact reconcileNetworkPolicies_safe brokerFirst
  · exact keepChild_safe _ _ _
  · exact keepEach_safe _ _
  · exact reconcileBrokerTier_safe

end Protocol

section Invariant

variable {κ : Type} {uid : String} {w : ChildWorld κ} {parts : List (Held κ)}

/-- A request that was applied to the version it rests on met the cluster's own
    object; an update always does. -/
def Applied.Sound (uid : String) (a : Applied κ) : Prop :=
  (a.verb = .update → a.rests = a.version) ∧
  (a.rests = a.version → a.stored.controlledBy uid = true)

structure ChildInv (uid : String) (w : ChildWorld κ) (parts : List (Held κ)) : Prop where
  given : ∀ part ∈ parts, ∀ h ∈ part, (w.objects h.1).atVersion h.2.1 = some (some h.2.2)
  applied : ∀ a ∈ w.applied, a.Sound uid

variable {child : Child κ}

namespace ChildWorld

theorem objects_change_self (key : ChildKey) (next : Option (Child κ)) :
    (w.change key next).objects key = (w.objects key).push next := update_self key _ w.objects

theorem objects_change_of_ne {key other : ChildKey} (differ : other ≠ key)
    (next : Option (Child κ)) : (w.change key next).objects other = w.objects other :=
  update_of_ne differ _ w.objects

theorem atVersion_change {key other : ChildKey} {y : Option (Child κ)} (next : Option (Child κ))
    (found : (w.objects other).atVersion version = some y) :
    ((w.change key next).objects other).atVersion version = some y := by
  by_cases same : other = key
  · subst same
    rw [objects_change_self]
    exact Versioned.atVersion_push found
  · rwa [objects_change_of_ne same]

theorem atVersion_stored (is : w.stored key = some child) :
    (w.objects key).atVersion (w.objects key).version = some (some child) := by
  rw [Versioned.atVersion_version]
  exact join_eq_some_iff.mp is

theorem atVersion_cached (is : w.cached key version = some child) :
    (w.objects key).atVersion version = some (some child) := by
  have found := (filter_eq_some_iff.mp is).1
  exact join_eq_some_iff.mp found

theorem create_cases (w : ChildWorld κ) (key : ChildKey) (child : Child κ) (fate : Fate) :
    ((w.create key child fate).1 = w ∧ ∀ version, (w.create key child fate).2 ≠ .created version) ∨
      (w.create key child fate).1 = w.change key (some child) ∧
        ∀ version, (w.create key child fate).2 = .created version →
          version = (w.objects key).version + 1 := by
  unfold create
  split
  · exact .inl ⟨rfl, fun _ no => by cases no⟩
  · exact .inl ⟨rfl, fun _ no => by cases no⟩
  · exact .inl ⟨rfl, fun _ no => by cases no⟩
  · exact .inr ⟨rfl, fun _ is => (Created.created.inj is).symm⟩
  · exact .inr ⟨rfl, fun _ no => by cases no⟩

theorem update_cases (w : ChildWorld κ) (key : ChildKey) (version : Nat) (child : Child κ)
    (fate : Fate) :
    ((w.update key version child fate).1 = w ∧ ∀ v, (w.update key version child fate).2 ≠ .ok v) ∨
      ∃ old, w.stored key = some old ∧ version = (w.objects key).version ∧
        (w.update key version child fate).1 = (w.log ⟨key, .update, version, version, old⟩).change
        key (some child) ∧
        ∀ v, (w.update key version child fate).2 = .ok v → v = version + 1 := by
  unfold update
  split
  · exact .inl ⟨rfl, fun _ no => by cases no⟩
  · exact .inl ⟨rfl, fun _ no => by cases no⟩
  · rename_i old _ is
    split
    · rename_i current
      refine .inr ⟨old, is, current, rfl, fun v ok => ?_⟩
      dsimp only at ok
      split at ok
      · exact (Except.ok.inj ok).symm
      · cases ok
    · exact .inl ⟨rfl, fun _ no => by cases no⟩

theorem delete_cases (w : ChildWorld κ) (key : ChildKey) (version : Nat) (fate : Fate) :
    (w.delete key version fate).1 = w ∨ ∃ old, w.stored key = some old ∧
      (w.delete key version fate).1 =
        (w.log ⟨key, .delete, version, (w.objects key).version, old⟩).change key none := by
  unfold delete
  split
  · exact .inl rfl
  · exact .inl rfl
  · rename_i old _ is
    exact .inr ⟨old, is, rfl⟩

end ChildWorld

variable {i : Nat} {held : Held κ}

section

variable (inv : ChildInv uid w parts)
include inv

theorem ChildInv.change (key : ChildKey) (next : Option (Child κ)) :
    ChildInv uid (w.change key next) parts :=
  ⟨fun part member h inside => ChildWorld.atVersion_change next (inv.given part member h inside),
    inv.applied⟩

theorem ChildInv.log {a : Applied κ} (sound : a.Sound uid) : ChildInv uid (w.log a) parts := by
  refine ⟨inv.given, fun b member => ?_⟩
  rcases mem_cons.mp member with rfl | before
  · exact sound
  · exact inv.applied b before

theorem ChildInv.hold (new : Held κ)
    (given : ∀ h ∈ new, (w.objects h.1).atVersion h.2.1 = some (some h.2.2)) :
    ChildInv uid w (parts.set i new) := by
  refine ⟨fun part member h inside => ?_, inv.applied⟩
  rcases mem_or_eq_of_mem_set member with before | rfl
  · exact inv.given part before h inside
  · exact given h inside

section

variable (there : parts[i]? = some held)
include there

theorem ChildInv.holdMore (found : (w.objects key).atVersion version = some (some child)) :
    ChildInv uid w (parts.set i ((key, version, child) :: held)) := by
  have old := inv.given held (mem_of_getElem? there)
  refine inv.hold _ fun h inside => ?_
  rcases mem_cons.mp inside with rfl | before
  · exact found
  · exact old h before

theorem ChildInv.holdSame : ChildInv uid w (parts.set i held) :=
  inv.hold _ (inv.given held (mem_of_getElem? there))

/-- What a read found is held from then on. -/
theorem ChildInv.read {found : Option (Child κ)}
    (of : ∀ child, found = some child → (w.objects key).atVersion version = some (some child))
    {next : ChildRead κ → Held κ}
    (holds : ∀ version child, next (.found version child) = (key, version, child) :: held)
    (missing : next .missing = held) (failed : ∀ cause, next (.failed cause) = held) (fate : Fate)
    (cause : String) :
    ChildInv uid w
      (parts.set i
        (next (if fate = .answered then .of version (some found) else .failed cause))) := by
  split
  · cases found with
    | none => exact (show next (.of version (some none)) = held from missing) ▸ inv.holdSame there
    | some child =>
      exact (show next (.of version (some (some child))) = _ from holds version child) ▸
        inv.holdMore there (of child rfl)
  · exact (failed cause).symm ▸ inv.holdSame there

theorem ChildInv.sound {old stored : Child κ} (given : (key, version, old) ∈ held)
    (controlled : old.controlledBy uid = true) (now : w.stored key = some stored) (verb : Verb)
    (updates : verb = .update → version = (w.objects key).version) :
    (Applied.mk key verb version (w.objects key).version stored).Sound uid := by
  refine ⟨updates, fun same => ?_⟩
  have found := inv.given held (mem_of_getElem? there) _ given
  have current := ChildWorld.atVersion_stored now
  have versions : version = (w.objects key).version := same
  rw [← versions, found] at current
  cases current
  exact controlled

theorem ChildInv.created (key : ChildKey) (child : Child κ) :
    ChildInv uid (w.change key (some child))
      (parts.set i ((key, (w.objects key).version + 1, child) :: held)) := by
  refine (inv.change key (some child)).holdMore there ?_
  rw [ChildWorld.objects_change_self]
  exact Versioned.atVersion_push_self

theorem ChildInv.list (labels : Labels) (names : List (String × Nat)) :
    ChildInv uid w (parts.set i
      ((names.filterMap (w.listed labels)).map (fun s => (⟨.service, s.1⟩, s.2)) ++ held)) := by
  refine inv.hold _ fun h inside => ?_
  rcases mem_append.mp inside with listed | before
  · obtain ⟨entry, among, rfl⟩ := List.mem_map.mp listed
    obtain ⟨asked, -, is⟩ := mem_filterMap.mp among
    obtain ⟨child, kept, rfl⟩ := map_eq_some_iff.mp is
    exact ChildWorld.atVersion_cached (filter_eq_some_iff.mp kept).1
  · exact inv.given held (mem_of_getElem? there) h before

theorem ChildInv.create (key : ChildKey) (child : Child κ) (fate : Fate) :
    ChildInv uid (w.create key child fate).1
      (parts.set i
        ((childProtocol uid).next held (.create key child) (w.create key child fate).2)) := by
  have cases := w.create_cases key child fate
  generalize w.create key child fate = outcome at cases ⊢
  obtain ⟨w', answer⟩ := outcome
  rcases cases with ⟨same, none⟩ | ⟨same, version⟩
  · obtain rfl : w' = w := same
    cases answer with
    | created v => exact absurd rfl (none v)
    | alreadyExists | failed => exact inv.holdSame there
  · obtain rfl : w' = w.change key (some child) := same
    cases answer with
    | created v =>
      obtain rfl := version v rfl
      exact inv.created there key child
    | alreadyExists | failed => exact (inv.change key (some child)).holdSame there

theorem ChildInv.update {old : Child κ} (key : ChildKey) (given : (key, version, old) ∈ held)
    (controlled : old.controlledBy uid = true) (child : Child κ) (fate : Fate) :
    ChildInv uid (w.update key version child fate).1
      (parts.set i ((childProtocol uid).next held (.update key version child)
        (w.update key version child fate).2)) := by
  have cases := w.update_cases key version child fate
  generalize w.update key version child fate = outcome at cases ⊢
  obtain ⟨w', answer⟩ := outcome
  rcases cases with ⟨same, none⟩ | ⟨stored, now, current, same, versions⟩
  · obtain rfl : w' = w := same
    cases answer with
    | ok v => exact absurd rfl (none v)
    | error cause => exact inv.holdSame there
  · have sound := inv.sound there given controlled now .update fun _ => current
    subst current
    have logged := inv.log sound
    obtain rfl : w' = _ := same
    cases answer with
    | ok v =>
      obtain rfl := versions v rfl
      exact logged.created there key child
    | error cause => exact (logged.change key (some child)).holdSame there

theorem ChildInv.delete {old : Child κ} (key : ChildKey) (given : (key, version, old) ∈ held)
    (controlled : old.controlledBy uid = true) (fate : Fate) :
    ChildInv uid (w.delete key version fate).1 (parts.set i held) := by
  rcases w.delete_cases key version fate with same | ⟨stored, now, same⟩
  · rw [same]
    exact inv.holdSame there
  · rw [same]
    have sound := inv.sound there given controlled now .delete fun no => by cases no
    exact ((inv.log sound).change key none).holdSame there

end

end

theorem childHandler_step (e : ChildEffect κ) :
    Pool.Step (childProtocol uid) (fun _ => childHandler) (ChildInv uid) e := by
  intro w parts i held c inv there allowed
  cases e with
  | readCached key =>
    exact inv.read there (fun child => ChildWorld.atVersion_cached) (fun _ _ => rfl) rfl
      (fun _ => rfl) c.fate _
  | readStored key =>
    exact inv.read there (fun child => ChildWorld.atVersion_stored) (fun _ _ => rfl) rfl
      (fun _ => rfl) c.fate _
  | listServices labels =>
    simp only [childHandler]
    split
    · exact inv.list there labels c.listed
    · exact inv.holdSame there
  | mutate key before => exact inv.holdSame there
  | create key child => exact inv.create there key child c.fate
  | update key version child =>
    obtain ⟨old, given, controlled⟩ := allowed
    exact inv.update there key given controlled child c.fate
  | delete key version read => exact inv.delete there key allowed.1 allowed.2 c.fate

theorem childRun_inv [DecidableEq κ] (uid : String) (events : List (ChildEvent κ)) :
    ∃ parts, Pool.Plays (childProtocol uid) (fun _ _ => True) (ChildInv uid)
      (childRun uid events) parts := by
  refine runEvents_kept (fun pool => ∃ parts, Pool.Plays (childProtocol uid) (fun _ _ => True)
    (ChildInv uid) pool parts) ?_ events ⟨[], ?_⟩
  · rintro pool e ⟨parts, plays⟩
    cases e with
    | begin cluster noted brokerFirst =>
      refine ⟨parts ++ [[]], plays.spawn (reconcile_safe noted brokerFirst [])
        ⟨fun part member h inside => ?_, ?_⟩⟩
      · rcases mem_append.mp member with before | new
        · exact plays.holds.given part before h inside
        · obtain rfl := mem_singleton.mp new
          cases inside
      · exact plays.holds.applied
    | act i c => exact plays.act (fun e => childHandler_step e) i c
    | other key next => exact ⟨parts, plays.follow, plays.holds.change key next⟩
  · refine ⟨fun i => ?_, ?_, ?_⟩
    · exact .none
    · intro part none
      cases none
    · intro a none
      cases none

/-- In every run of a cluster's reconciles among other clients, whatever the
    cache has, an update or an effective delete meets an object that the cluster
    controls. -/
theorem others_left_alone [DecidableEq κ] (uid : String) (events : List (ChildEvent κ)) :
    ∀ a ∈ (childRun uid events).world.applied, (a.verb = .delete → a.rests = a.version) →
      a.stored.controlledBy uid = true := by
  intro a member met
  obtain ⟨parts, plays⟩ := childRun_inv uid events
  obtain ⟨updates, sound⟩ := plays.holds.applied a member
  apply sound
  cases verb : a.verb with
  | update => exact updates verb
  | delete => exact met verb

end Invariant

def demo : ClusterSpec := { name := "c", uid := "u1", networkPolicyEnabled := false }

def owned (uid : String) : Child Nat :=
  { labels := demo.labelsFor,
    owners := [{ kind := "CubridCluster", name := "c", uid, controller := true }], content := 0 }

def upToPolicy : List (ChildEvent Nat) :=
  .other demo.databaseNetworkPolicy (some (owned "u1")) :: .begin demo false false ::
    List.replicate 13 (.act 0 { cached := 1, set := .ok 0 })

def policyRemoved : List (ChildEvent Nat) := upToPolicy ++ [.act 0 {}]

def policyReplaced : List (ChildEvent Nat) :=
  upToPolicy ++ [.other demo.databaseNetworkPolicy none, .other demo.databaseNetworkPolicy
    (some (owned "u2")), .act 0 {}]

theorem removed_policy_owned :
    ∃ a ∈ (childRun "u1" policyRemoved).world.applied, a.verb = .delete ∧
      a.stored.controlledBy "u1" = true := by
  obtain ⟨a, member, verb, met⟩ : ∃ a ∈ (childRun "u1" policyRemoved).world.applied,
      a.verb = .delete ∧ a.rests = a.version := by decide +kernel
  exact ⟨a, member, verb, others_left_alone "u1" policyRemoved a member fun _ => met⟩

theorem replaced_policy_deleted :
    ∃ a ∈ (childRun "u1" policyReplaced).world.applied,
      a.key = demo.databaseNetworkPolicy ∧ a.verb = .delete ∧
      a.stored.controlledBy "u1" = false := by
  decide +kernel

end Controller.Children
