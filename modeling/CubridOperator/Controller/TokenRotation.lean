import CubridOperator.Foundation.Clock
import CubridOperator.Foundation.Runs
import CubridOperator.Foundation.Text
import CubridOperator.Foundation.Threads
import CubridOperator.Foundation.Versioned

/-!
The token that the operator calls a cluster's Instance Managers with: how
interleaved reconciles generate, rotate and drop it.
-/
namespace Controller
open Foundation Program List Option Function

abbrev Token := String

def blank (t : Token) : Bool := t.toList.all Text.isSpace

inductive RotationTime where
  | absent
  | unreadable
  | taken (t : Int)
  deriving DecidableEq

def RotationTime.since : RotationTime → Option Int
  | .taken t => some t
  | _ => none

/-- The Secret of a cluster's token: the data, the rotation's annotations, and
    whether it is labelled and controlled as the operator's. -/
structure TokenSecret where
  current : Token := ""
  previous : Token := ""
  rotatedAt : RotationTime := .absent
  request : String := ""
  deferred : String := ""
  labelled : Bool := false
  controlled : Bool := false
  deriving DecidableEq

inductive SecretRead where
  | failed
  | missing
  | found (version : Nat) (secret : TokenSecret)

inductive PodRead where
  | failed
  | missing
  | found (startedAt : Option Int)

inductive CreateAnswer where
  | created (version : Nat)
  | alreadyExists
  | failed

inductive TokenEffect where
  | readSecret
  | readStored
  | readPod (name : String)
  | acceptsToken (name : String) (token : Token)
  | newToken
  | now
  | create (secret : TokenSecret)
  | update (version : Nat) (secret : TokenSecret)

abbrev TokenEffect.Ans : TokenEffect → Type
  | .readSecret => SecretRead
  | .readStored => SecretRead
  | .readPod _ => PodRead
  | .acceptsToken _ _ => Option Bool
  | .newToken => Option { t : Token // blank t = false }
  | .now => Int
  | .create _ => CreateAnswer
  | .update _ _ => Option Nat

abbrev TokenM := Program TokenEffect TokenEffect.Ans

def perform (e : TokenEffect) : TokenM e.Ans := ask e

inductive TokenError where
  | api
  | notOwned
  | alreadyExists
  | notCached
  deriving DecidableEq

def startedAfter (since : Int) : List String → TokenM (Except TokenError Bool)
  | [] => pure (.ok true)
  | name :: names => do
    match ← perform (.readPod name) with
    | .failed => pure (.error .api)
    | .missing => pure (.ok false)
    | .found startedAt =>
      if startedAt.any (since < ·) then startedAfter since names else pure (.ok false)

def allAccept (token : Token) : List String → TokenM Bool
  | [] => pure true
  | name :: names => do
    match ← perform (.acceptsToken name token) with
    | some true => allAccept token names
    | _ => pure false

def membersHoldToken (checker : Bool) (names : List String) (since : Int) (token : Token) :
    TokenM (Except TokenError Bool) :=
  if !checker then pure (.ok false)
  else do
    match ← startedAfter since names with
    | .error e => pure (.error e)
    | .ok false => pure (.ok false)
    | .ok true => .ok <$> allAccept token names

inductive Turn where
  | kept
  | generated
  | rotated
  | overlapEnded
  deriving DecidableEq

def renew (request : String) (secret : TokenSecret) (turn : Turn) :
    TokenM (Except TokenError (TokenSecret × Turn)) := do
  match ← perform .newToken with
  | none => pure (.error .api)
  | some token => pure (.ok ({ secret with
      current := token
      previous := if turn = .rotated then secret.current else secret.previous
      request := if request ≠ "" then request else secret.request }, turn))

def turnSecret (checker : Bool) (names : List String) (request : String) (secret : TokenSecret) :
    TokenM (Except TokenError (TokenSecret × Turn)) :=
  if blank secret.current then renew request secret .generated
  else if secret.previous ≠ "" then
    match secret.rotatedAt.since with
    | none => do
      -- Without a readable rotation time no member is known to hold the current token.
      let t ← perform .now
      pure (.ok ({ secret with rotatedAt := .taken (wholeSeconds t) }, .kept))
    | some since => do
      match ← membersHoldToken checker names since secret.current with
      | .error e => pure (.error e)
      | .ok true => pure (.ok ({ secret with previous := "" }, .overlapEnded))
      | .ok false => pure (.ok (secret, .kept))
  else if secret.rotatedAt = .absent ∨ request ≠ "" ∧ request ≠ secret.request then
    renew request secret .rotated
  else pure (.ok (secret, .kept))

def reconcileChild (checker : Bool) (names : List String) (request : String) :
    TokenM (Except TokenError (Nat × TokenSecret × Turn)) := do
  match ← perform .readSecret with
  | .failed => pure (.error .api)
  | .missing =>
    match ← turnSecret checker names request { labelled := true } with
    | .error e => pure (.error e)
    | .ok (secret, turn) =>
      let secret := { secret with controlled := true }
      match ← perform (.create secret) with
      | .created version => pure (.ok (version, secret, turn))
      | .alreadyExists => pure (.error .alreadyExists)
      | .failed => pure (.error .api)
  | .found version read =>
    if !read.controlled then pure (.error .notOwned)
    else
      match ← turnSecret checker names request { read with labelled := true } with
      | .error e => pure (.error e)
      | .ok (secret, turn) =>
        if secret = read then pure (.ok (version, secret, turn))
        else
          match ← perform (.update version secret) with
          | none => pure (.error .api)
          | some version => pure (.ok (version, secret, turn))

def reportDeferredRotation (version : Nat) (secret : TokenSecret) (request : String) :
    TokenM (Except TokenError Unit) := do
  if request = secret.deferred then pure (.ok ())
  else
    match ← perform (.update version { secret with deferred := request }) with
    | none => pure (.error .api)
    | some _ => pure (.ok ())

def imTokenSecretRefused : TokenM (Except TokenError Unit) := do
  match ← perform .readStored with
  | .found _ stored => pure (.error (if stored.labelled then .notCached else .alreadyExists))
  | _ => pure (.error .alreadyExists)

def reconcileIMTokenSecret (checker : Bool) (names : List String) (request : String) :
    TokenM (Except TokenError Unit) := do
  match ← reconcileChild checker names request with
  | .error .alreadyExists => imTokenSecretRefused
  | .error e => pure (.error e)
  | .ok (version, secret, turn) =>
    if turn = .generated ∨ turn = .rotated then
      -- The rotation time is taken once the Secret holds the new token.
      let t ← perform .now
      match ← perform (.update version { secret with rotatedAt := .taken (wholeSeconds t) }) with
      | none => pure (.error .api)
      | some _ => pure (.ok ())
    else if turn = .kept ∧ secret.previous ≠ "" ∧ request ≠ "" ∧ request ≠ secret.request then
      reportDeferredRotation version secret request
    else pure (.ok ())

def clusterTokens (secret : Option TokenSecret) : List Token :=
  match secret with
  | none => []
  | some s =>
    if s.current = "" then []
    else if s.previous ≠ "" ∧ s.previous ≠ s.current then [s.current, s.previous]
    else [s.current]

structure IMProcess where
  token : Token
  running : Bool

structure TokenWorld where
  secret : Versioned TokenSecret := {}
  managers : String → Option IMProcess := fun _ => none

inductive TokenChoice where
  | cached (version : Nat)
  | pod (read : PodRead)
  | token (t : { t : Token // blank t = false })
  | time (t : Int)
  | fate (f : Fate)
  | failed

def TokenWorld.holds (w : TokenWorld) (name : String) (token : Token) : Option Bool :=
  (w.managers name).bind fun p => if p.running then some (decide (p.token = token)) else none

def SecretRead.of (version : Nat) : Option TokenSecret → SecretRead
  | none => .missing
  | some secret => .found version secret

def tokenHandler : Handler TokenEffect TokenEffect.Ans TokenWorld TokenChoice
  | w, .readSecret, .cached n => (w, some (.of n (w.secret.atVersion n)))
  | w, .readSecret, _ => (w, some SecretRead.failed)
  | w, .readStored, .failed => (w, some SecretRead.failed)
  | w, .readStored, _ => (w, some (.of w.secret.version w.secret.current))
  | w, .readPod _, .pod read => (w, some read)
  | w, .readPod _, _ => (w, some PodRead.failed)
  | w, .acceptsToken name token, .fate .answered => (w, some (w.holds name token))
  | w, .acceptsToken _ _, _ => (w, some none)
  | w, .newToken, .token t => (w, some (some t))
  | w, .newToken, _ => (w, some none)
  | w, .now, .time t => (w, some t)
  | w, .now, _ => (w, none)
  | w, .create secret, .fate f =>
    let (stored, version) := w.secret.write 0 secret f
    ({ w with secret := stored }, some <| match version with
      | some version => .created version
      | none => if f = .answered then .alreadyExists else .failed)
  | w, .create _, _ => (w, some .failed)
  | w, .update version secret, .fate f =>
    let (stored, version) := w.secret.write version secret f
    ({ w with secret := stored }, some version)
  | w, .update _ _, _ => (w, some none)

def TokenWorld.start (names : List String) (name : String) (w : TokenWorld) : TokenWorld :=
  match w.secret.current with
  | some s =>
    if name ∈ names then
      { w with managers := update w.managers name (some ⟨s.current, true⟩) } else w
  | none => w

def TokenWorld.stop (name : String) (w : TokenWorld) : TokenWorld :=
  { w with managers := update w.managers name ((w.managers name).map fun p => { p with
    running := false }) }

abbrev TokenPool := Pool TokenEffect TokenEffect.Ans TokenWorld (Except TokenError Unit)

/-- A reconcile begins or takes its next step, or a member's container starts or
    stops. -/
inductive TokenEvent where
  | reconcile (request : String)
  | act (i : Nat) (c : TokenChoice)
  | start (name : String)
  | stop (name : String)

def tokenStep (checker : Bool) (names : List String) (pool : TokenPool) : TokenEvent → TokenPool
  | .reconcile request => pool.spawn (reconcileIMTokenSecret checker names request)
  | .act i c => pool.act (fun _ => tokenHandler) i c
  | .start name => { pool with world := pool.world.start names name }
  | .stop name => { pool with world := pool.world.stop name }

/-- The cluster as the operator first finds it: without a Secret, or with one
    from before rotations, which running members read. -/
def TokenWorld.legacy (names : List String) : Option { t : Token // blank t = false } → TokenWorld
  | none => {}
  | some t =>
    { secret := ⟨[{ current := t, labelled := true, controlled := true }]⟩
      managers := fun name => if name ∈ names then some ⟨t, true⟩ else none }

def tokenRun (checker : Bool) (names : List String)
    (found : Option { t : Token // blank t = false }) (events : List TokenEvent) : TokenPool :=
  runEvents (tokenStep checker names) { world := .legacy names found, threads := [] } events

variable {v : Nat}

section Protocol

/-- What a reconcile knows: the version of the Secret that it goes by, and the
    members that accepted the current token of it. -/
structure TokenPart where
  base : Option (Nat × TokenSecret) := none
  accepted : List String := []

inductive Turned (names accepted : List String) (s s' : TokenSecret) : Prop where
  | same (current : s'.current = s.current) (previous : s'.previous = s.previous)
  | dropped (current : s'.current = s.current) (previous : s'.previous = "")
      (held : ∀ m ∈ names, m ∈ accepted)
  | rotated (alone : s.previous = "") (previous : s'.previous = s.current)
      (current : blank s'.current = false)
  | generated (lost : blank s.current = true) (current : blank s'.current = false)

def tokenProtocol (names : List String) : Protocol TokenEffect TokenEffect.Ans TokenPart where
  may part
    | .acceptsToken _ token => ∃ v s, part.base = some (v, s) ∧ s.current = token
    | .create secret => blank secret.current = false
    | .update v secret => ∃ s, part.base = some (v, s) ∧ Turned names part.accepted s secret
    | _ => True
  next part
    | .readSecret, .found v s => ⟨some (v, s), []⟩
    | .acceptsToken m _, some true => { part with accepted := m :: part.accepted }
    | .create s, .created v => ⟨some (v, s), []⟩
    | .update _ s, some v => ⟨some (v, s), []⟩
    | _, _ => part

variable {names : List String} {part : TokenPart}

theorem startedAfter_follows (since : Int) (asked : List String) :
    (startedAfter since asked).Follows (tokenProtocol names) (fun last _ => last = part) part := by
  induction asked with
  | nil => rfl
  | cons name asked ih =>
    refine ⟨trivial, fun read => ?_⟩
    cases read with
    | failed | missing => rfl
    | found startedAt =>
      show Follows _ _ _ (if _ then _ else _)
      split
      · exact ih
      · rfl

theorem allAccept_follows {s : TokenSecret} (asked : List String) (base : part.base = some (v, s)) :
    (allAccept s.current asked).Follows (tokenProtocol names)
      (fun last all => last.base = some (v, s) ∧ (∀ m ∈ part.accepted, m ∈ last.accepted) ∧
        (all = true → ∀ m ∈ asked, m ∈ last.accepted)) part := by
  induction asked generalizing part with
  | nil => exact ⟨base, fun m member => member, fun _ m none => by cases none⟩
  | cons name asked ih =>
    refine ⟨⟨v, s, base, rfl⟩, fun answer => ?_⟩
    match answer with
    | none | some false => exact ⟨base, fun m member => member, fun no => by cases no⟩
    | some true =>
      have rest := @ih { part with accepted := name :: part.accepted } base
      refine rest.mono ?_
      rintro last all ⟨kept, before, asked⟩
      refine ⟨kept, fun m member => before m (mem_cons_of_mem _ member), fun yes m member => ?_⟩
      rcases mem_cons.mp member with rfl | later
      · exact before m mem_cons_self
      · exact asked yes m later

theorem membersHoldToken_follows {s : TokenSecret} (checker : Bool) (since : Int)
    (base : part.base = some (v, s)) :
    (membersHoldToken checker names since s.current).Follows (tokenProtocol names)
      (fun last r => last.base = some (v, s) ∧
        (r = .ok true → ∀ m ∈ names, m ∈ last.accepted)) part := by
  unfold membersHoldToken
  split
  · exact ⟨base, fun no => by cases no⟩
  · refine (startedAfter_follows since names).bind ?_
    rintro _ started rfl
    match started with
    | .error _ | .ok false => exact ⟨base, fun no => by cases no⟩
    | .ok true =>
      refine (allAccept_follows names base).bind ?_
      rintro last all ⟨kept, -, asked⟩
      exact ⟨kept, fun yes => asked (Except.ok.inj yes)⟩

theorem renew_follows (wanted : String) (secret : TokenSecret) (turn : Turn) :
    (renew wanted secret turn).Follows (tokenProtocol names)
      (fun last r => last = part ∧ ∀ s' t, r = .ok (s', t) → blank s'.current = false ∧
        s'.previous = if turn = .rotated then secret.current else secret.previous) part := by
  refine ⟨trivial, fun answer => ?_⟩
  match answer with
  | none => exact ⟨rfl, fun _ _ no => by cases no⟩
  | some ⟨token, there⟩ =>
    refine ⟨rfl, fun s' t is => ?_⟩
    cases is
    exact ⟨there, rfl⟩

theorem turnSecret_follows (read secret : TokenSecret) (checker : Bool) (wanted : String)
    (base : part.base = some (v, read)) (current : secret.current = read.current)
    (previous : secret.previous = read.previous) :
    (turnSecret checker names wanted secret).Follows (tokenProtocol names)
      (fun last r => last.base = some (v, read) ∧
        ∀ s' t, r = .ok (s', t) → Turned names last.accepted read s') part := by
  unfold turnSecret
  split_ifs with lost overlap due
  · refine (renew_follows wanted secret .generated).mono ?_
    rintro last r ⟨rfl, is⟩
    exact ⟨base, fun s' t ok => .generated (current ▸ lost) (is s' t ok).1⟩
  · split
    · refine ⟨trivial, fun time => ⟨base, fun s' t ok => ?_⟩⟩
      cases ok
      exact .same current previous
    · rename_i since _
      refine (current ▸ membersHoldToken_follows checker since base).bind ?_
      rintro last held ⟨kept, asked⟩
      match held with
      | .error e => exact ⟨kept, fun _ _ no => by cases no⟩
      | .ok false =>
        refine ⟨kept, fun s' t ok => ?_⟩
        cases ok
        exact .same current previous
      | .ok true =>
        refine ⟨kept, fun s' t ok => ?_⟩
        cases ok
        exact .dropped current rfl (asked rfl)
  · refine (renew_follows wanted secret .rotated).mono ?_
    rintro last r ⟨rfl, is⟩
    exact ⟨base, fun s' t ok => .rotated (previous ▸ not_not.mp overlap)
      ((is s' t ok).2.trans current) (is s' t ok).1⟩
  · refine ⟨base, fun s' t ok => ?_⟩
    cases ok
    exact .same current previous

theorem reconcileChild_follows (checker : Bool) (wanted : String) :
    (reconcileChild checker names wanted).Follows (tokenProtocol names)
      (fun last r => ∀ v s t, r = .ok (v, s, t) → last.base = some (v, s)) part := by
  refine ⟨trivial, fun read => ?_⟩
  match read with
  | .failed => exact fun _ _ _ no => by cases no
  | .missing =>
    refine (renew_follows wanted { labelled := true } .generated).bind ?_
    rintro _ r ⟨rfl, is⟩
    match r with
    | .error e => exact fun _ _ _ no => by cases no
    | .ok (secret, turn) =>
      refine ⟨(is secret turn rfl).1, fun answer => ?_⟩
      match answer with
      | .created version =>
        intro v s t ok
        cases ok
        rfl
      | .alreadyExists | .failed => exact fun _ _ _ no => by cases no
  | .found version read =>
    show Follows _ _ _ (if _ then _ else _)
    split
    · exact fun _ _ _ no => by cases no
    · refine (turnSecret_follows read
        { read with labelled := true } checker wanted rfl rfl rfl).bind ?_
      rintro last r ⟨base, turned⟩
      match r with
      | .error e => exact fun _ _ _ no => by cases no
      | .ok (secret, turn) =>
        show Follows _ _ _ (if _ then _ else _)
        split
        · rename_i same
          intro v s t ok
          cases ok
          exact same ▸ base
        · refine ⟨⟨read, base, turned secret turn rfl⟩, fun answer => ?_⟩
          match answer with
          | none => exact fun _ _ _ no => by cases no
          | some version =>
            intro v s t ok
            cases ok
            rfl

theorem reconcileIMTokenSecret_follows (checker : Bool) (wanted : String) :
    (reconcileIMTokenSecret checker names wanted).Follows (tokenProtocol names)
    (fun _ _ => True) part := by
  refine (reconcileChild_follows checker wanted).bind ?_
  intro last r known
  match r with
  | .error .alreadyExists =>
    refine ⟨trivial, fun stored => ?_⟩
    cases stored <;> trivial
  | .error .api | .error .notOwned | .error .notCached => trivial
  | .ok (version, secret, turn) =>
    have base := known version secret turn rfl
    show Follows _ _ _ (if _ then _ else _)
    split
    · refine ⟨trivial, fun time => ⟨⟨secret, base, .same rfl rfl⟩, fun answer => ?_⟩⟩
      cases answer <;> trivial
    · split
      · unfold reportDeferredRotation
        split
        · trivial
        · refine ⟨⟨secret, base, .same rfl rfl⟩, fun answer => ?_⟩
          cases answer <;> trivial
      · trivial

end Protocol

section Invariant

variable {names : List String} {w : TokenWorld} {parts : List TokenPart}

def TokenPart.Held (part : TokenPart) (w : TokenWorld) (s : TokenSecret) : Prop :=
  ∀ m ∈ part.accepted, ∃ p, w.managers m = some p ∧ p.token = s.current

structure TokenInv (names : List String) (w : TokenWorld) (parts : List TokenPart) : Prop where
  present : ∀ n s, w.secret.atVersion n = some s → blank s.current = false
  members : ∀ m p, w.managers m = some p → m ∈ names
  tokens : ∀ m p, w.managers m = some p →
    ∃ s, w.secret.current = some s ∧ (p.token = s.current ∨ s.previous ≠ "" ∧ p.token = s.previous)
  parts : ∀ part ∈ parts, ∀ v s, part.base = some (v, s) →
    w.secret.atVersion v = some s ∧ (v = w.secret.version → part.Held w s)

/-- A step drops the previous token only while every manager was started with
    the current one, and replaces the current token only while no previous one
    is kept. -/
structure RotationSound (names : List String) (w w' : TokenWorld) : Prop where
  drops : ∀ s s', w.secret.current = some s → w'.secret.current = some s' → s.previous ≠ "" →
    s'.previous ≠ s.previous → s'.current = s.current ∧ ∀ m ∈ names, ∃ p, w'.managers m = some p ∧
    p.token = s'.current
  rotates : ∀ s s', w.secret.current = some s → w'.secret.current = some s' →
    s'.current ≠ s.current →
    s.previous = "" ∧ s'.previous = s.current

theorem ne_empty_of_present {t : Token} (there : blank t = false) : t ≠ "" := by
  rintro rfl
  cases there

theorem RotationSound.of_same {w' : TokenWorld} (same : w'.secret = w.secret) :
    RotationSound names w w' := by
  constructor <;> intro s s' is is' <;> rw [same, is] at is' <;> cases is' <;> simp

variable {part : TokenPart}

theorem TokenInv.push {s s' : TokenSecret} (inv : TokenInv names w parts) (among : part ∈ parts)
    (base : part.base = some (v, s)) (latest : v = w.secret.version)
    (turned : Turned names part.accepted s s') :
    TokenInv names { w with secret := w.secret.push s' } parts ∧
      RotationSound names w { w with secret := w.secret.push s' } := by
  obtain ⟨stored, held⟩ := inv.parts part among v s base
  have current : w.secret.current = some s := by
    rw [← Versioned.atVersion_version, ← latest]
    exact stored
  have there := inv.present v s stored
  have there' : blank s'.current = false := by
    cases turned with
    | same current' previous' | dropped current' previous' held' => exact current' ▸ there
    | rotated alone previous' current' | generated lost current' => exact current'
  refine ⟨⟨fun n x found => ?_, inv.members, fun m p runs => ?_, fun part' among' v' x base' => ?_⟩,
    ?_, ?_⟩
  · rcases Versioned.atVersion_push_cases found with older | ⟨-, rfl⟩
    · exact inv.present n x older
    · exact there'
  · refine ⟨s', Versioned.current_push _ _, ?_⟩
    obtain ⟨x, is, holds⟩ := inv.tokens m p runs
    obtain rfl : s = x := some.inj (current.symm.trans is)
    cases turned with
    | same current' previous' => rw [current', previous']; exact holds
    | dropped current' previous' asked =>
      obtain ⟨q, is, token⟩ := held latest m (asked m (inv.members m p runs))
      obtain rfl : p = q := some.inj (runs.symm.trans is)
      exact .inl (token.trans current'.symm)
    | rotated alone previous' current' =>
      have only := holds.resolve_right fun kept => kept.1 alone
      exact .inr ⟨previous' ▸ ne_empty_of_present there, only.trans previous'.symm⟩
    | generated lost current' => exact absurd (lost.symm.trans there) (by decide)
  · have known := (inv.parts part' among' v' x base').1
    refine ⟨Versioned.atVersion_push known, fun newest => ?_⟩
    have bound := Versioned.le_version known
    simp only [Versioned.version_push] at newest
    omega
  · intro x x' is is' kept changed
    obtain rfl : s = x := some.inj (current.symm.trans is)
    obtain rfl : s' = x' := some.inj ((Versioned.current_push _ _).symm.trans is')
    cases turned with
    | same current' previous' => exact absurd previous' changed
    | dropped current' previous' asked =>
      refine ⟨current', fun m member => ?_⟩
      rw [current']
      exact held latest m (asked m member)
    | rotated alone previous' current' => exact absurd alone kept
    | generated lost current' => exact absurd (lost.symm.trans there) (by decide)
  · intro x x' is is' changed
    obtain rfl : s = x := some.inj (current.symm.trans is)
    obtain rfl : s' = x' := some.inj ((Versioned.current_push _ _).symm.trans is')
    cases turned with
    | same current' previous' | dropped current' previous' asked => exact absurd current' changed
    | rotated alone previous' current' => exact ⟨alone, previous'⟩
    | generated lost current' => exact absurd (lost.symm.trans there) (by decide)

theorem TokenInv.create {s' : TokenSecret} (inv : TokenInv names w parts)
    (none : 0 = w.secret.version) (there : blank s'.current = false) :
    TokenInv names { w with secret := w.secret.push s' } parts ∧
      RotationSound names w { w with secret := w.secret.push s' } := by
  have absent : w.secret.current = Option.none := by
    rw [← Versioned.atVersion_version, ← none]
    rfl
  refine ⟨⟨fun n x found => ?_, inv.members, fun m p runs => ?_, fun part among v x base => ?_⟩, ?_,
    ?_⟩
  · rcases Versioned.atVersion_push_cases found with older | ⟨-, rfl⟩
    · exact inv.present n x older
    · exact there
  · obtain ⟨x, is, -⟩ := inv.tokens m p runs
    cases absent.symm.trans is
  · have known := (inv.parts part among v x base).1
    have bound := Versioned.le_version known
    obtain rfl : v = 0 := by omega
    cases known
  · intro x x' is
    cases absent.symm.trans is
  · intro x x' is
    cases absent.symm.trans is

theorem TokenInv.set (inv : TokenInv names w parts) (i : Nat)
    (known : ∀ v s, part.base = some (v, s) →
      w.secret.atVersion v = some s ∧ (v = w.secret.version → part.Held w s)) :
    TokenInv names w (parts.set i part) :=
  ⟨inv.present, inv.members, inv.tokens, fun other among => by
    rcases mem_or_eq_of_mem_set among with before | rfl
    · exact inv.parts other before
    · exact known⟩

def TokenPart.Knows (part : TokenPart) (w : TokenWorld) : Prop :=
  ∀ v s, part.base = some (v, s) → w.secret.atVersion v = some s ∧
    (v = w.secret.version → part.Held w s)

theorem knows_accepted {name : String} {token : Token} (knows : part.Knows w)
    (may : ∃ v s, part.base = some (v, s) ∧ s.current = token)
    (holds : w.holds name token = some true) :
    ({ part with accepted := name :: part.accepted } : TokenPart).Knows w := by
  intro v s base
  obtain ⟨stored, held⟩ := knows v s base
  refine ⟨stored, fun latest m member => ?_⟩
  rcases mem_cons.mp member with rfl | before
  · obtain ⟨v', s', base', rfl⟩ := may
    obtain ⟨rfl, rfl⟩ : v = v' ∧ s = s' := by simpa using base.symm.trans base'
    obtain ⟨p, runs, answer⟩ := bind_eq_some_iff.mp holds
    split_ifs at answer with running
    exact ⟨p, runs, by simpa using answer⟩
  · exact held latest m before

theorem tokenHandler_sound {i : Nat} (e : TokenEffect) (c : TokenChoice)
    (inv : TokenInv names w parts) (here : parts[i]? = some part)
    (may : (tokenProtocol names).may part e) :
    RotationSound names w (tokenHandler w e c).1 ∧
      match tokenHandler w e c with
      | (w', none) => TokenInv names w' parts
      | (w', some a) => TokenInv names w' (parts.set i ((tokenProtocol names).next part e a)) := by
  have among : part ∈ parts := mem_of_getElem? here
  have knows : part.Knows w := inv.parts part among
  have same : RotationSound names w w := .of_same rfl
  cases e with
  | readPod | readStored | newToken => cases c <;> exact ⟨same, inv.set i knows⟩
  | now => cases c <;> first | exact ⟨same, inv⟩ | exact ⟨same, inv.set i knows⟩
  | readSecret =>
    cases c with
    | cached n =>
      refine ⟨same, ?_⟩
      show TokenInv names w (parts.set i ((tokenProtocol names).next part .readSecret
        (.of n (w.secret.atVersion n))))
      cases found : w.secret.atVersion n with
      | none => exact inv.set i knows
      | some s =>
        refine inv.set i fun v x base => ?_
        obtain ⟨rfl, rfl⟩ : n = v ∧ s = x := by simpa [tokenProtocol, SecretRead.of] using base
        exact ⟨found, fun _ m none => by cases none⟩
    | _ => exact ⟨same, inv.set i knows⟩
  | acceptsToken name token =>
    have asked : TokenInv names w (parts.set i
        ((tokenProtocol names).next part (.acceptsToken name token) (w.holds name token))) := by
      match holds : w.holds name token with
      | none | some false => exact inv.set i knows
      | some true => exact inv.set i (knows_accepted knows may holds)
    cases c with
    | fate f => cases f <;> first | exact ⟨same, asked⟩ | exact ⟨same, inv.set i knows⟩
    | _ => exact ⟨same, inv.set i knows⟩
  | create secret =>
    cases c with
    | fate f =>
      simp only [tokenHandler]
      obtain is | ⟨first, is | is⟩ := w.secret.write_cases 0 secret f <;> rw [is]
      · exact ⟨same, by split_ifs <;> exact inv.set i knows⟩
      · obtain ⟨inv', sound⟩ := inv.create first may
        exact ⟨sound, by split_ifs <;> exact inv'.set i (inv'.parts part among)⟩
      · obtain ⟨inv', sound⟩ := inv.create first may
        refine ⟨sound, inv'.set i fun v x base => ?_⟩
        obtain ⟨rfl, rfl⟩ : 1 = v ∧ secret = x := by simpa [tokenProtocol] using base
        refine ⟨?_, fun _ m none => by cases none⟩
        have newest := Versioned.atVersion_push_self (o := w.secret) (x := secret)
        rwa [← first] at newest
    | _ => exact ⟨same, inv.set i knows⟩
  | update version secret =>
    obtain ⟨s, base, turned⟩ := may
    cases c with
    | fate f =>
      simp only [tokenHandler]
      obtain is | ⟨latest, is | is⟩ := w.secret.write_cases version secret f <;> rw [is]
      · exact ⟨same, inv.set i knows⟩
      · obtain ⟨inv', sound⟩ := inv.push among base latest turned
        exact ⟨sound, inv'.set i (inv'.parts part among)⟩
      · obtain ⟨inv', sound⟩ := inv.push among base latest turned
        refine ⟨sound, inv'.set i fun v x base => ?_⟩
        obtain ⟨rfl, rfl⟩ : version + 1 = v ∧ secret = x := by simpa [tokenProtocol] using base
        exact ⟨latest ▸ Versioned.atVersion_push_self, fun _ m none => by cases none⟩
    | _ => exact ⟨same, inv.set i knows⟩

theorem TokenInv.start (inv : TokenInv names w parts) (name : String) :
    TokenInv names (w.start names name) parts ∧ RotationSound names w (w.start names name) := by
  unfold TokenWorld.start
  split
  · rename_i s current
    split_ifs with member
    · refine ⟨⟨inv.present, fun m p runs => ?_, fun m p runs => ?_, fun part among v x base => ?_⟩,
        .of_same rfl⟩
      · by_cases this : m = name
        · exact this ▸ member
        · exact inv.members m p (by simpa [update, this] using runs)
      · by_cases this : m = name
        · subst this
          obtain rfl : (⟨s.current, true⟩ : IMProcess) = p := by simpa using runs
          exact ⟨s, current, .inl rfl⟩
        · exact inv.tokens m p (by simpa [update, this] using runs)
      · obtain ⟨stored, held⟩ := inv.parts part among v x base
        refine ⟨stored, fun latest m accepted => ?_⟩
        by_cases this : m = name
        · subst this
          rw [latest, Versioned.atVersion_version, current] at stored
          exact ⟨⟨s.current, true⟩, by simp, congrArg TokenSecret.current (some.inj stored)⟩
        · obtain ⟨p, runs, token⟩ := held latest m accepted
          exact ⟨p, by simpa [update, this] using runs, token⟩
    · exact ⟨inv, .of_same rfl⟩
  · exact ⟨inv, .of_same rfl⟩

theorem TokenInv.stop (inv : TokenInv names w parts) (name : String) :
    TokenInv names (w.stop name) parts ∧ RotationSound names w (w.stop name) := by
  have before : ∀ m p, (w.stop name).managers m = some p → ∃ q, w.managers m = some q ∧
      q.token = p.token := by
    intro m p runs
    by_cases this : m = name
    · subst this
      obtain ⟨q, is, rfl⟩ : ∃ q, w.managers m = some q ∧ { q with running := false } = p := by
        simpa [TokenWorld.stop] using runs
      exact ⟨q, is, rfl⟩
    · exact ⟨p, by simpa [TokenWorld.stop, update, this] using runs, rfl⟩
  have after : ∀ m q, w.managers m = some q → ∃ p, (w.stop name).managers m = some p ∧
      p.token = q.token := by
    intro m q runs
    by_cases this : m = name
    · subst this
      exact ⟨{ q with running := false }, by simp [TokenWorld.stop, runs], rfl⟩
    · exact ⟨q, by simpa [TokenWorld.stop, update, this] using runs, rfl⟩
  refine ⟨⟨inv.present, fun m p runs => ?_, fun m p runs => ?_, fun part among v x base => ?_⟩,
    .of_same rfl⟩
  · obtain ⟨q, runs', -⟩ := before m p runs
    exact inv.members m q runs'
  · obtain ⟨q, runs', token⟩ := before m p runs
    exact token ▸ inv.tokens m q runs'
  · obtain ⟨stored, held⟩ := inv.parts part among v x base
    refine ⟨stored, fun latest m accepted => ?_⟩
    obtain ⟨q, runs, token⟩ := held latest m accepted
    obtain ⟨p, runs', token'⟩ := after m q runs
    exact ⟨p, runs', token'.trans token⟩

theorem legacy_inv (found : Option { t : Token // blank t = false }) :
    TokenInv names (TokenWorld.legacy names found) [] := by
  cases found with
  | none =>
    refine ⟨fun n s stored => ?_, fun m p runs => (by cases runs), fun m p runs => (by cases runs),
      fun part among => (by cases among)⟩
    cases n <;> cases stored
  | some t =>
    have only : ∀ m p, (TokenWorld.legacy names (some t)).managers m = some p → m ∈ names ∧
        p.token = t := by
      intro m p runs
      simp only [TokenWorld.legacy] at runs
      split_ifs at runs with member
      exact ⟨member, by cases runs; rfl⟩
    refine ⟨fun n s stored => ?_, fun m p runs => (only m p runs).1,
      fun m p runs => ⟨_, rfl, .inl (only m p runs).2⟩, fun part among => (by cases among)⟩
    match n, stored with
    | 1, stored =>
      cases stored
      exact t.2

end Invariant

section Runs

variable {checker : Bool} {names : List String} {pool : TokenPool}

def TokenSafe (names : List String) (pool : TokenPool) : Prop :=
  ∃ parts, Pool.Plays (tokenProtocol names) (fun _ _ => True) (TokenInv names) pool parts

theorem tokenSafe_step (e : TokenEvent) (safe : TokenSafe names pool) :
    TokenSafe names (tokenStep checker names pool e) ∧
      RotationSound names pool.world (tokenStep checker names pool e).world := by
  obtain ⟨parts, plays⟩ := safe
  cases e with
  | reconcile wanted =>
    refine ⟨⟨parts ++ [{}], plays.spawn (reconcileIMTokenSecret_follows checker wanted) ?_⟩,
      .of_same rfl⟩
    refine ⟨plays.holds.present, plays.holds.members, plays.holds.tokens, fun part among => ?_⟩
    rcases mem_append.mp among with before | last
    · exact plays.holds.parts part before
    · rw [mem_singleton.mp last]
      exact fun v s base => by cases base
  | act i c =>
    refine ⟨plays.act (h := fun _ => tokenHandler) (fun e w parts i part c inv here may => ?_) i c,
      ?_⟩
    · have kept := (tokenHandler_sound e c inv here may).2
      dsimp only
      generalize tokenHandler w e c = outcome at kept ⊢
      obtain ⟨w', _ | a⟩ := outcome <;> exact kept
    · exact plays.act_world (h := fun _ => tokenHandler) (fun w => .of_same rfl)
        (fun e w parts i part c inv here may => (tokenHandler_sound e c inv here may).1) i c
  | start name =>
    exact ⟨⟨parts, plays.follow, (plays.holds.start name).1⟩, (plays.holds.start name).2⟩
  | stop name => exact ⟨⟨parts, plays.follow, (plays.holds.stop name).1⟩, (plays.holds.stop name).2⟩

theorem tokenSafe_run (checker : Bool) (found : Option { t : Token // blank t = false })
    (events : List TokenEvent) : TokenSafe names (tokenRun checker names found events) :=
  runEvents_kept (TokenSafe names) (fun _ e safe => (tokenSafe_step e safe).1) events
    ⟨[], fun _ => .none, legacy_inv found⟩

theorem TokenSafe.called (safe : TokenSafe names pool) {m : String} {p : IMProcess}
    (runs : pool.world.managers m = some p) :
    p.token ∈ clusterTokens pool.world.secret.current := by
  obtain ⟨parts, plays⟩ := safe
  obtain ⟨s, current, holds⟩ := plays.holds.tokens m p runs
  have there : s.current ≠ "" :=
    ne_empty_of_present (plays.holds.present _ s (Versioned.atVersion_version _ ▸ current))
  rw [current]
  simp only [clusterTokens, there, if_false]
  split_ifs with kept
  · rcases holds with same | ⟨-, same⟩ <;> simp [same]
  · rcases holds with same | ⟨there', same⟩
    · simp [same]
    · simp only [not_and, not_not] at kept
      simp [same, kept there']

/-- The operator is never locked out: every running manager was started with a
    token it is called with. -/
theorem token_rotation_sound (checker : Bool) (names : List String)
    (found : Option { t : Token // blank t = false }) (events : List TokenEvent) :
    (∀ m p, (tokenRun checker names found events).world.managers m = some p → p.running = true →
      p.token ∈ clusterTokens (tokenRun checker names found events).world.secret.current) ∧
    ∀ e, RotationSound names (tokenRun checker names found events).world
      (tokenStep checker names (tokenRun checker names found events) e).world := by
  have safe : TokenSafe names (tokenRun checker names found events) :=
    tokenSafe_run checker found events
  exact ⟨fun m p runs _ => safe.called runs, fun e => (tokenSafe_step e safe).2⟩

def rotation : List TokenEvent :=
  [.reconcile "", .act 0 (.cached 0), .act 0 (.token ⟨"t1", rfl⟩), .act 0 (.fate .answered),
    .act 0 (.time 0),
    .act 0 (.fate .answered), .start "c-0",
    .reconcile "again", .act 1 (.cached 2), .act 1 (.token ⟨"t2", rfl⟩), .act 1 (.fate .answered),
    .act 1 (.time (seconds 10)), .act 1 (.fate .answered)]

def overlapEnd : List TokenEvent :=
  [.start "c-0", .reconcile "again", .act 2 (.cached 4), .act 2 (.pod (.found (some (seconds 20)))),
    .act 2 (.fate .answered), .act 2 (.fate .answered)]

example : clusterTokens (tokenRun true ["c-0"] none rotation).world.secret.current = ["t2", "t1"] ∧
    clusterTokens (tokenRun true ["c-0"] none (rotation ++ overlapEnd)).world.secret.current =
      ["t2"] := by
  decide +kernel

end Runs
end Controller
