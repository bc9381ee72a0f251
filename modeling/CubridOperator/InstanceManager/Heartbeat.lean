import CubridOperator.Foundation.Log
import CubridOperator.Foundation.Scan
import CubridOperator.InstanceManager.EffectKinds

/-!
What `cubrid heartbeat status` prints, how the manager reads it, and the two
observations that a start of heartbeat needs.
-/
namespace InstanceManager
open Foundation Program Scan List

def isBlank (c : Char) : Bool := c ∈ ['\t', '\n', Char.ofNat 12, '\r', ' ']

def isMark (c : Char) : Bool := !isBlank c

def isWord (c : Char) : Bool := isLetter c ∨ isDigit c ∨ c = '_'

def lit (s : String) : Piece := .literal s.toList

def afterColon (w : Text) : Option (List Text) :=
  let path := ((w.drop 1).dropWhile (· ≠ ':')).drop 1
  if path = [] then none else some [path]

def reCurrent : List Piece :=
  [lit "HA-Node Info (current ", take (· ≠ ','), lit ", state ", take isWord, lit ")"]

def reNode : List Piece :=
  [lit "Node ", take isMark, lit " (priority ", take isDigit, lit ", state ", take isWord, lit ")"]

def reServer : List Piece :=
  [lit "Server ", skip isMark, lit " (pid ", skip isDigit, lit ", state ", take isWord, lit ")"]

def reApplier : List Piece :=
  [lit "Applylogdb ", .run isMark afterColon, lit " (pid ", take isDigit, lit ", state ",
    skip isWord, lit ")"]

def heartbeatHeader : List Piece :=
  [lit "HA-Node Info (current ", skip (· ≠ ','), lit ", state ", take (· ≠ ')'), lit ")"]

def atoiSafe (digits : Text) : Int :=
  ((digits.takeWhile isDigit).foldl (fun n c => n * 10 + .ofNat 64 (c.toNat - '0'.toNat))
    (0 : BitVec 64)).toInt

structure HANode where
  name : Text
  priority : Int
  state : Text
  deriving DecidableEq

structure ApplierProcess where
  logPath : Text
  pid : Int
  deriving DecidableEq

structure HeartbeatStatus where
  current : Text := []
  role : Role := .unknown
  serverActive : Bool := false
  nodes : List HANode := []
  appliers : List ApplierProcess := []
  reason : String := ""
  deriving DecidableEq

def listedNodes (out : Text) : List HANode :=
  (findAll reNode out).filterMap fun
    | [name, priority, state] => some ⟨name, atoiSafe priority, state⟩
    | _ => none

def listedAppliers (out : Text) : List ApplierProcess :=
  (findAll reApplier out).filterMap fun
    | [path, pid] => some ⟨path, atoiSafe pid⟩
    | _ => none

/-- Why the node list does not confirm the header's state of the local node. -/
def localNodeMismatch (current state : Text) (nodes : List HANode) : Option String :=
  match nodes.filter (·.name = current) with
  | [] => some ("the node list does not contain the current node '" ++ String.ofList current ++ "'")
  | [node] =>
    if node.state ≠ state then
      some ("the node list gives the current node '" ++ String.ofList current ++ "' state '" ++
        String.ofList node.state ++
        "', the header '" ++ String.ofList state ++ "'")
    else none
  | _ =>
    some ("the node list contains the current node '" ++ String.ofList current ++
      "' more than once")

def roleOfState (state : Text) : Role :=
  if state = "master".toList then .master
  else if state = "slave".toList then .slave
  else if state = "replica".toList then .replica
  else .unknown

/-- A role only when the header's state is one and the node list confirms it. -/
def parseHAStatus (out : Text) : HeartbeatStatus :=
  match find reCurrent out with
  | some [name, state] =>
    let current := Text.trimSpace name
    let nodes := listedNodes out
    let s : HeartbeatStatus :=
      { current := current, nodes := nodes, appliers := listedAppliers out,
        serverActive := find reServer out = some ["registered_and_active".toList] }
    match roleOfState state with
    | .unknown =>
      { s with
        reason := "current node state '" ++ String.ofList state ++
          "' is not an authoritative role" }
    | role =>
      match localNodeMismatch current state nodes with
      | some reason => { s with reason := reason }
      | none => { s with role := role }
  | _ => { reason := "no HA-Node Info line (heartbeat not running or empty output)" }

def nodeLine (s : Text) : Bool :=
  (read [lit "Node ", skip isMark, lit " (priority"] (s.dropWhile isBlank)).isSome

def heartbeatReport (out : Text) : Bool :=
  "HA-Node Info".toList <:+: out ∨ anyLine nodeLine true out

inductive RunError where
  | exited (text : String)
  | broken (text : String)
  | unread (text : String)
  deriving DecidableEq

def RunError.text : RunError → String
  | .exited text | .broken text | .unread text => text

def RunError.answered : RunError → Bool
  | .exited _ => true
  | _ => false

structure StatusRun where
  out : Text
  error : Option RunError := none
  ended : Option String := none
  deriving DecidableEq

inductive HeartbeatEffect where
  | status
  | processes
  | settle

abbrev HeartbeatEffect.Ans : HeartbeatEffect → Type
  | .status => StatusRun
  | .processes => Except String (List String)
  | .settle => Option String

abbrev HeartbeatM := Program HeartbeatEffect HeartbeatEffect.Ans

def observe (e : HeartbeatEffect) : HeartbeatM e.Ans := Program.ask e

def runningReason (out : Text) : String :=
  let status := parseHAStatus out
  let seen := match find heartbeatHeader out with
    | some [state] => "heartbeat reports the current node in state '" ++ String.ofList state ++ "'"
    | _ => "heartbeat prints HA node information without a readable state of the current node"
  if status.role = .unknown ∧ (find reCurrent out).isSome then
    seen ++ " (" ++ status.reason ++ ")" else seen

def observeHeartbeat : HeartbeatM HeartbeatObservation := do
  let run ← observe .status
  if heartbeatReport run.out then
    pure { startable := false, running := true
           confirmedRole := (parseHAStatus run.out).role ≠ .unknown
           reason := runningReason run.out }
  else if !run.error.all RunError.answered ∨ run.ended.isSome then
    let why := match run.error with
      | some e => e.text
      | none => run.ended.getD ""
    pure { startable := false, reason := "heartbeat status did not answer: " ++ why }
  else pure { startable := true }

def heartbeatVeto : List String := ["cub_master", "cub_server", "cub_pl"]

def observeQuiet : HeartbeatM HeartbeatObservation := do
  let hb ← observeHeartbeat
  if !hb.startable then pure hb
  else
    match ← observe .processes with
    | .error e => pure { startable := false, reason := "the process list could not be read: " ++ e }
    | .ok running =>
      match heartbeatVeto.find? (· ∈ running) with
      | some name =>
        pure { startable := false,
               reason := "heartbeat status printed no HA node information, but " ++ name ++
                 " runs: a start or a stop may be under way" }
      | none => pure hb

def observeStartable : HeartbeatM HeartbeatObservation := do
  let hb ← observeQuiet
  if !hb.startable then pure hb
  else
    match ← observe .settle with
    | some e =>
      pure { startable := false
             reason := "the wait between two heartbeat status calls ended: " ++ e }
    | none => observeQuiet

section Reading

variable {out : Text}

def NodeLine (out : Text) : Prop :=
  ∃ front blanks name rest,
    out = front ++ (blanks ++ ("Node ".toList ++ (name ++ (" (priority".toList ++ rest)))) ∧
    (front = [] ∨ front.getLast? = some '\n') ∧ (∀ c ∈ blanks, isBlank c = true) ∧ name ≠ [] ∧
    ∀ c ∈ name, isMark c = true

/-- The header gives a role, and the node list carries the current node exactly
    once, in that state. -/
def Confirmed (out : Text) : Prop :=
  ∃ name state, find reCurrent out = some [name, state] ∧
    state ∈ ["master".toList, "slave".toList, "replica".toList] ∧
    ((listedNodes out).filter (·.name = Text.trimSpace name)).map (·.state) = [state]

theorem nodeLine_of {blanks name rest : Text} (white : ∀ c ∈ blanks, isBlank c = true)
    (some_ : name ≠ []) (marks : ∀ c ∈ name, isMark c = true) :
    nodeLine (blanks ++ ("Node ".toList ++ (name ++ (" (priority".toList ++ rest)))) = true := by
  have skipped :
      (blanks ++ ("Node ".toList ++ (name ++ (" (priority".toList ++ rest)))).dropWhile isBlank =
      "Node ".toList ++ (name ++ (" (priority".toList ++ rest)) := by
    rw [dropWhile_append_of_pos white]
    rfl
  rw [nodeLine, skipped, lit, read_literal, read_skip some_ marks ?_, lit]
  · rw [← append_nil rest, read_literal]
    rfl
  · intro c first
    obtain rfl : c = ' ' := by simpa using first.symm
    decide

theorem heartbeatReport_of_header (header : "HA-Node Info".toList <:+: out) :
    heartbeatReport out = true :=
  decide_eq_true (.inl header)

theorem heartbeatReport_of_nodeLine (line : NodeLine out) : heartbeatReport out = true := by
  obtain ⟨front, blanks, name, rest, rfl, begins, white, some_, marks⟩ := line
  have here : nodeLine (blanks ++ ("Node ".toList ++ (name ++ (" (priority".toList ++ rest)))) =
      true :=
    nodeLine_of white some_ marks
  refine decide_eq_true (.inr (anyLine_iff.mpr ?_))
  rcases begins with rfl | newline
  · exact .inl ⟨rfl, here⟩
  · obtain ⟨front, rfl⟩ : ∃ before, front = before ++ ['\n'] :=
      ⟨_, (dropLast_append_getLast? '\n' newline).symm⟩
    exact .inr ⟨front, _, by simp, here⟩

theorem heartbeatReport_of_role (role : (parseHAStatus out).role ≠ .unknown) :
    heartbeatReport out = true := by
  unfold parseHAStatus at role
  split at role
  · rename_i found
    have header : "HA-Node Info (current ".toList <:+: out := literal_within found
    have start : "HA-Node Info".toList <+: "HA-Node Info (current ".toList := by decide
    exact heartbeatReport_of_header (start.isInfix.trans header)
  · exact absurd rfl role

theorem confirmed_of_role (role : (parseHAStatus out).role ≠ .unknown) : Confirmed out := by
  unfold parseHAStatus at role
  split at role
  · rename_i name state found
    dsimp only at role
    split at role
    · exact absurd rfl role
    · rename_i known
      split at role
      · exact absurd rfl role
      · rename_i matched
        refine ⟨name, state, found, ?_, ?_⟩
        · unfold roleOfState at known
          split_ifs at known with master slave replica
          · simp [master]
          · simp [slave]
          · simp [replica]
          · exact absurd rfl known
        · unfold localNodeMismatch at matched
          split at matched
          · cases matched
          · rename_i node single
            split_ifs at matched with differs
            rw [single]
            simpa using differs
          · cases matched
  · exact absurd rfl role

end Reading

inductive HeartbeatEntry where
  | status (time : Nat) (run : StatusRun)
  | processes (time : Nat) (table : Except String (List String))
  | started (time : Nat) (cmd : StartCommand)
  | completed

structure HeartbeatWatch where
  now : Nat := 0
  log : List HeartbeatEntry := []

structure LookChoice where
  took : Nat := 0
  run : StatusRun := { out := [] }
  processes : Except String (List String) := .ok []
  ended : Option String := none

/-- The wait lasts at least the settle time unless its context ends it. -/
def lookHandler (settle : Nat) :
    Handler HeartbeatEffect HeartbeatEffect.Ans HeartbeatWatch LookChoice := fun w e c =>
  match e with
  | .status =>
    ({ now := w.now + c.took, log := .status (w.now + c.took) c.run :: w.log }, some c.run)
  | .processes =>
    ({ now := w.now + c.took, log := .processes (w.now + c.took) c.processes :: w.log },
      some c.processes)
  | .settle =>
    match c.ended with
    | some e => ({ w with now := w.now + c.took }, some (some e))
    | none => ({ w with now := w.now + settle + c.took }, some none)

structure StartChoice where
  looks : List LookChoice := []
  failure : Option String := none
  other : (e : ManagerEffect) → Option e.Ans := fun _ => none

def startHandler (settle : Nat) :
    Handler ManagerEffect ManagerEffect.Ans HeartbeatWatch StartChoice := fun w e c =>
  match e with
  | .observeStartable => observeStartable.run (lookHandler settle) w c.looks
  | .start cmd =>
    ({ w with log := .started w.now cmd :: w.log },
      some (match c.failure with | some e => .error e | none => .ok ()))
  | .store (.settle id (.completed artifact)) =>
    ({ w with log := .completed :: w.log }, c.other (.store (.settle id (.completed artifact))))
  | e => (w, c.other e)

def ManagerEffect.aside : ManagerEffect → Bool
  | .observeStartable | .start _ | .store (.settle _ (.completed _)) => false
  | _ => true

theorem startHandler_aside {settle : Nat} {e : ManagerEffect} (aside : e.aside = true)
    (w : HeartbeatWatch) (c : StartChoice) : startHandler settle w e c = (w, c.other e) := by
  cases e with
  | observeStartable | start => cases aside
  | store call =>
    cases call with
    | settle id how =>
      cases how with
      | completed artifact => cases aside
      | failed reason => rfl
    | _ => rfl
  | _ => rfl

/-- An observation that allows a start: the status was read to its end, shows
    nothing of HA, and none of the processes runs. -/
structure Quiet (run : StatusRun) (table : Except String (List String)) : Prop where
  exited : run.error = none ∨ ∃ text, run.error = some (.exited text)
  unended : run.ended = none
  header : ¬ "HA-Node Info".toList <:+: run.out
  line : ¬ NodeLine run.out
  role : (parseHAStatus run.out).role = .unknown
  absent : ∃ names, table = .ok names ∧ ∀ name ∈ heartbeatVeto, name ∉ names

def QuietTwice (settle : Nat) (past : List HeartbeatEntry) : Prop :=
  ∃ t₁ r₁ t₂ p₁ t₃ r₂ t₄ p₂ rest,
    past = .processes t₄ p₂ :: .status t₃ r₂ :: .processes t₂ p₁ :: .status t₁ r₁ :: rest ∧
    Quiet r₁ p₁ ∧ Quiet r₂ p₂ ∧ t₂ + settle ≤ t₃

def Joined (past : List HeartbeatEntry) : Prop :=
  ∃ t r rest, past = .status t r :: rest ∧ Confirmed r.out

def HasStart (past : List HeartbeatEntry) : Prop :=
  ∃ t database, .started t (.heartbeatStart database) ∈ past

def HeartbeatEntry.Holds (settle : Nat) : HeartbeatEntry → List HeartbeatEntry → Prop
  | .status _ _, past | .processes _ _, past => ¬ HasStart past
  | .started _ (.heartbeatStart _), past => QuietTwice settle past ∧ ¬ HasStart past
  | .started _ (.serverStart _), _ => True
  | .completed, past => Joined past ∨ HasStart past

section Observed

variable {settle : Nat}

def HeartbeatEntry.isLook : HeartbeatEntry → Bool
  | .status _ _ | .processes _ _ => true
  | _ => false

def Looked (w w' : HeartbeatWatch) : Prop :=
  ∃ new, w'.log = new ++ w.log ∧ (∀ e ∈ new, e.isLook = true) ∧ w.now ≤ w'.now

theorem Looked.refl (w : HeartbeatWatch) : Looked w w := ⟨[], rfl, by simp, Nat.le_refl _⟩

theorem Looked.trans {w₁ w₂ w₃ : HeartbeatWatch} (first : Looked w₁ w₂) (second : Looked w₂ w₃) :
    Looked w₁ w₃ := by
  obtain ⟨new, log, looks, later⟩ := first
  obtain ⟨new', log', looks', later'⟩ := second
  refine ⟨new' ++ new, by rw [log', log, append_assoc], ?_, by omega⟩
  intro e member
  rcases mem_append.mp member with member | member
  · exact looks' e member
  · exact looks e member

def SawQuiet (w w' : HeartbeatWatch) : Prop :=
  ∃ t₁ r t₂ p, w'.log = .processes t₂ p :: .status t₁ r :: w.log ∧ Quiet r p ∧
    w.now ≤ t₁ ∧ t₂ ≤ w'.now

def SawRole (w w' : HeartbeatWatch) : Prop := ∃ t r, w'.log = .status t r :: w.log ∧ Confirmed r.out

theorem looked_note {w : HeartbeatWatch} {t : Nat} {e : HeartbeatEntry} (look : e.isLook = true)
    (later : w.now ≤ t) : Looked w { now := t, log := e :: w.log } :=
  ⟨[e], rfl, by simpa using look, later⟩

theorem observeHeartbeat_spec (w : HeartbeatWatch) :
    observeHeartbeat.Ensures (lookHandler settle) (Looked w) (fun hb w' =>
      ∃ run, w'.log = .status w'.now run :: w.log ∧ w.now ≤ w'.now ∧
        (hb.startable = true → heartbeatReport run.out = false ∧
          (run.error = none ∨ ∃ text, run.error = some (.exited text)) ∧ run.ended = none) ∧
        (hb.startable = false → hb.running = true → hb.confirmedRole = true → Confirmed run.out))
        w := by
  refine ⟨Looked.refl w, fun c => ?_⟩
  change Ensures _ _ (if heartbeatReport c.run.out then _ else _) _ _
  have later : w.now ≤ w.now + c.took := Nat.le_add_right _ _
  split_ifs with report unanswered
  · refine ⟨c.run, rfl, later, by simp, fun _ _ confirmed => ?_⟩
    exact confirmed_of_role (by simpa using confirmed)
  · exact ⟨c.run, rfl, later, by simp, by simp⟩
  · refine ⟨c.run, rfl, later, fun _ => ⟨by simpa using report, ?_, ?_⟩, by simp⟩
    · cases error : c.run.error with
      | none => exact .inl rfl
      | some e =>
        rw [error] at unanswered
        cases e with
        | exited text => exact .inr ⟨text, rfl⟩
        | broken | unread => exact absurd (.inl rfl) unanswered
    · cases ended : c.run.ended with
      | none => rfl
      | some e => exact absurd (.inr (by rw [ended]; rfl)) unanswered

theorem quiet_of_report {run : StatusRun} {names : List String}
    (silent : heartbeatReport run.out = false)
    (exited : run.error = none ∨ ∃ text, run.error = some (.exited text))
    (unended : run.ended = none) (absent : heartbeatVeto.find? (· ∈ names) = none) :
    Quiet run (.ok names) where
  exited := exited
  unended := unended
  header := by
    intro header
    rw [heartbeatReport_of_header header] at silent
    cases silent
  line := by
    intro line
    rw [heartbeatReport_of_nodeLine line] at silent
    cases silent
  role := by
    by_contra role
    rw [heartbeatReport_of_role role] at silent
    cases silent
  absent := by
    refine ⟨names, rfl, fun name member => ?_⟩
    simpa using find?_eq_none.mp absent name member

theorem observeQuiet_spec (w : HeartbeatWatch) :
    observeQuiet.Ensures (lookHandler settle) (Looked w) (fun hb w' => Looked w w' ∧
      (hb.startable = true → SawQuiet w w') ∧
      (hb.startable = false → hb.running = true → hb.confirmedRole = true → SawRole w w')) w := by
  refine (observeHeartbeat_spec w).bind fun hb w₁ seen => ?_
  obtain ⟨run, log, later, quiet, confirmed⟩ := seen
  have looked : Looked w w₁ := ⟨[.status w₁.now run], log, by simp [HeartbeatEntry.isLook], later⟩
  cases startable : hb.startable with
  | false =>
    refine ⟨looked, by simp [startable], fun _ running role => ?_⟩
    exact ⟨w₁.now, run, log, confirmed startable running role⟩
  | true =>
    refine ⟨looked, fun c => ?_⟩
    obtain ⟨silent, exited, unended⟩ := quiet startable
    have later' : w₁.now ≤ w₁.now + c.took := Nat.le_add_right _ _
    have looked' :=
      looked.trans (looked_note (e := .processes (w₁.now + c.took) c.processes) rfl later')
    dsimp only [lookHandler]
    cases table : c.processes with
    | error e => exact ⟨table ▸ looked', by simp, by simp⟩
    | ok names =>
      simp only [Program.bind]
      split
      · exact ⟨table ▸ looked', by simp, by simp⟩
      · rename_i absent
        refine ⟨table ▸ looked', fun _ => ?_, by simp [startable]⟩
        exact ⟨w₁.now, run, w₁.now + c.took,
          .ok names, by rw [log], quiet_of_report silent exited unended absent, later,
          Nat.le_refl _⟩

theorem observeStartable_spec (w : HeartbeatWatch) :
    observeStartable.Ensures (lookHandler settle) (Looked w) (fun hb w' => Looked w w' ∧
      (hb.startable = true → QuietTwice settle w'.log) ∧
      (hb.startable = false → hb.running = true → hb.confirmedRole = true → Joined w'.log)) w := by
  refine (observeQuiet_spec w).bind fun hb w₁ ⟨looked, quiet, role⟩ => ?_
  cases startable : hb.startable with
  | false =>
    refine ⟨looked, by simp [startable], fun _ running confirmed => ?_⟩
    obtain ⟨t, r, log, is⟩ := role startable running confirmed
    exact ⟨t, r, w.log, log, is⟩
  | true =>
    obtain ⟨t₁, r₁, t₂, p₁, log, first, -, upto⟩ := quiet startable
    refine ⟨looked, fun c => ?_⟩
    dsimp only [lookHandler]
    cases ended : c.ended with
    | some e =>
      have waited : Looked w { w₁ with now := w₁.now + c.took } :=
        looked.trans ⟨[], rfl, by simp, Nat.le_add_right _ _⟩
      exact ⟨waited, by simp, by simp⟩
    | none =>
      have waited : Looked w { w₁ with now := w₁.now + settle + c.took } :=
        looked.trans ⟨[], rfl, by simp, by dsimp only; omega⟩
      refine ((observeQuiet_spec _).weaken fun _ again => waited.trans again).mono
        fun hb w₂ ⟨again, quiet', role'⟩ => ?_
      refine ⟨waited.trans again, fun able => ?_, fun unable running confirmed => ?_⟩
      · obtain ⟨t₃, r₂, t₄, p₂, log', second, from_, -⟩ := quiet' able
        refine ⟨t₁, r₁, t₂, p₁, t₃, r₂, t₄, p₂, w.log, by rw [log', log], first, second, ?_⟩
        dsimp only at from_
        omega
      · obtain ⟨t, r, log', is⟩ := role' unable running confirmed
        exact ⟨t, r, _, log', is⟩

end Observed

section Operations

variable {settle : Nat} {cfg : Config} {database : String} {id : OperationID}
  {w w' : HeartbeatWatch}

theorem aside_spec {α : Type} {p : ManagerM α} (aside : p.Only fun e => e.aside = true)
    {crash : HeartbeatWatch → Prop} (here : crash w) :
    p.Ensures (startHandler settle) crash (fun _ w' => w' = w) w :=
  aside.ensures (fun e c quiet => by rw [startHandler_aside quiet]) here

theorem volume_aside {α : Type} {p : ManagerM α} (uses : Uses [.volume] p) :
    p.Only fun e => e.aside = true := by
  refine Only.mono uses fun e among => ?_
  cases e with
  | life e => cases e <;> simp [ManagerEffect.kind] at among
  | _ => first | rfl | simp [ManagerEffect.kind] at among

theorem manage_aside {e : ManagerEffect} (aside : e.aside = true) :
    (manage e).Only fun e => e.aside = true :=
  only_ask aside

theorem markedOperation_aside (marker : Marker) :
    (markedOperation marker).Only fun e => e.aside = true := by
  unfold markedOperation
  split
  · exact only_pure _
  · refine Only.bind (manage_aside rfl) fun reply => ?_
    split <;> exact only_pure _

theorem reclaimIncomplete_aside :
    (reclaimIncomplete cfg database).Only fun e => e.aside = true := by
  unfold reclaimIncomplete removeTomb removeUnfinished
  with_reducible repeat' first
    | exact only_pure _
    | exact markedOperation_aside _
    | exact volume_aside (unregisterDatabaseLocked_uses _)
    | exact volume_aside clearOwned_uses
    | refine Only.bind ?_ fun _ => ?_ | exact manage_aside (by with_unfolding_all rfl) | split

theorem enter_aside (state : RunningState) : (enter id state).Only fun e => e.aside = true := by
  refine Only.bind (manage_aside rfl) fun reply => ?_
  split <;> exact only_pure _

theorem fail_aside (reason : String) : (fail id reason).Only fun e => e.aside = true := by
  unfold fail stoppingReason
  with_reducible repeat' first
    | exact only_pure _
    | refine Only.bind ?_ fun _ => ?_ | exact manage_aside (by with_unfolding_all rfl) | split

theorem createHADatabase_aside :
    (createHADatabase cfg database id).Only fun e => e.aside = true := by
  unfold createHADatabase
  with_reducible repeat' first
    | exact only_pure _
    | exact volume_aside markOwned_uses
    | exact volume_aside clearOwned_uses
    | exact volume_aside registeredInDatabasesTxt_uses
    | refine Only.bind ?_ fun _ => ?_ | exact manage_aside (by with_unfolding_all rfl) | split

theorem honorRecordedStop_aside : honorRecordedStop.Only fun e => e.aside = true := by
  unfold honorRecordedStop
  with_reducible repeat' first
    | exact only_pure _
    | refine Only.bind ?_ fun _ => ?_ | exact manage_aside (by with_unfolding_all rfl) | split

def Sound (settle : Nat) (w : HeartbeatWatch) : Prop :=
  Justified (HeartbeatEntry.Holds settle) w.log

theorem sound_looked (sound : Sound settle w) (unstarted : ¬ HasStart w.log)
    (looked : Looked w w') : Sound settle w' ∧ ¬ HasStart w'.log := by
  obtain ⟨new, log, looks, -⟩ := looked
  rw [Sound, log]
  clear log
  induction new with
  | nil => exact ⟨sound, unstarted⟩
  | cons e new ih =>
    obtain ⟨before, none⟩ := ih fun e member => looks e (mem_cons_of_mem _ member)
    have look := looks e mem_cons_self
    have still : ¬ HasStart (e :: (new ++ w.log)) := by
      rintro ⟨t, database, _ | ⟨_, member⟩⟩
      · cases look
      · exact none ⟨t, database, member⟩
    cases e with
    | status | processes => exact ⟨⟨none, before⟩, still⟩
    | started | completed => cases look

theorem activate_spec (sound : Sound settle w) (unstarted : ¬ HasStart w.log)
    (quiet : QuietTwice settle w.log) :
    (activate (.heartbeatStart database)).Ensures (startHandler settle) (Sound settle)
      (fun r w' => Sound settle w' ∧ (r = .ok () → HasStart w'.log)) w := by
  refine (aside_spec honorRecordedStop_aside sound).bind fun stopped w₁ same => ?_
  subst same
  cases stopped with
  | true => exact ⟨sound, by simp⟩
  | false =>
    refine (aside_spec (manage_aside rfl) sound).bind fun stopping w₂ same => ?_
    subst same
    cases stopping with
    | true => exact ⟨sound, by simp⟩
    | false =>
      exact ⟨sound, fun c => ⟨⟨⟨quiet, unstarted⟩, sound⟩, fun _ => ⟨_, database, mem_cons_self⟩⟩⟩

/-- The rule that the HA bootstrap and the start of a restored database share. -/
theorem joinHeartbeat_watched {before : ManagerM (Except String Unit)}
    (aside : before.Only fun e => e.aside = true) (sound : Sound settle w)
    (unstarted : ¬ HasStart w.log) :
    (joinHeartbeat database before).Ensures (startHandler settle) (Sound settle)
      (fun r w' => Sound settle w' ∧ (r = .ok () → Joined w'.log ∨ HasStart w'.log)) w := by
  have observed : (manage .observeStartable).Ensures (startHandler settle) (Sound settle)
      (fun hb w' => Looked w w' ∧ (hb.startable = true → QuietTwice settle w'.log) ∧
      (hb.startable = false → hb.running = true → hb.confirmedRole = true → Joined w'.log)) w := by
    refine ⟨sound, fun c => ?_⟩
    have spec : observeStartable.Ensures (lookHandler settle) _ _ w := observeStartable_spec w
    have ran := run_ensures spec c.looks
    have answer : startHandler settle w .observeStartable c = observeStartable.run
        (lookHandler settle) w c.looks := rfl
    rw [← answer] at ran
    generalize startHandler settle w .observeStartable c = outcome at ran ⊢
    obtain ⟨w', _ | hb⟩ := outcome
    · exact (sound_looked sound unstarted ran).1
    · exact ran
  refine observed.bind fun hb w₁ ⟨looked, quiet, joined⟩ => ?_
  obtain ⟨sound₁, unstarted₁⟩ := sound_looked sound unstarted looked
  split
  · exact ⟨sound₁, by simp⟩
  · rename_i fine
    cases startable : hb.startable with
    | false =>
      refine ⟨sound₁, fun _ => .inl ?_⟩
      unfold HeartbeatObservation.startError at fine
      split_ifs at fine with silent unknown
      have running : hb.running = true := by simpa [startable] using silent
      exact joined startable running (by simpa [running] using unknown)
    | true =>
      simp only [if_true]
      refine (aside_spec aside sound₁).bind fun recorded w₂ same => ?_
      subst same
      split
      · exact ⟨sound₁, by simp⟩
      · refine (activate_spec sound₁ unstarted₁ (quiet startable)).bind
          fun started w₃ ⟨sound₃, start⟩ => ?_
        split
        · exact ⟨sound₃, by simp⟩
        · exact ⟨sound₃, fun _ => .inr (start rfl)⟩

theorem completeBootstrap_watched (sound : Sound settle w) (unstarted : ¬ HasStart w.log) :
    (completeBootstrap id database).Ensures (startHandler settle) (Sound settle)
    (fun _ w' => Sound settle w') w := by
  refine (joinHeartbeat_watched (enter_aside _) sound unstarted).bind
    fun r w₁ ⟨sound₁, joined⟩ => ?_
  split
  · exact (aside_spec (fail_aside _) sound₁).mono fun _ _ same => same ▸ sound₁
  · exact (aside_spec (fail_aside _) sound₁).mono fun _ _ same => same ▸ sound₁
  · refine ⟨sound₁, fun c => ?_⟩
    have sound₂ : Sound settle { w₁ with log := .completed :: w₁.log } := ⟨joined rfl, sound₁⟩
    dsimp only [startHandler]
    cases c.other (.store (.settle id (.completed none))) <;> exact sound₂

theorem runHABootstrap_watched (sound : Sound settle w) (unstarted : ¬ HasStart w.log) :
    (runHABootstrap cfg id database).Ensures (startHandler settle) (Sound settle)
    (fun _ w' => Sound settle w') w := by
  have failed : ∀ reason, (fail id reason).Ensures (startHandler settle) (Sound settle)
      (fun _ w' => Sound settle w') w :=
    fun reason => (aside_spec (fail_aside reason) sound).mono fun _ _ same => same ▸ sound
  have complete : (completeBootstrap id database).Ensures (startHandler settle)
      (Sound settle) _ w :=
    completeBootstrap_watched sound unstarted
  unfold runHABootstrap
  refine (aside_spec reclaimIncomplete_aside sound).bind fun reclaimed w₁ same => ?_
  subst same
  split
  · exact failed _
  · refine (aside_spec (volume_aside registeredInDatabasesTxt_uses) sound).bind
      fun registered w₂ same => ?_
    subst same
    split
    · exact failed _
    · exact complete
    · refine (aside_spec (enter_aside _) sound).bind fun entered w₃ same => ?_
      subst same
      split
      · exact failed _
      · refine (aside_spec createHADatabase_aside sound).bind fun created w₄ same => ?_
        subst same
        split
        · exact failed _
        · exact complete

theorem startRestoredDatabase_watched (ha : cfg.standaloneDB = "") (owner : Option OperationID)
    (sound : Sound settle w) (unstarted : ¬ HasStart w.log) :
    (startRestoredDatabase cfg database (recordStarting owner)).Ensures (startHandler settle)
    (Sound settle)
      (fun r w' => Sound settle w' ∧ (r = .ok () → Joined w'.log ∨ HasStart w'.log)) w := by
  have aside : (recordStarting owner).Only fun e => e.aside = true := by
    cases owner
    · exact only_pure _
    · exact enter_aside _
  unfold startRestoredDatabase
  split
  · exact ⟨sound, by simp⟩
  · rw [if_neg (by simp [ha])]
    exact joinHeartbeat_watched aside sound unstarted

def StartedQuietly (settle : Nat) (log : List HeartbeatEntry) : Prop :=
  ∀ later t database earlier, log = later ++ .started t (.heartbeatStart database) :: earlier →
    QuietTwice settle earlier ∧ ¬ HasStart earlier ∧ ¬ HasStart later ∧ ∀ e ∈ later,
    e.isLook = false

theorem Sound.startedQuietly (sound : Sound settle w) : StartedQuietly settle w.log := by
  intro later t database earlier split
  have here : .started t (.heartbeatStart database) :: earlier <:+ w.log := ⟨later, split.symm⟩
  obtain ⟨quiet, first⟩ := (Justified.suffix sound here).1
  -- Any entry after the start has it in its past.
  have after : ∀ e ∈ later, ∃ past, e.Holds settle past ∧ HasStart past := by
    intro e member
    obtain ⟨front, between, rfl⟩ := append_of_mem member
    have suffix : e :: (between ++ .started t (.heartbeatStart database) :: earlier) <:+ w.log :=
      ⟨front, by rw [split]; simp⟩
    exact ⟨_, (Justified.suffix sound suffix).1, t, database, by simp⟩
  refine ⟨quiet, first, ?_, fun e member => ?_⟩
  · rintro ⟨t', database', member⟩
    obtain ⟨past, holds, start⟩ := after _ member
    exact holds.2 start
  · obtain ⟨past, holds, start⟩ := after e member
    cases e with
    | status | processes => exact absurd start holds
    | started | completed => rfl

/-- One HA bootstrap or start of a restored HA member starts heartbeat at most
    once, after two last observations that are quiet and the settle time apart;
    without a start they count as joined only where the last observation
    confirms the role. -/
theorem heartbeat_started_once_when_quiet (cfg : Config) (settle : Nat) :
    (∀ id database choices,
      let log := ((runHABootstrap cfg id database).run (startHandler settle) {} choices).1.log
      StartedQuietly settle log ∧
        ∀ later earlier, log = later ++ .completed :: earlier → Joined earlier ∨ HasStart earlier) ∧
    ∀ owner database choices, cfg.standaloneDB = "" →
      let outcome := (startRestoredDatabase cfg database (recordStarting owner)).run
        (startHandler settle) {} choices
      StartedQuietly settle outcome.1.log ∧
        (outcome.2 = some (.ok ()) → Joined outcome.1.log ∨ HasStart outcome.1.log) := by
  have sound : Sound settle {} := trivial
  have unstarted : ¬ HasStart ({} : HeartbeatWatch).log := by
    rintro ⟨t, database, member⟩
    cases member
  constructor
  · intro id database choices log
    have spec : (runHABootstrap cfg id database).Ensures (startHandler settle)
        (Sound settle) _ {} :=
      runHABootstrap_watched sound unstarted
    have ran := run_ensures spec choices
    have holds : Sound settle ((runHABootstrap cfg id database).run (startHandler settle)
        {} choices).1 := by
      generalize (runHABootstrap cfg id database).run (startHandler settle)
        {} choices = outcome at ran ⊢
      obtain ⟨w, _ | value⟩ := outcome <;> exact ran
    refine ⟨holds.startedQuietly, fun later earlier split => ?_⟩
    exact (Justified.suffix holds ⟨later, split.symm⟩).1
  · intro owner database choices ha
    have spec : (startRestoredDatabase cfg database (recordStarting owner)).Ensures
        (startHandler settle) (Sound settle) _ {} :=
      startRestoredDatabase_watched ha owner sound unstarted
    have ran := run_ensures spec choices
    generalize (startRestoredDatabase cfg database (recordStarting owner)).run (startHandler settle)
      {} choices = outcome at ran ⊢
    obtain ⟨w, _ | value⟩ := outcome
    · exact ⟨Sound.startedQuietly ran, by simp⟩
    · exact ⟨ran.1.startedQuietly, fun done => ran.2 (Option.some.inj done)⟩

def quietMember : Config := { target := "/db", staging := "/restore" }

def quietRestart : List StartChoice :=
  let nothing : StartChoice :=
    { looks := List.replicate 5 {}
      other := fun
        | .lookStop => some .missing
        | .isStopping => some false
        | _ => none }
  List.replicate 4 nothing

theorem quiet_restart_starts_heartbeat :
    let outcome := (startRestoredDatabase quietMember "appdb" (recordStarting none)).run
      (startHandler 2000) {} quietRestart
    outcome.2 = some (.ok ()) ∧ StartedQuietly 2000 outcome.1.log ∧
    (Joined outcome.1.log ∨ HasStart outcome.1.log) := by
  intro outcome
  have started : outcome.2 = some (.ok ()) := rfl
  obtain ⟨quietly, joined⟩ :=
    (heartbeat_started_once_when_quiet quietMember 2000).2 none "appdb" quietRestart rfl
  exact ⟨started, quietly, joined started⟩

end Operations

end InstanceManager
