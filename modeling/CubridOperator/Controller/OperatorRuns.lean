import CubridOperator.Controller.Operator

/-!
Reconciles that keep to the rules leave a log in which each entry is justified,
whatever the interleaving.
-/
namespace Controller
open Foundation Program InstanceManager List Option

variable {σ β ρ : Type} {Q : ρ → Type}

section Stored

variable {initial s : σ} {log : OperatorLog σ β ρ Q} {e : Option Nat × Entry σ β ρ Q}

theorem storedIn_head? : (storedIn initial log).head? = some (latest initial log) := by
  induction log with
  | nil => rfl
  | cons e log ih =>
    simp only [storedIn, latest, filterMap_cons, findSome?_cons] at ih ⊢
    cases e.2.stores with
    | none => exact ih
    | some s => rfl

theorem latest_mem : latest initial log ∈ storedIn initial log := mem_of_head? storedIn_head?

theorem storedIn_cons_of_none (quiet : e.2.stores = none) :
    storedIn initial (e :: log) = storedIn initial log := by
  simp [storedIn, quiet]

theorem latest_cons_of_none (quiet : e.2.stores = none) :
    latest initial (e :: log) = latest initial log := by
  simp [latest, quiet]

theorem storedIn_cons_of_some (stored : e.2.stores = some s) :
    storedIn initial (e :: log) = s :: storedIn initial log := by
  simp [storedIn, stored]

theorem latest_cons_of_some (stored : e.2.stores = some s) :
    latest initial (e :: log) = s := by
  simp [latest, stored]

end Stored

variable {m : String} {id : OperationID} {v : Nat} {ms : Members β}

section Preservation

variable {rules : Rules σ β ρ Q} {persist : σ → σ} {edits : σ → σ → Prop}
  {w : OperatorWorld σ β ρ Q} {parts : List (OperatorPart σ β ρ Q)} {part : OperatorPart σ β ρ Q}
  {i : Nat}

theorem OperatorInv.current (inv : OperatorInv rules persist edits w parts) :
    w.object.current = some (latest w.initial w.log) := by
  rw [Versioned.current, ← head?_reverse, inv.versions, storedIn_head?]

theorem OperatorInv.stored (inv : OperatorInv rules persist edits w parts) {s : σ}
    (found : w.object.atVersion v = some s) : s ∈ storedIn w.initial w.log := by
  rw [← inv.versions, mem_reverse]
  cases v with
  | zero => cases found
  | succ n => exact mem_of_getElem? found

variable {e : Entry σ β ρ Q}

section Recollection

variable {seen : List (Entry σ β ρ Q)} {log : OperatorLog σ β ρ Q}

theorem Recalls.other (recalls : Recalls i seen log) (new : OperatorLog σ β ρ Q)
    (other : ∀ e ∈ new, e.1 ≠ some i) : Recalls i seen (new ++ log) := by
  have own : ∀ {x : Entry σ β ρ Q}, (some i, x) ∈ new ++ log → (some i, x) ∈ log := by
    intro x inside
    rcases mem_append.mp inside with newer | before
    · exact absurd rfl (other _ newer)
    · exact before
  exact ⟨fun x inside => mem_append_right _ (recalls.logged x inside), fun x inside => recalls.all x
    (own inside), fun before after inside => recalls.aware before after (own inside)⟩

theorem Recalls.cons (recalls : Recalls i seen log) (e : Entry σ β ρ Q) :
    Recalls i (e :: seen) ((some i, e) :: log) where
  logged x inside := by
    rcases mem_cons.mp inside with rfl | before
    · exact mem_cons_self
    · exact mem_cons_of_mem _ (recalls.logged x before)
  all x inside quiet := by
    rcases mem_cons.mp inside with same | before
    · cases same
      exact mem_cons_self
    · exact mem_cons_of_mem _ (recalls.all x before quiet)
  aware before after inside := by
    rcases mem_cons.mp inside with same | earlier
    · cases same
      exact .inl mem_cons_self
    · exact (recalls.aware before after earlier).imp (mem_cons_of_mem _) (mem_cons_of_mem _)

theorem Recalls.unanswered (recalls : Recalls i seen log) (stores : e.stores ≠ none) :
    Recalls i (.unwritten :: seen) ((some i, .unwritten) :: (some i, e) :: log) where
  logged x inside := by
    rcases mem_cons.mp inside with rfl | before
    · exact mem_cons_self
    · exact mem_cons_of_mem _ (mem_cons_of_mem _ (recalls.logged x before))
  all x inside quiet := by
    rcases mem_cons.mp inside with same | inside
    · cases same
      exact mem_cons_self
    · rcases mem_cons.mp inside with same | before
      · cases same
        exact absurd quiet stores
      · exact mem_cons_of_mem _ (recalls.all x before quiet)
  aware _ _ _ := .inr mem_cons_self

end Recollection

theorem NotAfter.mono {t t' : Int} {log : OperatorLog σ β ρ Q} (before : NotAfter t log)
    (later : t ≤ t') : NotAfter t' log := fun j x inside => (before j x inside).trans later

theorem GoesBy.cons {b : σ} {seen : List (Entry σ β ρ Q)} (goes : GoesBy b seen)
    (e : Entry σ β ρ Q) : GoesBy b (e :: seen) :=
  goes.imp (mem_cons_of_mem _) fun ⟨before, wrote⟩ => ⟨before, mem_cons_of_mem _ wrote⟩

theorem note_eq_record (quiet : e.stores = none) : w.note i e = w.record (some i, e) := by
  simp [OperatorWorld.note, OperatorWorld.record, quiet]

theorem record_atVersion {b : σ} (stored : w.object.atVersion v = some b)
    (e : Option Nat × Entry σ β ρ Q) : (w.record e).object.atVersion v = some b := by
  unfold OperatorWorld.record
  cases e.2.stores with
  | none => exact stored
  | some x => exact Versioned.atVersion_push stored

theorem brings_made (holds : e.TrueOf ms) (brings : e.brings = some (m, id)) :
    ∃ req, (m, id, req) ∈ ms.made := by
  cases e with
  | answered m' req op =>
    cases brings
    exact ⟨req, holds.1⟩
  | polled m' id' op =>
    cases brings
    obtain ⟨-, req, made, -⟩ := holds
    exact ⟨req, made⟩
  | found m' kind key op =>
    cases brings
    obtain ⟨-, -, req, made, -⟩ := holds
    exact ⟨req, made⟩
  | _ => cases brings

theorem WorldInv.record (inv : WorldInv rules persist edits w) {e : Option Nat × Entry σ β ρ Q}
    (ruled : Ruled rules persist edits w.initial e w.log) (holds : e.2.TrueOf w.members)
    (timely : ∀ t, e.2 = .time t ∨ e.2 = .began t → t ≤ w.clock)
    (assumed : ∀ s, e.2.stores = some s → rules.assumes s)
    (missed : ∀ m id, e.2 = .missing m id → ∀ h ∈ w.members.held m, h.op.id ≠ id) :
    WorldInv rules persist edits (w.record e) where
  versions := by
    simp only [OperatorWorld.record]
    cases stores : e.2.stores with
    | none => exact inv.versions.trans (storedIn_cons_of_none stores).symm
    | some x =>
      rw [storedIn_cons_of_some stores, ← inv.versions]
      simp [Versioned.push]
  members := inv.members
  clock := by
    rintro j t (logged | logged) <;> rcases mem_cons.mp logged with rfl | before
    · exact timely t (.inl rfl)
    · exact inv.clock j t (.inl before)
    · exact timely t (.inr rfl)
    · exact inv.clock j t (.inr before)
  ruled := ⟨ruled, inv.ruled⟩
  assumed s stored := by
    cases stores : e.2.stores with
    | none => exact inv.assumed s (storedIn_cons_of_none stores ▸ stored)
    | some x =>
      rcases mem_cons.mp (storedIn_cons_of_some stores ▸ stored) with rfl | before
      · exact assumed s stores
      · exact inv.assumed s before
  told := by
    intro j x logged
    rcases mem_cons.mp logged with rfl | before
    · exact holds
    · exact inv.told j x before
  gone m id gone h held := by
    obtain ⟨j, earlier, inside, known⟩ := gone
    rcases suffix_cons_iff.mp inside with same | before
    · exact missed m id (congrArg Prod.snd (cons.inj same).1).symm h held
    · exact inv.gone m id ⟨j, earlier, before, known⟩ h held
  made m id req made := (inv.made m id req made).imp fun _ => mem_cons_of_mem _
  inFlight m req flying := (inv.inFlight m req flying).imp fun _ => mem_cons_of_mem _

section

variable (inv : OperatorInv rules persist edits w parts)
include inv

theorem OperatorInv.own (here : parts[i]? = some part) {w' : OperatorWorld σ β ρ Q}
    (new : List (Entry σ β ρ Q)) {next : OperatorPart σ β ρ Q}
    (world : WorldInv rules persist edits w') (log : w'.log = new.map (some i, ·) ++ w.log)
    (versions : ∀ {v b}, w.object.atVersion v = some b → w'.object.atVersion v = some b)
    (seen : Recalls i next.seen w'.log)
    (unread : next.base = none → part.base = none ∧ ∀ s, .read s ∉ new)
    (base : ∀ v b, next.base = some (v, b) → w'.object.atVersion v = some b ∧ GoesBy b next.seen) :
    OperatorInv rules persist edits w' (parts.set i next) := by
  have inside : i < parts.length := (List.getElem?_eq_some_iff.mp here).1
  have cases : ∀ {j : Nat} {x : OperatorPart σ β ρ Q}, (parts.set i next)[j]? = some x →
      j = i ∧ x = next ∨ j ≠ i ∧ parts[j]? = some x := by
    intro j x is
    by_cases own : i = j
    · subst own
      rw [getElem?_set_self inside] at is
      exact .inl ⟨rfl, (some.inj is).symm⟩
    · rw [getElem?_set_ne own] at is
      exact .inr ⟨Ne.symm own, is⟩
  -- An entry of the longer log is a new one of `i`, or was there.
  have logged : ∀ {j : Nat} {e : Entry σ β ρ Q}, (some j, e) ∈ w'.log → j = i ∧ e ∈ new ∨
      (some j, e) ∈ w.log := by
    intro j e inside
    rw [log] at inside
    rcases mem_append.mp inside with newer | before
    · obtain ⟨x, among, same⟩ := List.mem_map.mp newer
      cases same
      exact .inl ⟨rfl, among⟩
    · exact .inr before
  refine { world with spawned := ?_, seen := ?_, unread := ?_, base := ?_ }
  · intro j e inside'
    rw [length_set]
    rcases logged inside' with ⟨rfl, -⟩ | before
    · exact inside
    · exact inv.spawned j e before
  · intro j x is
    obtain ⟨rfl, rfl⟩ | ⟨other, is⟩ := cases is
    · exact seen
    · rw [log]
      refine (inv.seen j x is).other _ fun e newer same => ?_
      obtain ⟨y, -, rfl⟩ := List.mem_map.mp newer
      exact other (some.inj same).symm
  · intro j x is none s inside'
    obtain ⟨rfl, rfl⟩ | ⟨other, is⟩ := cases is
    · rcases logged inside' with ⟨-, newer⟩ | before
      · exact (unread none).2 s newer
      · exact inv.unread j part here (unread none).1 s before
    · rcases logged inside' with ⟨rfl, -⟩ | before
      · exact other rfl
      · exact inv.unread j x is none s before
  · intro j x v b is goes
    obtain ⟨rfl, rfl⟩ | ⟨-, is⟩ := cases is
    · exact base v b goes
    · exact ⟨versions (inv.base j x v b is goes).1, (inv.base j x v b is goes).2⟩

theorem OperatorInv.note (here : parts[i]? = some part) (e : Entry σ β ρ Q)
    (ruled : Ruled rules persist edits w.initial (some i, e) w.log) (holds : e.TrueOf w.members)
    (quiet : e.stores = none) (timely : ∀ t, e = .time t ∨ e = .began t → t ≤ w.clock)
    (unread : ∀ s, e ≠ .read s)
    (missed : ∀ m id, e = .missing m id → ∀ h ∈ w.members.held m, h.op.id ≠ id) :
    OperatorInv rules persist edits (w.note i e) (parts.set i (part.note e)) := by
  have world :=
    inv.toWorldInv.record ruled holds timely (fun s is => by rw [quiet] at is; cases is) missed
  rw [note_eq_record quiet]
  refine inv.own here [e] world rfl (fun stored => record_atVersion stored _)
    ((inv.seen i part here).cons e)
      (fun none => ⟨none, fun s is => unread s (mem_singleton.mp is).symm⟩) ?_
  intro v b goes
  obtain ⟨stored, by_⟩ := inv.base i part v b here goes
  exact ⟨record_atVersion stored _, by_.cons e⟩

theorem OperatorInv.received (sound : ms.Sound) (becomes : w.members.Becomes ms)
    (made : ∀ m id req, (m, id, req) ∈ ms.made → ∃ i, (some i, .sent m req) ∈ w.log)
    (inFlight : ∀ m req, (m, req) ∈ ms.inFlight → ∃ i, (some i, .sent m req) ∈ w.log) :
    OperatorInv rules persist edits { w with members := ms } parts := by
  refine { inv with members := sound, made := made, inFlight := inFlight, told := ?_, gone := ?_ }
  · intro i e logged
    have before := inv.told i e logged
    cases e with
    | answered m req op => exact ⟨becomes.made _ before.1, before.2⟩
    | polled m id op =>
      obtain ⟨same, req, made, of⟩ := before
      exact ⟨same, req, becomes.made _ made, of⟩
    | found m kind key op =>
      obtain ⟨same, key, req, made, of⟩ := before
      exact ⟨same, key, req, becomes.made _ made, of⟩
    | _ => trivial
  · intro m id gone h held same
    rcases becomes.held m h held with ⟨h', before, id'⟩ | new
    · exact inv.gone m id gone h' before (id'.trans same)
    · -- An operation that is new now is not one that was there before.
      obtain ⟨j, earlier, inside, x, among, brings⟩ := gone
      have logged := inside.subset (mem_cons_of_mem _ among)
      obtain ⟨req, made⟩ := brings_made (inv.told x.1 x.2 logged) brings
      exact new _ made same.symm

theorem OperatorInv.later {t : Int} (later : w.clock ≤ t) :
    OperatorInv rules persist edits { w with clock := t } parts :=
  { inv with clock := inv.clock.mono later }

section

variable (here : parts[i]? = some part)
include here

theorem OperatorInv.aside (plain : ∀ past, Ruled rules persist edits w.initial (some i, e) past)
    (holds : e.TrueOf w.members) (quiet : e.stores = none)
    (untimed : ∀ t, e ≠ .time t ∧ e ≠ .began t) (unread : ∀ s, e ≠ .read s)
    (there : ∀ m id, e ≠ .missing m id) :
    OperatorInv rules persist edits (w.note i e) (parts.set i (part.note e)) :=
  inv.note here e (plain _) holds quiet (fun t is => absurd is (not_or.mpr (untimed t))) unread
    fun m id is => absurd is (there m id)

theorem OperatorInv.read (first : part.base = none) {s : σ}
    (stored : w.object.atVersion v = some s) :
    OperatorInv rules persist edits (w.note i (.read s))
      (parts.set i { base := some (v, s), seen := .read s :: part.seen }) := by
  have world := inv.toWorldInv.record
    (e := (some i, .read s)) ⟨inv.stored stored, inv.unread i part here first⟩ trivial
    (by rintro t (is | is) <;> cases is) (fun _ is => by cases is) (fun _ _ is => by cases is)
  rw [note_eq_record rfl]
  refine inv.own here [.read s] world rfl (fun stored => record_atVersion stored _)
    ((inv.seen i part here).cons _) (fun none => by cases none) ?_
  rintro v' b ⟨⟩
  exact ⟨stored, .inl mem_cons_self⟩

theorem OperatorInv.trusts : rules.Trusts part.seen := by
  intro s read
  obtain ⟨past, inside, stored, -⟩ := inv.ruled.of_mem ((inv.seen i part here).logged _ read)
  refine inv.assumed s ?_
  obtain ⟨newer, same⟩ := (suffix_cons _ _).trans inside
  rw [← same]
  simp only [storedIn, filterMap_append, append_assoc, mem_append] at stored ⊢
  exact .inr stored

theorem OperatorInv.write {b object : σ} (goes : part.base = some (w.object.version, b))
    (may : rules.mayWrite b object part.seen)
    (kept : rules.assumes b → rules.mayWrite b object part.seen → rules.assumes (persist object)) :
    latest w.initial w.log = b ∧ WorldInv rules persist edits
      (w.record (some i, .wrote b (persist object))) := by
  obtain ⟨stored, by_⟩ := inv.base i part _ b here goes
  have assumed := inv.assumed b (inv.stored stored)
  have same : latest w.initial w.log = b := by
    rw [Versioned.atVersion_version, inv.current] at stored
    exact some.inj stored
  refine ⟨same, inv.toWorldInv.record ?_ trivial (by rintro t (is | is) <;> cases is) ?_
    (fun _ _ is => by cases is)⟩
  · exact ⟨same.symm, object, part.seen, rfl, inv.seen i part here, by_, may⟩
  · rintro s ⟨⟩
    exact kept assumed may

end

theorem OperatorInv.receive [DecidableEq β] {req : Request β}
    (sent : ∃ i, (some i, .sent m req) ∈ w.log) (v : StartVerdict) :
    OperatorInv rules persist edits { w with members := (w.members.receive m req v).1 } parts := by
  refine inv.received (inv.members.receive v) (w.members.becomes_receive m req v) ?_ ?_ <;>
    obtain same | ⟨id, -, -, is⟩ := w.members.receive_cases m req v
  · rw [same]
    exact inv.made
  · rw [is]
    intro m' id' req' made
    rcases mem_cons.mp made with new | before
    · cases new
      exact sent
    · exact inv.made m' id' req' before
  · rw [same]
    exact inv.inFlight
  · rw [is]
    exact inv.inFlight

end

end Preservation

section Steps

variable {rules : Rules σ β ρ Q} {persist : σ → σ} {edits : σ → σ → Prop}
  {w : OperatorWorld σ β ρ Q} {parts : List (OperatorPart σ β ρ Q)} {part : OperatorPart σ β ρ Q}
  {i : Nat}

theorem OperatorInv.statusWritten (inv : OperatorInv rules persist edits w parts)
    (here : parts[i]? = some part) {b object : σ} (goes : part.base = some (v, b))
    (may : rules.mayWrite b object part.seen)
    (kept : rules.assumes b → rules.mayWrite b object part.seen → rules.assumes (persist object))
    (f : Fate) :
    OperatorInv rules persist edits (w.statusWritten persist i v object f).1
      (parts.set i ((operatorProtocol rules persist).next part (.write v object)
        (w.statusWritten persist i v object f).2)) := by
  unfold OperatorWorld.statusWritten
  obtain is | ⟨current, is | is⟩ := w.object.write_cases v (persist object) f
  · have unwritten : OperatorInv rules persist edits (w.note i .unwritten)
        (parts.set i (part.note .unwritten)) :=
      inv.aside here (fun _ => trivial) trivial rfl (by simp) (by simp) (by simp)
    simpa [is, operatorProtocol] using unwritten
  · -- The answer is lost: the write and what the reconcile is told are one step.
    subst current
    obtain ⟨same, world⟩ := inv.write here goes may kept
    have twice := world.record (e := (some i, .unwritten)) trivial trivial (by simp)
      (fun _ is => by cases is) (by simp)
    have stands : OperatorInv rules persist edits _ (parts.set i (part.note .unwritten)) :=
      inv.own here [.unwritten, .wrote b (persist object)] twice rfl
        (fun stored => record_atVersion (record_atVersion stored _) _)
        ((inv.seen i part here).unanswered (some_ne_none _))
        (fun none => by simp [OperatorPart.note, goes] at none) fun v b' goes' => by
          obtain ⟨stored, by_⟩ := inv.base i part v b' here goes'
          exact ⟨record_atVersion (record_atVersion stored _) _, by_.cons _⟩
    simpa [is, same, operatorProtocol, OperatorWorld.record, Entry.stores, OperatorWorld.note]
      using stands
  · subst current
    obtain ⟨same, world⟩ := inv.write here goes may kept
    have stands : OperatorInv rules persist edits _ (parts.set i
        { base := some (w.object.version + 1, persist object),
          seen := .wrote b (persist object) :: part.seen }) :=
      inv.own here [.wrote b (persist object)] world rfl (fun stored => record_atVersion stored _)
        ((inv.seen i part here).cons _) (fun none => by cases none) fun v b' goes' => by
          cases goes'
          exact ⟨Versioned.atVersion_push_self, .inr ⟨b, mem_cons_self⟩⟩
    simpa [is, same, operatorProtocol, goes, OperatorWorld.record, Entry.stores, OperatorWorld.note]
      using stands

theorem OperatorInv.startSent [DecidableEq β] (inv : OperatorInv rules persist edits w parts)
    (here : parts[i]? = some part) {req : Request β} (sent : (some i, .sent m req) ∈ w.log)
    (f : StartFate) :
    OperatorInv rules persist edits (w.startSent i m req f).1
      (parts.set i (match (w.startSent i m req f).2 with
      | .ok op => part.note (.answered m req op)
      | .error e => part.note (.startFailed m req e))) := by
  have failed : ∀ {w : OperatorWorld σ β ρ Q} (e : CallError),
      OperatorInv rules persist edits w parts →
      OperatorInv rules persist edits (w.note i (.startFailed m req e))
        (parts.set i (part.note (.startFailed m req e))) :=
    fun e kept => kept.aside here (fun _ => trivial) trivial rfl (by simp) (by simp) (by simp)
  cases f with
  | answered v =>
    have kept := inv.receive ⟨i, sent⟩ v
    simp only [OperatorWorld.startSent]
    split
    · rename_i op is
      exact kept.aside here (fun _ => trivial) (inv.members.answered is) rfl (by simp)
        (by simp) (by simp)
    · exact failed _ kept
  | unanswered v => exact failed _ (inv.receive ⟨i, sent⟩ v)
  | delayed =>
    refine failed _
      (inv.received ⟨inv.members.ids, inv.members.held⟩ (Members.becomes_of_held rfl rfl) inv.made
      fun m' req' flying => ?_)
    rcases mem_cons.mp flying with new | before
    · cases new
      exact ⟨i, sent⟩
    · exact inv.inFlight m' req' before
  | lost => exact failed _ inv

theorem getOperation_none (none : ms.getOperation m id = none) : ∀ h ∈ ms.held m, h.op.id ≠ id := by
  have missing := find?_eq_none.mp (map_eq_none_iff.mp none)
  simpa using missing

theorem OperatorInv.missing (inv : OperatorInv rules persist edits w parts)
    (here : parts[i]? = some part) {b : σ} (goes : part.base = some (v, b))
    (may : rules.mayPoll b m id part.seen) (none : w.members.getOperation m id = none) :
    OperatorInv rules persist edits (w.note i (.missing m id))
      (parts.set i (part.note (.missing m id))) := by
  have ruled := inv.seen i part here
  refine inv.note here _ ⟨b, part.seen, ruled, (inv.base i part v b here goes).2, may⟩ trivial rfl
    (by simp) (by simp)
    fun m' id' is => ?_
  cases is
  exact getOperation_none none

theorem OperatorInv.polled (inv : OperatorInv rules persist edits w parts)
    (here : parts[i]? = some part) {op : Operation} (held : w.members.getOperation m id = some op) :
    OperatorInv rules persist edits (w.note i (.polled m id op))
      (parts.set i (part.note (.polled m id op))) := by
  refine inv.note here _ ⟨(inv.members.got held).1, fun gone => ?_⟩ (inv.members.got held) rfl
    (by simp) (by simp)
    (by simp)
  obtain ⟨h, found, rfl⟩ := map_eq_some_iff.mp held
  exact inv.gone m id gone h (mem_of_find?_eq_some found) (by simpa using find?_some found)

theorem operator_step [DecidableEq β]
    (kept : ∀ {b object seen}, rules.assumes b → rules.mayWrite b object seen →
      rules.assumes (persist object))
    (e : Call σ β ρ) :
    Pool.Step (operatorProtocol rules persist) (operatorHandler (Q := Q) persist)
      (OperatorInv rules persist edits) e := by
  intro w parts i part c inv here may
  have may : rules.Allows part e := may (inv.trusts here)
  cases e with
  | read =>
    have failed : OperatorInv rules persist edits (w.note i .readFailed)
        (parts.set i (part.note .readFailed)) :=
      inv.aside here (fun _ => trivial) trivial rfl (by simp) (by simp) (by simp)
    cases c with
    | version n =>
      simp only [operatorHandler]
      cases stored : w.object.atVersion n with
      | none => exact failed
      | some s => exact inv.read here may stored
    | _ => exact failed
  | write v object =>
    obtain ⟨b, goes, may⟩ := may
    cases c with
    | fate f => exact inv.statusWritten here goes may kept f
    | _ => exact inv.aside here (fun _ => trivial) trivial rfl (by simp) (by simp) (by simp)
  | now =>
    cases c with
    | time t =>
      refine (inv.later (le_max_left _ t)).note here _ (inv.clock.mono (le_max_left _ t)) trivial
        rfl ?_ (by simp) (by simp)
      rintro t' (is | is) <;> cases is
      exact le_refl _
    | _ => exact inv
  | start m req =>
    obtain ⟨v, b, goes, may⟩ := may
    have sent := inv.note here (.sent m req)
      ⟨b, part.seen, inv.seen i part here, (inv.base i part v b here goes).2, may⟩ trivial rfl
        (by simp) (by simp) (by simp)
    have after : ∀ f, OperatorInv rules persist edits
        ((w.note i (.sent m req)).startSent i m req f).1
        (parts.set i ((operatorProtocol rules persist).next part (.start m req)
          ((w.note i (.sent m req)).startSent i m req f).2)) := fun f => by
      have kept := sent.startSent (getElem?_set_self (List.getElem?_eq_some_iff.mp here).1)
        mem_cons_self f
      rw [set_set] at kept
      generalize ((w.note i (.sent m req)).startSent i m req f) = outcome at kept ⊢
      obtain ⟨w', op | e⟩ := outcome <;> exact kept
    cases c with
    | start f => exact after f
    | _ => exact after .lost
  | get m id =>
    obtain ⟨v, b, goes, may⟩ := may
    cases c with
    | failed e => exact inv.aside here (fun _ => trivial) trivial rfl (by simp) (by simp) (by simp)
    | _ =>
      simp only [operatorHandler]
      cases held : w.members.getOperation m id with
      | none => exact inv.missing here goes may held
      | some op => exact inv.polled here held
  | find m kind key =>
    cases c with
    | failed e => exact inv.aside here (fun _ => trivial) trivial rfl (by simp) (by simp) (by simp)
    | _ =>
      simp only [operatorHandler]
      cases held : w.members.findOperation m kind key with
      | none => exact inv.aside here (fun _ => trivial) trivial rfl (by simp) (by simp) (by simp)
      | some op =>
        exact inv.aside here (fun _ => trivial) (inv.members.found held) rfl (by simp)
          (by simp) (by simp)
  | query q =>
    cases c with
    | replies f => exact inv.aside here (fun _ => trivial) trivial rfl (by simp) (by simp) (by simp)
    | _ => exact inv

end Steps

section Machine

variable {ε : Type} {model : OperatorModel σ β ρ Q ε} {rules : Rules σ β ρ Q}
  {done : OperatorPart σ β ρ Q → Unit → Prop} {pool : OperatorPool σ β ρ Q}
  {parts : List (OperatorPart σ β ρ Q)}

abbrev OperatorModel.Plays (model : OperatorModel σ β ρ Q ε) (rules : Rules σ β ρ Q)
    (done : OperatorPart σ β ρ Q → Unit → Prop) :
    OperatorPool σ β ρ Q → List (OperatorPart σ β ρ Q) → Prop :=
  Pool.Plays (operatorProtocol rules model.persist) done
    (OperatorInv rules model.persist model.edits)

theorem OperatorInv.spawn (inv : OperatorInv rules model.persist model.edits pool.world parts)
    (lengths : parts.length = pool.threads.length) :
    OperatorInv rules model.persist model.edits
      (pool.world.record (some pool.threads.length, .began pool.world.clock))
      (parts ++ [{ seen := [.began pool.world.clock] }]) := by
  have cases : ∀ {j : Nat} {x : OperatorPart σ β ρ Q},
      (parts ++ [{ seen := [.began pool.world.clock] }])[j]? = some x →
      parts[j]? = some x ∨ j = parts.length ∧ x = { seen := [.began pool.world.clock] } := by
    intro j x is
    rw [getElem?_append] at is
    split at is
    · exact .inl is
    · rename_i late
      obtain ⟨inside, rfl⟩ := List.getElem?_eq_some_iff.mp is
      simp only [length_cons, length_nil] at inside
      exact .inr ⟨by omega, getElem_singleton _⟩
  have world : WorldInv rules model.persist model.edits
      (pool.world.record (some pool.threads.length, .began pool.world.clock)) := by
    refine inv.toWorldInv.record ⟨inv.clock, fun e logged => ?_⟩ trivial ?_
      (fun _ is => by cases is) (by simp)
    · exact absurd (inv.spawned _ e logged) (by simp [lengths])
    · rintro t (is | is) <;> cases is
      exact le_refl _
  refine { world with spawned := ?_, seen := ?_, unread := ?_, base := ?_ }
  · intro i e logged
    rw [length_append, length_singleton]
    rcases mem_cons.mp logged with same | before
    · cases same
      exact lengths ▸ Nat.lt_succ_self _
    · exact (inv.spawned i e before).trans (Nat.lt_succ_self _)
  · intro j x is
    obtain is | ⟨rfl, rfl⟩ := cases is
    · refine (inv.seen j x is).other [_] fun e newer same => ?_
      have inside := (List.getElem?_eq_some_iff.mp is).1
      rw [mem_singleton.mp newer] at same
      exact Nat.ne_of_lt (lengths ▸ inside) (some.inj same).symm
    · have silent : ∀ e, (some parts.length, e) ∉ pool.world.log := fun e logged =>
        absurd (inv.spawned _ e logged) (Nat.lt_irrefl _)
      rw [← lengths]
      exact Recalls.cons ⟨fun _ none => (by cases none), fun e logged => absurd logged (silent e),
        fun _ _ logged => absurd logged (silent _)⟩ _
  · intro j x is none s logged
    have before : (some j, .read s) ∈ pool.world.log := by simpa [OperatorWorld.record] using logged
    obtain is | ⟨rfl, -⟩ := cases is
    · exact inv.unread j x is none s before
    · exact Nat.lt_irrefl _ (inv.spawned _ _ before)
  · intro j x v b is goes
    obtain is | ⟨-, rfl⟩ := cases is
    · exact inv.base j x v b is goes
    · cases goes

theorem OperatorInv.edit (inv : OperatorInv rules model.persist model.edits pool.world parts)
    (edited : ∀ x {b}, rules.assumes b → rules.assumes (model.amend x b)) (x : ε) {s : σ}
    (current : pool.world.object.current = some s) :
    OperatorInv rules model.persist model.edits
      (pool.world.record (none, .edited (model.amend x s))) parts := by
  obtain rfl : latest pool.world.initial pool.world.log = s :=
    some.inj (inv.current.symm.trans current)
  have world : WorldInv rules model.persist model.edits (pool.world.record
      (none, .edited (model.amend x (latest pool.world.initial pool.world.log)))) := by
    refine inv.toWorldInv.record ⟨x, rfl⟩ trivial (by simp) ?_ (by simp)
    rintro s ⟨⟩
    exact edited x (inv.assumed _ latest_mem)
  refine { world with spawned := ?_, seen := ?_, unread := ?_, base := ?_ }
  · intro i e logged
    exact inv.spawned i e (by simpa [OperatorWorld.record] using logged)
  · exact fun i part is => (inv.seen i part is).other [_] (by simp)
  · intro i part is none s logged
    exact inv.unread i part is none s (by simpa [OperatorWorld.record] using logged)
  · intro i part v b is goes
    exact ⟨record_atVersion (inv.base i part v b is goes).1 _, (inv.base i part v b is goes).2⟩

theorem OperatorModel.Plays.step [DecidableEq β] (plays : model.Plays rules done pool parts)
    (keeps : model.Keeps rules done) (event : OperatorEvent ρ Q ε) :
    ∃ parts', model.Plays rules done (model.step pool event) parts' := by
  have inv := plays.holds
  have world : ∀ {w : OperatorWorld σ β ρ Q}, OperatorInv rules model.persist model.edits w parts →
      ∃ parts', model.Plays rules done { pool with world := w } parts' := fun kept =>
        ⟨parts, plays.follow, kept⟩
  have dropped : ∀ k m req, (m, req) ∈ pool.world.members.inFlight.eraseIdx k →
      ∃ i, (some i, .sent m req) ∈ pool.world.log :=
    fun k m req flying => inv.inFlight m req (mem_of_mem_eraseIdx flying)
  cases event with
  | reconcile =>
    refine ⟨parts ++ [{ seen := [.began pool.world.clock] }], ?_⟩
    exact ⟨(Pool.Plays.spawn ⟨plays.follow, trivial⟩ (keeps.obeys _) trivial :
      Pool.Plays (operatorProtocol rules model.persist) done (fun _ _ => True) _ _).follow,
      inv.spawn plays.length_eq⟩
  | act i c => exact plays.act (operator_step keeps.wrote) i c
  | deliver k v =>
    simp only [OperatorModel.step]
    split
    · rename_i m req flying
      have kept := inv.receive (inv.inFlight m req (mem_of_getElem? flying)) v
      exact world (kept.received ⟨kept.members.ids, kept.members.held⟩
        (Members.becomes_of_held rfl rfl) kept.made (dropped k))
    · exact ⟨parts, plays⟩
  | drop k =>
    exact world (inv.received ⟨inv.members.ids, inv.members.held⟩ (Members.becomes_of_held rfl rfl)
      inv.made (dropped k))
  | change m id p =>
    exact world (inv.received (inv.members.change p) (pool.world.members.becomes_change m id p)
      inv.made inv.inFlight)
  | lose m id =>
    exact world (inv.received inv.members.lose (pool.world.members.becomes_lose m id) inv.made
      inv.inFlight)
  | edit x =>
    simp only [OperatorModel.step]
    split
    · rename_i s current
      exact world (inv.edit keeps.edited x current)
    · exact ⟨parts, plays⟩
  | tick t => exact world (inv.later (le_max_left _ _))

theorem OperatorModel.plays_created {initial : σ} (assumed : rules.assumes initial) :
    model.Plays rules done (model.created initial) [] := by
  refine ⟨fun i => by simp [OperatorModel.created], ?_⟩
  exact {
    versions := rfl
    members := ⟨nodup_nil, fun _ _ inside => by cases inside⟩
    clock := fun _ _ is => by rcases is with is | is <;> cases is
    ruled := trivial
    assumed := fun s is => mem_singleton.mp is ▸ assumed
    gone := fun _ _ ⟨_, _, inside, _⟩ => absurd (suffix_nil.mp inside) (by simp)
    told := fun _ _ is => by cases is
    made := fun _ _ _ is => by cases is
    inFlight := fun _ _ is => by cases is
    spawned := fun _ _ is => by cases is
    seen := fun _ _ is => by cases is
    unread := fun _ _ is => by cases is
    base := fun _ _ _ _ is => by cases is }

/-- In every run of a controller that keeps to the rules, the reconciles play
    parts by them. -/
theorem OperatorModel.plays_run [DecidableEq β] (keeps : model.Keeps rules done) {initial : σ}
    (assumed : rules.assumes initial) (events : List (OperatorEvent ρ Q ε)) :
    ∃ parts, model.Plays rules done (model.run initial events) parts :=
  runEvents_kept (fun pool => ∃ parts, model.Plays rules done pool parts)
    (fun _ event ⟨_, plays⟩ => plays.step keeps event) events ⟨[], plays_created assumed⟩

section Initial

variable {w : OperatorWorld σ β ρ Q} {i : Nat}

theorem statusWritten_initial (persist : σ → σ) (v : Nat) (object : σ) (f : Fate) :
    (w.statusWritten persist i v object f).1.initial = w.initial := by
  unfold OperatorWorld.statusWritten
  obtain is | ⟨-, is | is⟩ := w.object.write_cases v (persist object) f <;>
    simp [is, OperatorWorld.note]

theorem startSent_initial [DecidableEq β] (m : String) (req : Request β) (f : StartFate) :
    (w.startSent i m req f).1.initial = w.initial := by
  cases f with
  | answered v =>
    simp only [OperatorWorld.startSent]
    split <;> rfl
  | _ => rfl

theorem operatorHandler_initial [DecidableEq β] (persist : σ → σ) (e : Call σ β ρ)
    (c : OperatorChoice ρ Q) : (operatorHandler persist i w e c).1.initial = w.initial := by
  cases e with
  | read =>
    cases c with
    | version n =>
      simp only [operatorHandler]
      split <;> rfl
    | _ => rfl
  | write v object =>
    cases c with
    | fate f => exact statusWritten_initial persist v object f
    | _ => rfl
  | start m req =>
    cases c with
    | start f => exact startSent_initial m req f
    | _ => rfl
  | get m id =>
    cases c <;> first | rfl | (simp only [operatorHandler]; split <;> rfl)
  | find m kind key =>
    cases c <;> first | rfl | (simp only [operatorHandler]; split <;> rfl)
  | _ => cases c <;> rfl

theorem OperatorModel.run_initial [DecidableEq β] (model : OperatorModel σ β ρ Q ε) (initial : σ)
    (events : List (OperatorEvent ρ Q ε)) : (model.run initial events).world.initial = initial := by
  refine runEvents_kept (fun pool : OperatorPool σ β ρ Q => pool.world.initial = initial)
    (fun pool event before => ?_) events rfl
  cases event with
  | act i c =>
    simp only [OperatorModel.step, Pool.act]
    split
    · rename_i e k _
      have kept := operatorHandler_initial (i := i) (w := pool.world) model.persist e c
      generalize operatorHandler model.persist i pool.world e c = outcome at kept ⊢
      obtain ⟨w', _ | a⟩ := outcome <;> exact kept.trans before
    · exact before
  | deliver k v =>
    simp only [OperatorModel.step]
    split <;> exact before
  | edit x =>
    simp only [OperatorModel.step]
    split <;> exact before
  | _ => exact before

end Initial
end Machine
end Controller
