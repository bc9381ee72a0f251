import Mathlib.Data.Int.ConditionallyCompleteOrder
import Mathlib.Order.ConditionallyCompleteLattice.Basic
import Mathlib.Tactic.Push

/-!
The watch over the CUBRID processes of a member, as a fact about the whole
sequence of looks.
-/
namespace InstanceManager

/-- One look at the process table, and whether the absence of CUBRID is intended
    at that moment. -/
structure Look where
  time : Int
  running : Option (List String)
  busy : Bool := false

/-- The largest time.Duration; a difference of times beyond it is cut to it. -/
def maxDuration : Int := 2 ^ 63 - 1

def minDuration : Int := -2 ^ 63

def durationBetween (t u : Int) : Int := max minDuration (min maxDuration (t - u))

structure Watchdog where
  required : List String
  grace : Int
  armed : Bool := false
  -- Zero is the zero time.Time: nothing is missing.
  missingSince : Int := 0

def firstMissing (required running : List String) : String :=
  (required.find? fun name => name ∉ running).getD ""

def Watchdog.check (w : Watchdog) (look : Look) : Watchdog × Bool :=
  match look.running with
  | none => (w, false)
  | some running =>
    let missing := firstMissing w.required running
    if missing = "" then ({ w with armed := true, missingSince := 0 }, false)
    else if !w.armed then (w, false)
    else if look.busy then ({ w with missingSince := 0 }, false)
    else if w.missingSince = 0 then ({ w with missingSince := look.time }, false)
    else if durationBetween look.time w.missingSince > w.grace then (w, true)
    else (w, false)

def Watchdog.before (w : Watchdog) (looks : Nat → Look) : Nat → Watchdog
  | 0 => w
  | n + 1 => ((w.before looks n).check (looks n)).1

def Watchdog.ends (w : Watchdog) (looks : Nat → Look) (n : Nat) : Bool :=
  ((w.before looks n).check (looks n)).2

section Looks

variable (required : List String)

def Look.Shows (look : Look) : Prop :=
  ∃ running, look.running = some running ∧ ∀ name ∈ required, name ∈ running

def Look.Misses (look : Look) : Prop :=
  ∃ running, look.running = some running ∧ ∃ name ∈ required, name ∉ running

/-- From look `j` up to look `n` every readable look misses a required process
    and is not busy, and CUBRID ran before. -/
structure Outage (looks : Nat → Look) (j n : Nat) : Prop where
  ran : ∃ i < j, (looks i).Shows required
  begins : (looks j).running ≠ none
  lasts : ∀ m, j ≤ m → m < n → (looks m).running ≠ none →
    (looks m).Misses required ∧ (looks m).busy = false

end Looks

section Check

variable {w : Watchdog} {look : Look}

theorem firstMissing_eq_empty {required running : List String} (named : "" ∉ required) :
    firstMissing required running = "" ↔ ∀ name ∈ required, name ∈ running := by
  unfold firstMissing
  cases first : required.find? fun name => name ∉ running with
  | none =>
    have all := List.find?_eq_none.mp first
    simpa using all
  | some found =>
    have member := List.mem_of_find?_eq_some first
    have missing := List.find?_some first
    constructor
    · intro empty
      exact absurd (empty ▸ member) named
    · intro all
      simp [all found member] at missing

theorem durationBetween_anti {t u v : Int} (order : u ≤ v) :
    durationBetween t v ≤ durationBetween t u := by
  unfold durationBetween
  omega

inductive Checked (w : Watchdog) (look : Look) : Watchdog × Bool → Prop
  | unread (unread : look.running = none) : Checked w look (w, false)
  | shown (shows : look.Shows w.required) :
      Checked w look ({ w with armed := true, missingSince := 0 }, false)
  | unarmed (misses : look.Misses w.required) (unarmed : w.armed = false) :
      Checked w look (w, false)
  | busy (misses : look.Misses w.required) (busy : look.busy = true) :
      Checked w look ({ w with missingSince := 0 }, false)
  | begins (misses : look.Misses w.required) (idle : look.busy = false) (armed : w.armed = true)
      (first : w.missingSince = 0) : Checked w look ({ w with missingSince := look.time }, false)
  | lasts (misses : look.Misses w.required) (idle : look.busy = false) (armed : w.armed = true)
      (later : w.missingSince ≠ 0) :
      Checked w look (w, decide (w.grace < durationBetween look.time w.missingSince))

theorem check_checked (named : "" ∉ w.required) : Checked w look (w.check look) := by
  unfold Watchdog.check
  cases read : look.running with
  | none => exact .unread read
  | some running =>
    dsimp only
    split
    · rename_i nothing
      exact .shown ⟨running, read, (firstMissing_eq_empty named).mp nothing⟩
    · rename_i something
      have misses : look.Misses w.required := by
        rw [firstMissing_eq_empty named] at something
        push Not at something
        exact ⟨running, read, something⟩
      split
      · rename_i unarmed
        exact .unarmed misses (by simpa using unarmed)
      · rename_i armed
        split
        · exact .busy misses ‹_›
        · rename_i idle
          have alone : look.busy = false := by simpa using idle
          have ready : w.armed = true := by simpa using armed
          split
          · exact .begins misses alone ready ‹_›
          · rename_i later
            have lasts := Checked.lasts misses alone ready later
            split
            · rename_i longer
              rwa [decide_eq_true longer] at lasts
            · rename_i shorter
              rwa [decide_eq_false shorter] at lasts

end Check

theorem not_shows_of_misses {required : List String} {look : Look} (misses : look.Misses required) :
    ¬ look.Shows required := by
  rintro ⟨running, read, all⟩
  obtain ⟨table, same, name, member, missing⟩ := misses
  rw [read] at same
  cases same
  exact missing (all name member)

section Outages

variable {required : List String} {looks : Nat → Look} {j n : Nat}

theorem Outage.earlier (outage : Outage required looks j (n + 1)) : Outage required looks j n :=
  ⟨outage.ran, outage.begins, fun m from' before => outage.lasts m from' (by omega)⟩

theorem Outage.carried (outage : Outage required looks j n)
    (carries : (looks n).running ≠ none → (looks n).Misses required ∧ (looks n).busy = false) :
    Outage required looks j (n + 1) := by
  refine ⟨outage.ran, outage.begins, fun m from' before read => ?_⟩
  rcases Nat.lt_succ_iff_lt_or_eq.mp before with earlier | rfl
  · exact outage.lasts m from' earlier read
  · exact carries read

theorem Outage.misses (outage : Outage required looks j (n + 1)) (from' : j ≤ n)
    (read : (looks n).running ≠ none) : (looks n).Misses required ∧ (looks n).busy = false :=
  outage.lasts n from' (Nat.lt_succ_self n) read

end Outages

structure Watching (required : List String) (grace : Int) (looks : Nat → Look) (n : Nat)
    (s : Watchdog) : Prop where
  names : s.required = required
  bound : s.grace = grace
  armed : s.armed = true ↔ ∃ i < n, (looks i).Shows required
  since : s.missingSince ≠ 0 → ∃ j < n, Outage required looks j n ∧ (looks j).time = s.missingSince
  first : ∀ j < n, Outage required looks j n → s.missingSince ≠ 0 ∧ s.missingSince ≤ (looks j).time

section Watch

variable {required : List String} {grace : Int} {looks : Nat → Look} {n : Nat} {s : Watchdog}

theorem exists_lt_succ_of_not {p : Nat → Prop} (here : ¬ p n) :
    (∃ i < n + 1, p i) ↔ ∃ i < n, p i := by
  constructor
  · rintro ⟨i, below, holds⟩
    rcases Nat.lt_succ_iff_lt_or_eq.mp below with earlier | rfl
    · exact ⟨i, earlier, holds⟩
    · exact absurd holds here
  · rintro ⟨i, below, holds⟩
    exact ⟨i, by omega, holds⟩

theorem Watching.check (watching : Watching required grace looks n s) (named : "" ∉ required)
    (order : Monotone fun n => (looks n).time) (nonzero : ∀ n, (looks n).time ≠ 0) :
    Watching required grace looks (n + 1) (s.check (looks n)).1 := by
  obtain ⟨rfl, rfl, armed, since, first⟩ := watching
  have checked : Checked s (looks n) (s.check (looks n)) := check_checked named
  generalize s.check (looks n) = result at checked
  cases checked with
  | unread unread =>
    have hidden : ¬ (looks n).Shows s.required := by
      rintro ⟨running, read, -⟩
      simp [unread] at read
    refine ⟨rfl, rfl, armed.trans (exists_lt_succ_of_not hidden).symm, fun missing => ?_, ?_⟩
    · obtain ⟨j, below, outage, time⟩ := since missing
      exact ⟨j, by omega, outage.carried (absurd unread), time⟩
    · intro j below outage
      rcases Nat.lt_succ_iff_lt_or_eq.mp below with earlier | rfl
      · exact first j earlier outage.earlier
      · exact absurd unread outage.begins
  | shown shows =>
    refine ⟨rfl, rfl, ?_, fun missing => absurd rfl missing, ?_⟩
    · exact ⟨fun _ => ⟨n, Nat.lt_succ_self n, shows⟩, fun _ => rfl⟩
    · intro j below outage
      obtain ⟨running, read, -⟩ := id shows
      have misses := outage.misses (by omega) (by simp [read])
      exact absurd shows (not_shows_of_misses misses.1)
  | unarmed misses unarmed =>
    have hidden := not_shows_of_misses misses
    have never : ¬ ∃ i < n, (looks i).Shows s.required := by simp [← armed, unarmed]
    refine ⟨rfl, rfl, armed.trans (exists_lt_succ_of_not hidden).symm, fun missing => ?_, ?_⟩
    · obtain ⟨j, below, outage, -⟩ := since missing
      obtain ⟨i, before, shows⟩ := outage.ran
      exact absurd ⟨i, by omega, shows⟩ never
    · intro j below outage
      obtain ⟨i, before, shows⟩ := outage.ran
      exact absurd ⟨i, by omega, shows⟩ never
  | busy misses busy =>
    have hidden := not_shows_of_misses misses
    refine ⟨rfl, rfl, armed.trans (exists_lt_succ_of_not hidden).symm,
      fun missing => absurd rfl missing, ?_⟩
    intro j below outage
    obtain ⟨running, read, -⟩ := misses
    have idle := (outage.misses (by omega) (by simp [read])).2
    simp [busy] at idle
  | begins misses idle ready none =>
    have hidden := not_shows_of_misses misses
    obtain ⟨i, before, shows⟩ := armed.mp ready
    obtain ⟨running, read, -⟩ := id misses
    have outage : Outage s.required looks n (n + 1) := by
      refine ⟨⟨i, before, shows⟩, by simp [read], fun m from' upTo _ => ?_⟩
      obtain rfl : m = n := by omega
      exact ⟨misses, idle⟩
    refine ⟨rfl, rfl, armed.trans (exists_lt_succ_of_not hidden).symm, ?_, ?_⟩
    · exact fun _ => ⟨n, Nat.lt_succ_self n, outage, rfl⟩
    · intro j below other
      rcases Nat.lt_succ_iff_lt_or_eq.mp below with earlier | rfl
      · exact absurd none (first j earlier other.earlier).1
      · exact ⟨nonzero j, le_refl _⟩
  | lasts misses idle ready later =>
    have hidden := not_shows_of_misses misses
    obtain ⟨j, below, outage, time⟩ := since later
    refine ⟨rfl, rfl, armed.trans (exists_lt_succ_of_not hidden).symm, ?_, ?_⟩
    · exact fun _ => ⟨j, by omega, outage.carried fun _ => ⟨misses, idle⟩, time⟩
    · intro k upTo other
      rcases Nat.lt_succ_iff_lt_or_eq.mp upTo with earlier | rfl
      · exact first k earlier other.earlier
      · refine ⟨later, ?_⟩
        have := order (Nat.le_of_lt below)
        rw [← time]
        exact this

theorem watching_before (named : "" ∉ required) (order : Monotone fun n => (looks n).time)
    (nonzero : ∀ n, (looks n).time ≠ 0) (n : Nat) :
    Watching required grace looks n ((Watchdog.mk required grace false 0).before looks n) := by
  induction n with
  | zero =>
    refine ⟨rfl, rfl, ?_, fun missing => absurd rfl missing, fun j below => by omega⟩
    constructor
    · intro armed
      cases armed
    · rintro ⟨i, below, -⟩
      omega
  | succ n ih => exact ih.check named order nonzero

end Watch

/-- A readable look in an outage that is longer than the grace ends the member,
    and no other look does. -/
theorem Watching.ends_iff {required : List String} {grace : Int} {looks : Nat → Look} {k : Nat}
    {s : Watchdog} (watching : Watching required grace looks k s) (named : "" ∉ required) :
    (s.check (looks k)).2 = true ↔ (looks k).running ≠ none ∧
      ∃ j < k, Outage required looks j (k + 1) ∧ grace < durationBetween (looks k).time
        (looks j).time := by
  obtain ⟨rfl, rfl, armed, since, first⟩ := watching
  have checked : Checked s (looks k) (s.check (looks k)) := check_checked named
  generalize s.check (looks k) = result at checked
  constructor
  · intro ends
    cases checked with
    | lasts misses idle ready later =>
      obtain ⟨j, below, outage, time⟩ := since later
      obtain ⟨running, read, -⟩ := id misses
      rw [decide_eq_true_eq, ← time] at ends
      exact ⟨by simp [read], j, below, outage.carried fun _ => ⟨misses, idle⟩, ends⟩
    | _ => cases ends
  · rintro ⟨read, j, below, outage, longer⟩
    obtain ⟨misses, idle⟩ := outage.misses (Nat.le_of_lt below) read
    obtain ⟨later, since'⟩ := first j below outage.earlier
    obtain ⟨i, before, ran⟩ := outage.ran
    cases checked with
    | unread unread => exact absurd unread read
    | shown shows => exact absurd shows (not_shows_of_misses misses)
    | unarmed _ unarmed =>
      have ready := armed.mpr ⟨i, by omega, ran⟩
      simp [unarmed] at ready
    | busy _ busy => simp [busy] at idle
    | begins _ _ _ none => exact absurd none later
    | lasts _ _ _ _ => exact decide_eq_true (lt_of_lt_of_le longer (durationBetween_anti since'))

/-- A look ends the member exactly if it is readable and belongs to an outage,
    after a look that showed every required process, of which an earlier
    readable look is more than the grace before it. -/
theorem watchdog_ends_iff (required : List String) (grace : Int) (looks : Nat → Look)
    (named : "" ∉ required) (order : Monotone fun n => (looks n).time)
    (nonzero : ∀ n, (looks n).time ≠ 0) (k : Nat) :
    (Watchdog.mk required grace false 0).ends looks k = true ↔
      (looks k).running ≠ none ∧
      ∃ i j, i < j ∧ j < k ∧ (looks i).Shows required ∧ (looks j).running ≠ none ∧
        grace < durationBetween (looks k).time (looks j).time ∧
        ∀ m, j ≤ m → m ≤ k → (looks m).running ≠ none →
          (looks m).Misses required ∧ (looks m).busy = false := by
  have watching : Watching required grace looks k _ := watching_before named order nonzero k
  rw [Watchdog.ends, watching.ends_iff named]
  refine and_congr_right fun _ => ?_
  constructor
  · rintro ⟨j, below, ⟨⟨i, before, ran⟩, begins, lasts⟩, longer⟩
    exact ⟨i, j, before, below, ran, begins, longer, fun m from' upTo => lasts m from' (by omega)⟩
  · rintro ⟨i, j, before, below, ran, begins, longer, lasts⟩
    exact ⟨j, below, ⟨⟨i, before, ran⟩, begins, fun m from' upTo => lasts m from' (by omega)⟩,
      longer⟩

def secondly (tables : List (Option (List String))) (rest : Option (List String)) (n : Nat) :
    Look :=
  { time := 1000000000 * (n + 1), running := tables.getD n rest }

def goneMaster : Nat → Look :=
  secondly [some ["cub_master", "cub_server"], some ["cub_server"], none] (some ["cub_server"])

theorem goneMaster_ends_member :
    (Watchdog.mk ["cub_master", "cub_server"] 2000000000 false 0).ends goneMaster 4 = true := by
  have order : Monotone fun n => (goneMaster n).time := by
    intro m n below
    simp only [goneMaster, secondly]
    omega
  have nonzero : ∀ n, (goneMaster n).time ≠ 0 := by
    intro n
    simp only [goneMaster, secondly]
    omega
  refine (watchdog_ends_iff _ _ goneMaster (by decide) order nonzero 4).mpr ?_
  refine ⟨by decide, 0, 1, by decide, by decide, ⟨_, rfl, by decide⟩, by decide, by decide, ?_⟩
  intro m from' upTo read
  obtain rfl | rfl | rfl | rfl : m = 1 ∨ m = 2 ∨ m = 3 ∨ m = 4 := by omega
  · exact ⟨⟨_, rfl, "cub_master", by decide⟩, rfl⟩
  · exact absurd rfl read
  · exact ⟨⟨_, rfl, "cub_master", by decide⟩, rfl⟩
  · exact ⟨⟨_, rfl, "cub_master", by decide⟩, rfl⟩

end InstanceManager
