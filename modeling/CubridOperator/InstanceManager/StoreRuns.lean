import CubridOperator.Foundation.Runs
import CubridOperator.InstanceManager.StoreCalls

/-!
Runs of the operation store over process generations. The state also records
what the callers saw.
-/
namespace InstanceManager
open Foundation Program Relation

structure StoreState where
  world : StoreWorld := {}
  up : Bool := false
  created : List Operation := []
  active : List Operation := []
  answers : List Operation := []

inductive StoreEvent where
  | call (c : StoreCall) (choices : List StoreChoice)
  | kill
  | powerLoss (mask : List Bool)

namespace StoreState

/-- A manager that is not running can only be started; a runner settles an
    operation whose ID the store gave out. -/
def accepts (s : StoreState) : StoreCall → Bool
  | .start => !s.up
  | .settle id _ => s.up && decide (id ∈ s.world.issued)
  | _ => s.up

def calling (s : StoreState) : StoreCall → StoreState
  | .settle id _ => { s with active := s.active.filter (·.id ≠ id) }
  | _ => s

def ended (s : StoreState) (w : StoreWorld) : StoreState :=
  { s with world := w.kill, up := false, active := [] }

def replied (s : StoreState) (c : StoreCall) (w : StoreWorld) : StoreReply → StoreState
  | .created op =>
    { s with world := w, created := op :: s.created, active := op :: s.active,
             answers := op :: s.answers }
  | .answered ops => { s with world := w, answers := ops ++ s.answers }
  | .updated _ => { s with world := w }
  | .error _ =>
    match c with
    | .start => s.ended w
    | _ => { s with world := w }
  | .done =>
    match c with
    | .start => { s with world := w, up := true }
    | _ => { s with world := w }

def step (s : StoreState) : StoreEvent → StoreState
  | .call c choices =>
    if s.accepts c then
      match c.program.run s.world choices with
      | (w, none) => (s.calling c).ended w
      | (w, some reply) => (s.calling c).replied c w reply
    else s
  | .kill => s.ended s.world
  | .powerLoss mask => s.ended (s.world.powerLoss mask)

abbrev run (s : StoreState) (events : List StoreEvent) : StoreState := runEvents step s events

abbrev Along (ok : StoreState → StoreEvent → Prop) (s : StoreState) (events : List StoreEvent) :
    Prop :=
  Foundation.Along step ok s events

inductive Outcome (s : StoreState) : StoreEvent → StoreState → Prop
  | refused (e) : Outcome s e s
  | cut (c choices w) (accepted : s.accepts c = true) (moves : Moves c s.world.issued s.world w) :
      Outcome s (.call c choices) ((s.calling c).ended w)
  | replied (c choices w reply) (accepted : s.accepts c = true)
      (moves : Moves c s.world.issued s.world w) (holds : StoreReply.Holds c s.world w reply) :
      Outcome s (.call c choices) ((s.calling c).replied c w reply)
  | kill : Outcome s .kill (s.ended s.world)
  | powerLoss (mask) : Outcome s (.powerLoss mask) (s.ended (s.world.powerLoss mask))

theorem step_outcome {s : StoreState} (sound : s.world.Sound) (e : StoreEvent) :
    Outcome s e (s.step e) := by
  cases e with
  | kill => exact .kill
  | powerLoss mask => exact .powerLoss mask
  | call c choices =>
    by_cases accepted : s.accepts c = true
    · have truth := run_ensures (program_spec c sound) choices
      simp only [step, if_pos accepted, StoreM.run]
      generalize Program.run storeHandler c.program s.world choices = result at truth ⊢
      obtain ⟨w, _ | reply⟩ := result
      · exact .cut c choices w accepted truth
      · exact .replied c choices w reply accepted truth.1 truth.2
    · simp only [step, if_neg accepted]
      exact .refused _

end StoreState

theorem StoreWorld.Sound.kill {w : StoreWorld} (sound : w.Sound) : w.kill.Sound :=
  ⟨sound.durable, sound.nodup⟩

theorem StoreWorld.Sound.powerLoss {w : StoreWorld} (sound : w.Sound) (mask : List Bool) :
    (w.powerLoss mask).Sound := ⟨fun id => (sound.durable id).powerLoss mask, sound.nodup⟩

theorem StoreWorld.sound_empty : ({} : StoreWorld).Sound := by
  refine ⟨fun id changes part op found => ?_, List.nodup_nil⟩
  rw [List.sublist_nil.mp part] at found
  cases found

namespace StoreState

variable {s : StoreState}

@[simp] theorem calling_up (c : StoreCall) : (s.calling c).up = s.up := by cases c <;> rfl

@[simp] theorem calling_created (c : StoreCall) : (s.calling c).created = s.created := by
  cases c <;> rfl

@[simp] theorem calling_answers (c : StoreCall) : (s.calling c).answers = s.answers := by
  cases c <;> rfl

theorem calling_active {c : StoreCall} {op : Operation} (h : op ∈ (s.calling c).active) :
    op ∈ s.active ∧ ∀ e, c ≠ .settle op.id e := by
  cases c with
  | settle id e =>
    simp only [calling, List.mem_filter, decide_eq_true_eq] at h
    exact ⟨h.1, fun e' same => by cases same; exact h.2 rfl⟩
  | _ => exact ⟨h, fun _ => by simp⟩

end StoreState
end InstanceManager
