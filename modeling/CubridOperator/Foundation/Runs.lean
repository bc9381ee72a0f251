/-!
Runs of a machine over a list of events, and the events that meet a condition
in the states they are taken from.
-/
namespace Foundation

variable {σ ε : Type}

def runEvents (step : σ → ε → σ) (s : σ) (events : List ε) : σ := events.foldl step s

def Along (step : σ → ε → σ) (ok : σ → ε → Prop) : σ → List ε → Prop
  | _, [] => True
  | s, e :: events => ok s e ∧ Along step ok (step s e) events

instance decidableAlong (step : σ → ε → σ) (ok : σ → ε → Prop) [∀ s e, Decidable (ok s e)] :
    (s : σ) → (events : List ε) → Decidable (Along step ok s events)
  | _, [] => inferInstanceAs (Decidable True)
  | s, e :: events => @instDecidableAnd _ _ _ (decidableAlong step ok (step s e) events)

variable {step : σ → ε → σ} {s : σ}

/-- What one allowed event keeps, a run of allowed events keeps. -/
theorem runEvents_invariant {ok : σ → ε → Prop} (Inv : σ → Prop)
    (kept : ∀ s e, ok s e → Inv s → Inv (step s e)) (events : List ε) (init : Inv s)
    (along : Along step ok s events) : Inv (runEvents step s events) := by
  induction events generalizing s with
  | nil => exact init
  | cons e events ih => exact ih (kept s e along.1 init) along.2

theorem runEvents_kept (Inv : σ → Prop) (kept : ∀ s e, Inv s → Inv (step s e)) (events : List ε)
    (init : Inv s) : Inv (runEvents step s events) := by
  induction events generalizing s with
  | nil => exact init
  | cons e events ih => exact ih (kept s e init)

theorem runEvents_append (step : σ → ε → σ) (s : σ) (events later : List ε) :
    runEvents step s (events ++ later) = runEvents step (runEvents step s events) later :=
  List.foldl_append

theorem along_append {ok : σ → ε → Prop} (events : List ε) {later : List ε} :
    Along step ok s (events ++ later) ↔ Along step ok s events ∧
    Along step ok (runEvents step s events) later := by
  induction events generalizing s with
  | nil => simp [Along, runEvents]
  | cons e events ih =>
    constructor
    · intro along
      have rest := ih.mp along.2
      exact ⟨⟨along.1, rest.1⟩, rest.2⟩
    · intro along
      exact ⟨along.1.1, ih.mpr ⟨along.1.2, along.2⟩⟩

/-- What holds after a run and not before it was brought about by one of its events. -/
theorem runEvents_change (holds : σ → Prop) (events : List ε) (before : ¬ holds s)
    (after : holds (runEvents step s events)) :
    ∃ earlier e later, events = earlier ++ e :: later ∧ ¬ holds (runEvents step s earlier) ∧
      holds (step (runEvents step s earlier) e) := by
  induction events generalizing s with
  | nil => exact absurd after before
  | cons e events ih =>
    by_cases now : holds (step s e)
    · exact ⟨[], e, events, rfl, before, now⟩
    · obtain ⟨earlier, first, later, rfl, still, change⟩ := ih now after
      exact ⟨e :: earlier, first, later, rfl, still, change⟩

end Foundation
