import CubridOperator.Controller.OperatorRuns

/-!
What the log of a controller says of the versions of its object.
-/
namespace Controller
open Foundation InstanceManager List

variable {σ β ρ : Type} {Q : ρ → Type} {rules : Rules σ β ρ Q} {persist : σ → σ}
  {edits : σ → σ → Prop} {initial : σ} {log past : OperatorLog σ β ρ Q}

theorem storedIn_mono (before : past <:+ log) : storedIn initial past ⊆ storedIn initial log := by
  obtain ⟨newer, rfl⟩ := before
  intro s stored
  simp only [storedIn, filterMap_append, append_assoc, mem_append] at stored ⊢
  exact .inr stored

theorem mem_storedIn_of_wrote (initial : σ) {who : Option Nat} {before after : σ}
    (wrote : (who, .wrote before after) ∈ log) : after ∈ storedIn initial log :=
  mem_append_left _ (mem_filterMap.mpr ⟨_, wrote, rfl⟩)

section

variable (justified : Justified (Ruled rules persist edits initial) log)
include justified

theorem goesBy_stored {i : Nat} {b : σ} {seen : List (Entry σ β ρ Q)} (logged : LoggedBy i seen log)
    (goes : GoesBy b seen) : b ∈ storedIn initial log := by
  rcases goes with read | ⟨before, wrote⟩
  · obtain ⟨past, inside, stored, -⟩ := justified.of_mem (logged _ read)
    exact storedIn_mono ((suffix_cons _ _).trans inside) stored
  · exact mem_storedIn_of_wrote initial (logged _ wrote)

theorem wrote_over_latest {i : Nat} {before after : σ}
    (wrote : (some i, .wrote before after) :: past <:+ log) :
    before = latest initial past ∧
      ∃ object seen, after = persist object ∧ Recalls i seen past ∧ GoesBy before seen ∧
        rules.mayWrite before object seen := (justified.suffix wrote).1

theorem read_once {i : Nat} {s s' : σ} {past' : OperatorLog σ β ρ Q}
    (first : (some i, .read s) :: past <:+ log) (second : (some i, .read s') :: past' <:+ log) :
    s = s' ∧ past = past' := by
  have once := (justified.suffix first).1.2
  have once' := (justified.suffix second).1.2
  rcases suffix_or_suffix_of_suffix first second with before | before <;>
    rcases suffix_cons_iff.mp before with same | earlier
  · cases same
    exact ⟨rfl, rfl⟩
  · exact absurd (earlier.subset mem_cons_self) (once' s)
  · cases same
    exact ⟨rfl, rfl⟩
  · exact absurd (earlier.subset mem_cons_self) (once s')

theorem read_unique {i : Nat} {s s' : σ} (first : (some i, .read s) ∈ log)
    (second : (some i, .read s') ∈ log) : s = s' := by
  obtain ⟨_, inside, -⟩ := justified.of_mem first
  obtain ⟨_, inside', -⟩ := justified.of_mem second
  exact (read_once justified inside inside').1

end

theorem latest_induction (Inv : OperatorLog σ β ρ Q → Prop)
    (justified : Justified (Ruled rules persist edits initial) log) (init : Inv [])
    (quiet : ∀ e past, e.2.stores = none → Justified (Ruled rules persist edits initial) past →
      Ruled rules persist edits initial e past → Inv past → Inv (e :: past))
    (wrote : ∀ i object seen past, Recalls i seen past → GoesBy (latest initial past) seen →
      rules.mayWrite (latest initial past) object seen →
      Justified (Ruled rules persist edits initial) past →
      Inv past → Inv ((some i, .wrote (latest initial past) (persist object)) :: past))
    (edited : ∀ who after past, edits (latest initial past) after → Inv past →
      Inv ((who, .edited after) :: past)) :
    Inv log := by
  refine justified.induction Inv init fun e past before holds inv => ?_
  obtain ⟨who, e⟩ := e
  cases e with
  | wrote old after =>
    cases who with
    | none => exact absurd holds id
    | some i =>
      obtain ⟨rfl, object, seen, rfl, logged, goes, may⟩ := holds
      exact wrote i object seen past logged goes may before inv
  | edited after => cases who <;> exact edited _ after past holds inv
  | _ => exact quiet _ past rfl before holds inv

/-- What every version keeps of each version before it. -/
theorem latest_keeps (R : σ → σ → Prop)
    (justified : Justified (Ruled rules persist edits initial) log) (refl : ∀ s, R s s)
    (wrote : ∀ s object seen past, rules.mayWrite (latest initial past) object seen →
      Justified (Ruled rules persist edits initial) past → s ∈ storedIn initial past →
      R s (latest initial past) → R s (persist object))
    (edited : ∀ s before after, edits before after → R s before → R s after) :
    ∀ s ∈ storedIn initial log, R s (latest initial log) := by
  have step : ∀ {e : Option Nat × Entry σ β ρ Q} {past : OperatorLog σ β ρ Q} {new : σ},
      e.2.stores = some new →
      (∀ s ∈ storedIn initial past, R s new) → ∀ s ∈ storedIn initial (e :: past),
      R s (latest initial (e :: past)) := by
    intro e past new is older s stored
    rw [latest_cons_of_some is]
    rw [storedIn_cons_of_some is] at stored
    rcases mem_cons.mp stored with rfl | before
    · exact refl _
    · exact older s before
  refine latest_induction (fun log => ∀ s ∈ storedIn initial log, R s (latest initial log))
    justified ?_ ?_ ?_ ?_
  · intro s stored
    rw [mem_singleton.mp stored]
    exact refl _
  · intro e past quiet _ _ before
    rwa [storedIn_cons_of_none quiet, latest_cons_of_none quiet]
  · intro i object seen past _ _ may justified before
    exact step rfl fun s older => wrote s object seen past may justified older (before s older)
  · intro who after past edit before
    exact step rfl fun s older => edited s _ after edit (before s older)

theorem stored_pairwise {R : σ → σ → Prop}
    (justified : Justified (Ruled rules persist edits initial) log)
    (keeps : ∀ log, Justified (Ruled rules persist edits initial) log → ∀ s ∈ storedIn initial log,
      R s (latest initial log)) :
    (storedIn initial log).Pairwise fun later earlier => R earlier later := by
  refine justified.induction
    (fun log => (storedIn initial log).Pairwise fun later earlier => R earlier later)
    (pairwise_singleton _ _) fun e past before holds pairwise => ?_
  cases is : e.2.stores with
  | none => rwa [storedIn_cons_of_none is]
  | some s =>
    rw [storedIn_cons_of_some is]
    refine pairwise_cons.mpr ⟨fun older stored => ?_, pairwise⟩
    have kept := keeps (e :: past) ⟨holds, before⟩ older (storedIn_mono (suffix_cons _ _) stored)
    rwa [latest_cons_of_some is] at kept

theorem stored_induction (P : OperatorLog σ β ρ Q → σ → Prop)
    (justified : Justified (Ruled rules persist edits initial) log)
    (mono : ∀ e past s, P past s → P (e :: past) s) (init : P [] initial)
    (wrote : ∀ i object seen past, Recalls i seen past → GoesBy (latest initial past) seen →
      rules.mayWrite (latest initial past) object seen →
      Justified (Ruled rules persist edits initial) past →
      (∀ p, p <:+ past → ∀ s ∈ storedIn initial p, P p s) →
      P ((some i, .wrote (latest initial past) (persist object)) :: past) (persist object))
    (edited : ∀ past after, edits (latest initial past) after → P past (latest initial past) →
      P past after) :
    ∀ p, p <:+ log → ∀ s ∈ storedIn initial p, P p s := by
  have step : ∀ {e : Option Nat × Entry σ β ρ Q} {past : OperatorLog σ β ρ Q},
      (∀ p, p <:+ past → ∀ s ∈ storedIn initial p, P p s) →
      (∀ s, e.2.stores = some s → P (e :: past) s) →
      ∀ p, p <:+ e :: past → ∀ s ∈ storedIn initial p, P p s := by
    intro e past before new p inside s stored
    rcases suffix_cons_iff.mp inside with rfl | inside
    · cases is : e.2.stores with
      | none =>
        exact mono e past s (before past (suffix_refl _) s (storedIn_cons_of_none is ▸ stored))
      | some s' =>
        rcases mem_cons.mp (storedIn_cons_of_some is ▸ stored) with rfl | older
        · exact new s is
        · exact mono e past s (before past (suffix_refl _) s older)
    · exact before p inside s stored
  refine latest_induction (fun log => ∀ p, p <:+ log → ∀ s ∈ storedIn initial p, P p s)
    justified ?_ ?_ ?_ ?_
  · intro p inside s stored
    obtain rfl := suffix_nil.mp inside
    exact mem_singleton.mp stored ▸ init
  · intro e past quiet _ _ before
    exact step before fun s is => nomatch quiet.symm.trans is
  · intro i object seen past recalls goes may justified before
    refine step before fun s is => ?_
    cases is
    exact wrote i object seen past recalls goes may justified before
  · intro who after past edit before
    refine step before fun s is => ?_
    cases is
    exact mono _ past after (edited past after edit (before past (suffix_refl _) _ latest_mem))

section Order

variable {i : Nat} {t : Int}

theorem began_before (justified : Justified (Ruled rules persist edits initial) log)
    (began : (some i, .began t) :: past <:+ log) {e : Entry σ β ρ Q} {earlier : OperatorLog σ β ρ Q}
    (other : e ≠ .began t) (logged : (some i, e) :: earlier <:+ log) :
    (some i, .began t) :: past <:+ earlier := by
  rcases suffix_or_suffix_of_suffix began logged with inside | inside
  · rcases suffix_cons_iff.mp inside with same | inside
    · exact absurd (Prod.mk.inj (cons.inj same).1).2.symm other
    · exact inside
  · rcases suffix_cons_iff.mp inside with same | inside
    · exact absurd (Prod.mk.inj (cons.inj same).1).2 other
    · exact absurd (inside.subset mem_cons_self) ((justified.suffix began).1.2 e)

theorem began_le_time (justified : Justified (Ruled rules persist edits initial) log)
    (began : (some i, .began t) :: past <:+ log) {t' : Int} (told : (some i, .time t') ∈ log) :
    t ≤ t' := by
  obtain ⟨earlier, inside, latest⟩ := justified.of_mem told
  have before := began_before justified began (by simp) inside
  exact latest (some i) t (.inr (before.subset mem_cons_self))

end Order

section Pools

variable {ε : Type} {model : OperatorModel σ β ρ Q ε} {done : OperatorPart σ β ρ Q → Unit → Prop}

theorem OperatorModel.Keeps.assumed (keeps : model.Keeps rules done)
    (assumed : rules.assumes initial)
    (justified : Justified (Ruled rules model.persist model.edits initial) log) :
    ∀ s ∈ storedIn initial log, rules.assumes s := by
  refine stored_induction (fun _ s => rules.assumes s) justified (fun _ _ _ => id) assumed ?_ ?_ log
    (suffix_refl _)
  · intro i object seen past _ _ may _ before
    exact keeps.wrote (before past (suffix_refl _) _ latest_mem) may
  · rintro past after ⟨x, rfl⟩ sound
    exact keeps.edited x sound

theorem OperatorModel.log_justified [DecidableEq β] (keeps : model.Keeps rules done) {initial : σ}
    (assumed : rules.assumes initial) (events : List (OperatorEvent ρ Q ε)) :
    Justified (Ruled rules model.persist model.edits initial)
      (model.run initial events).world.log := by
  obtain ⟨parts, plays⟩ := model.plays_run keeps assumed events
  have ruled := plays.holds.ruled
  rwa [model.run_initial] at ruled

end Pools
end Controller
