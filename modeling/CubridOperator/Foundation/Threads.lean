import CubridOperator.Foundation.Program
import Mathlib.Data.Option.Basic

/-!
Threads that run programs over one world. Each keeps to a protocol by the part
it plays; an invariant ties the parts of all threads to the world.
-/
namespace Foundation
open List

variable {E : Type} {Ans : E → Type} {α β World Choice Part : Type}

/-- What a thread may ask for, and the part it plays once it is answered. -/
structure Protocol (E : Type) (Ans : E → Type) (Part : Type) where
  may : Part → E → Prop
  next : Part → (e : E) → Ans e → Part

variable {p : Program E Ans α}

namespace Program

/-- Every effect of the program is one that the protocol allows where it is
    asked for, and `done` holds of the last part and the value returned. -/
def Follows (P : Protocol E Ans Part) (done : Part → α → Prop) : Part → Program E Ans α → Prop
  | part, .ret value => done part value
  | part, .call e k => P.may part e ∧ ∀ a, (k a).Follows P done (P.next part e a)

variable {P : Protocol E Ans Part} {done : Part → α → Prop} {part : Part}

theorem follows_step {e : E} {next : Ans e → Program E Ans α} (allowed : P.may part e)
    (rest : ∀ a, (next a).Follows P done (P.next part e a)) :
    ((ask e : Program E Ans (Ans e)) >>= next).Follows P done part := ⟨allowed, rest⟩

theorem Follows.mono {wider : Part → α → Prop} (follows : p.Follows P done part)
    (implies : ∀ part value, done part value → wider part value) : p.Follows P wider part := by
  induction p generalizing part with
  | ret value => exact implies part value follows
  | call e k ih => exact ⟨follows.1, fun a => ih a (follows.2 a)⟩

theorem Follows.bind {p : Program E Ans β} {next : β → Program E Ans α} {mid : Part → β → Prop}
    (first : p.Follows P mid part)
    (rest : ∀ part value, mid part value → (next value).Follows P done part) :
    (p >>= next).Follows P done part := by
  induction p generalizing part with
  | ret value => exact rest part value first
  | call e k ih => exact ⟨first.1, fun a => ih a (first.2 a)⟩

theorem Only.follows {Q : E → Prop} (only : p.Only Q)
    (neutral : ∀ e, Q e → P.may part e ∧ ∀ a, P.next part e a = part) :
    p.Follows P (fun last _ => last = part) part := by
  induction p with
  | ret value => rfl
  | call e k ih =>
    obtain ⟨allowed, still⟩ := neutral e only.1
    refine ⟨allowed, fun a => ?_⟩
    rw [still a]
    exact ih a (only.2 a)

theorem Follows.only {Q : E → Prop} (follows : p.Follows P done part)
    (all : ∀ part e, P.may part e → Q e) : p.Only Q := by
  induction p generalizing part with
  | ret value => trivial
  | call e k ih => exact ⟨all part e follows.1, fun a => ih a (follows.2 a)⟩

/-- A protocol is followed as a part of a larger one. -/
theorem Follows.lift {Whole : Type} {R : Protocol E Ans Whole} {wider : Whole → α → Prop}
    (f : Part → Whole) (may : ∀ part e, P.may part e → R.may (f part) e)
    (next : ∀ part e a, P.may part e → R.next (f part) e a = f (P.next part e a))
    (ends : ∀ part value, done part value → wider (f part) value)
    (follows : p.Follows P done part) : p.Follows R wider (f part) := by
  induction p generalizing part with
  | ret value => exact ends part value follows
  | call e k ih =>
    refine ⟨may part e follows.1, fun a => ?_⟩
    rw [next part e a follows.1]
    exact ih a (follows.2 a)

end Program

structure Thread (E : Type) (Ans : E → Type) (World α : Type) where
  world : World
  program : Program E Ans α

namespace Thread

def act (h : Handler E Ans World Choice) (t : Thread E Ans World α) (c : Choice) :
    Thread E Ans World α :=
  match t.program with
  | .ret _ => t
  | .call e k =>
    match h t.world e c with
    | (w, none) => { t with world := w }
    | (w, some a) => { world := w, program := k a }

def result (t : Thread E Ans World α) : Option α :=
  match t.program with
  | .ret value => some value
  | .call _ _ => none

def Ensures (h : Handler E Ans World Choice) (crash : World → Prop) (post : α → World → Prop)
    (t : Thread E Ans World α) : Prop := t.program.Ensures h crash post t.world

variable {h g : Handler E Ans World Choice} {crash : World → Prop} {post : α → World → Prop}
  {t : Thread E Ans World α}

theorem Ensures.act (holds : t.Ensures h crash post) (picks : ∀ w e c, ∃ c', g w e c = h w e c')
    (answers : ∀ w e c, ((h w e c).2).isSome = true) (c : Choice) :
    (t.act g c).Ensures h crash post := by
  obtain ⟨w, p⟩ := t
  cases p with
  | ret value => exact holds
  | call e k =>
    obtain ⟨c', same⟩ := picks w e c
    have answered := holds.2 c'
    have given := answers w e c'
    unfold Thread.act Thread.Ensures
    simp only [same]
    generalize h w e c' = outcome at answered given
    obtain ⟨w', _ | a⟩ := outcome
    · cases given
    · exact answered

theorem Ensures.result (holds : t.Ensures h crash post) {value : α} (is : t.result = some value) :
    post value t.world := by
  obtain ⟨w, p⟩ := t
  cases p with
  | ret got =>
    obtain rfl := Option.some.inj is
    exact holds
  | call e k => cases is

theorem act_world {R : World → World → Prop} (refl : ∀ w, R w w) (moves : ∀ w e c, R w (h w e c).1)
    (c : Choice) : R t.world (t.act h c).world := by
  obtain ⟨w, p⟩ := t
  cases p with
  | ret value => exact refl w
  | call e k =>
    have moved := moves w e c
    unfold Thread.act
    dsimp only
    generalize h w e c = outcome at moved
    obtain ⟨w', _ | a⟩ := outcome
    · exact moved
    · exact moved

end Thread

structure Pool (E : Type) (Ans : E → Type) (World α : Type) where
  world : World
  threads : List (Program E Ans α)

namespace Pool

def act (h : Nat → Handler E Ans World Choice) (pool : Pool E Ans World α) (i : Nat) (c : Choice) :
    Pool E Ans World α :=
  match pool.threads[i]? with
  | some (.call e k) =>
    match h i pool.world e c with
    | (w, none) => { pool with world := w }
    | (w, some a) => { world := w, threads := pool.threads.set i (k a) }
  | _ => pool

def spawn (pool : Pool E Ans World α) (p : Program E Ans α) : Pool E Ans World α :=
  { pool with threads := pool.threads ++ [p] }

/-- The threads play these parts, and the parts and the world satisfy `Inv`. -/
structure Plays (P : Protocol E Ans Part) (done : Part → α → Prop) (Inv : World → List Part → Prop)
    (pool : Pool E Ans World α) (parts : List Part) : Prop where
  follow : ∀ i : Nat, Option.Rel (fun part p => Program.Follows P done part p) parts[i]?
    pool.threads[i]?
  holds : Inv pool.world parts

def Step (P : Protocol E Ans Part) (h : Nat → Handler E Ans World Choice)
    (Inv : World → List Part → Prop) (e : E) : Prop :=
  ∀ w parts (i : Nat) part c, Inv w parts → parts[i]? = some part → P.may part e →
    match h i w e c with
    | (w', none) => Inv w' parts
    | (w', some a) => Inv w' (parts.set i (P.next part e a))

variable {P : Protocol E Ans Part} {done : Part → α → Prop} {Inv : World → List Part → Prop}
  {h : Nat → Handler E Ans World Choice} {pool : Pool E Ans World α} {parts : List Part}

section

variable (plays : Plays P done Inv pool parts)
include plays

/-- A step of one thread, by what the effect it asks for does to the invariant. -/
theorem Plays.act_of {Inv' : World → List Part → Prop} (i : Nat) (c : Choice)
    (kept : ∀ e k part, pool.threads[i]? = some (.call e k) → parts[i]? = some part → P.may part e →
      match h i pool.world e c with
      | (w', none) => Inv' w' parts
      | (w', some a) => Inv' w' (parts.set i (P.next part e a)))
    (idle : Inv' pool.world parts) : ∃ parts', Plays P done Inv' (pool.act h i c) parts' := by
  have there := plays.follow i
  unfold Pool.act
  split
  · rename_i e k here
    rw [here] at there
    obtain ⟨part, played, allowed, rest⟩ : ∃ part, parts[i]? = some part ∧
        P.may part e ∧ ∀ a, (k a).Follows P done (P.next part e a) := by
      generalize parts[i]? = played at there
      cases there with
      | some follows => exact ⟨_, rfl, follows.1, follows.2⟩
    have kept := kept e k part here played allowed
    split
    · rename_i w unanswered
      rw [unanswered] at kept
      exact ⟨parts, plays.follow, kept⟩
    · rename_i w a answered
      rw [answered] at kept
      refine ⟨parts.set i (P.next part e a), fun j => ?_, kept⟩
      have inside := (List.getElem?_eq_some_iff.mp played).1
      have standing := (List.getElem?_eq_some_iff.mp here).1
      by_cases same : i = j
      · subst same
        rw [getElem?_set_self inside, getElem?_set_self standing]
        exact .some (rest a)
      · rw [getElem?_set_ne same, getElem?_set_ne same]
        exact plays.follow j
  · exact ⟨parts, plays.follow, idle⟩

theorem Plays.act (step : ∀ e, Step P h Inv e) (i : Nat) (c : Choice) :
    ∃ parts', Plays P done Inv (pool.act h i c) parts' :=
  plays.act_of i c (fun e _ part _ played allowed => step e pool.world parts i part c plays.holds
    played allowed) plays.holds

theorem Plays.act_world {R : World → World → Prop} (refl : ∀ w, R w w)
    (moves : ∀ e w parts (i : Nat) part c, Inv w parts → parts[i]? = some part → P.may part e →
      R w (h i w e c).1)
    (i : Nat) (c : Choice) : R pool.world (pool.act h i c).world := by
  have there := plays.follow i
  unfold Pool.act
  split
  · rename_i e k here
    rw [here] at there
    generalize played : parts[i]? = part at there
    cases there with
    | some follows =>
      have moved := moves e pool.world parts i _ c plays.holds played follows.1
      generalize h i pool.world e c = outcome at moved ⊢
      obtain ⟨w, _ | a⟩ := outcome <;> exact moved
  · exact refl _

theorem Plays.length_eq : parts.length = pool.threads.length := by
  have bound : ∀ i : Nat, parts.length ≤ i ↔ pool.threads.length ≤ i := fun i => by
    have related := plays.follow i
    rw [← List.getElem?_eq_none_iff, ← List.getElem?_eq_none_iff]
    generalize parts[i]? = part at related ⊢
    generalize pool.threads[i]? = p at related ⊢
    cases related <;> simp
  exact Nat.le_antisymm ((bound _).mpr (Nat.le_refl _)) ((bound _).mp (Nat.le_refl _))

theorem Plays.spawn {part : Part} (follows : p.Follows P done part)
    (kept : Inv pool.world (parts ++ [part])) :
    Plays P done Inv (pool.spawn p) (parts ++ [part]) := by
  refine ⟨fun i => ?_, kept⟩
  have lengths := plays.length_eq
  simp only [Pool.spawn, getElem?_append, lengths]
  split
  · exact plays.follow i
  · by_cases last : i - pool.threads.length = 0
    · simp only [last, getElem?_cons_zero]
      exact .some follows
    · rw [getElem?_eq_none (by simp; omega), getElem?_eq_none (by simp; omega)]
      exact .none

theorem Plays.returned {i : Nat} {value : α} (here : pool.threads[i]? = some (.ret value)) :
    ∃ part, parts[i]? = some part ∧ done part value := by
  have related := plays.follow i
  rw [here] at related
  generalize parts[i]? = part at related
  cases related with
  | some follows => exact ⟨_, rfl, follows⟩

end

end Pool
end Foundation
