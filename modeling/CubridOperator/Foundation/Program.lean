import Mathlib.Data.List.Perm.Basic

/-!
Programs as trees of effects. A handler gives an effect its meaning on a world;
a run that is out of choices ends where it stands, as a killed process does.
-/
namespace Foundation

inductive Program (E : Type) (Ans : E → Type) (α : Type) where
  | ret (value : α)
  | call (effect : E) (next : Ans effect → Program E Ans α)

/-- What an effect does to a world under a choice. No answer means that the
    process ended inside the effect. -/
abbrev Handler (E : Type) (Ans : E → Type) (World Choice : Type) :=
  World → (e : E) → Choice → World × Option (Ans e)

namespace Program

variable {E : Type} {Ans : E → Type} {α β World Choice : Type}

def bind (p : Program E Ans α) (next : α → Program E Ans β) : Program E Ans β :=
  match p with
  | .ret value => next value
  | .call e k => .call e fun a => (k a).bind next

instance : Monad (Program E Ans) where
  pure := .ret
  bind := bind

theorem bind_bind {γ : Type} (p : Program E Ans α) (f : α → Program E Ans β)
    (g : β → Program E Ans γ) : (p >>= f) >>= g = p >>= fun a => f a >>= g := by
  change (p.bind f).bind g = p.bind fun a => (f a).bind g
  induction p with
  | ret value => rfl
  | call e k ih => simp only [Program.bind, ih]

def ask (e : E) : Program E Ans (Ans e) := .call e .ret

def run (h : Handler E Ans World Choice) :
    Program E Ans α → World → List Choice → World × Option α
  | .ret value, w, _ => (w, some value)
  | .call _ _, w, [] => (w, none)
  | .call e k, w, c :: cs =>
    match h w e c with
    | (w', none) => (w', none)
    | (w', some a) => (k a).run h w' cs

def finish (h : Handler E Ans World Choice) (c : Choice) :
    Program E Ans α → World → World × Option α
  | .ret value, w => (w, some value)
  | .call e k, w =>
    match h w e c with
    | (w', none) => (w', none)
    | (w', some a) => (k a).finish h c w'

/-- `Ensures h crash p post w`: wherever a run of `p` from `w` ends early the
    world satisfies `crash`, and where it returns, `post` holds of the value. -/
def Ensures (h : Handler E Ans World Choice) (crash : World → Prop) :
    Program E Ans α → (α → World → Prop) → World → Prop
  | .ret value, post, w => post value w
  | .call e k, post, w => crash w ∧ ∀ c,
      match h w e c with
      | (w', none) => crash w'
      | (w', some a) => (k a).Ensures h crash post w'

variable {h : Handler E Ans World Choice} {crash : World → Prop}

@[simp] theorem ensures_pure (value : α) (post : α → World → Prop) (w : World) :
    Ensures h crash (pure value : Program E Ans α) post w ↔ post value w := Iff.rfl

variable {p : Program E Ans α} {w : World}

theorem Ensures.mono {first second : α → World → Prop} (holds : p.Ensures h crash first w)
    (implies : ∀ value w', first value w' → second value w') : p.Ensures h crash second w := by
  induction p generalizing w with
  | ret value => exact implies value w holds
  | call e k ih =>
    refine ⟨holds.1, fun c => ?_⟩
    have answered := holds.2 c
    split at answered
    · assumption
    · exact ih _ answered

variable {next : α → Program E Ans β}

theorem ensures_bind {post : β → World → Prop} :
    (p >>= next).Ensures h crash post w ↔
      p.Ensures h crash (fun value w' => (next value).Ensures h crash post w') w := by
  induction p generalizing w with
  | ret value => exact Iff.rfl
  | call e k ih =>
    refine and_congr_right fun _ => forall_congr' fun c => ?_
    generalize h w e c = outcome
    obtain ⟨w', _ | a⟩ := outcome
    · exact Iff.rfl
    · exact ih a

theorem Ensures.bind {mid : α → World → Prop} {post : β → World → Prop}
    (first : p.Ensures h crash mid w)
    (rest : ∀ value w', mid value w' → (next value).Ensures h crash post w') :
    (p >>= next).Ensures h crash post w := ensures_bind.mpr (first.mono rest)

variable {post : α → World → Prop}

theorem Ensures.weaken {wider : World → Prop} (holds : p.Ensures h crash post w)
    (implies : ∀ w', crash w' → wider w') : p.Ensures h wider post w := by
  induction p generalizing w with
  | ret value => exact holds
  | call e k ih =>
    refine ⟨implies w holds.1, fun c => ?_⟩
    have answered := holds.2 c
    split at answered
    · exact implies _ answered
    · exact ih _ answered

theorem Ensures.and {also : World → Prop} {post more : α → World → Prop}
    (first : p.Ensures h crash post w) (second : p.Ensures h also more w) :
    p.Ensures h (fun w' => crash w' ∧ also w') (fun value w' => post value w' ∧
      more value w') w := by
  induction p generalizing w with
  | ret value => exact ⟨first, second⟩
  | call e k ih =>
    refine ⟨⟨first.1, second.1⟩, fun c => ?_⟩
    have one := first.2 c
    have two := second.2 c
    generalize h w e c = outcome at one two ⊢
    obtain ⟨w', _ | a⟩ := outcome
    · exact ⟨one, two⟩
    · exact ih a one two

theorem Ensures.lift {Wide : Type} {g : Handler E Ans Wide Choice} (part : Wide → World)
    (same : ∀ v e c, h (part v) e c = (part (g v e c).1, (g v e c).2)) {v : Wide}
    (holds : p.Ensures h crash post (part v)) :
    p.Ensures g (fun v' => crash (part v')) (fun value v' => post value (part v')) v := by
  induction p generalizing v with
  | ret value => exact holds
  | call e k ih =>
    refine ⟨holds.1, fun c => ?_⟩
    have answered := holds.2 c
    rw [same] at answered
    generalize g v e c = outcome at answered ⊢
    obtain ⟨v', _ | a⟩ := outcome
    · exact answered
    · exact ih a answered

theorem Ensures.here (holds : p.Ensures h crash post w)
    (ended : ∀ value w', post value w' → crash w') : crash w := by
  cases p with
  | ret value => exact ended value w holds
  | call e k => exact holds.1

theorem run_ensures (holds : p.Ensures h crash post w) (cs : List Choice) :
    match p.run h w cs with
    | (w', none) => crash w'
    | (w', some value) => post value w' := by
  induction p generalizing w cs with
  | ret value => exact holds
  | call e k ih =>
    cases cs with
    | nil => exact holds.1
    | cons c cs =>
      have answered := holds.2 c
      simp only [run]
      generalize h w e c = outcome at answered ⊢
      obtain ⟨w', _ | a⟩ := outcome
      · exact answered
      · exact ih a answered cs

theorem finish_ensures (holds : p.Ensures h crash post w) (c : Choice) :
    match p.finish h c w with
    | (w', none) => crash w'
    | (w', some value) => post value w' := by
  induction p generalizing w with
  | ret value => exact holds
  | call e k ih =>
    have answered := holds.2 c
    simp only [finish]
    generalize h w e c = outcome at answered ⊢
    obtain ⟨w', _ | a⟩ := outcome
    · exact answered
    · exact ih a answered

section Only

/-- Every effect that a run of the program may ask for satisfies `Q`. -/
def Only (Q : E → Prop) : Program E Ans α → Prop
  | .ret _ => True
  | .call e k => Q e ∧ ∀ a, (k a).Only Q

variable {Q : E → Prop}

theorem only_pure (value : α) : (pure value : Program E Ans α).Only Q := trivial

theorem only_ask {e : E} (holds : Q e) : (ask e : Program E Ans (Ans e)).Only Q :=
  ⟨holds, fun _ => trivial⟩

theorem Only.bind (first : p.Only Q) (rest : ∀ value, (next value).Only Q) :
    (p >>= next).Only Q := by
  induction p with
  | ret value => exact rest value
  | call e k ih => exact ⟨first.1, fun a => ih a (first.2 a)⟩

theorem Only.mono {wider : E → Prop} (only : p.Only Q) (implies : ∀ e, Q e → wider e) :
    p.Only wider := by
  induction p with
  | ret value => trivial
  | call e k ih => exact ⟨implies e only.1, fun a => ih a (only.2 a)⟩

theorem Only.ensures (only : p.Only Q) (still : ∀ e c, Q e → (h w e c).1 = w) (here : crash w) :
    p.Ensures h crash (fun _ w' => w' = w) w := by
  induction p with
  | ret value => rfl
  | call e k ih =>
    refine ⟨here, fun c => ?_⟩
    have same := still e c only.1
    generalize h w e c = outcome at same ⊢
    obtain ⟨w', _ | a⟩ := outcome
    · exact same ▸ here
    · obtain rfl : w' = w := same
      exact ih a (only.2 a)

end Only

section Under

/-- The handler of an environment in which only what `ok` allows happens. -/
def under (h : Handler E Ans World Choice) (ok : World → E → Choice → Bool) :
    Handler E Ans World Choice :=
  fun w e c => if ok w e c then h w e c else (w, none)

def meets (h : Handler E Ans World Choice) (ok : World → E → Choice → Bool) :
    Program E Ans α → World → List Choice → Bool
  | .call e k, w, c :: cs => ok w e c &&
    match h w e c with
    | (_, none) => true
    | (w', some a) => (k a).meets h ok w' cs
  | _, _, _ => true

variable {ok : World → E → Choice → Bool}

theorem run_under {cs : List Choice} (met : p.meets h ok w cs = true) :
    p.run (under h ok) w cs = p.run h w cs := by
  induction p generalizing w cs with
  | ret value => rfl
  | call e k ih =>
    cases cs with
    | nil => rfl
    | cons c cs =>
      simp only [meets, Bool.and_eq_true] at met
      obtain ⟨allowed, rest⟩ := met
      simp only [run, under, allowed, if_true]
      generalize h w e c = outcome at rest
      obtain ⟨w', _ | a⟩ := outcome
      · rfl
      · exact ih a rest

theorem Ensures.under (holds : p.Ensures h crash post w) : p.Ensures (under h ok) crash post w := by
  induction p generalizing w with
  | ret value => exact holds
  | call e k ih =>
    refine ⟨holds.1, fun c => ?_⟩
    have answered := holds.2 c
    by_cases allowed : ok w e c = true
    · simp only [Program.under, allowed, if_true]
      generalize h w e c = outcome at answered
      obtain ⟨w', _ | a⟩ := outcome
      · exact answered
      · exact ih a answered
    · simp only [Program.under, allowed]
      exact holds.1

theorem ensures_ask_under {e : E} {post : Ans e → World → Prop} (here : crash w)
    (next : ∀ c, ok w e c = true → match h w e c with
      | (w', none) => crash w'
      | (w', some a) => post a w') :
    (ask e : Program E Ans (Ans e)).Ensures (under h ok) crash post w := by
  refine ⟨here, fun c => ?_⟩
  by_cases allowed : ok w e c = true
  · simp only [under, allowed, if_true]
    exact next c allowed
  · simp only [under, allowed]
    exact here

end Under

section Completion

def Completes (h : Handler E Ans World Choice) (c : Choice) :
    Program E Ans α → (α → World → Prop) → World → Prop
  | .ret value, post, w => post value w
  | .call e k, post, w =>
    match h w e c with
    | (_, none) => False
    | (w', some a) => (k a).Completes h c post w'

variable {c : Choice}

theorem completes_iff :
    p.Completes h c post w ↔ ∃ value w', p.finish h c w = (w', some value) ∧ post value w' := by
  induction p generalizing w with
  | ret value =>
    refine ⟨fun holds => ⟨value, w, rfl, holds⟩, ?_⟩
    rintro ⟨_, _, ⟨⟩, holds⟩
    exact holds
  | call e k ih =>
    simp only [Completes, finish]
    generalize h w e c = outcome
    obtain ⟨w', _ | a⟩ := outcome
    · simp
    · exact ih a

theorem completes_bind {post : β → World → Prop} :
    (p >>= next).Completes h c post w ↔
      p.Completes h c (fun value w' => (next value).Completes h c post w') w := by
  induction p generalizing w with
  | ret value => exact Iff.rfl
  | call e k ih =>
    have unfolded : (call e k >>= next) = call e fun a => k a >>= next := rfl
    simp only [unfolded, Completes]
    generalize h w e c = outcome
    obtain ⟨w', _ | a⟩ := outcome
    · exact Iff.rfl
    · exact ih a

theorem Completes.mono {first second : α → World → Prop} (holds : p.Completes h c first w)
    (implies : ∀ value w', first value w' → second value w') : p.Completes h c second w := by
  obtain ⟨value, w', same, held⟩ := completes_iff.mp holds
  exact completes_iff.mpr ⟨value, w', same, implies value w' held⟩

theorem completes_of_answers (answers : ∀ w e, ((h w e c).2).isSome = true) (p : Program E Ans α)
    (w : World) : p.Completes h c (fun _ _ => True) w := by
  induction p generalizing w with
  | ret value => trivial
  | call e k ih =>
    have answered := answers w e
    simp only [Completes]
    generalize h w e c = outcome at answered ⊢
    obtain ⟨w', _ | a⟩ := outcome
    · cases answered
    · exact ih a w'

theorem Ensures.completes {post also : α → World → Prop} (holds : p.Ensures h crash post w)
    (returns : p.Completes h c also w) :
    p.Completes h c (fun value w' => post value w' ∧ also value w') w := by
  obtain ⟨value, w', same, held⟩ := completes_iff.mp returns
  have truth := finish_ensures holds c
  rw [same] at truth
  exact completes_iff.mpr ⟨value, w', same, truth, held⟩

end Completion

end Program

/-- The elements in an order that the environment chooses, each position
    naming where an element goes among those after it. -/
def arrange {α : Type} : List Nat → List α → List α
  | k :: ks, x :: xs => (arrange ks xs).take k ++ x :: (arrange ks xs).drop k
  | _, xs => xs

theorem arrange_perm {α : Type} (positions : List Nat) (xs : List α) :
    (arrange positions xs).Perm xs := by
  induction xs generalizing positions with
  | nil => cases positions <;> exact List.Perm.refl _
  | cons x xs ih =>
    cases positions with
    | nil => exact List.Perm.refl _
    | cons k ks =>
      have split := List.take_append_drop k (arrange ks xs)
      exact List.perm_middle.trans ((split ▸ ih ks).cons x)

theorem arrange_map {α β : Type} (f : α → β) (positions : List Nat) (xs : List α) :
    arrange positions (xs.map f) = (arrange positions xs).map f := by
  induction xs generalizing positions with
  | nil => cases positions <;> rfl
  | cons x xs ih =>
    cases positions with
    | nil => rfl
    | cons k ks => simp [arrange, ih, List.map_take, List.map_drop]

end Foundation
