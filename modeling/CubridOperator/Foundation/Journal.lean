import Mathlib.Data.List.Basic
import Mathlib.Data.List.Sublists

/-!
A directory under power loss, which keeps an arbitrary part of the changes that
no sync followed, in their order.
-/
namespace Foundation
open List

structure Journal (S C : Type) where
  base : S
  log : List C

namespace Journal

variable {S C : Type} (apply : S → C → S)

def replay (s : S) (changes : List C) : S := changes.foldl apply s

def view (j : Journal S C) : S := replay apply j.base j.log

def push (j : Journal S C) (c : C) : Journal S C := { j with log := j.log ++ [c] }

def sync (j : Journal S C) : Journal S C := ⟨j.view apply, []⟩

def kept : List Bool → List C → List C
  | true :: mask, c :: cs => c :: kept mask cs
  | false :: mask, _ :: cs => kept mask cs
  | _, _ => []

def powerLoss (mask : List Bool) (j : Journal S C) : Journal S C :=
  ⟨replay apply j.base (kept mask j.log), []⟩

/-- `P` holds of every state that a power loss now could leave. -/
def Always (j : Journal S C) (P : S → Prop) : Prop :=
  ∀ changes, changes.Sublist j.log → P (replay apply j.base changes)

theorem kept_sublist (mask : List Bool) (cs : List C) : (kept mask cs).Sublist cs := by
  induction mask generalizing cs with
  | nil => simp [kept]
  | cons keep mask ih =>
    cases cs with
    | nil => cases keep <;> simp [kept]
    | cons c cs =>
      cases keep
      · exact (ih cs).cons c
      · exact (ih cs).cons_cons c

@[simp] theorem view_push (j : Journal S C) (c : C) :
    (j.push c).view apply = apply (j.view apply) c := by
  simp [view, push, replay]

@[simp] theorem view_sync (j : Journal S C) : (j.sync apply).view apply = j.view apply := rfl

@[simp] theorem view_powerLoss (mask : List Bool) (j : Journal S C) :
    (j.powerLoss apply mask).view apply = replay apply j.base (kept mask j.log) := rfl

variable {apply} {j : Journal S C} {P : S → Prop}

theorem Always.view (always : j.Always apply P) : P (j.view apply) :=
  always j.log (List.Sublist.refl _)

theorem Always.mono {P Q : S → Prop} (always : j.Always apply P) (implies : ∀ s, P s → Q s) :
    j.Always apply Q :=
  fun changes part => implies _ (always changes part)

@[simp] theorem always_sync : (j.sync apply).Always apply P ↔ P (j.view apply) := by
  refine ⟨fun always => always.view, fun holds changes part => ?_⟩
  rw [sublist_nil.mp part]
  exact holds

@[simp] theorem always_const {p : Prop} : (j.Always apply fun _ => p) ↔ p :=
  ⟨fun always => always.view, fun holds _ _ => holds⟩

theorem always_push {c : C} :
    (j.push c).Always apply P ↔ j.Always apply P ∧ j.Always apply fun s => P (apply s c) := by
  constructor
  · intro always
    refine ⟨fun changes part => always changes (part.trans (sublist_append_left _ _)), ?_⟩
    intro changes part
    have last := always (changes ++ [c]) (Sublist.append_right part [c])
    simpa [replay, push] using last
  · rintro ⟨before, after⟩ changes part
    obtain ⟨front, back, rfl, hfront, hback⟩ := sublist_append_iff.mp part
    rcases sublist_singleton.mp hback with rfl | rfl
    · simpa [push] using before front hfront
    · simpa [replay, push] using after front hfront

theorem Always.powerLoss (always : j.Always apply P) (mask : List Bool) :
    (j.powerLoss apply mask).Always apply P := by
  intro changes part
  rw [sublist_nil.mp part]
  exact always _ (kept_sublist mask j.log)

instance decidableAlways (j : Journal S C) (P : S → Prop) [DecidablePred P] :
    Decidable (j.Always apply P) :=
  decidable_of_iff (∀ changes ∈ j.log.sublists, P (replay apply j.base changes))
    (by simp [Always])

end Journal
end Foundation
