import Mathlib.Data.List.Basic

/-!
An object under optimistic concurrency: a write is accepted only if made from
the current version, a reader may be given any.
-/
namespace Foundation

/-- The versions of an object, the current one last. -/
structure Versioned (α : Type) where
  versions : List α := []

inductive Fate where
  | answered
  | unanswered
  | undelivered
  deriving DecidableEq

namespace Versioned

variable {α : Type} (o : Versioned α)

def version : Nat := o.versions.length

def current : Option α := o.versions.getLast?

def atVersion : Nat → Option α
  | 0 => none
  | n + 1 => o.versions[n]?

def push (x : α) : Versioned α := ⟨o.versions ++ [x]⟩

/-- A write from version `v`, and the version it is answered with. Version zero
    creates the object. -/
def write (v : Nat) (x : α) : Fate → Versioned α × Option Nat
  | .undelivered => (o, none)
  | .unanswered => if v = o.version then (o.push x, none) else (o, none)
  | .answered => if v = o.version then (o.push x, some (v + 1)) else (o, none)

@[simp] theorem current_push (x : α) : (o.push x).current = some x := by simp [push, current]

@[simp] theorem version_push (x : α) : (o.push x).version = o.version + 1 := by simp [push, version]

theorem atVersion_version : o.atVersion o.version = o.current := by
  rw [current, List.getLast?_eq_getElem?, version]
  cases same : o.versions.length with
  | zero => simp [atVersion, List.length_eq_zero_iff.mp same]
  | succ n => rfl

variable {o} {v : Nat} {x y : α}

theorem le_version (found : o.atVersion v = some y) : v ≤ o.version := by
  cases v with
  | zero => exact Nat.zero_le _
  | succ n => exact (List.getElem?_eq_some_iff.mp found).1

theorem atVersion_push (found : o.atVersion v = some y) : (o.push x).atVersion v = some y := by
  cases v with
  | zero => cases found
  | succ n => exact (List.getElem?_append_left (List.getElem?_eq_some_iff.mp found).1).trans found

theorem atVersion_push_self : (o.push x).atVersion (o.version + 1) = some x := by
  have last := (o.push x).atVersion_version
  rwa [version_push, current_push] at last

theorem atVersion_push_cases (found : (o.push x).atVersion v = some y) :
    o.atVersion v = some y ∨ v = o.version + 1 ∧ y = x := by
  rcases Nat.lt_or_ge o.version v with newest | older
  · have last : v = o.version + 1 := Nat.le_antisymm (by simpa using le_version found) newest
    subst last
    rw [atVersion_push_self] at found
    exact .inr ⟨rfl, (Option.some.inj found).symm⟩
  · cases v with
    | zero => cases found
    | succ n => exact .inl ((List.getElem?_append_left older).symm.trans found)

theorem write_cases (o : Versioned α) (v : Nat) (x : α) (fate : Fate) :
    o.write v x fate = (o, none) ∨
      v = o.version ∧
      ((o.write v x fate) = (o.push x, none) ∨ (o.write v x fate) = (o.push x, some (v + 1))) := by
  cases fate with
  | undelivered => exact .inl rfl
  | unanswered =>
    by_cases current : v = o.version
    · exact .inr ⟨current, .inl (if_pos current)⟩
    · exact .inl (if_neg current)
  | answered =>
    by_cases current : v = o.version
    · exact .inr ⟨current, .inr (if_pos current)⟩
    · exact .inl (if_neg current)

end Versioned
end Foundation
