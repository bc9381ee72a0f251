import Mathlib.Data.List.Basic

/-!
A log in which every entry is justified by the ones before it. The newest
entry comes first.
-/
namespace Foundation
open List

variable {ε : Type} {P Q : ε → List ε → Prop}

def Justified (P : ε → List ε → Prop) : List ε → Prop
  | [] => True
  | e :: past => P e past ∧ Justified P past

theorem Justified.of_mem {log : List ε} {e : ε} (justified : Justified P log) (logged : e ∈ log) :
    ∃ past, e :: past <:+ log ∧ P e past := by
  induction log with
  | nil => cases logged
  | cons newest past ih =>
    rcases mem_cons.mp logged with rfl | earlier
    · exact ⟨past, suffix_refl _, justified.1⟩
    · obtain ⟨before, inside, holds⟩ := ih justified.2 earlier
      exact ⟨before, inside.trans (suffix_cons _ _), holds⟩

theorem Justified.suffix {log past : List ε} (justified : Justified P log) (before : past <:+ log) :
    Justified P past := by
  induction log with
  | nil =>
    obtain rfl := suffix_nil.mp before
    trivial
  | cons newest rest ih =>
    rcases suffix_cons_iff.mp before with rfl | inside
    · exact justified
    · exact ih justified.2 inside

/-- What each entry keeps, given its justification, holds of the whole log. -/
theorem Justified.induction {log : List ε} (Inv : List ε → Prop) (justified : Justified P log)
    (init : Inv []) (kept : ∀ e past, Justified P past → P e past → Inv past → Inv (e :: past)) :
    Inv log := by
  induction log with
  | nil => exact init
  | cons e past ih => exact kept e past justified.2 justified.1 (ih justified.2)

end Foundation
