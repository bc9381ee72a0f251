import CubridOperator.Foundation.Text
import Mathlib.Data.List.Infix

/-!
Patterns of literal texts and longest runs of allowed characters, and the search
for them from the left.
-/
namespace Foundation.Scan
open List

/-- A literal text, or a run that is not empty; `keep` says what is taken from
    the run, if it will do. -/
inductive Piece where
  | literal (t : Text)
  | run (allowed : Char → Bool) (keep : Text → Option (List Text))

def Piece.read : Piece → Text → Option (List Text × Text)
  | .literal t, s => if t.isPrefixOf s then some ([], s.drop t.length) else none
  | .run allowed keep, s =>
    if s.takeWhile allowed = [] then none
    else (keep (s.takeWhile allowed)).map fun kept => (kept, s.dropWhile allowed)

def skip (allowed : Char → Bool) : Piece := .run allowed fun _ => some []

def take (allowed : Char → Bool) : Piece := .run allowed fun w => some [w]

def read : List Piece → Text → Option (List Text × Text)
  | [], s => some ([], s)
  | p :: pattern, s =>
    match p.read s with
    | none => none
    | some (kept, s) => (read pattern s).map fun (more, s) => (kept ++ more, s)

def find (pattern : List Piece) : Text → Option (List Text)
  | [] => (read pattern []).map Prod.fst
  | c :: s =>
    match read pattern (c :: s) with
    | some (kept, _) => some kept
    | none => find pattern s

def findFrom (pattern : List Piece) : Nat → Text → List (List Text)
  | _, [] => []
  | n + 1, _ :: s => findFrom pattern n s
  | 0, c :: s =>
    match read pattern (c :: s) with
    | some (kept, rest) => kept :: findFrom pattern (s.length - rest.length) s
    | none => findFrom pattern 0 s

def findAll (pattern : List Piece) (s : Text) : List (List Text) := findFrom pattern 0 s

/-- Whether `p` holds where some line begins, of everything from there on. -/
def anyLine (p : Text → Bool) (begins : Bool) : Text → Bool
  | [] => begins && p []
  | c :: s => begins && p (c :: s) || anyLine p (c = '\n') s

variable {pattern : List Piece} {s t : Text} {kept : List Text}

theorem exists_of_find (found : find pattern s = some kept) :
    ∃ front rest, front <:+ s ∧ read pattern front = some (kept, rest) := by
  induction s with
  | nil =>
    obtain ⟨⟨taken, rest⟩, is, rfl⟩ := Option.map_eq_some_iff.mp found
    exact ⟨[], rest, suffix_refl _, is⟩
  | cons c s ih =>
    rw [find] at found
    split at found
    · rename_i taken rest is
      obtain rfl := Option.some.inj found
      exact ⟨c :: s, rest, suffix_refl _, is⟩
    · obtain ⟨front, rest, inside, is⟩ := ih found
      exact ⟨front, rest, inside.trans (suffix_cons c s), is⟩

theorem literal_within (found : find (.literal t :: pattern) s = some kept) : t <:+: s := by
  obtain ⟨front, rest, inside, is⟩ := exists_of_find found
  have here : t <+: front := by
    rw [read, Piece.read] at is
    split at is
    · cases is
    · rename_i taken left at_
      split at at_
      · rename_i begins
        exact isPrefixOf_iff_prefix.mp begins
      · cases at_
  exact here.isInfix.trans inside.isInfix

theorem read_literal (t s : Text) : read (.literal t :: pattern) (t ++ s) = read pattern s := by
  have begins : t.isPrefixOf (t ++ s) = true := isPrefixOf_iff_prefix.mpr (prefix_append t s)
  rw [read, Piece.read, if_pos begins, drop_left]
  cases h : read pattern s <;> simp [h]

theorem read_skip {allowed : Char → Bool} {w : Text} (some_ : w ≠ [])
    (inside : ∀ c ∈ w, allowed c = true) (ends : ∀ c ∈ s.head?, allowed c = false) :
    read (skip allowed :: pattern) (w ++ s) = read pattern s := by
  have stop : s.takeWhile allowed = [] ∧ s.dropWhile allowed = s := by
    cases s with
    | nil => exact ⟨rfl, rfl⟩
    | cons c s => simp [ends c rfl]
  have run : (w ++ s).takeWhile allowed = w := by
    rw [takeWhile_append_of_pos inside, stop.1, append_nil]
  have left : (w ++ s).dropWhile allowed = s := by
    rw [dropWhile_append_of_pos inside, stop.2]
  rw [read, skip, Piece.read, run, left, if_neg some_]
  cases h : read pattern s <;> simp [h]

theorem anyLine_iff {p : Text → Bool} {begins : Bool} :
    anyLine p begins s = true ↔ (begins = true ∧ p s = true) ∨ ∃ front rest,
      s = front ++ '\n' :: rest ∧ p rest = true := by
  induction s generalizing begins with
  | nil => simp [anyLine]
  | cons c s ih =>
    rw [anyLine, Bool.or_eq_true, Bool.and_eq_true, ih]
    constructor
    · rintro (here | ⟨newline, here⟩ | ⟨front, rest, rfl, there⟩)
      · exact .inl here
      · obtain rfl : c = '\n' := by simpa using newline
        exact .inr ⟨[], s, rfl, here⟩
      · exact .inr ⟨c :: front, rest, rfl, there⟩
    · rintro (here | ⟨front, rest, split, there⟩)
      · exact .inl here
      · cases front with
        | nil =>
          obtain ⟨rfl, rfl⟩ := cons.inj split
          exact .inr (.inl ⟨by simp, there⟩)
        | cons d front =>
          obtain ⟨rfl, rfl⟩ := cons.inj split
          exact .inr (.inr ⟨front, rest, rfl, there⟩)

end Foundation.Scan
