import CubridOperator.Foundation.Text
import Mathlib.Computability.Language

/-!
Regular expressions over character classes: the language of one, and a matcher
that gives what a match may leave of a text.
-/
namespace Foundation
open List

inductive Regex where
  | empty
  | one (allowed : Char → Bool)
  | seq (first second : Regex)
  | alt (left right : Regex)
  | star (body : Regex)

namespace Regex

def language : Regex → Language Char
  | .empty => 1
  | .one allowed => { w | ∃ c, allowed c = true ∧ w = [c] }
  | .seq first second => first.language * second.language
  | .alt left right => left.language + right.language
  | .star body => KStar.kstar body.language

/-- What is left after any number of rounds. A round that reads nothing adds
    nothing, so the length bounds their number. -/
def rounds (body : Text → List Text) : Nat → Text → List Text
  | 0, s => [s]
  | fuel + 1, s => s :: ((body s).filter (·.length < s.length)).flatMap (rounds body fuel)

def rest : Regex → Text → List Text
  | .empty, s => [s]
  | .one _, [] => []
  | .one allowed, c :: s => if allowed c then [s] else []
  | .seq first second, s => (first.rest s).flatMap second.rest
  | .alt left right, s => left.rest s ++ right.rest s
  | .star body, s => rounds body.rest s.length s

def matchesAll (r : Regex) (s : Text) : Bool := (r.rest s).any List.isEmpty

def matchesFront (r : Regex) (s : Text) : Bool := !(r.rest s).isEmpty

def power (r : Regex) : Nat → Regex
  | 0 => .empty
  | n + 1 => .seq r (r.power n)

def upTo (r : Regex) : Nat → Regex
  | 0 => .empty
  | n + 1 => .alt .empty (.seq r (r.upTo n))

def between (r : Regex) (low high : Nat) : Regex := .seq (r.power low) (r.upTo (high - low))

def atLeast (r : Regex) (n : Nat) : Regex := .seq (r.power n) (.star r)

def literal : Text → Regex
  | [] => .empty
  | c :: s => .seq (.one (· = c)) (literal s)

section Matching
variable {w s t : Text} {r a b : Regex} {allowed : Char → Bool}

@[simp] theorem mem_empty : w ∈ Regex.empty.language ↔ w = [] := Iff.rfl

@[simp] theorem mem_one : w ∈ (Regex.one allowed).language ↔ ∃ c, allowed c = true ∧ w = [c] :=
  Iff.rfl

@[simp] theorem mem_seq :
    w ∈ (Regex.seq a b).language ↔ ∃ u ∈ a.language, ∃ v ∈ b.language, u ++ v = w := Iff.rfl

@[simp] theorem mem_alt : w ∈ (Regex.alt a b).language ↔ w ∈ a.language ∨ w ∈ b.language := Iff.rfl

theorem mem_star :
    w ∈ (Regex.star r).language ↔ ∃ ws : List Text, w = ws.flatten ∧ ∀ u ∈ ws, u ∈ r.language :=
  Language.mem_kstar

theorem mem_star_nonempty :
    w ∈ (Regex.star r).language ↔ ∃ ws :
    List Text, w = ws.flatten ∧ ∀ u ∈ ws, u ∈ r.language ∧ u ≠ [] :=
  Language.mem_kstar_iff_exists_nonempty

theorem mem_rounds {body : Text → List Text} (l : Language Char)
    (reads : ∀ s t, t ∈ body s ↔ ∃ w ∈ l, s = w ++ t) (fuel : Nat) (s : Text)
    (enough : s.length ≤ fuel) :
    t ∈ rounds body fuel s ↔ ∃ ws : List Text, s = ws.flatten ++ t ∧ ∀ u ∈ ws, u ∈ l ∧ u ≠ [] := by
  induction fuel generalizing s with
  | zero =>
    obtain rfl : s = [] := eq_nil_of_length_eq_zero (by omega)
    simp only [rounds, mem_singleton]
    constructor
    · intro same
      exact ⟨[], by simp [same], by simp⟩
    · rintro ⟨ws, whole, -⟩
      exact (append_eq_nil_iff.mp whole.symm).2
  | succ fuel ih =>
    simp only [rounds, mem_cons, mem_flatMap, mem_filter, decide_eq_true_eq, reads]
    constructor
    · rintro (rfl | ⟨left, ⟨⟨u, word, rfl⟩, shorter⟩, later⟩)
      · exact ⟨[], by simp, by simp⟩
      · have read : u ≠ [] := by
          intro none
          simp [none] at shorter
        rw [length_append] at enough shorter
        obtain ⟨ws, rfl, words⟩ := (ih left (by omega)).mp later
        refine ⟨u :: ws, by simp, ?_⟩
        intro v member
        rcases mem_cons.mp member with rfl | member
        · exact ⟨word, read⟩
        · exact words v member
    · rintro ⟨ws, whole, words⟩
      cases ws with
      | nil => exact .inl (by simpa using whole.symm)
      | cons u ws =>
        right
        have first := words u mem_cons_self
        have positive : 0 < u.length := length_pos_iff.mpr first.2
        rw [flatten_cons, append_assoc] at whole
        have size := congrArg List.length whole
        rw [length_append] at size
        refine ⟨ws.flatten ++ t, ⟨⟨u, first.1, whole⟩, by omega⟩, ?_⟩
        exact (ih _ (by omega)).mpr ⟨ws, rfl, fun v member => words v (mem_cons_of_mem u member)⟩

theorem mem_rest (r : Regex) (s t : Text) : t ∈ r.rest s ↔ ∃ w ∈ r.language, s = w ++ t := by
  induction r generalizing s t with
  | empty => simp [rest, eq_comm]
  | one allowed =>
    cases s with
    | nil => simp [rest]
    | cons c s =>
      simp only [rest, mem_one]
      constructor
      · intro member
        split at member
        · rename_i read
          rw [mem_singleton] at member
          exact ⟨[c], ⟨c, read, rfl⟩, by simp [member]⟩
        · simp at member
      · rintro ⟨-, ⟨d, read, rfl⟩, whole⟩
        simp only [cons_append, nil_append, cons.injEq] at whole
        simp [whole.1, read, whole.2]
  | seq a b iha ihb =>
    simp only [rest, mem_flatMap, iha, ihb, mem_seq]
    constructor
    · rintro ⟨left, ⟨u, first, rfl⟩, v, second, rfl⟩
      exact ⟨u ++ v, ⟨u, first, v, second, rfl⟩, by simp⟩
    · rintro ⟨-, ⟨u, first, v, second, rfl⟩, rfl⟩
      exact ⟨v ++ t, ⟨u, first, by simp⟩, v, second, rfl⟩
  | alt a b iha ihb =>
    simp only [rest, mem_append, iha, ihb, mem_alt]
    constructor
    · rintro (⟨w, word, whole⟩ | ⟨w, word, whole⟩)
      · exact ⟨w, .inl word, whole⟩
      · exact ⟨w, .inr word, whole⟩
    · rintro ⟨w, word | word, whole⟩
      · exact .inl ⟨w, word, whole⟩
      · exact .inr ⟨w, word, whole⟩
  | star r ih =>
    rw [rest, mem_rounds r.language ih _ s le_rfl]
    constructor
    · rintro ⟨ws, whole, words⟩
      exact ⟨ws.flatten, mem_star_nonempty.mpr ⟨ws, rfl, words⟩, whole⟩
    · rintro ⟨w, word, whole⟩
      obtain ⟨ws, rfl, words⟩ := mem_star_nonempty.mp word
      exact ⟨ws, whole, words⟩

theorem matchesAll_iff : r.matchesAll s = true ↔ s ∈ r.language := by
  simp only [matchesAll, any_eq_true, List.isEmpty_iff]
  constructor
  · rintro ⟨t, member, rfl⟩
    obtain ⟨w, word, whole⟩ := (mem_rest r s []).mp member
    rwa [whole, append_nil]
  · intro word
    exact ⟨[], (mem_rest r s []).mpr ⟨s, word, by simp⟩, rfl⟩

theorem matchesFront_iff : r.matchesFront s = true ↔ ∃ w ∈ r.language, w <+: s := by
  simp only [matchesFront, Bool.not_eq_true', isEmpty_eq_false_iff_exists_mem, mem_rest]
  constructor
  · rintro ⟨t, w, word, rfl⟩
    exact ⟨w, word, prefix_append w t⟩
  · rintro ⟨w, word, t, rfl⟩
    exact ⟨t, w, word, rfl⟩

end Matching

section Classes
variable {w s : Text} {allowed : Char → Bool}

theorem mem_literal : w ∈ (literal s).language ↔ w = s := by
  induction s generalizing w with
  | nil => rfl
  | cons c s ih => simp [literal, ih, eq_comm]

theorem mem_power_one {n : Nat} :
    w ∈ ((Regex.one allowed).power n).language ↔ w.length = n ∧ ∀ c ∈ w, allowed c = true := by
  induction n generalizing w with
  | zero =>
    simp only [power, mem_empty, length_eq_zero_iff]
    constructor
    · rintro rfl
      simp
    · exact And.left
  | succ n ih =>
    cases w with
    | nil => simp [power, ih]
    | cons c w => simp [power, ih, and_left_comm]

theorem mem_upTo_one {n : Nat} :
    w ∈ ((Regex.one allowed).upTo n).language ↔ w.length ≤ n ∧ ∀ c ∈ w, allowed c = true := by
  induction n generalizing w with
  | zero =>
    simp only [upTo, mem_empty, Nat.le_zero, length_eq_zero_iff]
    constructor
    · rintro rfl
      simp
    · exact And.left
  | succ n ih =>
    cases w with
    | nil => simp [upTo]
    | cons c w => simp [upTo, ih, and_left_comm]

theorem mem_star_one : w ∈ (Regex.star (.one allowed)).language ↔ ∀ c ∈ w, allowed c = true := by
  rw [mem_star]
  constructor
  · rintro ⟨ws, rfl, words⟩ c member
    obtain ⟨u, inside, member⟩ := mem_flatten.mp member
    obtain ⟨d, read, rfl⟩ := words u inside
    rwa [mem_singleton.mp member]
  · intro read
    refine ⟨w.map ([·]), by simp [← flatMap_def], ?_⟩
    intro u member
    obtain ⟨c, inside, rfl⟩ := mem_map.mp member
    exact ⟨c, read c inside, rfl⟩

theorem mem_between_one {low high : Nat} (order : low ≤ high) :
    w ∈ ((Regex.one allowed).between low high).language ↔
      low ≤ w.length ∧ w.length ≤ high ∧ ∀ c ∈ w, allowed c = true := by
  simp only [between, mem_seq, mem_power_one, mem_upTo_one]
  constructor
  · rintro ⟨u, ⟨size, first⟩, v, ⟨most, second⟩, rfl⟩
    rw [length_append]
    refine ⟨by omega, by omega, ?_⟩
    intro c member
    exact (mem_append.mp member).elim (first c) (second c)
  · rintro ⟨least, most, read⟩
    refine ⟨w.take low, ⟨by simp [least], fun c member => read c (mem_of_mem_take member)⟩,
      w.drop low, ⟨?_, fun c member => read c (mem_of_mem_drop member)⟩, take_append_drop low w⟩
    rw [length_drop]
    omega

theorem mem_atLeast_one {n : Nat} :
    w ∈ ((Regex.one allowed).atLeast n).language ↔ n ≤ w.length ∧ ∀ c ∈ w, allowed c = true := by
  simp only [atLeast, mem_seq, mem_power_one, mem_star_one]
  constructor
  · rintro ⟨u, ⟨size, first⟩, v, second, rfl⟩
    rw [length_append]
    refine ⟨by omega, ?_⟩
    intro c member
    exact (mem_append.mp member).elim (first c) (second c)
  · rintro ⟨least, read⟩
    exact ⟨w.take n, ⟨by simp [least], fun c member => read c (mem_of_mem_take member)⟩,
      w.drop n, fun c member => read c (mem_of_mem_drop member), take_append_drop n w⟩

end Classes

theorem mem_atLeast_once {r : Regex} {w : Text} :
    w ∈ (r.atLeast 1).language ↔
      ∃ ws : List Text, ws ≠ [] ∧ w = ws.flatten ∧ ∀ u ∈ ws, u ∈ r.language := by
  simp only [atLeast, power, mem_seq, mem_empty, mem_star]
  constructor
  · rintro ⟨-, ⟨u, first, -, rfl, rfl⟩, -, ⟨ws, rfl, words⟩, rfl⟩
    refine ⟨u :: ws, cons_ne_nil u ws, by simp, ?_⟩
    intro v member
    rcases mem_cons.mp member with rfl | member
    · exact first
    · exact words v member
  · rintro ⟨ws, some_, rfl, words⟩
    cases ws with
    | nil => exact absurd rfl some_
    | cons u ws =>
      exact ⟨u, ⟨u, words u mem_cons_self, [], rfl, by simp⟩, ws.flatten,
        ⟨ws, rfl, fun v member => words v (mem_cons_of_mem u member)⟩, by simp⟩

end Regex
end Foundation
