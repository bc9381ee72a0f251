import Mathlib.Data.List.Basic
import Mathlib.Data.List.Infix

/-!
Replacing every occurrence of a word in a text, from the left. The symbols carry
a tag that the search does not see.
-/
namespace Foundation.Replace
open Function List

section Search

variable {α β : Type} [DecidableEq α] {sym : β → α} {old : List α} {new : List β}

/-- The number says how many symbols of an occurrence are still to be passed. -/
def replaceFrom (sym : β → α) (old : List α) (new : List β) : Nat → List β → List β
  | _, [] => []
  | n + 1, _ :: rest => replaceFrom sym old new n rest
  | 0, x :: rest =>
    if old.isPrefixOf ((x :: rest).map sym) then
      new ++ replaceFrom sym old new (old.length - 1) rest
    else x :: replaceFrom sym old new 0 rest

def replaceAll (sym : β → α) (old : List α) (new text : List β) : List β :=
  replaceFrom sym old new 0 text

theorem replaceFrom_eq (n : Nat) (text : List β) :
    replaceFrom sym old new n text = replaceAll sym old new (text.drop n) := by
  induction n generalizing text with
  | zero => rfl
  | succ n ih =>
    cases text with
    | nil => rfl
    | cons x rest => exact ih rest

theorem replaceAll_hit (word : old ≠ []) {m : List β} (hit : m.map sym = old) (rest : List β) :
    replaceAll sym old new (m ++ rest) = new ++ replaceAll sym old new rest := by
  cases m with
  | nil => exact absurd hit.symm word
  | cons x m =>
    have found : old.isPrefixOf ((x :: (m ++ rest)).map sym) = true := by
      rw [← hit, isPrefixOf_iff_prefix]
      exact ⟨rest.map sym, by simp⟩
    have passed : old.length - 1 = m.length := by rw [← hit]; simp
    rw [cons_append, replaceAll, replaceFrom, if_pos found, replaceFrom_eq, passed, drop_left]

theorem replaceAll_miss {x : β} {rest : List β} (miss : ¬ old <+: (x :: rest).map sym) :
    replaceAll sym old new (x :: rest) = x :: replaceAll sym old new rest := by
  rw [replaceAll, replaceFrom, if_neg (by rwa [List.isPrefixOf_iff_prefix])]
  rfl

omit [DecidableEq α] in
theorem prefix_map {text : List β} (found : old <+: text.map sym) :
    ∃ m rest, text = m ++ rest ∧ m.map sym = old := by
  obtain ⟨m, rest, whole, is, -⟩ := map_eq_append_iff.mp found.choose_spec.symm
  exact ⟨m, rest, whole, is⟩

/-- The search passes an occurrence as a whole, and any other symbol by itself. -/
theorem replace_induction (sym : β → α) (old : List α) (word : old ≠ []) (P : List β → Prop)
    (nil : P []) (hit : ∀ m rest, m.map sym = old → P rest → P (m ++ rest))
    (miss : ∀ x rest, ¬ old <+: (x :: rest).map sym → P rest → P (x :: rest)) (text : List β) :
    P text := by
  induction size : text.length using Nat.strongRecOn generalizing text with
  | ind n ih =>
    cases text with
    | nil => exact nil
    | cons x rest =>
      by_cases found : old <+: (x :: rest).map sym
      · obtain ⟨m, tail, whole, is⟩ := prefix_map found
        have positive : 0 < m.length := by
          rw [← length_map (f := sym), is]
          exact length_pos_iff.mpr word
        rw [whole]
        refine hit m tail is (ih tail.length ?_ tail rfl)
        rw [← size, whole, length_append]
        omega
      · exact miss x rest found (ih rest.length (by rw [← size]; simp) rest rfl)

theorem map_replaceAll (word : old ≠ []) (text : List β) :
    (replaceAll sym old new text).map sym = replaceAll id old (new.map sym) (text.map sym) := by
  refine replace_induction sym old word
    (fun text => (replaceAll sym old new text).map sym = replaceAll id old (new.map sym)
      (text.map sym)) rfl ?_ ?_ text
  · intro m rest is ih
    rw [replaceAll_hit word is, map_append, map_append, replaceAll_hit word (by simpa using is), ih]
  · intro x rest other ih
    rw [replaceAll_miss other, map_cons, map_cons, replaceAll_miss (by simpa using other), ih]

def Hit (sym : β → α) (old : List α) (text m : List β) : Prop := m.map sym = old ∧ m <:+: text

theorem replaceAll_skip {front rest : List β}
    (miss : ∀ u v, front = u ++ v → v ≠ [] → ¬ old <+: (v ++ rest).map sym) :
    replaceAll sym old new (front ++ rest) = front ++ replaceAll sym old new rest := by
  induction front with
  | nil => rfl
  | cons x front ih =>
    have later := ih fun u v split some_ => miss (x :: u) v (by rw [split, cons_append]) some_
    have here : ¬ old <+: (x :: (front ++ rest)).map sym := miss []
      (x :: front) rfl (cons_ne_nil _ _)
    rw [cons_append, replaceAll_miss here, later, cons_append]

end Search

section Origins

variable {α : Type}

def spot (word : List α) (p : Nat) : List (α × Option Nat) :=
  (word.zipIdx p).map fun x => (x.1, some x.2)

def put (value : List α) : List (α × Option Nat) := value.map fun c => (c, none)

def OccursAt (text word : List α) (p : Nat) : Prop := word <+: text.drop p

@[simp] theorem map_fst_spot (word : List α) (p : Nat) : (spot word p).map Prod.fst = word := by
  simp [spot, map_map, comp_def]

@[simp] theorem map_fst_put (value : List α) : (put value).map Prod.fst = value := by
  simp [put, comp_def]

theorem mem_put {value : List α} {x : α × Option Nat} (member : x ∈ put value) : x.2 = none := by
  obtain ⟨c, -, rfl⟩ := mem_map.mp member
  rfl

/-- The same text twice from position `p` on: with a value put in for each
    occurrence, and with the occurrences blanked out. -/
inductive Blanks (value : List α) : Nat → List (α × Option Nat) → List (Option α) → Prop
  | nil (p) : Blanks value p [] []
  | keep (p c l b) (rest : Blanks value (p + 1) l b) : Blanks value p ((c, some p) :: l)
      (some c :: b)
  | gone (p n l b) (rest : Blanks value (p + (n + 1)) l b) :
      Blanks value p (put value ++ l) (replicate (n + 1) none ++ b)

variable {word value : List α} {l rest : List (α × Option Nat)} {b : List (Option α)} {p i : Nat}

theorem blanks_spot (value text : List α) (p : Nat) :
    Blanks value p (spot text p) (text.map some) := by
  induction text generalizing p with
  | nil => exact .nil p
  | cons c text ih => exact .keep p c _ _ (ih (p + 1))

theorem Blanks.legible (blanks : Blanks value p l b) :
    (∃ c, (c, some i) ∈ l) ↔ p ≤ i ∧ ∃ c, b[i - p]? = some (some c) := by
  induction blanks with
  | nil p => simp
  | keep p c l b rest ih =>
    by_cases first : i = p
    · subst first
      simp
    · have split : (∃ d, (d, some i) ∈ (c, some p) :: l) ↔ ∃ d, (d, some i) ∈ l := by simp [first]
      rw [split, ih]
      by_cases later : p + 1 ≤ i
      · rw [show i - p = i - (p + 1) + 1 by omega, getElem?_cons_succ]
        simp [later, Nat.le_of_succ_le later]
      · simp [later, show ¬ p ≤ i by omega]
  | gone p n l b rest ih =>
    have split : (∃ d, (d, some i) ∈ put value ++ l) ↔ ∃ d, (d, some i) ∈ l := by
      refine exists_congr fun d => mem_append.trans (or_iff_right fun there => ?_)
      cases mem_put there
    rw [split, ih]
    by_cases later : p + (n + 1) ≤ i
    · rw [getElem?_append_right (by simp; omega), length_replicate, Nat.sub_sub]
      simp [later, show p ≤ i by omega]
    · have blank : ∀ d, (replicate (n + 1) none ++ b)[i - p]? ≠ some (some d) ∨ ¬ p ≤ i := by
        intro d
        by_cases above : p ≤ i
        · rw [getElem?_append_left (by simp; omega), getElem?_replicate]
          exact .inl (by split <;> simp)
        · exact .inr above
      refine iff_of_false (fun ⟨before, _⟩ => later before) ?_
      rintro ⟨above, d, is⟩
      exact (blank d).elim (fun differs => differs is) (fun below => below above)

/-- A place without a symbol that was put in stands in the blanked text too. -/
theorem Blanks.read (some_ : value ≠ []) {m : List (α × Option Nat)}
    (blanks : Blanks value p (m ++ rest) b) (tagged : ∀ x ∈ m, x.2 ≠ none) :
    ∃ b', b = (m.map Prod.fst).map some ++ b' ∧ Blanks value (p + m.length) rest b' := by
  induction m generalizing p b with
  | nil => exact ⟨b, rfl, blanks⟩
  | cons x m ih =>
    generalize whole : x :: m ++ rest = l at blanks
    cases blanks with
    | nil => cases whole
    | keep _ c l b later =>
      obtain ⟨rfl, rfl⟩ := cons.inj whole
      obtain ⟨b', rfl, further⟩ := ih later fun y member => tagged y (mem_cons_of_mem _ member)
      exact ⟨b', rfl, by rwa [length_cons, Nat.add_comm m.length, ← Nat.add_assoc]⟩
    | gone _ n l b later =>
      obtain ⟨c, value, rfl⟩ := exists_cons_of_ne_nil some_
      obtain ⟨rfl, -⟩ := cons.inj whole
      exact absurd rfl (tagged _ mem_cons_self)

/-- And what stands in the blanked text is there, without a gap. -/
theorem Blanks.found {b' : List (Option α)} (blanks : Blanks value p l (word.map some ++ b')) :
    ∃ rest, l = spot word p ++ rest := by
  induction word generalizing p l with
  | nil => exact ⟨l, rfl⟩
  | cons c word ih =>
    generalize whole : (c :: word).map some ++ b' = b at blanks
    cases blanks with
    | nil => cases whole
    | keep _ d l b later =>
      obtain ⟨same, rfl⟩ := cons.inj whole
      obtain rfl := Option.some.inj same
      obtain ⟨rest, rfl⟩ := ih later
      exact ⟨rest, rfl⟩
    | gone _ n l b later => cases whole

section Step

variable [DecidableEq α]

/-- The word is found in what is left of the text only. -/
def Clear (word : List α) (l : List (α × Option Nat)) : Prop :=
  ∀ m, Hit Prod.fst word l m → ∀ x ∈ m, x.2 ≠ none

def blankAll (word : List α) (b : List (Option α)) : List (Option α) :=
  replaceAll id (word.map some) (replicate word.length none) b

omit [DecidableEq α] in
theorem Clear.behind {front : List (α × Option Nat)} (clear : Clear word (front ++ l)) :
    Clear word l :=
  fun m hit => clear m ⟨hit.1, hit.2.trans (suffix_append front l).isInfix⟩

theorem Clear.skips (some_ : word ≠ []) (clear : Clear word (put value ++ l))
    (new : List (α × Option Nat)) :
    replaceAll Prod.fst word new (put value ++ l) = put value ++
      replaceAll Prod.fst word new l := by
  refine replaceAll_skip fun u v split further found => ?_
  obtain ⟨x, v, rfl⟩ := exists_cons_of_ne_nil further
  obtain ⟨m, rest, whole, is⟩ := prefix_map found
  cases m with
  | nil => exact some_ is.symm
  | cons y m =>
    obtain ⟨rfl, -⟩ := cons.inj whole
    have inserted : x ∈ put value := by rw [split]; simp
    refine clear (x :: m) ⟨is, u, rest, ?_⟩ x mem_cons_self (mem_put inserted)
    rw [split, append_assoc, append_assoc, whole]

theorem blankAll_skips (some_ : word ≠ []) (n : Nat) (b : List (Option α)) :
    blankAll word (replicate n none ++ b) = replicate n none ++ blankAll word b := by
  refine replaceAll_skip fun u v split further found => ?_
  obtain ⟨x, v, rfl⟩ := exists_cons_of_ne_nil further
  obtain ⟨c, word, rfl⟩ := exists_cons_of_ne_nil some_
  have blank : x = none := eq_of_mem_replicate (split ▸ by simp : x ∈ replicate n none)
  subst blank
  simp at found

theorem Blanks.step (some_ : word ≠ []) (given : value ≠ []) (blanks : Blanks value p l b)
    (clear : Clear word l) :
    Blanks value p (replaceAll Prod.fst word (put value) l) (blankAll word b) := by
  induction size : l.length using Nat.strongRecOn generalizing l b p with
  | ind n ih =>
    by_cases found : word <+: l.map Prod.fst
    · obtain ⟨m, rest, rfl, is⟩ := prefix_map found
      have positive : 0 < word.length := length_pos_iff.mpr some_
      have long : m.length = word.length := by rw [← is, length_map]
      obtain ⟨b', rfl, later⟩ := blanks.read given (clear m ⟨is, [], rest, rfl⟩)
      have next := ih rest.length (by rw [← size, length_append]; omega) later clear.behind rfl
      have blanked : blankAll word (word.map some ++ b') = replicate word.length none ++
          blankAll word b' :=
        replaceAll_hit (by simpa using some_) (by simp) b'
      rw [replaceAll_hit some_ is, is, blanked, ← Nat.sub_add_cancel positive]
      refine .gone p _ _ _ ?_
      rwa [Nat.sub_add_cancel positive, ← long]
    · cases blanks with
      | nil => exact .nil p
      | keep _ c l b later =>
        have missed : ¬ word.map some <+: (some c :: b).map id := by
          rintro ⟨b', whole⟩
          rw [map_id] at whole
          obtain ⟨rest, is⟩ := (whole.symm ▸ Blanks.keep p c l b later).found
          exact found ⟨rest.map Prod.fst, by rw [is, map_append, map_fst_spot]⟩
        have further : Clear word ([(c, some p)] ++ l) := clear
        have next := ih l.length (by rw [← size]; simp) later further.behind rfl
        rw [replaceAll_miss found, blankAll, replaceAll_miss missed]
        exact .keep p c _ _ next
      | gone _ k l b later =>
        have shorter : 0 < (put value).length := by simpa [put] using length_pos_iff.mpr given
        have next := ih l.length (by rw [← size, length_append]; omega) later clear.behind rfl
        rw [clear.skips some_, blankAll_skips some_]
        exact .gone p k _ _ next

def replaceEach (value : List α) (words : List (List α)) (l : List (α × Option Nat)) :
    List (α × Option Nat) :=
  words.foldl (fun l word => replaceAll Prod.fst word (put value) l) l

def blankEach (words : List (List α)) (b : List (Option α)) : List (Option α) :=
  words.foldl (fun b word => blankAll word b) b

theorem map_replaceEach (words : List (List α)) (some_ : ∀ word ∈ words, word ≠ [])
    (l : List (α × Option Nat)) :
    (replaceEach value words l).map Prod.fst =
      words.foldl (fun text word => replaceAll id word value text) (l.map Prod.fst) := by
  induction words generalizing l with
  | nil => rfl
  | cons word words ih =>
    have first : (replaceAll Prod.fst word (put value) l).map Prod.fst = replaceAll id word value
        (l.map Prod.fst) := by
      rw [map_replaceAll (some_ word mem_cons_self), map_fst_put]
    exact (ih (fun w member => some_ w (mem_cons_of_mem _ member)) _).trans (by rw [first]; rfl)

/-- Where each word is found in what is left of the text only, replacing one
    word after the other leaves the symbols that blanking out leaves. -/
theorem Blanks.each (given : value ≠ []) {words : List (List α)} (some_ : ∀ word ∈ words, word ≠ [])
    (clear : ∀ earlier word later, words = earlier ++ word :: later →
      Clear word (replaceEach value earlier l))
    (blanks : Blanks value p l b) :
    Blanks value p (replaceEach value words l) (blankEach words b) := by
  induction words generalizing l b with
  | nil => exact blanks
  | cons word words ih =>
    have first : Blanks value p _ _ :=
      blanks.step (some_ word mem_cons_self) given (clear [] word words rfl)
    refine ih (fun w member => some_ w (mem_cons_of_mem _ member))
      (fun earlier w later split => ?_) first
    exact clear (word :: earlier) w later (by rw [split, cons_append])

end Step

end Origins

end Foundation.Replace
