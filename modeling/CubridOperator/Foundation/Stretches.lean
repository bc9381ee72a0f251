import Mathlib.Data.List.Basic

/-!
A series of samples, newest first, and the sample from which a condition has
lasted.
-/
namespace Foundation
open List Option

variable {α π : Type}

section Spacing

variable (close : α → α → Bool)

/-- The samples that are compared: the first, and each that is not too close to
    the last one compared before it. -/
def spaced : List α → List α
  | [] => []
  | sample :: older =>
    match spaced older with
    | [] => [sample]
    | kept :: rest => if close kept sample then kept :: rest else sample :: kept :: rest

theorem spaced_cons_eq {older : List α} {kept : α} (sample : α)
    (head : (spaced close older).head? = some kept) :
    spaced close (sample :: older) =
      if close kept sample then spaced close older else sample :: spaced close older := by
  cases is : spaced close older with
  | nil => simp [is] at head
  | cons first rest =>
    rw [is] at head
    obtain rfl := some.inj head
    rw [spaced, is]

theorem mem_of_mem_spaced {samples : List α} {s : α} (inside : s ∈ spaced close samples) :
    s ∈ samples := by
  induction samples with
  | nil => cases inside
  | cons sample older ih =>
    cases head : (spaced close older).head? with
    | none =>
      rw [spaced, head?_eq_none_iff.mp head, mem_singleton] at inside
      exact inside ▸ mem_cons_self
    | some kept =>
      rw [spaced_cons_eq close sample head] at inside
      split at inside
      · exact mem_cons_of_mem _ (ih inside)
      · rcases mem_cons.mp inside with rfl | among
        · exact mem_cons_self
        · exact mem_cons_of_mem _ (ih among)

theorem spaced_head_isSome (sample : α) (older : List α) :
    (spaced close (sample :: older)).head?.isSome = true := by
  cases head : (spaced close older).head? with
  | none =>
    rw [spaced, head?_eq_none_iff.mp head]
    rfl
  | some kept =>
    rw [spaced_cons_eq close sample head]
    split
    · simp [head]
    · rfl

end Spacing

section Lasting

variable [DecidableEq π] (value : α → π) (waits : α → Bool) (grew : α → α → Bool)

def lastingFrom : List α → Option α
  | later :: earlier :: rest =>
    if value later = value earlier ∧ waits later then
      (lastingFrom (earlier :: rest)).or (if waits earlier && grew earlier later then
        some later else none)
    else none
  | _ => none

/-- The condition starts at `first`, against the sample before it, and goes on
    through every later one. -/
structure Stretch (samples late : List α) (first before : α) (older : List α) : Prop where
  split : samples = late ++ first :: before :: older
  same : value first = value before
  waited : waits before = true
  waiting : waits first = true
  grown : grew before first = true
  unbroken : ∀ sample ∈ late, value sample = value first ∧ waits sample = true

variable {value waits grew} {samples late older : List α} {first before sample : α}

omit [DecidableEq π] in
theorem Stretch.head
    (stretch : Stretch value waits grew (sample :: samples) late first before older) :
    value sample = value first ∧ waits sample = true := by
  cases late with
  | nil =>
    obtain ⟨rfl, -⟩ := cons.inj stretch.split
    exact ⟨rfl, stretch.waiting⟩
  | cons newest late =>
    obtain ⟨rfl, -⟩ := cons.inj stretch.split
    exact stretch.unbroken _ mem_cons_self

omit [DecidableEq π] in
theorem Stretch.later (stretch : Stretch value waits grew samples late first before older)
    (same : value sample = value first) (waiting : waits sample = true) :
    Stretch value waits grew (sample :: samples) (sample :: late) first before older := by
  refine ⟨by rw [stretch.split]; rfl, stretch.same, stretch.waited, stretch.waiting,
    stretch.grown, ?_⟩
  rw [forall_mem_cons]
  exact ⟨⟨same, waiting⟩, stretch.unbroken⟩

omit [DecidableEq π] in
theorem Stretch.earlier
    (stretch : Stretch value waits grew (sample :: samples) (sample :: late) first before older) :
    Stretch value waits grew samples late first before older :=
  ⟨cons.inj stretch.split |>.2, stretch.same, stretch.waited, stretch.waiting, stretch.grown,
    fun s inside => stretch.unbroken s (mem_cons_of_mem _ inside)⟩

theorem Stretch.lasting (stretch : Stretch value waits grew samples late first before older) :
    (lastingFrom value waits grew samples).isSome = true := by
  induction late generalizing samples with
  | nil =>
    obtain ⟨rfl, same, waited, waiting, grown, -⟩ := stretch
    simp [lastingFrom, same, waiting, waited, grown]
  | cons newest late ih =>
    obtain ⟨next, rest, is⟩ : ∃ next rest, samples = newest :: next :: rest := by
      rw [stretch.split]
      cases late with
      | nil => exact ⟨first, _, rfl⟩
      | cons next late => exact ⟨next, _, rfl⟩
    subst is
    have tail := stretch.earlier
    have held := stretch.unbroken newest mem_cons_self
    have goes : value newest = value next ∧ waits newest = true :=
      ⟨held.1.trans tail.head.1.symm, held.2⟩
    rw [lastingFrom, if_pos goes, isSome_or, ih tail]
    rfl

/-- What the condition has lasted from is the start of the longest stretch. -/
theorem lastingFrom_some (lasting : lastingFrom value waits grew samples = some first) :
    ∃ late before older, Stretch value waits grew samples late first before older ∧
      ∀ late' first' before' older', Stretch value waits grew samples late' first' before' older' →
        late'.length ≤ late.length := by
  induction samples with
  | nil => cases lasting
  | cons newest rest ih =>
    cases rest with
    | nil => cases lasting
    | cons next rest =>
      rw [lastingFrom] at lasting
      by_cases goes : value newest = value next ∧ waits newest = true
      swap
      · rw [if_neg goes] at lasting
        cases lasting
      rw [if_pos goes] at lasting
      cases tail : lastingFrom value waits grew (next :: rest) with
      | some from_ =>
        rw [tail, some_or, some.injEq] at lasting
        subst lasting
        obtain ⟨late, before, older, stretch, longest⟩ := ih tail
        refine ⟨newest :: late, before, older,
          stretch.later (goes.1.trans stretch.head.1) goes.2, ?_⟩
        intro late' first' before' older' other
        cases late' with
        | nil => exact Nat.zero_le _
        | cons newest' late' =>
          obtain ⟨rfl, -⟩ := cons.inj other.split
          exact Nat.succ_le_succ (longest _ _ _ _ other.earlier)
      | none =>
        rw [tail, none_or] at lasting
        split_ifs at lasting with starts
        obtain rfl := some.inj lasting
        rw [Bool.and_eq_true] at starts
        refine ⟨[], next, rest, ⟨rfl, goes.1, starts.1, goes.2, starts.2, by simp⟩, ?_⟩
        intro late' first' before' older' other
        cases late' with
        | nil => exact Nat.le_refl _
        | cons newest' late' =>
          obtain ⟨rfl, -⟩ := cons.inj other.split
          have lasted := other.earlier.lasting
          simp [tail] at lasted

theorem lastingFrom_isSome_iff :
    (lastingFrom value waits grew samples).isSome = true ↔
      ∃ late first before older, Stretch value waits grew samples late first before older := by
  constructor
  · intro lasting
    obtain ⟨first, is⟩ := isSome_iff_exists.mp lasting
    obtain ⟨late, before, older, stretch, -⟩ := lastingFrom_some is
    exact ⟨late, first, before, older, stretch⟩
  · rintro ⟨late, first, before, older, stretch⟩
    exact stretch.lasting

end Lasting
end Foundation
