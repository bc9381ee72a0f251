import CubridOperator.Foundation.Text
import Mathlib.Data.List.TakeWhile

/-! Slash-separated paths, cleaned lexically as the Go standard library does. -/
namespace Foundation.Path
open List

def elements (p : Text) : List Text := (p.splitOn '/').filter (· ≠ [])

def isAbs (p : Text) : Bool := p.head? = some '/'

def cleanStep (rooted : Bool) (kept : List Text) (element : Text) : List Text :=
  if element = ['.'] then kept
  else if element = ['.', '.'] then
    match kept with
    | [] => if rooted then [] else [element]
    | last :: front => if last = ['.', '.'] then element :: kept else front
  else element :: kept

def join (es : List Text) : Text := ['/'].intercalate es

def clean (p : Text) : Text :=
  let rooted := isAbs p
  let out := join ((elements p).foldl (cleanStep rooted) []).reverse
  if rooted then '/' :: out else if out = [] then ['.'] else out

def base (p : Text) : Text :=
  match (elements p).getLast? with
  | some last => last
  | none => if p = [] then ['.'] else ['/']

def joined (above rest : Text) : Text :=
  if above = [] then clean rest else clean (above ++ '/' :: rest)

def joinedAll (es : List Text) : Text :=
  let es := es.filter (· ≠ [])
  if es = [] then [] else clean (join es)

def dir (p : Text) : Text :=
  clean (p.reverse.dropWhile (· ≠ '/')).reverse

/-- Whether a clean absolute path is another one or lies below it. -/
def within (target above : Text) : Bool := (elements above).isPrefixOf (elements target)

theorem elements_append (front rest : Text) :
    elements (front ++ '/' :: rest) = elements front ++ elements rest := by
  have cut : (front ++ '/' :: rest).splitOn '/' = front.splitOn '/' ++ rest.splitOn '/' :=
    splitOnP_append_cons front rest (by simp)
  simp [elements, cut]

theorem foldl_cleanStep (rooted : Bool) (es kept : List Text)
    (plain : ∀ e ∈ es, e ≠ ['.'] ∧ e ≠ ['.', '.']) :
    es.foldl (cleanStep rooted) kept = es.reverse ++ kept := by
  induction es generalizing kept with
  | nil => rfl
  | cons e es ih =>
    have first := plain e mem_cons_self
    have kept' : cleanStep rooted kept e = e :: kept := by simp [cleanStep, first]
    rw [foldl_cons, kept', ih _ fun other member => plain other (mem_cons_of_mem _ member)]
    simp

theorem join_elements {p : Text} (relative : isAbs p = false) (cleaned : clean p = p)
    (plain : ∀ e ∈ elements p, e ≠ ['.'] ∧ e ≠ ['.', '.']) : join (elements p) = p := by
  have out : join ((elements p).foldl (cleanStep false) []).reverse = join (elements p) := by
    rw [foldl_cleanStep false _ [] plain]
    simp
  rw [clean, relative, out] at cleaned
  simp only [Bool.false_eq_true, if_false] at cleaned
  split at cleaned
  · -- A path of no elements is cleaned to the dot, which is one.
    subst cleaned
    exact absurd rfl (plain ['.'] (by decide)).1
  · exact cleaned

section Names

/-- A name of a file: an element that cleaning keeps as it is. -/
def Plain (e : Text) : Prop := e ≠ [] ∧ '/' ∉ e ∧ e ≠ ['.'] ∧ e ≠ ['.', '.']

instance (e : Text) : Decidable (Plain e) := inferInstanceAs (Decidable (_ ∧ _))

def normal (rooted : Bool) (es : List Text) : List Text := (es.foldl (cleanStep rooted) []).reverse

@[simp] theorem join_singleton (e : Text) : join [e] = e := by simp [join]

theorem join_cons (e : Text) {es : List Text} (more : es ≠ []) :
    join (e :: es) = e ++ '/' :: join es := by
  obtain ⟨next, rest, rfl⟩ := exists_cons_of_ne_nil more
  rfl

theorem mem_join {c : Char} (other : c ≠ '/') (es : List Text) : c ∈ join es ↔ ∃ e ∈ es, c ∈ e := by
  induction es with
  | nil => simp [join, intercalate]
  | cons e es ih =>
    by_cases last : es = []
    · subst last
      simp [join]
    · rw [join_cons e last, mem_append, mem_cons, ih, or_iff_right other]
      simp

theorem elements_join {es : List Text} (names : ∀ e ∈ es, e ≠ [] ∧ '/' ∉ e) :
    elements (join es) = es := by
  by_cases none : es = []
  · subst none
    rfl
  · have split : (join es).splitOn '/' = es :=
      splitOn_intercalate '/' (fun e member => (names e member).2) none
    rw [elements, split, filter_eq_self]
    intro e member
    exact decide_eq_true (names e member).1

theorem slash_not_mem_splitOn {p e : Text} (member : e ∈ p.splitOn '/') : '/' ∉ e := by
  induction p generalizing e with
  | nil =>
    obtain rfl : e = [] := by simpa using member
    simp
  | cons c p ih =>
    have split : (c :: p).splitOn '/' = if c = '/' then [] :: p.splitOn '/'
        else (p.splitOn '/').modifyHead (c :: ·) := by
      simp [splitOn, splitOnP_cons_eq_if_modifyHead]
    rw [split] at member
    split_ifs at member with slash
    · rcases mem_cons.mp member with rfl | among
      · simp
      · exact ih among
    · obtain ⟨first, rest, is⟩ := exists_cons_of_ne_nil (splitOnP_ne_nil (· == '/') p)
      have is : p.splitOn '/' = first :: rest := is
      rw [is, modifyHead_cons, mem_cons] at member
      rcases member with rfl | among
      · have clear := ih (is ▸ mem_cons_self)
        simp [clear, Ne.symm slash]
      · exact ih (is ▸ mem_cons_of_mem _ among)

theorem mem_elements {p e : Text} (member : e ∈ elements p) : e ≠ [] ∧ '/' ∉ e := by
  obtain ⟨among, named⟩ := mem_filter.mp member
  exact ⟨of_decide_eq_true named, slash_not_mem_splitOn among⟩

variable {rooted : Bool} {es names : List Text} {above e : Text}

theorem normal_append (es : List Text) (plain : ∀ e ∈ names, Plain e) :
    normal rooted (es ++ names) = normal rooted es ++ names := by
  have dots : ∀ e ∈ names, e ≠ ['.'] ∧ e ≠ ['.', '.'] := fun e member => (plain e member).2.2
  rw [normal, foldl_append, foldl_cleanStep rooted names _ dots, reverse_append, reverse_reverse]
  rfl

theorem mem_cleanStep {kept : List Text} {next : Text} (member : e ∈ cleanStep rooted kept next) :
    e = next ∨ e ∈ kept := by
  unfold cleanStep at member
  split at member
  · exact .inr member
  · split at member
    · cases kept with
      | nil =>
        cases rooted with
        | true => cases member
        | false => exact .inl (mem_singleton.mp member)
      | cons last front =>
        dsimp only at member
        split at member
        · exact mem_cons.mp member
        · exact .inr (mem_cons_of_mem _ member)
    · exact mem_cons.mp member

theorem mem_foldl_cleanStep {kept : List Text} (member : e ∈ es.foldl (cleanStep rooted) kept) :
    e ∈ es ∨ e ∈ kept := by
  induction es generalizing kept with
  | nil => exact .inr member
  | cons first es ih =>
    rcases ih member with among | before
    · exact .inl (mem_cons_of_mem _ among)
    · rcases mem_cleanStep before with rfl | earlier
      · exact .inl mem_cons_self
      · exact .inr earlier

theorem mem_normal (member : e ∈ normal rooted es) : e ∈ es :=
  (mem_foldl_cleanStep (mem_reverse.mp member)).resolve_right not_mem_nil

theorem isAbs_join (named : ∀ e ∈ es, e ≠ [] ∧ '/' ∉ e) : isAbs (join es) = false := by
  cases es with
  | nil => rfl
  | cons first rest =>
    obtain ⟨nonempty, slashes⟩ := named first mem_cons_self
    obtain ⟨c, cs, rfl⟩ := exists_cons_of_ne_nil nonempty
    have other : c ≠ '/' := fun same => slashes (same ▸ mem_cons_self)
    cases rest with
    | nil => simp [isAbs, join, other]
    | cons second rest => simp [isAbs, join, intercalate, intersperse, other]

def below (above : Text) (names : List Text) : List Text :=
  normal (isAbs above) (elements above) ++ names

theorem below_named (above : Text) (plain : ∀ e ∈ names, Plain e) :
    ∀ e ∈ below above names, e ≠ [] ∧ '/' ∉ e := by
  intro e member
  rcases mem_append.mp member with above | under
  · exact mem_elements (mem_normal above)
  · exact ⟨(plain e under).1, (plain e under).2.1⟩

theorem joined_join (above : Text) (plain : ∀ e ∈ names, Plain e) (some_ : names ≠ []) :
    joined above (join names) = (if isAbs above then ['/'] else []) ++ join
      (below above names) := by
  have inside : elements (join names) = names :=
    elements_join fun e member => ⟨(plain e member).1, (plain e member).2.1⟩
  have nonempty : join (below above names) ≠ [] := by
    intro empty
    have none := elements_join (below_named above plain)
    rw [empty] at none
    exact some_ (append_eq_nil_iff.mp none.symm).2
  have cleaned : ∀ p, elements p = elements above ++ names → isAbs p = isAbs above →
      clean p = (if isAbs above then ['/'] else []) ++ join (below above names) := by
    intro p parts root
    have out : join ((elements p).foldl (cleanStep (isAbs p)) []).reverse = join
        (below above names) := by
      rw [root, parts]
      exact congrArg join (normal_append _ plain)
    rw [clean, out, root, if_neg nonempty]
    cases isAbs above <;> rfl
  unfold joined
  split
  · rename_i empty
    subst empty
    exact cleaned _ inside (isAbs_join fun e member => ⟨(plain e member).1, (plain e member).2.1⟩)
  · rename_i named
    refine cleaned _ ((elements_append _ _).trans (by rw [inside])) ?_
    obtain ⟨c, cs, rfl⟩ := exists_cons_of_ne_nil named
    rfl

section

variable (plain : ∀ e ∈ names, Plain e)
include plain

section

variable (some_ : names ≠ [])
include some_

theorem elements_joined : elements (joined above (join names)) = below above names := by
  rw [joined_join above plain some_]
  cases isAbs above with
  | false => exact elements_join (below_named above plain)
  | true => exact (elements_append [] _).trans (elements_join (below_named above plain))

theorem isAbs_joined : isAbs (joined above (join names)) = isAbs above := by
  rw [joined_join above plain some_]
  cases isAbs above with
  | false => exact isAbs_join (below_named above plain)
  | true => rfl

theorem joined_congr {other : Text} {more : List Text}
    (same : joined above (join names) = joined other (join names)) (plain' : ∀ e ∈ more, Plain e)
    (some' : more ≠ []) : joined above (join more) = joined other (join more) := by
  have root : isAbs above = isAbs other := by
    rw [← isAbs_joined plain some_, same, isAbs_joined plain some_]
  have parts : below above names = below other names := by
    rw [← elements_joined plain some_, same, elements_joined plain some_]
  have front := append_cancel_right parts
  rw [joined_join above plain' some', joined_join other plain' some', root, below, front]
  rfl

theorem joined_injective {more : List Text} (plain' : ∀ e ∈ more, Plain e) (some' : more ≠ [])
    (same : joined above (join names) = joined above (join more)) : names = more := by
  have parts : below above names = below above more := by
    rw [← elements_joined plain some_, same, elements_joined plain' some']
  exact append_cancel_left parts

theorem clean_join : clean (join names) = join names :=
  joined_join [] plain some_

end

end

theorem clean_congr {p q : Text} (parts : elements p = elements q) (root : isAbs p = isAbs q) :
    clean p = clean q := by
  simp only [clean, parts, root]

theorem join_append_join {more : List Text} (some_ : names ≠ []) (some' : more ≠ []) :
    join (names ++ more) = join names ++ '/' :: join more := by
  induction names with
  | nil => exact absurd rfl some_
  | cons first names ih =>
    by_cases none : names = []
    · subst none
      simp [join_cons first some']
    · rw [cons_append, join_cons first (by simp [none]), ih none, join_cons first none,
        append_assoc]
      rfl

theorem join_append (last : Text) (some_ : names ≠ []) :
    join (names ++ [last]) = join names ++ '/' :: last := by
  rw [join_append_join some_ (cons_ne_nil last []), join_singleton]

theorem flatMap_slash (some_ : names ≠ []) : names.flatMap ('/' :: ·) = '/' :: join names := by
  induction names with
  | nil => exact absurd rfl some_
  | cons first names ih =>
    by_cases none : names = []
    · subst none
      simp
    · rw [flatMap_cons, ih none, join_cons first none]
      rfl

theorem joined_join_last {last : Text} (plain : ∀ e ∈ names, Plain e) (plainLast : Plain last) :
    joined (join names) last = join (names ++ [last]) := by
  have named : ∀ e ∈ names, e ≠ [] ∧ '/' ∉ e :=
    fun e member => ⟨(plain e member).1, (plain e member).2.1⟩
  have lastPlain : ∀ e ∈ [last], Plain e := by simpa using plainLast
  have one := joined_join (join names) lastPlain (by simp)
  have kept : normal (isAbs (join names)) names = names := normal_append [] plain
  rw [join_singleton, below, elements_join named, kept, isAbs_join named] at one
  exact one

theorem dir_append_slash (front : Text) {last : Text} (single : '/' ∉ last) :
    dir (front ++ '/' :: last) = clean (front ++ ['/']) := by
  have skipped : last.reverse.dropWhile (· ≠ '/') = [] := by
    rw [dropWhile_eq_nil_iff]
    intro c member
    exact decide_eq_true fun same => single (same ▸ mem_reverse.mp member)
  rw [dir, reverse_append, reverse_cons, append_assoc, dropWhile_append, skipped]
  simp

theorem clean_append_slash {p : Text} (nonempty : p ≠ []) : clean (p ++ ['/']) = clean p := by
  refine clean_congr ?_ ?_
  · rw [elements_append p []]
    simp [elements]
  · obtain ⟨c, cs, rfl⟩ := exists_cons_of_ne_nil nonempty
    rfl

theorem dir_join {last : Text} (plain : ∀ e ∈ names, Plain e) (some_ : names ≠ [])
    (single : '/' ∉ last) : dir (join (names ++ [last])) = join names := by
  have nonempty : join names ≠ [] := by
    intro empty
    have none := elements_join fun e member => ⟨(plain e member).1, (plain e member).2.1⟩
    rw [empty] at none
    exact some_ none.symm
  rw [join_append last some_, dir_append_slash _ single, clean_append_slash nonempty,
    clean_join plain some_]

theorem filter_named (plain : ∀ e ∈ names, Plain e) : names.filter (· ≠ []) = names := by
  rw [filter_eq_self]
  intro e member
  exact decide_eq_true (plain e member).1

theorem joinedAll_plain (plain : ∀ e ∈ names, Plain e) (some_ : names ≠ []) :
    joinedAll names = join names := by
  rw [joinedAll, filter_named plain, if_neg some_, clean_join plain some_]

theorem joinedAll_cons (above : Text) (plain : ∀ e ∈ names, Plain e) (some_ : names ≠ []) :
    joinedAll (above :: names) = joined above (join names) := by
  have kept := filter_named plain
  unfold joinedAll joined
  split
  · rename_i empty
    subst empty
    have whole : ([] :: names).filter (· ≠ []) = names := kept
    rw [whole, if_neg some_]
  · rename_i named
    have whole : (above :: names).filter (· ≠ []) = above :: names := by
      rw [filter_cons, if_pos (decide_eq_true named), kept]
    rw [whole, if_neg (cons_ne_nil above names), join_cons above some_]

/-- A relative path that is cleaned leads up first, and then only down. -/
def Descends (kept : List Text) : Prop :=
  ∃ down n, kept = down ++ replicate n ['.', '.'] ∧ ∀ e ∈ down, e ≠ ['.'] ∧ e ≠ ['.', '.']

theorem Descends.step {kept : List Text} (descends : Descends kept) (e : Text) :
    Descends (cleanStep false kept e) := by
  obtain ⟨down, n, rfl, only⟩ := descends
  unfold cleanStep
  split
  · exact ⟨down, n, rfl, only⟩
  · rename_i here
    split
    · rename_i up
      subst up
      cases down with
      | nil =>
        cases n with
        | zero => exact ⟨[], 1, rfl, only⟩
        | succ n => exact ⟨[], n + 2, rfl, only⟩
      | cons last down =>
        have other := (only last mem_cons_self).2
        simp only [cons_append, other, if_false]
        exact ⟨down, n, rfl, fun f member => only f (mem_cons_of_mem last member)⟩
    · rename_i down'
      refine ⟨e :: down, n, rfl, ?_⟩
      intro f member
      rcases mem_cons.mp member with rfl | member
      · exact ⟨here, down'⟩
      · exact only f member

theorem Descends.foldl {kept : List Text} (descends : Descends kept) (es : List Text) :
    Descends (es.foldl (cleanStep false) kept) := by
  induction es generalizing kept with
  | nil => exact descends
  | cons e es ih => exact ih (descends.step e)

theorem descends_foldl (es : List Text) : Descends (es.foldl (cleanStep false) []) :=
  Descends.foldl ⟨[], 0, rfl, by simp⟩ es

theorem plain_of_normal {p : Text} (inside : (normal false (elements p)).head? ≠ some ['.', '.']) :
    ∀ e ∈ normal false (elements p), Plain e := by
  intro e member
  obtain ⟨nonempty, single⟩ := mem_elements (mem_normal member)
  obtain ⟨down, n, kept, only⟩ := descends_foldl (elements p)
  cases n with
  | zero =>
    rw [normal, kept] at member
    have dots := only e (by simpa using member)
    exact ⟨nonempty, single, dots.1, dots.2⟩
  | succ n =>
    rw [normal, kept, reverse_append, reverse_replicate] at inside
    exact absurd rfl inside

theorem clean_relative {p : Text} (relative : isAbs p = false) :
    clean p = if normal false (elements p) = [] then ['.']
      else join (normal false (elements p)) := by
  have named : ∀ e ∈ normal false (elements p), e ≠ [] ∧ '/' ∉ e :=
    fun e member => mem_elements (mem_normal member)
  have empty : join (normal false (elements p)) = [] ↔ normal false (elements p) = [] := by
    constructor
    · intro none
      rw [← elements_join named, none]
      rfl
    · intro none
      rw [none]
      rfl
  rw [clean, relative]
  simp only [Bool.false_eq_true, if_false]
  exact if_congr empty rfl rfl

theorem foldl_replicate_up (n : Nat) :
    (replicate n ['.', '.']).foldl (cleanStep false) [] = replicate n ['.', '.'] := by
  induction n with
  | zero => rfl
  | succ n ih =>
    have pushed : cleanStep false (replicate n ['.', '.']) ['.', '.'] = replicate (n + 1)
        ['.', '.'] := by
      cases n with
      | zero | succ => rfl
    rw [replicate_succ', foldl_append, ih, ← replicate_succ']
    exact pushed

theorem normal_normal (es : List Text) : normal false (normal false es) = normal false es := by
  obtain ⟨down, n, kept, only⟩ := descends_foldl es
  have again : (replicate n ['.', '.'] ++ down.reverse).foldl (cleanStep false) [] =
      down ++ replicate n ['.', '.'] := by
    rw [foldl_append, foldl_replicate_up, foldl_cleanStep false _ _ fun e member => only e
      (mem_reverse.mp member), reverse_reverse]
  have whole : normal false es = replicate n ['.', '.'] ++ down.reverse := by
    rw [normal, kept, reverse_append, reverse_replicate]
  rw [whole, normal, again, reverse_append, reverse_replicate]

theorem joined_joined {more : List Text} (relative : isAbs above = false)
    (plain : ∀ e ∈ names, Plain e) (some_ : names ≠ []) (plain' : ∀ e ∈ more, Plain e)
    (some' : more ≠ []) :
    joined (joined above (join names)) (join more) = joined above (join (names ++ more)) := by
  have all : ∀ e ∈ names ++ more, Plain e :=
    fun e member => (mem_append.mp member).elim (plain e) (plain' e)
  rw [joined_join _ plain' some', joined_join above all (by simp [some_]),
    isAbs_joined plain some_, below, elements_joined plain some_, isAbs_joined plain some_,
    relative, below, relative, normal_append _ plain, normal_normal, below, relative, append_assoc]

theorem stays_below (plain : ∀ e ∈ names, Plain e) :
    join names ≠ ['.', '.'] ∧ ¬ ['.', '.', '/'] <+: join names := by
  have named : ∀ e ∈ names, e ≠ [] ∧ '/' ∉ e :=
    fun e member => ⟨(plain e member).1, (plain e member).2.1⟩
  have down : ['.', '.'] ∉ names := fun member => (plain _ member).2.2.2 rfl
  constructor
  · intro up
    have parts := elements_join named
    rw [up] at parts
    exact down (parts ▸ by decide)
  · rintro ⟨rest, up⟩
    have parts := elements_join named
    rw [← up] at parts
    have first : elements (['.', '.', '/'] ++ rest) = [['.', '.']] ++ elements rest :=
      elements_append ['.', '.'] rest
    exact down (parts ▸ first ▸ mem_cons_self)

theorem elements_absolute (named : ∀ e ∈ names, e ≠ [] ∧ '/' ∉ e) :
    elements ('/' :: join names) = names :=
  (elements_append [] (join names)).trans (elements_join named)

section

variable (plain : ∀ e ∈ names, Plain e)
include plain

theorem clean_absolute : clean ('/' :: join names) = '/' :: join names := by
  have named : ∀ e ∈ names, e ≠ [] ∧ '/' ∉ e :=
    fun e member => ⟨(plain e member).1, (plain e member).2.1⟩
  have kept : normal true names = names := normal_append [] plain
  have out : join ((elements ('/' :: join names)).foldl (cleanStep true) []).reverse =
      join names := by
    rw [elements_absolute named]
    exact congrArg join kept
  have root : isAbs ('/' :: join names) = true := by simp [isAbs]
  rw [clean, root, out]
  rfl

theorem base_absolute {last : Text} (plainLast : Plain last) :
    base ('/' :: join (names ++ [last])) = last := by
  have named : ∀ e ∈ names ++ [last], e ≠ [] ∧ '/' ∉ e := by
    intro e member
    rcases mem_append.mp member with member | member
    · exact ⟨(plain e member).1, (plain e member).2.1⟩
    · exact mem_singleton.mp member ▸ ⟨plainLast.1, plainLast.2.1⟩
  simp [base, elements_absolute named]

theorem dir_absolute (some_ : names ≠ []) {last : Text} (single : '/' ∉ last) :
    dir ('/' :: join (names ++ [last])) = '/' :: join names := by
  have text : '/' :: join (names ++ [last]) = ('/' :: join names) ++ '/' :: last := by
    rw [join_append last some_]
    rfl
  rw [text, dir_append_slash _ single, clean_append_slash (cons_ne_nil _ _), clean_absolute plain]

theorem joined_absolute {last : Text} (plainLast : Plain last) :
    joined ('/' :: join names) last = '/' :: join (names ++ [last]) := by
  have named : ∀ e ∈ names, e ≠ [] ∧ '/' ∉ e :=
    fun e member => ⟨(plain e member).1, (plain e member).2.1⟩
  have one := joined_join ('/' :: join names) (by simpa using plainLast : ∀ e ∈ [last], Plain e)
    (cons_ne_nil _ _)
  have kept : normal true names = names := normal_append [] plain
  have root : isAbs ('/' :: join names) = true := by simp [isAbs]
  rw [join_singleton, below, elements_absolute named, root, kept] at one
  exact one

end

theorem plain_of_rooted {p : Text} : ∀ e ∈ normal true (elements p), Plain e := by
  have kept : ∀ (es kept : List Text), (∀ e ∈ kept, e ≠ ['.'] ∧ e ≠ ['.', '.']) →
      ∀ e ∈ es.foldl (cleanStep true) kept, e ≠ ['.'] ∧ e ≠ ['.', '.'] := by
    intro es
    induction es with
    | nil => exact fun _ plain => plain
    | cons next es ih =>
      intro kept plain
      refine ih _ fun e member => ?_
      unfold cleanStep at member
      split at member
      · exact plain e member
      · rename_i here
        split at member
        · cases kept with
          | nil => cases member
          | cons last front =>
            have other := (plain last mem_cons_self).2
            simp only [other, if_false] at member
            exact plain e (mem_cons_of_mem _ member)
        · rename_i up
          rcases mem_cons.mp member with rfl | before
          · exact ⟨here, up⟩
          · exact plain e before
  intro e member
  obtain ⟨nonempty, single⟩ := mem_elements (mem_normal member)
  have dots := kept (elements p) [] (by simp) e (mem_reverse.mp member)
  exact ⟨nonempty, single, dots.1, dots.2⟩

theorem absolute_names {p : Text} (absolute : isAbs p = true) (cleaned : clean p = p) :
    ∃ names, (∀ e ∈ names, Plain e) ∧ p = '/' :: join names := by
  refine ⟨normal true (elements p), plain_of_rooted, ?_⟩
  have out := cleaned.symm
  rw [clean, absolute] at out
  exact out

theorem joined_child {root name : Text} (absolute : isAbs root = true) (cleaned : clean root = root)
    (plain : Plain name) :
    joined root name = (if root = ['/'] then root else root ++ ['/']) ++ name := by
  obtain ⟨names, plains, rfl⟩ := absolute_names absolute cleaned
  rw [joined_absolute plains plain]
  by_cases none : names = []
  · subst none
    simp [join, intercalate]
  · have nonempty : join names ≠ [] := by
      intro empty
      have parts := elements_join fun e member => ⟨(plains e member).1, (plains e member).2.1⟩
      rw [empty] at parts
      exact none parts.symm
    rw [join_append name none, if_neg (by simpa using nonempty)]
    simp

theorem joined_below {dir : Text} (plainDir : Plain dir) (plain : ∀ e ∈ names, Plain e)
    (some_ : names ≠ []) :
    joined above (join (dir :: names)) = joined above dir ++ '/' :: join names := by
  have whole : ∀ e ∈ dir :: names, Plain e := forall_mem_cons.mpr ⟨plainDir, plain⟩
  have first := joined_join above (by simpa using plainDir : ∀ e ∈ [dir], Plain e) (cons_ne_nil _ _)
  have split : below above (dir :: names) = below above [dir] ++ names := by simp [below]
  have head : below above [dir] ≠ [] := by simp [below]
  rw [join_singleton] at first
  rw [joined_join above whole (cons_ne_nil _ _), first, split, join_append_join head some_,
    append_assoc]

end Names

end Foundation.Path
