import Mathlib.Data.List.Infix
import Mathlib.Logic.Function.Basic

/-!
The files below one directory, known by their inodes. What a path through a
symbolic link comes to is left to the environment.
-/
namespace Foundation
open Function List

inductive Entry where
  | dir
  | file (inode : Nat)
  | link
  | special
  deriving DecidableEq

/-- Paths are lists of names below the directory; the empty path is the
    directory itself. Inodes from `next` on are not in use. -/
structure FileTree (Name Byte : Type) where
  entry : List Name → Option Entry
  content : Nat → List Byte
  next : Nat
  bounded : ∀ path inode, entry path = some (.file inode) → inode < next

inductive Walk where
  | plain
  | missing
  | blocked
  | linked

inductive Landing (Name : Type) where
  | refused
  | opened (inode : Nat)
  | made (path : List Name)

namespace FileTree

variable {Name Byte : Type}

def empty : FileTree Name Byte where
  entry _ := none
  content _ := []
  next := 0
  bounded _ _ found := by cases found

def write (t : FileTree Name Byte) (inode : Nat) (bytes : List Byte) : FileTree Name Byte :=
  { t with content := update t.content inode bytes }

def skipInode (t : FileTree Name Byte) : FileTree Name Byte :=
  { t with
      next := t.next + 1
      bounded := fun p inode found => Nat.lt_succ_of_lt (t.bounded p inode found) }

def restrict (t : FileTree Name Byte) (keep : List Name → Bool) : FileTree Name Byte where
  entry path := if keep path then t.entry path else none
  content := t.content
  next := t.next
  bounded path inode found := by
    split at found
    · exact t.bounded path inode found
    · cases found

def walk (t : FileTree Name Byte) (above : List Name) : List Name → Walk
  | [] => .plain
  | name :: rest =>
    match t.entry (above ++ [name]) with
    | some .dir => t.walk (above ++ [name]) rest
    | none => .missing
    | some .link => .linked
    | some _ => .blocked

def Grows (t t' : FileTree Name Byte) : Prop :=
  ∀ path e, t.entry path = some e → t'.entry path = some e

variable {t t' t'' : FileTree Name Byte} {path above : List Name}

@[simp] theorem Grows.refl (t : FileTree Name Byte) : Grows t t := fun _ _ found => found

theorem Grows.trans (first : Grows t t') (second : Grows t' t'') : Grows t t'' :=
  fun path e found => second path e (first path e found)

@[simp] theorem grows_write (inode : Nat) (bytes : List Byte) : Grows t (t.write inode bytes) :=
  fun _ _ found => found

theorem write_write (inode : Nat) (first second : List Byte) :
    (t.write inode first).write inode second = t.write inode second := by
  simp [write]

variable {names : List Name}

theorem walk_linked (linked : t.walk above names = .linked) :
    ∃ first rest, first ≠ [] ∧ names = first ++ rest ∧ t.entry (above ++ first) = some .link := by
  induction names generalizing above with
  | nil => cases linked
  | cons name rest ih =>
    simp only [walk] at linked
    split at linked
    · obtain ⟨first, more, -, rfl, found⟩ := ih linked
      exact ⟨name :: first, more, by simp, rfl, by simpa using found⟩
    · cases linked
    · rename_i found
      exact ⟨[name], rest, by simp, rfl, found⟩
    · cases linked

theorem walk_plain (dirs : ∀ first rest, first ≠ [] → names = first ++ rest →
    t.entry (above ++ first) = some .dir) : t.walk above names = .plain := by
  induction names generalizing above with
  | nil => rfl
  | cons name rest ih =>
    simp only [walk, dirs [name] rest (cons_ne_nil _ _) rfl]
    refine ih fun first more _ same => ?_
    simpa using dirs (name :: first) more (cons_ne_nil _ _) (by rw [same]; rfl)

/-- The beginnings of a path are directories or free. -/
def Open (t : FileTree Name Byte) (above names : List Name) : Prop :=
  ∀ first rest, first ≠ [] → names = first ++ rest →
    t.entry (above ++ first) = none ∨ t.entry (above ++ first) = some .dir

theorem Open.tail {name : Name} {rest : List Name} (clear : Open t above (name :: rest)) :
    Open t (above ++ [name]) rest := by
  intro first more _ same
  have whole := clear (name :: first) more (cons_ne_nil _ _) (by rw [same]; rfl)
  simpa using whole

structure Made (t t' : FileTree Name Byte) (above names : List Name) : Prop where
  dirs : ∀ first rest, first ≠ [] → names = first ++ rest → t'.entry (above ++ first) = some .dir
  old : ∀ p e, t'.entry p = some e → t.entry p = some e ∨
    e = .dir ∧ ∃ first rest, first ≠ [] ∧ names = first ++ rest ∧ p = above ++ first

theorem Made.cons {name : Name} {rest : List Name} (here : t'.entry (above ++ [name]) = some .dir)
    (before : ∀ p e, t'.entry p = some e → t.entry p = some e ∨ e = .dir ∧ p = above ++ [name])
    (grows : Grows t' t'') (made : Made t' t'' (above ++ [name]) rest) :
    Made t t'' above (name :: rest) := by
  constructor
  · intro first more some_ same
    obtain ⟨_, others, rfl⟩ := exists_cons_of_ne_nil some_
    obtain ⟨rfl, tail⟩ := cons.inj same
    by_cases last : others = []
    · subst last
      exact grows _ _ here
    · simpa using made.dirs others more last tail
  · intro p e found
    rcases made.old p e found with was | ⟨dir, first, more, -, rfl, rfl⟩
    · rcases before p e was with older | ⟨dir, rfl⟩
      · exact .inl older
      · exact .inr ⟨dir, [name], rest, cons_ne_nil _ _, rfl, rfl⟩
    · exact .inr ⟨dir, name :: first, more, cons_ne_nil _ _, rfl, by simp⟩

section Changes

variable [DecidableEq Name]

def addDir (t : FileTree Name Byte) (path : List Name) : FileTree Name Byte where
  entry := if t.entry path = none then update t.entry path (some .dir) else t.entry
  content := t.content
  next := t.next
  bounded p inode found := by
    split at found
    · by_cases same : p = path
      · subst same
        simp at found
      · rw [update_of_ne same] at found
        exact t.bounded p inode found
    · exact t.bounded p inode found

def addFile (t : FileTree Name Byte) (path : List Name) : FileTree Name Byte where
  entry := update t.entry path (some (.file t.next))
  content := update t.content t.next []
  next := t.next + 1
  bounded p inode found := by
    by_cases same : p = path
    · subst same
      rw [update_self] at found
      cases found
      exact Nat.lt_succ_self _
    · rw [update_of_ne same] at found
      exact Nat.lt_succ_of_lt (t.bounded p inode found)

def mkdirs (t : FileTree Name Byte) (above : List Name) : List Name → FileTree Name Byte × Walk
  | [] => (t, .plain)
  | name :: rest =>
    match t.entry (above ++ [name]) with
    | some .dir => t.mkdirs (above ++ [name]) rest
    | none => (t.addDir (above ++ [name])).mkdirs (above ++ [name]) rest
    | some .link => (t, .linked)
    | some _ => (t, .blocked)

def land (t : FileTree Name Byte) : Landing Name → FileTree Name Byte × Option Nat
  | .refused => (t, none)
  | .opened inode => (t.write inode [], some inode)
  | .made path => if t.entry path = none then (t.addFile path, some t.next) else (t, none)

/-- Open a file for writing: one that is there is truncated. What is written to
    a special file stands under no name. -/
def create (t : FileTree Name Byte) (path : List Name) (landing : Landing Name) :
    FileTree Name Byte × Option Nat :=
  match t.walk [] path.dropLast with
  | .plain =>
    match t.entry path with
    | none => (t.addFile path, some t.next)
    | some (.file inode) => (t.write inode [], some inode)
    | some .dir => (t, none)
    | some .link => t.land landing
    | some .special =>
      match landing with
      | .refused => (t, none)
      | _ => (t.skipInode, some t.next)
  | .linked => t.land landing
  | _ => (t, none)

theorem grows_addDir (path : List Name) : Grows t (t.addDir path) := by
  intro p e found
  simp only [addDir]
  split
  · rename_i free
    rw [update_of_ne (by rintro rfl; rw [found] at free; cases free)]
    exact found
  · exact found

theorem grows_addFile (free : t.entry path = none) : Grows t (t.addFile path) := by
  intro p e found
  have differs : p ≠ path := by
    rintro rfl
    rw [found] at free
    cases free
  simpa [addFile, update_of_ne differs] using found

theorem grows_mkdirs (above names : List Name) : Grows t (t.mkdirs above names).1 := by
  induction names generalizing t above with
  | nil => exact Grows.refl t
  | cons name rest ih =>
    simp only [mkdirs]
    split
    · exact ih _
    · exact (grows_addDir _).trans (ih _)
    · exact Grows.refl t
    · exact Grows.refl t

theorem grows_land (landing : Landing Name) : Grows t (t.land landing).1 := by
  cases landing with
  | refused => exact Grows.refl t
  | opened inode => exact grows_write inode []
  | made path =>
    simp only [land]
    split
    · rename_i free
      exact grows_addFile free
    · exact Grows.refl t

theorem grows_create (path : List Name) (landing : Landing Name) :
    Grows t (t.create path landing).1 := by
  unfold create
  split
  · split
    · rename_i free
      exact grows_addFile free
    · exact grows_write _ _
    · exact Grows.refl t
    · exact grows_land landing
    · split
      · exact Grows.refl t
      · exact Grows.refl t
  · exact grows_land landing
  · exact Grows.refl t

theorem entry_addDir {p : List Name} {e : Entry} (found : (t.addDir path).entry p = some e) :
    t.entry p = some e ∨ e = .dir := by
  simp only [addDir] at found
  split at found
  · by_cases same : p = path
    · subst same
      rw [update_self] at found
      exact .inr (Option.some.inj found).symm
    · rw [update_of_ne same] at found
      exact .inl found
  · exact .inl found

theorem mkdirs_frame (above names : List Name) :
    (∀ p e, (t.mkdirs above names).1.entry p = some e → t.entry p = some e ∨ e = .dir) ∧
      (t.mkdirs above names).1.content = t.content := by
  induction names generalizing t above with
  | nil => exact ⟨fun _ _ => .inl, rfl⟩
  | cons name rest ih =>
    simp only [mkdirs]
    split
    · exact ih _
    · refine ⟨fun p e found => ?_, (ih _).2⟩
      rcases (ih _).1 p e found with added | dir
      · exact entry_addDir added
      · exact .inr dir
    · exact ⟨fun _ _ => .inl, rfl⟩
    · exact ⟨fun _ _ => .inl, rfl⟩

theorem mkdirs_linked (linked : (t.mkdirs above names).2 = .linked) :
    ∃ first rest, first ≠ [] ∧ names = first ++ rest ∧ t.entry (above ++ first) = some .link := by
  induction names generalizing t above with
  | nil => cases linked
  | cons name rest ih =>
    simp only [mkdirs] at linked
    split at linked
    · obtain ⟨first, more, -, rfl, found⟩ := ih linked
      exact ⟨name :: first, more, by simp, rfl, by simpa using found⟩
    · obtain ⟨first, more, -, rfl, found⟩ := ih linked
      rcases entry_addDir found with old | dir
      · exact ⟨name :: first, more, by simp, rfl, by simpa using old⟩
      · cases dir
    · rename_i found
      exact ⟨[name], rest, by simp, rfl, found⟩
    · cases linked

theorem Open.addDir (clear : Open t above names) (path : List Name) :
    Open (t.addDir path) above names := by
  intro first rest some_ same
  cases found : (t.addDir path).entry (above ++ first) with
  | none => exact .inl rfl
  | some e =>
    rcases entry_addDir found with old | rfl
    · rcases clear first rest some_ same with free | dir
      · rw [free] at old
        cases old
      · rw [dir] at old
        exact .inr old.symm
    · exact .inr rfl

theorem entry_addDir_self (free : t.entry path = none) :
    (t.addDir path).entry path = some .dir := by
  simp [addDir, free]

theorem mkdirs_open (clear : Open t above names) :
    (t.mkdirs above names).2 = .plain ∧ Made t (t.mkdirs above names).1 above names := by
  induction names generalizing t above with
  | nil =>
    refine ⟨rfl, fun first rest some_ same => ?_, fun _ _ found => .inl found⟩
    exact absurd (append_eq_nil_iff.mp same.symm).1 some_
  | cons name rest ih =>
    simp only [mkdirs]
    rcases clear [name] rest (cons_ne_nil _ _) rfl with free | dir
    · rw [free]
      obtain ⟨plain, made⟩ := ih (clear.tail.addDir (above ++ [name]))
      refine ⟨plain, made.cons (entry_addDir_self free) (fun p e found => ?_) (grows_mkdirs _ _)⟩
      by_cases same : p = above ++ [name]
      · subst same
        rw [entry_addDir_self free] at found
        exact .inr ⟨(Option.some.inj found).symm, rfl⟩
      · simp only [addDir, free, if_true, update_of_ne same] at found
        exact .inl found
    · rw [dir]
      obtain ⟨plain, made⟩ := ih clear.tail
      exact ⟨plain, made.cons dir (fun _ _ => .inl) (grows_mkdirs _ _)⟩

end Changes
end FileTree
end Foundation
