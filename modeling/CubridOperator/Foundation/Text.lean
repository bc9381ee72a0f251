import Mathlib.Data.List.Basic

/-!
Text as a list of characters, cut into lines and fields and cleaned as a path
in the way the Go standard library does it.
-/
namespace Foundation
open List String

abbrev Text := List Char

namespace Text

def isSpace (c : Char) : Bool :=
  c.val ∈ [0x09, 0x0a, 0x0b, 0x0c, 0x0d, 0x20, 0x85, 0xa0, 0x1680, 0x2028, 0x2029, 0x202f,
    0x205f, 0x3000] ∨
    0x2000 ≤ c.val ∧ c.val ≤ 0x200a

def trimSpace (t : Text) : Text := ((t.dropWhile isSpace).reverse.dropWhile isSpace).reverse

def fields (t : Text) : List Text := (t.splitOnP isSpace).filter (· ≠ [])

def dropReturn (line : Text) : Text :=
  if line.getLast? = some '\r' then line.dropLast else line

/-- The pieces between newlines, without an empty one after the last newline. -/
def pieces (t : Text) : List Text :=
  let parts := t.splitOn '\n'
  if parts.getLast? = some [] then parts.dropLast else parts

/-- The lines a scanner sees: a carriage return before the newline is dropped. -/
def scanLines (t : Text) : List Text := (pieces t).map dropReturn

def unlines (lines : List Text) : Text := lines.flatMap (· ++ ['\n'])

def trimPrefix (t front : Text) : Text := if front.isPrefixOf t then t.drop front.length else t

def trimSuffix (t last : Text) : Text :=
  if last.isSuffixOf t then t.take (t.length - last.length) else t

def cut (t : Text) (separator : Char) : Text × Text :=
  (t.takeWhile (· ≠ separator), (t.dropWhile (· ≠ separator)).drop 1)

theorem drop_length_takeWhile (p : Char → Bool) (t : Text) :
    t.drop (t.takeWhile p).length = t.dropWhile p := by
  induction t with
  | nil => rfl
  | cons c t ih =>
    by_cases kept : p c = true
    · simp [kept, ih]
    · simp [kept]

theorem cut_cons (c separator : Char) (t : Text) :
    cut (c :: t) separator =
      if c = separator then ([], t) else (c :: (cut t separator).1, (cut t separator).2) := by
  by_cases same : c = separator <;> simp [cut, same]

theorem not_mem_cut (t : Text) (separator : Char) : separator ∉ (cut t separator).1 := by
  induction t with
  | nil => simp [cut]
  | cons c t ih =>
    rw [cut_cons]
    split
    · simp
    · rename_i other
      simp [ih, Ne.symm other]

theorem append_cut {t : Text} {separator : Char} (more : (cut t separator).2 ≠ []) :
    (cut t separator).1 ++ separator :: (cut t separator).2 = t := by
  induction t with
  | nil => simp [cut] at more
  | cons c t ih =>
    rw [cut_cons] at more ⊢
    split
    · rename_i same
      simp [same]
    · rename_i other
      rw [if_neg other] at more
      rw [cons_append, ih more]

theorem trimPrefix_append (front t : Text) : trimPrefix (front ++ t) front = t := by
  simp [trimPrefix]

theorem trimSuffix_append (t last : Text) : trimSuffix (t ++ last) last = t := by
  simp [trimSuffix]

theorem cut_append {first : Text} {separator : Char} (rest : Text) (none : separator ∉ first) :
    cut (first ++ separator :: rest) separator = (first, rest) := by
  have kept : ∀ c ∈ first, decide (c ≠ separator) = true :=
    fun c member => decide_eq_true fun same => none (same ▸ member)
  rw [cut, takeWhile_append_of_pos kept, dropWhile_append_of_pos kept]
  simp

theorem length_le_utf8ByteSize (t : Text) : t.length ≤ (ofList t).utf8ByteSize := by
  induction t with
  | nil => simp
  | cons c t ih =>
    have positive := Char.utf8Size_pos c
    simp only [ofList_cons, utf8ByteSize_append, utf8ByteSize_singleton, length_cons]
    omega

theorem fields_append_space (t : Text) (c : Char) (space : isSpace c = true) :
    fields (t ++ [c]) = fields t := by
  simp [fields, splitOnP_append_cons t [] space]

theorem fields_cons_space (c : Char) (t : Text) (space : isSpace c = true) :
    fields (c :: t) = fields t := by
  simp [fields, splitOnP_cons_eq_if_modifyHead, space]

theorem fields_dropWhile (t : Text) : fields (t.dropWhile isSpace) = fields t := by
  induction t with
  | nil => rfl
  | cons c t ih =>
    by_cases space : isSpace c = true
    · rw [dropWhile_cons_of_pos space, ih, fields_cons_space c t space]
    · rw [dropWhile_cons_of_neg space]

theorem fields_reverse_dropWhile (t : Text) :
    fields (t.dropWhile isSpace).reverse = fields t.reverse := by
  induction t with
  | nil => rfl
  | cons c t ih =>
    by_cases space : isSpace c = true
    · rw [dropWhile_cons_of_pos space, ih, reverse_cons, fields_append_space _ c space]
    · rw [dropWhile_cons_of_neg space]

theorem fields_trimSpace (t : Text) : fields (trimSpace t) = fields t := by
  rw [trimSpace, fields_reverse_dropWhile, reverse_reverse, fields_dropWhile]

theorem fields_dropReturn (line : Text) : fields (dropReturn line) = fields line := by
  unfold dropReturn
  split
  · rename_i last
    obtain ⟨front, rfl⟩ := getLast?_eq_some_iff.mp last
    rw [dropLast_concat, fields_append_space front '\r' (by decide)]
  · rfl

theorem splitOn_append_newline (line rest : Text) (single : '\n' ∉ line) :
    (line ++ '\n' :: rest).splitOn '\n' = line :: rest.splitOn '\n' := by
  have alone : line.splitOn '\n' = [line] := by
    have joined : ['\n'].intercalate [line] = line := by simp
    have split : (['\n'].intercalate [line]).splitOn '\n' = [line] :=
      splitOn_intercalate '\n' (by simpa using single) (by simp)
    rwa [joined] at split
  have cut : (line ++ '\n' :: rest).splitOn '\n' = line.splitOn '\n' ++ rest.splitOn '\n' :=
    splitOnP_append_cons line rest (by simp)
  rw [cut, alone]
  rfl

theorem pieces_unlines (lines : List Text) (single : ∀ line ∈ lines, '\n' ∉ line) :
    pieces (unlines lines) = lines := by
  have cut : (unlines lines).splitOn '\n' = lines ++ [[]] := by
    induction lines with
    | nil => rfl
    | cons line lines ih =>
      have first := splitOn_append_newline line (unlines lines) (single line mem_cons_self)
      rw [show unlines (line :: lines) = line ++ '\n' :: unlines lines by simp [unlines], first,
        ih fun other member => single other (mem_cons_of_mem _ member)]
      rfl
  simp [pieces, cut]

theorem newline_notMem_pieces (t : Text) : ∀ piece ∈ pieces t, '\n' ∉ piece := by
  have parts : ∀ piece ∈ t.splitOn '\n', '\n' ∉ piece := by
    induction t with
    | nil => simp
    | cons c t ih =>
      intro piece member
      rw [List.splitOn, splitOnP_cons_eq_if_modifyHead] at member
      split at member
      · rcases mem_cons.mp member with rfl | later
        · simp
        · exact ih piece later
      · rename_i other
        cases rest : List.splitOnP (· == '\n') t with
        | nil => simp [rest] at member
        | cons first later =>
          rw [rest, modifyHead_cons, mem_cons] at member
          have inside : ∀ piece ∈ first :: later, '\n' ∉ piece := rest ▸ ih
          rcases member with rfl | member
          · have := inside first mem_cons_self
            simp only [beq_iff_eq] at other
            simp [this, Ne.symm other]
          · exact inside piece (mem_cons_of_mem _ member)
  intro piece member
  simp only [pieces] at member
  split at member
  · exact parts piece (dropLast_subset _ member)
  · exact parts piece member

theorem newline_notMem_scanLines (t : Text) : ∀ line ∈ scanLines t, '\n' ∉ line := by
  intro line member
  obtain ⟨piece, among, rfl⟩ := mem_map.mp member
  have free := newline_notMem_pieces t piece among
  unfold dropReturn
  split
  · exact fun inside => free (dropLast_subset _ inside)
  · exact free

end Text
end Foundation
