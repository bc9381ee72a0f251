import CubridOperator.Foundation.Text

/-!
The text of databases.txt: one line for each registered database, its name in
the first field. No line is so long that a scanner refuses it.
-/
namespace InstanceManager
open Foundation Text List

def lineRegisters (database : String) (line : Text) : Bool :=
  let line := trimSpace line
  line.head? ≠ some '#' ∧ (fields line).head? = some database.toList

def registeredIn (database : String) (text : Text) : Bool :=
  (scanLines text).any (lineRegisters database)

def otherLines (database : String) (text : Text) : List Text :=
  (scanLines text).filter fun line => (fields line).head? ≠ some database.toList

def namesDatabase (database : String) (text : Text) : Bool :=
  (scanLines text).any fun line => (fields line).head? = some database.toList

def registration (target host database : String) : Text :=
  let dir := target ++ "/" ++ database
  (database ++ "\t\t" ++ dir ++ "\t" ++ host ++ "\t" ++ dir ++ "\tfile:" ++ dir ++ "/lob\n").toList

/-- The text with one more entry; a last line without a newline is ended first. -/
def withRegistration (before entry : Text) : Text :=
  (if before ≠ [] ∧ before.getLast? ≠ some '\n' then before ++ ['\n'] else before) ++ entry

theorem lineRegisters_names {database : String} {line : Text}
    (registers : lineRegisters database line = true) :
    (fields line).head? = some database.toList := by
  simp only [lineRegisters, decide_eq_true_eq, fields_trimSpace] at registers
  exact registers.2

theorem registeredIn_otherLines (database : String) (text : Text) :
    registeredIn database (unlines (otherLines database text)) = false := by
  have kept : ∀ line ∈ otherLines database text, '\n' ∉ line := fun line member =>
    newline_notMem_scanLines text line (mem_of_mem_filter member)
  rw [registeredIn, scanLines, pieces_unlines _ kept, any_eq_false]
  intro line member registers
  obtain ⟨original, among, rfl⟩ := mem_map.mp member
  have named := lineRegisters_names registers
  rw [fields_dropReturn] at named
  have other := (mem_filter.mp among).2
  simp [named] at other

theorem registeredIn_of_not_named {database : String} {text : Text}
    (unnamed : namesDatabase database text = false) : registeredIn database text = false := by
  rw [registeredIn, any_eq_false]
  intro line member registers
  have := any_eq_false.mp unnamed line member
  simp [lineRegisters_names registers] at this

end InstanceManager
