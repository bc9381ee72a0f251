import CubridOperator.Foundation.Replace

/-!
What the manager's log shows: texts in which the secrets are replaced one after
the other, and of a failed command the end of its output.
-/
namespace InstanceManager
open Foundation Foundation.Replace List

abbrev Bytes := List UInt8

def Bytes.ofText (s : String) : Bytes := s.toList.map fun c => c.toNat.toUInt8

def redactedValue : Bytes := Bytes.ofText "[REDACTED]"

def logSecrets (secrets : List Bytes) : List Bytes := secrets.filter (· ≠ [])

def redact (secrets : List Bytes) (text : Bytes) : Bytes :=
  (logSecrets secrets).foldl (fun text secret => replaceAll id secret redactedValue text) text

inductive LogValue where
  | string (text : Bytes)
  | error (message : Bytes)
  | number (n : Int)
  deriving DecidableEq

def LogValue.text : LogValue → Option Bytes
  | .string text | .error text => some text
  | .number _ => none

/-- A text and the text of an error are redacted before they are written. -/
def replaceAttr (secrets : List Bytes) : LogValue → LogValue
  | .string text => .string (redact secrets text)
  | .error message => .string (redact secrets message)
  | .number n => .number n

def spaces : List Bytes :=
  [[9], [10], [11], [12], [13], [32], [0xC2, 0x85], [0xC2, 0xA0], [0xE1, 0x9A, 0x80],
    [0xE2, 0x80, 0x80], [0xE2, 0x80, 0x81],
    [0xE2, 0x80, 0x82], [0xE2, 0x80, 0x83], [0xE2, 0x80, 0x84], [0xE2, 0x80, 0x85],
    [0xE2, 0x80, 0x86], [0xE2, 0x80, 0x87],
    [0xE2, 0x80, 0x88], [0xE2, 0x80, 0x89], [0xE2, 0x80, 0x8A], [0xE2, 0x80, 0xA8],
    [0xE2, 0x80, 0xA9], [0xE2, 0x80, 0xAF],
    [0xE2, 0x81, 0x9F], [0xE3, 0x80, 0x80]]

def trimFront (front : List Bytes) : Nat → Bytes → Bytes
  | 0, text => text
  | n + 1, text =>
    match front.find? (·.isPrefixOf text) with
    | some s => trimFront front n (text.drop s.length)
    | none => text

def trimSpace (text : Bytes) : Bytes :=
  let text := trimFront spaces text.length text
  (trimFront (spaces.map reverse) text.length text.reverse).reverse

def maxOutputTail : Nat := 1000

/-- The end of a failed command's output, cut before it is redacted. -/
def outputTail (out : Bytes) : Bytes :=
  let tail := trimSpace out
  tail.drop (tail.length - maxOutputTail)

structure CommandRun where
  command : List Bytes
  durationMs : Int
  out : Bytes
  failure : Option (Int × Bytes) := none

def commandLine (words : List Bytes) : Bytes := [32].intercalate words

def commandAttrs (run : CommandRun) : List (String × LogValue) :=
  [("event", .string (Bytes.ofText "command")), ("command", .string (commandLine run.command)),
    ("durationMs", .number run.durationMs)] ++
  match run.failure with
  | none => [("exitCode", .number 0)]
  | some (exitCode, err) =>
    [("exitCode", .number exitCode), ("err", .error err),
      ("outputTail", .string (outputTail run.out))]

section Complete

variable {secrets : List Bytes} {text : Bytes}

/-- The redacted text, with the position in the original of every byte that is
    left of it. -/
def shownText (secrets : List Bytes) (text : Bytes) : List (UInt8 × Option Nat) :=
  replaceEach redactedValue (logSecrets secrets) (spot text 0)

def Shown (secrets : List Bytes) (text : Bytes) (i : Nat) : Prop :=
  ∃ c, (c, some i) ∈ shownText secrets text

/-- The byte at this position belongs to an occurrence of a secret. -/
def Secret (secrets : List Bytes) (text : Bytes) (i : Nat) : Prop :=
  ∃ s ∈ logSecrets secrets, ∃ p, OccursAt text s p ∧ p ≤ i ∧ i < p + s.length

/-- The byte can be read after the occurrences are blanked out, those of a secret
    after those of the secrets before it and from the left, each one that
    touches nothing blanked before. -/
def Legible (secrets : List Bytes) (text : Bytes) (i : Nat) : Prop :=
  ∃ c, (blankEach (logSecrets secrets) (text.map some))[i]? = some (some c)

/-- No secret is found in a place that takes in a byte of a value put in for
    an earlier one. -/
def Unmixed (secrets : List Bytes) (text : Bytes) : Prop :=
  ∀ earlier s later, logSecrets secrets = earlier ++ s :: later →
    Clear s (replaceEach redactedValue earlier (spot text 0))

theorem secret_ne_nil {s : Bytes} (member : s ∈ logSecrets secrets) : s ≠ [] := by
  simpa using (mem_filter.mp member).2

theorem shownText_reads (secrets : List Bytes) (text : Bytes) :
    (shownText secrets text).map Prod.fst = redact secrets text := by
  rw [shownText, map_replaceEach _ fun _ => secret_ne_nil, map_fst_spot]
  rfl

theorem replaceAttr_shows {value : LogValue} (is : value.text = some text) :
    replaceAttr secrets value = .string ((shownText secrets text).map Prod.fst) := by
  rw [shownText_reads]
  cases value with
  | string t =>
    obtain rfl := Option.some.inj is
    rfl
  | error t =>
    obtain rfl := Option.some.inj is
    rfl
  | number n => cases is

theorem shown_iff_legible (unmixed : Unmixed secrets text) (i : Nat) :
    Shown secrets text i ↔ Legible secrets text i := by
  have given : redactedValue ≠ [] := by decide
  have blanks := (blanks_spot redactedValue text 0).each given (fun _ => secret_ne_nil) unmixed
  exact (blanks.legible (i := i)).trans (by simp [Legible])

def outputStart (out : Bytes) : Nat :=
  out.length - (trimFront spaces out.length out).length + ((trimSpace out).length - maxOutputTail)

theorem trimFront_suffix (front : List Bytes) (n : Nat) (text : Bytes) :
    trimFront front n text <:+ text := by
  induction n generalizing text with
  | zero => exact suffix_refl text
  | succ n ih =>
    unfold trimFront
    split
    · exact (ih _).trans (drop_suffix _ _)
    · exact suffix_refl text

theorem outputTail_prefix (out : Bytes) : outputTail out <+: out.drop (outputStart out) := by
  have front := trimFront_suffix spaces out.length out
  have cut : out.drop (out.length - (trimFront spaces out.length out).length) =
      trimFront spaces out.length out :=
    (suffix_iff_eq_drop.mp front).symm
  have back : trimSpace out <+: trimFront spaces out.length out := by
    have last := trimFront_suffix (spaces.map reverse) (trimFront spaces out.length out).length
      (trimFront spaces out.length out).reverse
    rw [← reverse_prefix, reverse_reverse] at last
    exact last
  rw [outputStart, ← drop_drop, cut]
  exact back.drop _

/-- The text that a field of a command's line is taken from, and where it
    begins there. -/
def CommandRun.original (run : CommandRun) (attr : String × LogValue) : Bytes × Nat :=
  if attr.1 = "outputTail" then (run.out, outputStart run.out) else (attr.2.text.getD [], 0)

theorem commandAttrs_cut (run : CommandRun) :
    ∀ attr ∈ commandAttrs run, ∀ text, attr.2.text = some text →
      text <+: (run.original attr).1.drop (run.original attr).2 := by
  have cut : ∀ attr ∈ commandAttrs run, attr.1 = "outputTail" →
      attr.2 = .string (outputTail run.out) := by
    unfold commandAttrs
    cases run.failure <;> simp
  intro attr member text is
  unfold CommandRun.original
  split_ifs with tail
  · rw [cut attr member tail] at is
    rw [← Option.some.inj is]
    exact outputTail_prefix run.out
  · simp [is]

instance (text s : Bytes) (p : Nat) : Decidable (OccursAt text s p) :=
  inferInstanceAs (Decidable (_ <+: _))

end Complete

end InstanceManager
