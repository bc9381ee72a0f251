import CubridOperator.Controller.SeedRequests

/-!
The keys and the places of the steps of a bootstrap, put together with a hyphen,
which the names in them have as well.
-/
namespace Controller
open Foundation Program InstanceManager List Option Nat

theorem append_inj_of_stop {stop : Char} {first second tail rest : Text} (clear : stop ∉ first)
    (clear' : stop ∉ second) (ends : tail = [] ∨ tail.head? = some stop)
    (ends' : rest = [] ∨ rest.head? = some stop) (same : first ++ tail = second ++ rest) :
    first = second ∧ tail = rest := by
  induction first generalizing second with
  | nil =>
    cases second with
    | nil => exact ⟨rfl, same⟩
    | cons d second =>
      have other : d ≠ stop := fun is => clear' (is ▸ mem_cons_self)
      rcases ends with rfl | ends
      · cases same
      · rw [nil_append] at same
        rw [same] at ends
        exact absurd (some.inj ends) other
  | cons c first ih =>
    have other : c ≠ stop := fun is => clear (is ▸ mem_cons_self)
    cases second with
    | nil =>
      rcases ends' with rfl | ends'
      · cases same
      · rw [nil_append] at same
        rw [← same] at ends'
        exact absurd (some.inj ends') other
    | cons d second =>
      rw [cons_append, cons_append, cons.injEq] at same
      obtain ⟨firsts, tails⟩ := ih (fun inside => clear (mem_cons_of_mem c inside))
        (fun inside => clear' (mem_cons_of_mem d inside)) same.2
      exact ⟨by rw [same.1, firsts], tails⟩

theorem toString_injective {i j : Nat} (same : (toString i).toList = (toString j).toList) :
    i = j := by
  rw [toString_eq_repr, toString_eq_repr, toList_repr, toList_repr] at same
  simpa using congrArg (ofDigitChars 10 · 0) same

theorem hyphen_notMem_toString (n : Nat) : '-' ∉ (toString n).toList := by
  intro member
  rw [toString_eq_repr, toList_repr] at member
  exact absurd (isDigit_of_mem_toDigits (by decide) (by decide) member) (by decide)

theorem hyphen_notMem_database {name : String} (named : isClusterDatabase name = true) :
    '-' ∉ name.toList := by
  obtain ⟨-, matched⟩ := of_decide_eq_true named
  have word := Regex.matchesAll_iff.mp matched
  simp only [clusterDatabasePattern, Regex.mem_seq, Regex.mem_one, Regex.mem_star_one,
    decide_eq_true_eq] at word
  obtain ⟨-, ⟨c, lower, rfl⟩, rest, others, whole⟩ := word
  rw [← whole]
  intro member
  rcases mem_cons.mp member with rfl | member
  · exact absurd lower (by decide)
  · exact absurd (others '-' member) (by decide)

def keyTail (member : String) : Text := if member = "" then [] else '-' :: member.toList

theorem bootstrapKey_text (step uid database : String) (attempt : Nat) (member : String) :
    (bootstrapKey step uid database attempt member).toList =
      step.toList ++ '-' :: (uid.toList ++ '-' :: (database.toList ++
        '-' :: 'a' :: ((toString attempt).toList ++ keyTail member))) := by
  unfold bootstrapKey keyTail
  dsimp only
  split <;> simp only [String.toList_append, append_assoc, append_nil] <;> rfl

def stepNames : List String := ["ha-bootstrap", "seed-backup", "seed-restore"]

theorem step_of_key {first second : String} (is : first ∈ stepNames) (is' : second ∈ stepNames)
    {rest more : Text} (same : first.toList ++ '-' :: rest = second.toList ++ '-' :: more) :
    first = second := by
  have front := congrArg (take 6) same
  simp only [stepNames, mem_cons, not_mem_nil, or_false] at is is'
  rcases is with rfl | rfl | rfl <;> rcases is' with rfl | rfl | rfl <;>
    first | rfl | exact absurd front (by simp)

theorem keyTail_injective {first second : String} (same : keyTail first = keyTail second) :
    first = second := by
  unfold keyTail at same
  split_ifs at same with one two two
  · rw [one, two]
  · exact String.toList_inj.mp (cons.inj same).2

theorem keyTail_ends (member : String) :
    keyTail member = [] ∨ (keyTail member).head? = some '-' := by
  unfold keyTail
  split
  · exact .inl rfl
  · exact .inr rfl

theorem bootstrapKey_injective {step step' uid uid' database database' member member' : String}
    {attempt attempt' : Nat} (is : step ∈ stepNames) (is' : step' ∈ stepNames)
    (uuid : isUUID uid = true) (uuid' : isUUID uid' = true)
    (named : isClusterDatabase database = true) (named' : isClusterDatabase database' = true)
    (same : bootstrapKey step uid database attempt member = bootstrapKey step' uid' database'
      attempt' member') :
    step = step' ∧ uid = uid' ∧ database = database' ∧ attempt = attempt' ∧ member = member' := by
  have text := congrArg String.toList same
  rw [bootstrapKey_text, bootstrapKey_text] at text
  obtain rfl := step_of_key is is' text
  have after := (cons.inj (append_cancel_left text)).2
  have lengths : uid.toList.length = uid'.toList.length := by
    rw [length_of_isUUID uuid, length_of_isUUID uuid']
  obtain ⟨uids, after⟩ := append_inj after lengths
  obtain ⟨databases, after⟩ :=
    append_inj_of_stop (hyphen_notMem_database named) (hyphen_notMem_database named')
    (.inr rfl) (.inr rfl) (cons.inj after).2
  have after := (cons.inj (cons.inj after).2).2
  obtain ⟨attempts, tails⟩ :=
    append_inj_of_stop (hyphen_notMem_toString attempt) (hyphen_notMem_toString attempt')
    (keyTail_ends member) (keyTail_ends member') after
  exact ⟨rfl, String.toList_inj.mp uids, String.toList_inj.mp databases,
    toString_injective attempts, keyTail_injective tails⟩

section Copies

variable {k k' : ClusterDefinition} {s s' : DatabaseSeeding} {first first' : Bool}

/-- The copies are the same: both to the first peer, or of one member, source
    and round. -/
def SameCopy (first : Bool) (s : DatabaseSeeding) (first' : Bool) (s' : DatabaseSeeding) : Prop :=
  first = true ∧ first' = true ∨
    first = false ∧ first' = false ∧ s.member = s'.member ∧ s.source = s'.source ∧
      s.round = s'.round

def Copies (k : ClusterDefinition) (s : DatabaseSeeding) : Prop :=
  s.member ∈ memberNames k.name k.spec.promotableMembers ∧
  s.source ∈ memberNames k.name k.spec.promotableMembers

def roundTail (round : Nat) : Text :=
  if round > 0 then "-r".toList ++ (toString round).toList else []

theorem roundTail_injective {i j : Nat} (same : roundTail i = roundTail j) : i = j := by
  unfold roundTail at same
  split_ifs at same with one two two
  · exact toString_injective (append_cancel_left same)
  · cases same
  · cases same
  · omega

theorem seedArtifact_text (named : Named k) (copies : Copies k s) :
    ∃ d e, s.member.toList = k.name.toList ++ ['-', d] ∧
      s.source.toList = k.name.toList ++ ['-', e] ∧ (seedArtifact false s).toList =
        k.name.toList ++
        '-' :: d :: ("-from-".toList ++ (k.name.toList ++ '-' :: e :: roundTail s.round)) := by
  obtain ⟨peer, source⟩ := copies
  rw [named.members] at peer source
  obtain ⟨d, -, member⟩ := memberName_text peer
  obtain ⟨e, -, source⟩ := memberName_text source
  refine ⟨d, e, member, source, ?_⟩
  have tail : (if s.round > 0 then "-r" ++ toString s.round else "").toList =
      roundTail s.round := by
    unfold roundTail
    split
    · rw [String.toList_append]
    · rfl
  rw [seedArtifact, if_neg Bool.false_ne_true, String.toList_append, String.toList_append,
    String.toList_append, tail, member, source]
  simp only [append_assoc]
  rfl

theorem seedArtifact_later_injective (named : Named k) (named' : Named k')
    (names : k.name = k'.name) (copies : Copies k s) (copies' : Copies k' s')
    (same : seedArtifact false s = seedArtifact false s') :
    s.member = s'.member ∧ s.source = s'.source ∧ s.round = s'.round := by
  obtain ⟨d, e, member, source, text⟩ := seedArtifact_text named copies
  obtain ⟨d', e', member', source', text'⟩ := seedArtifact_text named' copies'
  have whole := congrArg String.toList same
  rw [text, text', names] at whole
  have peers := (cons.inj (append_cancel_left whole)).2
  obtain ⟨rfl, after⟩ := cons.inj peers
  have sources := (cons.inj (append_cancel_left (append_cancel_left after))).2
  obtain ⟨rfl, rounds⟩ := cons.inj sources
  refine ⟨String.toList_inj.mp ?_, String.toList_inj.mp ?_, roundTail_injective rounds⟩
  · rw [member, member', names]
  · rw [source, source', names]

theorem seedArtifact_first (s : DatabaseSeeding) : seedArtifact true s = "" := rfl

theorem seedArtifact_later_longer (named : Named k) (copies : Copies k s) (copies' : Copies k s') :
    s'.member.toList.length < (seedArtifact false s).toList.length := by
  obtain ⟨d, e, -, -, text⟩ := seedArtifact_text named copies
  obtain ⟨d', e', member', -, -⟩ := seedArtifact_text named copies'
  rw [text, member']
  simp only [length_append, length_cons, length_nil]
  omega

theorem seedArtifact_later_ne (named : Named k) (copies : Copies k s) :
    seedArtifact false s ≠ "" := by
  intro none
  have longer := seedArtifact_later_longer named copies copies
  rw [none] at longer
  simp at longer

theorem seedArtifact_eq_iff (named : Named k) (named' : Named k') (names : k.name = k'.name)
    (copies : Copies k s) (copies' : Copies k' s') :
    seedArtifact first s = seedArtifact first' s' ↔ SameCopy first s first' s' := by
  unfold SameCopy
  cases first <;> cases first'
  · simp only [Bool.false_eq_true, false_and, false_or, true_and]
    constructor
    · intro same
      exact seedArtifact_later_injective named named' names copies copies' same
    · rintro ⟨members, sources, rounds⟩
      simp only [seedArtifact, members, sources, rounds]
  · simp [seedArtifact_first, seedArtifact_later_ne named copies]
  · simp [seedArtifact_first, (seedArtifact_later_ne named' copies').symm]
  · simp [seedArtifact_first]

end Copies

inductive BootstrapStep where
  | create
  | backup (first : Bool) (s : DatabaseSeeding)
  | restore (first : Bool) (s : DatabaseSeeding)

namespace BootstrapStep

def key (k : ClusterDefinition) (attempt : Nat) : BootstrapStep → String
  | .create => k.createKey attempt
  | .backup first s => k.seedBackupKey attempt (seedArtifact first s)
  | .restore first s => k.seedRestoreKey attempt s.member (seedArtifact first s)

def Of (k : ClusterDefinition) : BootstrapStep → Prop
  | .create => True
  | .backup _ s => Copies k s
  | .restore _ s => Copies k s

def Agrees : BootstrapStep → BootstrapStep → Prop
  | .create, .create => True
  | .backup first s, .backup first' s' => SameCopy first s first' s'
  | .restore first s, .restore first' s' => s.member = s'.member ∧ SameCopy first s first' s'
  | _, _ => False

def name : BootstrapStep → String
  | .create => "ha-bootstrap"
  | .backup _ _ => "seed-backup"
  | .restore _ _ => "seed-restore"

def keyMember : BootstrapStep → String
  | .create => ""
  | .backup first s => seedArtifact first s
  | .restore first s => if seedArtifact first s = "" then s.member else seedArtifact first s

theorem key_eq (k : ClusterDefinition) (attempt : Nat) (step : BootstrapStep) :
    step.key k attempt = bootstrapKey step.name k.uid k.firstDatabase attempt step.keyMember := by
  cases step <;> rfl

theorem name_mem (step : BootstrapStep) : step.name ∈ stepNames := by
  cases step <;> simp [name, stepNames]

variable {k k' : ClusterDefinition} {step step' : BootstrapStep} {attempt attempt' : Nat}

theorem agrees_of_restores {first first' : Bool} {s s' : DatabaseSeeding} (named : Named k)
    (named' : Named k') (names : k.name = k'.name) (copies : Copies k s) (copies' : Copies k' s')
    (same : (restore first s).keyMember = (restore first' s').keyMember) :
    s.member = s'.member ∧ SameCopy first s first' s' := by
  have moved : Copies k s' := by
    rw [Copies, names, named.members, ← named'.members]
    exact copies'
  cases first <;> cases first'
  · have one := seedArtifact_later_ne named copies
    have two := seedArtifact_later_ne named' copies'
    rw [keyMember, keyMember, if_neg one, if_neg two] at same
    have agree := seedArtifact_later_injective named named' names copies copies' same
    exact ⟨agree.1, .inr ⟨rfl, rfl, agree⟩⟩
  · have longer := seedArtifact_later_longer named copies moved
    have one := seedArtifact_later_ne named copies
    rw [keyMember, keyMember, if_neg one, if_pos (seedArtifact_first s')] at same
    rw [same] at longer
    exact absurd longer (lt_irrefl _)
  · have longer := seedArtifact_later_longer named moved copies
    have two := seedArtifact_later_ne named' copies'
    rw [keyMember, keyMember, if_pos (seedArtifact_first s), if_neg two] at same
    rw [same] at longer
    exact absurd longer (lt_irrefl _)
  · rw [keyMember, keyMember, if_pos (seedArtifact_first s), if_pos (seedArtifact_first s')] at same
    exact ⟨same, .inl ⟨rfl, rfl⟩⟩

theorem agrees_of_key (named : Named k) (named' : Named k')
    (identity : k.uid = k'.uid → k.name = k'.name) (of_ : step.Of k) (of' : step'.Of k')
    (same : step.key k attempt = step'.key k' attempt') :
    k.uid = k'.uid ∧ k.firstDatabase = k'.firstDatabase ∧ attempt = attempt' ∧
    step.Agrees step' := by
  rw [key_eq, key_eq] at same
  obtain ⟨kinds, uids, databases, attempts, members⟩ :=
    bootstrapKey_injective step.name_mem step'.name_mem named.uid named'.uid named.database
      named'.database same
  refine ⟨uids, databases, attempts, ?_⟩
  have names := identity uids
  match step, step', of_, of' with
  | .create, .create, _, _ => trivial
  | .backup first s, .backup first' s', copies, copies' =>
    exact (seedArtifact_eq_iff named named' names copies copies').mp members
  | .restore first s, .restore first' s', copies, copies' =>
    exact agrees_of_restores named named' names copies copies' members
  | .create, .backup _ _, _, _ | .create, .restore _ _, _, _ | .backup _ _, .create, _, _
  | .backup _ _, .restore _ _, _, _ | .restore _ _, .create, _, _ | .restore _ _,
    .backup _ _, _, _ =>
    exact absurd kinds (by simp [name])

theorem key_head (k : ClusterDefinition) (attempt : Nat) (step : BootstrapStep) :
    (step.key k attempt).toList.head? = some 'h' ∨ (step.key k attempt).toList.head? =
    some 's' := by
  have heads : ∀ name ∈ stepNames, name.toList.head? = some 'h' ∨
      name.toList.head? = some 's' := by decide
  have nonempty : step.name.toList ≠ [] := by cases step <;> simp [name]
  rw [key_eq, bootstrapKey_text, head?_append_of_ne_nil _ nonempty]
  exact heads step.name step.name_mem

end BootstrapStep

section Places

variable {k k' : ClusterDefinition} {s s' : DatabaseSeeding} {first first' : Bool}
  {artifact artifact' : String}

theorem Named.labelled (named : Named k) (copies : Copies k s) (first : Bool) :
    Labelled (seedArtifact first s).toList := by
  obtain ⟨peer, source⟩ := copies
  rw [named.members] at peer source
  exact seedArtifact_labelled named.name peer source first

theorem seedLocationDir_injective
    (same : (seedLocationDir artifact).toList = (seedLocationDir artifact').toList) :
    artifact = artifact' := by
  unfold seedLocationDir at same
  split_ifs at same with one two two
  · rw [one, two]
  · rw [String.toList_append] at same
    exact absurd (congrArg length same) (by simp)
  · rw [String.toList_append] at same
    exact absurd (congrArg length same) (by simp)
  · rw [String.toList_append, String.toList_append] at same
    exact String.toList_inj.mp (append_cancel_left same)

theorem seedNames_injective (same : seedNames k artifact = seedNames k' artifact') :
    k.uid = k'.uid ∧ artifact = artifact' ∧ k.firstDatabase = k'.firstDatabase := by
  simp only [seedNames, cons.injEq, and_true] at same
  exact ⟨String.toList_inj.mp same.1, seedLocationDir_injective same.2.1,
    String.toList_inj.mp same.2.2⟩

def seedURI (k : ClusterDefinition) (artifact : String) : String :=
  "s3://" ++ (k.seedLocation artifact).1 ++ "/" ++
    String.ofList (Path.joined (k.seedLocation artifact).2.toList manifestObjectName.toList)

def seedKeyNames (k : ClusterDefinition) (artifact : String) : List Text :=
  seedNames k artifact ++ [manifestObjectName.toList]

theorem seedKeyNames_plain (named : Named k) (labelled : Labelled artifact.toList) :
    ∀ e ∈ seedKeyNames k artifact, Path.Plain e := by
  intro e member
  rcases mem_append.mp member with member | member
  · exact seedNames_plain named labelled e member
  · exact mem_singleton.mp member ▸ manifestObjectName_plain

theorem seedURI_text (named : Named k) (labelled : Labelled artifact.toList) :
    ∃ front, (seedURI k artifact).toList = front ++ '/' :: Path.join (seedKeyNames k artifact) := by
  have last : ∀ e ∈ [manifestObjectName.toList], Path.Plain e := by
    simpa using manifestObjectName_plain
  have relative := isAbs_withoutLeadingSlashes ((k.spec.objectStorage.map (·.pathPrefix)).getD "")
  have key : Path.joined (k.seedLocation artifact).2.toList manifestObjectName.toList =
      Path.join (Path.normal false (Path.elements
        (withoutLeadingSlashes ((k.spec.objectStorage.map (·.pathPrefix)).getD "")).toList) ++
        seedKeyNames k artifact) := by
    have joined := Path.joined_joined relative (seedNames_plain named labelled)
      (cons_ne_nil _ _) last (cons_ne_nil _ _)
    rw [Path.join_singleton] at joined
    have below :=
      Path.joined_join
        (withoutLeadingSlashes ((k.spec.objectStorage.map (·.pathPrefix)).getD "")).toList
      (seedKeyNames_plain named labelled) (by simp [seedKeyNames])
    rw [Path.below, relative, if_neg Bool.false_ne_true, nil_append] at below
    rw [seedLocation_joined named labelled, joined, ← below, seedKeyNames]
  have text : (seedURI k artifact).toList = "s3://".toList ++ (k.seedLocation artifact).1.toList ++
      '/' :: Path.joined (k.seedLocation artifact).2.toList manifestObjectName.toList := by
    simp [seedURI]
  rw [text, key]
  by_cases none : Path.normal false (Path.elements
      (withoutLeadingSlashes ((k.spec.objectStorage.map (·.pathPrefix)).getD "")).toList) = []
  · exact ⟨_, by rw [none, nil_append]⟩
  · rw [Path.join_append_join none (by simp [seedKeyNames])]
    exact ⟨_, by rw [← cons_append, ← append_assoc]⟩

theorem names_of_append {front rest : Text} {names more : List Text}
    (plain : ∀ e ∈ names, Path.Plain e) (plain' : ∀ e ∈ more, Path.Plain e) (some_ : names ≠ [])
    (size : names.length = more.length)
    (same : front ++ '/' :: Path.join names = rest ++ '/' :: Path.join more) : names = more := by
  have some' : more ≠ [] := by
    intro none
    rw [none] at size
    exact some_ (eq_nil_of_length_eq_zero size)
  have pieces : ∀ {text : Text} {es : List Text}, (∀ e ∈ es, Path.Plain e) → es ≠ [] →
      (text ++ '/' :: Path.join es).splitOn '/' = text.splitOn '/' ++ es := by
    intro text es plain some_
    have cut : (text ++ '/' :: Path.join es).splitOn '/' = text.splitOn '/' ++
        (Path.join es).splitOn '/' :=
      splitOnP_append_cons text _ (by simp)
    rw [cut]
    exact congrArg (text.splitOn '/' ++ ·)
      (splitOn_intercalate '/' (fun e member => (plain e member).2.1) some_)
  have parts := congrArg (splitOn '/') same
  rw [pieces plain some_, pieces plain' some'] at parts
  exact (append_inj' parts size).2

theorem restoredSeed_iff (named : Named k) (named' : Named k') (labelled : Labelled artifact.toList)
    (labelled' : Labelled artifact'.toList) {op : Operation}
    (restored : (op.restored <|> op.artifact).map (·.manifestURI) = some (seedURI k' artifact')) :
    restoredSeed op k.uid artifact k.firstDatabase = true ↔
      k.uid = k'.uid ∧ artifact = artifact' ∧ k.firstDatabase = k'.firstDatabase := by
  obtain ⟨found, is, uri⟩ := map_eq_some_iff.mp restored
  have plain := seedKeyNames_plain named labelled
  have asked :
      ("/" ++ joinPath [k.uid, seedLocationDir artifact, k.firstDatabase,
        manifestObjectName]).toList =
      '/' :: Path.join (seedKeyNames k artifact) := by
    have path : (joinPath [k.uid, seedLocationDir artifact, k.firstDatabase,
        manifestObjectName]).toList = Path.join (seedKeyNames k artifact) := by
      rw [← Path.joinedAll_plain plain (by simp [seedKeyNames]), joinPath, String.toList_ofList]
      rfl
    rw [String.toList_append, path]
    rfl
  have suffix : restoredSeed op k.uid artifact k.firstDatabase = true ↔
      '/' :: Path.join (seedKeyNames k artifact) <:+ (seedURI k' artifact').toList := by
    rw [restoredSeed, is, any_some, asked, uri, isSuffixOf_iff_suffix]
  rw [suffix]
  obtain ⟨front, text⟩ := seedURI_text named' labelled'
  rw [text]
  constructor
  · rintro ⟨before, whole⟩
    have names := names_of_append plain (seedKeyNames_plain named' labelled')
      (by simp [seedKeyNames]) rfl whole
    exact seedNames_injective (append_cancel_right names)
  · rintro ⟨uids, artifacts, databases⟩
    have names : seedKeyNames k artifact = seedKeyNames k' artifact' := by
      simp only [seedKeyNames, seedNames, uids, artifacts, databases]
    rw [names]
    exact suffix_append front _

/-- Two steps with one key are one step, and the key is neither a backup's nor a
    recovery's. Two seed backups share their place only if they are of one copy,
    and a restore is taken for a step's if and only if it restored the backup of
    that copy. -/
theorem bootstrap_steps_apart (named : Named k) (named' : Named k')
    (identity : k.uid = k'.uid → k.name = k'.name) :
    (∀ step step' attempt attempt', BootstrapStep.Of k step → BootstrapStep.Of k' step' →
      step.key k attempt = step'.key k' attempt' →
        k.uid = k'.uid ∧ k.firstDatabase = k'.firstDatabase ∧ attempt = attempt' ∧
        step.Agrees step') ∧
    (∀ (step : BootstrapStep) attempt, (∀ backup, step.key k attempt ≠ idempotencyKey backup) ∧
      ∀ (other : ClusterDefinition) uri attempts, step.key k attempt ≠ other.recoveryIdempotencyKey
        uri attempts) ∧
    (∀ first s first' s', Copies k s → Copies k' s' →
      (k.spec.objectStorage.map (·.pathPrefix)).getD "" =
      (k'.spec.objectStorage.map (·.pathPrefix)).getD "" →
      (k.seedLocation (seedArtifact first s)).2 = (k'.seedLocation (seedArtifact first' s')).2 →
        k.firstDatabase = k'.firstDatabase ∧ SameCopy first s first' s') ∧
    (∀ first s first' s' (op : Operation), Copies k s → Copies k' s' →
      (op.restored <|> op.artifact).map (·.manifestURI) = some
      (seedURI k' (seedArtifact first' s')) →
        (restoredSeed op k.uid (seedArtifact first s) k.firstDatabase = true ↔
          k.uid = k'.uid ∧ k.firstDatabase = k'.firstDatabase ∧ SameCopy first s first' s')) := by
  refine ⟨?_, ?_, ?_, ?_⟩
  · intro step step' attempt attempt' of_ of' same
    exact BootstrapStep.agrees_of_key named named' identity of_ of' same
  · intro step attempt
    have head := step.key_head k attempt
    constructor
    · intro backup same
      have other : (idempotencyKey backup).toList.head? = some 'c' := by
        simp only [idempotencyKey, String.toList_append, append_assoc]
        rfl
      rw [same, other] at head
      exact absurd head (by decide)
    · intro cluster uri attempts same
      have other : (cluster.recoveryIdempotencyKey uri attempts).toList.head? = some 'r' := by
        simp only [ClusterDefinition.recoveryIdempotencyKey, String.toList_append, append_assoc]
        rfl
      rw [same, other] at head
      exact absurd head (by decide)
  · intro first s first' s' copies copies' prefixes same
    have labelled := named.labelled copies first
    have labelled' := named'.labelled copies' first'
    have text := congrArg String.toList same
    rw [seedLocation_joined named labelled, seedLocation_joined named' labelled', prefixes] at text
    obtain ⟨uids, artifacts, databases⟩ :=
      seedNames_injective (Path.joined_injective (seedNames_plain named labelled)
      (cons_ne_nil _ _) (seedNames_plain named' labelled') (cons_ne_nil _ _) text)
    exact ⟨databases,
      (seedArtifact_eq_iff named named' (identity uids) copies copies').mp artifacts⟩
  · intro first s first' s' op copies copies' restored
    rw [restoredSeed_iff named named' (named.labelled copies first)
      (named'.labelled copies' first') restored]
    constructor
    · rintro ⟨uids, artifacts, databases⟩
      exact ⟨uids, databases,
        (seedArtifact_eq_iff named named' (identity uids) copies copies').mp artifacts⟩
    · rintro ⟨uids, databases, same⟩
      exact ⟨uids, (seedArtifact_eq_iff named named' (identity uids) copies copies').mpr
        same, databases⟩

def laterSeed : DatabaseSeeding := { member := "c-2", source := "c-0" }

theorem first_and_later_restore_apart :
    (BootstrapStep.restore true firstSeed).key (seededCluster "nightly") 1 ≠
      (BootstrapStep.restore false laterSeed).key (seededCluster "nightly") 1 := by
  have named := (seededCluster_admitted "nightly").toNamed
  have copies : Copies (seededCluster "nightly") firstSeed ∧
      Copies (seededCluster "nightly") laterSeed := by
    unfold Copies
    decide
  intro same
  have agree := (bootstrap_steps_apart named named fun _ => rfl).1 (.restore true firstSeed)
    (.restore false laterSeed) 1 1 copies.1 copies.2 same
  exact absurd agree.2.2.2.1 (by decide)

end Places
end Controller
