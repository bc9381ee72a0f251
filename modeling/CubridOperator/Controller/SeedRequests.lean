import CubridOperator.Controller.BackupDestination
import CubridOperator.Controller.Bootstrap

/-!
The requests of a seeding step, against the checks of the members they are sent
to.
-/
namespace Controller
open Foundation Program InstanceManager List

section Admitted

def isLower (c : Char) : Bool := 'a' ≤ c ∧ c ≤ 'z'

/-- `^[a-z]([-a-z0-9]*[a-z0-9])?$` -/
def clusterNamePattern : Regex :=
  .seq (.one isLower)
    ((Regex.seq (.star (.one fun c => isHostChar c ∨ c = '-')) (.one isHostChar)).upTo 1)

def isClusterName (name : String) : Bool :=
  name.toList.length ≤ 52 ∧ clusterNamePattern.matchesAll name.toList

/-- `^[a-z][a-z0-9_]*$` -/
def clusterDatabasePattern : Regex :=
  .seq (.one isLower) (.star (.one fun c => isHostChar c ∨ c = '_'))

def isClusterDatabase (name : String) : Bool :=
  name.toList.length ≤ 17 ∧ clusterDatabasePattern.matchesAll name.toList

/-- The identity of an HA cluster that the API server admits. -/
structure Named (k : ClusterDefinition) : Prop where
  uid : isUUID k.uid = true
  name : isClusterName k.name = true
  database : isClusterDatabase k.firstDatabase = true
  members : k.spec.promotableMembers = 3

structure Admitted (k : ClusterDefinition) (storage : CubridObjectStorage) :
    Prop extends Named k where
  version : k.spec.version ≠ ""
  stored : k.spec.objectStorage = some storage
  bucket : storage.bucket ≠ ""

variable {name member : String}

theorem clusterName_chars (named : isClusterName name = true) :
    name.toList.length ≤ 52 ∧ (∀ c ∈ name.toList, isHostChar c = true ∨ c = '-') ∧
      ∃ c rest, name.toList = c :: rest ∧ isLower c = true := by
  obtain ⟨length, matched⟩ := of_decide_eq_true named
  have word := Regex.matchesAll_iff.mp matched
  simp only [clusterNamePattern, Regex.upTo, Regex.mem_seq, Regex.mem_one, Regex.mem_alt,
    Regex.mem_empty, Regex.mem_star_one, decide_eq_true_eq] at word
  obtain ⟨-, ⟨c, lower, rfl⟩, v, rest, whole⟩ := word
  have first : isHostChar c = true ∨ c = '-' := by
    left
    simp only [isLower, decide_eq_true_eq] at lower
    simp [isHostChar, lower]
  have others : ∀ d ∈ v, isHostChar d = true ∨ d = '-' := by
    rcases rest with rfl | ⟨-, ⟨u, middle, -, ⟨d, last, rfl⟩, rfl⟩, -, rfl, rfl⟩
    · simp
    · intro e member
      simp only [append_nil, mem_append, mem_singleton] at member
      rcases member with member | rfl
      · exact middle e member
      · exact .inl last
  refine ⟨length, ?_, c, v, whole.symm, lower⟩
  intro d member
  rw [← whole] at member
  rcases mem_cons.mp member with rfl | member
  · exact first
  · exact others d member

theorem isDatabaseName_of_cluster (named : isClusterDatabase name = true) :
    isDatabaseName name = true := by
  obtain ⟨length, matched⟩ := of_decide_eq_true named
  have word := Regex.matchesAll_iff.mp matched
  simp only [clusterDatabasePattern, Regex.mem_seq, Regex.mem_one, Regex.mem_star_one,
    decide_eq_true_eq] at word
  obtain ⟨-, ⟨c, lower, rfl⟩, rest, others, whole⟩ := word
  simp only [isLower, decide_eq_true_eq] at lower
  rw [isDatabaseName, ← whole]
  rw [← whole] at length
  simp only [cons_append, nil_append, length_cons] at length
  simp only [cons_append, nil_append, decide_eq_true_eq, all_eq_true]
  refine ⟨by simp [isLetter, lower], by omega, ?_⟩
  intro d member
  rcases others d member with host | under
  · simp only [isHostChar, decide_eq_true_eq] at host
    rcases host with small | digit
    · simp [isLetter, small]
    · simp [digit]
  · simp [under]

theorem memberName_text (among : member ∈ memberNames name 3) :
    ∃ d ∈ ['0', '1', '2'], member.toList = name.toList ++ ['-', d] := by
  obtain ⟨i, range, rfl⟩ := mem_map.mp among
  have small := mem_range.mp range
  obtain ⟨d, digit, text⟩ : ∃ d ∈ ['0', '1', '2'], (toString i).toList = [d] := by
    match i, small with
    | 0, _ => exact ⟨'0', by decide, by decide⟩
    | 1, _ => exact ⟨'1', by decide, by decide⟩
    | 2, _ => exact ⟨'2', by decide, by decide⟩
  refine ⟨d, digit, ?_⟩
  rw [String.toList_append, String.toList_append, text, append_assoc]
  rfl

theorem memberName_chars (named : isClusterName name = true) (among : member ∈ memberNames name 3)
    {c : Char} (inside : c ∈ member.toList) : isHostChar c = true ∨ c = '-' := by
  obtain ⟨d, digit, text⟩ := memberName_text among
  rw [text, mem_append] at inside
  rcases inside with inside | inside
  · exact (clusterName_chars named).2.1 c inside
  · simp only [mem_cons, not_mem_nil, or_false] at inside digit
    rcases inside with rfl | rfl
    · exact .inr rfl
    · rcases digit with rfl | rfl | rfl <;> exact .inl (by decide)

theorem memberName_isHostLabel (named : isClusterName name = true)
    (among : member ∈ memberNames name 3) : isHostLabel member = true := by
  obtain ⟨length, -, c, rest, whole, lower⟩ := clusterName_chars named
  obtain ⟨d, digit, text⟩ := memberName_text among
  have other : c ≠ '-' := by
    rintro rfl
    exact absurd lower (by decide)
  have last : d ≠ '-' := by
    rintro rfl
    simp at digit
  simp only [isHostLabel, decide_eq_true_eq, all_eq_true]
  refine ⟨by simp [text], ?_, ?_, ?_, ?_⟩
  · rw [text, length_append]
    simp only [length_cons, length_nil]
    omega
  · intro e inside
    exact memberName_chars named among inside
  · rw [text, whole]
    simp [other]
  · rw [text]
    simp [last]

end Admitted

section Places

variable {k : ClusterDefinition} {storage : CubridObjectStorage} {artifact : String}

def Labelled (text : Text) : Prop := ∀ c ∈ text, isHostChar c = true ∨ c = '-'

instance (text : Text) : Decidable (Labelled text) := decidableBAll _ text

theorem Labelled.append {first second : Text} (one : Labelled first) (two : Labelled second) :
    Labelled (first ++ second) := by
  intro c member
  exact (mem_append.mp member).elim (one c) (two c)

theorem labelled_toString (n : Nat) : Labelled (toString n).toList := by
  intro c member
  rw [Nat.toString_eq_repr, Nat.toList_repr] at member
  have digit := Nat.isDigit_of_mem_toDigits (by decide) (by decide) member
  left
  simp only [Char.isDigit, Bool.and_eq_true, decide_eq_true_eq] at digit
  simp only [isHostChar, isDigit, decide_eq_true_eq]
  exact .inr digit

theorem seedArtifact_labelled {s : DatabaseSeeding} (named : isClusterName k.name = true)
    (peer : s.member ∈ memberNames k.name 3) (source : s.source ∈ memberNames k.name 3)
    (first : Bool) : Labelled (seedArtifact first s).toList := by
  have text : ∀ {m}, m ∈ memberNames k.name 3 → Labelled m.toList :=
    fun among c => memberName_chars named among
  have fixed : Labelled "-from-".toList ∧ Labelled "-r".toList := by decide
  unfold seedArtifact
  split
  · intro c member
    simp at member
  · rw [String.toList_append, String.toList_append, String.toList_append]
    refine (((text peer).append fixed.1).append (text source)).append ?_
    split
    · rw [String.toList_append]
      exact fixed.2.append (labelled_toString s.round)
    · intro c member
      simp at member

theorem seedLocationDir_labelled (labelled : Labelled artifact.toList) :
    Labelled (seedLocationDir artifact).toList := by
  unfold seedLocationDir
  split
  · decide
  · rw [String.toList_append]
    exact (by decide : Labelled "seed-".toList).append labelled

theorem seedLocationDir_head (artifact : String) :
    (seedLocationDir artifact).toList.head? = some 's' := by
  unfold seedLocationDir
  split
  · decide
  · rw [String.toList_append]
    exact head?_append_of_ne_nil _ (by decide) |>.trans (by decide)

theorem seedLocationDir_plain (labelled : Labelled artifact.toList) :
    Path.Plain (seedLocationDir artifact).toList := by
  have head := seedLocationDir_head artifact
  refine ⟨?_, ?_, ?_, ?_⟩
  · intro empty
    simp [empty] at head
  · intro slash
    exact absurd (seedLocationDir_labelled labelled '/' slash) (by decide)
  · intro dot
    simp [dot] at head
  · intro dots
    simp [dots] at head

def seedNames (k : ClusterDefinition) (artifact : String) : List Text :=
  [k.uid.toList, (seedLocationDir artifact).toList, k.firstDatabase.toList]

theorem seedNames_plain (admitted : Named k) (labelled : Labelled artifact.toList) :
    ∀ e ∈ seedNames k artifact, Path.Plain e := by
  intro e member
  simp only [seedNames, mem_cons, not_mem_nil, or_false] at member
  rcases member with rfl | rfl | rfl
  · exact plain_of_isUUID admitted.uid
  · exact seedLocationDir_plain labelled
  · exact plain_of_isDatabaseName (isDatabaseName_of_cluster admitted.database)

theorem isAbs_withoutLeadingSlashes (pathPrefix : String) :
    Path.isAbs (withoutLeadingSlashes pathPrefix).toList = false := by
  rw [withoutLeadingSlashes, String.toList_ofList, Path.isAbs]
  induction pathPrefix.toList with
  | nil => rfl
  | cons c rest ih =>
    by_cases slash : c = '/'
    · simpa [slash] using ih
    · simp [slash]

theorem plain_of_unrefused {pathPrefix : String} (unrefused : seedPrefixRefusal pathPrefix = none) :
    ∀ e ∈ Path.normal false (Path.elements (withoutLeadingSlashes pathPrefix).toList),
      Path.Plain e := by
  refine Path.plain_of_normal ?_
  intro up
  have cleaned := Path.clean_relative (isAbs_withoutLeadingSlashes pathPrefix)
  obtain ⟨rest, whole⟩ : ∃ rest,
      Path.normal false (Path.elements (withoutLeadingSlashes pathPrefix).toList) =
        ['.', '.'] :: rest := by
    match kept : Path.normal false (Path.elements (withoutLeadingSlashes pathPrefix).toList) with
    | [] => simp [kept] at up
    | e :: rest => exact ⟨rest, by simpa [kept] using up⟩
  rw [whole, if_neg (cons_ne_nil _ _)] at cleaned
  have refused : Path.clean (withoutLeadingSlashes pathPrefix).toList = "..".toList ∨
      "../".toList.isPrefixOf (Path.clean (withoutLeadingSlashes pathPrefix).toList) = true := by
    rw [cleaned]
    by_cases none : rest = []
    · subst none
      exact .inl rfl
    · rw [Path.join_cons _ none]
      exact .inr rfl
  rw [seedPrefixRefusal, if_pos refused] at unrefused
  cases unrefused

def seedPath (k : ClusterDefinition) (storage : CubridObjectStorage) (artifact : String) :
    List Text :=
  Path.normal false (Path.elements (withoutLeadingSlashes storage.pathPrefix).toList) ++
  seedNames k artifact

theorem seedPath_plain (admitted : Admitted k storage)
    (unrefused : seedPrefixRefusal storage.pathPrefix = none)
    (labelled : Labelled artifact.toList) : ∀ e ∈ seedPath k storage artifact, Path.Plain e := by
  intro e member
  rcases mem_append.mp member with member | member
  · exact plain_of_unrefused unrefused e member
  · exact seedNames_plain admitted.toNamed labelled e member

theorem seedLocation_joined (named : Named k) (labelled : Labelled artifact.toList) :
    (k.seedLocation artifact).2.toList =
      Path.joined (withoutLeadingSlashes ((k.spec.objectStorage.map (·.pathPrefix)).getD "")).toList
        (Path.join (seedNames k artifact)) := by
  rw [← Path.joinedAll_cons _ (seedNames_plain named labelled) (cons_ne_nil _ _),
    ClusterDefinition.seedLocation, joinPath, String.toList_ofList]
  rfl

theorem seedLocation_text (admitted : Admitted k storage) (labelled : Labelled artifact.toList) :
    (k.seedLocation artifact).2.toList = Path.join (seedPath k storage artifact) := by
  have below := Path.joined_join (withoutLeadingSlashes storage.pathPrefix).toList
    (seedNames_plain admitted.toNamed labelled) (cons_ne_nil _ _)
  rw [isAbs_withoutLeadingSlashes, Path.below, isAbs_withoutLeadingSlashes] at below
  rw [seedLocation_joined admitted.toNamed labelled, admitted.stored, Option.map_some,
    Option.getD_some, below, seedPath, if_neg Bool.false_ne_true, nil_append]

end Places

variable {name : Text}

section Checks

variable {k : ClusterDefinition} {storage : CubridObjectStorage} {artifact : String}

theorem seedLocationDir_named (artifact : String) :
    ¬ ((seedLocationDir artifact).toList ≠ "seed".toList ∧
      (!"seed-".toList.isPrefixOf (seedLocationDir artifact).toList ∨
      (seedLocationDir artifact).toList = "seed-".toList)) := by
  unfold seedLocationDir
  split
  · simp
  · rename_i named
    rintro ⟨-, other | same⟩
    · simp at other
    · rw [String.toList_append] at same
      have none : artifact.toList = [] := append_cancel_left (same.trans (append_nil _).symm)
      exact named (String.toList_eq_nil_iff.mp none)

theorem validateSeedUpload_seed (admitted : Admitted k storage)
    (labelled : Labelled artifact.toList)
    (unrefused : seedPrefixRefusal storage.pathPrefix = none) :
    validateSeedUpload (k.seedLocation artifact).2 k.uid k.firstDatabase roleMaster = .ok () := by
  have text := seedLocation_text admitted labelled
  have plain := seedPath_plain admitted unrefused labelled
  have some_ : seedPath k storage artifact ≠ [] := by simp [seedPath, seedNames]
  obtain ⟨-, place⟩ := place_valid plain some_ text
  simp only [not_or] at place
  have uid := plain_of_isUUID admitted.uid
  have split : ((k.seedLocation artifact).2.toList.splitOn '/').reverse =
      k.firstDatabase.toList :: (seedLocationDir artifact).toList :: k.uid.toList ::
        (Path.normal false
          (Path.elements (withoutLeadingSlashes storage.pathPrefix).toList)).reverse := by
    have pieces : (Path.join (seedPath k storage artifact)).splitOn '/' =
        seedPath k storage artifact :=
      splitOn_intercalate '/' (fun e member => (plain e member).2.1) some_
    rw [text, pieces, seedPath, reverse_append]
    simp [seedNames]
  have passes : ¬ (k.uid = "" ∨ '/' ∈ k.uid.toList ∨ '\\' ∈ k.uid.toList ∨ k.uid = "." ∨
      k.uid = ".." ∨
      !isDatabaseName k.firstDatabase ∨ Path.isAbs (k.seedLocation artifact).2.toList ∨
      Path.clean (k.seedLocation artifact).2.toList ≠ (k.seedLocation artifact).2.toList ∨
      "../".toList.isPrefixOf (k.seedLocation artifact).2.toList ∨
      roleMaster ≠ Role.master.text) := by
    rintro (empty | slash | back | dot | dots | name | absolute | unclean | above | role)
    · exact uid.1 (congrArg String.toList empty)
    · exact uid.2.1 slash
    · exact absurd (mem_of_isUUID admitted.uid back) (by decide)
    · exact uid.2.2.1 (congrArg String.toList dot)
    · exact uid.2.2.2 (congrArg String.toList dots)
    · rw [isDatabaseName_of_cluster admitted.database] at name
      cases name
    · exact place.1 absolute
    · exact unclean (not_not.mp place.2.1)
    · exact place.2.2.2 above
    · exact role rfl
  unfold validateSeedUpload
  dsimp only
  rw [if_neg passes, split]
  dsimp only
  rw [if_neg (by simp), if_neg (seedLocationDir_named artifact)]

theorem labelled_of_isUUID {uid : String} (uuid : isUUID uid = true) : Labelled uid.toList := by
  intro c member
  rcases mem_of_isUUID uuid member with hex | dash
  · left
    have bounds := toNat_of_isHex hex
    simp only [isHostChar, isDigit, decide_eq_true_eq, Char.le_def, UInt32.le_iff_toNat_le]
    exact bounds.elim (fun digit => .inr digit) fun letter =>
      .inl ⟨letter.1, letter.2.trans (by decide)⟩
  · exact .inr dash

theorem isStagingName_of_labelled (labelled : Labelled name) (head : name.head? = some 's') :
    isStagingName name = true := by
  cases name with
  | nil => cases head
  | cons c rest =>
    obtain rfl : c = 's' := by simpa using head
    simp only [isStagingName, decide_eq_true_eq, all_eq_true]
    refine ⟨.inl (by decide), ?_⟩
    intro d member
    rcases labelled d (mem_cons_of_mem _ member) with host | dash
    · simp only [isHostChar, decide_eq_true_eq] at host
      rcases host with small | digit
      · exact .inl (by simp [isLetter, small])
      · exact .inr (.inl digit)
    · exact .inr (.inr (.inr (.inr dash)))

theorem plain_of_labelled (labelled : Labelled name) (head : name.head? = some 's') :
    Path.Plain name := by
  refine ⟨?_, ?_, ?_, ?_⟩
  · intro empty
    simp [empty] at head
  · intro slash
    exact absurd (labelled '/' slash) (by decide)
  · intro dot
    simp [dot] at head
  · intro dots
    simp [dots] at head

structure RootAt (root : String) (names : List Text) : Prop where
  text : root.toList = '/' :: Path.join names
  plain : ∀ e ∈ names, Path.Plain e
  some_ : names ≠ []

structure StagedAt (dir root : String) (names : List Text) (name : Text) : Prop where
  text : dir.toList = '/' :: Path.join (names ++ [name])
  clean : Path.clean dir.toList = dir.toList
  base : Path.base dir.toList = name
  above : Path.dir dir.toList = root.toList
  elements : Path.elements dir.toList = names ++ [name]

variable {root : String} {names : List Text}

theorem RootAt.staged (at_ : RootAt root names) {name : String} (plain : Path.Plain name.toList) :
    StagedAt (joinPath [root, name]) root names name.toList := by
  have all : ∀ e ∈ names ++ [name.toList], Path.Plain e := by
    intro e member
    rcases mem_append.mp member with member | member
    · exact at_.plain e member
    · exact mem_singleton.mp member ▸ plain
  have text : (joinPath [root, name]).toList = '/' :: Path.join (names ++ [name.toList]) := by
    have one : ∀ e ∈ [name.toList], Path.Plain e := by simpa using plain
    rw [joinPath, String.toList_ofList, map_cons, map_cons, map_nil,
      Path.joinedAll_cons _ one (cons_ne_nil _ _), Path.join_singleton, at_.text,
      Path.joined_absolute at_.plain plain]
  refine ⟨text, ?_, ?_, ?_, ?_⟩
  · rw [text]
    exact Path.clean_absolute all
  · rw [text]
    exact Path.base_absolute at_.plain plain
  · rw [text, at_.text]
    exact Path.dir_absolute at_.plain at_.some_ plain.2.1
  · rw [text]
    exact Path.elements_absolute fun e member => ⟨(all e member).1, (all e member).2.1⟩

theorem RootAt.isCleanAbsolute (at_ : RootAt root names) : isCleanAbsolute root.toList = true := by
  have named : ∀ e ∈ names, e ≠ [] ∧ '/' ∉ e :=
    fun e member => ⟨(at_.plain e member).1, (at_.plain e member).2.1⟩
  have below : root.toList ≠ ['/'] := by
    intro top
    have parts := Path.elements_absolute named
    rw [← at_.text, top] at parts
    exact at_.some_ parts.symm
  have clean : Path.clean root.toList = root.toList := by
    rw [at_.text]
    exact Path.clean_absolute at_.plain
  have absolute : Path.isAbs root.toList = true := by simp [at_.text, Path.isAbs]
  simp [InstanceManager.isCleanAbsolute, absolute, clean, below]

theorem StagedAt.rootAt {dir : String} (at_ : RootAt root names)
    (staged : StagedAt dir root names name) (plain : Path.Plain name) :
    RootAt dir (names ++ [name]) := by
  refine ⟨staged.text, ?_, by simp⟩
  intro e member
  rcases mem_append.mp member with member | member
  · exact at_.plain e member
  · exact mem_singleton.mp member ▸ plain

def varNames : List Text := ["var".toList, "lib".toList, "cubrid".toList]

theorem backupStagingRoot_at : RootAt backupStagingRoot (varNames ++ ["backup-staging".toList]) :=
  ⟨by decide, by decide, by decide⟩

theorem restoreStagingRoot_at :
    RootAt restoreStagingRoot (varNames ++ ["restore-staging".toList]) :=
  ⟨by decide, by decide, by decide⟩

theorem restoreTargetRoot_at : RootAt restoreTargetRoot (varNames ++ ["databases".toList]) :=
  ⟨by decide, by decide, by decide⟩

end Checks

section Requests

variable {k : ClusterDefinition} {storage : CubridObjectStorage} {artifact : String}

theorem confineBackupDestination_staged {destination : String}
    (staged : StagedAt destination backupStagingRoot (varNames ++ ["backup-staging".toList]) name)
    (named : isStagingName name = true) :
    confineBackupDestination destination backupStagingRoot = .ok (String.ofList name) := by
  have nonempty : destination ≠ "" := by
    intro empty
    have text := staged.text
    rw [empty] at text
    cases text
  rw [confineBackupDestination, backupStagingRoot_at.isCleanAbsolute]
  simp only [Bool.not_true, Bool.false_eq_true, if_false, nonempty]
  rw [staged.clean, staged.base, if_neg (by simp [staged.above, named])]

theorem confine_staged {req : RestoreRequest} (target : req.targetDir = restoreTargetRoot)
    (staged : StagedAt req.stagingDir restoreStagingRoot
      (varNames ++ ["restore-staging".toList]) name)
    (named : isStagingName name = true) (host engine : String) :
    (confine req ⟨restoreTargetRoot, restoreStagingRoot, host, engine⟩).isOk = true := by
  have clean : Path.clean restoreTargetRoot.toList = restoreTargetRoot.toList := by decide
  rw [confine, restoreTargetRoot_at.isCleanAbsolute, restoreStagingRoot_at.isCleanAbsolute,
    target, clean]
  simp only [Bool.not_true, Bool.false_eq_true, if_false, ne_eq, not_true_eq_false]
  rw [staged.clean, staged.base, if_neg (by simp [staged.above, named])]
  rfl

theorem validateRestoreRequest_staged {req : RestoreRequest}
    (required : ¬ (req.database = "" ∨ req.bucket = "" ∨ req.pathPrefix = "" ∨ req.stagingDir = "" ∨
      req.targetDir = ""))
    (database : isDatabaseName req.database = true) (master : isHostLabel req.seedFromMaster = true)
    (target : req.targetDir = restoreTargetRoot) (plain : Path.Plain name)
    (staged : StagedAt req.stagingDir restoreStagingRoot
      (varNames ++ ["restore-staging".toList]) name) :
    validateRestoreRequest req = .ok () := by
  have targetElements : Path.elements restoreTargetRoot.toList = varNames ++
      ["databases".toList] := by decide
  have apart : ¬ (Path.within req.stagingDir.toList req.targetDir.toList = true ∨
      Path.within req.targetDir.toList req.stagingDir.toList = true) := by
    rw [target, Path.within, Path.within, staged.elements, targetElements]
    simp [varNames]
  rw [validateRestoreRequest, if_neg required, database, master,
    (staged.rootAt restoreStagingRoot_at plain).isCleanAbsolute, target,
    restoreTargetRoot_at.isCleanAbsolute]
  rw [target] at apart
  simp [apart]

theorem seedStaging_labelled (admitted : Admitted k storage) {peer : String}
    (among : peer ∈ memberNames k.name 3) (artifact : String) :
    Labelled ("seed-" ++ k.uid ++ if artifact = "" then "" else "-" ++ peer).toList ∧
      ("seed-" ++ k.uid ++ if artifact = "" then "" else "-" ++ peer).toList.head? = some 's' := by
  have text : ∀ rest : String, ("seed-" ++ k.uid ++ rest).toList = "seed-".toList ++
      (k.uid.toList ++ rest.toList) := by
    intro rest
    rw [String.toList_append, String.toList_append, append_assoc]
  have tail : Labelled (if artifact = "" then "" else "-" ++ peer).toList := by
    split
    · intro c member
      simp at member
    · rw [String.toList_append]
      exact (by decide : Labelled "-".toList).append fun c => memberName_chars admitted.name among
  rw [text]
  exact ⟨(by decide : Labelled "seed-".toList).append
    ((labelled_of_isUUID admitted.uid).append tail), rfl⟩

theorem validateBackupRequest_seed (admitted : Admitted k storage)
    (labelled : Labelled artifact.toList) (unrefused : seedPrefixRefusal storage.pathPrefix = none)
    {destination source : String} (nonempty : destination ≠ "")
    (among : source ∈ memberNames k.name 3) :
    validateBackupRequest
        { database := k.firstDatabase, destination
          upload := some
            { bucket := (k.seedLocation artifact).1, pathPrefix := (k.seedLocation artifact).2,
              clusterUID := k.uid,
              cubridVersion := k.spec.version, sourceInstance := source, sourceRole := roleMaster,
              seed := true } } =
        .ok () ↔
      (String.ofList
        (Path.joined (k.seedLocation artifact).2.toList manifestObjectName.toList)).utf8ByteSize ≤
          1024 := by
  have named := isDatabaseName_of_cluster admitted.database
  have host := memberName_isHostLabel admitted.name among
  have database : k.firstDatabase ≠ "" := by
    intro empty
    rw [empty] at named
    exact absurd named (by decide)
  have bucket : (k.seedLocation artifact).1 = storage.bucket := by
    simp [ClusterDefinition.seedLocation, admitted.stored]
  obtain ⟨prefixed, place⟩ := place_valid (seedPath_plain admitted unrefused labelled)
    (by simp [seedPath, seedNames]) (seedLocation_text admitted labelled)
  rw [validateBackupRequest, if_neg (by simp [database, nonempty]), if_neg (by simp [named]),
    if_neg (by simp)]
  simp only [validateUpload_ok]
  constructor
  · intro valid
    exact valid.short
  · intro short
    refine ⟨?_, place, host, fun _ => validateSeedUpload_seed admitted labelled unrefused,
      short, by simp [roleMaster]⟩
    rintro (empty | empty | empty | empty | empty)
    · exact admitted.bucket (bucket ▸ empty)
    · exact prefixed empty
    · exact (plain_of_isUUID admitted.uid).1 (congrArg String.toList empty)
    · exact admitted.version empty
    · dsimp only at empty
      rw [empty] at host
      exact absurd host (by decide)

/-- Of every seed that the operator starts, the restore passes all the checks of
    its request, and the backup if and only if the key of its manifest has at
    most 1024 bytes. -/
theorem seed_requests_accepted_iff {s : DatabaseSeeding} (admitted : Admitted k storage)
    (unrefused : seedPrefixRefusal storage.pathPrefix = none)
    (peer : s.member ∈ memberNames k.name k.spec.promotableMembers)
    (source : s.source ∈ memberNames k.name k.spec.promotableMembers) (first : Bool) (attempt : Nat)
    (hashRequest : StartBody → String) :
    ∃ backup restore,
      (k.seedBackupRequest hashRequest attempt s.source s.member (seedArtifact first s)).body =
      .backup backup ∧
      (k.seedRestoreRequest hashRequest attempt s.source s.member (seedArtifact first s)).body =
      .restore restore ∧
      (confineBackupDestination backup.destination backupStagingRoot).isOk = true ∧
      validateRestoreRequest restore = .ok () ∧
      (∀ host engine,
        (confine restore ⟨restoreTargetRoot, restoreStagingRoot, host, engine⟩).isOk = true) ∧
      (validateBackupRequest backup = .ok () ↔
        (String.ofList (Path.joined (k.seedLocation (seedArtifact first s)).2.toList
          manifestObjectName.toList)).utf8ByteSize ≤ 1024) := by
  rw [admitted.members] at peer source
  have labelled := seedArtifact_labelled admitted.name peer source first
  obtain ⟨backupName, backupHead⟩ := seedStaging_labelled admitted peer (seedArtifact first s)
  have alone : ("seed-" ++ k.uid ++ if "" = "" then "" else "-" ++ s.member) = "seed-" ++
      k.uid := by simp
  obtain ⟨restoreName, restoreHead⟩ := alone ▸ seedStaging_labelled admitted peer ""
  have plainRestore := plain_of_labelled restoreName restoreHead
  have backupStaged := backupStagingRoot_at.staged (plain_of_labelled backupName backupHead)
  have restoreStaged := restoreStagingRoot_at.staged plainRestore
  have named := isDatabaseName_of_cluster admitted.database
  have master := memberName_isHostLabel admitted.name source
  refine ⟨_, _, rfl, rfl, ?_, ?_, ?_, ?_⟩
  · rw [confineBackupDestination_staged backupStaged
      (isStagingName_of_labelled backupName backupHead)]
    rfl
  · refine validateRestoreRequest_staged ?_ named master rfl plainRestore restoreStaged
    have bucket : (k.seedLocation (seedArtifact first s)).1 = storage.bucket := by
      simp [ClusterDefinition.seedLocation, admitted.stored]
    obtain ⟨prefixed, -⟩ := place_valid (seedPath_plain admitted unrefused labelled)
      (by simp [seedPath, seedNames]) (seedLocation_text admitted labelled)
    rintro (empty | empty | empty | empty | empty)
    · rw [show k.firstDatabase = "" from empty] at named
      exact absurd named (by decide)
    · exact admitted.bucket (bucket ▸ empty)
    · exact prefixed empty
    · have text := restoreStaged.text
      rw [show joinPath [restoreStagingRoot, "seed-" ++ k.uid] = "" from empty] at text
      cases text
    · exact absurd (show restoreTargetRoot = "" from empty) (by decide)
  · intro host engine
    exact confine_staged rfl restoreStaged
      (isStagingName_of_labelled restoreName restoreHead) host engine
  · refine validateBackupRequest_seed admitted labelled unrefused ?_ source
    intro empty
    have text := backupStaged.text
    rw [empty] at text
    cases text

def seededStorage (pathPrefix : String) : CubridObjectStorage where
  endpoint := "minio:9000"
  bucket := "backups"
  pathPrefix := pathPrefix
  credentialsSecretRef := "s3"

def seededCluster (pathPrefix : String) : ClusterDefinition where
  name := "c"
  uid := "0c8f2d7a-5b3e-4f60-8a1d-7e9b6c5d4f3e"
  spec :=
    { version := "11.4", databases := ["demo"], promotableMembers := 3, highAvailability := true
      objectStorage := some (seededStorage pathPrefix) }

theorem seededCluster_admitted (pathPrefix : String) :
    Admitted (seededCluster pathPrefix) (seededStorage pathPrefix) :=
  ⟨⟨(by decide +kernel : isUUID "0c8f2d7a-5b3e-4f60-8a1d-7e9b6c5d4f3e" = true),
    (by decide : isClusterName "c" = true),
    (by decide : isClusterDatabase "demo" = true), rfl⟩, (by decide : "11.4" ≠ ""), rfl,
    (by decide : "backups" ≠ "")⟩

def firstSeed : DatabaseSeeding := { member := "c-1", source := "c-0" }

theorem nightly_seed_accepted :
    ∃ backup, ((seededCluster "nightly").seedBackupRequest (fun _ => "") 0 "c-0" "c-1" "").body =
      .backup backup ∧ validateBackupRequest backup = .ok () := by
  have peer : firstSeed.member ∈ memberNames "c" 3 := by decide
  have source : firstSeed.source ∈ memberNames "c" 3 := by decide
  obtain ⟨backup, -, body, -, -, -, -, accepted⟩ :=
    seed_requests_accepted_iff (seededCluster_admitted "nightly") (by decide) peer source true
      0 fun _ => ""
  exact ⟨backup, body, accepted.mpr (by decide +kernel)⟩

theorem withoutLeadingSlashes_plain (plain : Path.Plain name) :
    (withoutLeadingSlashes (String.ofList name)).toList = name := by
  obtain ⟨c, rest, rfl⟩ := exists_cons_of_ne_nil plain.1
  have other : c ≠ '/' := fun same => plain.2.1 (same ▸ mem_cons_self)
  rw [withoutLeadingSlashes, String.toList_ofList, String.toList_ofList,
    dropWhile_cons_of_neg (by simpa using other)]

theorem seedPrefixRefusal_plain (plain : Path.Plain name) :
    seedPrefixRefusal (String.ofList name) = none := by
  have one : ∀ e ∈ [name], Path.Plain e := by simpa using plain
  have cleaned : Path.clean name = name := by
    have joined := Path.clean_join one (cons_ne_nil _ _)
    rwa [Path.join_singleton] at joined
  obtain ⟨notUp, notAbove⟩ := Path.stays_below one
  rw [Path.join_singleton] at notUp notAbove
  rw [seedPrefixRefusal, withoutLeadingSlashes_plain plain, cleaned, if_neg]
  rintro (up | above)
  · exact notUp up
  · exact notAbove (List.isPrefixOf_iff_prefix.mp above)

theorem seedKey_longer (plain : Path.Plain name) :
    name.length ≤
      (String.ofList (Path.joined ((seededCluster (String.ofList name)).seedLocation "").2.toList
      manifestObjectName.toList)).utf8ByteSize := by
  have admitted := seededCluster_admitted (String.ofList name)
  have labelled : Labelled "".toList := by decide
  have unrefused := seedPrefixRefusal_plain plain
  have parts : Path.normal false
      (Path.elements (withoutLeadingSlashes (String.ofList name)).toList) = [name] := by
    have named : ∀ e ∈ [name], e ≠ [] ∧ '/' ∉ e := by simpa using ⟨plain.1, plain.2.1⟩
    have single := Path.elements_join named
    rw [Path.join_singleton] at single
    rw [withoutLeadingSlashes_plain plain, single]
    exact Path.normal_append [] (by simpa using plain)
  have text := seedLocation_text admitted labelled
  have key :=
    Path.joined_join_last (seedPath_plain admitted unrefused labelled) manifestObjectName_plain
  rw [text, key]
  refine le_trans ?_ (Text.length_le_utf8ByteSize _)
  rw [seedPath, show (seededStorage (String.ofList name)).pathPrefix = String.ofList name from rfl,
    parts, append_assoc, cons_append, nil_append, Path.join_cons name (by simp), length_append]
  exact Nat.le_add_right _ _

theorem replicate_plain (n : Nat) : Path.Plain (replicate (n + 1) 'p') := by
  have first : (replicate (n + 1) 'p').head? = some 'p' := by rw [replicate_succ]; rfl
  refine ⟨?_, ?_, ?_, ?_⟩
  · intro empty
    simp [empty] at first
  · intro slash
    exact absurd (eq_of_mem_replicate slash) (by decide)
  · intro dot
    simp [dot] at first
  · intro dots
    simp [dots] at first

/-- The operator takes a prefix of 1025 characters, and the member refuses
    every seed backup below it. -/
theorem long_prefix_seed_refused :
    seedPrefixRefusal (String.ofList (replicate 1025 'p')) = none ∧
      ∃ backup, ((seededCluster (String.ofList (replicate 1025 'p'))).seedBackupRequest
          (fun _ => "") 0 "c-0" "c-1" "").body = .backup backup ∧
        validateBackupRequest backup ≠ .ok () := by
  have plain := replicate_plain 1024
  have unrefused := seedPrefixRefusal_plain plain
  refine ⟨unrefused, _, rfl, ?_⟩
  intro accepted
  have short :=
    (validateBackupRequest_seed (seededCluster_admitted _) (by decide) unrefused (by decide)
      (by decide)).mp accepted
  have long := (seedKey_longer plain).trans short
  rw [length_replicate] at long
  omega

end Requests
end Controller
