import CubridOperator.Controller.BackupController
import CubridOperator.InstanceManager.ArtifactRuns

/-!
Where a backup is written: the operator's rule for the prefix, the member's own,
and the URI that a recovery accepts.
-/
namespace Controller
open Foundation Program InstanceManager List Option

section Identities

def isUUID (s : String) : Bool :=
  (s.toList.splitOn '-').map length = [8, 4, 4, 4, 12] ∧ s.toList.all fun c => isHex c ∨ c = '-'

variable {s : String}

theorem length_of_isUUID (uuid : isUUID s = true) : s.toList.length = 36 := by
  have groups : (s.toList.splitOn '-').map length = [8, 4, 4, 4, 12] := (of_decide_eq_true uuid).1
  obtain ⟨a, b, c, d, e, split⟩ : ∃ a b c d e, s.toList.splitOn '-' = [a, b, c, d, e] := by
    match h : s.toList.splitOn '-' with
    | [a, b, c, d, e] => exact ⟨a, b, c, d, e, rfl⟩
    | [] | [_] | [_, _] | [_, _, _] | [_, _, _, _] | _ :: _ :: _ :: _ :: _ :: _ :: _ =>
      simp [h] at groups
  have whole : ['-'].intercalate [a, b, c, d, e] = s.toList := by
    rw [← split]
    exact intercalate_splitOn '-'
  rw [split] at groups
  simp only [map_cons, map_nil, cons.injEq, and_true] at groups
  rw [← whole]
  simp [intercalate]
  omega

theorem mem_of_isUUID (uuid : isUUID s = true) {c : Char} (member : c ∈ s.toList) :
    isHex c = true ∨ c = '-' := by
  have each := all_eq_true.mp (of_decide_eq_true uuid).2 c member
  exact of_decide_eq_true each

theorem plain_of_isUUID (uuid : isUUID s = true) : Path.Plain s.toList := by
  have length := length_of_isUUID uuid
  refine ⟨?_, ?_, ?_, ?_⟩
  · intro empty
    simp [empty] at length
  · intro slash
    exact absurd (mem_of_isUUID uuid slash) (by decide)
  · intro dot
    simp [dot] at length
  · intro dots
    simp [dots] at length

theorem plain_of_isDatabaseName (named : isDatabaseName s = true) : Path.Plain s.toList := by
  unfold isDatabaseName at named
  split at named
  · cases named
  · rename_i c rest whole
    obtain ⟨letter, -, others⟩ := of_decide_eq_true named
    rw [whole]
    have first : c ≠ '.' := by
      rintro rfl
      exact absurd letter (by decide)
    refine ⟨cons_ne_nil c rest, ?_, by simp [first], by simp [first]⟩
    intro slash
    rcases mem_cons.mp slash with rfl | slash
    · exact absurd letter (by decide)
    · exact absurd (of_decide_eq_true (all_eq_true.mp others '/' slash)) (by decide)

end Identities

section Keys

theorem toNat_of_isHex {c : Char} (hex : isHex c = true) :
    48 ≤ c.toNat ∧ c.toNat ≤ 57 ∨ 97 ≤ c.toNat ∧ c.toNat ≤ 102 := by
  have bounds := of_decide_eq_true hex
  simpa [isDigit, Char.le_def, UInt32.le_iff_toNat_le] using bounds

theorem isKeyChar_of_isHex {c : Char} (hex : isHex c = true) : isKeyChar c = true := by
  have bounds := toNat_of_isHex hex
  have apart : ∀ d : Char, d.toNat < 48 ∨ 57 < d.toNat ∧ d.toNat < 97 → c ≠ d := by
    rintro d outside rfl
    omega
  have space := apart ' ' (by decide)
  have marks : c ∉ ['/', '?', '#', '%'] := by
    simp [apart '/' (by decide), apart '?' (by decide), apart '#' (by decide),
      apart '%' (by decide)]
  have printed : isAsciiSpace c = false ∧ isAsciiControl c = false := by
    simp only [isAsciiSpace, isAsciiControl, decide_eq_false_iff_not, space, or_false]
    omega
  simp [isKeyChar, marks, printed]

variable {bucket first above : Text} {names segments : List Text} {id other : AttemptID}

theorem attempt_isKeySegment (id : AttemptID) : IsKeySegment id.name := by
  obtain ⟨nonempty, -, here, parent⟩ := id.plain
  refine ⟨nonempty, here, parent, ?_⟩
  intro c member
  rw [id.name_eq, mem_append] at member
  have word : ['a', 't', 't', 'e', 'm', 'p', 't', '-'].all isKeyChar = true := by decide
  rcases member with fixed | hex
  · exact all_eq_true.mp word c fixed
  · exact isKeyChar_of_isHex (all_eq_true.mp id.hex.2 c hex)

theorem attempt_length (id : AttemptID) : id.name.length = 40 := by
  rw [id.name_eq, length_append, id.hex.1]
  rfl

theorem backupAttemptPath_join (relative : Path.isAbs above = false)
    (plain : ∀ e ∈ names, Path.Plain e) (some_ : names ≠ []) :
    backupAttemptPath (Path.joined above (Path.join names)) id.text = Path.join
      (Path.below above names ++ [id.name]) := by
  have one : ∀ e ∈ [id.name], Path.Plain e := by simpa using id.plain
  have all : ∀ e ∈ names ++ [id.name], Path.Plain e :=
    fun e member => (mem_append.mp member).elim (plain e) (one e)
  rw [backupAttemptPath_name, Path.joined_joined relative plain some_ one (cons_ne_nil _ _),
    Path.joined_join above all (by simp), relative, Path.below, Path.below, append_assoc]
  rfl

theorem attemptManifest_join (relative : Path.isAbs above = false)
    (plain : ∀ e ∈ names, Path.Plain e) (some_ : names ≠ []) :
    Path.joined (backupAttemptPath (Path.joined above (Path.join names)) id.text)
      manifestObjectName.toList =
      Path.join (Path.below above names ++ [id.name] ++ [manifestObjectName.toList]) := by
  have one : ∀ e ∈ [id.name], Path.Plain e := by simpa using id.plain
  have last : ∀ e ∈ [manifestObjectName.toList], Path.Plain e := by
    simpa using manifestObjectName_plain
  have inner : ∀ e ∈ names ++ [id.name], Path.Plain e :=
    fun e member => (mem_append.mp member).elim (plain e) (one e)
  have all : ∀ e ∈ names ++ [id.name] ++ [manifestObjectName.toList], Path.Plain e :=
    fun e member => (mem_append.mp member).elim (inner e) (last e)
  calc
    Path.joined (backupAttemptPath (Path.joined above (Path.join names)) id.text)
        manifestObjectName.toList
      = Path.joined (Path.joined above (Path.join (names ++ [id.name])))
        (Path.join [manifestObjectName.toList]) := by
        rw [backupAttemptPath_name, Path.joined_joined relative plain some_ one (cons_ne_nil _ _),
          Path.join_singleton manifestObjectName.toList]
    _ = Path.joined above (Path.join (names ++ [id.name] ++ [manifestObjectName.toList])) :=
        Path.joined_joined relative inner (by simp) last (cons_ne_nil _ _)
    _ = Path.join (Path.below above names ++ [id.name] ++ [manifestObjectName.toList]) := by
        rw [Path.joined_join above all (by simp), relative, Path.below, Path.below]
        simp

theorem NamesManifest.pieces {key : Text}
    (accepted : NamesManifest ("s3://".toList ++ bucket ++ '/' :: key) first segments) :
    bucket.splitOn '/' ++ key.splitOn '/' = first :: (segments ++ [manifestObjectName.toList]) := by
  have written := accepted.written
  rw [append_assoc, append_assoc, append_right_inj] at written
  have left : (bucket ++ '/' :: key).splitOn '/' = bucket.splitOn '/' ++ key.splitOn '/' :=
    splitOnP_append_cons bucket _ (by simp)
  have right : (first ++ '/' :: Path.join (segments ++ [manifestObjectName.toList])).splitOn '/' =
      first.splitOn '/' ++ (Path.join (segments ++ [manifestObjectName.toList])).splitOn '/' :=
    splitOnP_append_cons first _ (by simp)
  have alone : first.splitOn '/' = [first] :=
    splitOnP_eq_singleton fun c member => by
      have other : c ≠ '/' := fun same => accepted.named.slash_notMem (same ▸ member)
      simpa using other
  rw [← left, written, right, alone, splitOn_key accepted.plain]
  rfl

theorem NamesManifest.relative {key : Text}
    (accepted : NamesManifest ("s3://".toList ++ bucket ++ '/' :: key) first segments) :
    Path.isAbs key = false := by
  cases key with
  | nil => rfl
  | cons c key =>
    have pieces := accepted.pieces
    by_cases slash : c = '/'
    · have empty : [] ∈ (c :: key).splitOn '/' := by
        simp [splitOn, splitOnP_cons_eq_if_modifyHead, slash]
      have among : [] ∈ first :: (segments ++ [manifestObjectName.toList]) :=
        pieces ▸ mem_append_right _ empty
      rcases mem_cons.mp among with none | among
      · have least := accepted.named.least
        rw [← none] at least
        simp at least
      · rcases mem_append.mp among with among | last
        · exact absurd rfl (accepted.each [] among).nonempty
        · exact absurd (mem_singleton.mp last) (by decide)
    · simp [Path.isAbs, slash]

/-- What a URI has for its bucket may itself have slashes: what stands after
    the first one is then read as segments. -/
theorem NamesManifest.cut (single : ∀ e ∈ names, '/' ∉ e)
    (accepted : NamesManifest
      ("s3://".toList ++ bucket ++ '/' :: Path.join (names ++ [manifestObjectName.toList]))
      first segments) :
    ∃ extra, bucket.splitOn '/' = first :: extra ∧ segments = extra ++ names := by
  have separate : ∀ e ∈ names ++ [manifestObjectName.toList], '/' ∉ e := by
    intro e member
    rcases mem_append.mp member with member | member
    · exact single e member
    · exact mem_singleton.mp member ▸ manifestObjectName_plain.2.1
  have key : (Path.join (names ++ [manifestObjectName.toList])).splitOn '/' = names ++
      [manifestObjectName.toList] :=
    splitOn_intercalate '/' separate (by simp)
  have pieces := accepted.pieces
  obtain ⟨head, extra, split⟩ := exists_cons_of_ne_nil (splitOnP_ne_nil (· == '/') bucket)
  have split : bucket.splitOn '/' = head :: extra := split
  rw [split, key, cons_append, cons.injEq, ← append_assoc] at pieces
  refine ⟨extra, ?_, ?_⟩
  · rw [split, pieces.1]
  · exact (append_cancel_right pieces.2).symm

theorem NamesManifest.redrawn (single : ∀ e ∈ names, '/' ∉ e) (some_ : names ≠ [])
    (accepted : NamesManifest
      ("s3://".toList ++ bucket ++ '/' :: Path.join
        (names ++ [id.name] ++ [manifestObjectName.toList])) first segments) :
    ∃ extra, bucket.splitOn '/' = first :: extra ∧ (∀ e ∈ names, Path.Plain e) ∧ NamesManifest
      ("s3://".toList ++ bucket ++ '/' :: Path.join
        (names ++ [other.name] ++ [manifestObjectName.toList])) first
      (extra ++ names ++ [other.name]) := by
  have single' : ∀ e ∈ names ++ [id.name], '/' ∉ e := by
    intro e member
    rcases mem_append.mp member with member | member
    · exact single e member
    · exact mem_singleton.mp member ▸ id.plain.2.1
  obtain ⟨extra, split, whole⟩ := accepted.cut single'
  have each : ∀ e ∈ extra ++ names, IsKeySegment e := by
    intro e member
    refine accepted.each e ?_
    rw [whole, ← append_assoc]
    exact mem_append_left _ member
  have text : bucket = Path.join (first :: extra) := by
    rw [← split]
    exact (intercalate_splitOn '/').symm
  refine ⟨extra, split, fun e member => (each e (mem_append_right extra member)).plain, ?_⟩
  constructor
  · have parts : Path.join
        (first :: extra) ++ '/' :: Path.join
          (names ++ [other.name] ++ [manifestObjectName.toList]) =
        first ++ '/' :: Path.join
          (extra ++ names ++ [other.name] ++ [manifestObjectName.toList]) := by
      rw [← Path.join_append_join (cons_ne_nil _ _) (by simp), cons_append,
        Path.join_cons first (by simp)]
      simp
    rw [text, append_assoc "s3://".toList, parts, ← append_assoc "s3://".toList]
  · have long : ∀ attempt : Text,
        (Path.join (names ++ [attempt] ++ [manifestObjectName.toList])).length =
        (Path.join names).length + attempt.length + manifestObjectName.toList.length + 2 := by
      intro attempt
      rw [Path.join_append _ (by simp), Path.join_append _ some_]
      simp only [length_append, length_cons]
      omega
    have size : (Path.join (names ++ [other.name] ++ [manifestObjectName.toList])).length =
        (Path.join (names ++ [id.name] ++ [manifestObjectName.toList])).length := by
      rw [long, long, attempt_length, attempt_length]
    have short := accepted.short
    rw [length_append, length_cons] at short ⊢
    rw [size]
    exact short
  · exact accepted.named
  · exact accepted.separate
  · simp
  · intro e member
    rcases mem_append.mp member with member | member
    · exact each e member
    · exact mem_singleton.mp member ▸ attempt_isKeySegment other

end Keys

section Destinations

/-- What the operator puts in place of an attempt ID that is not drawn yet. -/
def placeholderAttempt : AttemptID := ⟨replicate backupAttemptIDLength '0', by decide⟩

variable {backup : CubridBackup} {cluster : BackedCluster} {store : ObjectStorageDestination}

def artifactNames (backup : CubridBackup) (cluster : BackedCluster) : List Text :=
  [cluster.uid.toList, backup.spec.database.toList, backup.uid.toList]

structure Identified (backup : CubridBackup) (cluster : BackedCluster) : Prop where
  clusterUID : isUUID cluster.uid = true
  backupUID : isUUID backup.uid = true
  named : isDatabaseName backup.spec.database = true

theorem Identified.plain (identified : Identified backup cluster) :
    ∀ e ∈ artifactNames backup cluster, Path.Plain e := by
  intro e member
  simp only [artifactNames, mem_cons, not_mem_nil, or_false] at member
  rcases member with rfl | rfl | rfl
  · exact plain_of_isUUID identified.clusterUID
  · exact plain_of_isDatabaseName identified.named
  · exact plain_of_isUUID identified.backupUID

theorem backupArtifactPrefix_joined (identified : Identified backup cluster) :
    (backupArtifactPrefix backup store cluster.uid).toList =
      Path.joined store.pathPrefix.toList (Path.join (artifactNames backup cluster)) := by
  rw [backupArtifactPrefix, joinPath, String.toList_ofList]
  exact Path.joinedAll_cons _ identified.plain (cons_ne_nil _ _)

def attemptKey (backup : CubridBackup) (cluster : BackedCluster) (store : ObjectStorageDestination)
    (id : AttemptID) : Text :=
  Path.joined (backupAttemptPath (backupArtifactPrefix backup store cluster.uid).toList id.text)
    manifestObjectName.toList

def attemptURI (backup : CubridBackup) (cluster : BackedCluster) (store : ObjectStorageDestination)
    (id : AttemptID) : String :=
  "s3://" ++ store.bucket ++ "/" ++ String.ofList (attemptKey backup cluster store id)

theorem attemptURI_toList (id : AttemptID) :
    (attemptURI backup cluster store id).toList =
      "s3://".toList ++ store.bucket.toList ++ '/' :: attemptKey backup cluster store id := by
  simp [attemptURI]

theorem backupDestinationRefusal_none (stored : backup.spec.objectStorage = some store) :
    backupDestinationRefusal backup cluster = none ↔
      (parseManifestURI (attemptURI backup cluster store placeholderAttempt)).isOk = true ∧
        (String.ofList (attemptKey backup cluster store placeholderAttempt)).utf8ByteSize ≤
        1024 := by
  have last : ∀ e ∈ [manifestObjectName.toList], Path.Plain e := by
    simpa using manifestObjectName_plain
  have key : joinPath
      [String.ofList (backupAttemptPath (backupArtifactPrefix backup store cluster.uid).toList
      (replicate backupAttemptIDLength '0')), manifestObjectName] =
      String.ofList (attemptKey backup cluster store placeholderAttempt) := by
    rw [joinPath, map_cons, String.toList_ofList, map_cons, map_nil,
      Path.joinedAll_cons _ last (cons_ne_nil _ _), Path.join_singleton]
    rfl
  have uri : "s3://" ++ store.bucket ++ "/" ++ String.ofList
      (attemptKey backup cluster store placeholderAttempt) =
    attemptURI backup cluster store placeholderAttempt := rfl
  rw [backupDestinationRefusal, stored]
  simp only [bind_some, key, uri]
  split
  · rename_i accepted
    exact iff_of_true rfl accepted
  · rename_i refused
    exact iff_of_false (by simp) refused

/-- The prefix is relative and plain, and the URI of any attempt is accepted. -/
structure Runnable (backup : CubridBackup) (cluster : BackedCluster)
    (store : ObjectStorageDestination) (first : Text) (extra : List Text) : Prop where
  relative : Path.isAbs store.pathPrefix.toList = false
  plain : ∀ e ∈ Path.below store.pathPrefix.toList (artifactNames backup cluster), Path.Plain e
  short : (String.ofList (attemptKey backup cluster store placeholderAttempt)).utf8ByteSize ≤ 1024
  bucket : store.bucket.toList.splitOn '/' = first :: extra
  accepted : ∀ id, NamesManifest (attemptURI backup cluster store id).toList first
    (extra ++ Path.below store.pathPrefix.toList (artifactNames backup cluster) ++ [id.name])

variable {extra : List Text} {first : Text}

section

variable (identified : Identified backup cluster)
include identified

theorem isAbs_attemptKey (id : AttemptID) :
    Path.isAbs (attemptKey backup cluster store id) = Path.isAbs store.pathPrefix.toList := by
  have one : ∀ e ∈ [id.name], Path.Plain e := by simpa using id.plain
  have last : ∀ e ∈ [manifestObjectName.toList], Path.Plain e := by
    simpa using manifestObjectName_plain
  rw [attemptKey, ← Path.join_singleton manifestObjectName.toList,
    Path.isAbs_joined last (cons_ne_nil _ _), backupAttemptPath_name,
    Path.isAbs_joined one (cons_ne_nil _ _), backupArtifactPrefix_joined identified,
    Path.isAbs_joined identified.plain (cons_ne_nil _ _)]

theorem attemptKey_join (relative : Path.isAbs store.pathPrefix.toList = false) (id : AttemptID) :
    attemptKey backup cluster store id =
      Path.join (Path.below store.pathPrefix.toList (artifactNames backup cluster) ++ [id.name] ++
        [manifestObjectName.toList]) := by
  rw [attemptKey, backupArtifactPrefix_joined identified]
  exact attemptManifest_join relative identified.plain (cons_ne_nil _ _)

theorem runnable_of_unrefused (stored : backup.spec.objectStorage = some store)
    (runs : backupDestinationRefusal backup cluster = none) :
    ∃ first extra, Runnable backup cluster store first extra := by
  obtain ⟨parsed, short⟩ := (backupDestinationRefusal_none stored).mp runs
  obtain ⟨first, segments, names⟩ := parseManifestURI_isOk.mp parsed
  rw [attemptURI_toList] at names
  have relative : Path.isAbs store.pathPrefix.toList = false := by
    rw [← isAbs_attemptKey identified placeholderAttempt]
    exact names.relative
  rw [attemptKey_join identified relative] at names
  have single : ∀ e ∈ Path.below store.pathPrefix.toList (artifactNames backup cluster), '/' ∉ e :=
    fun e member => (Path.below_named _ identified.plain e member).2
  have some_ : Path.below store.pathPrefix.toList (artifactNames backup cluster) ≠ [] := by
    simp [Path.below, artifactNames]
  have redrawn : ∀ id : AttemptID, ∃ extra, store.bucket.toList.splitOn '/' = first :: extra ∧
      (∀ e ∈ Path.below store.pathPrefix.toList (artifactNames backup cluster), Path.Plain e) ∧
      NamesManifest (attemptURI backup cluster store id).toList first
        (extra ++ Path.below store.pathPrefix.toList (artifactNames backup cluster) ++
          [id.name]) := by
    intro id
    rw [attemptURI_toList, attemptKey_join identified relative]
    exact names.redrawn single some_
  obtain ⟨extra, split, plain, -⟩ := redrawn placeholderAttempt
  refine ⟨first, extra, relative, plain, short, split, ?_⟩
  intro id
  obtain ⟨again, split', -, accepted⟩ := redrawn id
  rw [split, cons.injEq] at split'
  rw [split'.2]
  exact accepted

theorem Runnable.splits (runnable : Runnable backup cluster store first extra) (id : AttemptID) :
    parseManifestURI (attemptURI backup cluster store id) =
        .ok (store.bucket, String.ofList
          (backupAttemptPath (backupArtifactPrefix backup store cluster.uid).toList id.text)) ↔
      '/' ∉ store.bucket.toList := by
  have place : backupAttemptPath (backupArtifactPrefix backup store cluster.uid).toList id.text =
      Path.join (Path.below store.pathPrefix.toList (artifactNames backup cluster) ++
        [id.name]) := by
    rw [backupArtifactPrefix_joined identified]
    exact backupAttemptPath_join runnable.relative identified.plain (cons_ne_nil _ _)
  rw [parseManifestURI_ok, place, String.toList_ofList]
  constructor
  · rintro ⟨segments, names, -⟩
    exact names.named.slash_notMem
  · intro single
    have alone : store.bucket.toList.splitOn '/' = [store.bucket.toList] :=
      splitOnP_eq_singleton fun c member => by
        have other : c ≠ '/' := fun same => single (same ▸ member)
        simpa using other
    have whole := runnable.bucket
    rw [alone, cons.injEq] at whole
    refine ⟨_, ?_, rfl⟩
    have accepted := runnable.accepted id
    rw [← whole.1, ← whole.2] at accepted
    exact accepted

end

theorem place_valid {pathPrefix : String} {names : List Text} (plain : ∀ e ∈ names, Path.Plain e)
    (some_ : names ≠ []) (text : pathPrefix.toList = Path.join names) :
    pathPrefix ≠ "" ∧
    ¬ (Path.isAbs pathPrefix.toList ∨ Path.clean pathPrefix.toList ≠ pathPrefix.toList ∨
      pathPrefix = ".." ∨ "../".toList.isPrefixOf pathPrefix.toList) := by
  have named : ∀ e ∈ names, e ≠ [] ∧ '/' ∉ e :=
    fun e member => ⟨(plain e member).1, (plain e member).2.1⟩
  obtain ⟨notUp, notAbove⟩ := Path.stays_below plain
  constructor
  · intro empty
    have none := Path.elements_join named
    rw [← text, empty] at none
    exact some_ none.symm
  · rintro (absolute | unclean | up | above)
    · rw [text, Path.isAbs_join named] at absolute
      cases absolute
    · rw [text] at unclean
      exact unclean (Path.clean_join plain some_)
    · rw [up] at text
      exact notUp text.symm
    · rw [text] at above
      exact notAbove (List.isPrefixOf_iff_prefix.mp above)

theorem Runnable.place (identified : Identified backup cluster)
    (runnable : Runnable backup cluster store first extra) :
    (backupArtifactPrefix backup store cluster.uid).toList =
      Path.join (Path.below store.pathPrefix.toList (artifactNames backup cluster)) := by
  rw [backupArtifactPrefix_joined identified, Path.joined_join _ identified.plain (cons_ne_nil _ _),
    runnable.relative]
  rfl

theorem Runnable.validated {up : BackupUpload} {sel : TargetSelection}
    (identified : Identified backup cluster) (runnable : Runnable backup cluster store first extra)
    (stored : backup.spec.objectStorage = some store)
    (requested : (buildBackupRequest backup cluster sel).upload = some up) :
    validateUpload backup.spec.database up = .ok () ↔
      cluster.version ≠ "" ∧ isHostLabel sel.instanceName = true ∧
        sel.role ∈ ["", "master", "slave", "replica", "unknown"] := by
  simp only [buildBackupRequest, stored, map_some, getD_some, some.injEq] at requested
  subst requested
  have some_ : Path.below store.pathPrefix.toList (artifactNames backup cluster) ≠ [] := by
    simp [Path.below, artifactNames]
  obtain ⟨nonempty, place⟩ := place_valid runnable.plain some_ (runnable.place identified)
  have bucket : store.bucket ≠ "" := by
    intro empty
    have least := (runnable.accepted placeholderAttempt).named.least
    have split := runnable.bucket
    rw [empty] at split
    have none : first = [] := (cons.inj split).1.symm
    rw [none] at least
    simp at least
  rw [validateUpload_ok]
  constructor
  · intro valid
    have named := valid.named
    simp only [not_or] at named
    exact ⟨named.2.2.2.1, valid.host, valid.role⟩
  · rintro ⟨version, host, role⟩
    have label : sel.instanceName ≠ "" := by
      intro empty
      rw [empty] at host
      exact absurd host (by decide)
    refine ⟨?_, place, host, by simp, runnable.short, role⟩
    simp only [not_or]
    exact ⟨bucket, nonempty, cluster.identified, version, label⟩

/-- What the operator runs, the member does not refuse for its place, and a
    recovery accepts the URI that it reports. It splits into bucket and prefix
    if and only if the bucket has no slash. -/
theorem destination_run_recoverable_iff {sel : TargetSelection} {up : BackupUpload}
    (identified : Identified backup cluster) (stored : backup.spec.objectStorage = some store)
    (runs : backupDestinationRefusal backup cluster = none)
    (requested : (buildBackupRequest backup cluster sel).upload = some up) :
    (validateUpload backup.spec.database up = .ok () ↔
      cluster.version ≠ "" ∧ isHostLabel sel.instanceName = true ∧
        sel.role ∈ ["", "master", "slave", "replica", "unknown"]) ∧
    (∀ id : AttemptID, (parseManifestURI (attemptURI backup cluster store id)).isOk = true ∧
      (parseManifestURI (attemptURI backup cluster store id) =
          .ok (up.bucket, String.ofList (backupAttemptPath up.pathPrefix.toList id.text)) ↔
        '/' ∉ store.bucket.toList)) ∧
    ∀ digest codec (call : UploadCall), call.up = up →
      call.program.Ensures (uploadHandler digest codec call) (fun _ => True)
      (fun answer w => ∀ result, answer = .ok result → ∃ id m, w.attempt = some id ∧
        result.manifestURI = attemptURI backup cluster store id ∧
        w.puts.head? = some
        ⟨up.bucket, String.ofList (Path.joined (backupAttemptPath up.pathPrefix.toList id.text)
          manifestObjectName.toList), .manifest m⟩) {} := by
  obtain ⟨first, extra, runnable⟩ := runnable_of_unrefused identified stored runs
  refine ⟨runnable.validated identified stored requested, ?_, ?_⟩
  all_goals
    simp only [buildBackupRequest, stored, map_some, getD_some, some.injEq] at requested
    subst requested
  · intro id
    exact ⟨parseManifestURI_isOk.mpr ⟨first, _, runnable.accepted id⟩,
      runnable.splits identified id⟩
  · intro digest codec call asked
    refine ((UploadCall.program_spec digest codec call).weaken fun _ _ => trivial).mono ?_
    rintro answer w ⟨-, completed⟩ result rfl
    obtain ⟨place, m, placed, ⟨-, earlier, puts, -⟩, reported⟩ := completed result rfl
    rw [UploadCall.place, asked] at placed
    simp only [Bool.false_eq_true, if_false, map_eq_some_iff] at placed
    obtain ⟨id, drawn, rfl⟩ := placed
    refine ⟨id, m, drawn, ?_, ?_⟩
    · rw [reported, UploadCall.manifestPut, asked]
      rfl
    · rw [puts, UploadCall.manifestPut, asked]
      rfl

def nightlyBackup (bucket : String) : CubridBackup where
  inNamespace := "ns"
  name := "nightly"
  uid := "6f1d4c1e-0b0e-4a57-9a53-0d5d9a1b2c3d"
  creationTimestamp := 0
  spec := { clusterRef := "c", database := "demo", objectStorage := some ⟨bucket, "nightly/"⟩ }

def nightlyCluster : BackedCluster where
  name := "c"
  uid := "0c8f2d7a-5b3e-4f60-8a1d-7e9b6c5d4f3e"
  promotableMembers := 3
  version := "11.4"
  objectStorage := none
  identified := by decide

theorem nightly_identified (bucket : String) : Identified (nightlyBackup bucket) nightlyCluster :=
  ⟨(by decide +kernel : isUUID "0c8f2d7a-5b3e-4f60-8a1d-7e9b6c5d4f3e" = true),
    (by decide +kernel : isUUID "6f1d4c1e-0b0e-4a57-9a53-0d5d9a1b2c3d" = true),
    (by decide : isDatabaseName "demo" = true)⟩

def nightlyKey : Text :=
  Path.joined (backupAttemptPath
    (Path.joined "nightly/".toList (Path.join [nightlyCluster.uid.toList, "demo".toList,
    "6f1d4c1e-0b0e-4a57-9a53-0d5d9a1b2c3d".toList])) placeholderAttempt.text)
      manifestObjectName.toList

theorem nightly_attemptKey (bucket : String) :
    attemptKey (nightlyBackup bucket) nightlyCluster ⟨bucket, "nightly/"⟩ placeholderAttempt =
      nightlyKey := by
  rw [attemptKey, backupArtifactPrefix_joined (nightly_identified bucket)]
  rfl

theorem nightly_located {bucket first : String}
    (parts : (manifestURIParts ("s3://".toList ++ bucket.toList ++ '/' :: nightlyKey)).map
      Prod.fst = some first.toList) :
    ∃ place, parseManifestURI
      (attemptURI (nightlyBackup bucket) nightlyCluster ⟨bucket, "nightly/"⟩ placeholderAttempt) =
      .ok (first, place) := by
  obtain ⟨⟨b, p⟩, found, same⟩ := map_eq_some_iff.mp parts
  refine ⟨String.ofList p, parseManifestURI_eq_ok.mpr ?_⟩
  rw [attemptURI_toList, nightly_attemptKey, found, ← same, String.toList_ofList]

theorem nightly_unrefused {bucket first place : String}
    (parsed : parseManifestURI
      (attemptURI (nightlyBackup bucket) nightlyCluster ⟨bucket, "nightly/"⟩ placeholderAttempt) =
      .ok (first, place)) :
    backupDestinationRefusal (nightlyBackup bucket) nightlyCluster = none := by
  refine (backupDestinationRefusal_none rfl).mpr ⟨by rw [parsed]; rfl, ?_⟩
  rw [nightly_attemptKey]
  decide +kernel

theorem nightly_run_recoverable :
    parseManifestURI (attemptURI (nightlyBackup "backups") nightlyCluster ⟨"backups", "nightly/"⟩
      placeholderAttempt) = .ok ("backups", String.ofList (backupAttemptPath
        (backupArtifactPrefix (nightlyBackup "backups") ⟨"backups", "nightly/"⟩
          nightlyCluster.uid).toList
        placeholderAttempt.text)) := by
  have located : ∃ place, parseManifestURI (attemptURI (nightlyBackup "backups") nightlyCluster
      ⟨"backups", "nightly/"⟩ placeholderAttempt) = .ok ("backups", place) :=
      nightly_located (by decide +kernel)
  obtain ⟨place, parsed⟩ := located
  have runs := nightly_unrefused parsed
  have requested : (buildBackupRequest (nightlyBackup "backups") nightlyCluster
    { instanceName := "c-1", role := "slave", reason := "" }).upload = some _ := rfl
  have both :=
    (destination_run_recoverable_iff (nightly_identified "backups") rfl runs requested).2.1
  exact (both placeholderAttempt).2.mpr (by decide)

/-- The operator runs a backup to the bucket abc/def, and a recovery from the
    URI that is reported reads the bucket abc. -/
theorem slashed_bucket_read_elsewhere :
    backupDestinationRefusal (nightlyBackup "abc/def") nightlyCluster = none ∧
      ∃ place, parseManifestURI
        (attemptURI (nightlyBackup "abc/def") nightlyCluster ⟨"abc/def", "nightly/"⟩
        placeholderAttempt) = .ok ("abc", place) := by
  have located : ∃ place, parseManifestURI (attemptURI (nightlyBackup "abc/def") nightlyCluster
      ⟨"abc/def", "nightly/"⟩ placeholderAttempt) = .ok ("abc", place) :=
      nightly_located (by decide +kernel)
  obtain ⟨place, parsed⟩ := located
  exact ⟨nightly_unrefused parsed, place, parsed⟩

end Destinations
end Controller
