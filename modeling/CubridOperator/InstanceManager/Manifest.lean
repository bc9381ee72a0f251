import CubridOperator.InstanceManager.RestoreRequest
import Mathlib.Data.List.Nodup

/-!
The manifest of a backup artifact and what a restore requires of it before it
writes anything.
-/
namespace InstanceManager
open Foundation List

def manifestVersion : Int := 1

def manifestObjectName : String := "manifest.json"

structure ManifestObject where
  key : String
  sizeBytes : Int
  sha256 : String
  deriving DecidableEq

structure BackupManifest where
  manifestVersion : Int
  database : String
  clusterUID : String := ""
  cubridVersion : String
  level : Int := 0
  sourceInstance : String := ""
  sourceRole : String := ""
  objects : List ManifestObject
  deriving DecidableEq

/-- What a consumer requires of a manifest; an empty field is not checked. -/
structure ManifestExpectation where
  database : String := ""
  cubridVersion : String := ""
  level : Option Int := none
  requireSourceRole : String := ""
  sourceInstance : String := ""
  clusterUID : String := ""

def parseManifest (m : BackupManifest) : Except String BackupManifest :=
  if m.manifestVersion ≠ InstanceManager.manifestVersion then
    .error ("unsupported manifest version " ++ toString m.manifestVersion ++ " (want " ++
      toString InstanceManager.manifestVersion ++ ")")
  else .ok m

def BackupManifest.verify (m : BackupManifest) (exp : ManifestExpectation) : Except String Unit :=
  if m.manifestVersion ≠ InstanceManager.manifestVersion then
    .error ("manifest version " ++ toString m.manifestVersion ++ " does not match supported " ++
      toString InstanceManager.manifestVersion)
  else if exp.database ≠ "" ∧ m.database ≠ exp.database then
    .error ("manifest database " ++ quoted m.database ++ " does not match expected " ++
      quoted exp.database)
  else if exp.cubridVersion ≠ "" ∧ (engineSeries m.cubridVersion = "" ∨
      engineSeries m.cubridVersion ≠ engineSeries exp.cubridVersion) then
    .error ("manifest cubridVersion " ++ quoted m.cubridVersion ++ " is not of the series of " ++
      quoted exp.cubridVersion)
  else if exp.level.any (m.level ≠ ·) then
    .error ("manifest level " ++ toString m.level ++ " does not match expected " ++
      toString (exp.level.getD 0))
  else if exp.requireSourceRole ≠ "" ∧ m.sourceRole ≠ exp.requireSourceRole then
    .error ("manifest sourceRole " ++ quoted m.sourceRole ++ " does not match required " ++
      quoted exp.requireSourceRole)
  else if exp.sourceInstance ≠ "" ∧ m.sourceInstance ≠ exp.sourceInstance then
    .error ("manifest sourceInstance " ++ quoted m.sourceInstance ++ " does not match expected " ++
      quoted exp.sourceInstance)
  else if exp.clusterUID ≠ "" ∧ m.clusterUID ≠ exp.clusterUID then
    .error ("manifest clusterUID " ++ quoted m.clusterUID ++ " does not match expected " ++
      quoted exp.clusterUID)
  else if m.objects = [] then .error "manifest lists no backup objects"
  else .ok ()

def objectKeyRoot : Text := "backup".toList

def belowObjectKeyRoot (key : Text) : Bool :=
  (objectKeyRoot ++ ['/']).isPrefixOf key ∧ key ≠ objectKeyRoot ++ ['/']

def validateObjectKey (key : Text) : Except String Unit :=
  if key = [] ∨ Char.ofNat 0 ∈ key ∨ '\\' ∈ key then
    .error ("manifest object key " ++ quoted (String.ofList key) ++ " is not a usable path")
  else if Path.isAbs key ∨ Path.clean key ≠ key then
    .error ("manifest object key " ++ quoted (String.ofList key) ++ " is not a clean relative path")
  else if !belowObjectKeyRoot key then
    .error ("manifest object key " ++ quoted (String.ofList key) ++ " is not below backup/")
  else if ['.', '.'] ∈ key.splitOn '/' ∨ ['.'] ∈ key.splitOn '/' then
    .error ("manifest object key " ++ quoted (String.ofList key) ++ " is not a clean relative path")
  else .ok ()

def validateObjectKeysFrom (seen : List String) : List ManifestObject → Except String Unit
  | [] => .ok ()
  | obj :: rest =>
    match validateObjectKey obj.key.toList with
    | .error e => .error e
    | .ok () =>
      if obj.key ∈ seen then .error ("manifest lists object key " ++ quoted obj.key ++ " twice")
      else validateObjectKeysFrom (obj.key :: seen) rest

def BackupManifest.validateObjectKeys (m : BackupManifest) : Except String Unit :=
  validateObjectKeysFrom [] m.objects

theorem validateObjectKeysFrom_ok {seen : List String} {objects : List ManifestObject}
    (valid : validateObjectKeysFrom seen objects = .ok ()) :
    (∀ obj ∈ objects, validateObjectKey obj.key.toList = .ok ()) ∧
      (objects.map (·.key)).Nodup ∧ ∀ obj ∈ objects, obj.key ∉ seen := by
  induction objects generalizing seen with
  | nil => simp
  | cons obj rest ih =>
    simp only [validateObjectKeysFrom] at valid
    split at valid
    · cases valid
    · rename_i usable
      split at valid
      · cases valid
      · rename_i fresh
        obtain ⟨keys, distinct, others⟩ := ih valid
        refine ⟨?_, ?_, ?_⟩
        · rintro other (_ | ⟨_, member⟩)
          · exact usable
          · exact keys other member
        · rw [map_cons, nodup_cons]
          refine ⟨fun member => ?_, distinct⟩
          obtain ⟨other, among, same⟩ := mem_map.mp member
          exact others other among (same ▸ mem_cons_self)
        · rintro other (_ | ⟨_, member⟩)
          · exact fresh
          · exact fun old => others other member (mem_cons_of_mem _ old)

theorem validateObjectKeysFrom_of {seen : List String} {objects : List ManifestObject}
    (keys : ∀ obj ∈ objects, validateObjectKey obj.key.toList = .ok ())
    (distinct : (objects.map (·.key)).Nodup) (fresh : ∀ obj ∈ objects, obj.key ∉ seen) :
    validateObjectKeysFrom seen objects = .ok () := by
  induction objects generalizing seen with
  | nil => rfl
  | cons obj rest ih =>
    rw [map_cons, nodup_cons] at distinct
    simp only [validateObjectKeysFrom, keys obj mem_cons_self, if_neg (fresh obj mem_cons_self)]
    refine ih (fun other member => keys other (mem_cons_of_mem _ member)) distinct.2
      fun other member old => ?_
    rcases mem_cons.mp old with same | earlier
    · exact distinct.1 (same ▸ mem_map_of_mem member)
    · exact fresh other (mem_cons_of_mem _ member) earlier

structure ManifestExpectation.Meets (exp : ManifestExpectation) (m : BackupManifest) : Prop where
  database : exp.database ≠ "" → m.database = exp.database
  cubridVersion : exp.cubridVersion ≠ "" →
    engineSeries m.cubridVersion ≠ "" ∧ engineSeries m.cubridVersion =
      engineSeries exp.cubridVersion
  level : ∀ level, exp.level = some level → m.level = level
  sourceRole : exp.requireSourceRole ≠ "" → m.sourceRole = exp.requireSourceRole
  sourceInstance : exp.sourceInstance ≠ "" → m.sourceInstance = exp.sourceInstance
  clusterUID : exp.clusterUID ≠ "" → m.clusterUID = exp.clusterUID

theorem BackupManifest.verify_of {m : BackupManifest} {exp : ManifestExpectation}
    (meets : exp.Meets m) (version : m.manifestVersion = InstanceManager.manifestVersion)
    (objects : m.objects ≠ []) : m.verify exp = .ok () := by
  unfold verify
  rw [if_neg (not_not.mpr version), if_neg fun wrong => wrong.2 (meets.database wrong.1),
    if_neg fun wrong => wrong.2.elim (meets.cubridVersion wrong.1).1 fun differs =>
      differs (meets.cubridVersion wrong.1).2,
    if_neg fun wrong => ?_, if_neg fun wrong => wrong.2 (meets.sourceRole wrong.1),
    if_neg fun wrong => wrong.2 (meets.sourceInstance wrong.1),
    if_neg fun wrong => wrong.2 (meets.clusterUID wrong.1), if_neg objects]
  obtain ⟨level, expected, differs⟩ := (Option.any_eq_true _ _).mp wrong
  exact of_decide_eq_true differs (meets.level level expected)

def ManifestObject.path (obj : ManifestObject) : List Text := Path.elements obj.key.toList

/-- A key that passes is clean, relative, below backup, and free of dots. -/
structure UsableKey (key : Text) : Prop where
  relative : Path.isAbs key = false
  clean : Path.clean key = key
  below : belowObjectKeyRoot key = true
  dots : ∀ e ∈ Path.elements key, e ≠ ['.'] ∧ e ≠ ['.', '.']

theorem validateObjectKey_usable {key : Text} (valid : validateObjectKey key = .ok ()) :
    UsableKey key := by
  unfold validateObjectKey at valid
  split at valid
  · cases valid
  split at valid
  · cases valid
  rename_i _ clean
  split at valid
  · cases valid
  rename_i _ below
  split at valid
  · cases valid
  rename_i _ plain
  simp only [not_or, Bool.not_eq_true, not_not] at clean plain
  refine ⟨clean.1, clean.2, by simpa using below, fun e member => ?_⟩
  have among := mem_of_mem_filter member
  constructor
  · rintro rfl
    exact plain.2 among
  · rintro rfl
    exact plain.1 among

theorem validateObjectKey_ok {key : Text} (valid : validateObjectKey key = .ok ()) :
    (∃ rest, Path.elements key = objectKeyRoot :: rest) ∧ Path.join (Path.elements key) = key := by
  have usable := validateObjectKey_usable valid
  refine ⟨?_, Path.join_elements usable.relative usable.clean usable.dots⟩
  have below := usable.below
  simp only [belowObjectKeyRoot, decide_eq_true_eq] at below
  obtain ⟨rest, rfl⟩ := isPrefixOf_iff_prefix.mp below.1
  refine ⟨Path.elements rest, ?_⟩
  rw [append_assoc, singleton_append, Path.elements_append]
  rfl

theorem validateObjectKey_plain {key : Text} (valid : validateObjectKey key = .ok ()) :
    ∃ rest, key = Path.join (objectKeyRoot :: rest) ∧ rest ≠ [] ∧ ∀ e ∈ rest, Path.Plain e := by
  obtain ⟨⟨rest, parts⟩, whole⟩ := validateObjectKey_ok valid
  have usable := validateObjectKey_usable valid
  refine ⟨rest, by rw [← parts, whole], ?_, fun e member => ?_⟩
  · rintro rfl
    have below := usable.below
    rw [← whole, parts] at below
    revert below
    decide
  · have among : e ∈ Path.elements key := parts ▸ mem_cons_of_mem _ member
    obtain ⟨nonempty, single⟩ := Path.mem_elements among
    exact ⟨nonempty, single, usable.dots e among⟩

/-- The paths of a manifest's objects lie below backup, and no two objects have
    the same one. -/
theorem BackupManifest.validateObjectKeys_ok {m : BackupManifest}
    (valid : m.validateObjectKeys = .ok ()) :
    (∀ obj ∈ m.objects, ∃ rest, obj.path = objectKeyRoot :: rest) ∧
      ∀ first ∈ m.objects, ∀ second ∈ m.objects, first.path = second.path → first = second := by
  obtain ⟨keys, distinct, -⟩ := validateObjectKeysFrom_ok valid
  refine ⟨fun obj member => (validateObjectKey_ok (keys obj member)).1,
    fun first member second also same => ?_⟩
  have key : first.key.toList = second.key.toList := by
    rw [← (validateObjectKey_ok (keys first member)).2,
      ← (validateObjectKey_ok (keys second also)).2]
    exact congrArg Path.join same
  exact inj_on_of_nodup_map distinct member also (String.toList_inj.mp key)

end InstanceManager
