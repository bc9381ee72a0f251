import CubridOperator.Foundation.Path

/-!
What a restore asks for and the checks on it that read nothing.
-/
namespace InstanceManager
open Foundation

/-- The form `%q` of a text of printable characters. -/
def quoted (s : String) : String :=
  "\"" ++ String.ofList (s.toList.flatMap fun c => if c ∈ ['\\', Char.ofNat 34] then ['\\', c]
    else [c]) ++ "\""

def isLetter (c : Char) : Bool := 'a' ≤ c ∧ c ≤ 'z' ∨ 'A' ≤ c ∧ c ≤ 'Z'

def isDigit (c : Char) : Bool := '0' ≤ c ∧ c ≤ '9'

/-- A letter, then letters, digits or underscores, 17 characters at most. -/
def isDatabaseName (s : String) : Bool :=
  match s.toList with
  | [] => false
  | c :: rest => isLetter c ∧ rest.length ≤ 16 ∧ rest.all fun d => isLetter d ∨ isDigit d ∨ d = '_'

def isHostChar (c : Char) : Bool := 'a' ≤ c ∧ c ≤ 'z' ∨ isDigit c

/-- A DNS label: 63 characters at most, with no hyphen at either end. -/
def isHostLabel (s : String) : Bool :=
  let cs := s.toList
  cs ≠ [] ∧ cs.length ≤ 63 ∧ (cs.all fun c => isHostChar c ∨ c = '-') ∧
    cs.head? ≠ some '-' ∧ cs.getLast? ≠ some '-'

/-- One path element: no separator and no "..". -/
def isStagingName (cs : Text) : Bool :=
  match cs with
  | [] => false
  | c :: rest => (isLetter c ∨ isDigit c) ∧
      rest.all fun d => isLetter d ∨ isDigit d ∨ d = '.' ∨ d = '_' ∨ d = '-'

def isDecimal (cs : Text) : Bool := cs ≠ [] ∧ cs.all isDigit

/-- The series of an engine version, "11.4" of "11.4.6.1963"; empty when the
    version has no numeric major and minor. -/
def engineSeries (version : String) : String :=
  match (Text.trimSpace version.toList).splitOn '.' with
  | major :: minor :: _ =>
    if isDecimal major ∧ isDecimal minor then String.ofList (major ++ '.' :: minor) else ""
  | _ => ""

def checkRestoreEngine (engine declared : String) : Except String Unit :=
  if engineSeries engine = "" then
    .error ("the engine version of this member is not known (" ++ quoted engine ++
      "); a restore needs it to check the artifact (ADR-0011)")
  else if declared ≠ "" ∧ engineSeries declared ≠ engineSeries engine then
    .error ("this member runs engine " ++ engine ++ ", which is not of the declared version " ++
      quoted declared)
  else .ok ()

structure RestoreRequest where
  database : String
  bucket : String
  pathPrefix : String
  expectedCubridVersion : String := ""
  stagingDir : String
  targetDir : String
  seedFromMaster : String := ""
  expectedClusterUID : String := ""
  deriving DecidableEq

structure RestoreRoots where
  target : String
  staging : String
  host : String := ""
  engineVersion : String := ""

def isCleanAbsolute (dir : Text) : Bool := Path.isAbs dir ∧ Path.clean dir = dir ∧ dir ≠ ['/']

def validateRestoreRequest (req : RestoreRequest) : Except String Unit :=
  if req.database = "" ∨ req.bucket = "" ∨ req.pathPrefix = "" ∨ req.stagingDir = "" ∨
    req.targetDir = "" then
    .error "database, bucket, prefix, stagingDir and targetDir are required"
  else if !isDatabaseName req.database then
    .error ("database name " ++ quoted req.database ++ " is not a plain identifier")
  else if req.seedFromMaster ≠ "" ∧ !isHostLabel req.seedFromMaster then
    .error ("seedFromMaster " ++ quoted req.seedFromMaster ++ " is not a host name (a DNS label)")
  else if !isCleanAbsolute req.targetDir.toList then
    .error ("targetDir " ++ quoted req.targetDir ++
      " must be a clean absolute path other than the root")
  else if !isCleanAbsolute req.stagingDir.toList then
    .error ("stagingDir " ++ quoted req.stagingDir ++
      " must be a clean absolute path other than the root")
  else if Path.within req.stagingDir.toList req.targetDir.toList ∨
      Path.within req.targetDir.toList req.stagingDir.toList then
    .error ("stagingDir " ++ quoted req.stagingDir ++ " and targetDir " ++ quoted req.targetDir ++
      " must not contain each other")
  else .ok ()

def confine (req : RestoreRequest) (roots : RestoreRoots) : Except String (String × String) :=
  if !isCleanAbsolute roots.target.toList then
    .error ("restore root " ++ quoted roots.target ++ " is not configured as a clean absolute path")
  else if !isCleanAbsolute roots.staging.toList then
    .error ("restore root " ++ quoted roots.staging ++
      " is not configured as a clean absolute path")
  else if Path.clean req.targetDir.toList ≠ roots.target.toList then
    .error ("targetDir " ++ quoted req.targetDir ++ " must be the database root " ++
      quoted roots.target)
  else
    let staging := Path.clean req.stagingDir.toList
    let name := Path.base staging
    if Path.dir staging ≠ roots.staging.toList ∨ !isStagingName name then
      .error ("stagingDir " ++ quoted req.stagingDir ++ " must be one directory directly below " ++
        quoted roots.staging)
    else .ok (roots.target, roots.staging ++ "/" ++ String.ofList name)

end InstanceManager
