import CubridOperator.Foundation.Regex
import CubridOperator.InstanceManager.Manifest

/-!
The URI of a backup's manifest in the one form that a recovery accepts,
`s3://<bucket>/<prefix>/manifest.json`, by the API's patterns and by a plain
grammar.
-/
namespace Controller
open Foundation InstanceManager List

def manifestURIMaxLength : Nat := 1093

def isBucketEnd (c : Char) : Bool := 'a' ≤ c ∧ c ≤ 'z' ∨ isDigit c

def isBucketChar (c : Char) : Bool := isBucketEnd c ∨ c = '.' ∨ c = '-'

-- [:space:] and [:cntrl:], which are classes of ASCII.
def isAsciiSpace (c : Char) : Bool := 9 ≤ c.toNat ∧ c.toNat ≤ 13 ∨ c = ' '

def isAsciiControl (c : Char) : Bool := c.toNat ≤ 31 ∨ c.toNat = 127

/-- `[^/?#%[:space:][:cntrl:]]` -/
def isKeyChar (c : Char) : Bool := c ∉ ['/', '?', '#', '%'] ∧ !isAsciiSpace c ∧ !isAsciiControl c

/-- `[^./?#%[:space:][:cntrl:]]` -/
def isUndottedKeyChar (c : Char) : Bool := c ≠ '.' ∧ isKeyChar c

def s3BucketPattern : Regex :=
  .seq (.one isBucketEnd) (.seq ((Regex.one isBucketChar).between 1 61) (.one isBucketEnd))

def s3BucketAdjacentDotsPattern : Regex := Regex.literal "..".toList

def s3KeySegmentPattern : Regex :=
  .alt ((Regex.one isKeyChar).atLeast 3)
    (.alt (.seq (.one isUndottedKeyChar) ((Regex.one isKeyChar).upTo 1))
      (.seq (.one (· = '.')) (.one isUndottedKeyChar)))

def manifestURIPattern : Regex :=
  .seq (Regex.literal "s3://".toList) (.seq s3BucketPattern
    (.seq ((Regex.seq (.one (· = '/')) s3KeySegmentPattern).atLeast 1)
      (Regex.literal "/manifest.json".toList)))

def manifestURIBucketAdjacentDotsPattern : Regex :=
  .seq (Regex.literal "s3://".toList) (.seq (.star (.one (· ≠ '/'))) s3BucketAdjacentDotsPattern)

def manifestURIParts (uri : Text) : Option (Text × Text) :=
  if uri.length > manifestURIMaxLength ∨ !manifestURIPattern.matchesAll uri ∨
      manifestURIBucketAdjacentDotsPattern.matchesFront uri then none
  else
    let (bucket, key) := Text.cut (Text.trimPrefix uri "s3://".toList) '/'
    some (bucket, Text.trimSuffix key ('/' :: manifestObjectName.toList))

def parseManifestURI (uri : String) : Except String (String × String) :=
  match manifestURIParts uri.toList with
  | none =>
      .error ("manifestUri " ++ quoted uri ++
        " is not of the form s3://<bucket>/<prefix>/manifest.json " ++
      "accepted for a recovery (ADR-0008)")
  | some (bucket, pathPrefix) => .ok (String.ofList bucket, String.ofList pathPrefix)

def startedManifestLocation (uri : String) : Except String (String × String) :=
  let refused :=
    .error ("manifestUri " ++ quoted uri ++ " is not an s3:// URI with a bucket and a key")
  if !"s3://".toList.isPrefixOf uri.toList then refused
  else
    let rest := uri.toList.drop 5
    let bucket := rest.takeWhile (· ≠ '/')
    let key := (rest.drop bucket.length).drop 1
    if bucket = [] ∨ key = [] then refused
    else if (key.splitOn '/').any fun s => s = [] ∨ s = ['.'] ∨ s = ['.', '.'] then
      .error ("manifestUri " ++ quoted uri ++
        " has an empty, \".\" or \"..\" segment in its key " ++
        quoted (String.ofList key))
    else
      let pathPrefix := Path.dir key
      let read := Path.joined pathPrefix manifestObjectName.toList
      if read ≠ key then
        .error ("manifestUri " ++ quoted uri ++ " names the object " ++ quoted
          (String.ofList key) ++
          ", but the restore started for it reads " ++ quoted (String.ofList read))
      else .ok (String.ofList bucket, String.ofList pathPrefix)

section Grammar

structure IsBucket (bucket : Text) : Prop where
  least : 3 ≤ bucket.length
  most : bucket.length ≤ 63
  allowed : ∀ c ∈ bucket, isBucketChar c = true
  starts : ∃ c rest, bucket = c :: rest ∧ isBucketEnd c = true
  ends : ∃ front c, bucket = front ++ [c] ∧ isBucketEnd c = true

structure IsKeySegment (segment : Text) : Prop where
  nonempty : segment ≠ []
  here : segment ≠ ['.']
  parent : segment ≠ ['.', '.']
  allowed : ∀ c ∈ segment, isKeyChar c = true

structure NamesManifest (uri bucket : Text) (segments : List Text) : Prop where
  written : uri = "s3://".toList ++ bucket ++ '/' :: Path.join
    (segments ++ [manifestObjectName.toList])
  short : uri.length ≤ manifestURIMaxLength
  named : IsBucket bucket
  separate : ¬ "..".toList <:+: bucket
  below : segments ≠ []
  each : ∀ segment ∈ segments, IsKeySegment segment

variable {w bucket : Text} {segments : List Text}

theorem mem_s3BucketPattern : w ∈ s3BucketPattern.language ↔ IsBucket w := by
  simp only [s3BucketPattern, Regex.mem_seq, Regex.mem_one,
    Regex.mem_between_one (show 1 ≤ 61 by decide)]
  constructor
  · rintro ⟨-, ⟨c, first, rfl⟩, -, ⟨u, ⟨least, most, middle⟩, -, ⟨d, last, rfl⟩, rfl⟩, rfl⟩
    have ends : ∀ {c}, isBucketEnd c = true → isBucketChar c = true := by
      intro c is
      simp [isBucketChar, is]
    constructor
    · simp
      omega
    · simp
      omega
    · intro e member
      simp only [cons_append, nil_append, mem_cons, mem_append, not_mem_nil, or_false] at member
      rcases member with rfl | member | rfl
      · exact ends first
      · exact middle e member
      · exact ends last
    · exact ⟨c, u ++ [d], rfl, first⟩
    · exact ⟨c :: u, d, rfl, last⟩
  · intro is
    obtain ⟨c, rest, whole, first⟩ := is.starts
    obtain ⟨front, d, same, last⟩ := is.ends
    obtain ⟨least, most, allowed⟩ := And.intro is.least (And.intro is.most is.allowed)
    subst whole
    cases front with
    | nil =>
      have size := congrArg List.length same
      simp only [length_cons, nil_append, length_nil] at size least
      omega
    | cons b front =>
      simp only [cons_append, cons.injEq] at same
      obtain ⟨rfl, rfl⟩ := same
      simp only [length_cons, length_append, length_nil] at least most
      refine ⟨[c], ⟨c, first, rfl⟩, front ++ [d],
        ⟨front, ⟨by omega, by omega, ?_⟩, [d], ⟨d, last, rfl⟩, rfl⟩, rfl⟩
      intro e member
      exact allowed e (mem_cons_of_mem c (mem_append_left [d] member))

theorem isUndottedKeyChar_iff {c : Char} :
    isUndottedKeyChar c = true ↔ c ≠ '.' ∧ isKeyChar c = true := by
  simp [isUndottedKeyChar]

theorem isKeyChar_dot : isKeyChar '.' = true := by decide

theorem slash_notMem_segment {segment : Text} (is : IsKeySegment segment) : '/' ∉ segment := by
  intro member
  exact absurd (is.allowed '/' member) (by decide)

theorem IsKeySegment.plain {segment : Text} (is : IsKeySegment segment) : Path.Plain segment :=
  ⟨is.nonempty, slash_notMem_segment is, is.here, is.parent⟩

/-- The pattern tells the dot names apart by length: they are the only excluded
    segments of one and of two characters. -/
theorem mem_s3KeySegmentPattern : w ∈ s3KeySegmentPattern.language ↔ IsKeySegment w := by
  simp only [s3KeySegmentPattern, Regex.mem_alt, Regex.mem_seq, Regex.mem_one,
    Regex.mem_atLeast_one, Regex.mem_upTo_one, isUndottedKeyChar_iff, decide_eq_true_eq]
  constructor
  · rintro (⟨long, allowed⟩ | ⟨-, ⟨c, ⟨other, first⟩, rfl⟩, v, ⟨-, second⟩, rfl⟩
      | ⟨-, ⟨-, rfl, rfl⟩, -, ⟨d, ⟨other, second⟩, rfl⟩, rfl⟩)
    · constructor
      · rintro rfl
        simp at long
      · rintro rfl
        simp at long
      · rintro rfl
        simp at long
      · exact allowed
    · constructor
      · simp
      · simp [other]
      · simp [other]
      · intro e member
        rcases mem_cons.mp member with rfl | member
        · exact first
        · exact second e member
    · constructor
      · simp
      · simp
      · simp [other]
      · simp [isKeyChar_dot, second]
  · intro is
    rcases w with _ | ⟨c, _ | ⟨d, _ | ⟨e, more⟩⟩⟩
    · exact absurd rfl is.nonempty
    · have other : c ≠ '.' := fun same => is.here (by rw [same])
      exact .inr (.inl ⟨[c], ⟨c, ⟨other, is.allowed c (by simp)⟩, rfl⟩, [], by simp⟩)
    · by_cases dot : c = '.'
      · have other : d ≠ '.' := fun same => is.parent (by rw [dot, same])
        exact .inr (.inr ⟨[c], ⟨c, dot, rfl⟩, [d], ⟨d, ⟨other, is.allowed d (by simp)⟩, rfl⟩, rfl⟩)
      · exact .inr (.inl ⟨[c], ⟨c, ⟨dot, is.allowed c (by simp)⟩, rfl⟩, [d],
          ⟨by simp, by simpa using is.allowed d (by simp)⟩, rfl⟩)
    · exact .inl ⟨by simp, is.allowed⟩

theorem mem_slashedSegment :
    w ∈ (Regex.seq (.one (· = '/')) s3KeySegmentPattern).language ↔
    ∃ segment, IsKeySegment segment ∧ w = '/' :: segment := by
  simp only [Regex.mem_seq, Regex.mem_one, mem_s3KeySegmentPattern, decide_eq_true_eq]
  constructor
  · rintro ⟨-, ⟨-, rfl, rfl⟩, segment, is, rfl⟩
    exact ⟨segment, is, rfl⟩
  · rintro ⟨segment, is, rfl⟩
    exact ⟨['/'], ⟨'/', rfl, rfl⟩, segment, is, rfl⟩

theorem mem_slashedSegments :
    w ∈ ((Regex.seq (.one (· = '/')) s3KeySegmentPattern).atLeast 1).language ↔
      ∃ segments : List Text, segments ≠ [] ∧ w = '/' :: Path.join segments ∧
        ∀ segment ∈ segments, IsKeySegment segment := by
  simp only [Regex.mem_atLeast_once, mem_slashedSegment]
  constructor
  · rintro ⟨ws, some_, rfl, words⟩
    choose! segment is whole using words
    refine ⟨ws.map segment, by simpa using some_, ?_, ?_⟩
    · rw [← Path.flatMap_slash (by simpa using some_), flatMap_map, flatMap_def,
        map_congr_left fun u member => (whole u member).symm, map_id']
    · intro s member
      obtain ⟨u, inside, rfl⟩ := mem_map.mp member
      exact is u inside
  · rintro ⟨segments, some_, rfl, each⟩
    refine ⟨segments.map ('/' :: ·), by simpa using some_, ?_, ?_⟩
    · rw [← Path.flatMap_slash some_, flatMap_def]
    · intro u member
      obtain ⟨segment, inside, rfl⟩ := mem_map.mp member
      exact ⟨segment, each segment inside, rfl⟩

theorem mem_manifestURIPattern :
    w ∈ manifestURIPattern.language ↔ ∃ bucket segments, IsBucket bucket ∧ segments ≠ [] ∧
      (∀ segment ∈ segments, IsKeySegment segment) ∧
      w = "s3://".toList ++ bucket ++ '/' :: Path.join
      (segments ++ [manifestObjectName.toList]) := by
  simp only [manifestURIPattern, Regex.mem_seq, Regex.mem_literal, mem_s3BucketPattern,
    mem_slashedSegments]
  constructor
  · rintro ⟨-, rfl, -, ⟨bucket, is, -, ⟨-, ⟨segments, some_, rfl, each⟩, -, rfl, rfl⟩, rfl⟩, rfl⟩
    refine ⟨bucket, segments, is, some_, each, ?_⟩
    rw [Path.join_append _ some_, append_assoc]
    rfl
  · rintro ⟨bucket, segments, is, some_, each, rfl⟩
    refine ⟨_, rfl, _, ⟨bucket, is, _, ⟨_, ⟨segments, some_, rfl, each⟩, _, rfl, rfl⟩, rfl⟩, ?_⟩
    rw [Path.join_append _ some_, append_assoc]
    rfl

theorem IsBucket.slash_notMem (is : IsBucket bucket) : '/' ∉ bucket := by
  intro member
  exact absurd (is.allowed '/' member) (by decide)

theorem prefix_append_slash {piece front rest : Text} (single : '/' ∉ piece)
    (at_ : piece <+: front ++ '/' :: rest) : piece <+: front := by
  induction piece generalizing front with
  | nil => exact nil_prefix
  | cons c piece ih =>
    cases front with
    | nil =>
      rw [nil_append, cons_prefix_cons] at at_
      exact absurd at_.1.symm (fun same => single (same ▸ mem_cons_self))
    | cons d front =>
      rw [cons_append, cons_prefix_cons] at at_
      rw [cons_prefix_cons]
      exact ⟨at_.1, ih (fun member => single (mem_cons_of_mem c member)) at_.2⟩

theorem matchesFront_adjacentDots (single : '/' ∉ bucket) (rest : Text) :
    manifestURIBucketAdjacentDotsPattern.matchesFront
      ("s3://".toList ++ bucket ++ '/' :: rest) = true ↔ "..".toList <:+: bucket := by
  simp only [Regex.matchesFront_iff, manifestURIBucketAdjacentDotsPattern,
    s3BucketAdjacentDotsPattern, Regex.mem_seq, Regex.mem_literal, Regex.mem_star_one,
    decide_eq_true_eq]
  constructor
  · rintro ⟨-, ⟨-, rfl, -, ⟨v, free, -, rfl, rfl⟩, rfl⟩, at_⟩
    rw [append_assoc, prefix_append_right_inj] at at_
    have piece : '/' ∉ v ++ "..".toList := by
      intro member
      rcases mem_append.mp member with member | member
      · exact free '/' member rfl
      · exact absurd member (by decide)
    obtain ⟨last, whole⟩ := prefix_append_slash piece at_
    exact ⟨v, last, whole⟩
  · rintro ⟨v, last, rfl⟩
    refine ⟨_, ⟨_, rfl, _, ⟨v, ?_, _, rfl, rfl⟩, rfl⟩, ?_⟩
    · intro c member same
      exact single (by simp [same ▸ member])
    · rw [append_assoc, prefix_append_right_inj, append_assoc]
      exact prefix_append _ _

theorem manifestURIParts_of_names {uri : Text} (names : NamesManifest uri bucket segments) :
    manifestURIParts uri = some (bucket, Path.join segments) := by
  have single := names.named.slash_notMem
  have matched : manifestURIPattern.matchesAll uri = true :=
    Regex.matchesAll_iff.mpr (mem_manifestURIPattern.mpr
      ⟨bucket, segments, names.named, names.below, names.each, names.written⟩)
  have separate : manifestURIBucketAdjacentDotsPattern.matchesFront uri = false := by
    rw [Bool.eq_false_iff, names.written]
    exact fun found => names.separate ((matchesFront_adjacentDots single _).mp found)
  have accepted : ¬ (uri.length > manifestURIMaxLength ∨ !manifestURIPattern.matchesAll uri ∨
      manifestURIBucketAdjacentDotsPattern.matchesFront uri) := by
    simp [matched, separate, names.short]
  rw [manifestURIParts, if_neg accepted, names.written, append_assoc, Text.trimPrefix_append,
    Text.cut_append _ single, Path.join_append _ names.below]
  exact congrArg (fun trimmed => some (bucket, trimmed)) (Text.trimSuffix_append _ _)

theorem names_of_manifestURIParts {uri parsed pathPrefix : Text}
    (accepted : manifestURIParts uri = some (parsed, pathPrefix)) :
    ∃ segments, NamesManifest uri parsed segments ∧ pathPrefix = Path.join segments := by
  have passed : ¬ (uri.length > manifestURIMaxLength ∨ !manifestURIPattern.matchesAll uri ∨
      manifestURIBucketAdjacentDotsPattern.matchesFront uri) := by
    intro refused
    rw [manifestURIParts, if_pos refused] at accepted
    cases accepted
  simp only [not_or, Nat.not_lt, gt_iff_lt, Bool.not_eq_true', Bool.not_eq_false,
    Bool.not_eq_true] at passed
  obtain ⟨short, matched, separate⟩ := passed
  obtain ⟨bucket, segments, is, some_, each, written⟩ :=
    mem_manifestURIPattern.mp (Regex.matchesAll_iff.mp matched)
  have names : NamesManifest uri bucket segments := by
    refine ⟨written, short, is, ?_, some_, each⟩
    intro dots
    rw [written, (matchesFront_adjacentDots is.slash_notMem _).mpr dots] at separate
    cases separate
  rw [manifestURIParts_of_names names] at accepted
  cases accepted
  exact ⟨segments, names, rfl⟩

end Grammar

section Locations
variable {uri bucket pathPrefix : String} {segments : List Text}

theorem parseManifestURI_eq_ok :
    parseManifestURI uri = .ok (bucket, pathPrefix) ↔
      manifestURIParts uri.toList = some (bucket.toList, pathPrefix.toList) := by
  unfold parseManifestURI
  split
  · rename_i none
    simp [none]
  · rename_i b p some_
    rw [some_, Except.ok.injEq, Prod.mk.injEq, Option.some.injEq, Prod.mk.injEq,
      ← String.toList_inj, ← String.toList_inj, String.toList_ofList, String.toList_ofList]

theorem parseManifestURI_ok :
    parseManifestURI uri = .ok (bucket, pathPrefix) ↔
      ∃ segments, NamesManifest uri.toList bucket.toList segments ∧
        pathPrefix.toList = Path.join segments := by
  rw [parseManifestURI_eq_ok]
  constructor
  · intro parsed
    exact names_of_manifestURIParts parsed
  · rintro ⟨segments, names, whole⟩
    rw [whole]
    exact manifestURIParts_of_names names

theorem parseManifestURI_isOk :
    (parseManifestURI uri).isOk = true ↔ ∃ bucket segments,
    NamesManifest uri.toList bucket segments := by
  constructor
  · intro accepted
    cases parsed : parseManifestURI uri with
    | error why => simp [parsed, Except.isOk, Except.toBool] at accepted
    | ok location =>
      obtain ⟨segments, names, -⟩ := parseManifestURI_ok.mp parsed
      exact ⟨_, segments, names⟩
  · rintro ⟨bucket, segments, names⟩
    have parsed : parseManifestURI uri =
        .ok (String.ofList bucket, String.ofList (Path.join segments)) :=
      parseManifestURI_ok.mpr ⟨segments, by rwa [String.toList_ofList], String.toList_ofList⟩
    rw [parsed]
    rfl

theorem manifestObjectName_plain : Path.Plain manifestObjectName.toList := by decide

theorem NamesManifest.plain {uri bucket : Text} (names : NamesManifest uri bucket segments) :
    ∀ e ∈ segments, Path.Plain e :=
  fun e member => (names.each e member).plain

theorem NamesManifest.read {uri bucket : Text} (names : NamesManifest uri bucket segments) :
    Path.joined (Path.join segments) manifestObjectName.toList =
      Path.join (segments ++ [manifestObjectName.toList]) :=
  Path.joined_join_last names.plain manifestObjectName_plain

theorem splitOn_key (plain : ∀ e ∈ segments, Path.Plain e) :
    (Path.join (segments ++ [manifestObjectName.toList])).splitOn '/' = segments ++
    [manifestObjectName.toList] := by
  refine splitOn_intercalate '/' ?_ (by simp)
  intro e member
  rcases mem_append.mp member with member | member
  · exact (plain e member).2.1
  · exact mem_singleton.mp member ▸ manifestObjectName_plain.2.1

structure LocatesKey (uri bucket key : Text) : Prop where
  written : uri = "s3://".toList ++ bucket ++ '/' :: key
  single : '/' ∉ bucket
  named : bucket ≠ []
  keyed : key ≠ []
  plain : ∀ segment ∈ key.splitOn '/', Path.Plain segment

theorem odd_segment_iff (key : Text) :
    ((key.splitOn '/').any fun s => s = [] ∨ s = ['.'] ∨ s = ['.', '.']) = true ↔
      ¬ ∀ segment ∈ key.splitOn '/', Path.Plain segment := by
  simp only [any_eq_true, decide_eq_true_eq, not_forall, Path.Plain]
  constructor
  · rintro ⟨segment, member, odd⟩
    exact ⟨segment, member, by tauto⟩
  · rintro ⟨segment, member, odd⟩
    have single := Path.slash_not_mem_splitOn member
    exact ⟨segment, member, by tauto⟩

theorem startedManifestLocation_ok :
    startedManifestLocation uri = .ok (bucket, pathPrefix) ↔
      ∃ key, LocatesKey uri.toList bucket.toList key ∧ pathPrefix.toList = Path.dir key ∧
        Path.joined (Path.dir key) manifestObjectName.toList = key := by
  simp only [startedManifestLocation, Text.drop_length_takeWhile, odd_segment_iff]
  constructor
  · intro accepted
    split_ifs at accepted with foreign missing odd other
    rw [Except.ok.injEq, Prod.mk.injEq, ← String.toList_inj, ← String.toList_inj,
      String.toList_ofList, String.toList_ofList] at accepted
    rw [not_or] at missing
    obtain ⟨rest, whole⟩ : "s3://".toList <+: uri.toList := by simpa using foreign
    have dropped : uri.toList.drop 5 = rest := by rw [← whole]; rfl
    rw [dropped] at missing odd other accepted
    refine ⟨(Text.cut rest '/').2, ⟨?_, ?_, ?_, missing.2, odd⟩, accepted.2.symm, not_not.mp other⟩
    · have again : rest.takeWhile (· ≠ '/') ++ '/' :: (Text.cut rest '/').2 = rest :=
        Text.append_cut missing.2
      rw [← accepted.1, append_assoc, again, whole]
    · rw [← accepted.1]
      exact Text.not_mem_cut rest '/'
    · rw [← accepted.1]
      exact missing.1
  · rintro ⟨key, located, place, read⟩
    have front : "s3://".toList.isPrefixOf uri.toList = true := by
      rw [located.written, append_assoc]
      simp
    have dropped : uri.toList.drop 5 = bucket.toList ++ '/' :: key := by
      rw [located.written, append_assoc]
      rfl
    have cut := Text.cut_append key located.single
    have first : (bucket.toList ++ '/' :: key).takeWhile (· ≠ '/') = bucket.toList :=
      congrArg Prod.fst cut
    have second : ((bucket.toList ++ '/' :: key).dropWhile (· ≠ '/')).drop 1 = key :=
      congrArg Prod.snd cut
    have place' : String.ofList (Path.dir key) = pathPrefix := by rw [← place, String.ofList_toList]
    rw [dropped, first, second, if_neg (by rw [front]; decide),
      if_neg (by simp [located.named, located.keyed]), if_neg (not_not.mpr located.plain),
      if_neg (not_not.mpr read), String.ofList_toList, place']

theorem NamesManifest.started {uri bucket : String}
    (names : NamesManifest uri.toList bucket.toList segments) :
    startedManifestLocation uri = .ok (bucket, String.ofList (Path.join segments)) := by
  have dir : Path.dir (Path.join (segments ++ [manifestObjectName.toList])) = Path.join segments :=
    Path.dir_join names.plain names.below manifestObjectName_plain.2.1
  refine startedManifestLocation_ok.mpr
    ⟨_, ⟨names.written, names.named.slash_notMem, ?_, ?_, ?_⟩, ?_, ?_⟩
  · obtain ⟨c, rest, whole, -⟩ := names.named.starts
    rw [whole]
    exact cons_ne_nil c rest
  · rw [Path.join_append _ names.below]
    simp
  · intro segment member
    rw [splitOn_key names.plain] at member
    rcases mem_append.mp member with member | member
    · exact names.plain segment member
    · exact mem_singleton.mp member ▸ manifestObjectName_plain
  · rw [String.toList_ofList, dir]
  · rw [dir, names.read]

/-- A text is accepted as the URI of a manifest if and only if it has the plain
    form, and the key then read is the one written in it. An earlier release's
    parser agrees. -/
theorem manifestURI_names_object_read (uri : String) :
    ((parseManifestURI uri).isOk = true ↔ ∃ bucket segments,
      NamesManifest uri.toList bucket segments) ∧
    (∀ bucket pathPrefix, parseManifestURI uri = .ok (bucket, pathPrefix) →
      uri.toList = "s3://".toList ++ bucket.toList ++
        '/' :: Path.joined pathPrefix.toList manifestObjectName.toList ∧ '/' ∉ bucket.toList ∧
      startedManifestLocation uri = .ok (bucket, pathPrefix)) ∧
    (∀ bucket pathPrefix, startedManifestLocation uri = .ok (bucket, pathPrefix) →
      uri.toList = "s3://".toList ++ bucket.toList ++
        '/' :: Path.joined pathPrefix.toList manifestObjectName.toList ∧ '/' ∉ bucket.toList) := by
  refine ⟨parseManifestURI_isOk, ?_, ?_⟩
  · intro bucket pathPrefix parsed
    obtain ⟨segments, names, whole⟩ := parseManifestURI_ok.mp parsed
    refine ⟨?_, names.named.slash_notMem, ?_⟩
    · rw [whole, names.read]
      exact names.written
    · rw [names.started, ← whole, String.ofList_toList]
  · intro bucket pathPrefix accepted
    obtain ⟨key, located, place, read⟩ := startedManifestLocation_ok.mp accepted
    rw [place, read]
    exact ⟨located.written, located.single⟩

end Locations
end Controller
