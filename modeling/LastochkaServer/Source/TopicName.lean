import LastochkaServer.Source.Credentials

/-!
# Names of topics

The names of topics and users as the server reads and makes them:
`server/store/types/types.go:101-117, 173-242, 295-313, 1374-1391` and `expandTopicName` of
`server/session.go:1327-1362`. A name is a text of Unicode characters, as both wire formats deliver
it; its first three bytes select the category.
-/

namespace LastochkaServer.Source

open Lib

variable {name p original s : String} {uid : Uid}

def hasPrefix (s p : String) : Bool := p.toList.isPrefixOf s.toList

/-- `len` of a string. -/
def byteLength (s : String) : Nat := (s.toList.map Char.utf8Size).sum

/-- The panics of `GetTopicCat`. -/
inductive NamePanic
  /-- `name[:3]` of a name of fewer than three bytes -/
  | sliceBounds
  /-- `invalid topic type for name` -/
  | invalidTopicType (name : String)
  deriving DecidableEq, Repr

def getTopicCat (name : String) : Except NamePanic TopicCat :=
  if byteLength name < 3 then .error .sliceBounds
  else if hasPrefix name "usr" then .ok .me
  else if hasPrefix name "p2p" then .ok .p2p
  else if hasPrefix name "grp" || hasPrefix name "chn" then .ok .grp
  else if hasPrefix name "fnd" then .ok .fnd
  else if hasPrefix name "sys" then .ok .sys
  else if hasPrefix name "slf" then .ok .slf
  else .error (.invalidTopicType name)

/-- The name starts with one of the prefixes that `GetTopicCat` knows. -/
def recognised (name : String) : Bool :=
  ["usr", "p2p", "grp", "chn", "fnd", "sys", "slf"].any (hasPrefix name)

theorem hasPrefix_iff : hasPrefix s p ↔ p.toList <+: s.toList :=
  List.isPrefixOf_iff_prefix

@[simp] theorem hasPrefix_append (p s : String) : hasPrefix (p ++ s) p = true := by
  rw [hasPrefix_iff, String.toList_append]
  exact List.prefix_append _ _

theorem length_le_byteLength (s : String) : s.toList.length ≤ byteLength s := by
  unfold byteLength
  induction s.toList with
  | nil => simp
  | cons c rest ih =>
    have pos : 0 < c.utf8Size := c.utf8Size_pos
    rw [List.length_cons, List.map_cons, List.sum_cons]
    omega

theorem recognised_of_hasPrefix (known : p ∈ ["usr", "p2p", "grp", "chn", "fnd", "sys", "slf"])
    (starts : hasPrefix name p) : recognised name :=
  List.any_eq_true.mpr ⟨p, known, starts⟩

theorem recognised_long (known : recognised name) : 3 ≤ byteLength name := by
  obtain ⟨p, mem, starts⟩ := List.any_eq_true.mp known
  have short : p.toList.length ≤ name.toList.length := (hasPrefix_iff.mp starts).length_le
  have three : ∀ q ∈ ["usr", "p2p", "grp", "chn", "fnd", "sys", "slf"], q.toList.length = 3 := by
    decide
  exact ((three p mem).symm.trans_le short).trans (length_le_byteLength name)

theorem getTopicCat_ok_iff : (∃ cat, getTopicCat name = .ok cat) ↔ recognised name := by
  constructor
  · rintro ⟨cat, found⟩
    by_contra unknown
    simp only [recognised, List.any_cons, List.any_nil, Bool.or_eq_true, Bool.false_eq_true, or_false,
      not_or, Bool.not_eq_true] at unknown
    simp only [getTopicCat, unknown, Bool.false_eq_true, Bool.or_self, if_false] at found
    split at found <;> cases found
  · intro known
    have long : ¬ byteLength name < 3 := Nat.not_lt.mpr (recognised_long known)
    simp only [getTopicCat, if_neg long]
    simp only [recognised, List.any_cons, List.any_nil, Bool.or_false] at known
    split_ifs <;> first | exact ⟨_, rfl⟩ | simp_all

def prefixId (uid : Uid) (p : String) : String := if uid = 0 then "" else p ++ uidText uid

def userId (uid : Uid) : String := prefixId uid "usr"

def fndName (uid : Uid) : String := prefixId uid "fnd"

def slfName (uid : Uid) : String := prefixId uid "slf"

/-- `ParseUid`. In a text of eleven bytes a character outside the alphabet leaves fewer than eight
decoded bytes. -/
def parseUid (text : List Char) : Uid :=
  if text.length = 11 then
    match Bytes.decodeBase64 text with
    | some bytes => UInt64.ofNat (Bytes.decodeLE (bytes.take 8))
    | none => 0
  else 0

def parseUserId (s : String) : Uid := if hasPrefix s "usr" then parseUid (s.toList.drop 3) else 0

def p2pName (uid u2 : Uid) : String :=
  if uid = 0 ∨ u2 = 0 then ""
  else if uid < u2 then
    "p2p" ++ String.ofList (Bytes.base64 (Bytes.encodeLE 8 uid.toNat ++ Bytes.encodeLE 8 u2.toNat))
  else if u2 < uid then
    "p2p" ++ String.ofList (Bytes.base64 (Bytes.encodeLE 8 u2.toNat ++ Bytes.encodeLE 8 uid.toNat))
  else ""

theorem parseUid_uidText (uid : Uid) : parseUid (uidText uid).toList = uid := by
  unfold uidText
  split_ifs with zero
  · exact zero.symm
  · have length : (Bytes.base64 (Bytes.encodeLE 8 uid.toNat)).length = 11 := by
      rw [Bytes.base64_length, Bytes.encodeLE_length]
    rw [String.toList_ofList, parseUid, if_pos length, Bytes.decodeBase64_base64]
    dsimp only
    rw [List.take_of_length_le (Bytes.encodeLE_length 8 uid.toNat).le, Bytes.word_encodeLE]

theorem parseUserId_userId (someone : uid ≠ 0) : parseUserId (userId uid) = uid := by
  have text : (userId uid).toList.drop 3 = (uidText uid).toList := by
    rw [userId, prefixId, if_neg someone, String.toList_append]
    exact List.drop_left' (by decide)
  have starts : hasPrefix (userId uid) "usr" := by
    rw [userId, prefixId, if_neg someone]
    exact hasPrefix_append _ _
  rw [parseUserId, if_pos starts, text, parseUid_uidText]

theorem hasPrefix_usr_of_parse (someone : parseUserId s ≠ 0) : hasPrefix s "usr" := by
  by_contra other
  rw [parseUserId, if_neg other] at someone
  exact someone rfl

theorem prefixId_recognised (someone : uid ≠ 0)
    (known : p ∈ ["usr", "p2p", "grp", "chn", "fnd", "sys", "slf"]) :
    recognised (prefixId uid p) := by
  rw [prefixId, if_neg someone]
  exact recognised_of_hasPrefix known (hasPrefix_append p _)

theorem p2pName_recognised {u2 : Uid} (one : uid ≠ 0) (two : u2 ≠ 0) (apart : u2 ≠ uid) :
    recognised (p2pName uid u2) := by
  rw [p2pName, if_neg (not_or.mpr ⟨one, two⟩)]
  by_cases less : uid < u2
  · rw [if_pos less]
    exact recognised_of_hasPrefix (by decide) (hasPrefix_append "p2p" _)
  · have greater : u2 < uid := UInt64.lt_of_le_of_ne (UInt64.not_lt.mp less) apart
    rw [if_neg less, if_pos greater]
    exact recognised_of_hasPrefix (by decide) (hasPrefix_append "p2p" _)

/-- `IsChannel`. -/
def isChannelName (name : String) : Bool := hasPrefix name "chn"

/-- `ChnToGrp`; `none` is the empty string of the source. -/
def chnNameToGrp (name : String) : Option String :=
  if hasPrefix name "chn" then some ("grp" ++ String.ofList (name.toList.drop 3))
  else if hasPrefix name "grp" then some name
  else none

/-- The replies of `expandTopicName` to a name that it refuses. -/
inductive NameRefusal
  | malformed | permissionDenied
  deriving DecidableEq, Repr

/-- `expandTopicName`: the name to route to, for the user `asUser`. -/
def expandTopicName (asUser original : String) : Except NameRefusal String :=
  if original = "" then .error .malformed
  else if original = "me" then .ok asUser
  else if original = "fnd" then .ok (fndName (parseUserId asUser))
  else if original = "slf" then .ok (slfName (parseUserId asUser))
  else if hasPrefix original "usr" then
    let uid1 := parseUserId asUser
    let uid2 := parseUserId original
    if uid2 = 0 then .error .malformed
    else if uid2 = uid1 then .error .permissionDenied
    else .ok (p2pName uid1 uid2)
  else
    match chnNameToGrp original with
    | some grp => .ok grp
    | none => .ok original

/-- What a client may call a topic that has a category: `me`, or a name with a recognised prefix. -/
def categorised (original : String) : Bool := original == "me" || recognised original

/-- A name with a category is refused or expanded to a recognised one. -/
theorem expandTopicName_categorised {asUser : String} (someone : parseUserId asUser ≠ 0)
    (known : categorised original) (expanded : expandTopicName asUser original = .ok name) :
    recognised name := by
  unfold expandTopicName at expanded
  dsimp only at expanded
  split_ifs at expanded with _ me fnd slf usr zero self
  · cases expanded
    exact recognised_of_hasPrefix (by decide) (hasPrefix_usr_of_parse someone)
  · cases expanded
    exact prefixId_recognised someone (by decide)
  · cases expanded
    exact prefixId_recognised someone (by decide)
  · cases expanded
    exact p2pName_recognised someone zero self
  · have named : recognised original = true := by simpa [categorised, me] using known
    unfold chnNameToGrp at expanded
    split_ifs at expanded
    · cases expanded
      exact recognised_of_hasPrefix (by decide) (hasPrefix_append "grp" _)
    · cases expanded
      exact named
    · cases expanded
      exact named

theorem expandTopicName_uncategorised {asUser : String} (present : original ≠ "")
    (unknown : categorised original = false) : expandTopicName asUser original = .ok original := by
  simp only [categorised, recognised, List.any_cons, List.any_nil, Bool.or_eq_false_iff,
    beq_eq_false_iff_ne] at unknown
  obtain ⟨me, usr, -, grp, chn, fnd, -, slf, -⟩ := unknown
  have notFnd : original ≠ "fnd" := by
    rintro rfl
    exact absurd fnd (by decide)
  have notSlf : original ≠ "slf" := by
    rintro rfl
    exact absurd slf (by decide)
  simp [expandTopicName, chnNameToGrp, present, me, notFnd, notSlf, usr, grp, chn]

theorem uncategorised_unrecognised (unknown : categorised original = false) :
    recognised original = false := (Bool.or_eq_false_iff.mp unknown).2

end LastochkaServer.Source
