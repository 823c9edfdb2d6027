import Mathlib.Data.BitVec

/-!
# Access modes

`AccessMode` of `server/store/types/types.go:533-850`: a Go `uint` whose low eight bits are the
permissions `JRWPASDO`, one bit above them marking an unset mode and one far above marking an
invalid one. Parsing, printing and the predicates are those of the source. `ApplyDelta` and
`Delta` are not modelled here.

Every permission test reduces to one bit of the word, so that the algebra of modes is the
library's algebra of `BitVec`.
-/

namespace LastochkaServer.Source

abbrev AccessMode := BitVec 64

namespace AccessMode

def modeJoin : AccessMode := 0x1
def modeRead : AccessMode := 0x2
def modeWrite : AccessMode := 0x4
def modePres : AccessMode := 0x8
def modeApprove : AccessMode := 0x10
def modeShare : AccessMode := 0x20
def modeDelete : AccessMode := 0x40
def modeOwner : AccessMode := 0x80

/-- Unknown or undefined mode, different from `modeNone`. -/
def modeUnset : AccessMode := 0x100
def modeNone : AccessMode := 0
def modeInvalid : AccessMode := 0x100000

def modeCPublic : AccessMode := modeJoin ||| modeRead ||| modeWrite ||| modePres ||| modeShare
def modeCMeFnd : AccessMode := modeJoin ||| modePres ||| modeShare
def modeCSelf : AccessMode := modeJoin ||| modeRead ||| modeWrite ||| modeDelete ||| modeOwner
def modeCP2P : AccessMode := modeJoin ||| modeRead ||| modeWrite ||| modePres ||| modeApprove
def modeCP2PD : AccessMode := modeCP2P ||| modeDelete
def modeCAuth : AccessMode := modeCP2P ||| modeCPublic
def modeCSys : AccessMode := modeJoin ||| modeRead ||| modeWrite ||| modePres ||| modeDelete
def modeCChnWriter : AccessMode := modeRead ||| modeWrite ||| modePres ||| modeShare
def modeCChnReader : AccessMode := modeJoin ||| modeRead ||| modePres

/-- All valid permission bits; the source spells the same word `ModeCFull`. -/
def modeBitmask : AccessMode :=
  modeJoin ||| modeRead ||| modeWrite ||| modePres ||| modeApprove ||| modeShare ||| modeDelete |||
    modeOwner

def modeCFull : AccessMode := modeBitmask

def isJoiner (m : AccessMode) : Bool := m &&& modeJoin != 0
def isOwner (m : AccessMode) : Bool := m &&& modeOwner != 0
def isApprover (m : AccessMode) : Bool := m &&& modeApprove != 0
def isAdmin (m : AccessMode) : Bool := m.isOwner || m.isApprover
def isSharer (m : AccessMode) : Bool := m.isAdmin || m &&& modeShare != 0
def isWriter (m : AccessMode) : Bool := m &&& modeWrite != 0
def isReader (m : AccessMode) : Bool := m &&& modeRead != 0
def isPresencer (m : AccessMode) : Bool := m &&& modePres != 0
def isDeleter (m : AccessMode) : Bool := m &&& modeDelete != 0

/-- The grant allows everything that is wanted. -/
def betterEqual (grant want : AccessMode) : Bool :=
  modeBitmask &&& grant &&& want == want

/-- The permission a letter of either case stands for. -/
def ofLetter : Char → Option AccessMode
  | 'J' | 'j' => some modeJoin
  | 'R' | 'r' => some modeRead
  | 'W' | 'w' => some modeWrite
  | 'A' | 'a' => some modeApprove
  | 'S' | 's' => some modeShare
  | 'D' | 'd' => some modeDelete
  | 'P' | 'p' => some modePres
  | 'O' | 'o' => some modeOwner
  | _ => none

/-- The loop of `ParseAcs`. An `N` ends it: what follows is not read. -/
def parseAcsFrom (m0 : AccessMode) : List Char → Except String AccessMode
  | [] => .ok m0
  | c :: rest =>
    match ofLetter c with
    | some bit => parseAcsFrom (m0 ||| bit) rest
    | none =>
      if c = 'N' ∨ c = 'n' then
        if m0 ≠ modeUnset then
          .error "AccessMode: access N cannot be combined with any other"
        else .ok modeNone
      else .error ("AccessMode: invalid character '" ++ String.singleton c ++ "'")

def parseAcs (text : String) : Except String AccessMode :=
  parseAcsFrom modeUnset text.toList

/-- `UnmarshalText`: an empty text leaves the mode as it was. -/
def unmarshalText (m : AccessMode) (text : String) : Except String AccessMode := do
  let m0 ← parseAcs text
  if m0 ≠ modeUnset then pure (m0 &&& modeBitmask) else pure m

def modeLetters : List Char := ['J', 'R', 'W', 'P', 'A', 'S', 'D', 'O']

/-- `MarshalText`; the only error is an invalid mode. -/
def marshalText (m : AccessMode) : Option (List Char) :=
  if m = modeNone then some ['N']
  else if m = modeInvalid then none
  else some ((modeLetters.zipIdx.filter fun (_, i) => m &&& (1 <<< i) != 0).map Prod.fst)

def string (m : AccessMode) : String :=
  match m.marshalText with
  | some letters => String.ofList letters
  | none => ""

variable (m : AccessMode)

private theorem and_twoPow_ne_zero (i : Nat) (h : i < 64) :
    (m &&& BitVec.twoPow 64 i != 0) = m.getLsbD i := by
  rw [BitVec.and_twoPow]
  cases bit : m.getLsbD i with
  | false => simp
  | true =>
    have nonzero : BitVec.twoPow 64 i ≠ 0 := by
      intro zero
      have := congrArg (BitVec.getLsbD · i) zero
      simp [h] at this
    simpa using nonzero

theorem isJoiner_eq : m.isJoiner = m.getLsbD 0 :=
  and_twoPow_ne_zero m 0 (by decide)

variable (m m' : AccessMode)

theorem isJoiner_or : (m ||| m').isJoiner = (m.isJoiner || m'.isJoiner) := by
  simp [isJoiner_eq]

theorem isJoiner_and : (m &&& m').isJoiner = (m.isJoiner && m'.isJoiner) := by
  simp [isJoiner_eq]

theorem isReader_eq : m.isReader = m.getLsbD 1 :=
  and_twoPow_ne_zero m 1 (by decide)

theorem isWriter_eq : m.isWriter = m.getLsbD 2 :=
  and_twoPow_ne_zero m 2 (by decide)

theorem isPresencer_eq : m.isPresencer = m.getLsbD 3 :=
  and_twoPow_ne_zero m 3 (by decide)

theorem isDeleter_eq : m.isDeleter = m.getLsbD 6 :=
  and_twoPow_ne_zero m 6 (by decide)

theorem isOwner_eq : m.isOwner = m.getLsbD 7 :=
  and_twoPow_ne_zero m 7 (by decide)

theorem isOwner_or : (m ||| m').isOwner = (m.isOwner || m'.isOwner) := by
  rw [isOwner_eq, isOwner_eq, isOwner_eq, BitVec.getLsbD_or]

theorem isOwner_and : (m &&& m').isOwner = (m.isOwner && m'.isOwner) := by
  rw [isOwner_eq, isOwner_eq, isOwner_eq, BitVec.getLsbD_and]

theorem isOwner_strip : (m &&& ~~~modeOwner).isOwner = false := by
  have bit : (~~~modeOwner).isOwner = false := by decide
  rw [isOwner_and, bit, Bool.and_false]

end AccessMode

end LastochkaServer.Source
