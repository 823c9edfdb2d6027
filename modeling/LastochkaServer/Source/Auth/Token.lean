import LastochkaServer.Lib.Bytes
import LastochkaServer.Source.Topic.State

/-!
# Security tokens

`auth.Rec` (`server/auth/auth.go`) and the authenticator of HMAC-signed tokens
(`server/auth/token/auth_token.go`). The MAC is a parameter; the time is in nanoseconds since the
epoch. Tags and the parameters for the creation of an account are left out of the record.
-/

namespace LastochkaServer.Source

open Lib

/-- `types.StoreError`, as far as authentication returns it. -/
inductive StoreError
  | internal | malformed | failed | duplicate | unsupported | expired | policy | credentials
  | notFound
  | permissionDenied | invalidResponse
  deriving DecidableEq, Repr

namespace Auth

/-- `auth.Level`. A token may carry any number up to `levelRoot`. -/
abbrev Level := Nat

def levelNone : Level := 0
def levelAnon : Level := 10
def levelAuth : Level := 20
def levelRoot : Level := 30

/-- `auth.Feature`, a set of bits. -/
abbrev Feature := BitVec 16

def featureValidated : Feature := 1
def featureNoLogin : Feature := 2

/-- The bit `FeatureNoLogin` is set: the record must not authenticate a session. -/
def noLogin (features : Feature) : Bool := features &&& featureNoLogin != 0

theorem noLogin_or_validated (features : Feature) :
    noLogin (features ||| featureValidated) = noLogin features := by
  have bit : (features ||| featureValidated) &&& featureNoLogin = features &&& featureNoLogin := by
    rw [BitVec.and_comm, BitVec.and_or_distrib_left]
    simp [featureNoLogin, featureValidated, BitVec.and_comm]
  rw [noLogin, noLogin, bit]

inductive ObjState
  | ok | suspended | deleted | undefined
  deriving DecidableEq, Repr

abbrev Time := Int
abbrev Duration := Int

def second : Duration := 1000000000
def hour : Duration := 3600 * second

structure Rec where
  uid : Uid
  authLevel : Level := levelNone
  lifetime : Duration := 0
  features : Feature := 0
  state : ObjState := .ok
  credential : String := ""

structure TokenLayout where
  uid : UInt64
  expires : BitVec 32
  authLevel : BitVec 16
  serialNumber : BitVec 16
  features : BitVec 16
  deriving DecidableEq

namespace TokenLayout

/-- `binary.Write` in little-endian order. -/
def bytes (tl : TokenLayout) : List UInt8 :=
  Bytes.encodeLE 8 tl.uid.toNat ++ Bytes.encodeLE 4 tl.expires.toNat ++
    Bytes.encodeLE 2 tl.authLevel.toNat ++ Bytes.encodeLE 2 tl.serialNumber.toNat ++
    Bytes.encodeLE 2 tl.features.toNat

/-- `binary.Read`, of a token that is long enough: the fields one after another. -/
def read (token : List UInt8) : TokenLayout where
  uid := .ofNat (Bytes.decodeLE (token.take 8))
  expires := .ofNat 32 (Bytes.decodeLE ((token.drop 8).take 4))
  authLevel := .ofNat 16 (Bytes.decodeLE (((token.drop 8).drop 4).take 2))
  serialNumber := .ofNat 16 (Bytes.decodeLE ((((token.drop 8).drop 4).drop 2).take 2))
  features := .ofNat 16 (Bytes.decodeLE (((((token.drop 8).drop 4).drop 2).drop 2).take 2))

/-- `binary.Size`. -/
def dataSize : Nat := 18

@[simp] theorem bytes_length (tl : TokenLayout) : tl.bytes.length = dataSize := by
  simp [bytes, dataSize]

/-- What is read back is what was written, whatever follows. -/
theorem read_bytes (tl : TokenLayout) (rest : List UInt8) : read (tl.bytes ++ rest) = tl := by
  have word (n : BitVec 16) : BitVec.ofNat 16 (n.toNat % 256 ^ 2) = n := by
    rw [Nat.mod_eq_of_lt (show n.toNat < 256 ^ 2 from n.isLt), BitVec.ofNat_toNat, BitVec.setWidth_eq]
  have expires : BitVec.ofNat 32 (tl.expires.toNat % 256 ^ 4) = tl.expires := by
    rw [Nat.mod_eq_of_lt (show tl.expires.toNat < 256 ^ 4 from tl.expires.isLt), BitVec.ofNat_toNat,
      BitVec.setWidth_eq]
  have uid : UInt64.ofNat (tl.uid.toNat % 256 ^ 8) = tl.uid := by
    rw [Nat.mod_eq_of_lt (show tl.uid.toNat < 256 ^ 8 from tl.uid.toNat_lt), UInt64.ofNat_toNat]
  unfold read bytes
  simp only [List.append_assoc, Bytes.decodeLE_take_encodeLE, Bytes.drop_encodeLE, uid, expires, word]

end TokenLayout

/-- HMAC-SHA-256, of a key and a message. -/
structure Hmac where
  sum : List UInt8 → List UInt8 → List UInt8
  length : ∀ key message, (sum key message).length = 32

/-- `configType`; both numbers are 64 bits wide. -/
structure TokenConfig where
  key : List UInt8
  serialNum : Int
  expireIn : Int

/-- `authenticator`, initialized. A signature has the size of a SHA-256 hash. -/
structure TokenAuth where
  mac : List UInt8 → List UInt8
  mac_length : ∀ message, (mac message).length = 32
  lifetime : Duration
  serialNumber : Int

namespace TokenAuth

/-- `Init` under `name` of an authenticator that has the name `current`, with a configuration that
has been parsed. The product of the lifetime may overflow. -/
def init (hmac : Hmac) (current name : String) (config : TokenConfig) : Except String TokenAuth :=
  if name = "" then .error "auth_token: authenticator name cannot be blank"
  else if current ≠ "" then .error ("auth_token: already initialized as " ++ current ++ "; " ++ name)
  else if config.key.length < 32 then .error "auth_token: the key is missing or too short"
  else if config.expireIn ≤ 0 then .error "auth_token: invalid expiration value"
  else
    .ok
      { mac := hmac.sum config.key
        mac_length := hmac.length config.key
        lifetime := (config.expireIn * second).bmod (2 ^ 64)
        serialNumber := config.serialNum }

/-- `hmac.Equal` of the signature of the token and that of its content. -/
def signed (ta : TokenAuth) (token : List UInt8) : Bool :=
  (token.drop TokenLayout.dataSize).take 32 == ta.mac (TokenLayout.read token).bytes

/-- `Authenticate`. Tokens never lead to a challenge. -/
def authenticate (ta : TokenAuth) (now : Time) (token : List UInt8) : Except StoreError Rec :=
  if token.length < TokenLayout.dataSize + 32 then .error .malformed
  else if !ta.signed token then .error .failed
  else
    let tl := TokenLayout.read token
    let expires : Time := tl.expires.toNat * second
    if levelRoot < tl.authLevel.toNat then .error .malformed
    else if (tl.serialNumber.toNat : Int) ≠ ta.serialNumber then .error .failed
    else if expires < now + second then .error .expired
    else
      .ok
        { uid := tl.uid
          authLevel := tl.authLevel.toNat
          lifetime := expires - now
          features := tl.features
          state := .undefined }

/-- `time.Time.Round(time.Millisecond)`. -/
def roundToMillisecond (t : Time) : Time := (t + 500000) / 1000000 * 1000000

/-- The time of expiry that `GenSecret` returns with the token. -/
def expiry (ta : TokenAuth) (now : Time) (rec : Rec) : Time :=
  roundToMillisecond (now + if rec.lifetime = 0 then ta.lifetime else rec.lifetime)

/-- The content of the token that `GenSecret` makes. -/
def layout (ta : TokenAuth) (now : Time) (rec : Rec) : TokenLayout :=
  let lifetime := if rec.lifetime = 0 then ta.lifetime else rec.lifetime
  { uid := rec.uid
    expires := .ofInt 32 (roundToMillisecond (now + lifetime) / second)
    authLevel := .ofNat 16 rec.authLevel
    serialNumber := .ofInt 16 ta.serialNumber
    features := rec.features }

def sign (ta : TokenAuth) (tl : TokenLayout) : List UInt8 := tl.bytes ++ ta.mac tl.bytes

def genSecret (ta : TokenAuth) (now : Time) (rec : Rec) : Except StoreError (List UInt8) :=
  if rec.lifetime < 0 then .error .expired else .ok (ta.sign (ta.layout now rec))

@[simp] theorem read_sign (ta : TokenAuth) (tl : TokenLayout) (rest : List UInt8) :
    TokenLayout.read (ta.sign tl ++ rest) = tl := by
  rw [sign, List.append_assoc, TokenLayout.read_bytes]

/-- A record comes out of a token only if the token is signed, with the user, the level and the
features of the token. -/
theorem authenticate_ok {ta : TokenAuth} {now : Time} {token : List UInt8} {rec : Rec}
    (accepted : ta.authenticate now token = .ok rec) :
    TokenLayout.dataSize + 32 ≤ token.length ∧ ta.signed token ∧
      rec.uid = (TokenLayout.read token).uid ∧
      rec.authLevel = (TokenLayout.read token).authLevel.toNat ∧
      rec.features = (TokenLayout.read token).features := by
  unfold authenticate at accepted
  dsimp only at accepted
  split_ifs at accepted with short forged root serial expired
  cases accepted
  exact ⟨Nat.le_of_not_lt short, Bool.of_not_eq_false (by simpa using forged), rfl, rfl, rfl⟩

theorem authenticate_issued (ta : TokenAuth) (now : Time) (tl : TokenLayout) :
    ta.authenticate now (ta.sign tl) =
      if levelRoot < tl.authLevel.toNat then .error .malformed
      else if (tl.serialNumber.toNat : Int) ≠ ta.serialNumber then .error .failed
      else if (tl.expires.toNat : Int) * second < now + second then .error .expired
      else
        .ok
          { uid := tl.uid
            authLevel := tl.authLevel.toNat
            lifetime := tl.expires.toNat * second - now
            features := tl.features
            state := .undefined } := by
  have long : ¬ (ta.sign tl).length < TokenLayout.dataSize + 32 := by
    simp only [sign, List.length_append, TokenLayout.bytes_length, ta.mac_length]
    omega
  have content : TokenLayout.read (ta.sign tl) = tl := TokenLayout.read_bytes tl _
  have valid : ta.signed (ta.sign tl) := by
    rw [signed, content, sign, List.drop_left' (TokenLayout.bytes_length tl),
      List.take_of_length_le (ta.mac_length _).le, beq_self_eq_true]
  unfold authenticate
  rw [if_neg long, valid, content]
  rfl

end TokenAuth

end Auth

end LastochkaServer.Source
