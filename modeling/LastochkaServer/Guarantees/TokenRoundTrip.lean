import LastochkaServer.Source.Auth.Token

/-!
# Tokens between issue and expiry

A token made by `GenSecret` and presented to `Authenticate`
(`server/auth/token/auth_token.go:42-167`). The token carries its expiry in whole seconds, and a
token with less than a second left is refused, so the last moments before the reported expiry are
lost by design.

The layout has sixteen bits for the serial number and for the level and thirty-two for the expiry.
`Init` takes every serial number, but tokens with one that does not fit are all refused; an expiry
from the year 2106 on wraps around.
-/

namespace LastochkaServer.Guarantees.TokenRoundTrip

open Source Source.Auth

/-- The last full second before a time. -/
def fullSecond (t : Time) : Time := t / second * second

theorem lifetime_positive {lifetime : Int} (requested : 2 * second ≤ lifetime) : 0 < lifetime := by
  unfold second Duration at requested
  omega

theorem roundToMillisecond_nonneg {t : Int} (pos : 0 ≤ t) : 0 ≤ TokenAuth.roundToMillisecond t := by
  unfold TokenAuth.roundToMillisecond Time
  omega

variable {ta : TokenAuth}

theorem init_serialNumber {hmac : Hmac} {current name : String} {config : TokenConfig}
    (accepted : TokenAuth.init hmac current name config = .ok ta) :
    ta.serialNumber = config.serialNum := by
  unfold TokenAuth.init at accepted
  split_ifs at accepted
  cases accepted
  rfl

theorem layout_expires {made : Time} {rec : Rec} (pos : 0 ≤ ta.expiry made rec)
    (fits : ta.expiry made rec < 2 ^ 32 * second) :
    ((ta.layout made rec).expires.toNat : Int) * second = fullSecond (ta.expiry made rec) := by
  have expires : (ta.layout made rec).expires = .ofInt 32 (ta.expiry made rec / second) := rfl
  rw [expires, BitVec.toNat_ofInt, fullSecond]
  unfold Time second Duration at *
  omega

/-- A token made with a requested lifetime of two seconds or more is accepted with its user, level
and features as long as a second is left of the whole seconds before the reported expiry, which
includes the moment it is made, and refused from then on. -/
theorem token_accepted_until_expiry {hmac : Hmac} {current name : String} {config : TokenConfig}
    {ta : TokenAuth} (accepted : TokenAuth.init hmac current name config = .ok ta)
    (serial : 0 ≤ config.serialNum ∧ config.serialNum < 2 ^ 16) {made : Time}
    (epoch : 0 ≤ made) {rec : Rec}
    (requested : 2 * second ≤ rec.lifetime) (level : rec.authLevel ≤ levelRoot)
    (fits : ta.expiry made rec < 2 ^ 32 * second) :
    ∃ token, ta.genSecret made rec = .ok token ∧ made + second ≤ fullSecond (ta.expiry made rec) ∧
      (∀ now, now + second ≤ fullSecond (ta.expiry made rec) →
        ∃ found, ta.authenticate now token = .ok found ∧ found.uid = rec.uid ∧
          found.authLevel = rec.authLevel ∧ found.features = rec.features) ∧
      ∀ now, fullSecond (ta.expiry made rec) < now + second →
        ta.authenticate now token = .error .expired := by
  have positive := lifetime_positive requested
  have lifetime : ta.expiry made rec = TokenAuth.roundToMillisecond (made + rec.lifetime) := by
    rw [TokenAuth.expiry, if_neg (ne_of_gt positive)]
  have later : 0 ≤ ta.expiry made rec :=
    lifetime ▸ roundToMillisecond_nonneg (Int.add_nonneg epoch (le_of_lt positive))
  have expires := layout_expires later fits
  have authLevel : (ta.layout made rec).authLevel.toNat = rec.authLevel := by
    change (BitVec.ofNat 16 rec.authLevel).toNat = _
    rw [BitVec.toNat_ofNat, Nat.mod_eq_of_lt (Nat.lt_of_le_of_lt level (by decide))]
  have serialNumber : ((ta.layout made rec).serialNumber.toNat : Int) = ta.serialNumber := by
    change ((BitVec.ofInt 16 ta.serialNumber).toNat : Int) = _
    rw [BitVec.toNat_ofInt, init_serialNumber accepted]
    omega
  -- all checks but that of the time are passed
  have answer (now : Time) := ta.authenticate_issued now (ta.layout made rec)
  simp only [authLevel, serialNumber, expires, Nat.not_lt.mpr level, if_false, ne_eq,
    not_true_eq_false] at answer
  refine ⟨ta.sign (ta.layout made rec), ?_, ?_, fun now early => ?_, fun now late => ?_⟩
  · rw [TokenAuth.genSecret, if_neg (not_lt_of_gt positive)]
  · rw [lifetime]
    unfold fullSecond TokenAuth.roundToMillisecond
    unfold Time second Duration at *
    omega
  · rw [answer, if_neg (Int.not_lt.mpr early)]
    exact ⟨_, rfl, rfl, rfl, rfl⟩
  · rw [answer, if_pos late]

/-- A toy signature. -/
def demoHmac : Hmac where
  sum key message := List.replicate 32 (key.foldl (· + ·) 0 + message.foldl (· + ·) 0)
  length _ _ := List.length_replicate

def demoConfig : TokenConfig where
  key := List.replicate 32 1
  serialNum := 1
  expireIn := 1209600

def demoToken : TokenAuth where
  mac := demoHmac.sum demoConfig.key
  mac_length := demoHmac.length demoConfig.key
  lifetime := 1209600 * second
  serialNumber := 1

def demoRec : Rec where
  uid := 5
  authLevel := levelAuth
  lifetime := 2 * second

theorem token_of_two_seconds :
    TokenAuth.init demoHmac "" "token" demoConfig = .ok demoToken ∧
      ∃ token, demoToken.genSecret 0 demoRec = .ok token ∧
        demoToken.authenticate (3 * second) token = .error .expired := by
  have accepted : TokenAuth.init demoHmac "" "token" demoConfig = .ok demoToken := rfl
  have requested : 2 * second ≤ demoRec.lifetime := by decide
  have level : demoRec.authLevel ≤ levelRoot := by decide
  have fits : demoToken.expiry 0 demoRec < 2 ^ 32 * second := by decide
  obtain ⟨token, made, -, -, late⟩ :=
    token_accepted_until_expiry accepted (by decide) (le_refl 0) requested level fits
  exact ⟨accepted, token, made, late (3 * second) (by decide)⟩

/-- Half a second before its reported expiry the token is refused. -/
theorem refused_before_expiry :
    TokenAuth.init demoHmac "" "token" demoConfig = .ok demoToken ∧
      3 * second / 2 < demoToken.expiry 0 demoRec ∧
      ∃ token, demoToken.genSecret 0 demoRec = .ok token ∧
        demoToken.authenticate (3 * second / 2) token = .error .expired := by
  refine ⟨rfl, by decide, _, if_neg (by decide), ?_⟩
  rw [TokenAuth.authenticate_issued, if_neg (by decide), if_neg (by decide), if_pos (by decide)]

end LastochkaServer.Guarantees.TokenRoundTrip
