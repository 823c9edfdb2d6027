import LastochkaServer.Lib.Run
import LastochkaServer.Source.Auth.Login

/-!
# Tokens that must not log in

The holder of a token with `FeatureNoLogin` presents it, and the tokens that come back, to the
server. Sessions honour the feature; the requests outside of sessions do not look at it.
`noLogin_token_powerless` says that they are the only way in which the token becomes an identity.
-/

namespace LastochkaServer.Guarantees.NoLoginTokens

open Lib Lib.Run Source Source.Auth

structure Holding where
  session : AuthSession := {}
  tokens : List (List UInt8)
  /-- The users as whom requests outside of the session have been served. -/
  identities : List Uid := []

inductive Request
  | login (env : LoginEnv) (token : List UInt8)
  | acc (env : AccEnv) (r : AccRequest)
  | http (now : Time) (token : List UInt8)
  /-- A request outside of the session that names it. -/
  | httpSid (now : Time)

def step (ta : TokenAuth) (s : Holding) : Request → Holding
  | .login env token =>
    let (session, reply) := login ta env s.session token
    { s with session, tokens := reply.token.toList ++ s.tokens }
  | .acc env r => { s with tokens := (acc ta env s.session r).2 ++ s.tokens }
  | .http now token =>
    { s with identities := (authenticateUserRequest ta now (.secret token)).toList ++ s.identities }
  | .httpSid now =>
    { s with
      identities := (authenticateUserRequest ta now (.sid (some s.session))).toList ++ s.identities }

/-- The content of a token that is signed is that of a token the holder has got from the server. -/
def Unforged (ta : TokenAuth) (tokens : List (List UInt8)) (token : List UInt8) : Prop :=
  ta.signed token → ∃ held ∈ tokens, TokenLayout.read token = TokenLayout.read held

/-- The signature is not accepted, or the token is not valid any more, or it names nobody. -/
def Unusable (ta : TokenAuth) (now : Time) (token : List UInt8) : Prop :=
  ∀ rec, ta.authenticate now token = .ok rec → rec.uid = 0

/-- No signature is forged, and no valid token is presented outside of the session. -/
def Permitted (ta : TokenAuth) (s : Holding) : Request → Prop
  | .login _ token => Unforged ta s.tokens token
  | .acc _ r => Unforged ta s.tokens r.token
  | .http now token => Unforged ta s.tokens token ∧ Unusable ta now token
  | .httpSid _ => True

/-- The token cannot log in, and has at most the given level. -/
def Weak (level : Nat) (token : List UInt8) : Prop :=
  noLogin (TokenLayout.read token).features ∧ (TokenLayout.read token).authLevel.toNat ≤ level

structure Powerless (level : Nat) (s : Holding) : Prop where
  session : s.session = {}
  identities : s.identities = []
  tokens : ∀ token ∈ s.tokens, Weak level token

section

variable {ta : TokenAuth} {now : Time} {level : Nat} {token : List UInt8} {rec : Rec} {s : Holding}

theorem genSecret_weak (features : noLogin rec.features) (low : rec.authLevel ≤ level) :
    ∀ issued ∈ (ta.genSecret now rec).toOption, Weak level issued := by
  intro issued made
  unfold TokenAuth.genSecret at made
  split_ifs at made
  · cases made
  · cases made
    rw [Weak, ← List.append_nil (ta.sign _), TokenAuth.read_sign]
    refine ⟨features, ?_⟩
    exact (Nat.mod_le _ _).trans low

theorem accepted_weak (powerless : Powerless level s) (unforged : Unforged ta s.tokens token)
    (accepted : ta.authenticate now token = .ok rec) :
    noLogin rec.features ∧ rec.authLevel ≤ level := by
  obtain ⟨-, signed, -, authLevel, features⟩ := TokenAuth.authenticate_ok accepted
  obtain ⟨held, owned, same⟩ := unforged signed
  rw [authLevel, features, same]
  exact powerless.tokens held owned

theorem onLogin_weak {sess : AuthSession} {missing : List String}
    (features : noLogin rec.features) (low : rec.authLevel ≤ level) :
    (onLogin ta now sess rec missing).1 = sess ∧
      ∀ issued ∈ (onLogin ta now sess rec missing).2.token, Weak level issued := by
  unfold onLogin
  by_cases incomplete : missing ≠ []
  · rw [if_pos incomplete]
    exact ⟨rfl, genSecret_weak features low⟩
  · rw [if_neg incomplete, if_pos features]
    exact ⟨rfl, genSecret_weak ((noLogin_or_validated _).trans features) low⟩

theorem login_weak (powerless : Powerless level s) (unforged : Unforged ta s.tokens token)
    (env : LoginEnv) : (login ta env s.session token).1 = s.session ∧
      ∀ issued ∈ (login ta env s.session token).2.token, Weak level issued := by
  unfold login
  split
  · exact ⟨rfl, fun _ none => by cases none⟩
  split
  · exact ⟨rfl, fun _ none => by cases none⟩
  next rec missing checked =>
  obtain ⟨old, accepted, checked⟩ := bind_ok checked
  obtain ⟨state, -, checked⟩ := bind_ok checked
  split at checked
  · cases checked
  obtain ⟨missing', -, checked⟩ := bind_ok checked
  cases checked
  obtain ⟨weak, low⟩ := accepted_weak powerless unforged accepted
  exact onLogin_weak weak low

theorem acc_weak (env : AccEnv) (sess : AuthSession) (r : AccRequest) :
    ∀ issued ∈ (acc ta env sess r).2, Weak level issued := by
  have sent (uid : Uid) : ∀ issued ∈ (ta.genSecret env.now (credRec uid)).toOption.toList,
      Weak level issued := by
    intro issued mem
    exact genSecret_weak (show noLogin featureNoLogin by decide) (Nat.zero_le _) issued
      (Option.mem_toList.mp mem)
  unfold acc
  split
  · simp
  split
  · simp
  unfold replyUpdateUser
  dsimp only
  split
  · simp
  split
  · simp
  split
  · simp
  split
  · simp
  split
  · simp
  split
  · split
    · simp
    · exact sent _
  · split <;> simp

theorem step_powerless (powerless : Powerless level s) {r : Request} (permitted : Permitted ta s r) :
    Powerless level (step ta s r) := by
  have empty : s.session.uid = 0 := by rw [powerless.session]
  cases r with
  | login env token =>
    obtain ⟨session, issued⟩ := login_weak powerless permitted env
    refine ⟨session.trans powerless.session, powerless.identities, fun t mem => ?_⟩
    rcases List.mem_append.mp mem with new | old
    · exact issued t (Option.mem_toList.mp new)
    · exact powerless.tokens t old
  | acc env r =>
    refine { powerless with tokens := fun t mem => ?_ }
    rcases List.mem_append.mp mem with new | old
    · exact acc_weak env s.session r t new
    · exact powerless.tokens t old
  | http now token =>
    obtain ⟨-, unusable⟩ := permitted
    have refused : authenticateUserRequest ta now (.secret token) = none := by
      unfold authenticateUserRequest authFileRequest
      dsimp only
      cases accepted : ta.authenticate now token with
      | error e => rfl
      | ok rec => exact if_pos (unusable rec accepted)
    refine { powerless with identities := ?_ }
    change (authenticateUserRequest ta now (.secret token)).toList ++ s.identities = []
    rw [refused, powerless.identities]
    rfl
  | httpSid now =>
    have refused : authenticateUserRequest ta now (.sid (some s.session)) = none := if_pos empty
    refine { powerless with identities := ?_ }
    change (authenticateUserRequest ta now (.sid (some s.session))).toList ++ s.identities = []
    rw [refused, powerless.identities]
    rfl

end

/-- In every run in which no valid token is presented outside of the session, a token that must not
log in gives no identity: the session has no user, no request is served as anybody, and all tokens
issued in exchange are as weak as the first. -/
theorem noLogin_token_powerless (ta : TokenAuth) (token : List UInt8)
    (weak : noLogin (TokenLayout.read token).features) (requests : List Request)
    (permitted : Guarded (step ta) (Permitted ta) { tokens := [token] } requests) :
    let s := run (step ta) { tokens := [token] } requests
    s.session.uid = 0 ∧ s.identities = [] ∧
      ∀ issued ∈ s.tokens, noLogin (TokenLayout.read issued).features ∧
        (TokenLayout.read issued).authLevel.toNat ≤ (TokenLayout.read token).authLevel.toNat := by
  have start : Powerless (TokenLayout.read token).authLevel.toNat { tokens := [token] } := by
    refine ⟨rfl, rfl, fun t member => ?_⟩
    rw [List.mem_singleton.mp member]
    exact ⟨weak, Nat.le_refl _⟩
  have preserved (s : Holding) (r : Request)
      (powerless : Powerless (TokenLayout.read token).authLevel.toNat s)
      (allowed : Permitted ta s r) :
      Powerless (TokenLayout.read token).authLevel.toNat (step ta s r) :=
        step_powerless powerless allowed
  have last := run_invariant preserved start permitted
  exact ⟨by rw [last.session], last.identities, last.tokens⟩

/-- An authenticator with a toy signature. -/
def demoAuth : TokenAuth where
  mac message := List.replicate 32 (message.foldl (· + ·) 0)
  mac_length _ := List.length_replicate
  lifetime := hour
  serialNumber := 1

/-- The token that `authSecretReset` mails for user 5. -/
def resetToken : List UInt8 := demoAuth.sign (demoAuth.layout 0 (resetRec 5 "email" "al@x.org"))

/-- A file or REST endpoint takes the holder of the token for user 5. -/
theorem reset_token_is_identity :
    noLogin (TokenLayout.read resetToken).features ∧
      (step demoAuth { tokens := [resetToken] } (.http 0 resetToken)).identities = [5] := by
  decide

/-- A login with the token, and a request after the token has expired. -/
def attempts : List Request := [.login {} resetToken, .http (48 * hour) resetToken]

theorem reset_token_powerless :
    let s := run (step demoAuth) { tokens := [resetToken] } attempts
    s.tokens.length = 2 ∧ s.session.uid = 0 ∧ s.identities = [] := by
  have held : ∀ tokens, resetToken ∈ tokens → Unforged demoAuth tokens resetToken :=
    fun tokens owned _ => ⟨resetToken, owned, rfl⟩
  have expired : (demoAuth.authenticate (48 * hour) resetToken).toOption.isNone := by decide
  have permitted :
      Guarded (step demoAuth) (Permitted demoAuth) { tokens := [resetToken] } attempts := by
    refine ⟨held _ (by simp), ⟨held _ ?_, fun rec accepted => ?_⟩, trivial⟩
    · exact List.mem_append.mpr (.inr (List.mem_singleton.mpr rfl))
    · rw [accepted] at expired
      cases expired
  obtain ⟨session, identities, -⟩ :=
    noLogin_token_powerless demoAuth resetToken (by decide) attempts permitted
  exact ⟨by decide, session, identities⟩

end LastochkaServer.Guarantees.NoLoginTokens
