import LastochkaServer.Source.Auth.Reset

/-!
# Who can reset a secret

The message with the token goes to the address named in the request, while the user comes from a
lookup in which that address is a pattern and unvalidated credentials count as much as validated
ones. `reset_reaches_holder_iff` says for which tables and requests the user is still the right one.
-/

namespace LastochkaServer.Guarantees.SecretReset

open Lib Source Auth

/-- The user has the credential, and is the one for whom it is validated if there is one. -/
structure Holder (lc : LetterCase) (t : Credentials) (k : CredMethod) (address : String) (uid : Uid) :
    Prop where
  holds : ∃ c ∈ t.rows, c.user = uid ∧ c.method = k ∧ c.deleted = false ∧
    lc.toLower c.value = lc.toLower address
  validated : ∀ c ∈ t.rows, c.done → c.deleted = false → c.method = k →
    lc.toLower c.value = lc.toLower address → c.user = uid

/-- Whatever the database returns and whatever fails, a reset token is sent to its holder only. -/
def ReachesHolder (lc : LetterCase) (t : Credentials) (params : String) : Prop :=
  ∀ env mail, authSecretReset lc env t params = .ok (some mail) →
    ∃ k method value, resetTarget lc params = some (k, method, value) ∧
      Holder lc t k mail.address (TokenLayout.read mail.token).uid

theorem toLower_resetAddress (lc : LetterCase) (k : CredMethod) (value : String) :
    lc.toLower (resetAddress lc k value) = lc.toLower value := by
  cases k
  · exact lc.toLower_toLower value
  · rfl

theorem holder_resetAddress {lc : LetterCase} {t : Credentials} {k : CredMethod} {value : String}
    {uid : Uid} : Holder lc t k (resetAddress lc k value) uid ↔ Holder lc t k value uid := by
  constructor
  · rintro ⟨holds, validated⟩
    rw [toLower_resetAddress] at holds validated
    exact ⟨holds, validated⟩
  · rintro ⟨holds, validated⟩
    refine ⟨?_, ?_⟩ <;> rw [toLower_resetAddress]
    · exact holds
    · exact validated

theorem reachesHolder_of_holders {lc : LetterCase} {t : Credentials} {params : String}
    (holders : ∀ k method value, resetTarget lc params = some (k, method, value) →
      ∀ c ∈ t.rows, c.user ≠ 0 → Reaches method value c → Holder lc t k value c.user) :
    ReachesHolder lc t params := by
  intro env mail sent
  obtain ⟨k, method, value, c, target, candidate, user, address, uid⟩ := authSecretReset_sent sent
  obtain ⟨mem, reached⟩ := (mem_candidates (resetTarget_named target)).mp candidate
  refine ⟨k, method, value, target, ?_⟩
  rw [address, uid]
  exact holder_resetAddress.mpr (holders k method value target c mem user reached)

/-- A request is safe if and only if every user with a credential that the value leads to holds the
credential that was asked for. -/
theorem reset_reaches_holder_iff (lc : LetterCase) (t : Credentials) (params : String) :
    ReachesHolder lc t params ↔
      ∀ k method value, resetTarget lc params = some (k, method, value) →
        ∀ c ∈ t.rows, c.user ≠ 0 → Reaches method value c → Holder lc t k value c.user := by
  refine ⟨fun safe k method value target c member user reached => ?_, reachesHolder_of_holders⟩
  have ta : TokenAuth :=
    { mac := fun _ => List.replicate 32 0
      mac_length := fun _ => List.length_replicate
      lifetime := 1
      serialNumber := 0 }
  have candidate := (mem_candidates (resetTarget_named target)).mpr ⟨member, reached⟩
  obtain ⟨env, mail, sent, address, uid⟩ := authSecretReset_sends target candidate user ta
  obtain ⟨k', method', value', target', holder⟩ := safe env mail sent
  rw [target] at target'
  cases target'
  rw [address, uid] at holder
  exact holder_resetAddress.mp holder

theorem toLower_toLower_ascii (c : Char) : c.toLower.toLower = c.toLower := by
  unfold Char.toLower
  split <;> grind [Char.isUpper]

/-- Letter case of ASCII. -/
def asciiCase : LetterCase where
  lower := Char.toLower
  idem := toLower_toLower_ascii
  ascii _ _ := rfl

/-- User 1 has named an address and not confirmed it. -/
def claimed : Credentials := (Credentials.empty.credUpsert false 1 .email "al@x.org" false).1

/-- User 2 has named the same address and confirmed it. -/
def contested : Credentials :=
  ((claimed.credUpsert false 2 .email "al@x.org" false).1.credConfirm false 2 .email).1

def noMac : TokenAuth where
  mac _ := List.replicate 32 0
  mac_length _ := List.length_replicate
  lifetime := 1
  serialNumber := 0

/-- The confirmed address resets the account of the user who has not confirmed it, and an address
with a wildcard resets the account of a user with another address. -/
theorem reset_of_other_account :
    (∃ env mail, authSecretReset asciiCase env contested "basic:email:al@x.org" = .ok (some mail) ∧
      mail.address = "al@x.org" ∧ (TokenLayout.read mail.token).uid = 1 ∧
      contested.rows.map (fun c => (c.user, c.value, c.done)) =
        [(1, "al@x.org", false), (2, "al@x.org", true)]) ∧
    ∃ env mail, authSecretReset asciiCase env claimed "basic:email:a_@x.org" = .ok (some mail) ∧
      mail.address = "a_@x.org" ∧ (TokenLayout.read mail.token).uid = 1 ∧
      claimed.rows.map (fun c => (c.user, c.value)) = [(1, "al@x.org")] := by
  let first : Credential :=
    { user := 1, method := .email, value := "al@x.org", synthetic := "AQAAAAAAAAA:email:al@x.org" }
  have user : first.user ≠ 0 := by decide
  constructor
  · have target :
        resetTarget asciiCase "basic:email:al@x.org" = some (.email, "email", "al@x.org") := by
      decide
    have found : first ∈ contested.candidates "email" "al@x.org" := by decide
    obtain ⟨env, mail, sent, address, uid⟩ := authSecretReset_sends target found user noMac
    exact ⟨env, mail, sent, address.trans (by decide), uid, by decide⟩
  · have target :
        resetTarget asciiCase "basic:email:a_@x.org" = some (.email, "email", "a_@x.org") := by
      decide
    have found : first ∈ claimed.candidates "email" "a_@x.org" := by decide
    obtain ⟨env, mail, sent, address, uid⟩ := authSecretReset_sends target found user noMac
    exact ⟨env, mail, sent, address.trans (by decide), uid, by decide⟩

end LastochkaServer.Guarantees.SecretReset
