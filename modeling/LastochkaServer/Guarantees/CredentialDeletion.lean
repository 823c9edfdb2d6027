import LastochkaServer.Guarantees.SecretReset
import LastochkaServer.Source.Validators

/-!
# Deletion of credentials

What is left by `CredDel` (`server/db/postgres/adapter.go:3233-3312`) and by a request to delete a
credential (`deleteCred`, `server/user.go:780-844`).
-/

namespace LastochkaServer.Guarantees.CredentialDeletion

open Source CredValidator

variable {t : Credentials} {u : Uid} {m : CredMethod} {name value : String} {fails : Bool}
  {c : Credential}

/-- The credentials that a call of `CredDel` is about. -/
def Asked (u : Uid) (method : Option CredMethod) (value : String) (c : Credential) : Prop :=
  c.user = u ∧ ∀ m ∈ method, c.method = m ∧ (value = "" ∨ c.value = value)

/-- Deletion as it is meant: the credentials are gone or soft-deleted, and failed attempts are
kept. -/
structure Deletes (t : Credentials) (u : Uid) (method : Option CredMethod) (value : String)
    (after : Credentials × Except StoreError Unit) : Prop where
  deleted : after.2 = .ok () → ∀ c ∈ after.1.rows, Asked u method value c → c.deleted
  notFound : after.2 = .error .notFound →
    (∀ c ∈ t.rows, Asked u method value c → c.deleted) ∧ after.1 = t
  kept : after.2 ≠ .error .internal → ∀ c ∈ t.rows, Asked u method value c → c.done = false →
    c.retries ≠ 0 → { c with deleted := true } ∈ after.1.rows

theorem mem_credDel {method : Option CredMethod} : c ∈ (t.credDel false u method value).1.rows ↔
    c ∈ t.rows ∧ (Asked u method value c → method ≠ none ∧ c.done = false ∧ c.retries ≠ 0) := by
  unfold Credentials.credDel
  simp only [Bool.false_eq_true, if_false]
  split_ifs with any
  · rw [Credentials.mem_delete]
    refine and_congr_right fun _ => ?_
    cases method <;> simp [Asked]
  · refine (and_iff_left_of_imp fun mem => ?_).symm
    have stays := List.any_eq_false.mp (Bool.eq_false_iff.mpr any) c mem
    cases method <;> simp [Asked] at stays ⊢ <;> grind

theorem credDel_result (t : Credentials) (u : Uid) (method : Option CredMethod) (value : String) :
    (t.credDel false u method value).2 = .ok () ∨ t.credDel false u method value =
    (t, .error .notFound) := by
  unfold Credentials.credDel
  simp only [Bool.false_eq_true, if_false]
  split_ifs
  · exact .inl rfl
  · exact .inr rfl

/-- A deletion does what it is for if and only if there are no active credentials among those asked
for with failed attempts to validate them, and none at all with such attempts if everything is
deleted. -/
theorem credDel_deletes_iff (t : Credentials) (fails : Bool) (u : Uid) (method : Option CredMethod)
    (value : String) :
    Deletes t u method value (t.credDel fails u method value) ↔ fails ∨
      ∀ c ∈ t.rows, Asked u method value c → c.done = false → c.retries ≠ 0 → c.deleted ∧
        method ≠ none := by
  cases fails with
  | true => exact ⟨fun _ => .inl rfl, fun _ => ⟨by rintro ⟨⟩, by rintro ⟨⟩, fun ok => absurd rfl ok⟩⟩
  | false =>
    have result := credDel_result t u method value
    simp only [Bool.false_eq_true, false_or]
    constructor
    · intro deletes c member asked pending tried
      have later :=
        deletes.kept (by rcases result with ok | none <;> simp [*]) c member asked pending tried
      have given := ((mem_credDel.mp later).2 asked).1
      rcases result with ok | none
      · exact ⟨deletes.deleted ok c (mem_credDel.mpr ⟨member, fun _ => ⟨given, pending, tried⟩⟩)
          asked, given⟩
      · exact ⟨(deletes.notFound (by rw [none])).1 c member asked, given⟩
    · intro quiet
      have left : ∀ c ∈ (t.credDel false u method value).1.rows, Asked u method value c →
          c.deleted := by
        intro c member asked
        obtain ⟨member, stays⟩ := mem_credDel.mp member
        exact (quiet c member asked (stays asked).2.1 (stays asked).2.2).1
      refine ⟨fun _ => left, fun absent => ?_, fun _ c member asked pending tried => ?_⟩
      · rcases result with ok | none
        · rw [ok] at absent
          cases absent
        · rw [none] at left ⊢
          exact ⟨left, rfl⟩
      · obtain ⟨deleted, given⟩ := quiet c member asked pending tried
        rw [show { c with deleted := true } = c by rw [← deleted]]
        exact mem_credDel.mpr ⟨member, fun _ => ⟨given, pending, tried⟩⟩

/-- An address that user 1 has failed to confirm once. -/
def tried : Credentials :=
  (Credentials.empty.credUpsert false 1 .email "a@x.org" false).1.credFail 1 .email

/-- It is reported as not found and stays active. -/
theorem tried_not_deleted :
    ¬ Deletes tried 1 (some .email) "a@x.org" (tried.credDel false 1 (some .email) "a@x.org") := by
  intro deletes
  have active : ∃ c ∈ tried.rows, (c.user = 1 ∧ c.method = .email ∧ c.value = "a@x.org") ∧
      c.deleted = false := by
    decide
  obtain ⟨c, member, ⟨user, method, value⟩, active⟩ := active
  have deleted :=
    (deletes.notFound rfl).1 c member
      ⟨user, fun m given => ⟨method.trans (Option.some.inj given), .inr value⟩⟩
  rw [active] at deleted
  cases deleted

theorem mem_credGetAll {validatedOnly : Bool} : c ∈ credGetAll t u name validatedOnly ↔
    c ∈ t.rows ∧ c.user = u ∧ c.deleted = false ∧ (name = "" ∨ c.method.name = name) ∧
      (validatedOnly → c.done) := by
  cases validatedOnly <;> simp [credGetAll, and_assoc]

/-- If the user had a validated credential of a required method before the request, there is one
after it. -/
def Retains (lc : LetterCase) (required : List String) (t after : Credentials) (u : Uid)
    (name : String) : Prop :=
  ∀ m, getValidator lc name = some m → (∃ r ∈ required, getValidator lc r = some m) →
    (∃ c, c ∈ credGetAll t u m.name true) → ∃ c, c ∈ credGetAll after u m.name true

theorem mem_validated : c ∈ credGetAll t u m.name true ↔
    c ∈ t.rows ∧ c.user = u ∧ c.deleted = false ∧ c.method = m ∧ c.done := by
  have named : m.name ≠ "" := by cases m <;> decide
  have own : c.method.name = m.name ↔ c.method = m := by rw [← String.toList_inj, CredMethod.name_inj]
  simp [mem_credGetAll, named, own]

theorem mem_validated_remove : c ∈ credGetAll (remove t fails u m value).1 u m.name true ↔
    c ∈ credGetAll t u m.name true ∧ (fails ∨ value ≠ "" ∧ c.value ≠ value) := by
  cases fails with
  | true => simp [remove, Credentials.credDel]
  | false =>
    simp only [mem_validated, remove, mem_credDel, Asked, Option.mem_some_iff]
    grind

theorem getValidator_own {lc : LetterCase} {k : CredMethod} (found : getValidator lc name = some m)
    (same : name = "" ∨ k.name = name) : k = m := by
  have lower := getValidator_lower found
  rcases same with rfl | rfl
  · cases m <;> simp [CredMethod.name] at lower
  · cases k <;> cases m <;> simp [CredMethod.name, lc.ascii] at lower ⊢

theorem deleteCred_fst {lc : LetterCase} {required : List String} {readFails addToTags : Bool}
    {updateTags : Except StoreError (List String)} (named : getValidator lc name = some m) :
    (deleteCred lc t required readFails fails addToTags updateTags u name value).1 =
      if value = "" ∨ name ∈ required ∧ (readFails ∨ ¬ ∃ cr ∈ credGetAll t u name false,
        (cr.done ∧ cr.value ≠ value) ∨ (!cr.done ∧ cr.value = value)) then t
      else (remove t fails u m value).1 := by
  rw [deleteCred, named]
  split_ifs <;> first | rfl | grind

/-- A request retains a validated credential of a required method if and only if, when the value is
that of the only one, the request is refused: the method is required under the very name that the
request gives, and no active unvalidated credential has the value. -/
theorem deleteCred_retains_iff (lc : LetterCase) (t : Credentials) (required : List String)
    (readFails fails addToTags : Bool) (updateTags : Except StoreError (List String)) (u : Uid)
    (name value : String) :
    Retains lc required t
      (deleteCred lc t required readFails fails addToTags updateTags u name value).1 u name ↔
      ∀ m, getValidator lc name = some m → (∃ r ∈ required, getValidator lc r = some m) →
        (∃ c, c ∈ credGetAll t u m.name true) → (∀ c ∈ credGetAll t u m.name true, c.value = value) →
        value = "" ∨ fails ∨ name ∈ required ∧
          (readFails ∨ ∀ c ∈ credGetAll t u name false, c.done = false → c.value ≠ value) := by
  refine forall₄_congr fun m named _ ⟨c, held⟩ => ?_
  rw [deleteCred_fst named]
  split_ifs with refused
  · refine iff_of_true ⟨c, held⟩ fun _ => refused.imp_right fun ⟨needed, unread⟩ => .inr ⟨needed, ?_⟩
    exact unread.imp_right fun free d member pending same =>
      free ⟨d, member, .inr (by simp [pending, same])⟩
  · simp only [mem_validated_remove]
    rw [not_or] at refused
    constructor
    · rintro ⟨d, member, failed | ⟨-, other⟩⟩ only
      · exact .inr (.inl failed)
      · exact absurd (only d member) other
    · intro refuses
      by_contra gone
      have only : ∀ d ∈ credGetAll t u m.name true, d.value = value := by
        intro d member
        by_contra other
        exact gone ⟨d, member, .inr ⟨refused.1, other⟩⟩
      rcases refuses only with blank | failed | ⟨needed, unread⟩
      · exact refused.1 blank
      · exact gone ⟨c, held, .inl failed⟩
      · refine refused.2 ⟨needed, unread.imp_right ?_⟩
        rintro quiet ⟨d, member, ⟨done, other⟩ | ⟨pending, same⟩⟩
        · obtain ⟨present, user, active, method, -⟩ := mem_credGetAll.mp member
          have own : d.method = m := getValidator_own named method
          exact other (only d (mem_validated.mpr ⟨present, user, active, own, done⟩))
        · exact quiet d member (by simpa using pending) same

/-- Address of user 1, who may not be without one. -/
def sole : Credentials := (Credentials.empty.credUpsert false 1 .email "a@x.org" true).1

/-- The only address is deleted when the name of the method is in other letters. -/
theorem sole_not_retained : ¬ Retains SecretReset.asciiCase ["email"] sole
    (deleteCred SecretReset.asciiCase sole ["email"] false false false (.ok []) 1 "Email"
      "a@x.org").1 1 "Email" := by
  intro retains
  have before : credGetAll sole 1 CredMethod.email.name true ≠ [] := by decide
  obtain ⟨c, member⟩ :=
    retains .email (by decide) ⟨"email", by decide, by decide⟩ (List.exists_mem_of_ne_nil _ before)
  exact absurd member List.not_mem_nil

end LastochkaServer.Guarantees.CredentialDeletion
