import LastochkaServer.Lib.Like
import LastochkaServer.Source.Auth.Token

/-!
# Credentials

The table of credentials of the PostgreSQL adapter (`server/db/postgres/adapter.go:537-554,
1345-1363, 3158-3350`). The column `synthetic` is unique. It holds `method:value` for a validated
credential and `user:method:value` for one that is not, which is an invariant of the table here.

Every write happens in a transaction that is rolled back on an error. Left out: timestamps and the
encryption of user ids for the database.
-/

namespace LastochkaServer.Source

open Lib

variable {method value : String} {t : Credentials} {c : Credential} {user : Uid} {k : CredMethod}

theorem cut_at_colon {a b x y : List Char} (first : ':' ∉ a) (second : ':' ∉ b) :
    a ++ ':' :: x = b ++ ':' :: y ↔ a = b ∧ x = y := by
  refine ⟨fun same => ?_, by rintro ⟨rfl, rfl⟩; rfl⟩
  induction a generalizing b with
  | nil =>
    cases b with
    | nil => exact ⟨rfl, (List.cons.inj same).2⟩
    | cons c b => exact absurd (List.mem_cons.mpr (.inl (List.cons.inj same).1)) second
  | cons c a ih =>
    cases b with
    | nil => exact absurd (List.mem_cons.mpr (.inl (List.cons.inj same).1.symm)) first
    | cons d b =>
      rw [List.mem_cons, not_or] at first second
      obtain ⟨head, tail⟩ := List.cons.inj same
      obtain ⟨rfl, rfl⟩ := ih first.2 second.2 tail
      exact ⟨by rw [head], rfl⟩

/-- Of two texts with the same colon in them, one is cut first. -/
theorem cut_at_some_colon {a x front y : List Char} (first : ':' ∉ a) :
    a ++ ':' :: x = front ++ ':' :: y ↔
      (front = a ∧ x = y) ∨ ∃ middle, front = a ++ ':' :: middle ∧ x = middle ++ ':' :: y := by
  constructor
  · intro same
    rcases List.append_eq_append_iff.mp same with ⟨middle, rfl, tail⟩ | ⟨middle, rfl, tail⟩
    · cases middle with
      | nil => exact .inl ⟨by simp, (List.cons.inj tail).2⟩
      | cons c middle =>
        obtain ⟨rfl, rfl⟩ := List.cons.inj tail
        exact .inr ⟨middle, rfl, rfl⟩
    · cases middle with
      | nil => exact .inl ⟨by simp, (List.cons.inj tail).2.symm⟩
      | cons c middle =>
        obtain ⟨rfl, -⟩ := List.cons.inj tail
        exact absurd first (by simp)
  · rintro (⟨rfl, rfl⟩ | ⟨middle, rfl, rfl⟩)
    · rfl
    · simp

/-- `Uid.String`. -/
def uidText (uid : Uid) : String :=
  if uid = 0 then "" else String.ofList (Bytes.base64 (Bytes.encodeLE 8 uid.toNat))

theorem uidText_colon (uid : Uid) : ':' ∉ (uidText uid).toList := by
  unfold uidText
  split_ifs
  · simp
  · rw [String.toList_ofList]
    exact fun colon => absurd (Bytes.base64_alphabet _ _ colon) (by decide)

theorem uidText_length (uid : Uid) :
    (uidText uid).toList.length = 0 ∨ (uidText uid).toList.length = 11 := by
  unfold uidText
  split_ifs
  · exact .inl rfl
  · rw [String.toList_ofList, Bytes.base64_length, Bytes.encodeLE_length]
    exact .inr rfl

/-- The registered validators. -/
inductive CredMethod
  | email | tel
  deriving DecidableEq, Repr

def CredMethod.name : CredMethod → String
  | .email => "email"
  | .tel => "tel"

variable (m : CredMethod)

theorem CredMethod.name_colon : ':' ∉ m.name.toList := by cases m <;> decide

theorem CredMethod.name_inj {m m' : CredMethod} : m.name.toList = m'.name.toList ↔ m = m' := by
  cases m <;> cases m' <;> decide

theorem CredMethod.name_ne_uidText (uid : Uid) : m.name.toList ≠ (uidText uid).toList := by
  intro same
  have length : m.name.toList.length = 5 ∨ m.name.toList.length = 3 := by cases m <;> decide
  rw [same] at length
  rcases uidText_length uid with short | long <;> omega

structure Credential where
  user : Uid
  method : CredMethod
  value : String
  done : Bool := false
  /-- `deletedat IS NOT NULL`. -/
  deleted : Bool := false
  retries : Nat := 0
  /-- The expected response. -/
  resp : String := ""
  synthetic : String
  deriving DecidableEq

def synthOf (method value : String) : String := method ++ ":" ++ value

def unconfirmedSynthOf (user : Uid) (method value : String) : String :=
  uidText user ++ ":" ++ synthOf method value

namespace Credential

/-- What `synthetic` has to be. -/
def key (c : Credential) : String :=
  if c.done then synthOf c.method.name c.value else unconfirmedSynthOf c.user c.method.name c.value

end Credential

theorem synthOf_toList (method value : String) :
    (synthOf method value).toList = method.toList ++ ':' :: value.toList := by
  simp [synthOf]

theorem unconfirmedSynthOf_toList (user : Uid) (method value : String) :
    (unconfirmedSynthOf user method value).toList =
      (uidText user).toList ++ ':' :: (method.toList ++ ':' :: value.toList) := by
  simp [unconfirmedSynthOf, synthOf_toList]

theorem synthOf_ne_unconfirmed (value : String) (user : Uid) (method value' : String) :
    synthOf m.name value ≠ unconfirmedSynthOf user method value' := by
  intro same
  have texts := congrArg String.toList same
  rw [synthOf_toList, unconfirmedSynthOf_toList] at texts
  exact m.name_ne_uidText user ((cut_at_colon m.name_colon (uidText_colon user)).mp texts).1

structure Credentials where
  rows : List Credential
  keyed : ∀ c ∈ rows, c.synthetic = c.key
  unique : (rows.map (·.synthetic)).Nodup

namespace Credentials

def empty : Credentials := ⟨[], by simp, List.nodup_nil⟩

def has (t : Credentials) (synthetic : String) : Bool := t.rows.any (·.synthetic == synthetic)

theorem not_mem_of_has {synthetic : String} (absent : t.has synthetic = false) :
    synthetic ∉ t.rows.map (·.synthetic) := by
  intro present
  obtain ⟨c, mem, rfl⟩ := List.mem_map.mp present
  rw [has, List.any_eq_false] at absent
  exact absent c mem (beq_self_eq_true _)

/-- A row with the key of an unvalidated credential is not validated. -/
theorem unconfirmed_of_synthetic (mem : c ∈ t.rows)
    (same : c.synthetic = unconfirmedSynthOf user method value) :
    c.done = false := by
  by_contra done
  have key := t.keyed c mem
  rw [Credential.key, if_pos (Bool.of_not_eq_false done), same] at key
  exact synthOf_ne_unconfirmed c.method c.value user method value key.symm

/-- `DELETE … WHERE`. -/
def delete (t : Credentials) (p : Credential → Bool) : Credentials where
  rows := t.rows.filter fun c => !p c
  keyed c member := t.keyed c (List.mem_filter.mp member).1
  unique := t.unique.sublist (List.filter_sublist.map _)

/-- `UPDATE` of columns that the key does not depend on. -/
def update (t : Credentials) (f : Credential → Credential)
    (same : ∀ c ∈ t.rows, (f c).synthetic = c.synthetic ∧ (f c).key = c.key) : Credentials where
  rows := t.rows.map f
  keyed c member := by
    obtain ⟨old, present, rfl⟩ := List.mem_map.mp member
    rw [(same old present).1, (same old present).2, t.keyed old present]
  unique := by
    have synthetics : (t.rows.map f).map (·.synthetic) = t.rows.map (·.synthetic) := by
      rw [List.map_map]
      exact List.map_congr_left fun c member => (same c member).1
    rw [synthetics]
    exact t.unique

/-- `INSERT`, of a row whose key is free. -/
def insert (t : Credentials) (c : Credential) (keyed : c.synthetic = c.key)
    (free : c.synthetic ∉ t.rows.map (·.synthetic)) : Credentials where
  rows := t.rows ++ [c]
  keyed d member := by
    rcases List.mem_append.mp member with old | new
    · exact t.keyed d old
    · rw [List.mem_singleton.mp new]
      exact keyed
  unique := by
    rw [List.map_append, List.nodup_append]
    refine ⟨t.unique, List.nodup_singleton _, ?_⟩
    rintro _ old _ new rfl
    rw [List.mem_singleton.mp new] at old
    exact free old

/-- Soft-deletion of all unvalidated credentials of one method. -/
def deactivate (t : Credentials) (user : Uid) (method : CredMethod) : Credentials :=
  t.update
    (fun c =>
      if c.user = user ∧ c.method = method ∧ c.done = false then { c with deleted := true } else c)
    (fun c _ => by split_ifs <;> exact ⟨rfl, rfl⟩)

/-- `UPDATE … SET deletedat=NULL, resp, done=FALSE`. -/
def undelete (t : Credentials) (user : Uid) (method : CredMethod) (value resp : String) :
    Credentials :=
  t.update
    (fun c =>
      if c.synthetic = unconfirmedSynthOf user method.name value then
        { c with deleted := false, resp, done := false }
      else c)
    (fun c member => by
      split_ifs with same
      · have unconfirmed := unconfirmed_of_synthetic member same
        exact ⟨rfl, by simp [Credential.key, unconfirmed]⟩
      · exact ⟨rfl, rfl⟩)

/-- `CredUpsert`; the result is whether a row has been inserted. -/
def credUpsert (t : Credentials) (fails : Bool) (user : Uid) (method : CredMethod) (value : String)
    (done : Bool) (resp : String := "") : Credentials × Except StoreError Bool :=
  let synth := synthOf method.name value
  let unconfirmed := unconfirmedSynthOf user method.name value
  if fails then (t, .error .internal)
  else if done then
    let cleared := t.delete (·.synthetic == unconfirmed)
    if free : cleared.has synth = false then
      (cleared.insert { user, method, value, done := true, resp, synthetic := synth } rfl
        (not_mem_of_has free), .ok true)
    else (t, .error .duplicate)
  else if t.has synth then (t, .error .duplicate)
  else
    let inactive := t.deactivate user method
    if free : inactive.has unconfirmed = false then
      (inactive.insert { user, method, value, resp, synthetic := unconfirmed } rfl
        (not_mem_of_has free), .ok true)
    else (inactive.undelete user method value resp, .ok false)

/-- The rows that `CredConfirm` is about. -/
def unconfirmedOf (user : Uid) (method : CredMethod) (c : Credential) : Bool :=
  c.user == user && c.method == method && !c.deleted

def confirmRow (user : Uid) (method : CredMethod) (c : Credential) : Credential :=
  if unconfirmedOf user method c then
    { c with done := true, synthetic := synthOf c.method.name c.value }
  else c

def credConfirm (t : Credentials) (fails : Bool) (user : Uid) (method : CredMethod) :
    Credentials × Except StoreError Unit :=
  if fails then (t, .error .internal)
  else if unique : ((t.rows.map (confirmRow user method)).map (·.synthetic)).Nodup then
    if t.rows.any (unconfirmedOf user method) then
      ({ rows := t.rows.map (confirmRow user method)
         keyed c member := by
          obtain ⟨old, present, rfl⟩ := List.mem_map.mp member
          unfold confirmRow
          split_ifs
          · rfl
          · exact t.keyed old present
         unique }, .ok ())
    else (t, .error .notFound)
  else (t, .error .duplicate)

/-- `CredDel`. The soft-deletion that follows when nothing has been deleted always ends in an error
and is rolled back. -/
def credDel (t : Credentials) (fails : Bool) (user : Uid) (method : Option CredMethod)
    (value : String) :
    Credentials × Except StoreError Unit :=
  let removed (c : Credential) : Bool :=
    c.user == user &&
      match method with
      | none => true
      | some m => c.method == m && (value == "" || c.value == value) && (c.done || c.retries == 0)
  if fails then (t, .error .internal)
  else if t.rows.any removed then (t.delete removed, .ok ())
  else (t, .error .notFound)

def credFail (t : Credentials) (user : Uid) (method : CredMethod) : Credentials :=
  t.update
    (fun c =>
      if c.user = user ∧ c.method = method ∧ c.done = false then { c with retries := c.retries + 1 }
      else c)
    (fun c _ => by split_ifs <;> exact ⟨rfl, rfl⟩)

/-- The rows of `synthetic=$1 OR synthetic LIKE '%'||$2`. -/
def candidates (t : Credentials) (method value : String) : List Credential :=
  t.rows.filter fun c =>
    c.synthetic == synthOf method value ||
      Like.like c.synthetic.toList ('%' :: (":" ++ synthOf method value).toList)

end Credentials

/-- `LIMIT 1` without an order: some row, if there is one. -/
structure Limit1 where
  pick : List Credential → Option Credential
  mem : ∀ rows c, pick rows = some c → c ∈ rows
  total : ∀ rows, pick rows = none → rows = []

def Credentials.userGetByCredAll (t : Credentials) (limit : Limit1) (fails : Bool)
    (method value : String) : Except StoreError Uid :=
  if fails then .error .internal
  else
    match limit.pick (t.candidates method value) with
    | none => .ok 0
    | some c => .ok c.user

/-- The value asked for leads to the credential: to the validated one with that value, to every
unvalidated one with a value like it, and to every one whose own value repeats the question. -/
def Reaches (method value : String) (c : Credential) : Prop :=
  (c.method.name = method ∧
    if c.done then c.value = value else Like.like c.value.toList value.toList) ∨
  ∃ rest, Like.like rest value.toList ∧
    (c.value.toList = method.toList ++ ':' :: rest ∨
      ∃ front, c.value.toList = front ++ ':' :: (method.toList ++ ':' :: rest))

/-- The name of a method, up to letter case. -/
structure NamesMethod (method : String) : Prop where
  plain : ∀ c ∈ method.toList, Like.Plain c
  colon : ':' ∉ method.toList
  length : method.toList.length = 3 ∨ method.toList.length = 5

theorem NamesMethod.ne_uidText (named : NamesMethod method) (uid : Uid) :
    (uidText uid).toList ≠ method.toList := by
  intro same
  have length := named.length
  rw [← same] at length
  rcases uidText_length uid with short | long <;> omega

/-- The text of a credential contains the question. -/
theorem repeats_iff {value rest : List Char} :
    (∃ front, k.name.toList ++ ':' :: value = front ++ ':' :: (method.toList ++ ':' :: rest)) ↔
      value = method.toList ++ ':' :: rest ∨
        ∃ front, value = front ++ ':' :: (method.toList ++ ':' :: rest) := by
  simp only [cut_at_some_colon k.name_colon, exists_or]
  simp

theorem unconfirmed_repeats_iff (named : NamesMethod method) {value rest : List Char} :
    (∃ front, (uidText user).toList ++ ':' :: (k.name.toList ++ ':' :: value) =
        front ++ ':' :: (method.toList ++ ':' :: rest)) ↔
      (k.name.toList = method.toList ∧ value = rest) ∨ value = method.toList ++ ':' :: rest ∨
        ∃ front, value = front ++ ':' :: (method.toList ++ ':' :: rest) := by
  rw [← repeats_iff, ← cut_at_colon k.name_colon named.colon]
  simp only [cut_at_some_colon (uidText_colon user), exists_or, exists_eq_left]
  refine or_congr_right ⟨?_, ?_⟩
  · rintro ⟨_, middle, -, same⟩
    exact ⟨middle, same⟩
  · rintro ⟨middle, same⟩
    exact ⟨_, middle, rfl, same⟩

theorem like_synthetic_iff (named : NamesMethod method) (s : List Char) :
    Like.like s ('%' :: (":" ++ synthOf method value).toList) ↔
      ∃ rest, Like.like rest value.toList ∧
        ∃ front, s = front ++ ':' :: (method.toList ++ ':' :: rest) := by
  have pattern : (":" ++ synthOf method value).toList =
      (':' :: (method.toList ++ [':'])) ++ value.toList := by simp [synthOf_toList]
  have plain : ∀ c ∈ ':' :: (method.toList ++ [':']), Like.Plain c := by
    intro c mem
    rcases List.mem_cons.mp mem with rfl | mem
    · decide
    rcases List.mem_append.mp mem with mem | mem
    · exact named.plain c mem
    · rw [List.mem_singleton.mp mem]
      decide
  rw [pattern, Like.like_any_plain plain]
  constructor
  · rintro ⟨front, rest, rfl, found⟩
    exact ⟨rest, found, front, by simp⟩
  · rintro ⟨rest, found, front, rfl⟩
    exact ⟨front, rest, by simp, found⟩

/-- The query finds the credentials that the value leads to. -/
theorem mem_candidates (named : NamesMethod method) :
    c ∈ t.candidates method value ↔ c ∈ t.rows ∧ Reaches method value c := by
  rw [Credentials.candidates, List.mem_filter]
  refine and_congr_right fun mem => ?_
  rw [Bool.or_eq_true, beq_iff_eq, like_synthetic_iff named, t.keyed c mem, ← String.toList_inj,
    synthOf_toList, Credential.key, Reaches]
  cases done : c.done with
  | true =>
    rw [if_pos rfl, if_pos rfl, synthOf_toList, cut_at_colon c.method.name_colon named.colon]
    simp [repeats_iff, String.toList_inj]
  | false =>
    simp only [Bool.false_eq_true, if_false]
    rw [unconfirmedSynthOf_toList, cut_at_colon (uidText_colon c.user) named.colon]
    simp only [unconfirmed_repeats_iff named, named.ne_uidText c.user, false_and, false_or]
    simp only [and_or_left, exists_or, String.toList_inj]
    refine or_congr_left ⟨?_, ?_⟩
    · rintro ⟨rest, found, same, rfl⟩
      exact ⟨same, found⟩
    · rintro ⟨same, found⟩
      exact ⟨_, found, same, rfl⟩

end LastochkaServer.Source
