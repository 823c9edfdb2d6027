import LastochkaServer.Lib.Run
import LastochkaServer.Source.TopicName

/-!
# Invites

An invite lets a limited number of people register (`server/invites.go`,
`server/invites_postgres.go`). Its row is edited by the inviter and consumed by registrations:
`updateInviteRecord`, `revokeInviteRecord` and `consumeInviteForRegistration`
(`server/invites_postgres.go:190-258, 301-397`).

These requests run concurrently on one invite. Every SQL statement is atomic and sees what is
committed; a statement that changes the row, and `SELECT ... FOR UPDATE`, wait for the transaction
that has locked it. Left out: the columns `created_at` and `updated_at`, and the texts of times, of
which only the parsed value is kept.
-/

namespace LastochkaServer.Source

open Lib Auth

inductive InviteStatus
  | active | revoked | expired
  deriving DecidableEq, Repr

/-- A row of `invites`. -/
structure Invite where
  id : String
  inviterUserId : String
  status : InviteStatus := .active
  maxUses : Int
  useCount : Int := 0
  note : String := ""
  expiresAt : Option Time := none
  lastUsedAt : Option Time := none
  deriving DecidableEq, Repr

/-- What a text for `expires_at` says. -/
inductive ExpiryText
  | cleared
  | parsed (t : Time)
  | malformed
  deriving DecidableEq, Repr

structure UpdateInviteRequest where
  status : Option InviteStatus := none
  maxUses : Option Int := none
  note : Option String := none
  expiresAt : Option ExpiryText := none
  deriving DecidableEq, Repr

/-- What `updateInviteRecord` makes of the row that it has read; a malformed time ends it. -/
def Invite.merge (item : Invite) (req : UpdateInviteRequest) : Option Invite :=
  let item :=
    { item with
      status := req.status.getD item.status
      maxUses := req.maxUses.getD item.maxUses
      note := req.note.getD item.note }
  match req.expiresAt with
  | none => some item
  | some .cleared => some { item with expiresAt := none }
  | some (.parsed t) => some { item with expiresAt := some t }
  | some .malformed => none

/-- The columns that the `UPDATE` of `updateInviteRecord` sets. -/
def Invite.overwrite (row item : Invite) : Invite :=
  { row with
    status := item.status, maxUses := item.maxUses, note := item.note, expiresAt := item.expiresAt }

/-- The `UPDATE` of `revokeInviteRecord`. -/
def Invite.revoke (row : Invite) : Invite := { row with status := .revoked }

def Invite.isExpired (row : Invite) (now : Time) : Bool := row.expiresAt.any (· < now)

/-- The checks of `consumeInviteForRegistration`: why the invite cannot be used. -/
def Invite.refusal (row : Invite) (now : Time) (user : String) : Option String :=
  if row.status ≠ .active then some "invite_inactive"
  else if row.isExpired now then some "invite_expired"
  else if row.useCount ≥ row.maxUses then some "invite_exhausted"
  else if row.inviterUserId = user then some "self_invite_not_allowed"
  else none

/-- The last `UPDATE` of `consumeInviteForRegistration`. -/
def Invite.used (row : Invite) (now : Time) : Invite :=
  let newUseCount := row.useCount + 1
  { row with
    useCount := newUseCount
    status := if newUseCount ≥ row.maxUses then .expired else row.status
    lastUsedAt := some now }

/-- How far a registration has got in its transaction. -/
inductive TxPhase
  | selected | inserted | updated
  /-- The function returns an error, and the deferred rollback is still to come. -/
  | refused (err : String)
  deriving DecidableEq, Repr

/-- The transaction that has locked the row. -/
structure RegistrationTx where
  uid : Uid
  now : Time
  /-- The row as the transaction sees it. -/
  row : Invite
  phase : TxPhase
  deriving DecidableEq, Repr

/-- `SELECT ... FOR UPDATE`, the checks, and the statement that marks an expired invite. -/
def selectForUpdate (row : Invite) (uid : Uid) (now : Time) : RegistrationTx :=
  match row.refusal now (userId uid) with
  | none => { uid, now, row, phase := .selected }
  | some err =>
    { uid, now, row := if err = "invite_expired" then { row with status := .expired } else row
      phase := .refused err }

inductive TxOutcome
  | committed
  | failed (err : String)
  deriving DecidableEq, Repr

/-- How a registration has ended. -/
structure EndedTx where
  uid : Uid
  outcome : TxOutcome
  /-- The row that it has left. -/
  row : Invite
  /-- The invite had been revoked before. -/
  afterRevocation : Bool
  deriving DecidableEq, Repr

/-- One invite and the requests that work on it. -/
structure InviteState where
  row : Invite
  tx : Option RegistrationTx := none
  /-- Updates between their two statements, with what they are going to write. -/
  updates : GoMap Nat Invite := ∅
  /-- The users in `invite_registrations` for this invite. -/
  registrations : List Uid := []
  /-- A revocation has been committed. -/
  revoked : Bool := false
  ended : List EndedTx := []

inductive InviteEvent
  /-- The `SELECT` of an update, with the request merged into what it returns. -/
  | read (op : Nat) (req : UpdateInviteRequest)
  /-- The `UPDATE` of an update. -/
  | write (op : Nat)
  | revoke
  | select (uid : Uid) (now : Time)
  /-- `INSERT INTO invite_registrations`, and the signals. -/
  | insert
  /-- `UPDATE invites SET use_count`. -/
  | update
  | commit
  /-- The deferred rollback, after an error of the function, of a statement or of the commit. -/
  | rollback
  deriving DecidableEq, Repr

namespace InviteState

/-- The transaction ends with the given outcome. -/
def finish (s : InviteState) (tx : RegistrationTx) (outcome : TxOutcome) : InviteState :=
  { s with
    tx := none
    ended := { uid := tx.uid, outcome, row := s.row, afterRevocation := s.revoked } :: s.ended }

/-- A step inside of the transaction. -/
def advance (s : InviteState) (tx : RegistrationTx) : InviteEvent → InviteState
  | .insert =>
    match tx.phase with
    | .selected =>
      if tx.uid ∈ s.registrations then
        { s with
          tx := some { tx with phase := .refused "duplicate key value violates unique constraint" } }
      else { s with tx := some { tx with phase := .inserted } }
    | _ => s
  | .update =>
    match tx.phase with
    | .inserted => { s with tx := some { tx with row := tx.row.used tx.now, phase := .updated } }
    | _ => s
  | .commit =>
    match tx.phase with
    | .updated =>
      { s with row := tx.row, registrations := tx.uid :: s.registrations }.finish tx .committed
    | _ => s
  | .rollback =>
    match tx.phase with
    | .refused err => s.finish tx (.failed err)
    | _ => s.finish tx (.failed "driver error")
  | _ => s

/-- A step outside of transactions, while the row is not locked. -/
def unlocked (s : InviteState) : InviteEvent → InviteState
  | .write op =>
    match s.updates.lookup op with
    | some item => { s with row := s.row.overwrite item, updates := s.updates.erase op }
    | none => s
  | .revoke => { s with row := s.row.revoke, revoked := true }
  | .select uid now => { s with tx := some (selectForUpdate s.row uid now) }
  | _ => s

/-- One statement. A statement that has to wait for the lock does nothing yet. -/
def step (s : InviteState) : InviteEvent → InviteState
  | .read op req =>
    match s.row.merge req with
    | some item => { s with updates := s.updates.insert op item }
    | none => s
  | e =>
    match s.tx with
    | some tx => s.advance tx e
    | none => s.unlocked e

end InviteState

end LastochkaServer.Source
