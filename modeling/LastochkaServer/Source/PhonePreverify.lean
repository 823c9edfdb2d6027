import LastochkaServer.Source.Auth.Token

/-!
# Verification of a telephone number before registration

`server/phone_preverify.go:59-307`. A session starts with a call that the user is asked to make; a
code by SMS is the fallback. The sessions are kept in a map behind a lock. A request to confirm
reads the session under the lock, then compares the code or polls the status of the call without the
lock, and deletes the session under the lock before it reports the number as verified.

The lock regions are the steps of the model, in any order. What the operator answers is arbitrary.
Left out: the checks before a session is started, sending, and the normal form of the number, which
is not read again.
-/

namespace LastochkaServer.Source

open Auth

variable {entry : PhonePreverifyEntry} {entries : PhonePreverifyEntries} {id other : String}
  {now : Time}

def phonePreverifyTTL : Duration := 10 * 60 * second
def phonePreverifySmsFallbackDelay : Duration := 60 * second

structure PhonePreverifyEntry where
  /-- The number of the session, for reference only. -/
  session : Nat
  phone : String
  uuid : String
  smsCode : String := ""
  createdAt : Time
  expiresAt : Time
  deriving DecidableEq

abbrev PhonePreverifyEntries := String → Option PhonePreverifyEntry

inductive PreverifyReply
  | error (status : Nat) (text : String)
  | notAvailableYet (retryAfterSeconds : Int)
  | verified (phone : String)
  deriving DecidableEq

namespace PhonePreverify

def expired : PreverifyReply := .error 410 "verification session expired"

/-- The entry of a session; an expired one is deleted. -/
def fetch (entries : PhonePreverifyEntries) (id : String) (now : Time) :
    PhonePreverifyEntries × Option PhonePreverifyEntry :=
  match entries id with
  | none => (entries, none)
  | some entry =>
    if entry.expiresAt < now then (Function.update entries id none, none) else (entries, some entry)

/-- The lock region of `handlePhonePreverifyStart`. -/
def start (entries : PhonePreverifyEntries) (session : Nat) (id phone uuid : String) (now : Time) :
    PhonePreverifyEntries :=
  Function.update (fun other => (entries other).filter fun e => ¬ e.expiresAt < now) id
    (some { session, phone, uuid, createdAt := now, expiresAt := now + phonePreverifyTTL })

/-- The lock region of `handlePhonePreverifyResendSms`, which reads the clock twice. The code is
absent if it cannot be generated. -/
def resendSms (entries : PhonePreverifyEntries) (id : String) (now later : Time)
    (code : Option String) :
    PhonePreverifyEntries × Except PreverifyReply PhonePreverifyEntry :=
  match fetch entries id now with
  | (entries, none) => (entries, .error expired)
  | (entries, some entry) =>
    let availableAt := entry.createdAt + phonePreverifySmsFallbackDelay
    if later < availableAt then
      (entries, .error (.notAvailableYet ((availableAt - later + second - 1) / second)))
    else
      match code with
      | none => (entries, .error (.error 500 "failed to generate code"))
      | some code =>
        let entry := { entry with smsCode := code }
        (Function.update entries id (some entry), .ok entry)

/-- The loop over at most `n` polls: the last status, and whether the last poll failed. -/
def pollLoop (poll : Nat → Option String) : Nat → Nat → String × Bool → String × Bool
  | 0, _, last => last
  | n + 1, i, _ =>
    match poll i with
    | none => pollLoop poll n (i + 1) ("", true)
    | some status =>
      if status ∈ ["wcall_delivered", "timeout", "undelivered", "error"] then (status, false)
      else pollLoop poll n (i + 1) (status, false)

/-- What `handlePhonePreverifyConfirm` does between its lock regions. -/
def examine (entry : PhonePreverifyEntry) (code : String) (poll : Nat → Option String) :
    Except PreverifyReply Unit :=
  if code ≠ "" then
    if entry.smsCode = "" then .error (.error 400 "sms code was not requested")
    else if code ≠ entry.smsCode then .error (.error 400 "неверный код")
    else .ok ()
  else
    match pollLoop poll 8 0 ("", false) with
    | (status, failed) =>
      if status = "wcall_delivered" then .ok ()
      else if failed then .error (.error 400 "ошибка проверки статуса звонка")
      else
        .error (.error 400
          ("звонок не обнаружен. убедитесь, что вы позвонили с номера " ++ entry.phone))

theorem examine_code {code : String} {poll : Nat → Option String}
    (passed : examine entry code poll = .ok ()) (given : code ≠ "") : code = entry.smsCode := by
  unfold examine at passed
  split_ifs at passed with _ ne
  exact not_not.mp ne

theorem some_of_delete (present : Function.update entries id none other = some entry) :
    entries other = some entry ∧ other ≠ id := by
  by_cases same : other = id
  · subst same
    rw [Function.update_self] at present
    cases present
  · rw [Function.update_of_ne same] at present
    exact ⟨present, same⟩

theorem fetch_subset (present : (fetch entries id now).1 other = some entry) :
    entries other = some entry := by
  unfold fetch at present
  split at present
  · exact present
  · split_ifs at present
    · exact (some_of_delete present).1
    · exact present

theorem fetch_some (found : (fetch entries id now).2 = some entry) :
    entries id = some entry ∧ (fetch entries id now).1 = entries := by
  unfold fetch at found ⊢
  split at found
  · cases found
  · next looked =>
    split_ifs at found ⊢
    exact ⟨looked.trans found, rfl⟩

end PhonePreverify

/-- A request to confirm between its lock regions, with its session found and its code or call
accepted. -/
structure PendingConfirm where
  id : String
  code : String
  entry : PhonePreverifyEntry

/-- A session has been reported as verified, by a code or, if that is blank, by a call. The last
code generated for the session by then is noted. -/
structure PreverifyReport where
  session : Nat
  time : Time
  expiresAt : Time
  code : String
  generated : String
  deriving DecidableEq

structure Preverification where
  entries : PhonePreverifyEntries
  /-- The number of sessions started. -/
  sessions : Nat
  /-- The last code generated for a session. -/
  generated : Nat → String
  inFlight : List PendingConfirm
  reports : List PreverifyReport

/-- The lock regions, with the time they are entered. -/
inductive PreverifyEvent
  | start (id phone uuid : String) (now : Time)
  | resendSms (id : String) (now later : Time) (code : Option String)
  | read (id code : String) (now : Time) (poll : Nat → Option String)
  | finish (index : Nat) (now : Time)

namespace Preverification

def begin : Preverification := ⟨fun _ => none, 0, fun _ => "", [], []⟩

/-- Second lock region of a request to confirm, and the report. -/
def finished (s : Preverification) (index : Nat) (c : PendingConfirm) (now : Time) :
    Preverification :=
  { s with
    entries := Function.update s.entries c.id none
    inFlight := s.inFlight.eraseIdx index
    reports :=
      ⟨c.entry.session, now, c.entry.expiresAt, c.code, s.generated c.entry.session⟩ :: s.reports }

def step (s : Preverification) : PreverifyEvent → Preverification
  | .start id phone uuid now =>
    { s with
      entries := PhonePreverify.start s.entries s.sessions id phone uuid now
      sessions := s.sessions + 1 }
  | .resendSms id now later code =>
    match PhonePreverify.resendSms s.entries id now later code with
    | (entries, .error _) => { s with entries }
    | (entries, .ok entry) =>
      { s with entries, generated := Function.update s.generated entry.session entry.smsCode }
  | .read id code now poll =>
    match PhonePreverify.fetch s.entries id now with
    | (entries, none) => { s with entries }
    | (entries, some entry) =>
      match PhonePreverify.examine entry code poll with
      | .error _ => { s with entries }
      | .ok () => { s with entries, inFlight := ⟨id, code, entry⟩ :: s.inFlight }
  | .finish index now =>
    match s.inFlight[index]? with
    | none => s
    | some c => s.finished index c now

end Preverification

end LastochkaServer.Source
