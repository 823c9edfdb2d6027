import LastochkaServer.Lib.Run
import LastochkaServer.Source.PhonePreverify

/-!
# A session is verified once

A session for the verification of a telephone number is reported at most once, before it expires,
and by SMS only with its last code, in every run in which a request to confirm finds its session as
it was when it comes to delete it, and in time. The code does not look again, so that a run in which
requests cross breaks each of the three.
-/

namespace LastochkaServer.Guarantees.SingleVerification

open Source Auth Lib.Run

/-- Sessions are reported at most once, before they expire, and by SMS with the last code. -/
structure Sound (s : Preverification) : Prop where
  once : (s.reports.map (·.session)).Nodup
  timely : ∀ r ∈ s.reports, r.time < r.expiresAt
  latest : ∀ r ∈ s.reports, r.code ≠ "" → r.code = r.generated

/-- A request to confirm comes to delete its session before it expires, and the session is as it was
read. -/
def Undisturbed (s : Preverification) : PreverifyEvent → Prop
  | .finish index now =>
    ∀ c ∈ s.inFlight[index]?, s.entries c.id = some c.entry ∧ now < c.entry.expiresAt
  | _ => True

instance (s : Preverification) : ∀ event, Decidable (Undisturbed s event)
  | .start .. => inferInstanceAs (Decidable True)
  | .resendSms .. => inferInstanceAs (Decidable True)
  | .read .. => inferInstanceAs (Decidable True)
  | .finish .. => @Option.decidableForallMem _ _ (fun _ => inferInstance) _

/-- What holds of the sessions in the map and of the requests in flight. -/
structure Orderly (s : Preverification) : Prop where
  sound : Sound s
  /-- The codes in the map are the last ones. -/
  known : ∀ id e, s.entries id = some e → e.session < s.sessions ∧ e.smsCode = s.generated e.session
  /-- A session is in the map once. -/
  apart : ∀ id id' e e', s.entries id = some e → s.entries id' = some e' → e.session = e'.session →
    id = id'
  /-- A session in the map has not been reported. -/
  unreported : ∀ id e, s.entries id = some e → e.session ∉ s.reports.map (·.session)
  started : ∀ n ∈ s.reports.map (·.session), n < s.sessions
  unused : ∀ n, s.sessions ≤ n → s.generated n = ""
  matching : ∀ c ∈ s.inFlight, c.code ≠ "" → c.code = c.entry.smsCode

theorem orderly_begin : Orderly .begin where
  sound := ⟨List.nodup_nil, fun _ mem => absurd mem List.not_mem_nil,
    fun _ mem => absurd mem List.not_mem_nil⟩
  known _ _ present := by cases present
  apart _ _ _ _ present := by cases present
  unreported _ _ present := by cases present
  started _ mem := absurd mem List.not_mem_nil
  unused _ _ := rfl
  matching _ mem := absurd mem List.not_mem_nil

variable {s : Preverification}

theorem Orderly.of_subset (ord : Orderly s) {entries : PhonePreverifyEntries}
    (subset : ∀ id e, entries id = some e → s.entries id = some e) : Orderly { s with entries } :=
  { ord with
    sound := { ord.sound with }
    known := fun id e present => ord.known id e (subset id e present)
    apart := fun id id' e e' first second =>
    ord.apart id id' e e' (subset id e first) (subset id' e' second)
    unreported := fun id e present => ord.unreported id e (subset id e present) }

theorem orderly_start (ord : Orderly s) (id phone uuid : String) (now : Time) :
    Orderly (s.step (.start id phone uuid now)) := by
  -- An entry of the new map is the new one or an old one elsewhere.
  have cases' :
      ∀ other e, PhonePreverify.start s.entries s.sessions id phone uuid now other = some e →
      (other = id ∧ e.session = s.sessions ∧ e.smsCode = "") ∨ s.entries other = some e := by
    intro other e present
    unfold PhonePreverify.start at present
    by_cases same : other = id
    · subst same
      rw [Function.update_self] at present
      obtain rfl := Option.some.inj present
      exact .inl ⟨rfl, rfl, rfl⟩
    · rw [Function.update_of_ne same] at present
      exact .inr (Option.filter_eq_some_iff.mp present).1
  constructor
  case sound => exact { ord.sound with }
  case known =>
    intro other e present
    rcases cases' other e present with ⟨-, session, code⟩ | old
    · rw [session, code]
      exact ⟨Nat.lt_succ_self _, (ord.unused _ (Nat.le_refl _)).symm⟩
    · exact ⟨Nat.lt_succ_of_lt (ord.known other e old).1, (ord.known other e old).2⟩
  case apart =>
    intro first second e e' one other same
    rcases cases' first e one with ⟨rfl, new, -⟩ | old <;>
      rcases cases' second e' other with ⟨rfl, new', -⟩ | old'
    · rfl
    · exact absurd (ord.known _ _ old').1 (by omega)
    · exact absurd (ord.known _ _ old).1 (by omega)
    · exact ord.apart first second e e' old old' same
  case unreported =>
    intro other e present
    rcases cases' other e present with ⟨-, session, -⟩ | old
    · intro reported
      exact absurd (ord.started _ reported) (by omega)
    · exact ord.unreported other e old
  case started => exact fun n reported => Nat.lt_succ_of_lt (ord.started n reported)
  case unused => exact fun n later => ord.unused n (Nat.le_of_succ_le later)
  case matching => exact ord.matching

theorem orderly_code (ord : Orderly s) {id : String} {entry : PhonePreverifyEntry}
    (present : s.entries id = some entry) (code : String) :
    Orderly { s with
      entries := Function.update s.entries id (some { entry with smsCode := code })
      generated := Function.update s.generated entry.session code } := by
  have cases' :
      ∀ other e, Function.update s.entries id (some { entry with smsCode := code }) other = some e →
      (other = id ∧ e = { entry with smsCode := code }) ∨
      (other ≠ id ∧ s.entries other = some e) := by
    intro other e found
    by_cases same : other = id
    · subst same
      rw [Function.update_self] at found
      exact .inl ⟨rfl, (Option.some.inj found).symm⟩
    · rw [Function.update_of_ne same] at found
      exact .inr ⟨same, found⟩
  constructor
  case sound => exact { ord.sound with }
  case known =>
    intro other e found
    rcases cases' other e found with ⟨rfl, rfl⟩ | ⟨elsewhere, old⟩
    · exact ⟨(ord.known other entry present).1,
        (Function.update_self entry.session code s.generated).symm⟩
    · have ne : e.session ≠ entry.session := fun same =>
        elsewhere (ord.apart other id e entry old present same)
      exact ⟨(ord.known other e old).1,
        (ord.known other e old).2.trans (Function.update_of_ne ne code s.generated).symm⟩
  case apart =>
    intro first second e e' one other same
    rcases cases' first e one with ⟨rfl, rfl⟩ | ⟨-, old⟩ <;>
      rcases cases' second e' other with ⟨rfl, rfl⟩ | ⟨-, old'⟩
    · rfl
    · exact ord.apart _ _ entry e' present old' same
    · exact ord.apart _ _ e entry old present same
    · exact ord.apart _ _ e e' old old' same
  case unreported =>
    intro other e found
    rcases cases' other e found with ⟨rfl, rfl⟩ | ⟨-, old⟩
    · exact ord.unreported other entry present
    · exact ord.unreported other e old
  case started => exact ord.started
  case unused =>
    intro n later
    have other : n ≠ entry.session := by
      rintro rfl
      exact absurd (ord.known id entry present).1 (Nat.not_lt.mpr later)
    exact (Function.update_of_ne other code s.generated).trans (ord.unused n later)
  case matching => exact ord.matching

theorem orderly_resendSms (ord : Orderly s) (id : String) (now later : Time) (code : Option String) :
    Orderly (s.step (.resendSms id now later code)) := by
  have subset : ∀ other e, (PhonePreverify.fetch s.entries id now).1 other = some e →
      s.entries other = some e :=
    fun _ _ present => PhonePreverify.fetch_subset present
  have found : ∀ entry, (PhonePreverify.fetch s.entries id now).2 = some entry → _ :=
    fun _ => PhonePreverify.fetch_some
  rw [Preverification.step, PhonePreverify.resendSms]
  generalize PhonePreverify.fetch s.entries id now = fetched at subset found
  obtain ⟨entries, _ | entry⟩ := fetched
  · exact ord.of_subset subset
  · obtain ⟨present, rfl⟩ := found entry rfl
    by_cases early : later < entry.createdAt + phonePreverifySmsFallbackDelay
    · simp only [if_pos early]
      exact ord.of_subset subset
    · simp only [if_neg early]
      cases code with
      | none => exact ord.of_subset subset
      | some code => exact orderly_code ord present code

theorem orderly_read (ord : Orderly s) (id code : String) (now : Time) (poll : Nat → Option String) :
    Orderly (s.step (.read id code now poll)) := by
  have subset : ∀ other e, (PhonePreverify.fetch s.entries id now).1 other = some e →
      s.entries other = some e :=
    fun _ _ present => PhonePreverify.fetch_subset present
  rw [Preverification.step]
  generalize PhonePreverify.fetch s.entries id now = fetched at subset
  obtain ⟨entries, _ | entry⟩ := fetched
  · exact ord.of_subset subset
  · have fewer := ord.of_subset subset
    cases accepted : PhonePreverify.examine entry code poll with
    | error reply =>
      simp only [accepted]
      exact fewer
    | ok =>
      simp only [accepted]
      refine { fewer with sound := { fewer.sound with }, matching := ?_ }
      intro c mem given
      rcases List.mem_cons.mp mem with rfl | old
      · exact PhonePreverify.examine_code accepted given
      · exact fewer.matching c old given

theorem orderly_finished (ord : Orderly s) {index : Nat} {c : PendingConfirm}
    (taken : s.inFlight[index]? = some c) {now : Time} (present : s.entries c.id = some c.entry)
    (early : now < c.entry.expiresAt) : Orderly (s.finished index c now) := by
  have deleted : ∀ id e, Function.update s.entries c.id none id = some e → s.entries id = some e ∧
      id ≠ c.id :=
    fun _ _ found => PhonePreverify.some_of_delete found
  have flying := List.mem_of_getElem? taken
  constructor
  case sound =>
    refine ⟨List.nodup_cons.mpr ⟨ord.unreported c.id c.entry present, ord.sound.once⟩, ?_, ?_⟩
    · intro r mem
      rcases List.mem_cons.mp mem with rfl | old
      · exact early
      · exact ord.sound.timely r old
    · intro r mem given
      rcases List.mem_cons.mp mem with rfl | old
      · exact (ord.matching c flying given).trans (ord.known c.id c.entry present).2
      · exact ord.sound.latest r old given
  case known => exact fun id e found => ord.known id e (deleted id e found).1
  case apart =>
    exact fun id id' e e' one other =>
      ord.apart id id' e e' (deleted id e one).1 (deleted id' e' other).1
  case unreported =>
    intro id e found reported
    obtain ⟨old, elsewhere⟩ := deleted id e found
    rcases List.mem_cons.mp reported with same | earlier
    · exact elsewhere (ord.apart id c.id e c.entry old present same)
    · exact ord.unreported id e old earlier
  case started =>
    intro n reported
    rcases List.mem_cons.mp reported with rfl | earlier
    · exact (ord.known c.id c.entry present).1
    · exact ord.started n earlier
  case unused => exact ord.unused
  case matching => exact fun other mem => ord.matching other (List.mem_of_mem_eraseIdx mem)

theorem orderly_step (event : PreverifyEvent) (ord : Orderly s) (undisturbed : Undisturbed s event) :
    Orderly (s.step event) := by
  cases event with
  | start id phone uuid now => exact orderly_start ord id phone uuid now
  | resendSms id now later code => exact orderly_resendSms ord id now later code
  | read id code now poll => exact orderly_read ord id code now poll
  | finish index now =>
    rw [Preverification.step]
    split
    · exact ord
    · next c taken =>
      obtain ⟨present, early⟩ := undisturbed c taken
      exact orderly_finished ord taken present early

/-- In every run in which requests to confirm find their session as it was, and in time, each
session is reported at most once, before it expires, and by SMS only with the last code generated
for it. -/
theorem verified_once (events : List PreverifyEvent)
    (undisturbed : Guarded Preverification.step Undisturbed .begin events) :
    Sound (run Preverification.step .begin events) :=
  (run_invariant (fun _ event => orderly_step event) orderly_begin undisturbed).sound

/-- The call never arrives. -/
def noCall : Nat → Option String := fun _ => some "queued"

/-- A session with a code by SMS, requested a minute later. -/
def withCode : List PreverifyEvent :=
  [.start "a" "+79161234567" "u" 0, .resendSms "a" (60 * second) (60 * second) (some "1111")]

/-- A session is confirmed with its second code. -/
theorem second_code_verified :
    Guarded Preverification.step Undisturbed .begin
      (withCode ++
        [.resendSms "a" (90 * second) (90 * second) (some "2222"),
          .read "a" "1111" (99 * second) noCall,
        .read "a" "2222" (99 * second) noCall, .finish 0 (100 * second)]) ∧
      Sound (run Preverification.step .begin
        (withCode ++
          [.resendSms "a" (90 * second) (90 * second) (some "2222"),
            .read "a" "1111" (99 * second) noCall,
          .read "a" "2222" (99 * second) noCall, .finish 0 (100 * second)])) :=
  ⟨by decide, verified_once _ (by decide)⟩

/-- A session is reported twice when two requests read it before one of them deletes it, after it
has expired when the polls take long, and with a replaced code when a new one is generated in
between. -/
theorem crossing_requests :
    (run Preverification.step .begin
      (withCode ++ [.read "a" "1111" (99 * second) noCall, .read "a" "1111" (99 * second) noCall,
        .finish 0 (99 * second), .finish 0 (99 * second)])).reports.map (·.session) = [0, 0] ∧
    (run Preverification.step .begin
      [.start "a" "+79161234567" "u" 0, .read "a" "" (599 * second) fun _ => some "wcall_delivered",
        .finish 0 (601 * second)]).reports.map (fun r => (r.time, r.expiresAt)) =
          [(601 * second, 600 * second)] ∧
    (run Preverification.step .begin
      (withCode ++ [.read "a" "1111" (99 * second) noCall,
        .resendSms "a" (99 * second) (99 * second) (some "2222"),
          .finish 0 (99 * second)])).reports.map
          (fun r => (r.code, r.generated)) = [("1111", "2222")] :=
  ⟨by decide, by decide, by decide⟩

end LastochkaServer.Guarantees.SingleVerification
