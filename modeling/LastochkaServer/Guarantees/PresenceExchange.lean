import LastochkaServer.Lib.Run
import LastochkaServer.Source.Topic.Contacts

/-!
# The exchange of presence

Two results about `server/pres.go`.

`muted_offline_iff`: in a `me` topic every contact whose updates are not wanted is recorded as
offline, in every state of a run, just when no topic that is not on the list reports itself online
without asking to be enabled. The branch for a contact already listed keeps a muted contact off;
the branch that adds a new contact records the status it is given.

`replies_at_most_two`: a notification sets off at most two replies, whatever the states of the
topics are. Only a reply to a status probe asks for a reply in return.
-/

namespace LastochkaServer.Guarantees.PresenceExchange

open Lib Lib.Run Source

variable {name what : String} {t t' : PresTopic} {msg reply : Pres} {after : PresTopic × List Pres}
  {r : StatusReport}

/-- What happens to the list of contacts of a `me` topic. -/
inductive ContactEvent
  | notification (msg : Pres)
  | load (subs : List (String × Bool))
  | announce (what : String)
  | pause (inactive : Bool)

/-- A panic stops the server, so nothing follows it. -/
def contactStep (t : PresTopic) : ContactEvent → PresTopic
  | .notification msg =>
    match handlePresence t msg with
    | .error _ => t
    | .ok (t, _) => t
  | .load subs => t.loadContacts subs
  | .announce what =>
    match presUsersOfInterest t what with
    | .error _ => t
    | .ok (t, _) => t
  | .pause inactive => { t with inactive := inactive }

def initTopicMe (name : String) : PresTopic := { name := name, cat := .me, xoriginal := "me" }

/-- Every contact that is not enabled is recorded as offline. -/
def MutedOffline (t : PresTopic) : Prop :=
  ∀ key psd, t.perSubs.lookup key = some psd → psd.enabled = false → psd.online = false

/-- A topic that is not on the list. -/
def Stranger (t : PresTopic) (src : String) : Prop :=
  src ≠ t.name ∧ t.perSubs.lookup src = none

/-- The sender is online and asks neither to be enabled nor to be removed. -/
def announcesOnline (what : String) : Bool :=
  (splitCommand what).1 == "on" && (splitCommand what).2 != "en" && (splitCommand what).2 != "rem"

theorem announcesOnline_of_report
    (read : statusReport (splitCommand what).1 (splitCommand what).2 = some r)
    (online : r.online.getD false) (unasked : r.cmd ≠ "en") (stays : r.cmd ≠ "rem") :
    announcesOnline what := by
  unfold announcesOnline
  unfold statusReport at read
  split at read
  · next on =>
    cases read
    simp_all
  all_goals
    cases read
    try simp at online

/-- A stranger who reports to an active topic to be online asks to be enabled. -/
def Introduced (t : PresTopic) : ContactEvent → Prop
  | .notification msg => announcesOnline msg.what → Stranger t msg.src → t.inactive
  | _ => True

namespace MutedOffline

section

variable (muted : MutedOffline t)
include muted

theorem insert (key : String) (psd : PerSubsData) (off : psd.enabled = false → psd.online = false) :
    MutedOffline { t with perSubs := t.perSubs.insert key psd } := by
  intro other found listed
  rcases GoMap.lookup_insert_eq_some.mp listed with ⟨rfl, rfl⟩ | ⟨-, listed⟩
  · exact off
  · exact muted other found listed

theorem erase (key : String) : MutedOffline { t with perSubs := t.perSubs.erase key } :=
  fun other found listed => muted other found (GoMap.lookup_erase_eq_some.mp listed).2

theorem addToPerSubs (topic : String) (online enabled : Bool)
    (off : topic ≠ t.name → enabled = false → online = false) :
    MutedOffline (t.addToPerSubs topic online enabled) := by
  unfold PresTopic.addToPerSubs
  split_ifs with own
  · exact muted
  · exact muted.insert _ _ (off own)

theorem loadContacts (subs : List (String × Bool)) : MutedOffline (t.loadContacts subs) := by
  induction subs generalizing t with
  | nil => exact muted
  | cons sub rest ih => exact ih (muted.addToPerSubs sub.1 false sub.2 fun _ _ => rfl)

theorem presContact {topic : String} {sent : List Pres}
    (told : presContact what (t, sent) topic = .ok after) :
    MutedOffline after.1 := by
  unfold Source.presContact at told
  dsimp only at told
  split at told
  · cases told
    exact muted
  next psd listed =>
  obtain ⟨notifyOn, -, told⟩ := bind_ok told
  cases notifyOn with
  | none =>
    cases told
    exact muted
  | some notifyOn =>
    cases told
    dsimp only
    split_ifs
    · exact muted.insert _ _ fun _ => rfl
    · exact muted

theorem presUsersOfInterest (told : presUsersOfInterest t what = .ok after) :
    MutedOffline after.1 := by
  have preserved :
      ∀ (state : PresTopic × List Pres) (topic : String) (state' : PresTopic × List Pres),
      MutedOffline state.1 → Source.presContact what state topic = .ok state' →
      MutedOffline state'.1 :=
    fun _ _ _ muted told => presContact muted told
  exact foldlM_invariant preserved muted told

end

end MutedOffline

/-- What is known of the topic in every state of a run, besides the list. -/
structure Master (name : String) (t : PresTopic) : Prop where
  me : t.cat = .me
  name : t.name = name
  master : t.isProxy = false

theorem addToPerSubs_master (master : Master name t) (topic : String) (online enabled : Bool) :
    Master name (t.addToPerSubs topic online enabled) := by
  unfold PresTopic.addToPerSubs
  split_ifs
  · exact master
  · exact { master with }

theorem recorded_master {src : String} (recorded : Recorded t src r t') (master : Master name t) :
    Master name t' := by
  cases recorded with
  | kept => exact master
  | removed
  | updated => exact { master with }
  | added => exact addToPerSubs_master master _ _ _

theorem handlePresence_cases {forward : Option String} {reply : Option Pres} (master : Master name t)
    (handled : handlePresence t msg = .ok (t', forward, reply)) :
    t' = t ∨ t.inactive = false ∧ ∃ r,
      statusReport (splitCommand msg.what).1 (splitCommand msg.what).2 = some r ∧
      Recorded t msg.src r t' := by
  obtain ⟨⟨updated, what, answer⟩, processed, ran⟩ := bind_ok handled
  cases ran
  unfold procPresReq at processed
  cases active : t.inactive with
  | true =>
    simp only [active, if_true] at processed
    cases processed
    exact .inl rfl
  | false =>
    simp only [active, master.master, Bool.false_eq_true, if_false] at processed
    cases read : statusReport (splitCommand msg.what).1 (splitCommand msg.what).2 with
    | none =>
      simp only [read] at processed
      cases processed
      exact .inl rfl
    | some r =>
      simp only [read] at processed
      obtain ⟨⟨recorded, rest⟩, done, ran⟩ := bind_ok processed
      cases ran
      rw [noteReport, if_pos master.me] at done
      exact .inr ⟨rfl, r, rfl, recordReport_cases done⟩

theorem presUsersOfInterest_master (told : presUsersOfInterest t what = .ok after)
    (master : Master name t) : Master name after.1 := by
  have preserved :
      ∀ (state : PresTopic × List Pres) (topic : String) (state' : PresTopic × List Pres),
      Master name state.1 → presContact what state topic = .ok state' → Master name state'.1 := by
    intro state topic state' master told
    unfold presContact at told
    dsimp only at told
    split at told
    · cases told
      exact master
    obtain ⟨notifyOn, -, told⟩ := bind_ok told
    cases notifyOn with
    | none =>
      cases told
      exact master
    | some notifyOn =>
      cases told
      split_ifs
      · exact { master with }
      · exact master
  exact foldlM_invariant preserved master told

theorem loadContacts_master (subs : List (String × Bool)) (master : Master name t) :
    Master name (t.loadContacts subs) := by
  induction subs generalizing t with
  | nil => exact master
  | cons sub rest ih =>
    exact ih (addToPerSubs_master master sub.1 false sub.2)

theorem stranger_recorded (master : Master name t) (active : t.inactive = false)
    (online : announcesOnline msg.what) (stranger : Stranger t msg.src) :
    contactStep t (.notification msg) = t.addToPerSubs msg.src true false := by
  simp only [announcesOnline, Bool.and_eq_true, beq_iff_eq, bne_iff_ne] at online
  obtain ⟨⟨on, asked⟩, stays⟩ := online
  have recorded :
      recordReport t msg.src { online := some true, cmd := (splitCommand msg.what).2, what := "on" } =
      .ok (t.addToPerSubs msg.src true false, "") := by
    have unasked : ((splitCommand msg.what).2 == "en") = false := by simpa using asked
    simp [recordReport, stranger.2, stays, asked, unasked, pure, Except.pure]
  simp [contactStep, handlePresence, procPresReq, noteReport, active, master.master, master.me, on,
    statusReport, recorded, pure, Except.pure, bind, Except.bind]

theorem contactStep_preserves (t : PresTopic) (e : ContactEvent)
    (holds : Master name t ∧ MutedOffline t) (introduced : Introduced t e) :
    Master name (contactStep t e) ∧ MutedOffline (contactStep t e) := by
  obtain ⟨master, muted⟩ := holds
  cases e with
  | load subs => exact ⟨loadContacts_master subs master, muted.loadContacts subs⟩
  | pause inactive => exact ⟨{ master with }, muted⟩
  | announce what =>
    cases told : presUsersOfInterest t what with
    | error panic =>
      simp only [contactStep, told]
      exact ⟨master, muted⟩
    | ok after =>
      simp only [contactStep, told]
      exact ⟨presUsersOfInterest_master told master, muted.presUsersOfInterest told⟩
  | notification msg =>
    cases handled : handlePresence t msg with
    | error panic =>
      simp only [contactStep, handled]
      exact ⟨master, muted⟩
    | ok res =>
      obtain ⟨t', forward, reply⟩ := res
      simp only [contactStep, handled]
      rcases handlePresence_cases master handled with rfl | ⟨active, r, read, recorded⟩
      · exact ⟨master, muted⟩
      refine ⟨recorded_master recorded master, ?_⟩
      cases recorded with
      | kept => exact muted
      | removed => exact muted.erase msg.src
      | updated psd keptOff => exact muted.insert msg.src psd keptOff
      | added unlisted stays =>
        apply muted.addToPerSubs
        intro other unasked
        -- only the report of a status other than "on" is left
        by_contra online
        have reported : announcesOnline msg.what := announcesOnline_of_report read
          (by simpa using online) (by simpa using unasked) stays
        have paused := introduced reported ⟨other, unlisted⟩
        rw [active] at paused
        cases paused

/-- A report that is not introduced puts a contact on the list that is muted and online. -/
theorem unintroduced_shows (t : PresTopic) (e : ContactEvent) (holds : Master name t ∧ MutedOffline t)
    (unintroduced : ¬ Introduced t e) : ¬ MutedOffline (contactStep t e) := by
  intro muted
  cases e with
  | load subs
  | pause inactive
  | announce what => exact unintroduced trivial
  | notification msg =>
    apply unintroduced
    intro online stranger
    by_contra active
    rw [stranger_recorded holds.1 (by simpa using active) online stranger] at muted
    have listed := addToPerSubs_lookup t msg.src (contactKey t.name msg.src) true false
    rw [if_pos ⟨stranger.1, rfl⟩] at listed
    cases muted _ _ listed rfl

theorem initTopicMe_muted (name : String) :
    Master name (initTopicMe name) ∧ MutedOffline (initTopicMe name) := by
  refine ⟨⟨rfl, rfl, rfl⟩, ?_⟩
  intro key psd listed
  cases listed

/-- Muted contacts are offline in every state of a run, just when every stranger who reports to be
online asks to be enabled. -/
theorem muted_offline_iff (name : String) (events : List ContactEvent) :
    (∀ before after, events = before ++ after →
        MutedOffline (run contactStep (initTopicMe name) before)) ↔
      Guarded contactStep Introduced (initTopicMe name) events := by
  have preserved : ∀ t e, Master name t ∧ MutedOffline t → Introduced t e →
      Master name (contactStep t e) ∧ MutedOffline (contactStep t e) := contactStep_preserves
  exact guarded_iff preserved (fun _ holds => holds.2) unintroduced_shows (initTopicMe_muted name)
    events

/-- A topic that has not loaded its contacts yet records the first report of a contact, whom the
user may have muted. -/
theorem stranger_online :
    ¬ ∀ (name : String) (events : List ContactEvent),
      MutedOffline (run contactStep (initTopicMe name) events) := by
  intro everywhere
  have muted := everywhere "usrAAAAAAAAAAE"
    [.notification { what := "on", src := "grpAAAAAAAAAAE", rcptTo := "usrAAAAAAAAAAE" }]
  cases muted "grpAAAAAAAAAAE" ⟨true, false⟩ (by decide) rfl

/-- The replies that a notification sets off. Before each delivery something else may happen to the
topics; `meanwhile` has one entry for each delivery. -/
def replies : List (PresHub → PresHub) → PresHub → Pres → List Pres
  | [], _, _ => []
  | change :: meanwhile, hub, msg =>
    match routePres (change hub) msg with
    | (_, none) => []
    | (hub, some reply) => reply :: replies meanwhile hub reply

/-- How a topic replies: only on demand, and with a demand of its own only to a status probe. -/
theorem procPresReq_reply {src forward : String} {wantReply : Bool}
    (processed : procPresReq t src what wantReply = .ok (t', forward, some reply)) :
    wantReply ∧ (reply.what = "on" ∨ reply.what = "off+rem") ∧
      (reply.wantReply → (splitCommand what).1 = "?unkn") := by
  unfold procPresReq at processed
  split at processed
  · cases processed
  split at processed
  · cases processed
  dsimp only at processed
  split at processed
  · cases processed
  next r read =>
  obtain ⟨⟨updated, rest⟩, -, ran⟩ := bind_ok processed
  split at ran
  · next demanded =>
    cases ran
    refine ⟨demanded.2, ?_, ?_⟩
    · dsimp only
      unfold replyAs
      split_ifs
      · exact .inr rfl
      · exact .inl rfl
    · intro probe
      unfold statusReport at read
      split at read
      all_goals first | (cases read; first | assumption | cases probe) | cases read
  · cases ran

theorem routePres_reply {hub hub' : PresHub} (routed : routePres hub msg = (hub', some reply)) :
    msg.wantReply ∧ (reply.what = "on" ∨ reply.what = "off+rem") ∧
      (reply.wantReply → (splitCommand msg.what).1 = "?unkn") := by
  unfold routePres at routed
  split at routed
  · cases routed
  split at routed
  · cases routed
  next t t' forward answer handled =>
  cases routed
  obtain ⟨⟨updated, what, answered⟩, processed, ran⟩ := bind_ok handled
  cases ran
  exact procPresReq_reply processed

theorem replies_unasked (unasked : msg.wantReply = false) (meanwhile : List (PresHub → PresHub))
    (hub : PresHub) : replies meanwhile hub msg = [] := by
  cases meanwhile with
  | nil => rfl
  | cons change meanwhile =>
    unfold replies
    split
    · rfl
    · next hub' reply routed =>
      have asked := (routePres_reply routed).1
      rw [unasked] at asked
      cases asked

theorem replies_reported (report : (splitCommand msg.what).1 ≠ "?unkn")
    (meanwhile : List (PresHub → PresHub)) (hub : PresHub) :
    (replies meanwhile hub msg).length ≤ 1 := by
  cases meanwhile with
  | nil => exact Nat.zero_le 1
  | cons change meanwhile =>
    unfold replies
    split
    · exact Nat.zero_le 1
    next hub' reply routed =>
    have final : reply.wantReply = false := by
      by_contra asks
      exact report ((routePres_reply routed).2.2 (by simpa using asks))
    rw [replies_unasked final]
    exact Nat.le_refl 1

/-- A notification sets off at most two replies, whatever the topics are and whatever else happens
to them. -/
theorem replies_at_most_two (meanwhile : List (PresHub → PresHub)) (hub : PresHub) (msg : Pres) :
    (replies meanwhile hub msg).length ≤ 2 := by
  cases meanwhile with
  | nil => exact Nat.zero_le 2
  | cons change meanwhile =>
    unfold replies
    split
    · exact Nat.zero_le 2
    next hub' reply routed =>
    have report : (splitCommand reply.what).1 ≠ "?unkn" := by
      rcases (routePres_reply routed).2.1 with on | off
      · rw [on]
        decide
      · rw [off]
        decide
    have rest := replies_reported report meanwhile hub'
    rw [List.length_cons]
    omega

end LastochkaServer.Guarantees.PresenceExchange
