import LastochkaServer.Lib.Except
import LastochkaServer.Source.TopicName

/-!
# Contacts and presence notifications

`addToPerSubs`, `loadContacts`, `procPresReq` and `presUsersOfInterest` of `server/pres.go:46-282`
with `handlePresence` of `server/topic.go:1287-1299`. A `me` topic keeps one entry for each
contact: whether the contact is online, and whether its notifications are wanted. Topics tell each
other their status; a notification may ask for the status of its receiver in return.

Left out: user agents, sequence numbers and access modes, which notifications carry along, and the
choice of the sessions that a notification is forwarded to.
-/

namespace LastochkaServer.Source

open Lib

structure PerSubsData where
  online : Bool := false
  enabled : Bool := false
  deriving DecidableEq, Repr

/-- The part of a topic that takes part in the exchange of presence. -/
structure PresTopic where
  name : String
  cat : TopicCat
  xoriginal : String := ""
  isProxy : Bool := false
  inactive : Bool := false
  perSubs : GoMap String PerSubsData := ∅

/-- `{pres}` on its way to the topic `rcptTo`. -/
structure Pres where
  topic : String := "me"
  what : String
  src : String
  wantReply : Bool := false
  rcptTo : String
  deriving DecidableEq, Repr

/-- The command after the `+` of a notification is none of those known. -/
inductive PresPanic
  | unknownCommand (cmd : String)
  deriving DecidableEq, Repr

/-- `ParseP2P`. In a text of 22 characters one outside the alphabet leaves fewer than sixteen
decoded bytes. -/
def parseP2P (name : String) : Option (Uid × Uid) :=
  let text := name.toList.drop 3
  if hasPrefix name "p2p" ∧ text.length = 22 then
    (Bytes.decodeBase64 text).map fun bytes =>
      (UInt64.ofNat (Bytes.decodeLE (bytes.take 8)),
        UInt64.ofNat (Bytes.decodeLE ((bytes.drop 8).take 8)))
  else none

/-- `P2PNameForUser`; `none` is an error. -/
def p2pNameForUser (uid : Uid) (p2p : String) : Option String :=
  (parseP2P p2p).map fun pair => if uid = pair.1 then userId pair.2 else userId pair.1

/-- The key of a contact: a P2P topic is listed under the id of the other user. -/
def contactKey (own topic : String) : String :=
  match parseP2P topic with
  | some (uid1, uid2) => if userId uid1 = own then userId uid2 else userId uid1
  | none => topic

namespace PresTopic

def addToPerSubs (t : PresTopic) (topic : String) (online enabled : Bool) : PresTopic :=
  if topic = t.name then t
  else { t with perSubs := t.perSubs.insert (contactKey t.name topic) ⟨online, enabled⟩ }

/-- `loadContacts`: `subs` are the names of the user's topics, and whether the user wants presence
notifications from each. -/
def loadContacts (t : PresTopic) (subs : List (String × Bool)) : PresTopic :=
  subs.foldl (fun t sub => t.addToPerSubs sub.1 false sub.2) t

end PresTopic

/-- `strings.Split(what, "+")`: the status and the command after the first `+`, if any. -/
def splitCommand (what : String) : String × String :=
  let parts := what.toList.splitOn '+'
  (String.ofList (parts.headD []), String.ofList (parts.tail.headD []))

/-- A status report: `online` is absent when the requester's status is not known. -/
structure StatusReport where
  online : Option Bool
  reqReply : Bool := false
  cmd : String
  what : String
  deriving DecidableEq

/-- The status a notification reports; `none` for all notifications of other kinds. -/
def statusReport (what cmd : String) : Option StatusReport :=
  match what with
  | "on" => some { online := some true, cmd := cmd, what := what }
  | "off" => some { online := some false, cmd := cmd, what := what }
  | "?none" => some { online := none, cmd := cmd, what := "" }
  | "gone" => some { online := some false, cmd := "rem", what := what }
  | "?unkn" => some { online := none, reqReply := true, cmd := cmd, what := "" }
  | _ => none

/-- The command of a report about a listed contact: whether the contact's updates are wanted from
now on, and what is left to forward to sessions. -/
def applyCommand (psd : PerSubsData) (r : StatusReport) : Except PresPanic (Bool × String) :=
  match r.cmd with
  | "" =>
    .ok (psd.enabled,
      if !psd.enabled ∨ r.online.isNone ∨ r.online = some psd.online then "" else r.what)
  | "en" =>
    .ok (true, if psd.enabled ∧ (r.online.isNone ∨ r.online = some psd.online) then "" else r.what)
  | "dis" => .ok (false, if psd.enabled ∧ psd.online then r.what else "")
  | cmd => .error (.unknownCommand cmd)

/-- A contact that stays on the list. If its updates are not wanted it is kept off. -/
def updateContact (psd : PerSubsData) (r : StatusReport) :
    Except PresPanic (PerSubsData × String) := do
  let (enabled, what) ← applyCommand psd r
  return (⟨if enabled then r.online.getD psd.online else false, enabled⟩, what)

/-- The update of the list of a `me` topic. -/
def recordReport (t : PresTopic) (fromUserID : String) (r : StatusReport) :
    Except PresPanic (PresTopic × String) := do
  match t.perSubs.lookup fromUserID with
  | some psd =>
    if r.cmd = "rem" then
      return ({ t with perSubs := t.perSubs.erase fromUserID },
        if !psd.enabled ∧ r.what = "off" then "" else r.what)
    let (psd, what) ← updateContact psd r
    return ({ t with perSubs := t.perSubs.insert fromUserID psd }, what)
  | none =>
    if r.cmd = "rem" then return (t, "")
    -- a new subscription: an unknown status is recorded as offline
    return (t.addToPerSubs fromUserID (r.online.getD false) (r.cmd == "en"),
      if r.cmd = "en" then r.what else "")

/-- Topics other than `me` keep no contacts. -/
def noteReport (t : PresTopic) (fromUserID : String) (r : StatusReport) :
    Except PresPanic (PresTopic × String) :=
  if t.cat = .me then recordReport t fromUserID r else .ok (t, r.what)

/-- The status with which a topic answers a request to be removed from its list. -/
def replyAs (t : PresTopic) (fromUserID : String) (r : StatusReport) : String :=
  if t.cat = .me ∧ (t.perSubs.lookup fromUserID).isSome ∧ r.cmd = "rem" then "off+rem" else "on"

/-- `procPresReq`: the topic, what is left to forward, and the reply to the requester. -/
def procPresReq (t : PresTopic) (fromUserID what : String) (wantReply : Bool) :
    Except PresPanic (PresTopic × String × Option Pres) := do
  if t.inactive then return (t, "", none)
  if t.isProxy then return (t, what, none)
  let parts := splitCommand what
  match statusReport parts.1 parts.2 with
  | none => return (t, parts.1, none)
  | some r =>
    let (updated, forward) ← noteReport t fromUserID r
    let reply : Pres :=
      { what := replyAs t fromUserID r, src := t.name, wantReply := r.reqReply, rcptTo := fromUserID }
    return (updated, forward, if (r.online = some true ∨ r.reqReply) ∧ wantReply then some reply
      else none)

/-- `handlePresence`: the topic, the status forwarded to sessions, and the reply. -/
def handlePresence (t : PresTopic) (msg : Pres) :
    Except PresPanic (PresTopic × Option String × Option Pres) := do
  let (t, what, reply) ← procPresReq t msg.src msg.what msg.wantReply
  return (t, if t.xoriginal ≠ msg.topic ∨ what = "" then none else some what, reply)

/-- `notifyOnOrSkip`: where a contact is told, if at all. The name of a topic of no known kind
panics. -/
def notifyOnOrSkip (topic what : String) (online : Bool) : Except NamePanic (Option String) := do
  if isChannelName topic then return none
  if what = "upd" ∨ what = "ua" then
    if !online then return none
    if (← getTopicCat topic) = .grp then return some topic
  return some "me"

/-- The body of the loop of `presUsersOfInterest`. -/
def presContact (what : String) (state : PresTopic × List Pres) (topic : String) :
    Except NamePanic (PresTopic × List Pres) := do
  let (t, sent) := state
  match t.perSubs.lookup topic with
  | none => return state
  | some psd =>
    match ← notifyOnOrSkip topic what psd.online with
    | none => return state
    | some notifyOn =>
      let parts := splitCommand what
      let msg : Pres :=
        { topic := notifyOn, what := what, src := t.name, wantReply := parts.1 == "on",
            rcptTo := topic }
      let goOffline : Bool := psd.online && parts.2 == "dis"
      return (if goOffline then
          { t with perSubs := t.perSubs.insert topic { psd with online := false } }
        else t, sent ++ [msg])

/-- `presUsersOfInterest`: the contacts are told of a change. -/
def presUsersOfInterest (t : PresTopic) (what : String) : Except NamePanic (PresTopic × List Pres) :=
  t.perSubs.keys.foldlM (presContact what) (t, [])

/-- The topics loaded at a node. -/
abbrev PresHub := GoMap String PresTopic

/-- The hub delivers a notification; the result is the reply that is generated, if any. A panic
stops the server, so nothing follows it. -/
def routePres (hub : PresHub) (msg : Pres) : PresHub × Option Pres :=
  match hub.lookup msg.rcptTo with
  | none => (hub, none)
  | some t =>
    match handlePresence t msg with
    | .error _ => (hub, none)
    | .ok (t, _, reply) => (hub.insert msg.rcptTo t, reply)

theorem addToPerSubs_lookup (t : PresTopic) (topic key : String) (online enabled : Bool) :
    (t.addToPerSubs topic online enabled).perSubs.lookup key =
      if topic ≠ t.name ∧ key = contactKey t.name topic then some ⟨online, enabled⟩
      else t.perSubs.lookup key := by
  unfold PresTopic.addToPerSubs
  by_cases own : topic = t.name
  · rw [if_pos own, if_neg (fun added => added.1 own)]
  · rw [if_neg own]
    by_cases same : key = contactKey t.name topic
    · rw [if_pos ⟨own, same⟩, same]
      exact AList.lookup_insert t.perSubs
    · rw [if_neg (fun added => same added.2)]
      exact AList.lookup_insert_ne same

theorem updateContact_kept_off {psd psd' : PerSubsData} {r : StatusReport} {what : String}
    (updated : updateContact psd r = .ok (psd', what)) :
    psd'.enabled = false → psd'.online = false := by
  obtain ⟨⟨enabled, forward⟩, -, ran⟩ := bind_ok updated
  cases ran
  intro muted
  dsimp only at muted ⊢
  rw [muted, if_neg (by decide)]

/-- The list after a notification: it is left alone, or one entry is removed, updated or added. -/
inductive Recorded (t : PresTopic) (src : String) (r : StatusReport) : PresTopic → Prop
  | kept : Recorded t src r t
  | removed : Recorded t src r { t with perSubs := t.perSubs.erase src }
  | updated (psd : PerSubsData) (keptOff : psd.enabled = false → psd.online = false) :
      Recorded t src r { t with perSubs := t.perSubs.insert src psd }
  | added (unlisted : t.perSubs.lookup src = none) (stays : r.cmd ≠ "rem") :
      Recorded t src r (t.addToPerSubs src (r.online.getD false) (r.cmd == "en"))

theorem recordReport_cases {t t' : PresTopic} {src what : String} {r : StatusReport}
    (recorded : recordReport t src r = .ok (t', what)) : Recorded t src r t' := by
  unfold recordReport at recorded
  cases listed : t.perSubs.lookup src with
  | some psd =>
    simp only [listed] at recorded
    by_cases leaves : r.cmd = "rem"
    · simp only [leaves, if_true] at recorded
      cases recorded
      exact .removed
    · simp only [leaves, if_false] at recorded
      obtain ⟨⟨psd', forward⟩, updated, ran⟩ := bind_ok recorded
      cases ran
      exact .updated psd' (updateContact_kept_off updated)
  | none =>
    simp only [listed] at recorded
    by_cases leaves : r.cmd = "rem"
    · simp only [leaves, if_true] at recorded
      cases recorded
      exact .kept
    · simp only [leaves, if_false] at recorded
      cases recorded
      exact .added listed leaves

end LastochkaServer.Source
