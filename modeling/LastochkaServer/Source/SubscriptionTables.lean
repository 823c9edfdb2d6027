import LastochkaServer.Lib.Table
import LastochkaServer.Source.TopicName

/-!
# Subscriptions in the database

`createSubscription`, `TopicShare`, `SubsDelete` and `SubsDelForUser` of the PostgreSQL adapter
(`server/db/postgres/adapter.go:1503-1543, 2034-2064, 2364-2486`): the tables `subscriptions`, with
the unique key `(topic, userid)`, and `topics`, whose column `subcnt` repeats the number of
subscriptions of a group topic.

Each call is one transaction. A statement that fails rolls it back, so a call changes all it should
or nothing. Times and the columns of `topics` that these calls do not touch are left out.
-/

namespace LastochkaServer.Source

open Lib AccessMode

/-- A row of `topics`. -/
structure CountedRow where
  subcnt : Int := 0
  owner : Uid := 0
  deriving DecidableEq

structure Tables where
  subscriptions : GoMap (String × Uid) Subscription := ∅
  topics : GoMap String CountedRow := ∅
  /-- `dellog`: the topic and `deletedfor`. -/
  dellog : List (String × Uid) := []

/-- What `TopicShare` reads of a subscription. -/
structure Share where
  topic : String
  user : Uid
  modeWant : AccessMode
  modeGiven : AccessMode
  privateData : Value := none

def Share.key (sub : Share) : String × Uid := (sub.topic, sub.user)

namespace Tables

/-- `UPDATE topics SET subcnt=subcnt+change WHERE name IN (names)`. -/
def addSubCnt (db : Tables) (names : List String) (change : Int) : Tables :=
  let raise (row : CountedRow) : Option CountedRow := some { row with subcnt := row.subcnt + change }
  { db with topics := Table.alterWhere (fun name _ => decide (name ∈ names)) raise db.topics }

/-- `UPDATE topics SET owner=user WHERE name=topic`. -/
def setOwner (db : Tables) (topic : String) (user : Uid) : Tables :=
  let assign (row : CountedRow) : Option CountedRow := some { row with owner := user }
  { db with topics := Table.alterWhere (fun name _ => name == topic) assign db.topics }

/-- There is a row with `deletedat IS NULL`. -/
def active (db : Tables) (key : String × Uid) : Bool :=
  (db.subscriptions.lookup key).any fun sub => !sub.deletedAt

/-- `createSubscription`. The row of a duplicate is brought back with new modes, and with the new
private value unless `undelete` is set. -/
def createSubscription (db : Tables) (sub : Share) (undelete : Bool) : Tables :=
  let row : Subscription :=
    match db.subscriptions.lookup sub.key with
    | none => { modeWant := sub.modeWant, modeGiven := sub.modeGiven, privateData := sub.privateData }
    | some old =>
      { modeWant := sub.modeWant
        modeGiven := sub.modeGiven
        privateData := if undelete then old.privateData else sub.privateData }
  let db := { db with subscriptions := db.subscriptions.insert sub.key row }
  if (sub.modeGiven &&& sub.modeWant).isOwner then db.setOwner sub.topic sub.user else db

def topicShare (db : Tables) (topic : String) (shares : List Share) : Tables :=
  let db := shares.foldl (fun db sub => db.createSubscription sub true) db
  if topic ≠ "" then db.addSubCnt [topic] shares.length else db

/-- Why a call does not commit. -/
inductive CallError
  /-- `t.ErrNotFound` -/
  | notFound
  /-- `GetTopicCat` does not know the name. -/
  | panic (e : NamePanic)

/-- Mark the subscriptions that meet `p` as deleted, unless they are. -/
def softDelete (db : Tables) (p : String × Uid → Bool) : Tables :=
  let mark (sub : Subscription) : Option Subscription := some { sub with deletedAt := true }
  { db with
    subscriptions := Table.alterWhere (fun key sub => p key && !sub.deletedAt) mark
      db.subscriptions }

def subsDelete (db : Tables) (topic : String) (user : Uid) : Except CallError Tables := do
  if db.active (topic, user) = false then throw .notFound
  let db := db.softDelete fun key => key = (topic, user)
  let db := if isChannelName topic then db
    else { db with dellog := db.dellog.filter (· ≠ (topic, user)) }
  let cat ← (getTopicCat topic).mapError .panic
  return if cat = .grp then db.addSubCnt [topic] (-1) else db

/-- The topics of the user's active subscriptions, channels under the name of the group. -/
def userTopics (db : Tables) (user : Uid) : List String :=
  (db.subscriptions.entries.filter fun e => e.1.2 = user && !e.2.deletedAt).map fun e =>
    if isChannelName e.1.1 then (chnNameToGrp e.1.1).getD "" else e.1.1

def subsDelForUser (db : Tables) (user : Uid) (hard : Bool) : Tables :=
  let topics := db.userTopics user
  let db := if topics.length > 0 then db.addSubCnt topics (-1) else db
  if hard then
    { db with
      subscriptions := Table.alterWhere (fun key _ => decide (key.2 = user)) (fun _ => none)
        db.subscriptions }
  else db.softDelete fun key => key.2 = user

end Tables

inductive SubscriptionCall
  | topicShare (topic : String) (shares : List Share)
  | subsDelete (topic : String) (user : Uid)
  | subsDelForUser (user : Uid) (hard : Bool)

def SubscriptionCall.body (db : Tables) : SubscriptionCall → Except Tables.CallError Tables
  | .topicShare topic shares => .ok (db.topicShare topic shares)
  | .subsDelete topic user => db.subsDelete topic user
  | .subsDelForUser user hard => .ok (db.subsDelForUser user hard)

/-- The tables after a call; `fails` if a statement or the commit fails. -/
def SubscriptionCall.perform (db : Tables) (fails : Bool) (call : SubscriptionCall) : Tables :=
  match call.body db with
  | .ok db' => if fails then db else db'
  | .error _ => db

theorem hasPrefix_eq {name p : String} (starts : hasPrefix name p) :
    name = p ++ String.ofList (name.toList.drop p.toList.length) := by
  apply String.toList_injective
  obtain ⟨rest, split⟩ := hasPrefix_iff.mp starts
  rw [String.toList_append, String.toList_ofList, ← split, List.drop_left]

variable (rest : String)

theorem grpToChn_append : Topic.grpToChn ("grp" ++ rest) = "chn" ++ rest := by
  apply String.toList_injective
  simp [Topic.grpToChn, String.toList_append]

theorem chnNameToGrp_append : chnNameToGrp ("chn" ++ rest) = some ("grp" ++ rest) := by
  unfold chnNameToGrp
  rw [if_pos (hasPrefix_append "chn" rest)]
  refine congrArg some (String.toList_injective ?_)
  simp [String.toList_append]

theorem not_channel_grp : isChannelName ("grp" ++ rest) = false := by
  simp [isChannelName, hasPrefix, String.toList_append, List.isPrefixOf]

theorem getTopicCat_grp {name : String} (grp : hasPrefix name "grp") :
    getTopicCat name = .ok .grp := by
  obtain ⟨rest, rfl⟩ : ∃ rest, name = "grp" ++ rest := ⟨_, hasPrefix_eq grp⟩
  have long : ¬byteLength ("grp" ++ rest) < 3 :=
    Nat.not_lt.mpr (recognised_long (recognised_of_hasPrefix (by decide) grp))
  rw [getTopicCat, if_neg long, grp]
  simp [hasPrefix, String.toList_append, List.isPrefixOf]

theorem groupName_iff {name group : String} (grp : hasPrefix group "grp") :
    (if isChannelName name then (chnNameToGrp name).getD "" else name) = group ↔
      name = group ∨ name = Topic.grpToChn group := by
  obtain ⟨rest, rfl⟩ : ∃ rest, group = "grp" ++ rest := ⟨_, hasPrefix_eq grp⟩
  rw [grpToChn_append]
  cases channel : isChannelName name with
  | true =>
    obtain ⟨own, rfl⟩ : ∃ own, name = "chn" ++ own := ⟨_, hasPrefix_eq channel⟩
    have apart : "chn" ++ own ≠ "grp" ++ rest := by
      intro same
      rw [same, not_channel_grp] at channel
      cases channel
    simp [chnNameToGrp_append, apart]
  | false =>
    have apart : name ≠ "chn" ++ rest := by
      rintro rfl
      rw [isChannelName, hasPrefix_append] at channel
      cases channel
    simp [apart]

theorem grpToChn_ne {group : String} (grp : hasPrefix group "grp") :
    group ≠ Topic.grpToChn group := by
  obtain ⟨rest, rfl⟩ : ∃ rest, group = "grp" ++ rest := ⟨_, hasPrefix_eq grp⟩
  rw [grpToChn_append]
  intro same
  have := congrArg String.toList same
  simp [String.toList_append] at this

end LastochkaServer.Source
