import LastochkaServer.Lib.Group
import LastochkaServer.Source.Cluster.Failover
import LastochkaServer.Source.TopicName

/-!
# Requests to the cache of users

`server/user.go:1005-1206`, `server/push.go:193-235` and `server/cluster.go:707-805`. The cached
values of a user live at the node that owns the user's `me` topic. A request that concerns users of
other nodes is split into one request per node by `routeUserReq`.

A recipient and a payload of a push notification are opaque: neither is looked into on the way. Left
out: the cache itself, and the queue `usersUpdate`, which drops requests when it is full; a request
is followed up to the point where it is put into the queue.
-/

namespace LastochkaServer.Source

open Lib Clustering

variable {R P : Type}

structure Receipt (R P : Type) where
  /-- `To`. -/
  recipients : GoMap Uid R
  channel : String := ""
  payload : P

structure UserCacheReq (R P : Type) where
  node : String := ""
  userId : Uid := 0
  userIdList : List Uid := []
  unread : Int := 0
  inc : Bool := false
  gone : Bool := false
  pushRcpt : Option (Receipt R P) := none

section Cluster

variable (cfg : FailoverConfig) (c : Cluster)

/-- `nodeForTopic`: the name under which the node is found. -/
def nodeForTopic (topic : String) : Option String :=
  let key := c.ring.get cfg.hashing topic
  if key = c.thisNodeName then none
  else if key ∈ c.names then some key
  else none

def isRemoteTopic (topic : String) : Bool := c.ring.get cfg.hashing topic ≠ c.thisNodeName

/-- The request for one node, before the first recipient is put into it. -/
def pushReq (rcpt : Receipt R P) : UserCacheReq R P :=
  { pushRcpt := some { payload := rcpt.payload, recipients := ∅ }, node := c.thisNodeName }

/-- `r.PushRcpt.To[uid] = recipient`. -/
def UserCacheReq.addRecipient (r : UserCacheReq R P) (entry : Sigma fun _ : Uid => R) :
    UserCacheReq R P :=
  { r with
    pushRcpt := r.pushRcpt.map fun rcpt =>
      { rcpt with recipients := rcpt.recipients.insert entry.1 entry.2 } }

/-- `r.UserIdList = append(r.UserIdList, uid)`. -/
def UserCacheReq.addUser (r : UserCacheReq R P) (uid : Uid) : UserCacheReq R P :=
  { r with userIdList := r.userIdList ++ [uid] }

/-- The requests indexed by node, as `routeUserReq` makes them. -/
def reqByNode (req : UserCacheReq R P) : Except String (GoMap String (UserCacheReq R P)) :=
  match req.pushRcpt with
  | some rcpt =>
    Group.group (fun entry => nodeForTopic cfg c (userId entry.1))
      "attempt to update user at a non-existent node (1)" (pushReq c rcpt) UserCacheReq.addRecipient
      rcpt.recipients.entries
  | none =>
    if req.userIdList ≠ [] then
      Group.group (fun uid => nodeForTopic cfg c (userId uid))
        "attempt to update user at a non-existent node (2)" { node := c.thisNodeName, inc := req.inc }
        UserCacheReq.addUser req.userIdList
    else if req.gone then
      let r : UserCacheReq R P :=
        { node := c.thisNodeName, userIdList := req.userIdList, gone := true }
      .ok (c.names.foldl (fun byNode name => byNode.insert name r) ∅)
    else .ok ∅

/-- A call of `UserCacheUpdate`: the node that is called and what it gets. -/
abbrev CacheCall (R P : Type) := String × UserCacheReq R P

/-- The calls one after the other, up to the first that fails; `failed` lists the nodes for which a
call returns an error. No call is rejected: the endpoint leaves `rejected` as it is. -/
def callEach (failed : List String) : List (CacheCall R P) → List (CacheCall R P) × Option String
  | [] => ([], none)
  | call :: rest =>
    if call.1 ∈ failed then ([], some "cluster: call failed")
    else
      let later := callEach failed rest
      (call :: later.1, later.2)

/-- `routeUserReq`: the calls that got through, and the error it returns. -/
def routeUserReq (failed : List String) (req : UserCacheReq R P) :
    List (CacheCall R P) × Option String :=
  match reqByNode cfg c req with
  | .error e => ([], some e)
  | .ok byNode =>
    if byNode.len > 0 then callEach failed (byNode.entries.map fun entry => (entry.1, entry.2))
    else
      match nodeForTopic cfg c (userId req.userId) with
      | none => ([], some "attempt to update user at a non-existent node (3)")
      | some name => callEach failed [(name, { req with node := c.thisNodeName })]

end Cluster

/-- What a sender does with its request: what it puts into the queue of its own node, and the
calls. -/
structure Sent (R P : Type) where
  queued : Option (UserCacheReq R P) := none
  calls : List (CacheCall R P) := []

section Senders

variable (cfg : FailoverConfig) (cluster : Option Cluster) (failed : List String)

/-- `globals.cluster.isRemoteTopic(uid.UserId())`; all topics are local without a cluster. -/
def isRemote (uid : Uid) : Bool := cluster.any fun c => isRemoteTopic cfg c (userId uid)

/-- `globals.cluster.routeUserReq(req)`, whose error the senders ignore. -/
def route (req : UserCacheReq R P) : List (CacheCall R P) :=
  cluster.elim [] fun c => (routeUserReq cfg c failed req).1

/-- A request that concerns one user. -/
def sendOne (uid : Uid) (upd : UserCacheReq R P) : Sent R P :=
  if isRemote cfg cluster uid then { calls := route cfg cluster failed upd }
  else { queued := some upd }

def usersUpdateUnread (uid : Uid) (val : Int) (inc : Bool) : Sent R P :=
  if val = 0 ∧ inc then {} else sendOne cfg cluster failed uid { userId := uid, unread := val, inc }

def usersRegisterUser (uid : Uid) (add : Bool) : Sent R P :=
  sendOne cfg cluster failed uid { userIdList := [uid], inc := add }

def usersRemoveUser (uid : Uid) : Sent R P :=
  let upd : UserCacheReq R P := { userId := uid, gone := true }
  { queued := if isRemote cfg cluster uid then none
      else some upd, calls := route cfg cluster failed upd }

def usersRegisterTopic (t : Topic) (add : Bool) : Sent R P :=
  if t.cat = .fnd ∨ t.cat = .me then {}
  else
    let users := (t.perUser.entries.filter fun entry => !entry.2.isChan).map (·.1)
    let remote := users.filter fun uid => isRemote cfg cluster uid
    let local_ := users.filter fun uid => !isRemote cfg cluster uid
    { queued := if local_ = [] then none else some { userIdList := local_, inc := add }
      calls :=
        if remote = [] then [] else route cfg cluster failed { userIdList := remote, inc := add } }

/-- The recipients on one side of the split of `sendPush`. -/
def pick (keep : Uid → Bool) (all : GoMap Uid R) : GoMap Uid R :=
  (all.entries.filter fun entry => keep entry.1).foldl (fun m entry => m.insert entry.1 entry.2) ∅

def sendPush (rcpt : Receipt R P) : Sent R P :=
  match cluster with
  | none =>
    { queued :=
        if rcpt.recipients.len > 0 ∨ rcpt.channel ≠ "" then some { pushRcpt := some rcpt }
        else none }
  | some _ =>
    let remote :=
      { rcpt with recipients := pick (fun uid => isRemote cfg cluster uid) rcpt.recipients }
    let local_ :=
      { rcpt with recipients := pick (fun uid => !isRemote cfg cluster uid) rcpt.recipients }
    { queued :=
        if local_.recipients.len > 0 ∨ local_.channel ≠ "" then some { pushRcpt := some local_ }
        else none
      calls :=
        if remote.recipients.len > 0 ∨ remote.channel ≠ "" then
          route cfg cluster failed { pushRcpt := some remote }
        else [] }

end Senders

end LastochkaServer.Source
