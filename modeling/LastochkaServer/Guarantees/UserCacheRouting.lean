import LastochkaServer.Source.UserCache

/-!
# Requests to the cache of users reach the nodes that own them

A request is a list of items, read from it by the node that gets it: a registration or a push for
each user, a new unread count, or the news that a user is gone. `routeUserReq` splits a request so
that every node gets the items of its own users, each once and as it was, provided that all users
live at other nodes of the table (`delivers_iff`); `usersRegisterTopic` and `sendPush` make it so by
keeping the users of their own node (`sendPush_delivers_iff`). The news that a user is gone goes to
all other nodes, but with the identifier of the user left out: `removed_user_unnamed` is a user that
is removed while the other node is told to remove nobody.

Calls are taken to succeed: `routeUserReq` gives up at the first call that fails and returns its
error.
-/

namespace LastochkaServer.Guarantees.UserCacheRouting

open Lib Source Clustering

variable {R P : Type}

/-- What a node is asked to do about one user. -/
inductive CacheItem (R P : Type)
  | registered (uid : Uid) (inc : Bool)
  | push (uid : Uid) (recipient : R) (payload : P)
  | unread (uid : Uid) (val : Int) (inc : Bool)
  | gone (uid : Uid)

/-- A request as the goroutine `userUpdater` reads it. -/
def itemsOf (req : UserCacheReq R P) : List (CacheItem R P) :=
  match req.pushRcpt with
  | some rcpt => rcpt.recipients.entries.map fun entry => .push entry.1 entry.2 rcpt.payload
  | none =>
    if req.userIdList ≠ [] then req.userIdList.map fun uid => .registered uid req.inc
    else if req.gone then [.gone req.userId]
    else [.unread req.userId req.unread req.inc]

/-- The items that get to a node. -/
def arrived (calls : List (CacheCall R P)) (node : String) : List (CacheItem R P) :=
  (calls.filter (·.1 = node)).flatMap fun call => itemsOf call.2

section

variable (cfg : FailoverConfig) (c : Cluster)

/-- The node that owns a user. -/
def owner (uid : Uid) : String := c.ring.get cfg.hashing (userId uid)

/-- The item is meant for the node: for the owner of its user, and for all other nodes if the user
is gone. -/
def meantFor (node : String) : CacheItem R P → Bool
  | .registered uid _ | .push uid _ _ | .unread uid _ _ => owner cfg c uid = node
  | .gone _ => node ∈ c.names

/-- Every node gets the items that are meant for it, and nothing else. -/
def Delivers (req : UserCacheReq R P) : Prop :=
  ∀ node, (arrived (routeUserReq cfg c [] req).1 node).Perm
    ((itemsOf req).filter (meantFor cfg c node))

/-- The user lives at another node, which is in the table. -/
def Elsewhere (uid : Uid) : Prop := owner cfg c uid ≠ c.thisNodeName ∧ owner cfg c uid ∈ c.names

/-- All users of the request live elsewhere, and it does not say of a user that it is gone. -/
def Routable (req : UserCacheReq R P) : Prop :=
  match req.pushRcpt with
  | some rcpt => ∀ entry ∈ rcpt.recipients.entries, Elsewhere cfg c entry.1
  | none =>
    if req.userIdList ≠ [] then ∀ uid ∈ req.userIdList, Elsewhere cfg c uid
    else if req.gone then req.userId = 0 ∨ c.names = []
    else Elsewhere cfg c req.userId

end

variable {cfg : FailoverConfig} {c : Cluster} {req : UserCacheReq R P} {uid : Uid}
  {byNode : GoMap String (UserCacheReq R P)} {rcpt : Receipt R P}

theorem nodeForTopic_eq_some (elsewhere : Elsewhere cfg c uid) :
    nodeForTopic cfg c (userId uid) = some (owner cfg c uid) := by
  have other : ¬ c.ring.get cfg.hashing (userId uid) = c.thisNodeName := elsewhere.1
  have known : c.ring.get cfg.hashing (userId uid) ∈ c.names := elsewhere.2
  rw [nodeForTopic, if_neg other, if_pos known, owner]

theorem nodeForTopic_eq_none (here : ¬ Elsewhere cfg c uid) :
    nodeForTopic cfg c (userId uid) = none := by
  unfold nodeForTopic
  dsimp only
  split_ifs with self known
  · rfl
  · exact absurd ⟨self, known⟩ here
  · rfl

theorem callEach_reliable (calls : List (CacheCall R P)) : callEach [] calls = (calls, none) := by
  induction calls with
  | nil => rfl
  | cons call rest ih => rw [callEach, if_neg List.not_mem_nil, ih]

theorem arrived_entries (byNode : GoMap String (UserCacheReq R P)) (node : String) :
    arrived (byNode.entries.map fun entry => (entry.1, entry.2)) node =
      (byNode.lookup node).elim [] itemsOf := by
  have picked :
      (byNode.entries.map fun entry => ((entry.1, entry.2) : CacheCall R P)).filter (·.1 = node) =
      (byNode.entries.filter fun entry => entry.1 = node).map fun entry => (entry.1, entry.2) := by
    rw [List.filter_map]
    rfl
  rw [arrived, picked, Group.entries_filter]
  cases byNode.lookup node with
  | none => rfl
  | some req => exact List.append_nil _

theorem len_pos {node : String}
    (found : byNode.lookup node = some req) : byNode.len > 0 :=
  List.length_pos_of_mem ((GoMap.mem_entries_iff byNode node req).mpr found)

theorem arrived_split
    (made : reqByNode cfg c req = .ok byNode) (some_node : byNode.len > 0) (node : String) :
    arrived (routeUserReq cfg c [] req).1 node = (byNode.lookup node).elim [] itemsOf := by
  rw [routeUserReq, made]
  dsimp only
  rw [if_pos some_node, callEach_reliable, arrived_entries]

theorem arrived_whole (made : reqByNode cfg c req = .ok ∅) (node : String) :
    arrived (routeUserReq cfg c [] req).1 node =
      if nodeForTopic cfg c (userId req.userId) = some node then itemsOf req else [] := by
  have none_made : ¬ GoMap.len (∅ : GoMap String (UserCacheReq R P)) > 0 := Nat.lt_irrefl 0
  rw [routeUserReq, made]
  dsimp only
  rw [if_neg none_made]
  cases nodeForTopic cfg c (userId req.userId) with
  | none => rfl
  | some name =>
    simp only [callEach_reliable, Option.some_inj]
    by_cases there : name = node
    · rw [if_pos there, arrived, List.filter_cons_of_pos (by simpa using there)]
      exact List.append_nil _
    · rw [if_neg there, arrived, List.filter_cons_of_neg (by simpa using there)]
      rfl

theorem arrived_failed {e : String} (failed : reqByNode cfg c req = .error e)
    (node : String) : arrived (routeUserReq cfg c [] req).1 node = [] := by
  rw [routeUserReq, failed]
  rfl

section Grouped

variable {α : Type} {fresh : UserCacheReq R P} {failure : String}
  {extend : UserCacheReq R P → α → UserCacheReq R P}
  {uidOf : α → Uid} {item : α → CacheItem R P} {xs : List α}

/-- A request that is split by the owners of its users. -/
structure SplitByOwner (cfg : FailoverConfig) (c : Cluster) (req fresh : UserCacheReq R P)
    (failure : String)
    (extend : UserCacheReq R P → α → UserCacheReq R P) (uidOf : α → Uid) (item : α → CacheItem R P)
    (xs : List α) :
    Prop where
  grouped : reqByNode cfg c req =
    Group.group (fun a => nodeForTopic cfg c (userId (uidOf a))) failure fresh extend xs
  items : itemsOf req = xs.map item
  /-- The request that is made of some of the elements has their items. -/
  filled : ∀ ys : List α, ys.Sublist xs → ys ≠ [] →
    (itemsOf (ys.foldl extend fresh)).Perm (ys.map item)
  meant : ∀ a node, meantFor cfg c node (item a) = decide (owner cfg c (uidOf a) = node)

theorem SplitByOwner.delivers (split : SplitByOwner cfg c req fresh failure extend uidOf item xs)
    (some_user : xs ≠ [])
    (elsewhere : ∀ a ∈ xs, Elsewhere cfg c (uidOf a)) : Delivers cfg c req := by
  have keyed : ∀ a ∈ xs, nodeForTopic cfg c (userId (uidOf a)) ≠ none := by
    intro a mem
    rw [nodeForTopic_eq_some (elsewhere a mem)]
    exact Option.some_ne_none _
  obtain ⟨byNode, made⟩ :
      ∃ m, Group.group (fun a => nodeForTopic cfg c (userId (uidOf a))) failure fresh extend xs =
        .ok m :=
    Group.groupFrom_returns ∅ keyed
  -- The elements grouped under a node are those that the node owns.
  have found : ∀ node, byNode.lookup node =
      Group.fill fresh extend (xs.filter fun a => owner cfg c (uidOf a) = node) := by
    intro node
    rw [Group.groupFrom_lookup made node, AList.lookup_empty, Group.foldl_fill]
    congr 1
    refine List.filter_congr fun a mem => ?_
    simp [nodeForTopic_eq_some (elsewhere a mem)]
  have some_node : byNode.len > 0 := by
    obtain ⟨a, rest, rfl⟩ := List.exists_cons_of_ne_nil some_user
    have first := found (owner cfg c (uidOf a))
    rw [List.filter_cons_of_pos (by simp)] at first
    exact len_pos first
  intro node
  have meant : (itemsOf req).filter (meantFor cfg c node) =
      (xs.filter fun a => owner cfg c (uidOf a) = node).map item := by
    rw [split.items, List.filter_map]
    congr 1
    exact List.filter_congr fun a _ => split.meant a node
  rw [arrived_split (split.grouped.trans made) some_node, found, meant]
  have part : (xs.filter fun a => owner cfg c (uidOf a) = node).Sublist xs := List.filter_sublist
  generalize (xs.filter fun a => owner cfg c (uidOf a) = node) = ys at part
  cases ys with
  | nil => exact .refl _
  | cons a rest => exact split.filled (a :: rest) part (List.cons_ne_nil _ _)

theorem SplitByOwner.elsewhere (split : SplitByOwner cfg c req fresh failure extend uidOf item xs)
    (delivered : Delivers cfg c req) (a : α) (mem : a ∈ xs) : Elsewhere cfg c (uidOf a) := by
  by_contra here
  have failed : reqByNode cfg c req = .error failure :=
    split.grouped.trans (Group.groupFrom_fails ∅ mem (nodeForTopic_eq_none here))
  have lost := delivered (owner cfg c (uidOf a))
  rw [arrived_failed failed, List.nil_perm, List.filter_eq_nil_iff, split.items] at lost
  exact lost (item a) (List.mem_map_of_mem mem) ((split.meant a _).trans (decide_eq_true rfl))

end Grouped

theorem foldl_addRecipient (ys : List (Sigma fun _ : Uid => R)) (rcpt : Receipt R P)
    (r : UserCacheReq R P)
    (has : r.pushRcpt = some rcpt) :
    (ys.foldl UserCacheReq.addRecipient r).pushRcpt =
      some { rcpt with recipients := ys.foldl (fun m x => m.insert x.1 x.2) rcpt.recipients } := by
  induction ys generalizing r rcpt with
  | nil => exact has
  | cons y rest ih =>
    refine ih { rcpt with recipients := rcpt.recipients.insert y.1 y.2 } (r.addRecipient y) ?_
    rw [UserCacheReq.addRecipient, has]
    rfl

theorem push_split (push : req.pushRcpt = some rcpt) :
    SplitByOwner cfg c req (pushReq c rcpt) "attempt to update user at a non-existent node (1)"
      UserCacheReq.addRecipient (·.1) (fun entry => .push entry.1 entry.2 rcpt.payload)
        rcpt.recipients.entries where
  grouped := by rw [reqByNode, push]
  items := by rw [itemsOf, push]
  filled ys part _ := by
    have distinct : ys.NodupKeys := rcpt.recipients.nodupKeys.sublist part
    rw [itemsOf, foldl_addRecipient ys { payload := rcpt.payload, recipients := ∅ } _ rfl]
    refine List.Perm.map _ ?_
    have entries := Group.foldl_insert_entries ys ∅ distinct fun x _ => AList.notMem_empty x.1
    rwa [AList.empty_entries, List.append_nil] at entries
  meant _ _ := rfl

theorem push_delivers_iff (push : req.pushRcpt = some rcpt) :
    Delivers cfg c req ↔ ∀ entry ∈ rcpt.recipients.entries, Elsewhere cfg c entry.1 := by
  refine ⟨(push_split push).elsewhere, fun elsewhere => ?_⟩
  by_cases some_user : rcpt.recipients.entries = []
  · -- A push for a channel only is sent as it is and says nothing about a user.
    have items : itemsOf req = [] := by simp [itemsOf, push, some_user, List.map_nil]
    have made : reqByNode cfg c req = .ok ∅ := by
      rw [reqByNode, push]
      dsimp only
      rw [some_user]
      rfl
    intro node
    rw [arrived_whole made, items, ite_self]
    exact .refl _
  · exact (push_split push).delivers some_user elsewhere

theorem foldl_addUser (ys : List Uid) (r : UserCacheReq R P) :
    ys.foldl UserCacheReq.addUser r = { r with userIdList := r.userIdList ++ ys } := by
  induction ys generalizing r with
  | nil => rw [List.foldl_nil, List.append_nil]
  | cons y rest ih =>
    rw [List.foldl_cons, ih, UserCacheReq.addUser, List.append_assoc, List.singleton_append]

theorem list_split (no_push : req.pushRcpt = none) (users : req.userIdList ≠ []) :
    SplitByOwner cfg c req { node := c.thisNodeName, inc := req.inc }
      "attempt to update user at a non-existent node (2)" UserCacheReq.addUser id
      (fun uid => .registered uid req.inc) req.userIdList where
  grouped := by
    rw [reqByNode, no_push]
    rw [if_pos users]
    rfl
  items := by
    rw [itemsOf, no_push]
    rw [if_pos users]
  filled ys _ some_user := by
    rw [foldl_addUser, List.nil_append, itemsOf]
    rw [if_pos some_user]
  meant _ _ := rfl

theorem lookup_foldl_insert {V : Type} (names : List String) (v : V) (m : GoMap String V)
    (node : String) :
    (names.foldl (fun m name => m.insert name v) m).lookup node =
      if node ∈ names then some v else m.lookup node := by
  induction names generalizing m with
  | nil => rfl
  | cons name rest ih =>
    rw [List.foldl_cons, ih]
    by_cases later : node ∈ rest
    · rw [if_pos later, if_pos (List.mem_cons_of_mem _ later)]
    · by_cases here : node = name
      · rw [if_neg later, here, AList.lookup_insert, if_pos (List.mem_cons_self ..)]
      · rw [if_neg later, AList.lookup_insert_ne here, if_neg (by simp [here, later])]

theorem gone_delivers_iff (no_push : req.pushRcpt = none) (no_list : req.userIdList = [])
    (gone : req.gone) : Delivers cfg c req ↔ req.userId = 0 ∨ c.names = [] := by
  have items : ∀ node, (itemsOf req).filter (meantFor cfg c node) =
      if node ∈ c.names then [.gone req.userId] else [] := by
    intro node
    simp [itemsOf, no_push, no_list, gone, meantFor, List.filter_singleton]
  -- The request that is sent names no user.
  have made : reqByNode cfg c req = .ok (c.names.foldl
      (fun byNode name => byNode.insert name { node := c.thisNodeName, gone := true }) ∅) := by
    simp [reqByNode, no_push, no_list, gone]
  cases names : c.names with
  | nil =>
    rw [names] at made items
    refine iff_of_true (fun node => ?_) (.inr rfl)
    have nowhere : nodeForTopic cfg c (userId req.userId) = none :=
      nodeForTopic_eq_none fun elsewhere => List.not_mem_nil (names ▸ elsewhere.2)
    rw [items, arrived_whole made, nowhere]
    exact .refl _
  | cons name rest =>
    have present : name ∈ c.names := names ▸ List.mem_cons_self ..
    have arrives : ∀ node, arrived (routeUserReq cfg c [] req).1 node =
        if node ∈ c.names then [.gone 0] else [] := by
      intro node
      have found :=
        lookup_foldl_insert c.names ({ node := c.thisNodeName, gone := true } : UserCacheReq R P) ∅
      rw [arrived_split made (len_pos ((found name).trans (if_pos present))), found]
      split_ifs <;> rfl
    have named : Delivers cfg c req ↔ req.userId = 0 := by
      constructor
      · intro delivered
        have told := delivered name
        rw [arrives, items, if_pos present, if_pos present, List.singleton_perm_singleton] at told
        injection told with same
        exact same.symm
      · intro nobody node
        rw [arrives, items, nobody]
    rw [named, or_iff_left (names ▸ List.cons_ne_nil _ _)]

theorem unread_delivers_iff (no_push : req.pushRcpt = none) (no_list : req.userIdList = [])
    (stays : req.gone = false) : Delivers cfg c req ↔ Elsewhere cfg c req.userId := by
  have items : itemsOf req = [.unread req.userId req.unread req.inc] := by
    simp [itemsOf, no_push, no_list, stays]
  have made : reqByNode cfg c req = .ok ∅ := by
    simp [reqByNode, no_push, no_list, stays]
  constructor
  · intro delivered
    by_contra here
    have lost := delivered (owner cfg c req.userId)
    rw [arrived_whole made, nodeForTopic_eq_none here, items] at lost
    simp [meantFor] at lost
  · intro elsewhere node
    rw [arrived_whole made, nodeForTopic_eq_some elsewhere, items]
    by_cases there : owner cfg c req.userId = node <;> simp [meantFor, there]

/-- A request gets to the owners of its users just when they live at other nodes of the table, and
the news that a user is gone just when there is nobody to name or to tell. -/
theorem delivers_iff (cfg : FailoverConfig) (c : Cluster) (req : UserCacheReq R P) :
    Delivers cfg c req ↔ Routable cfg c req := by
  rw [Routable]
  cases push : req.pushRcpt with
  | some rcpt => exact push_delivers_iff push
  | none =>
    by_cases users : req.userIdList ≠ []
    · rw [if_pos users]
      exact ⟨(list_split push users).elsewhere, (list_split push users).delivers users⟩
    · rw [if_neg users]
      have no_list : req.userIdList = [] := not_not.mp users
      cases gone : req.gone with
      | true => exact gone_delivers_iff push no_list gone
      | false => exact unread_delivers_iff push no_list gone

theorem pick_entries (keep : Uid → Bool) (all : GoMap Uid R) :
    (pick keep all).entries.Perm (all.entries.filter fun entry => keep entry.1) := by
  have distinct := all.nodupKeys.sublist (List.filter_sublist (p := fun entry => keep entry.1))
  have entries := Group.foldl_insert_entries _ ∅ distinct fun x _ => AList.notMem_empty x.1
  rwa [AList.empty_entries, List.append_nil] at entries

theorem pick_items (rcpt : Receipt R P) (keep : Uid → Bool) (kept : CacheItem R P → Bool)
    (same : ∀ uid recipient, kept (.push uid recipient rcpt.payload) = keep uid) :
    (itemsOf { pushRcpt := some { rcpt with recipients := pick keep rcpt.recipients } }).Perm
      ((itemsOf { pushRcpt := some rcpt }).filter kept) := by
  refine ((pick_entries keep rcpt.recipients).map _).trans (.of_eq ?_)
  simp only [itemsOf, List.filter_map, Function.comp_def, same]

theorem entries_of_idle {m : GoMap Uid R} {p : Prop} (idle : ¬ (m.len > 0 ∨ p)) : m.entries = [] :=
  List.length_eq_zero_iff.mp (Nat.eq_zero_of_not_pos fun some_user => idle (.inl some_user))

/-- The recipients that live at the sender's node get a push from its queue. All others get it once,
by a call to their owner, just when the owners are known. -/
theorem sendPush_delivers_iff (cfg : FailoverConfig) (c : Cluster) (rcpt : Receipt R P) :
    let items := itemsOf { pushRcpt := some rcpt }
    let sent := sendPush cfg (some c) [] rcpt
    let own := meantFor cfg c c.thisNodeName
    (sent.queued.toList.flatMap itemsOf).Perm (items.filter own) ∧
      ((∀ node,
        (arrived sent.calls node).Perm ((items.filter (!own ·)).filter (meantFor cfg c node))) ↔
        ∀ entry ∈ rcpt.recipients.entries, owner cfg c entry.1 ∈ c.thisNodeName :: c.names) := by
  intro items sent own
  have remote (uid : Uid) :
      isRemote cfg (some c) uid = !decide (owner cfg c uid = c.thisNodeName) := decide_not
  unfold sent sendPush
  dsimp only
  constructor
  · refine .trans (.of_eq ?_)
      (pick_items rcpt (fun uid => !isRemote cfg (some c) uid) own fun _ _ => ?_)
    · split_ifs with some_user
      · exact List.append_nil _
      · simp [itemsOf, entries_of_idle some_user]
    · rw [remote, Bool.not_not]
      rfl
  · have away := pick_items rcpt (fun uid => isRemote cfg (some c) uid) (!own ·) fun uid _ =>
      (remote uid).symm
    have known : (∀ entry ∈ (pick (fun uid => isRemote cfg (some c) uid) rcpt.recipients).entries,
        Elsewhere cfg c entry.1) ↔
        ∀ entry ∈ rcpt.recipients.entries, owner cfg c entry.1 ∈ c.thisNodeName :: c.names := by
      refine forall_congr' fun entry => ?_
      rw [(pick_entries _ _).mem_iff, List.mem_filter, Elsewhere, List.mem_cons, remote]
      simp only [Bool.not_eq_true', decide_eq_false_iff_not]
      tauto
    refine (forall_congr' fun node => ((away.filter _).congr_right _).symm).trans (.trans ?_ known)
    split_ifs with some_user
    · exact @push_delivers_iff _ _ cfg c { pushRcpt := some _ } _ rfl
    · simp [itemsOf, entries_of_idle some_user, arrived]

/-- Node `A` of two. -/
def nodeA : Cluster := failoverInit sampleConfig "A" ["B"]

/-- The other node is told that user 0 is gone. -/
theorem removed_user_unnamed :
    itemsOf ({ userId := 1, gone := true } : UserCacheReq Unit Unit) = [.gone 1] ∧
      (routeUserReq sampleConfig nodeA []
        ({ userId := 1, gone := true } : UserCacheReq Unit Unit)).2 = none ∧
      (usersRemoveUser sampleConfig (some nodeA) [] 1 : Sent Unit Unit).calls.map
          (fun call => (call.1, call.2.gone, call.2.userId, call.2.userIdList)) =
          [("B", true, 0, [])] ∧
      ¬ Delivers sampleConfig nodeA ({ userId := 1, gone := true } : UserCacheReq Unit Unit) := by
  refine ⟨rfl, by decide +kernel, by decide +kernel, fun delivered => ?_⟩
  exact absurd ((gone_delivers_iff rfl rfl rfl).mp delivered) (by decide)

end LastochkaServer.Guarantees.UserCacheRouting
