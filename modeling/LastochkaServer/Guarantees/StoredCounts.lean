import LastochkaServer.Source.SubscriptionTables

/-!
# The stored number of subscribers

The column `subcnt` of every group topic against the subscriptions with `deletedat IS NULL` under
the topic's name and under the name of its channel, which is what `TopicUpdateSubCnt` computes
(`server/db/postgres/adapter.go:2133-2143`).

`stored_counts_iff` says for every call on tables with right counters when the counters are right
afterwards. `TopicShare` adds the number of subscriptions it is given, so it is wrong about one that
is active already or named twice, and it adds nothing to the group when it is given the name of a
channel. `SubsDelete` of a reader takes one from a topic of the channel's name, which does not
exist. `SubsDelForUser` finds the group but takes only one from it for a user who is subscribed
under both names.
-/

namespace LastochkaServer.Guarantees.StoredCounts

open Lib Source

variable {db db' : Tables} {group topic : String} {user : Uid} {active : String × Uid → Bool}
  {shares : List Share}

/-- The name is the group's or its channel's. -/
def named (group name : String) : Bool := name == group || name == Topic.grpToChn group

def weight (group : String) (key : String × Uid) (sub : Subscription) : Nat :=
  (named group key.1 && !sub.deletedAt).toNat

/-- The number of subscriptions of a group that are not deleted. -/
def subscribers (db : Tables) (group : String) : Nat := db.subscriptions.tally (weight group)

/-- A group topic with a row in `topics`. -/
def Stored (db : Tables) (group : String) : Prop := group ∈ db.topics ∧ hasPrefix group "grp"

/-- Every counter is right. -/
def Consistent (db : Tables) : Prop :=
  ∀ group row, db.topics.lookup group = some row → hasPrefix group "grp" →
    row.subcnt = subscribers db group

/-- When a call leaves every counter right. -/
def Sound (db : Tables) : SubscriptionCall → Prop
  | .topicShare topic shares =>
    ∀ group, Stored db group →
      if group = topic then
        (shares.map Share.key).Nodup ∧ ∀ sub ∈ shares, named group sub.topic ∧
        db.active sub.key = false
      else ∀ sub ∈ shares, named group sub.topic → db.active sub.key
  | .subsDelete topic user =>
    db.active (topic, user) → ∀ group, Stored db group → topic ≠ Topic.grpToChn group
  | .subsDelForUser user _ =>
    ∀ group, Stored db group → ¬(db.active (group, user) ∧ db.active (Topic.grpToChn group, user))

theorem addSubCnt_lookup (db : Tables) (names : List String) (change : Int) (name : String) :
    ((db.addSubCnt names change).topics.lookup name).map (·.subcnt) =
      (db.topics.lookup name).map (·.subcnt + if name ∈ names then change else 0) := by
  unfold Tables.addSubCnt
  rw [Table.lookup_alterWhere]
  cases db.topics.lookup name with
  | none => rfl
  | some row => by_cases mem : name ∈ names <;> simp [mem]

theorem setOwner_lookup (db : Tables) (topic : String) (user : Uid) (name : String) :
    ((db.setOwner topic user).topics.lookup name).map (·.subcnt) =
    (db.topics.lookup name).map (·.subcnt) := by
  unfold Tables.setOwner
  rw [Table.lookup_alterWhere]
  cases db.topics.lookup name with
  | none => rfl
  | some row => by_cases same : name = topic <;> simp [same]

theorem createSubscription_lookup (db : Tables) (sub : Share) (undelete : Bool) (name : String) :
    ((db.createSubscription sub undelete).topics.lookup name).map (·.subcnt) =
      (db.topics.lookup name).map (·.subcnt) := by
  unfold Tables.createSubscription
  dsimp only
  split
  · exact setOwner_lookup ..
  · rfl

theorem createSubscription_active (db : Tables) (sub : Share) (undelete : Bool) :
    (db.createSubscription sub undelete).active = Function.update db.active sub.key true := by
  have inserted (row : Subscription) (present : row.deletedAt = false) :
      Tables.active { db with subscriptions := db.subscriptions.insert sub.key row } =
        Function.update db.active sub.key true := by
    funext key
    by_cases same : key = sub.key
    · subst same
      simp [Tables.active, present]
    · simp [Tables.active, AList.lookup_insert_ne same, same]
  unfold Tables.createSubscription
  dsimp only
  split
  all_goals exact inserted _ (by cases db.subscriptions.lookup sub.key <;> rfl)

theorem softDelete_active (db : Tables) (p : String × Uid → Bool) (key : String × Uid) :
    (db.softDelete p).active key = (db.active key && !p key) := by
  unfold Tables.softDelete Tables.active
  rw [Table.lookup_alterWhere]
  cases db.subscriptions.lookup key with
  | none => rfl
  | some sub => cases p key <;> cases gone : sub.deletedAt <;> simp [gone]

theorem share_weight (db : Tables) (group : String) (key : String × Uid) :
    db.subscriptions.share (weight group) key = (named group key.1 && db.active key).toNat := by
  unfold GoMap.share Tables.active
  cases db.subscriptions.lookup key with
  | none => simp
  | some sub => simp [weight]

theorem subscribers_update {key : String × Uid} {value : Bool}
    (changed : db'.active = Function.update db.active key value) (group : String) :
    subscribers db' group + (named group key.1 && db.active key).toNat =
      subscribers db group + (named group key.1 && value).toNat := by
  have rest (other : String × Uid) (ne : other ≠ key) :
      db'.subscriptions.share (weight group) other = db.subscriptions.share (weight group) other := by
    rw [share_weight, share_weight, changed, Function.update_of_ne ne]
  have moved := Table.tally_change rest
  rw [share_weight, share_weight, changed, Function.update_self] at moved
  exact moved

theorem subscribers_without
    (changed : ∀ key, db'.active key = (db.active key && !decide (key.2 = user)))
    (grp : hasPrefix group "grp") :
    subscribers db' group +
      ((db.active (group, user)).toNat + (db.active (Topic.grpToChn group, user)).toNat) =
      subscribers db group := by
  have ne : (group, user) ≠ (Topic.grpToChn group, user) := by
    intro same
    exact grpToChn_ne grp (congrArg Prod.fst same)
  have others : subscribers db' group =
      db.subscriptions.tally fun key sub => if key.2 = user then 0 else weight group key sub := by
    refine GoMap.tally_eq_of_share _ _ _ _ fun key => ?_
    rw [share_weight, changed]
    have before := share_weight db group key
    unfold GoMap.share at before ⊢
    by_cases own : key.2 = user
    · cases db.subscriptions.lookup key <;> simp [own]
    · simp only [own, if_false, decide_false, Bool.not_false, Bool.and_true]
      exact before.symm
  have own :
      (db.subscriptions.tally fun key sub => if key.2 = user then weight group key sub else 0) =
      (db.active (group, user)).toNat + (db.active (Topic.grpToChn group, user)).toNat := by
    rw [Table.tally_two ne fun key sub _ first second => ?_]
    · have one := share_weight db group (group, user)
      have two := share_weight db group (Topic.grpToChn group, user)
      simp only [named, beq_self_eq_true, Bool.true_or, Bool.or_true, Bool.true_and] at one two
      rw [← one, ← two]
      simp [GoMap.share]
    · by_cases own : key.2 = user
      · have neither : named group key.1 = false := by
          simp only [named, Bool.or_eq_false_iff, beq_eq_false_iff_ne]
          exact ⟨fun same => first (Prod.ext same own), fun same => second (Prod.ext same own)⟩
        simp [weight, own, neither]
      · simp [own]
  have split : subscribers db group =
      (db.subscriptions.tally fun key sub => if key.2 = user then 0 else weight group key sub) +
      db.subscriptions.tally fun key sub => if key.2 = user then weight group key sub else 0 := by
    rw [← Table.tally_add]
    refine GoMap.tally_congr _ _ _ fun key sub _ => ?_
    by_cases own : key.2 = user <;> simp [own]
  omega

/-- How many subscriptions of a group become active when `shares` are created one after the
other. -/
def gained (group : String) : (String × Uid → Bool) → List Share → Nat
  | _, [] => 0
  | active, sub :: rest =>
    (named group sub.topic && !active sub.key).toNat +
    gained group (Function.update active sub.key true) rest

theorem subscribers_shares (db : Tables) (group : String) (shares : List Share) :
    subscribers (shares.foldl (fun db sub => db.createSubscription sub true) db) group =
      subscribers db group + gained group db.active shares := by
  induction shares generalizing db with
  | nil => rfl
  | cons sub rest ih =>
    have created := createSubscription_active db sub true
    have changed := subscribers_update created group
    rw [List.foldl_cons, ih, gained, ← created]
    have key : sub.key.1 = sub.topic := rfl
    rw [key] at changed
    cases ours : named group sub.topic <;> cases old : db.active sub.key <;>
      simp [ours, old] at changed ⊢ <;> omega

theorem gained_le (group : String) (active : String × Uid → Bool) (shares : List Share) :
    gained group active shares ≤ shares.length := by
  induction shares generalizing active with
  | nil => exact Nat.le_refl 0
  | cons sub rest ih =>
    have later := ih (Function.update active sub.key true)
    have once := Bool.toNat_le (named group sub.topic && !active sub.key)
    rw [gained, List.length_cons]
    omega

/-- All count when they are different, of this group and new. -/
theorem gained_eq_length :
    gained group active shares = shares.length ↔
      (shares.map Share.key).Nodup ∧ ∀ sub ∈ shares, named group sub.topic ∧
      active sub.key = false := by
  induction shares generalizing active with
  | nil => simp [gained]
  | cons sub rest ih =>
    have later := gained_le group (Function.update active sub.key true) rest
    have both : gained group active (sub :: rest) = (sub :: rest).length ↔
        (named group sub.topic && !active sub.key) ∧
          gained group (Function.update active sub.key true) rest = rest.length := by
      rw [gained, List.length_cons]
      cases named group sub.topic && !active sub.key <;> simp <;> omega
    rw [both, ih, List.map_cons, List.nodup_cons]
    constructor
    · rintro ⟨new, nodup, others⟩
      have new : named group sub.topic ∧ active sub.key = false := by simpa using new
      have fresh : sub.key ∉ rest.map Share.key := by
        intro mem
        obtain ⟨other, listed, same⟩ := List.mem_map.mp mem
        have again := (others other listed).2
        rw [same, Function.update_self] at again
        cases again
      refine ⟨⟨fresh, nodup⟩, fun other listed => ?_⟩
      rcases List.mem_cons.mp listed with rfl | listed
      · exact new
      · have ne : other.key ≠ sub.key := fun same => fresh (List.mem_map.mpr ⟨other, listed, same⟩)
        have inactive := (others other listed).2
        rw [Function.update_of_ne ne] at inactive
        exact ⟨(others other listed).1, inactive⟩
    · rintro ⟨⟨fresh, nodup⟩, all⟩
      have new := all sub List.mem_cons_self
      refine ⟨by simp [new], nodup, fun other listed => ?_⟩
      have ne : other.key ≠ sub.key := fun same => fresh (List.mem_map.mpr ⟨other, listed, same⟩)
      rw [Function.update_of_ne ne]
      exact all other (List.mem_cons_of_mem _ listed)

/-- None counts when those of this group are active already. -/
theorem gained_eq_zero :
    gained group active shares = 0 ↔ ∀ sub ∈ shares, named group sub.topic → active sub.key := by
  induction shares generalizing active with
  | nil => simp [gained]
  | cons sub rest ih =>
    have both : gained group active (sub :: rest) = 0 ↔ (named group sub.topic → active sub.key) ∧
        gained group (Function.update active sub.key true) rest = 0 := by
      rw [gained]
      cases named group sub.topic <;> cases active sub.key <;> simp
    -- a later one with the same key has the same name
    have later (old : named group sub.topic → active sub.key) (other : Share)
        (ours : named group other.topic) : Function.update active sub.key true other.key =
        active other.key := by
      by_cases same : other.key = sub.key
      · have topic : other.topic = sub.topic := congrArg Prod.fst same
        rw [same, Function.update_self, old (topic ▸ ours)]
      · rw [Function.update_of_ne same]
    rw [both, ih, List.forall_mem_cons]
    constructor
    · rintro ⟨old, rest⟩
      refine ⟨old, fun other listed ours => ?_⟩
      rw [← later old other ours]
      exact rest other listed ours
    · rintro ⟨old, rest⟩
      refine ⟨old, fun other listed ours => ?_⟩
      rw [later old other ours]
      exact rest other listed ours

/-- Counters that change by `change` stay right where the number of subscribers changes by it. -/
theorem consistent_iff (consistent : Consistent db) {change : String → Int}
    (topics : ∀ name, hasPrefix name "grp" →
      (db'.topics.lookup name).map (·.subcnt) =
      (db.topics.lookup name).map (·.subcnt + change name)) :
    Consistent db' ↔ ∀ group, Stored db group → (subscribers db' group : Int) =
      subscribers db group + change group := by
  constructor
  · rintro right group ⟨stored, grp⟩
    obtain ⟨row, found⟩ := Option.isSome_iff_exists.mp (AList.lookup_isSome.mpr stored)
    have counted := topics group grp
    rw [found, Option.map_some] at counted
    obtain ⟨row', found', subcnt⟩ := Option.map_eq_some_iff.mp counted
    rw [← right group row' found' grp, subcnt, consistent group row found grp]
  · intro moved group row' found' grp
    have counted := topics group grp
    rw [found', Option.map_some] at counted
    obtain ⟨row, found, subcnt⟩ := Option.map_eq_some_iff.mp counted.symm
    have stored : Stored db group := ⟨AList.lookup_isSome.mp (by rw [found]; rfl), grp⟩
    rw [← subcnt, moved group stored, consistent group row found grp]

theorem topicShare_lookup (db : Tables) (topic : String) (shares : List Share) {name : String}
    (grp : hasPrefix name "grp") :
    ((db.topicShare topic shares).topics.lookup name).map (·.subcnt) =
      (db.topics.lookup name).map (·.subcnt + if name = topic then (shares.length : Int) else 0) := by
  have created (shares : List Share) (db : Tables) :
      ((shares.foldl (fun db sub => db.createSubscription sub true) db).topics.lookup name).map
        (·.subcnt) =
        (db.topics.lookup name).map (·.subcnt) := by
    induction shares generalizing db with
    | nil => rfl
    | cons sub rest ih => exact (ih _).trans (createSubscription_lookup db sub true name)
  have added (change : Int) (o : Option CountedRow) :
      o.map (·.subcnt + change) = (o.map (·.subcnt)).map (· + change) := by
    cases o <;> rfl
  unfold Tables.topicShare
  split
  · rw [addSubCnt_lookup, added, added, created]
    simp
  next empty =>
  have other : name ≠ topic := by
    rintro rfl
    rw [not_not.mp empty] at grp
    cases grp
  rw [created, if_neg other]
  simp

theorem topicShare_consistent (consistent : Consistent db) (topic : String) (shares : List Share) :
    Consistent (db.topicShare topic shares) ↔ Sound db (.topicShare topic shares) := by
  have subscribed (group : String) :
      subscribers (db.topicShare topic shares) group =
      subscribers db group + gained group db.active shares := by
    rw [← subscribers_shares]
    unfold Tables.topicShare
    split <;> rfl
  rw [consistent_iff consistent fun name grp => topicShare_lookup db topic shares grp]
  refine forall_congr' fun group => forall_congr' fun _ => ?_
  rw [subscribed]
  split
  · rw [← gained_eq_length]
    omega
  · rw [← gained_eq_zero]
    omega

/-- What `SubsDelete` of an active subscription leaves, if `GetTopicCat` knows the name. -/
theorem subsDelete_ok (done : db.subsDelete topic user = .ok db') :
    db.active (topic, user) ∧ db'.active = Function.update db.active (topic, user) false ∧
      ∀ name, hasPrefix name "grp" → (db'.topics.lookup name).map (·.subcnt) =
        (db.topics.lookup name).map (·.subcnt + if name = topic then -1 else 0) := by
  unfold Tables.subsDelete at done
  cases present : db.active (topic, user) with
  | false => simp [present, bind, Except.bind, throw, throwThe, MonadExceptOf.throw] at done
  | true =>
    have removed (logged : Tables)
        (same : logged.subscriptions = (db.softDelete fun key => key = (topic, user)).subscriptions) :
        logged.active = Function.update db.active (topic, user) false := by
      funext key
      have marked :
          logged.active key = (db.softDelete fun key => key = (topic, user)).active key := by
        unfold Tables.active
        rw [same]
      rw [marked, softDelete_active]
      by_cases own : key = (topic, user) <;> simp [own]
    cases known : getTopicCat topic with
    | error e =>
      simp [present, known, bind, Except.bind, Except.mapError] at done
    | ok cat =>
      simp only [present, known, bind, Except.bind, Except.mapError, pure, Except.pure,
        Bool.true_eq_false, if_false, Except.ok.injEq] at done
      subst done
      refine ⟨rfl, removed _ (by split <;> split <;> rfl), fun name grp => ?_⟩
      have counted (logged : Tables) (same : logged.topics = db.topics) :
          ((if cat = .grp then logged.addSubCnt [topic] (-1) else logged).topics.lookup name).map
            (·.subcnt) =
            (db.topics.lookup name).map (·.subcnt + if name = topic then -1 else 0) := by
        split
        · rw [addSubCnt_lookup, same]
          simp
        next other =>
        have apart : name ≠ topic := by
          rintro rfl
          rw [getTopicCat_grp grp] at known
          exact other (Except.ok.inj known).symm
        rw [same, if_neg apart]
        simp
      exact counted _ (by split <;> rfl)

theorem subsDelete_consistent (consistent : Consistent db)
    (done : db.subsDelete topic user = .ok db') :
    Consistent db' ↔ Sound db (.subsDelete topic user) := by
  obtain ⟨present, removed, topics⟩ := subsDelete_ok done
  have moved (group : String) := subscribers_update removed group
  simp only [present, Bool.and_true, Bool.and_false, Bool.toNat_false] at moved
  rw [consistent_iff consistent topics]
  constructor
  · intro right _ group stored same
    have counted := right group stored
    have one := moved group
    have apart : group ≠ topic := same ▸ grpToChn_ne stored.2
    rw [if_neg apart] at counted
    simp [named, same] at one
    omega
  · intro sound group stored
    have other := sound present group stored
    have one := moved group
    by_cases same : group = topic
    · rw [if_pos same]
      simp [named, same] at one ⊢
      omega
    · have neither : named group topic = false := by
        simp only [named, Bool.or_eq_false_iff, beq_eq_false_iff_ne]
        exact ⟨Ne.symm same, other⟩
      rw [neither] at one
      rw [if_neg same]
      simpa using one

/-- A subscription that `SubsDelete` could not delete is not active, or not one of a group. -/
theorem subsDelete_error {e : Tables.CallError} (failed : db.subsDelete topic user = .error e) :
    Sound db (.subsDelete topic user) := by
  rintro present group stored rfl
  obtain ⟨rest, rfl⟩ : ∃ rest, group = "grp" ++ rest := ⟨_, hasPrefix_eq stored.2⟩
  have known : recognised ("chn" ++ rest) :=
    recognised_of_hasPrefix (by decide) (hasPrefix_append "chn" rest)
  rw [grpToChn_append] at failed present
  obtain ⟨cat, found⟩ := getTopicCat_ok_iff.mpr known
  simp [Tables.subsDelete, present, found, bind, Except.bind, Except.mapError, pure,
    Except.pure] at failed

theorem mem_userTopics (db : Tables) (user : Uid) (grp : hasPrefix group "grp") :
    group ∈ db.userTopics user ↔ db.active (group, user) ∨
      db.active (Topic.grpToChn group, user) := by
  have present (name : String) : db.active (name, user) ↔
      ∃ sub, ⟨(name, user), sub⟩ ∈ db.subscriptions.entries ∧ sub.deletedAt = false := by
    simp [Tables.active, Option.any_eq_true, GoMap.mem_entries_iff]
  rw [present, present]
  simp only [Tables.userTopics, List.mem_map, List.mem_filter, Bool.and_eq_true, decide_eq_true_eq,
    Bool.not_eq_true', groupName_iff grp]
  constructor
  · rintro ⟨⟨⟨name, owner⟩, sub⟩, ⟨listed, rfl, kept⟩, rfl | rfl⟩
    · exact .inl ⟨sub, listed, kept⟩
    · exact .inr ⟨sub, listed, kept⟩
  · rintro (⟨sub, listed, kept⟩ | ⟨sub, listed, kept⟩)
    · exact ⟨_, ⟨listed, rfl, kept⟩, .inl rfl⟩
    · exact ⟨_, ⟨listed, rfl, kept⟩, .inr rfl⟩

/-- `SubsDelForUser` ends the user's subscriptions and takes one from every topic they were
subscribed to. -/
theorem subsDelForUser_tables (db : Tables) (user : Uid) (hard : Bool) :
    (∀ key, (db.subsDelForUser user hard).active key = (db.active key && !decide (key.2 = user))) ∧
      ∀ name, ((db.subsDelForUser user hard).topics.lookup name).map (·.subcnt) =
        (db.topics.lookup name).map (·.subcnt + if name ∈ db.userTopics user then -1 else 0) := by
  have erased (left db : Tables) (key : String × Uid) (deleted : left.subscriptions =
      Table.alterWhere (fun key _ => decide (key.2 = user)) (fun _ => none) db.subscriptions) :
        left.active key = (db.active key && !decide (key.2 = user)) := by
    unfold Tables.active
    rw [deleted, Table.lookup_alterWhere]
    by_cases own : key.2 = user <;> cases db.subscriptions.lookup key <;> simp [own]
  have none_left (few : ¬(db.userTopics user).length > 0) (name : String) :
      name ∉ db.userTopics user := by
    rw [List.length_eq_zero_iff.mp (Nat.eq_zero_of_not_pos few)]
    exact List.not_mem_nil
  unfold Tables.subsDelForUser
  constructor
  · intro key
    cases hard <;> simp
    · rw [softDelete_active]
      split <;> rfl
    · rw [erased _ _ key rfl]
      split <;> rfl
  · intro name
    cases hard <;> by_cases few : (db.userTopics user).length > 0 <;>
      simp [few, Tables.softDelete]
    · rw [addSubCnt_lookup]
    · simp [none_left few]
    · rw [addSubCnt_lookup]
    · simp [none_left few]

theorem subsDelForUser_consistent (consistent : Consistent db) (user : Uid) (hard : Bool) :
    Consistent (db.subsDelForUser user hard) ↔ Sound db (.subsDelForUser user hard) := by
  obtain ⟨removed, topics⟩ := subsDelForUser_tables db user hard
  rw [consistent_iff consistent fun name _ => topics name]
  refine forall_congr' fun group => forall_congr' fun stored => ?_
  have left := subscribers_without removed stored.2
  have mem := mem_userTopics db user stored.2
  cases one : db.active (group, user) <;> cases two : db.active (Topic.grpToChn group, user) <;>
    simp [one, two] at left mem ⊢ <;> simp [mem] <;> omega

/-- On tables with right counters, a call leaves them right exactly if it is `Sound` or has no
effect. -/
theorem stored_counts_iff {db : Tables} (consistent : Consistent db) (fails : Bool)
    (call : SubscriptionCall) :
    Consistent (call.perform db fails) ↔ fails ∨ Sound db call := by
  cases fails with
  | true =>
    have unchanged : call.perform db true = db := by
      unfold SubscriptionCall.perform
      split <;> rfl
    simp [unchanged, consistent]
  | false =>
    rw [or_iff_right Bool.false_ne_true]
    cases call with
    | topicShare topic shares => exact topicShare_consistent consistent topic shares
    | subsDelForUser user hard => exact subsDelForUser_consistent consistent user hard
    | subsDelete topic user =>
      cases done : db.subsDelete topic user with
      | ok db' =>
        have performed : SubscriptionCall.perform db false (.subsDelete topic user) = db' := by
          simp [SubscriptionCall.perform, SubscriptionCall.body, done]
        rw [performed]
        exact subsDelete_consistent consistent done
      | error e =>
        have unchanged : SubscriptionCall.perform db false (.subsDelete topic user) = db := by
          simp [SubscriptionCall.perform, SubscriptionCall.body, done]
        rw [unchanged]
        exact iff_of_true consistent (subsDelete_error done)

/-- A channel with one user, subscribed under both names. -/
def subscribedTwice : Tables where
  subscriptions :=
    ((∅ : GoMap (String × Uid) Subscription).insert ("grpAbc", 7)
      { modeWant := 1, modeGiven := 1 }).insert
    ("chnAbc", 7) { modeWant := 1, modeGiven := 1 }
  topics := (∅ : GoMap String CountedRow).insert "grpAbc" { subcnt := 2 }

theorem subscribedTwice_stored {row : CountedRow}
    (found : subscribedTwice.topics.lookup group = some row) :
    group = "grpAbc" ∧ row = { subcnt := 2 } := by
  rcases GoMap.lookup_insert_eq_some.mp found with same | ⟨-, found⟩
  · exact same
  · cases found

theorem subscribedTwice_consistent : Consistent subscribedTwice := by
  intro group row found _
  obtain ⟨rfl, rfl⟩ := subscribedTwice_stored found
  decide +kernel

/-- Each of the three calls can leave a wrong counter: a reader's own subscription is deleted, a
subscription is given again, and all subscriptions of a user with two of them are deleted. -/
theorem counts_drift : Consistent subscribedTwice ∧
    ¬Consistent (SubscriptionCall.perform subscribedTwice false (.subsDelete "chnAbc" 7)) ∧
    ¬Consistent (SubscriptionCall.perform subscribedTwice false
      (.topicShare "grpAbc" [{ topic := "grpAbc", user := 7, modeWant := 0, modeGiven := 0 }])) ∧
    ¬Consistent (SubscriptionCall.perform subscribedTwice false (.subsDelForUser 7 false)) := by
  refine ⟨subscribedTwice_consistent, fun right => ?_, fun right => ?_, fun right => ?_⟩
  · have counted := right "grpAbc" { subcnt := 2 } (by decide +kernel) (by decide)
    revert counted
    decide +kernel
  · have counted := right "grpAbc" { subcnt := 3 } (by decide +kernel) (by decide)
    revert counted
    decide +kernel
  · have counted := right "grpAbc" { subcnt := 1 } (by decide +kernel) (by decide)
    revert counted
    decide +kernel

/-- Another user joins the group and the member leaves it. -/
theorem group_counted : Consistent subscribedTwice ∧
    Consistent (SubscriptionCall.perform subscribedTwice false
      (.topicShare "grpAbc" [{ topic := "grpAbc", user := 8, modeWant := 1, modeGiven := 1 }])) ∧
    Consistent (SubscriptionCall.perform subscribedTwice false (.subsDelete "grpAbc" 7)) := by
  have joins : Sound subscribedTwice
      (.topicShare "grpAbc" [{ topic := "grpAbc", user := 8, modeWant := 1, modeGiven := 1 }]) := by
    intro group stored
    obtain ⟨row, found⟩ := Option.isSome_iff_exists.mp (AList.lookup_isSome.mpr stored.1)
    obtain ⟨rfl, -⟩ := subscribedTwice_stored found
    exact ⟨List.nodup_singleton _, by decide +kernel⟩
  have leaves : Sound subscribedTwice (.subsDelete "grpAbc" 7) := by
    rintro - group stored
    obtain ⟨row, found⟩ := Option.isSome_iff_exists.mp (AList.lookup_isSome.mpr stored.1)
    obtain ⟨rfl, -⟩ := subscribedTwice_stored found
    decide +kernel
  exact ⟨subscribedTwice_consistent,
    (stored_counts_iff subscribedTwice_consistent false _).mpr (.inr joins),
    (stored_counts_iff subscribedTwice_consistent false _).mpr (.inr leaves)⟩

end LastochkaServer.Guarantees.StoredCounts
