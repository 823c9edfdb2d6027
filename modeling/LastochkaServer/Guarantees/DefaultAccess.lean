import LastochkaServer.Lib.Run
import LastochkaServer.Source.Topic.Desc

/-!
# Default access without ownership

The default modes of a group topic are set when it is created and changed by its owner afterwards.
Both paths parse the same pair of texts and both look for `O`, but they treat a pair with an invalid
part differently: a new topic takes the valid part, a changed description is refused as a whole.
-/

namespace LastochkaServer.Guarantees.DefaultAccess

open Lib Lib.Run Source Source.AccessMode

variable {a a' : Acl} {s : DescState} {fail : Faults} {r : NewTopicRequest} {cfg : Config}
  {users : GoMap Uid User} {name : String} {pub trusted : Value}

/-- The text is given and is not a mode. -/
def invalid (text : String) : Bool :=
  decide (text ≠ "") &&
    match parseAcs text with
    | .ok _ => false
    | .error _ => true

variable (m : AccessMode)

theorem assignMode_error (text : String) (given : text ≠ "") :
    (assignMode m text).2.isSome = invalid text := by
  unfold assignMode unmarshalText invalid
  cases parseAcs text with
  | error e => simp [given, bind, Except.bind]
  | ok m0 =>
    simp only [bind, Except.bind, pure, Except.pure]
    split_ifs <;> simp

theorem assignMode_invalid (text : String) (wrong : invalid text) :
    (assignMode m text).1 = m := by
  unfold assignMode unmarshalText
  unfold invalid at wrong
  cases parsed : parseAcs text with
  | error e => rfl
  | ok m0 => simp [parsed] at wrong

variable (acs : DefaultAcs)

/-- The error reported is that of the anonymous part, where there is one. -/
theorem parseTopicAccess_error (a b : AccessMode) :
    (parseTopicAccess acs a b).2.2.isSome =
      if acs.anon ≠ "" then invalid acs.anon else invalid acs.auth := by
  unfold parseTopicAccess
  by_cases anon : acs.anon = ""
  · by_cases auth : acs.auth = ""
    · simp [anon, auth, invalid]
    · simp [anon, auth, assignMode_error _ _ auth]
  · simp [anon, assignMode_error _ _ anon]

/-- Parsing reports an error. -/
def reported (acs : DefaultAcs) : Bool :=
  if acs.anon ≠ "" then invalid acs.anon else invalid acs.auth

/-- An invalid part before a valid one: the outcome of the second replaces the error of the first. -/
def overwritten (acs : DefaultAcs) : Bool :=
  invalid acs.auth && decide (acs.anon ≠ "") && !invalid acs.anon

theorem reported_iff : reported acs = (invalid acs.auth || invalid acs.anon) ↔
    overwritten acs = false := by
  unfold reported overwritten
  by_cases anon : acs.anon = ""
  · simp [anon, invalid]
  · cases invalid acs.auth <;> cases invalid acs.anon <;> simp [anon]

/-- A part of a pair, or the mode that stands for a part that is missing or invalid. -/
def partOr (m : AccessMode) (text : String) : AccessMode :=
  if text ≠ "" then (assignMode m text).1 else m

theorem parseTopicAccess_modes (a b : AccessMode) :
    (parseTopicAccess acs a b).1 = partOr a acs.auth ∧
      (parseTopicAccess acs a b).2.1 = partOr b acs.anon := by
  unfold parseTopicAccess partOr
  constructor <;> split_ifs <;> rfl

theorem partOr_invalid (text : String) (wrong : invalid text) : partOr m text = m := by
  unfold partOr
  split_ifs
  · exact assignMode_invalid m text wrong
  · rfl

/-- Whether a part contains `O` does not depend on the mode it replaces. -/
theorem partOr_isOwner (text : String) (plain : m.isOwner = false) :
    (partOr m text).isOwner = (partOr modeNone text).isOwner := by
  have unowned : modeNone.isOwner = false := by decide
  unfold partOr assignMode unmarshalText
  cases parseAcs text with
  | error e => simp [plain, unowned, bind, Except.bind]
  | ok m0 =>
    by_cases given : text = ""
    · simp [given, plain, unowned]
    · by_cases unset : m0 = modeUnset
      · simp [given, unset, plain, unowned, bind, Except.bind, pure, Except.pure]
      · simp [given, unset, bind, Except.bind, pure, Except.pure]

theorem partOr_ne_invalid (text : String) (within : m &&& modeBitmask = m) :
    partOr m text ≠ modeInvalid := by
  have masked : ∀ m : AccessMode, m &&& modeBitmask = m → m ≠ modeInvalid := by
    rintro m within rfl
    exact absurd within (by decide)
  unfold partOr
  split_ifs
  · exact masked _ (assignMode_bitmask m text within)
  · exact masked _ within

/-- The authenticated part contains `O` and the anonymous part is invalid: the only pair whose `O`
gets into a new topic. -/
def ownerBesideInvalid : Option DefaultAcs → Bool
  | none => false
  | some acs => invalid acs.anon && (partOr modeNone acs.auth).isOwner

/-- A new topic uses the valid part of a pair for which an error is reported. -/
theorem newTopicAccess_reported (a b : AccessMode) (wrong : reported acs)
    (auth : a &&& modeBitmask = a) (anon : b &&& modeBitmask = b) :
    newTopicAccess a b (some acs) = (partOr a acs.auth, partOr b acs.anon) := by
  obtain ⟨first, second⟩ := parseTopicAccess_modes acs a b
  have error := (parseTopicAccess_error acs a b).trans wrong
  unfold newTopicAccess
  dsimp only
  split
  · next authMode anonMode text parsed =>
    rw [parsed] at first second
    dsimp only at first second
    rw [first, second, if_neg (partOr_ne_invalid a _ auth), if_neg (partOr_ne_invalid b _ anon)]
  · next parsed =>
    rw [parsed] at error
    cases error

theorem newTopicAccess_plain (acs : Option DefaultAcs) (a b : AccessMode)
    (auth : a &&& modeBitmask = a) (anon : b &&& modeBitmask = b)
    (plainAuth : a.isOwner = false) (plainAnon : b.isOwner = false)
    (safe : ownerBesideInvalid acs = false) :
    (newTopicAccess a b acs).1.isOwner = false ∧ (newTopicAccess a b acs).2.isOwner = false := by
  cases acs with
  | none => exact ⟨plainAuth, plainAnon⟩
  | some acs =>
    cases wrong : reported acs with
    | true =>
      rw [newTopicAccess_reported acs a b wrong auth anon, partOr_isOwner a _ plainAuth]
      unfold reported at wrong
      change (invalid acs.anon && (partOr modeNone acs.auth).isOwner) = false at safe
      split_ifs at wrong with given
      · rw [wrong, Bool.true_and] at safe
        exact ⟨safe, by rw [partOr_invalid b _ wrong]; exact plainAnon⟩
      · rw [not_not.mp given, partOr_invalid _ _ wrong]
        exact ⟨by decide, plainAnon⟩
    | false =>
      have error := (parseTopicAccess_error acs a b).trans wrong
      unfold newTopicAccess
      dsimp only
      split
      · next parsed =>
        rw [parsed] at error
        cases error
      · split_ifs with owner
        · exact ⟨isOwner_strip _, isOwner_strip _⟩
        · obtain ⟨first, second⟩ := not_or.mp owner
          exact ⟨Bool.not_eq_true _ ▸ first, Bool.not_eq_true _ ▸ second⟩

/-- What happens to a topic: a changed description, a subscription request, and unloading and
loading. -/
inductive Event
  | setDesc (fail : DescFaults) (r : SetDescRequest)
  | request (fail : Faults) (r : Request)
  | reload (order : RowOrder)

def step (cfg : Config) (mergeInterfaces : Value → Value → Value × Bool) (s : DescState) :
    Event → DescState
  | .setDesc fail r => (replySetDesc mergeInterfaces fail s r).1
  | .request fail r => { s with world := serve cfg fail s.world r }
  | .reload order => s.reload cfg order

/-- Neither default mode contains `O`. -/
def NoOwner (s : DescState) : Prop :=
  s.world.topic.accessAuth.isOwner = false ∧ s.world.topic.accessAnon.isOwner = false

/-- Nor does a stored one. -/
structure Inv (s : DescState) : Prop where
  cached : NoOwner s
  stored : s.row.accessAuth.isOwner = false ∧ s.row.accessAnon.isOwner = false
  group : s.world.topic.cat = .grp
  alive : ∀ u g, s.world.acl.grants u = some g → g.deleted = false

/-- What every subscription request leaves alone. -/
structure Frame (a a' : Acl) : Prop where
  cat : a'.cat = a.cat
  accessAuth : a'.accessAuth = a.accessAuth
  accessAnon : a'.accessAnon = a.accessAnon
  alive : (∀ u g, a.grants u = some g → g.deleted = false) →
    ∀ u g, a'.grants u = some g → g.deleted = false

theorem Frame.refl (a : Acl) : Frame a a := ⟨rfl, rfl, rfl, id⟩

theorem Frame.trans {b c : Acl} (first : Frame a b) (second : Frame b c) : Frame a c :=
  ⟨second.cat.trans first.cat, second.accessAuth.trans first.accessAuth,
    second.accessAnon.trans first.accessAnon, second.alive ∘ first.alive⟩

theorem Frame.rows (a : Acl) (rows : Uid → Option RowGrant) : Frame a { a with rows := rows } :=
  ⟨rfl, rfl, rfl, id⟩

theorem Frame.put (a : Acl) (u : Uid) (g : Grant) (live : g.deleted = false) :
    Frame a (a.put u g) := by
  refine ⟨rfl, rfl, rfl, fun alive v g' cached => ?_⟩
  by_cases same : v = u
  · subst same
    rw [Acl.put_grants] at cached
    cases cached
    exact live
  · exact alive v g' ((Function.update_of_ne same _ _).symm.trans cached)

theorem Frame.drop (a : Acl) (u : Uid) : Frame a (a.drop u) := by
  refine ⟨rfl, rfl, rfl, fun alive v g' cached => ?_⟩
  by_cases same : v = u
  · subst same
    rw [Acl.drop_grants] at cached
    cases cached
  · exact alive v g' ((Function.update_of_ne same _ _).symm.trans cached)

theorem Frame.detach (a : Acl) (u : Uid) : Frame a (a.detach u) := by
  unfold Acl.detach
  split_ifs
  · exact .drop a u
  · exact .refl a

theorem Frame.settle (a : Acl) (u : Uid) (g : Grant) (want given : AccessMode)
    (live : g.deleted = false) : Frame a (a.settle u g want given) := by
  unfold Acl.settle
  split_ifs
  · exact .put a u _ live
  · exact Frame.trans (.put a u { g with want := want, given := given } live) (.detach _ u)

theorem Frame.enroll (a : Acl) (u : Uid) (want given : AccessMode) :
    Frame a (a.enroll u want given) := by
  unfold Acl.enroll
  split_ifs
  · exact .refl a
  · exact .rows a _

section

variable (alive : ∀ u g, a.grants u = some g → g.deleted = false)
include alive

theorem selfSub_frame {r : SubRequest} (change : SelfSub fail a r a') : Frame a a' := by
  cases change with
  | kept => exact .refl a
  | joined m addressed uncached asked joiner => exact (Frame.enroll ..).trans (.put _ _ _ rfl)
  | joinedReader want uncached => exact .put _ _ _ rfl
  | updated m want given g cached asked modes =>
    exact (Frame.rows a _).trans (.settle _ _ _ _ _ (alive _ g cached))
  | tookOver m want given g cached asked modes =>
    refine (Frame.trans ?_ (.settle _ _ _ _ _ (alive _ g cached)))
    -- the former owner may not be cached
    have former :
        (((a.saveModes r.asUid g want given).grants a.owner).getD {}).disown.deleted = false := by
      change ((a.grants a.owner).getD {}).disown.deleted = false
      cases known : a.grants a.owner with
      | none => rfl
      | some g' => exact alive _ g' known
    obtain ⟨cat, auth, anon, live⟩ := ((Frame.rows a _).trans (.rows _ _)).trans
      (.put _ a.owner _ former)
    exact ⟨cat, auth, anon, live⟩
  | interrupted m want given g cached asked modes a' failed stored =>
    rcases stored with rfl | rfl
    · exact .rows a _
    · exact (Frame.rows a _).trans (.rows _ _)

theorem granted_frame {r : GrantRequest} (change : Granted a r a') : Frame a a' := by
  cases change with
  | kept => exact .refl a
  | invited want given uncached sharer explicit wanted =>
    exact (Frame.rows a _).trans (.put _ _ _ rfl)
  | changed given g cached admin asked explicit transfer protected_ =>
    have changed : Frame a ((a.editRow r.target ({ · with given := given })).put r.target
        { g with given := given }) :=
      (Frame.rows a _).trans (.put _ _ _ (alive _ g cached))
    unfold Acl.regive
    split_ifs
    · exact changed
    · exact changed.trans (.detach _ _)
  | dropped g cached sharer banned => exact .detach a _

theorem answered_frame {r : Request} (change : Answered fail a r a') : Frame a a' := by
  cases change with
  | kept => exact .refl a
  | sub s a' change
  | setSelf s a' own change => exact selfSub_frame alive change
  | setOther s a' other change => exact granted_frame alive change
  | removed
  | left => exact (Frame.rows a _).trans (.drop _ _)
  | readerLeft => exact .drop a _

end

theorem assignAccess_plain {t : Topic} {acs : Option DefaultAcs} {access : AccessMode × AccessMode}
    (auth : t.accessAuth.isOwner = false) (anon : t.accessAnon.isOwner = false)
    (assigned : assignAccess t acs = .ok (some access)) :
    access.1.isOwner = false ∧ access.2.isOwner = false := by
  unfold assignAccess at assigned
  split at assigned
  · cases assigned
  split at assigned
  · cases assigned
  split at assigned
  · cases assigned
  next plain =>
  obtain ⟨first, second⟩ := not_or.mp plain
  rw [Bool.not_eq_true] at first second
  obtain ⟨-, same⟩ := Option.ite_none_right_eq_some.mp (Except.ok.inj assigned)
  cases same
  constructor
  · dsimp only
    split_ifs
    · exact first
    · exact auth
  · dsimp only
    split_ifs
    · exact second
    · exact anon

theorem assignAccess_reported (t : Topic) (acs : DefaultAcs) (wrong : reported acs) :
    ∃ text, assignAccess t (some acs) = .error text := by
  have error := (parseTopicAccess_error acs modeUnset modeUnset).trans wrong
  unfold assignAccess
  dsimp only
  split
  · exact ⟨_, rfl⟩
  · next parsed =>
    rw [parsed] at error
    cases error

theorem setDesc_inv {mergeInterfaces : Value → Value → Value × Bool} {fail : DescFaults}
    {r : SetDescRequest} (inv : Inv s) : Inv (replySetDesc mergeInterfaces fail s r).1 := by
  -- the topic is the same, or has other defaults and another private value
  have topics (s' : DescState) (u : DescUpdate)
      (plain : ∀ access, u.access = some access →
        access.1.isOwner = false ∧ access.2.isOwner = false)
      (row : s'.row = (s.storeCore u).row)
      (topic : s'.world.topic = s.world.topic ∨ s'.world.topic = (s.apply r u).world.topic) :
      Inv s' := by
    have stored : s'.row.accessAuth.isOwner = false ∧ s'.row.accessAnon.isOwner = false := by
      rw [row]
      cases changed : u.access with
      | none => simpa [DescState.storeCore, changed] using inv.stored
      | some access => simpa [DescState.storeCore, changed] using plain access changed
    have grants : s'.world.acl.grants =
        (World.acl { s.world with topic := s'.world.topic }).grants := rfl
    rcases topic with topic | topic
    · refine ⟨?_, stored, ?_, ?_⟩
      · unfold NoOwner
        rw [topic]
        exact inv.cached
      · rw [topic]
        exact inv.group
      · rw [grants, topic]
        exact inv.alive
    · have frame : (s.apply r u).world.topic.cat = s.world.topic.cat ∧
          (s.apply r u).world.topic.accessAuth =
            (u.access.map Prod.fst).getD s.world.topic.accessAuth ∧
          (s.apply r u).world.topic.accessAnon =
            (u.access.map Prod.snd).getD s.world.topic.accessAnon := by
        unfold DescState.apply Topic.setPrivate
        cases u.priv <;> exact ⟨rfl, rfl, rfl⟩
      obtain ⟨cat, auth, anon⟩ := frame
      refine ⟨?_, stored, ?_, ?_⟩
      · unfold NoOwner
        rw [topic, auth, anon]
        cases changed : u.access with
        | none => exact inv.cached
        | some access => exact plain access changed
      · rw [topic, cat]
        exact inv.group
      · intro v g cached
        rw [grants, topic] at cached
        rcases setPrivate_grants s.world _ r.asUid u.priv v g cached with known | rfl
        · exact inv.alive v g known
        · rfl
  rcases replySetDesc_effect mergeInterfaces fail s r with
    ⟨topic, row⟩ | ⟨u, got, row, topic⟩
  · exact topics _ {} (by simp) row (.inl topic)
  · refine topics _ u (fun access changed => ?_) row topic
    obtain ⟨desc, -, assigned⟩ := descUpdate_access got changed
    exact assignAccess_plain inv.cached.1 inv.cached.2 assigned

theorem loadSubscribers_alive (t : Topic) (subs : List (Uid × Subscription))
    (alive : ∀ u g, (t.perUser.lookup u).map PerUserData.grant = some g → g.deleted = false) (u : Uid)
    (g : Grant)
    (cached : ((t.loadSubscribers subs).perUser.lookup u).map PerUserData.grant = some g) :
    g.deleted = false := by
  induction subs generalizing t with
  | nil => exact alive u g cached
  | cons row rest ih =>
    refine ih (t.loadSubscriber row) (fun v g' loaded => ?_) cached
    rw [Topic.loadSubscriber_perUser] at loaded
    by_cases same : v = row.1
    · rw [same, AList.lookup_insert] at loaded
      cases loaded
      rfl
    · rw [AList.lookup_insert_ne same] at loaded
      exact alive v g' loaded

theorem step_inv (cfg : Config) (mergeInterfaces : Value → Value → Value × Bool) (s : DescState)
    (e : Event) (inv : Inv s) : Inv (step cfg mergeInterfaces s e) := by
  cases e with
  | setDesc fail r => exact setDesc_inv inv
  | request fail r =>
    have frame : Frame s.world.acl (serve cfg fail s.world r).acl :=
      answered_frame inv.alive (serve_acl inv.group inv.alive)
    refine ⟨⟨?_, ?_⟩, inv.stored, frame.cat.trans inv.group, frame.alive inv.alive⟩
    · exact (congrArg AccessMode.isOwner frame.accessAuth).trans inv.cached.1
    · exact (congrArg AccessMode.isOwner frame.accessAnon).trans inv.cached.2
  | reload order =>
    obtain ⟨cat, -, auth, anon⟩ := reload_rest cfg order { s.world with
      topic := { s.world.topic with accessAuth := s.row.accessAuth, accessAnon := s.row.accessAnon } }
    refine ⟨⟨?_, ?_⟩, inv.stored, cat, ?_⟩
    · exact (congrArg AccessMode.isOwner auth).trans inv.stored.1
    · exact (congrArg AccessMode.isOwner anon).trans inv.stored.2
    · exact loadSubscribers_alive _ _ (fun u g cached => by simp at cached)

/-- The default mode of a new topic for authenticated users. -/
def newDefault (isChan : Bool) : AccessMode := if isChan then modeCChnWriter else modeCPublic

theorem newDefault_plain (isChan : Bool) :
    (newDefault isChan).isOwner = false ∧ newDefault isChan &&& modeBitmask = newDefault isChan := by
  cases isChan <;> decide

theorem created_access (created : initTopicNewDesc cfg users name r pub trusted = .ok s) :
    (s.world.topic.accessAuth, s.world.topic.accessAnon) =
        newTopicAccess (newDefault r.isChan) modeNone r.defaultAcs ∧
      s.row.accessAuth = s.world.topic.accessAuth ∧ s.row.accessAnon = s.world.topic.accessAnon := by
  cases created
  exact ⟨rfl, rfl, rfl⟩

theorem created_reported (created : initTopicNewDesc cfg users name r pub trusted = .ok s)
    {acs : DefaultAcs} (used : r.defaultAcs = some acs) (wrong : reported acs) :
    s.world.topic.accessAuth = partOr (newDefault r.isChan) acs.auth ∧
      s.world.topic.accessAnon = partOr modeNone acs.anon := by
  obtain ⟨access, -⟩ := created_access created
  rw [used,
    newTopicAccess_reported acs _ _ wrong (newDefault_plain r.isChan).2 (by decide)] at access
  exact ⟨congrArg Prod.fst access, congrArg Prod.snd access⟩

/-- The `O` of a valid part beside an invalid one gets into the new topic. -/
theorem created_owner (created : initTopicNewDesc cfg users name r pub trusted = .ok s)
    (owned : ownerBesideInvalid r.defaultAcs) : ¬ NoOwner s := by
  cases used : r.defaultAcs with
  | none =>
    rw [used] at owned
    cases owned
  | some acs =>
    rw [used] at owned
    obtain ⟨wrong, owner⟩ := Bool.and_eq_true_iff.mp owned
    have given : acs.anon ≠ "" := by
      rintro empty
      rw [empty] at wrong
      cases wrong
    obtain ⟨auth, -⟩ := created_reported created used ((if_pos given).trans wrong)
    rintro ⟨plain, -⟩
    rw [auth, partOr_isOwner _ _ (newDefault_plain r.isChan).1, owner] at plain
    cases plain

theorem created_inv (created : initTopicNewDesc cfg users name r pub trusted = .ok s)
    (safe : ownerBesideInvalid r.defaultAcs = false) : Inv s := by
  obtain ⟨access, auth, anon⟩ := created_access created
  obtain ⟨plain, within⟩ := newDefault_plain r.isChan
  have defaults := newTopicAccess_plain r.defaultAcs (newDefault r.isChan) modeNone within (by decide)
    plain (by decide) safe
  rw [← access] at defaults
  obtain ⟨world, made, ran⟩ := bind_ok created
  cases ran
  obtain ⟨cat, -, grants, -⟩ := initTopicNewGrp_acl made
  refine ⟨defaults, by rw [auth, anon]; exact defaults, cat, fun u g cached => ?_⟩
  rw [grants] at cached
  split_ifs at cached
  cases cached
  rfl

/-- The two states have the same default modes, cached and stored. -/
structure SameDefaults (s s' : DescState) : Prop where
  cached : (s'.world.topic.accessAuth, s'.world.topic.accessAnon) =
    (s.world.topic.accessAuth, s.world.topic.accessAnon)
  stored : (s'.row.accessAuth, s'.row.accessAnon) = (s.row.accessAuth, s.row.accessAnon)

theorem setDesc_reported (mergeInterfaces : Value → Value → Value × Bool) (fail : DescFaults)
    (s : DescState) (r : SetDescRequest) (desc : SetDesc) (acs : DefaultAcs)
    (sent : r.desc = some desc) (pair : desc.defaultAcs = some acs) (wrong : reported acs) :
    SameDefaults s (replySetDesc mergeInterfaces fail s r).1 := by
  obtain ⟨text, refused⟩ := assignAccess_reported s.world.topic acs wrong
  rcases replySetDesc_effect mergeInterfaces fail s r with ⟨topic, row⟩ | ⟨u, got, -, -⟩
  · exact ⟨by rw [topic], by rw [row]⟩
  · -- a request with such a pair is refused before anything is stored
    unfold descUpdate at got
    simp only [sent, pair, refused, Option.isSome_some, true_or, if_true] at got
    split_ifs at got

/-- The default modes of a new topic are without `O`, now and after any sequence of requests, just
when its pair is not one of `O` beside an invalid part. Parsing reports an error for an invalid part
only, and for every one but that whose error is overwritten; a changed description then uses nothing
of the pair, and a new topic uses the valid part. -/
theorem default_access_without_owner (cfg : Config) (users : GoMap Uid User) (name : String)
    (r : NewTopicRequest) (pub trusted : Value) (mergeInterfaces : Value → Value → Value × Bool)
    (s : DescState)
    (created : initTopicNewDesc cfg users name r pub trusted = .ok s) :
    ((∀ events, NoOwner (run (step cfg mergeInterfaces) s events)) ↔
      ownerBesideInvalid r.defaultAcs = false) ∧
    (∀ acs a b, ((parseTopicAccess acs a b).2.2.isSome → (invalid acs.auth || invalid acs.anon)) ∧
      ((parseTopicAccess acs a b).2.2.isSome = (invalid acs.auth || invalid acs.anon) ↔
        overwritten acs = false)) ∧
    (∀ acs, reported acs →
      (∀ a b, (parseTopicAccess acs a b).2.2.isSome) ∧
      (r.defaultAcs = some acs →
        s.world.topic.accessAuth = partOr (newDefault r.isChan) acs.auth ∧
        s.world.topic.accessAnon = partOr modeNone acs.anon) ∧
      ∀ fail s₁ req desc, req.desc = some desc → desc.defaultAcs = some acs →
        SameDefaults s₁ (replySetDesc mergeInterfaces fail s₁ req).1) := by
  refine ⟨⟨fun always => ?_, fun safe events => ?_⟩, fun acs a b => ⟨fun error => ?_, ?_⟩,
    fun acs wrong => ⟨fun a b => (parseTopicAccess_error acs a b).trans wrong,
      fun used => created_reported created used wrong,
      fun fail s₁ req desc sent pair =>
        setDesc_reported mergeInterfaces fail s₁ req desc acs sent pair wrong⟩⟩
  · by_contra owned
    exact created_owner created (Bool.of_not_eq_false owned) (always [])
  · exact (run_preserves (step_inv cfg mergeInterfaces) (created_inv created safe) events).cached
  · rw [parseTopicAccess_error] at error
    split_ifs at error <;> simp [error]
  · rw [parseTopicAccess_error]
    exact reported_iff acs

/-- Replacing a value, which is how texts are merged. -/
def replace (dst src : Value) : Value × Bool :=
  if src.isNone then (dst, false) else (src, true)

/-- A new topic with `O` in both parts has it in neither, before and after a changed description. -/
theorem owner_default_stripped :
    ∃ s, initTopicNewDesc {} ∅ "grpT"
        { asUser := 1, defaultAcs := some { auth := "JRWPO", anon := "JO" } } none none = .ok s ∧
      NoOwner (run (step {} replace) s [.setDesc {}
        { sess := { sid := "s1", proto := .websock }, asUid := 1, asLvl := .auth
          desc := some { defaultAcs := some { auth := "JR" } } }]) := by
  refine ⟨_, rfl, ?_⟩
  exact (default_access_without_owner {} ∅ "grpT"
    { asUser := 1, defaultAcs := some { auth := "JRWPO", anon := "JO" } } none none replace _
    rfl).1.mpr (by decide) _

/-- With an invalid anonymous part the authenticated part is used, `O` included, and an invalid
authenticated part before a valid anonymous one is not reported. -/
theorem invalid_part_lets_owner_in :
    (∃ s, initTopicNewDesc {} ∅ "grpT"
        { asUser := 1, defaultAcs := some { auth := "JRWPO", anon := "X" } } none none = .ok s ∧
      s.world.topic.accessAuth = modeJoin ||| modeRead ||| modeWrite ||| modePres ||| modeOwner ∧
      ¬ NoOwner s) ∧
    (parseTopicAccess { auth := "JRWPO", anon := "X" } modeNone modeNone).2.2.isSome ∧
    invalid "X" ∧
    (parseTopicAccess { auth := "X", anon := "JR" } modeNone modeNone).2.2 = none := by
  refine ⟨⟨_, rfl, by decide, ?_⟩, by decide, by decide, by decide⟩
  rintro ⟨auth, -⟩
  exact absurd auth (by decide)

end LastochkaServer.Guarantees.DefaultAccess
