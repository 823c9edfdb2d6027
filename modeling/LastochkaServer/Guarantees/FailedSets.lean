import LastochkaServer.Source.Topic.Values
import LastochkaServer.Guarantees.InviteAccounting

/-!
# Requests that fail leave changes behind

The values of a topic are merged into in place before a request to set them is known to succeed, and
the row of the topic is written before the row of the subscription. So a request that is answered
with an error leaves the values as they were just when it is refused before the merge, or the merge
does not show at any depth and no row has been changed.
-/

namespace LastochkaServer.Guarantees.FailedSets

open Source Lib

/-- The values that requests to get them answer with, from the topic object or from the rows, are
the same at every depth. -/
structure Kept (v v' : TopicValues) (rows rows' : ValueRows) : Prop where
  pub : v.pub.Same v'.pub
  trusted : v.trusted.Same v'.trusted
  fndPub : v.fndPub = v'.fndPub
  priv : ∀ u, (v.priv u).Same (v'.priv u)
  aux : (Doc.map v.aux).Same (.map v'.aux)
  pubRow : rows.pub.Same rows'.pub
  trustedRow : rows.trusted.Same rows'.trusted
  privRow : ∀ asChan u, (rows.priv asChan u).Same (rows'.priv asChan u)
  auxRow : (Doc.map rows.aux).Same (.map rows'.aux)

theorem Kept.refl (v : TopicValues) (rows : ValueRows) : Kept v v rows rows :=
  ⟨.refl _, .refl _, rfl, fun _ => .refl _, .refl _, .refl _, .refl _, fun _ _ => .refl _, .refl _⟩

/-- A request to set the description or the auxiliary values. -/
inductive SetRequest
  | desc (r : ValueRequest)
  | aux (asUid : Uid) (src : Fields)

section

variable (env : ValueEnv) (v : TopicValues) (rows : ValueRows)

/-- An error leaves the values as they were. -/
def ErrorKeeps : SetRequest → Prop
  | .desc r =>
    (replySetDescOf env v rows r).2.2.isError →
      Kept v (replySetDescOf env v rows r).1 rows (replySetDescOf env v rows r).2.1
  | .aux asUid src =>
    (replySetAux env v rows asUid src).2.2 ∈ [.operationNotAllowed, .permissionDenied, .storeError] →
      Kept v (replySetAux env v rows asUid src).1 rows (replySetAux env v rows asUid src).2.1

/-- The topic object when the description has been merged into it, without the private value. -/
def merged (r : ValueRequest) (desc : MeDesc) : TopicValues :=
  if v.common r.asUid then v.mergeCommon env desc else v

/-- The new address of a user is taken, or it cannot be told. -/
def AddressRefused (r : ValueRequest) (core : MeUpdate) : Prop :=
  ∃ address ∈ newAddress env v core, ensurePublicAddressAvailable env.account env.db address
    r.asUid ≠ .ok ()

/-- The public, trusted or access values have to be written to the store. -/
def WritesCore (core : MeUpdate) : Prop := core.core ∧ v.cat ≠ .fnd

/-- A request that is not denied fails after the merge: by its default access, its address, or a
call of the store. -/
def FailsLate (r : ValueRequest) (desc : MeDesc) : Prop :=
  match coreUpdate env v r desc with
  | .error _ => True
  | .ok core =>
    AddressRefused env v r core ∨ (WritesCore v core ∧ env.fails.coreUpdate) ∨
      ((assignDoc (v.priv r.asUid) desc.priv).isSome ∧ env.fails.subsUpdate)

/-- The merge shows at some depth, or a row has been changed before the failure. -/
def Shows (r : ValueRequest) (desc : MeDesc) : Prop :=
  ¬ v.pub.Same (merged env v r desc).pub ∨ ¬ v.trusted.Same (merged env v r desc).trusted ∨
    match coreUpdate env v r desc with
    | .error _ => False
    | .ok core =>
      ¬ (v.priv r.asUid).Same (mergedInPlace (v.priv r.asUid) desc.priv) ∨
        (¬ AddressRefused env v r core ∧ WritesCore v core ∧ env.fails.coreUpdate = false ∧
          ¬ (rows.pub.Same (core.pub.getD rows.pub) ∧
            rows.trusted.Same (core.trusted.getD rows.trusted)))

/-- A request that fails after a merge that shows. -/
def Spoils : SetRequest → Prop
  | .desc r => ∃ desc, r.desc = some desc ∧ v.denied r desc = false ∧ FailsLate env v r desc ∧
  Shows env v rows r desc
  | .aux asUid src =>
    (v.cat = .p2p ∨ v.cat = .grp ∨ v.cat = .slf) ∧ (v.mode asUid).isAdmin ∧
      (mergeMaps v.aux src).2 ∧ env.fails.coreUpdate ∧
      ¬ (Doc.map v.aux).Same (.map (auxInPlace v.aux src))

end

variable {env : ValueEnv} {v : TopicValues} {rows : ValueRows} {r : ValueRequest} {desc : MeDesc}

theorem errorKeeps_aux (asUid : Uid) (src : Fields) :
    ErrorKeeps env v rows (.aux asUid src) ↔ ¬ Spoils env v rows (.aux asUid src) := by
  simp only [ErrorKeeps, Spoils, replySetAux]
  by_cases cat : v.cat ≠ .p2p ∧ v.cat ≠ .grp ∧ v.cat ≠ .slf
  · rw [if_pos cat]
    refine iff_of_true (fun _ => Kept.refl v rows) ?_
    rintro ⟨allowed, -⟩
    obtain ⟨p2p, grp, slf⟩ := cat
    exact allowed.elim p2p fun other => other.elim grp slf
  rw [if_neg cat]
  have allowed : v.cat = .p2p ∨ v.cat = .grp ∨ v.cat = .slf := by
    by_contra none
    rw [not_or, not_or] at none
    exact cat none
  cases admin : (v.mode asUid).isAdmin with
  | false => exact iff_of_true (fun _ => Kept.refl v rows) (by simp)
  | true =>
    rcases res : mergeMaps v.aux src with ⟨aux, _ | _⟩
    · exact iff_of_true (by simp) (by simp)
    · simp only [Bool.true_eq_false, if_false, true_and, allowed]
      cases env.fails.coreUpdate with
      | false => exact iff_of_true (by simp) (by simp)
      | true =>
        simp only [if_true, true_and, not_not]
        constructor
        · intro kept
          exact (kept (by simp)).aux
        · intro same _
          exact ⟨.refl _, .refl _, rfl, fun _ => .refl _, same, .refl _, .refl _,
            fun _ _ => .refl _, .refl _⟩

/-- How a request that is not denied ends. -/
inductive Ends (env : ValueEnv) (v : TopicValues) (rows : ValueRows) (r : ValueRequest)
    (desc : MeDesc) :
    TopicValues × ValueRows × MeReply → Prop
  | access {e : String} {reply : MeReply} (failed : coreUpdate env v r desc = .error e)
      (error : reply.isError) :
      Ends env v rows r desc (merged env v r desc, rows, reply)
  | refused {core : MeUpdate} {reply : MeReply} (planned : coreUpdate env v r desc = .ok core)
      (failed : AddressRefused env v r core ∨ (WritesCore v core ∧ env.fails.coreUpdate))
      (error : reply.isError) :
      Ends env v rows r desc ((merged env v r desc).mergePrivate r.asUid desc, rows, reply)
  | subscription {core : MeUpdate} {rows' : ValueRows} {reply : MeReply}
      (planned : coreUpdate env v r desc = .ok core)
      (free : ¬ AddressRefused env v r core) (works : ¬ (WritesCore v core ∧ env.fails.coreUpdate))
      (failed : (assignDoc (v.priv r.asUid) desc.priv).isSome ∧ env.fails.subsUpdate)
      (written : (WritesCore v core ∧ rows' = rows.storeCore core) ∨
        (¬ WritesCore v core ∧ rows' = rows))
      (error : reply.isError) :
      Ends env v rows r desc ((merged env v r desc).mergePrivate r.asUid desc, rows', reply)
  | fine {v' : TopicValues} {rows' : ValueRows} {reply : MeReply} (inTime : ¬ FailsLate env v r desc)
      (accepted : reply.isError = false) : Ends env v rows r desc (v', rows', reply)

theorem storeValues_cases (env : ValueEnv) (rows : ValueRows) {v' : TopicValues}
    (cat : v'.cat = v.cat) (r : ValueRequest)
    (u : MeUpdate) :
    (WritesCore v u ∧ env.fails.coreUpdate ∧ storeValues env rows v' r u = (rows, .error .unknown)) ∨
    (¬ (WritesCore v u ∧ env.fails.coreUpdate) ∧ (u.priv.isSome ∧ env.fails.subsUpdate) ∧
      ∃ rows', storeValues env rows v' r u = (rows', .error .unknown) ∧
        ((WritesCore v u ∧ rows' = rows.storeCore u) ∨ (¬ WritesCore v u ∧ rows' = rows))) ∨
    (¬ (WritesCore v u ∧ env.fails.coreUpdate) ∧ ¬ (u.priv.isSome ∧ env.fails.subsUpdate) ∧
      ∃ rows', storeValues env rows v' r u = (rows', .ok ())) := by
  have writes : (u.core && decide (v'.cat ≠ .fnd)) ↔ WritesCore v u := by
    rw [cat, WritesCore, Bool.and_eq_true, decide_eq_true_eq]
  unfold storeValues
  generalize (u.core && decide (v'.cat ≠ .fnd)) = writing at writes ⊢
  simp only [← writes]
  cases writing <;> cases env.fails.coreUpdate <;> cases u.priv <;> cases env.fails.subsUpdate <;>
    simp

theorem merged_cat : ((merged env v r desc).mergePrivate r.asUid desc).cat = v.cat := by
  unfold merged
  split_ifs <;> rfl

/-- An address is checked only if the public value changes. -/
theorem core_of_newAddress {core : MeUpdate} {address : String}
    (named : address ∈ newAddress env v core) :
    core.core := by
  unfold newAddress at named
  split_ifs at named
  · obtain ⟨changed, -⟩ := Option.filter_eq_some_iff.mp named
    obtain ⟨pub, written, -⟩ := Option.bind_eq_some_iff.mp changed
    simp [MeUpdate.core, written]
  · cases named

/-- The answer once the store has been written to. -/
def answered (v : TopicValues) (r : ValueRequest) (u : MeUpdate) :
    ValueRows × Except MeReply Unit → TopicValues × ValueRows × MeReply
  | (rows, .error reply) => (v, rows, reply)
  | (rows, .ok ()) => (v.adoptUpdate r u, rows, .noErr)

theorem replySetDescOf_ends (env : ValueEnv) (rows : ValueRows) (given : r.desc = some desc)
    (allowed : v.denied r desc = false) :
    Ends env v rows r desc (replySetDescOf env v rows r) := by
  unfold replySetDescOf prepareValues
  simp only [given, allowed, Bool.false_eq_true, if_false]
  cases planned : coreUpdate env v r desc with
  | error e => exact .access planned rfl
  | ok core =>
    simp only []
    set u : MeUpdate := { core with priv := assignDoc (v.priv r.asUid) desc.priv } with update
    -- What follows once the address is free.
    have stored (free : ¬ AddressRefused env v r core) : Ends env v rows r desc
        (answered ((merged env v r desc).mergePrivate r.asUid desc) r u
          (storeValues env rows ((merged env v r desc).mergePrivate r.asUid desc) r u)) := by
      rcases storeValues_cases env rows (merged_cat (v := v)) r u with
        ⟨writes, fails, res⟩ | ⟨works, failed, rows', res, written⟩ | ⟨works, kept, rows', res⟩
      · rw [res]
        exact .refused planned (.inr ⟨writes, fails⟩) rfl
      · rw [res]
        exact .subscription planned free works failed written rfl
      · rw [res]
        refine .fine ?_ rfl
        rw [FailsLate, planned]
        rintro (refused | failed | failed)
        · exact free refused
        · exact works failed
        · exact kept failed
    by_cases idle : u.core = false ∧ (assignDoc (v.priv r.asUid) desc.priv).isNone
    · rw [if_pos idle]
      refine .fine ?_ rfl
      have idleCore : core.core = false := idle.1
      rw [FailsLate, planned]
      rintro (⟨address, named, -⟩ | ⟨writes, -⟩ | ⟨given, -⟩)
      · exact absurd (core_of_newAddress named) (by simp [idleCore])
      · exact absurd writes.1 (by simp [idleCore])
      · exact absurd given (by simpa using idle.2)
    · rw [if_neg idle]
      cases named : newAddress env v u with
      | none =>
        refine stored ?_
        rintro ⟨address, mem, -⟩
        exact absurd (named.symm.trans mem) (by simp)
      | some address =>
        cases checked : ensurePublicAddressAvailable env.account env.db address r.asUid with
        | error e =>
          simp only [checked]
          exact .refused planned (.inl ⟨address, named, by simp [checked]⟩) rfl
        | ok =>
          simp only [checked]
          refine stored ?_
          rintro ⟨other, mem, refused⟩
          obtain rfl := Option.some.inj (named.symm.trans mem)
          exact refused checked

theorem merged_kept (env : ValueEnv) (v : TopicValues) (r : ValueRequest) (desc : MeDesc) :
    (merged env v r desc).fndPub = v.fndPub ∧ (merged env v r desc).priv = v.priv ∧
      (merged env v r desc).aux = v.aux := by
  unfold merged
  split_ifs <;> exact ⟨rfl, rfl, rfl⟩

/-- After the whole merge the values are the same at every depth just when the three of them are. -/
theorem kept_merged_iff {rows' : ValueRows} (privRow : rows'.priv = rows.priv)
    (auxRow : rows'.aux = rows.aux) :
    Kept v ((merged env v r desc).mergePrivate r.asUid desc) rows rows' ↔
      v.pub.Same (merged env v r desc).pub ∧ v.trusted.Same (merged env v r desc).trusted ∧
      (v.priv r.asUid).Same (mergedInPlace (v.priv r.asUid) desc.priv) ∧
      rows.pub.Same rows'.pub ∧ rows.trusted.Same rows'.trusted := by
  obtain ⟨fndPub, priv, aux⟩ := merged_kept env v r desc
  have own : ((merged env v r desc).mergePrivate r.asUid desc).priv =
      Function.update v.priv r.asUid (mergedInPlace (v.priv r.asUid) desc.priv) := by
    rw [TopicValues.mergePrivate, priv]
  constructor
  · intro kept
    have mine := kept.priv r.asUid
    rw [own, Function.update_self] at mine
    exact ⟨kept.pub, kept.trusted, mine, kept.pubRow, kept.trustedRow⟩
  · rintro ⟨pub, trusted, mine, pubRow, trustedRow⟩
    refine ⟨pub, trusted, fndPub.symm, fun u => ?_, ?_, pubRow, trustedRow, ?_, ?_⟩
    · rw [own]
      by_cases same : u = r.asUid
      · rw [same, Function.update_self]
        exact mine
      · rw [Function.update_of_ne same]
        exact .refl _
    · rw [show ((merged env v r desc).mergePrivate r.asUid desc).aux = v.aux from aux]
      exact .refl _
    · rw [privRow]
      exact fun _ _ => .refl _
    · rw [auxRow]
      exact .refl _

theorem kept_access_iff :
    Kept v (merged env v r desc) rows rows ↔
      v.pub.Same (merged env v r desc).pub ∧ v.trusted.Same (merged env v r desc).trusted := by
  obtain ⟨fndPub, priv, aux⟩ := merged_kept env v r desc
  constructor
  · exact fun kept => ⟨kept.pub, kept.trusted⟩
  · rintro ⟨pub, trusted⟩
    exact ⟨pub, trusted, fndPub.symm, fun u => priv ▸ .refl _, aux ▸ .refl _, .refl _, .refl _,
      fun _ _ => .refl _, .refl _⟩

theorem errorKeeps_desc (env : ValueEnv) (v : TopicValues) (rows : ValueRows) (r : ValueRequest) :
    ErrorKeeps env v rows (.desc r) ↔ ¬ Spoils env v rows (.desc r) := by
  simp only [ErrorKeeps, Spoils]
  cases given : r.desc with
  | none =>
    have idle : (replySetDescOf env v rows r).2.2 = .notModified := by
      simp [replySetDescOf, prepareValues, given]
    exact iff_of_true (by simp [idle, MeReply.isError]) (by simp)
  | some desc =>
    simp only [Option.some.injEq, exists_eq_left']
    cases allowed : v.denied r desc with
    | true =>
      have untouched : replySetDescOf env v rows r = (v, rows, .permissionDenied) := by
        simp [replySetDescOf, prepareValues, given, allowed]
      rw [untouched]
      exact iff_of_true (fun _ => Kept.refl v rows) (by simp)
    | false =>
      have ends := replySetDescOf_ends env rows given allowed
      generalize replySetDescOf env v rows r = res at ends
      cases ends with
      | access failed error =>
        simp only [error, true_implies, kept_access_iff, FailsLate, Shows, failed]
        tauto
      | @refused core reply planned failed error =>
        simp only [error, true_implies, kept_merged_iff rfl rfl, FailsLate, Shows, planned]
        -- Nothing has been written before the address or the row was refused.
        have unwritten :
            ¬ (¬ AddressRefused env v r core ∧ WritesCore v core ∧ env.fails.coreUpdate = false ∧
            ¬ (rows.pub.Same (core.pub.getD rows.pub) ∧
              rows.trusted.Same (core.trusted.getD rows.trusted))) := by
          rintro ⟨free, -, works, -⟩
          exact failed.elim free fun fails => absurd (fails.2.symm.trans works) (by simp)
        have pubRow := Doc.Same.refl rows.pub
        have trustedRow := Doc.Same.refl rows.trusted
        tauto
      | @subscription core rows' reply planned free works failed written error =>
        have fixed : rows'.priv = rows.priv ∧ rows'.aux = rows.aux := by
          rcases written with ⟨-, rfl⟩ | ⟨-, rfl⟩ <;> exact ⟨rfl, rfl⟩
        simp only [error, true_implies, kept_merged_iff fixed.1 fixed.2, FailsLate, Shows, planned]
        rcases written with ⟨writes, rfl⟩ | ⟨idle, rfl⟩
        · have pubRow : (rows.storeCore core).pub = core.pub.getD rows.pub := rfl
          have stores : env.fails.coreUpdate = false := by
            cases fails : env.fails.coreUpdate with
            | false => rfl
            | true => exact absurd ⟨writes, fails⟩ works
          tauto
        · have pubRow := Doc.Same.refl rows'.pub
          tauto
      | fine inTime accepted => exact iff_of_true (by simp [accepted]) fun spoils => inTime spoils.2.1

/-- A request to set the description or the auxiliary values that is answered with an error leaves
the values as they were, just when it does not fail after a merge that shows. -/
theorem error_keeps_values (env : ValueEnv) (v : TopicValues) (rows : ValueRows)
    (request : SetRequest) :
    ErrorKeeps env v rows request ↔ ¬ Spoils env v rows request := by
  cases request with
  | desc r => exact errorKeeps_desc env v rows r
  | aux asUid src => exact errorKeeps_aux asUid src

/-- A store that fails. -/
def brokenStore : ValueEnv where
  account := InviteAccounting.requiringEmail
  db := {}
  typesModeCP2P := AccessMode.modeCP2P
  compressed _ := none
  fails := { coreUpdate := true }

/-- A group with a picture in its public value and a message pinned. -/
def pinned : TopicValues where
  cat := .grp
  owner := 1
  pub := .map [("photo", .map [("ref", .text "old")])]
  aux := [("pins", .map [("first", .text "message")])]
  mode _ := AccessMode.modeCFull

def newPicture : ValueRequest where
  sid := "s"
  asUid := 1
  desc := some { pub := .map [("photo", .map [("ref", .text "new")])] }

/-- Both requests end in an error of the store, and the new values are seen in the topic all the
same. -/
theorem failed_values_seen :
    (replySetDescOf brokenStore pinned {} newPicture).2.2 = .unknown ∧
    pinned.pub.look ["photo", "ref"] = some (.text "old") ∧
    (replySetDescOf brokenStore pinned {} newPicture).1.pub.look ["photo", "ref"] =
    some (.text "new") ∧
    (replySetAux brokenStore pinned {} 1 [("pins", .map [("first", .text "another")])]).2.2 =
    .storeError ∧
    (Doc.map pinned.aux).look ["pins", "first"] = some (.text "message") ∧
    (Doc.map
      (replySetAux brokenStore pinned {} 1 [("pins", .map [("first", .text "another")])]).1.aux).look
      ["pins", "first"] = some (.text "another") :=
  ⟨rfl, rfl, rfl, rfl, rfl, rfl⟩

end LastochkaServer.Guarantees.FailedSets
