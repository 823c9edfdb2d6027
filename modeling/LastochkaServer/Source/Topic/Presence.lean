import LastochkaServer.Source.Topic.Requests

/-!
# Presence under subscription requests

What the subscription handlers do to the online counters and to the attached sessions, in topics of
every category: they leave them alone, or they evict one user. Only requests that may take the `J`
permission from a user, and deletions, evict.
-/

namespace LastochkaServer.Source

open Lib AccessMode

namespace Topic

variable {t t' : Topic} {u : Uid}

def online (t : Topic) (u : Uid) : Int := (t.pud u).online

/-- The user has unsubscribed from a P2P topic. -/
def gone (t : Topic) (u : Uid) : Bool := (t.pud u).deleted

theorem pud_setPud (t : Topic) (u v : Uid) (pud : PerUserData) :
    (t.setPud u pud).pud v = if v = u then pud else t.pud v := by
  unfold Topic.pud Topic.setPud GoMap.getD
  split_ifs with same
  · subst same
    rw [AList.lookup_insert, Option.getD_some]
  · rw [AList.lookup_insert_ne same]

theorem pud_erase (t : Topic) (u v : Uid) :
    ({ t with perUser := t.perUser.erase u } : Topic).pud v = if v = u then {} else t.pud v := by
  unfold Topic.pud GoMap.getD
  split_ifs with same
  · subst same
    rw [AList.lookup_erase, Option.getD_none]
  · rw [AList.lookup_erase_ne same]

/-- Nobody comes or goes. Data of a user who is gone may be replaced by new data. -/
structure Undisturbed (t t' : Topic) : Prop where
  sessions : t'.sessions = t.sessions
  online : ∀ u, t'.online u = t.online u ∨ (t.gone u ∧ t'.online u = 0)
  gone : ∀ u, t'.gone u → t.gone u

/-- One user is evicted. -/
structure Evicted (u : Uid) (t t' : Topic) : Prop where
  sessions : ∀ s, t'.sessions.lookup s = remaining u (t.sessions.lookup s)
  self : t'.online u = 0
  online : ∀ v, v ≠ u → t'.online v = t.online v ∨ (t.gone v ∧ t'.online v = 0)
  gone : ∀ v, v ≠ u → t'.gone v → t.gone v

namespace Undisturbed

variable {t'' : Topic}

theorem of_eq (perUser : t'.perUser = t.perUser) (sessions : t'.sessions = t.sessions) :
    Undisturbed t t' := by
  have same : ∀ v, t'.pud v = t.pud v := fun v => by rw [Topic.pud, perUser, Topic.pud]
  refine ⟨sessions, fun v => .inl ?_, fun v left => ?_⟩
  · rw [Topic.online, same, Topic.online]
  · rwa [Topic.gone, same] at left

theorem refl : Undisturbed t t := of_eq rfl rfl

theorem setPud {pud : PerUserData} (online : pud.online = t.online u ∨ (t.gone u ∧ pud.online = 0))
    (gone : pud.deleted → t.gone u) : Undisturbed t (t.setPud u pud) := by
  refine ⟨rfl, fun v => ?_, fun v => ?_⟩
  · rw [Topic.online, pud_setPud]
    split_ifs with same
    · subst same
      exact online
    · exact .inl rfl
  · rw [Topic.gone, pud_setPud]
    split_ifs with same
    · subst same
      exact gone
    · exact id

theorem trans (first : Undisturbed t t') (second : Undisturbed t' t'') : Undisturbed t t'' := by
  refine ⟨second.sessions.trans first.sessions, fun v => ?_, fun v left =>
    first.gone v (second.gone v left)⟩
  rcases second.online v with same | ⟨left, zero⟩
  · rw [same]
    exact first.online v
  · exact .inr ⟨first.gone v left, zero⟩

theorem evicted (first : Undisturbed t t') (second : Evicted u t' t'') : Evicted u t t'' where
  sessions s := by rw [second.sessions, first.sessions]
  self := second.self
  online v other := by
    rcases second.online v other with same | ⟨left, zero⟩
    · rw [same]
      exact first.online v
    · exact .inr ⟨first.gone v left, zero⟩
  gone v other left := first.gone v (second.gone v other left)

end Undisturbed

/-- Afterwards the user may be marked as gone, but nobody else changes. -/
theorem Evicted.undisturbed {t'' : Topic} (first : Evicted u t t')
    (perUser : t''.perUser = t'.perUser)
    (sessions : t''.sessions = t'.sessions) : Evicted u t t'' := by
  have same : ∀ v, t''.pud v = t'.pud v := fun v => by rw [Topic.pud, perUser, Topic.pud]
  refine ⟨fun s => by rw [sessions, first.sessions], ?_, fun v other => ?_, fun v other left => ?_⟩
  · rw [Topic.online, same]
    exact first.self
  · rw [Topic.online, same]
    exact first.online v other
  · rw [Topic.gone, same] at left
    exact first.gone v other left

end Topic

open Topic

theorem forgetUser_pud (w : World) (u v : Uid) (unsub : Bool) (other : v ≠ u) :
    (forgetUser w u unsub).topic.pud v = w.topic.pud v := by
  unfold forgetUser
  dsimp only
  cases w.topic.perUser.lookup u with
  | none =>
    dsimp only
    split_ifs
    · rw [pud_setPud, if_neg other]
    · rfl
  | some pud =>
    dsimp only
    split_ifs
    · rw [pud_setPud, if_neg other]
    · exact (pud_erase w.topic u v).trans (if_neg other)
    · exact (pud_erase w.topic u v).trans (if_neg other)
    · exact (pud_erase w.topic u v).trans (if_neg other)
    · rw [pud_setPud, if_neg other]

theorem forgetUser_online (w : World) (u : Uid) (unsub : Bool) :
    (forgetUser w u unsub).topic.online u = 0 := by
  unfold forgetUser Topic.online
  dsimp only
  cases cached : w.topic.perUser.lookup u with
  | none =>
    dsimp only
    split_ifs
    · rw [pud_setPud, if_pos rfl]
    · rw [Topic.pud, GoMap.getD, cached, Option.getD_none]
  | some pud =>
    have erased := congrArg PerUserData.online (pud_erase w.topic u u)
    rw [if_pos rfl] at erased
    dsimp only
    split_ifs
    · rw [pud_setPud, if_pos rfl]
    · exact erased
    · exact erased
    · exact erased
    · rw [pud_setPud, if_pos rfl]

theorem evictUser_evicted {unsub : Bool} (ran : evictUser w u unsub skip = .ok w') :
    Evicted u w.topic w'.topic := by
  have same : ∀ v, w'.topic.pud v = (forgetUser w u unsub).topic.pud v := by
    intro v
    rw [(evictUser_frame ran).1]
    rfl
  refine ⟨evictUser_sessions ran, ?_, fun v other => .inl ?_, fun v other left => ?_⟩
  · rw [Topic.online, same]
    exact forgetUser_online w u unsub
  · rw [Topic.online, same, forgetUser_pud w u v unsub other, Topic.online]
  · rwa [Topic.gone, same, forgetUser_pud w u v unsub other] at left

/-- Nobody comes or goes, or `u` is evicted, which takes a request of the kind `evicting`. -/
def Attended (u : Uid) (evicting : Bool) (t t' : Topic) : Prop :=
  Undisturbed t t' ∨ (evicting ∧ Evicted u t t')

theorem Topic.Undisturbed.attended {t'' : Topic} (first : Undisturbed t t')
    (second : Attended u evicting t' t'') : Attended u evicting t t'' :=
  second.imp first.trans fun ⟨evicts, evicted⟩ => ⟨evicts, first.evicted evicted⟩

theorem Attended.imp {evicting' : Bool} (change : Attended u evicting t t')
    (weaker : evicting → evicting') : Attended u evicting' t t' :=
  Or.imp_right (fun ⟨evicts, evicted⟩ => ⟨weaker evicts, evicted⟩) change

/-- The request may leave its user without `J`: it names a mode without `J`, or it names none and
the mode in place lacks `J`. -/
def mayBan (mode : String) (joined : Bool) : Bool :=
  match requestedMode mode with
  | .error _ => false
  | .ok m => if mode = "" then !joined else !m.isJoiner

/-- A user's own request may lead to the eviction of that user. -/
def SubRequest.selfBans (t : Topic) (r : SubRequest) : Bool :=
  mayBan r.want ((t.perUser.lookup r.asUid).any fun pud => !pud.deleted && pud.modeWant.isJoiner)

/-- A grant may lead to the eviction of its target. An invitation gives `J` by default. -/
def GrantRequest.bans (t : Topic) (r : GrantRequest) : Bool :=
  mayBan r.mode
    (((t.perUser.lookup r.target).filter fun pud => !pud.deleted).all fun pud =>
      pud.modeGiven.isJoiner)

def SetSubRequest.bans (t : Topic) (r : SetSubRequest) : Bool :=
  if r.target = r.asUid then r.toSub.selfBans t else r.toGrant.bans t

theorem requestedMode_nil (requested : requestedMode "" = .ok m) : m = modeUnset := by
  exact (Except.ok.inj requested).symm

theorem typesModeCP2P_isJoiner (cfg : Config) : cfg.typesModeCP2P.isJoiner := by
  unfold Config.typesModeCP2P
  split_ifs <;> decide

theorem ne_unset_of_isJoiner (joiner : m.isJoiner) : m ≠ modeUnset := by
  rintro rfl
  exact absurd joiner (by decide)

/-- A mode that names `J` is not unset, and keeps `J` in a P2P topic. -/
theorem isJoiner_p2p (cfg : Config) (joiner : m.isJoiner) :
    ((m &&& cfg.typesModeCP2P) ||| modeApprove).isJoiner := by
  rw [isJoiner_or, isJoiner_and, joiner, typesModeCP2P_isJoiner]
  rfl

theorem applySub_presence (online : userData.online = w.topic.online r.asUid)
    (alive : userData.deleted = false)
    (ran : applySub w r oldWant oldGiven userData = .ok (w', res)) :
    Attended r.asUid (!userData.modeWant.isJoiner) w.topic w'.topic := by
  obtain ⟨applied, reported, ran⟩ := bind_ok ran
  have settled : Undisturbed w.topic applied.topic := by
    rw [(reportChange_ok reported).1]
    exact .setPud (.inl online) (by simp [alive])
  dsimp only at ran
  split at ran
  · next banned =>
    obtain ⟨evicted, gone, ran⟩ := bind_ok ran
    cases ran
    exact .inr ⟨banned, settled.evicted (evictUser_evicted gone)⟩
  · split at ran <;> cases ran <;> exact .inl settled

theorem newSubModes_isJoiner (joiner : m.isJoiner)
    (got : newSubModes cfg fail w r m cached = .ok (.ok n)) : n.userData.modeWant.isJoiner := by
  have set := ne_unset_of_isJoiner joiner
  have join : modeJoin.isJoiner := by decide
  unfold newSubModes at got
  split at got
  · cases got
    simp only [newP2PSub, if_pos set]
    exact isJoiner_p2p cfg joiner
  split at got
  · unfold newSysSub at got
    split at got
    · cases got
    · cases got
      simp [isJoiner_or, join]
  split at got
  · unfold newChannelSub at got
    split at got
    · cases got
    · cases got
      simp [isJoiner_or, join]
  · unfold newOtherSub at got
    split at got
    · cases got
    · obtain ⟨given, -, got⟩ := bind_ok got
      obtain ⟨want, wanted, got⟩ := bind_ok got
      rw [orDefault, if_neg set] at wanted
      cases wanted
      cases got
      exact joiner

theorem newSubData_presence (got : newSubData cfg fail w r m cached = .ok (.ok n)) :
    n.userData.online = (cached.getD {}).online ∧ n.userData.deleted = false ∧
      (m.isJoiner → n.userData.modeWant.isJoiner) := by
  obtain ⟨modes, found, -, -, privateData, rfl⟩ := newSubData_ok got
  have online : modes.userData.online = (cached.getD {}).online := by rw [newSubModes_shape found]
  have joins := fun joiner => newSubModes_isJoiner joiner found
  unfold PerUserData.revived
  split_ifs with removed
  · exact ⟨online, rfl, joins⟩
  · exact ⟨online, Bool.not_eq_true _ ▸ removed, joins⟩

theorem updatedSubData_isJoiner {old new : PerUserData}
    (joins : if m = modeUnset then old.modeWant.isJoiner else m.isJoiner)
    (got : updatedSubData cfg t r m old = .ok (.ok (new, ownerChange))) : new.modeWant.isJoiner := by
  unfold updatedSubData at got
  split at got
  · cases got
  split at got
  · next unset =>
    rw [if_pos unset] at joins
    rw [if_pos joins] at got
    cases got
    exact joins
  next set =>
  rw [if_neg set] at joins
  split at got
  · cases got
  split at got
  · cases got
  · cases got
    split
    · exact isJoiner_p2p cfg joins
    · have sys : modeCSys.isJoiner := by decide
      rw [isJoiner_and, isJoiner_or, isJoiner_and, joins, sys]
      rfl
    · exact joins

theorem changeOwner_presence {res : Except Rejection Unit}
    (ran : changeOwner fail w asUid ownerChange = .ok (w', res)) : Undisturbed w.topic w'.topic := by
  unfold changeOwner at ran
  split at ran
  · cases ran
    exact .refl
  split at ran
  · cases ran
    exact .refl
  split at ran
  · cases ran
    exact .refl
  · obtain ⟨notified, reported, ran⟩ := bind_ok ran
    rw [notifySubChange_ok reported] at ran
    cases ran
    have disowned : Undisturbed w.topic
        (w.topic.setPud w.topic.owner (w.topic.pud w.topic.owner).disown) := .setPud (.inl rfl) id
    exact disowned.trans (.of_eq rfl rfl)

theorem updatedPrivate_presence (r : SubRequest) (pud : PerUserData) :
    (updatedPrivate r pud).online = pud.online ∧ (updatedPrivate r pud).deleted = pud.deleted ∧
      (updatedPrivate r pud).modeWant = pud.modeWant := by
  unfold updatedPrivate
  split_ifs <;> exact ⟨rfl, rfl, rfl⟩

theorem refuse_undisturbed (w : World) (sid : String) (rej : Rejection) :
    Undisturbed w.topic (w.refuse sid rej).topic := by
  rw [(refuse_frame w sid rej).1]
  exact .refl

/-- A user's own request leaves the presence alone, or evicts that user if it may ban them. -/
theorem thisUserSub_presence (ran : thisUserSub cfg fail w r = .ok (w', res)) :
    Attended r.asUid (r.selfBans w.topic) w.topic w'.topic := by
  cases thisUserSub_outcome ran with
  | refused rej _ same =>
    rw [same]
    exact .inl (refuse_undisturbed ..)
  | joined m n stored asked absent got saved applied =>
    obtain ⟨online, alive, joins⟩ := newSubData_presence got
    have topic : (if r.asChan then stored
        else stored.emit (.usersRegisterUser r.asUid true)).topic = w.topic := by
      rw [← saveNewSub_topic saved]
      split_ifs <;> rfl
    have attended := applySub_presence (by rw [topic]; exact online) alive applied
    rw [topic] at attended
    refine attended.imp fun banned => ?_
    rw [SubRequest.selfBans, mayBan, asked]
    dsimp only
    split_ifs
    · cases cached : w.topic.perUser.lookup r.asUid with
      | none => rfl
      | some pud => simp [absent pud cached]
    · cases joiner : m.isJoiner with
      | false => rfl
      | true =>
        rw [joins joiner] at banned
        cases banned
  | changed m old new ownerChange stored handed asked cached present got saved owned applied =>
    have known : w.topic.pud r.asUid = old := by rw [Topic.pud, GoMap.getD, cached, Option.getD_some]
    have shape := updatedSubData_shape got
    obtain ⟨online, deleted, want⟩ := updatedPrivate_presence r new
    have settled := changeOwner_presence owned
    rw [saveUpdatedSub_topic saved] at settled
    have online : (updatedPrivate r new).online = handed.topic.online r.asUid := by
      rw [online, shape]
      rcases settled.online r.asUid with same | ⟨left, -⟩
      · rw [same, Topic.online, known]
      · rw [Topic.gone, known, present] at left
        cases left
    refine Attended.imp
      (settled.attended (applySub_presence online (by rw [deleted, shape]; exact present) applied))
      fun banned => ?_
    rw [want, Bool.not_eq_true', ← Bool.not_eq_true] at banned
    rw [SubRequest.selfBans, mayBan, asked, cached]
    split_ifs with silent
    · rw [Option.any_some, present, Bool.not_false, Bool.true_and, Bool.not_eq_true',
        ← Bool.not_eq_true]
      rw [silent] at asked
      exact fun joins =>
        banned (updatedSubData_isJoiner (by rwa [if_pos (requestedMode_nil asked)]) got)
    · rw [Bool.not_eq_true', ← Bool.not_eq_true]
      exact fun joins =>
        banned (updatedSubData_isJoiner (by rwa [if_neg (ne_unset_of_isJoiner joins)]) got)
  | interrupted m old new ownerChange stored handed rej asked cached present got saved stopped same =>
    have settled := changeOwner_presence stopped
    rw [saveUpdatedSub_topic saved] at settled
    rw [same]
    exact .inl (settled.trans (refuse_undisturbed ..))

theorem evictUser_gone (ran : evictUser w u false skip = .ok w') (gone : w'.topic.gone u) :
    w.topic.gone u := by
  rw [Topic.gone, (evictUser_frame ran).1] at gone
  change ((forgetUser w u false).topic.pud u).deleted at gone
  unfold forgetUser at gone
  cases cached : w.topic.perUser.lookup u with
  | none => simpa [cached, Topic.gone] using gone
  | some pud =>
    simp only [cached, Bool.false_eq_true, if_false] at gone
    split_ifs at gone
    · rw [pud_erase, if_pos rfl] at gone
      cases gone
    · rw [pud_setPud, if_pos rfl] at gone
      rw [Topic.gone, Topic.pud, GoMap.getD, cached]
      exact gone

theorem applySub_alive (alive : userData.deleted = false)
    (ran : applySub w r oldWant oldGiven userData = .ok (w', res)) :
    w'.topic.gone r.asUid = false := by
  obtain ⟨applied, reported, ran⟩ := bind_ok ran
  have kept : applied.topic.gone r.asUid = false := by
    rw [(reportChange_ok reported).1, Topic.gone, pud_setPud, if_pos rfl, alive]
  dsimp only at ran
  split at ran
  · obtain ⟨evicted, gone, ran⟩ := bind_ok ran
    cases ran
    rw [← Bool.not_eq_true]
    intro left
    rw [evictUser_gone gone left] at kept
    cases kept
  · split at ran <;> cases ran <;> exact kept

theorem thisUserSub_alive {modeChanged : Option MsgAccessMode}
    (ran : thisUserSub cfg fail w r = .ok (w', .ok modeChanged)) : w'.topic.gone r.asUid = false := by
  cases thisUserSub_outcome ran with
  | refused _ _ _ answer => cases answer
  | joined _ _ _ _ _ got _ applied => exact applySub_alive (newSubData_presence got).2.1 applied
  | changed _ old new _ _ _ _ _ present got _ _ applied =>
    refine applySub_alive ?_ applied
    rw [(updatedPrivate_presence r new).2.1, updatedSubData_shape got]
    exact present
  | interrupted _ _ _ _ _ _ _ _ _ _ _ _ _ _ answer => cases answer

variable {r : GrantRequest} {original : Addressing}

theorem applyGrant_presence
    (ran : applyGrant w r oldWant oldGiven userData = .ok (w', res)) :
    Attended r.target (!userData.modeGiven.isJoiner) w.topic w'.topic := by
  obtain ⟨applied, reported, ran⟩ := bind_ok ran
  have topic := (reportChange_ok reported).1
  dsimp only at ran
  split at ran
  · next banned =>
    obtain ⟨evicted, gone, ran⟩ := bind_ok ran
    cases ran
    rw [← topic]
    exact .inr ⟨banned, evictUser_evicted gone⟩
  · cases ran
    rw [topic]
    exact .inl .refl

theorem grantedMode_requested (granted : grantedMode cfg t r = .ok m) :
    ∃ asked, requestedMode r.mode = .ok asked ∧ (r.mode = "" → m = modeUnset) ∧
      (asked.isJoiner → m.isJoiner) := by
  unfold grantedMode at granted
  dsimp only at granted
  split at granted
  · cases granted
  split at granted
  · cases granted
  split at granted
  · cases granted
  cases requested : requestedMode r.mode with
  | error text =>
    rw [requested] at granted
    cases granted
  | ok asked =>
    rw [requested] at granted
    dsimp only at granted
    generalize decided : (if r.mode ≠ "" ∧ t.cat = .p2p then
      (asked &&& cfg.typesModeCP2P) ||| modeApprove else asked) = given at granted
    split at granted
    · cases granted
    split at granted
    · cases granted
    · cases granted
      rw [← decided]
      refine ⟨asked, rfl, fun silent => ?_, fun joiner => ?_⟩
      · rw [if_neg fun explicit => explicit.1 silent]
        rw [silent] at requested
        exact requestedMode_nil requested
      · split_ifs
        · exact isJoiner_p2p cfg joiner
        · exact joiner

/-- A request about another user leaves the presence alone, or evicts that user if it may ban
them. -/
theorem anotherUserSub_presence (ran : anotherUserSub cfg fail w r = .ok (w', res)) :
    Attended r.target (r.bans w.topic) w.topic w'.topic := by
  cases anotherUserSub_outcome ran with
  | refused rej same =>
    rw [same]
    exact .inl (refuse_undisturbed ..)
  | invited m stored userData checked absent made applied =>
    obtain ⟨asked, requested, silent, joins⟩ := grantedMode_requested checked
    obtain ⟨want, given, chosen, -, -, rfl, rfl⟩ := inviteUser_ok made
    -- a user who is not cached is not online; what is cached of a user who is gone is replaced
    have offline : (0 : Int) = w.topic.online r.target ∨ (w.topic.gone r.target ∧ (0 : Int) = 0) := by
      unfold Topic.online Topic.gone Topic.pud GoMap.getD
      cases cached : w.topic.perUser.lookup r.target with
      | none => exact .inl rfl
      | some pud => exact .inr ⟨absent pud cached, rfl⟩
    have settled :
        Undisturbed w.topic (w.topic.setPud r.target { modeGiven := given, modeWant := want }) :=
      .setPud offline (by simp)
    have invited : Undisturbed w.topic (w.invite r.target want given).topic :=
      settled.trans (.of_eq rfl rfl)
    refine Attended.imp (invited.attended (applyGrant_presence applied)) fun banned => ?_
    have explicit : m ≠ modeUnset ∧ m.isJoiner = false := by
      unfold invitedGiven at chosen
      split at chosen
      · obtain ⟨access, -, rfl⟩ := map_ok chosen
        rw [isJoiner_or, show modeJoin.isJoiner from by decide, Bool.or_true] at banned
        cases banned
      · next set =>
        cases chosen
        exact ⟨set, by simpa using banned⟩
    rw [GrantRequest.bans, mayBan, requested]
    dsimp only
    rw [if_neg fun empty => explicit.1 (silent empty), Bool.not_eq_true', ← Bool.not_eq_true]
    exact fun joiner => absurd (joins joiner) (by simp [explicit.2])
  | changed m old userData stored checked cached present granted applied =>
    obtain ⟨asked, requested, silent, joins⟩ := grantedMode_requested checked
    have known : w.topic.pud r.target = old := by rw [Topic.pud, GoMap.getD, cached, Option.getD_some]
    obtain ⟨settled, given⟩ : Undisturbed w.topic stored.topic ∧
        userData.modeGiven = if m = modeUnset then old.modeGiven else m := by
      rcases changeGiven_ok granted with ⟨same, rfl, rfl⟩ | ⟨set, -, -, -, rfl, rfl⟩
      · refine ⟨.refl, ?_⟩
        split_ifs with unset
        · rfl
        · exact (same.resolve_left unset).symm
      · exact ⟨.setPud (.inl (by rw [Topic.online, known])) (by rw [Topic.gone, known]; exact id),
          (if_neg set).symm⟩
    refine Attended.imp (settled.attended (applyGrant_presence applied)) fun banned => ?_
    rw [GrantRequest.bans, mayBan, requested, cached, Option.filter_some, if_pos (by simp [present])]
    rw [given] at banned
    split_ifs with empty
    · rw [if_pos (silent empty)] at banned
      exact banned
    · rw [Bool.not_eq_true', ← Bool.not_eq_true]
      intro joiner
      rw [if_neg (ne_unset_of_isJoiner (joins joiner)), joins joiner] at banned
      cases banned

variable {res : Except String Unit}

theorem replySetSub_presence {r : SetSubRequest}
    (ran : replySetSub cfg fail w r = .ok (w', res)) :
    (r.user = some 0 ∧ Undisturbed w.topic w'.topic) ∨
      (r.user ≠ some 0 ∧ Attended r.target (r.bans w.topic) w.topic w'.topic) := by
  unfold replySetSub at ran
  split at ran
  · next zero =>
    cases ran
    exact .inl ⟨zero, .refl⟩
  next named =>
  refine .inr ⟨named, ?_⟩
  obtain ⟨⟨w'', result'⟩, done, ran⟩ := bind_ok ran
  have topic : w'.topic = w''.topic := by
    cases result' with
    | error text =>
      cases ran
      rfl
    | ok modeChanged => cases modeChanged <;> cases ran <;> rfl
  rw [topic]
  unfold setSub at done
  unfold SetSubRequest.bans
  dsimp only at done
  split at done
  · next own =>
    have own : r.target = r.asUid := own
    rw [if_pos own, own]
    exact thisUserSub_presence done
  · next other =>
    have other : r.target ≠ r.asUid := other
    rw [if_neg other]
    exact anotherUserSub_presence done

theorem replyDelSub_presence {user : Uid}
    (ran : replyDelSub fail w sess asUid original user = .ok (w', res)) :
    Undisturbed w.topic w'.topic ∨ (user ≠ 0 ∧ Evicted user w.topic w'.topic) := by
  cases replyDelSub_outcome ran with
  | refused rej same =>
    rw [same, (refuse_frame ..).1]
    exact .inl .refl
  | removed pud reply checked gone =>
    have left := evictUser_evicted gone
    exact .inr ⟨(deletableSub_ok checked).2.2.1.1, left⟩

theorem replyLeaveUnsub_presence
    (ran : replyLeaveUnsub fail w sess asUid original = .ok (w', res)) :
    Undisturbed w.topic w'.topic ∨ Evicted asUid w.topic w'.topic := by
  cases replyLeaveUnsub_outcome ran with
  | refused rej same =>
    rw [same, (refuse_frame ..).1]
    exact .inl .refl
  | removed asChan store evicted _ _ _ gone same =>
    have left := evictUser_evicted gone
    rw [same]
    exact .inr (left.undisturbed rfl rfl)

end LastochkaServer.Source
