import LastochkaServer.Source.Topic.BookedSessions

/-!
# What the events of sessions do to the roster

`Listed` says for every event of `attend` what the roster can be afterwards. A session that leaves
or comes to the foreground changes an online counter, and so gives an empty card to a user who has
none.
-/

namespace LastochkaServer.Source

open Lib AccessMode

namespace Roster

variable {uid : Uid} {card : Card}

/-- The user has a card, an empty one if there was none. -/
def ensure (ro : Roster) (uid : Uid) : Roster := ro.put uid (some ((ro.cards uid).getD {}))

theorem ensure_listed {ro : Roster} (listed : ro.cards uid = some card) : ro.ensure uid = ro := by
  rw [ensure, listed, Option.getD_some, ← listed, put_self]

theorem ensure_cards (ro : Roster) (uid v : Uid) :
    (ro.ensure uid).cards v = ro.cards v ∨ v = uid ∧ ro.cards v = none ∧
    (ro.ensure uid).cards v = some {} := by
  by_cases same : v = uid
  · subst same
    cases listed : ro.cards v with
    | some card =>
      rw [ensure_listed listed, listed]
      exact .inl rfl
    | none => exact .inr ⟨rfl, rfl, by simp [ensure, listed]⟩
  · exact .inl (put_other ro _ same)

end Roster

variable (w : World)

theorem addOnline_roster (uid : Uid) (change : Int) :
    (w.setTopic (w.topic.addOnline uid change)).roster = w.roster.ensure uid := by
  refine (roster_setPud w uid _).trans ?_
  rw [Roster.ensure, ← card_pud]
  rfl

variable {r : SubRequest}

theorem attachSession_roster {w : World} {newsub : Bool} {card : Card}
    (listed : w.roster.cards r.asUid = some card) :
    (w.setTopic (attachSession w.topic r newsub)).roster = w.roster := by
  rw [attachSession_eq]
  cases r.sess.background with
  | true => rfl
  | false =>
    have counted := addOnline_roster w r.asUid 1
    rw [Roster.ensure_listed listed] at counted
    exact counted

/-- A session is attached only for a user who has a card, so the roster is that after the
subscription. -/
theorem subscriptionReply_roster {cfg : Config} {fail : Faults} {w w' : World}
    {res : Except String Bool} (sane : w.books.Sane) (named : r.asChan → w.topic.isChan)
    (ran : subscriptionReply cfg fail w r = .ok (w', res)) :
    SelfListed cfg fail w { r with newsub := isNewsub w.topic r } w'.roster := by
  obtain ⟨⟨subscribed, outcome⟩, done, ran⟩ := bind_ok ran
  have listed := thisUserSub_roster done
  cases outcome with
  | error text =>
    cases ran
    exact listed
  | ok modeChanged =>
    obtain ⟨name, -, ran⟩ := bind_ok ran
    cases ran
    rw [roster_emit]
    split
    · next joins =>
      obtain ⟨s, taken⟩ := thisUserSub_seated sane named done joins
      obtain ⟨pud, cached, -⟩ := Option.map_eq_some_iff.mp taken
      rw [attachSession_roster (cards_of_cached cached)]
      exact listed
    · exact listed

/-- Some of the users have been given an empty card. -/
structure Summoned (uids : List Uid) (ro ro' : Roster) : Prop where
  frame : ro' = { ro with cards := ro'.cards }
  cards : ∀ uid, ro'.cards uid = ro.cards uid ∨ uid ∈ uids ∧ ro.cards uid = none ∧
    ro'.cards uid = some {}

/-- Some of the users have lost their cards. -/
structure Dismissed (uids : List Uid) (asChan : Bool) (ro ro' : Roster) : Prop where
  frame : ro' = { ro with cards := ro'.cards }
  cards : ∀ uid, ro'.cards uid = ro.cards uid ∨ uid ∈ uids ∧ asChan ∧ ro.cat = .grp ∧
    ro'.cards uid = none

theorem Summoned.refl (uids : List Uid) (ro : Roster) : Summoned uids ro ro :=
  ⟨rfl, fun _ => .inl rfl⟩

theorem Dismissed.refl (uids : List Uid) (asChan : Bool) (ro : Roster) :
    Dismissed uids asChan ro ro :=
  ⟨rfl, fun _ => .inl rfl⟩

theorem Summoned.trans {r₁ r₂ r₃ : Roster} (first : Summoned uids r₁ r₂)
    (second : Summoned uids r₂ r₃) :
    Summoned uids r₁ r₃ where
  frame := by rw [second.frame, first.frame]
  cards uid := by
    rcases second.cards uid with same | ⟨mem, absent, blank⟩
    · rw [same]
      exact first.cards uid
    · rcases first.cards uid with same | ⟨-, -, listed⟩
      · exact .inr ⟨mem, same ▸ absent, blank⟩
      · rw [listed] at absent
        cases absent

theorem Dismissed.trans {asChan : Bool} {r₁ r₂ r₃ : Roster} (first : Dismissed uids asChan r₁ r₂)
    (second : Dismissed uids asChan r₂ r₃) : Dismissed uids asChan r₁ r₃ where
  frame := by rw [second.frame, first.frame]
  cards uid := by
    have cat : r₂.cat = r₁.cat := by rw [first.frame]
    rcases second.cards uid with same | ⟨mem, named, group, gone⟩
    · rw [same]
      exact first.cards uid
    · exact .inr ⟨mem, named, cat ▸ group, gone⟩

theorem ensure_summoned (ro : Roster) (mem : uid ∈ uids) : Summoned uids ro (ro.ensure uid) :=
  ⟨rfl, fun v => (ro.ensure_cards uid v).imp_right fun ⟨same, absent, blank⟩ =>
    ⟨same ▸ mem, absent, blank⟩⟩

theorem foldl_addOnline_roster (uids among : List Uid) (change : Int) (subset : uids ⊆ among) :
    Summoned among w.roster
      (w.setTopic (uids.foldl (fun t uid => t.addOnline uid change) w.topic)).roster := by
  induction uids generalizing w with
  | nil => exact .refl ..
  | cons uid rest ih =>
    have first := ensure_summoned w.roster (subset List.mem_cons_self)
    rw [← addOnline_roster w uid change] at first
    exact first.trans (ih (w.setTopic (w.topic.addOnline uid change)) fun _ mem =>
      subset (List.mem_cons_of_mem _ mem))

theorem forgetReader_roster (asChan : Bool) (mem : uid ∈ uids) :
    Dismissed uids asChan w.roster (w.setTopic (forgetReader asChan w.topic uid)).roster := by
  unfold forgetReader
  split
  · next empty =>
    have erased := roster_erase w uid
    refine ⟨erased ▸ rfl, fun other => ?_⟩
    have cards : (w.setTopic { w.topic with perUser := w.topic.perUser.erase uid }).roster.cards =
        Function.update w.roster.cards uid none := congrArg Roster.cards erased
    rw [cards]
    by_cases same : other = uid
    · subst same
      exact .inr ⟨mem, empty.2.2, empty.1, by simp⟩
    · simp [same]
  · exact .refl ..

theorem foldl_forgetReader_roster (asChan : Bool) (leaving uids : List Uid) (among : leaving ⊆ uids) :
    Dismissed uids asChan w.roster
      (w.setTopic (leaving.foldl (forgetReader asChan) w.topic)).roster := by
  induction leaving generalizing w with
  | nil => exact .refl ..
  | cons uid rest ih =>
    have first := forgetReader_roster w asChan (among List.mem_cons_self)
    exact first.trans
      (ih (w.setTopic (forgetReader asChan w.topic uid)) fun _ mem =>
        among (List.mem_cons_of_mem _ mem))

/-- The roster after `uids` have left: those who are counted have a card, and readers may lose
theirs. -/
def Dispersed (uids : List Uid) (counted asChan : Bool) (ro ro' : Roster) : Prop :=
  ∃ mid, (bif counted then Summoned uids ro mid else mid = ro) ∧ Dismissed uids asChan mid ro'

theorem leaving_dispersed (uids : List Uid) (counted asChan : Bool) :
    Dispersed uids counted asChan w.roster
      (w.setTopic (w.topic.leaving uids counted asChan)).roster := by
  cases counted with
  | false => exact ⟨_, rfl, foldl_forgetReader_roster w asChan uids uids (List.Subset.refl _)⟩
  | true =>
    exact ⟨_, foldl_addOnline_roster w uids uids (-1) (List.Subset.refl _),
      foldl_forgetReader_roster (w.setTopic _) asChan uids uids (List.Subset.refl _)⟩

/-- The roster after an event. -/
inductive Listed (cfg : Config) (fail : Faults) (v : Service) : SessionEvent → Roster → Prop
  | kept (e : SessionEvent) : Listed cfg fail v e v.world.roster
  | subscribed (r request : SubRequest) (authenticated : r.asUid ≠ 0) (after : Roster)
      (same : request = { r with sess := request.sess, newsub := request.newsub })
      (named : r.asChan → v.world.topic.isChan) (listed : SelfListed cfg fail v.world request after) :
      Listed cfg fail v (.subscribe r authenticated) after
  | setSelf (r : SetSubRequest) (authenticated : r.asUid ≠ 0) (own : r.target = r.asUid)
      (after : Roster) (named : r.asChan → v.world.topic.isChan)
      (listed : SelfListed cfg fail v.world r.toSub after) :
    Listed cfg fail v (.setSub r authenticated) after
  | setOther (r : SetSubRequest) (authenticated : r.asUid ≠ 0) (other : r.target ≠ r.asUid)
      (after : Roster)
      (someone : r.target ≠ 0) (listed : GrantListed cfg fail v.world r.toGrant after) :
      Listed cfg fail v (.setSub r authenticated) after
  | removed (sess : Session) (asUid : Uid) (original : Addressing) (user : Uid) (after : Roster)
      (listed : RemovalListed v.world.roster user .topic after) :
      Listed cfg fail v (.delSub sess asUid original user) after
  | unsubscribed (sess : Session) (asUid : Uid) (original : Addressing) (authenticated : asUid ≠ 0)
      (after : Roster)
      (listed : RemovalListed v.world.roster asUid ((v.world.roster.cards asUid).getD {}).name after)
      (other : after ≠ v.world.roster → v.world.topic.owner ≠ asUid) :
      Listed cfg fail v (.leave sess asUid original true authenticated) after
  | departed (e : SessionEvent) (r : LeaveRequest) (leaves : e.departure v = some r) (after : Roster)
      (dispersed : Dispersed (r.leavers v.world.topic).1 (r.leavers v.world.topic).2
        (r.asChan v.world.topic) v.world.roster after) : Listed cfg fail v e after
  | raised (e : SessionEvent) (sess : Session) (raises : e.raised v = some sess) (uid : Uid)
      (risen : v.world.topic.risen sess = some uid) : Listed cfg fail v e (v.world.roster.ensure uid)

theorem Replied.roster {w w' : World} (replies : Replied w w') : w'.roster = w.roster := by
  induction replies with
  | silent => rfl
  | replied _ _ _ ih => exact ih

theorem attend_roster (cfg : Config) (fail : Faults) (e : SessionEvent) (sane : v.world.books.Sane) :
    Listed cfg fail v e (attend cfg fail v e).world.roster := by
  have happened := attend_happened cfg fail v e
  generalize (attend cfg fail v e).world = w at happened
  cases happened with
  | kept _ replies =>
    rw [replies.roster]
    exact .kept _
  | subscribed r authed named replied =>
    exact .subscribed r _ authed _ rfl named
      (subscriptionReply_roster (r := { r with sess := v.own r.sess }) sane named replied)
  | setSelf r authed named own done replies =>
    rw [replies.roster]
    exact .setSelf r authed own _ named (thisUserSub_roster done)
  | setOther r authed other someone done replies =>
    rw [replies.roster]
    exact .setOther r authed other _ someone (anotherUserSub_roster done)
  | removed sess asUid original user replied =>
    exact .removed sess asUid original user _ (replyDelSub_roster replied)
  | unsubscribed sess asUid original authed replies replied =>
    obtain ⟨view, other⟩ := replyLeaveUnsub_roster replied
    rw [replies.roster] at view other
    rw [replies.frame.1] at other
    exact .unsubscribed sess asUid original authed _ view other
  | departed e r leaves cleared =>
    obtain ⟨w₀, sessions, replies, rfl⟩ := cleared
    refine .departed e r leaves _ ?_
    rw [← replies.roster]
    exact leaving_dispersed (w₀.setTopic { w₀.topic with sessions := sessions }) _ _ _
  | raised e sess raises =>
    rw [sessToForeground_eq]
    cases risen : v.world.topic.risen sess with
    | none => exact .kept _
    | some uid =>
      rw [Option.elim_some, addOnline_roster]
      exact .raised e sess raises uid risen

end LastochkaServer.Source
