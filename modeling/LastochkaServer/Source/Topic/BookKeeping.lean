import LastochkaServer.Source.Topic.Books

/-!
# What the subscription handlers do to the books of a topic

One lemma for each handler of `server/topic.go:1492-2094, 3392-3561`: the seats, the active
subscriptions, the number of subscribers and the reports after it, in terms of those before.
-/

namespace LastochkaServer.Source

open Lib AccessMode

variable {w w' : World} {fail : Faults} {r : SubRequest} {cfg : Config}
  {m oldWant oldGiven modeGiven : AccessMode} {res : Except String (Option MsgAccessMode)}
  {old userData new pud : PerUserData} {asUid user uid : Uid} {n : NewSub} {t : Topic}
  {cached : Option PerUserData} {ownerChange asChan : Bool} {original : Addressing} {sess : Session}
  {want : String}

/-- The seat after a request: a reader who does not want to join gives it up. -/
def Seat.settled (s : Seat) : Option Seat := bif s.joins then some s else s.detached

theorem unreadChange_same (uid : Uid) (s : Seat) (lastID : Int) :
    unreadChange uid s.reads s lastID = [] := by
  unfold unreadChange
  cases s.reads <;> rfl

theorem applySub_books (ran : applySub w r oldWant oldGiven userData = .ok (w', res)) :
    w'.books = (w.books.tell (bif r.asChan then []
      else unreadChange r.asUid (oldWant &&& oldGiven).isReader userData.seat w.topic.lastID)).seat
        r.asUid
        userData.seat.settled := by
  obtain ⟨applied, reported, ran⟩ := bind_ok ran
  have told : applied.books = (w.books.tell (bif r.asChan then []
      else unreadChange r.asUid (oldWant &&& oldGiven).isReader userData.seat w.topic.lastID)).seat
        r.asUid
        (some userData.seat) := by
    rw [books_reportChange reported, books_setPud]
    cases r.asChan with
    | true => simp
    | false =>
      by_cases same : oldWant = userData.modeWant ∧ oldGiven = userData.modeGiven
      · obtain ⟨rfl, rfl⟩ := same
        have reads : (userData.modeWant &&& userData.modeGiven).isReader = userData.seat.reads := by
          rw [BitVec.and_comm]
          rfl
        simp [reads, unreadChange_same]
      · have changed : (oldWant ≠ userData.modeWant || oldGiven ≠ userData.modeGiven) := by
          simp only [ne_eq, decide_not, Bool.or_eq_true, Bool.not_eq_true', decide_eq_false_iff_not]
          exact not_and_or.mp same
        rw [if_pos ⟨changed, rfl⟩]
        rfl
  dsimp only at ran
  unfold Seat.settled
  have wants : userData.seat.joins = userData.modeWant.isJoiner := rfl
  split at ran
  · next refuses =>
    obtain ⟨evicted, gone, ran⟩ := bind_ok ran
    cases ran
    rw [evictUser_books gone, forgetUser_detached, told, wants, Bool.not_eq_true' .. |>.mp refuses]
    simp [Books.seat]
  next joins =>
  have joins : userData.modeWant.isJoiner := by simpa using joins
  rw [wants, joins, cond_true]
  split at ran
  · cases ran
    rw [books_emit]
    exact (Books.tell_nil _).trans told
  · cases ran
    exact told

/-- A mode is read with `J` exactly when its letters have one. -/
theorem parseAcsFrom_isJoiner {letters : List Char} (known : ∀ c ∈ letters, c ∈ modeLetters) :
    ∃ m', parseAcsFrom m letters = .ok m' ∧ m'.isJoiner = (m.isJoiner || decide ('J' ∈ letters)) := by
  induction letters generalizing m with
  | nil => exact ⟨m, rfl, by simp⟩
  | cons c rest ih =>
    have read : ∃ bit, ofLetter c = some bit ∧ bit.isJoiner = decide ('J' = c) := by
      have letter := known c List.mem_cons_self
      simp only [modeLetters, List.mem_cons, List.not_mem_nil, or_false] at letter
      rcases letter with rfl | rfl | rfl | rfl | rfl | rfl | rfl | rfl <;> exact ⟨_, rfl, by decide⟩
    obtain ⟨bit, found, letter⟩ := read
    obtain ⟨m', parsed, same⟩ := ih (m := m ||| bit) fun c mem => known c (List.mem_cons_of_mem _ mem)
    refine ⟨m', ?_, ?_⟩
    · simp [parseAcsFrom, found, parsed]
    · simp [same, isJoiner_or, letter, List.mem_cons, Bool.decide_or, Bool.or_assoc]

theorem hasJoined_ofPud (pud : PerUserData) :
    hasJoined (some (MsgAccessMode.ofPud pud)) = pud.mode.isJoiner := by
  have unset : modeUnset.isJoiner = false := by decide
  have parsed : ∃ m, parseAcs pud.mode.string = .ok m ∧ m.isJoiner = pud.mode.isJoiner := by
    unfold parseAcs string marshalText
    split_ifs with none invalid
    · exact ⟨modeNone, rfl, by rw [none]⟩
    · refine ⟨modeUnset, rfl, ?_⟩
      rw [invalid]
      decide
    · have known :
          ∀ c ∈ (modeLetters.zipIdx.filter fun p => pud.mode &&& (1 <<< p.2) != 0).map Prod.fst,
          c ∈ modeLetters := by
        intro c mem
        obtain ⟨⟨letter, i⟩, chosen, rfl⟩ := List.mem_map.mp mem
        exact List.fst_mem_of_mem_zipIdx (List.mem_filter.mp chosen).1
      have joiner :
          'J' ∈ (modeLetters.zipIdx.filter fun p => pud.mode &&& (1 <<< p.2) != 0).map Prod.fst ↔
          pud.mode.isJoiner := by
        simp [modeLetters, List.zipIdx_cons, isJoiner, modeJoin]
      obtain ⟨m, parsed, same⟩ := parseAcsFrom_isJoiner (m := modeUnset) known
      refine ⟨m, ?_, ?_⟩
      · dsimp only
        rw [String.toList_ofList]
        exact parsed
      · rw [same, unset, Bool.false_or]
        exact Bool.eq_iff_iff.mpr (decide_eq_true_iff.trans joiner)
  obtain ⟨m, parsed, joins⟩ := parsed
  have text : (MsgAccessMode.ofPud pud).mode = pud.mode.string := rfl
  simp [hasJoined, text, parsed, joins]

theorem applySub_joined {modeChanged : Option MsgAccessMode}
    (ran : applySub w r oldWant oldGiven userData = .ok (w', .ok modeChanged))
    (joined : hasJoined modeChanged)
    (asked : r.newsub ∨ oldWant.isJoiner ∨ oldGiven ≠ userData.modeGiven) :
    userData.modeWant.isJoiner := by
  by_contra refuses
  have refuses : userData.modeWant.isJoiner = false := Bool.not_eq_true _ ▸ refuses
  obtain ⟨applied, reported, ran⟩ := bind_ok ran
  rw [if_pos (by simp [refuses])] at ran
  obtain ⟨evicted, gone, ran⟩ := bind_ok ran
  cases ran
  have changed : (r.newsub || (oldWant ≠ userData.modeWant || oldGiven ≠ userData.modeGiven)) := by
    rcases asked with new | joins | given
    · simp [new]
    · have ne : oldWant ≠ userData.modeWant := by
        rintro rfl
        rw [joins] at refuses
        cases refuses
      simp [ne]
    · simp [given]
  rw [if_pos changed, hasJoined_ofPud, PerUserData.mode, isJoiner_and, refuses,
    Bool.and_false] at joined
  cases joined

theorem active_of_getSub {s : Store} {name : Addressing} {keepDeleted : Bool} {row : Subscription}
    (found : s.getSub name uid keepDeleted = some row) (alive : row.deletedAt = false) :
    s.active (name, uid) := by
  have stored := (Option.filter_eq_some_iff.mp found).1
  simp [Store.active, stored, alive]

/-- What a new subscription takes over from the cache and from the store. -/
theorem newSubModes_seat (group : r.asChan → w.topic.cat = .grp)
    (got : newSubModes cfg fail w r m cached = .ok (.ok n)) :
    n.userData.isChan = (r.asChan || (cached.getD {}).isChan) ∧
      (r.asChan = false → n.oldWant = modeNone ∧ n.oldGiven = modeNone) ∧
      ∀ row, n.sub = some row → row.deletedAt = false → w.store.active (r.tname, r.asUid) := by
  unfold newSubModes at got
  split at got
  · next p2p =>
    have named : r.asChan = false := by
      cases named : r.asChan with
      | false => rfl
      | true => cases p2p.symm.trans (group named)
    cases got
    simp [newP2PSub, named]
  split at got
  · next sys =>
    have named : r.asChan = false := by
      cases named : r.asChan with
      | false => rfl
      | true => cases sys.symm.trans (group named)
    unfold newSysSub at got
    split at got
    · cases got
    · cases got
      simp [named]
  split at got
  · next named =>
    unfold newChannelSub at got
    split at got
    · cases got
    · cases got
      simp only [named, Bool.true_or, SubRequest.tname, if_true, reduceCtorEq,
        false_implies, true_and]
      exact fun row found alive => active_of_getSub found alive
  next named =>
  unfold newOtherSub at got
  split at got
  · cases got
  · obtain ⟨given, -, got⟩ := bind_ok got
    obtain ⟨want, -, got⟩ := bind_ok got
    cases got
    simp only [named, Bool.false_or, SubRequest.tname, Bool.false_eq_true, if_false,
      true_and, imp_self]
    intro row found alive
    split at found
    · cases found
    · exact active_of_getSub found alive

theorem newSubData_seat (group : r.asChan → w.topic.cat = .grp)
    (gone : ∀ pud, cached = some pud → pud.deleted)
    (got : newSubData cfg fail w r m cached = .ok (.ok n)) :
    n.userData.readID = 0 ∧ n.userData.deleted = false ∧ n.userData.modeGiven.isJoiner ∧
      n.userData.isChan = (r.asChan || (cached.getD {}).isChan) ∧
      (r.asChan = false → n.oldWant = modeNone ∧ n.oldGiven = modeNone) ∧
      ∀ row, n.sub = some row → row.deletedAt = false → w.store.active (r.tname, r.asUid) := by
  obtain ⟨modes, found, joiner, -, privateData, rfl⟩ := newSubData_ok got
  obtain ⟨isChan, old, row⟩ := newSubModes_seat group found
  have shape := newSubModes_shape found
  unfold PerUserData.revived
  split_ifs with removed
  · exact ⟨rfl, rfl, joiner, isChan, old, row⟩
  · refine ⟨?_, Bool.not_eq_true _ ▸ removed, joiner, isChan, old, row⟩
    cases cached with
    | none => rw [shape]; rfl
    | some pud =>
      rw [shape] at removed
      exact absurd (gone pud rfl) removed

theorem saveNewSub_books
    (stored : ∀ row, n.sub = some row → row.deletedAt = false → w.store.active (r.tname, r.asUid))
    (saved : saveNewSub fail w r n = .ok w') : w'.books = w.books.file (r.tname, r.asUid) true := by
  unfold saveNewSub at saved
  dsimp only at saved
  split at saved
  · split at saved
    · cases saved
    · cases saved
      exact books_createSub w ..
  next present =>
  have active : w.books.active (r.tname, r.asUid) := by
    cases found : n.sub with
    | none => simp [found] at present
    | some row =>
      apply stored row found
      simpa [found] using present
  rw [← active, Books.file_self]
  split at saved
  · split at saved
    · cases saved
    · cases saved
      rw [books_emit]
      exact (Books.tell_nil _).trans (books_updateSub w r.tname r.asUid fun _ => rfl)
  · cases saved
    rfl

theorem updatedSubData_named (got : updatedSubData cfg t r m old = .ok (.ok (new, ownerChange))) :
    (r.asChan → old.isChan) ∧ (ownerChange → old.modeGiven.isOwner) := by
  unfold updatedSubData at got
  split at got
  · cases got
  next named =>
  refine ⟨fun channel => by simpa [channel] using named, fun hands => ?_⟩
  subst hands
  split at got
  · split at got
    · cases got
    · obtain ⟨access, -, got⟩ := bind_ok got
      cases got
  split at got
  · cases got
  split at got
  · cases got
  · have hands := congrArg Prod.snd (Except.ok.inj (Except.ok.inj got))
    simp only [Bool.and_eq_true] at hands
    exact hands.1.1

/-- A subscriber who wants to join and asks for no mode keeps the one there is. -/
theorem updatedSubData_unset (got : updatedSubData cfg t r m old = .ok (.ok (new, ownerChange)))
    (unset : m = modeUnset) (joins : old.modeWant.isJoiner) : new = old := by
  unfold updatedSubData at got
  split at got
  · cases got
  · cases got
    rfl

theorem requestedMode_unset (asked : requestedMode want = .ok m) (empty : want = "") :
    m = modeUnset := by
  rw [requestedMode, if_neg (not_not.mpr empty)] at asked
  exact (Except.ok.inj asked).symm

theorem updatedPrivate_seat (r : SubRequest) (pud : PerUserData) :
    (updatedPrivate r pud).seat = pud.seat := by
  unfold updatedPrivate
  split_ifs <;> rfl

theorem saveUpdatedSub_books (saved : saveUpdatedSub fail w r old new = .ok w') :
    w'.books = w.books ∧ w'.topic = w.topic := by
  unfold saveUpdatedSub at saved
  dsimp only at saved
  split at saved
  · cases saved
    exact ⟨rfl, rfl⟩
  split at saved
  · cases saved
  · cases saved
    exact ⟨books_updateSub w .topic r.asUid fun _ => rfl, rfl⟩

/-- The counters do not depend on who the owner is. -/
theorem disown_seat (pud : PerUserData) : pud.disown.seat = pud.seat := by
  have read : (~~~modeOwner).getLsbD 1 := by decide
  have pres : (~~~modeOwner).getLsbD 3 := by decide
  have join : (~~~modeOwner).getLsbD 0 := by decide
  simp only [PerUserData.seat, PerUserData.disown, PerUserData.mode, isReader_eq, isPresencer_eq,
    isJoiner_eq, BitVec.getLsbD_and, read, pres, join, Bool.and_true]

/-- The owner of the topic is not cached, though the request hands the ownership over. -/
def World.OwnerMissing (w : World) (asUid owner : Uid) : Prop :=
  owner = w.topic.owner ∧ owner ∉ w.topic.perUser ∧
    ∃ pud, w.topic.perUser.lookup asUid = some pud ∧ pud.modeGiven.isOwner

/-- An owner who was not cached gets a seat when the ownership changes hands. -/
theorem changeOwner_books {res : Except Rejection Unit}
    (ran : changeOwner fail w asUid ownerChange = .ok (w', res)) :
    w'.books = w.books ∨
      ownerChange ∧ res = .ok () ∧ w.topic.owner ∉ w.topic.perUser ∧
        w'.books = w.books.seat w.topic.owner (some {}) := by
  unfold changeOwner at ran
  split at ran
  · cases ran
    exact .inl rfl
  next hands =>
  have stored (update : Subscription → Subscription)
      (kept : ∀ sub, (update sub).deletedAt = sub.deletedAt) :=
    books_updateSub w .topic w.topic.owner kept
  split at ran
  · cases ran
    exact .inl rfl
  split at ran
  · cases ran
    exact .inl (stored _ fun _ => rfl)
  · obtain ⟨notified, reported, ran⟩ := bind_ok ran
    cases ran
    have seated :
        notified.books = w.books.seat w.topic.owner (some (w.topic.pud w.topic.owner).seat) := by
      rw [books_notifySubChange reported, ← disown_seat, ← books_setPud]
      ext1
      case active => exact active_updateSub w.store .topic w.topic.owner fun _ => rfl
      case messages => exact Store.updateSub_messages ..
      all_goals rfl
    cases cached : w.topic.perUser.lookup w.topic.owner with
    | some pud =>
      have owner : w.books.seats w.topic.owner = some (w.topic.pud w.topic.owner).seat := by
        have known : w.topic.pud w.topic.owner = pud := by simp [Topic.pud, GoMap.getD, cached]
        simp [World.books, known, cached]
      rw [← owner, Books.seat_self] at seated
      exact .inl seated
    | none =>
      have unknown : w.topic.pud w.topic.owner = {} := by simp [Topic.pud, GoMap.getD, cached]
      rw [unknown] at seated
      exact .inr ⟨by simpa using hands, rfl, AList.lookup_eq_none.mp cached, seated⟩

/-- What a request of a user for the own subscription may do; `want` is the mode asked for, and
`missing` says when an owner gets a seat. -/
inductive SelfBooked (b : Books) (uid : Uid) (asChan : Bool) (want : String)
    (missing : Uid → Prop) : Books → Prop
  | kept : SelfBooked b uid asChan want missing b
  | subscribed (s : Seat) (absent : ∀ old, b.seats uid = some old → old.deleted)
      (named : asChan = false)
      (alive : s.deleted = false) (reader : s.isChan = ((b.seats uid).getD {}).isChan)
      (unread : s.readID = 0) :
      SelfBooked b uid asChan want missing (((b.file (.topic, uid) true).tell
        (.register uid true :: unreadChange uid false s b.lastID)).seat uid s.settled)
  | attached (s : Seat) (absent : ∀ old, b.seats uid = some old → old.deleted) (named : asChan)
      (alive : s.deleted = false) (reader : s.isChan) :
      SelfBooked b uid asChan want missing ((b.file (.channel, uid) true).seat uid s.settled)
  | changed (base : Books)
      (handed : base = b ∨ ∃ owner, missing owner ∧ base = b.seat owner (some {}))
      (old s : Seat) (taken : b.seats uid = some old) (present : old.deleted = false)
      (named : asChan → old.isChan) (alive : s.deleted = false) (reader : s.isChan = old.isChan)
      (unread : s.readID = old.readID) (asked : want = "" → old.joins → s.reads = old.reads) :
      SelfBooked b uid asChan want missing
        ((base.tell (bif asChan then [] else unreadChange uid old.reads s b.lastID)).seat
        uid s.settled)

theorem SelfBooked.frame {b b' : Books} {missing : Uid → Prop}
    (booked : SelfBooked b uid asChan want missing b') :
    b'.cat = b.cat ∧ b'.isChan = b.isChan ∧ b'.lastID = b.lastID ∧ b'.subCnt = b.subCnt := by
  cases booked with
  | kept
  | subscribed
  | attached => exact ⟨rfl, rfl, rfl, rfl⟩
  | changed base handed => rcases handed with rfl | ⟨owner, -, rfl⟩ <;> exact ⟨rfl, rfl, rfl, rfl⟩

theorem settled_of_joins {s : Seat} (joins : s.joins) : s.settled = some s := by
  simp [Seat.settled, joins]

theorem absent_seats (absent : w.topic.Absent uid) :
    ∀ s, w.books.seats uid = some s → s.deleted := by
  intro s taken
  obtain ⟨pud, cached, rfl⟩ := Option.map_eq_some_iff.mp taken
  exact absent pud cached

section newSub

variable {stored : World} (group : r.asChan → w.topic.cat = .grp)
  (absent : w.topic.Absent r.asUid)
  (got : newSubData cfg fail w r m (w.topic.perUser.lookup r.asUid) = .ok (.ok n))
include group absent got

theorem newSub_booked (saved : saveNewSub fail w r n = .ok stored)
    (applied : applySub (if r.asChan then stored else stored.emit (.usersRegisterUser r.asUid true)) r
      n.oldWant n.oldGiven n.userData = .ok (w', res)) {missing : Uid → Prop} :
    SelfBooked w.books r.asUid r.asChan r.want missing w'.books := by
  obtain ⟨readID, deleted, -, isChan, old, row⟩ := newSubData_seat group absent got
  have filed := saveNewSub_books row saved
  have lastID : stored.topic.lastID = w.topic.lastID := congrArg Topic.lastID (saveNewSub_topic saved)
  have view := applySub_books applied
  cases named : r.asChan with
  | true =>
    simp only [named, if_true, cond_true, Books.tell_nil, filed, SubRequest.tname] at view
    rw [view]
    exact .attached n.userData.seat (absent_seats absent) rfl deleted
      (by simp [PerUserData.seat, isChan, named])
  | false =>
    obtain ⟨oldWant, oldGiven⟩ := old named
    have unread : (modeNone &&& modeNone).isReader = false := by decide
    simp only [named, Bool.false_eq_true, if_false, cond_false, oldWant, oldGiven, unread, books_emit,
      filed, SubRequest.tname, Books.tell_tell] at view
    have lastID : (stored.emit (.usersRegisterUser r.asUid true)).topic.lastID = w.books.lastID :=
      lastID
    rw [view, lastID]
    have reader : n.userData.seat.isChan = ((w.books.seats r.asUid).getD {}).isChan := by
      simp only [PerUserData.seat, isChan, named, Bool.false_or, World.books]
      cases w.topic.perUser.lookup r.asUid <;> rfl
    exact .subscribed n.userData.seat (absent_seats absent) rfl deleted reader readID

theorem newSub_seated {start : World} {modeChanged : Option MsgAccessMode}
    (applied : applySub start r n.oldWant n.oldGiven n.userData = .ok (w', .ok modeChanged))
    (joined : hasJoined modeChanged) (new : r.asChan → r.newsub) :
    ∃ s, w'.books.seats r.asUid = some s := by
  obtain ⟨-, -, joiner, -, old, -⟩ := newSubData_seat group absent got
  have asked : r.newsub ∨ n.oldWant.isJoiner ∨ n.oldGiven ≠ n.userData.modeGiven := by
    cases named : r.asChan with
    | true => exact .inl (new named)
    | false =>
      refine .inr (.inr fun same => ?_)
      have noneJoins : modeNone.isJoiner = false := by decide
      rw [← same, (old named).2, noneJoins] at joiner
      cases joiner
  have joins : n.userData.seat.joins := applySub_joined applied joined asked
  exact ⟨n.userData.seat, by rw [applySub_books applied, settled_of_joins joins]; simp [Books.seat]⟩

end newSub

section updatedSub

variable {stored handed : World} (found : w.topic.perUser.lookup r.asUid = some old)
  (got : updatedSubData cfg w.topic r m old = .ok (.ok (new, ownerChange)))
include found got

/-- The books before the new modes are applied: an owner who was not found may have got a seat. -/
theorem handed_books (saved : saveUpdatedSub fail w r old (updatedPrivate r new) = .ok stored)
    (owned : changeOwner fail stored r.asUid ownerChange = .ok (handed, .ok ())) :
    handed.books = w.books ∨
      ∃ owner, w.OwnerMissing r.asUid owner ∧ handed.books = w.books.seat owner (some {}) := by
  obtain ⟨-, hands⟩ := updatedSubData_named got
  obtain ⟨same, topic⟩ := saveUpdatedSub_books saved
  have change := changeOwner_books owned
  rw [same, topic] at change
  rcases change with same | ⟨hand, -, gone, view⟩
  · exact .inl same
  · exact .inr ⟨w.topic.owner, ⟨rfl, gone, old, found, hands hand⟩, view⟩

theorem updatedSub_booked (alive : old.deleted = false) (asked : requestedMode r.want = .ok m)
    {missing : Uid → Prop} (base : handed.books = w.books ∨
      ∃ owner, missing owner ∧ handed.books = w.books.seat owner (some {}))
    (applied : applySub handed r old.modeWant old.modeGiven (updatedPrivate r new) = .ok (w', res)) :
    SelfBooked w.books r.asUid r.asChan r.want missing w'.books := by
  have shape := updatedSubData_shape got
  have lastID : handed.topic.lastID = w.books.lastID := by
    rcases base with same | ⟨owner, -, view⟩
    · exact congrArg Books.lastID same
    · exact congrArg Books.lastID view
  have reads : (old.modeWant &&& old.modeGiven).isReader = old.seat.reads := by
    rw [BitVec.and_comm]
    rfl
  have taken : w.books.seats r.asUid = some old.seat := by simp [World.books, found]
  rw [applySub_books applied, updatedPrivate_seat, reads, lastID]
  refine .changed handed.books base old.seat new.seat taken alive (updatedSubData_named got).1 ?_ ?_
    ?_
    fun unset joins => ?_
  · rw [shape]
    exact alive
  · rw [shape]
    rfl
  · rw [shape]
    rfl
  · rw [updatedSubData_unset got (requestedMode_unset asked unset) joins]

theorem updatedSub_seated {start : World} {modeChanged : Option MsgAccessMode}
    (applied : applySub start r old.modeWant old.modeGiven (updatedPrivate r new) =
      .ok (w', .ok modeChanged))
    (joined : hasJoined modeChanged)
    (wants : ∀ s, w.books.seats r.asUid = some s → s.isChan → s.joins) :
    ∃ s, w'.books.seats r.asUid = some s := by
  have taken : w.books.seats r.asUid = some old.seat := by simp [World.books, found]
  have seat := updatedPrivate_seat r new
  have kept : ∃ s, new.seat.settled = some s := by
    cases reader : old.isChan with
    | true =>
      have joins := applySub_joined applied joined (.inr (.inl (wants _ taken reader)))
      have joins : new.seat.joins := by
        rw [← seat]
        exact joins
      exact ⟨_, settled_of_joins joins⟩
    | false =>
      have reader : new.seat.isChan = false := by
        rw [updatedSubData_shape got]
        exact reader
      refine ⟨new.seat, ?_⟩
      cases joins : new.seat.joins <;> simp [Seat.settled, Seat.detached, joins, reader]
  obtain ⟨s, kept⟩ := kept
  exact ⟨s, by rw [applySub_books applied, seat, kept]; simp [Books.seat]⟩

end updatedSub

theorem thisUserSub_books (group : r.asChan → w.topic.cat = .grp)
    (ran : thisUserSub cfg fail w r = .ok (w', res)) :
    SelfBooked w.books r.asUid r.asChan r.want (w.OwnerMissing r.asUid) w'.books ∧
      ∀ modeChanged, res = .ok modeChanged → hasJoined modeChanged →
        (∀ s, w.books.seats r.asUid = some s → s.isChan → s.joins) →
        (r.asChan → (∀ s, w.books.seats r.asUid = some s → s.deleted) → r.newsub) →
        ∃ s, w'.books.seats r.asUid = some s := by
  have refused (w₁ : World) (same : w₁.books = w.books) (rej : Rejection) :
      SelfBooked w.books r.asUid r.asChan r.want (w.OwnerMissing r.asUid)
        (w₁.refuse r.sess.sid rej).books := by
    rw [books_refuse, same]
    exact .kept
  cases thisUserSub_outcome ran with
  | refused rej _ same answer =>
    rw [same, answer]
    exact ⟨refused w rfl rej, fun _ ok => by cases ok⟩
  | joined m n stored _ absent got saved applied =>
    refine ⟨newSub_booked group absent got saved applied, ?_⟩
    rintro modeChanged rfl joined - new
    exact newSub_seated group absent got applied joined fun named => new named (absent_seats absent)
  | changed m old new ownerChange stored handed asked cached alive got saved owned applied =>
    refine ⟨updatedSub_booked cached got alive asked (handed_books cached got saved owned) applied,
      ?_⟩
    rintro modeChanged rfl joined wants -
    exact updatedSub_seated cached got applied joined wants
  | interrupted _ _ _ _ _ passed rej _ _ _ _ saved stopped same answer =>
    rw [same, answer]
    rcases changeOwner_books stopped with kept | ⟨-, ok, -⟩
    · exact ⟨refused passed (kept.trans (saveUpdatedSub_books saved).1) rej, fun _ ok => by cases ok⟩
    · cases ok

theorem newSubData_joins (group : w.topic.cat = .grp)
    (unfiled : w.store.active (r.tname, r.asUid) = false)
    (asks : r.asChan = false → ∀ mode, orDefault cfg w.topic r.asLvl m = .ok mode → mode.isJoiner)
    (got : newSubData cfg fail w r m cached = .ok (.ok n)) : n.userData.modeWant.isJoiner := by
  have join : modeJoin.isJoiner := by decide
  obtain ⟨modes, found, -, -, privateData, rfl⟩ := newSubData_ok got
  have want : modes.userData.revived.modeWant = modes.userData.modeWant := by
    unfold PerUserData.revived
    split_ifs <;> rfl
  rw [want]
  simp only [newSubModes, group, reduceCtorEq, if_false] at found
  split at found
  · next named =>
    unfold newChannelSub at found
    split at found
    · cases found
    · cases found
      have unstored : w.store.getSub .channel r.asUid false = none := by
        cases stored : w.store.getSub .channel r.asUid false with
        | none => rfl
        | some row =>
          have alive : row.deletedAt = false := by simpa using (Option.filter_eq_some_iff.mp stored).2
          rw [SubRequest.tname, if_pos named, active_of_getSub stored alive] at unfiled
          cases unfiled
      dsimp only
      rw [unstored]
      split
      · simp [isJoiner_or, join]
      · decide
  next named =>
  unfold newOtherSub at found
  split at found
  · cases found
  · obtain ⟨given, -, found⟩ := bind_ok found
    obtain ⟨wanted, mode, found⟩ := bind_ok found
    cases found
    exact asks (Bool.not_eq_true _ ▸ named) wanted mode

theorem applySub_joins (wanted : userData.modeWant.isJoiner) (given : userData.modeGiven.isJoiner)
    (ran : applySub w r oldWant oldGiven userData = .ok (w', res)) :
    ∃ modeChanged, res = .ok modeChanged ∧ hasJoined modeChanged := by
  obtain ⟨applied, reported, ran⟩ := bind_ok ran
  rw [if_neg (by simp [wanted]), if_neg (by simp [given])] at ran
  cases ran
  refine ⟨_, rfl, ?_⟩
  split
  · rw [hasJoined_ofPud, PerUserData.mode, isJoiner_and, wanted, given]
    rfl
  · rfl

/-- The user asks to join, or asks for nothing and the default lets everybody join. -/
def asksToJoin (cfg : Config) (t : Topic) (r : SubRequest) : Bool :=
  match requestedMode r.want with
  | .error _ => true
  | .ok m =>
    match orDefault cfg t r.asLvl m with
    | .error _ => true
    | .ok mode => mode.isJoiner

theorem thisUserSub_joins (group : w.topic.cat = .grp)
    (absent : ∀ pud, w.topic.perUser.lookup r.asUid = some pud → pud.deleted)
    (unfiled : w.store.active (r.tname, r.asUid) = false)
    (asks : r.asChan = false → asksToJoin cfg w.topic r)
    (ran : thisUserSub cfg fail w r = .ok (w', res)) :
    w'.books = w.books ∨ ∃ modeChanged, res = .ok modeChanged ∧ hasJoined modeChanged := by
  cases thisUserSub_outcome ran with
  | refused rej _ same => exact .inl (same ▸ books_refuse ..)
  | joined m n stored asked _ got saved applied =>
    obtain ⟨-, -, given, -⟩ := newSubData_seat (fun _ => group) absent got
    have wants : r.asChan = false → ∀ mode, orDefault cfg w.topic r.asLvl m = .ok mode →
        mode.isJoiner := by
      intro named mode default
      have joins := asks named
      simpa only [asksToJoin, asked, default] using joins
    exact .inr (applySub_joins (newSubData_joins group unfiled wants got) given applied)
  | changed _ old _ _ _ _ _ cached present
  | interrupted _ old _ _ _ _ _ _ cached present => cases present.symm.trans (absent old cached)

/-- What a request for the subscription of another user may do; `mode` is the mode given. -/
inductive GrantBooked (b : Books) (target : Uid) (mode : String) : Books → Prop
  | kept : GrantBooked b target mode b
  | invited (s : Seat) (absent : ∀ old, b.seats target = some old → old.deleted)
      (alive : s.deleted = false)
      (reader : s.isChan = false) (unread : s.readID = 0) :
      GrantBooked b target mode (((b.file (.topic, target) true).tell
        (.register target true :: unreadChange target false s b.lastID)).seat target (some s))
  | changed (old s : Seat) (after : Option Seat) (taken : b.seats target = some old)
      (present : old.deleted = false)
      (alive : s.deleted = false) (reader : s.isChan = old.isChan) (joins : s.joins = old.joins)
      (unread : s.readID = old.readID) (settled : after = some s ∨ after = s.detached)
      (asked : mode = "" → s.reads = old.reads) :
      GrantBooked b target mode
        ((b.tell (unreadChange target old.reads s b.lastID)).seat target after)

variable {r : GrantRequest}

theorem applyGrant_books (taken : w.books.seats r.target = some userData.seat)
    (same : oldGiven = userData.modeGiven → (oldWant &&& oldGiven).isReader = userData.seat.reads)
    (ran : applyGrant w r oldWant oldGiven userData = .ok (w', res)) :
    ∃ after, (after = some userData.seat ∨ after = userData.seat.detached) ∧
      w'.books = (w.books.tell
        (unreadChange r.target (oldWant &&& oldGiven).isReader userData.seat w.topic.lastID)).seat
        r.target after := by
  obtain ⟨applied, reported, ran⟩ := bind_ok ran
  have told : applied.books = w.books.tell
      (unreadChange r.target (oldWant &&& oldGiven).isReader userData.seat w.topic.lastID) := by
    rw [books_reportChange reported]
    by_cases changed : oldGiven = userData.modeGiven
    · rw [same changed, unreadChange_same]
      simp
    · simp [changed]
  have sits : applied.books.seats r.target = some userData.seat := by
    rw [told]
    exact taken
  dsimp only at ran
  split at ran
  · obtain ⟨evicted, gone, ran⟩ := bind_ok ran
    cases ran
    refine ⟨_, .inr rfl, ?_⟩
    rw [evictUser_books gone, forgetUser_detached, sits, told]
    rfl
  · cases ran
    refine ⟨_, .inl rfl, ?_⟩
    rw [← sits, ← told, Books.seat_self]

theorem inviteUser_books
    (ran : inviteUser cfg fail w r modeGiven = .ok (.ok (w', userData))) :
    w'.books = ((w.books.file (.topic, r.target) true).tell [.register r.target true]).seat r.target
        (some userData.seat) ∧
      w'.topic.lastID = w.topic.lastID ∧ userData.seat.deleted = false ∧
      userData.seat.isChan = false ∧
      userData.seat.readID = 0 := by
  obtain ⟨want, given, -, -, -, rfl, rfl⟩ := inviteUser_ok ran
  refine ⟨?_, rfl, rfl, rfl, rfl⟩
  have seated :=
    books_setPud { w with store := w.store.createSub .topic r.target want given none } r.target
    { modeGiven := given, modeWant := want }
  rw [books_createSub] at seated
  rw [World.invite, books_emit]
  exact congrArg (Books.tell · _) seated

theorem changeGiven_books (cached : w.topic.perUser.lookup r.target = some old)
    (ran : changeGiven fail w r modeGiven old = .ok (w', new)) :
    w'.books = w.books.seat r.target (some new.seat) ∧ w'.topic.lastID = w.topic.lastID ∧
      new = { old with modeGiven := new.modeGiven } := by
  have taken : w.books.seats r.target = some old.seat := by simp [World.books, cached]
  rcases changeGiven_ok ran with ⟨-, rfl, rfl⟩ | ⟨-, -, -, -, rfl, rfl⟩
  · rw [← taken, Books.seat_self]
    exact ⟨rfl, rfl, rfl⟩
  · refine ⟨?_, rfl, rfl⟩
    refine Eq.trans
      (books_setPud { w with store := w.store.updateSub .topic r.target _ } r.target _) ?_
    exact congrArg (Books.seat · r.target _) (books_updateSub w .topic r.target fun _ => rfl)

theorem changeGiven_unset
    (ran : changeGiven fail w r modeGiven old = .ok (w', new)) (unset : modeGiven = modeUnset) :
    new = old := by
  rw [changeGiven, if_pos (.inl unset)] at ran
  cases ran
  rfl

theorem grantedMode_unset (checked : grantedMode cfg t r = .ok modeGiven)
    (unset : r.mode = "") : modeGiven = modeUnset := by
  have named : ¬(r.mode ≠ "" ∧ t.cat = .p2p) := fun named => named.1 unset
  unfold grantedMode at checked
  dsimp only at checked
  split_ifs at checked
  split at checked
  · cases checked
  · next mode asked =>
    split_ifs at checked
    cases checked
    exact requestedMode_unset asked unset

theorem anotherUserSub_books (ran : anotherUserSub cfg fail w r = .ok (w', res)) :
    GrantBooked w.books r.target r.mode w'.books := by
  cases anotherUserSub_outcome ran with
  | refused rej same =>
    rw [same, books_refuse]
    exact .kept
  | invited m stored userData checked missing made applied =>
    obtain ⟨view, lastID, alive, reader, unread⟩ := inviteUser_books made
    have unset : (modeUnset &&& modeUnset).isReader = false := by decide
    obtain ⟨after, settled, applied⟩ := applyGrant_books (by rw [view]; simp [Books.seat])
      (fun given => by
        have bit : modeUnset.getLsbD 1 = false := by decide
        simp only [PerUserData.seat, PerUserData.mode, ← given, isReader_eq, BitVec.getLsbD_and, bit,
          Bool.false_and]) applied
    have after : after = some userData.seat := by
      rcases settled with rfl | rfl
      · rfl
      · simp [Seat.detached, reader]
    subst after
    have absent : ∀ old, w.books.seats r.target = some old → old.deleted := by
      intro old taken
      obtain ⟨pud, cached, rfl⟩ := Option.map_eq_some_iff.mp taken
      exact missing pud cached
    have told : GrantBooked w.books r.target r.mode _ :=
      .invited userData.seat absent alive reader unread
    rw [applied, view, unset, lastID, Books.seat_tell, Books.seat_seat, Books.tell_tell]
    exact told
  | changed m old userData stored checked cached present granted applied =>
    obtain ⟨view, lastID, kept⟩ := changeGiven_books cached granted
    have reads (m : AccessMode) : (old.modeWant &&& m).isReader = (m &&& old.modeWant).isReader := by
      rw [BitVec.and_comm]
    have want : userData.modeWant = old.modeWant := by rw [kept]
    obtain ⟨after, settled, applied⟩ := applyGrant_books (by rw [view]; simp [Books.seat])
      (fun same => by
        rw [reads, same, ← want]
        rfl) applied
    have taken : w.books.seats r.target = some old.seat := by simp [World.books, cached]
    have told := GrantBooked.changed old.seat userData.seat after taken present
      (by rw [kept]; exact present) (by rw [kept]; rfl) (by rw [kept]; rfl)
      (by rw [kept]; rfl) settled
      fun unset => by rw [changeGiven_unset granted (grantedMode_unset checked unset)]
    rw [applied, view, lastID, Books.seat_tell, Books.seat_seat, reads]
    exact told

/-- What is told of the messages that a user leaves unread. -/
def unreadLeft (uid : Uid) (s : Seat) (lastID : Int) : List Report :=
  bif s.reads then [.unread uid (s.readID - lastID)] else []

theorem books_parting (w : World) (store : Store) (sess : Session) (reply : Reply) (uid actor : Uid)
    (asChan : Bool)
    (pud : PerUserData) : (w.parting store sess reply uid actor asChan pud).books =
      ({ w with store := store } : World).books.tell
        (bif asChan then [] else unreadLeft uid pud.seat w.topic.lastID) := by
  unfold unreadLeft
  cases asChan <;> cases reader : pud.mode.isReader <;>
    simp [World.parting, World.books, Books.tell, List.filterMap_cons, Effect.report,
      PerUserData.seat, reader]

/-- What the removal of a user by an administrator may do. -/
inductive RemovalBooked (b : Books) (user : Uid) : Books → Prop
  | kept : RemovalBooked b user b
  | removed (s : Seat) (taken : b.seats user = some s) :
      RemovalBooked b user (((b.file (.topic, user) false).tell
        (unreadLeft user s b.lastID ++ unregistration user (some s))).seat user none)

theorem replyDelSub_books {res : Except String Unit}
    (ran : replyDelSub fail w sess asUid original user = .ok (w', res)) :
    RemovalBooked w.books user w'.books := by
  cases replyDelSub_outcome ran with
  | refused rej same =>
    rw [same, books_refuse]
    exact .kept
  | removed pud reply checked gone =>
    obtain ⟨cached, other, -⟩ := deletableSub_ok checked
    have taken : w.books.seats user = some pud.seat := by simp [World.books, cached]
    have filed : ({ w with store := (w.store.deleteSub .topic user).getD w.store } : World).books =
        w.books.file (.topic, user) false := by
      cases deleted : w.store.deleteSub .topic user with
      | some store => exact (books_deleteSub deleted).1
      | none =>
        rw [← books_deleteSub_none deleted]
        exact (Books.file_self w.books _).symm
    have told :=
      (books_parting w _ sess reply user asUid false pud).trans (congrArg (Books.tell · _) filed)
    have sits := (congrArg (Books.seats · user) told).trans taken
    rw [evictUser_books gone, forgetUser_unsubscribed, World.parting_topic, if_neg other, sits,
      told, Books.tell_tell]
    exact .removed pud.seat taken

/-- The name under which a seat is subscribed. -/
def Seat.name (s : Seat) : Addressing := bif s.isChan then .channel else .topic

/-- What an unsubscription may do. -/
inductive LeaveBooked (b : Books) (uid : Uid) (asChan : Bool) : Books → Prop
  | kept : LeaveBooked b uid asChan b
  | left (s : Seat) (seated : s = (b.seats uid).getD {}) (active : b.active (s.name, uid))
      (p2p : b.cat ≠ .p2p) :
      LeaveBooked b uid asChan (((b.file (s.name, uid) false).tell
        ((bif asChan then [] else unreadLeft uid s b.lastID) ++
          unregistration uid (b.seats uid))).seat uid none |>.count
          (if b.cat = .grp then -1 else 0))
  | leftP2P (s : Seat) (seated : s = (b.seats uid).getD {}) (active : b.active (s.name, uid))
      (p2p : b.cat = .p2p) :
      LeaveBooked b uid asChan (((b.file (s.name, uid) false).tell
        (bif asChan then [] else unreadLeft uid s b.lastID)).seat uid
        (some { s with deleted := true }))

theorem pud_seat (w : World) (uid : Uid) : (w.topic.pud uid).seat = (w.books.seats uid).getD {} := by
  simp only [World.books, Topic.pud, GoMap.getD]
  cases w.topic.perUser.lookup uid <;> rfl

theorem replyLeaveUnsub_books {res : Except String Unit}
    (ran : replyLeaveUnsub fail w sess asUid original = .ok (w', res)) :
    LeaveBooked w.books asUid (original == .channel && w.topic.isChan) w'.books ∧
      (w'.books ≠ w.books → w.topic.owner ≠ asUid) := by
  cases replyLeaveUnsub_outcome ran with
  | refused rej same =>
    rw [same, books_refuse]
    exact ⟨.kept, fun changed => absurd rfl changed⟩
  | removed asChan store evicted other verified deleted gone same =>
    refine ⟨?_, fun _ => other⟩
    have named : (original == .channel && w.topic.isChan) = asChan := by
      cases original with
      | topic =>
        cases verified
        rfl
      | channel =>
        simp only [Topic.verifyChannelAccess] at verified
        split at verified
        · next channel =>
          cases verified
          simp [channel]
        · cases verified
    have name : (if (w.topic.pud asUid).isChan then Addressing.channel else .topic) =
        ((w.books.seats asUid).getD {}).name := by
      rw [← pud_seat]
      simp only [Seat.name, PerUserData.seat]
      cases (w.topic.pud asUid).isChan <;> rfl
    rw [name] at deleted
    obtain ⟨filed, active⟩ := books_deleteSub deleted
    have told := (books_parting w store sess .noErr asUid asUid asChan (w.topic.pud asUid)).trans
      (congrArg (Books.tell · _) filed)
    rw [pud_seat] at told
    have counted : ({ evicted with topic := evicted.topic.countUnsub } : World).books =
        evicted.books.count (if evicted.books.cat = .grp then -1 else 0) := by
      have number : evicted.topic.countUnsub.subCnt =
          evicted.topic.subCnt + if evicted.topic.cat = .grp then -1 else 0 := by
        simp only [Topic.countUnsub]
        split_ifs <;> omega
      ext1
      all_goals try rfl
      exact number
    have gone := (evictUser_books gone).trans (forgetUser_unsubscribed ..)
    rw [told, World.parting_topic] at gone
    have cat : evicted.books.cat = w.topic.cat := by
      rw [gone]
      split <;> rfl
    rw [named, same, counted, cat, gone]
    by_cases p2p : w.topic.cat = .p2p
    · have zero (b : Books) : b.count 0 = b := by simp [Books.count]
      have group : w.topic.cat ≠ .grp := fun group => by cases p2p.symm.trans group
      rw [if_pos p2p, if_neg group, zero]
      exact .leftP2P _ rfl active p2p
    · rw [if_neg p2p, Books.tell_tell]
      exact .left _ rfl active p2p

end LastochkaServer.Source
