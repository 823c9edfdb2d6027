import LastochkaServer.Source.Topic.Init

/-!
# The roster of a topic that is loaded

What `loadSubscribers` of `server/init_topic.go:817-845` makes of the stored rows, and the loader of
the `sys` topic (`server/init_topic.go:675-706`). `Topics.GetSubs` returns at most `maxResults`
rows, so a loaded card always comes from an active row, while an active row is sure to have a card
only when all fit.
-/

namespace LastochkaServer.Source

open Lib AccessMode

/-- The card of a loaded subscriber. -/
def Entry.card (e : Entry) : Card where
  want := e.want
  given := e.given
  readID := e.readID
  recvID := e.recvID
  delID := e.delID

theorem getSubs_active {cfg : Config} {s : Store} {order : RowOrder} {row : Uid × Subscription}
    (loaded : row ∈ s.getSubs cfg order) : row ∈ s.activeSubs :=
  (order.perm s.activeSubs).mem_iff.mp (List.mem_of_mem_take loaded)

namespace Topic

theorem loadSubscribers_shape (t : Topic) (subs : List (Uid × Subscription)) :
    ∃ perUser owner, t.loadSubscribers subs = { t with perUser := perUser, owner := owner } := by
  induction subs generalizing t with
  | nil => exact ⟨t.perUser, t.owner, rfl⟩
  | cons row rest ih =>
    have first :
        ∃ perUser owner, t.loadSubscriber row = { t with perUser := perUser, owner := owner } := by
      unfold loadSubscriber
      dsimp only
      split_ifs
      · exact ⟨_, _, rfl⟩
      · exact ⟨_, t.owner, rfl⟩
    obtain ⟨perUser, owner, loaded⟩ := first
    obtain ⟨perUser', owner', rest⟩ := ih (t.loadSubscriber row)
    refine ⟨perUser', owner', rest.trans ?_⟩
    rw [loaded]

end Topic

section

variable {cfg : Config} {order : RowOrder} {w : World} {t : Topic}

theorem loaded_card {u : Uid} {sub : Subscription} (blank : t.perUser = ∅)
    (stored : w.store.subs.lookup (.topic, u) = some sub) :
    ((t.loadSubscribers (w.store.getSubs cfg order)).perUser.lookup u).map PerUserData.card =
      if (u, sub) ∈ w.store.getSubs cfg order then some sub.entry.card else none := by
  have agree : ∀ sub', (u, sub') ∈ w.store.getSubs cfg order → sub' = sub := by
    intro sub' loaded
    have active := (mem_activeSubs w.store u sub').mp (getSubs_active loaded)
    rw [stored] at active
    exact (Option.some.inj active.1).symm
  rw [Topic.loadSubscribers_lookup t _ u sub agree, blank]
  split <;> rfl

theorem loaded_absent {u : Uid} (blank : t.perUser = ∅)
    (missing : w.store.subs.lookup (.topic, u) = none) :
    ((t.loadSubscribers (w.store.getSubs cfg order)).perUser.lookup u).map PerUserData.card =
    none := by
  have absent : ∀ sub, (u, sub) ∉ w.store.getSubs cfg order := by
    intro sub loaded
    have active := (mem_activeSubs w.store u sub).mp (getSubs_active loaded)
    rw [missing] at active
    cases active.1
  rw [Topic.loadSubscribers_lookup t _ u ⟨0, 0, false, 0, 0, 0, none⟩ fun sub loaded =>
    absurd loaded (absent sub), if_neg (absent _), blank]
  rfl

theorem loaded_sound {u : Uid} {card : Card} (blank : t.perUser = ∅)
    (cached : ((t.loadSubscribers (w.store.getSubs cfg order)).perUser.lookup u).map
      PerUserData.card = some card) :
    ∃ e, w.roster.rows (.topic, u) = some e ∧ e.active ∧ card = e.card := by
  cases stored : w.store.subs.lookup (.topic, u) with
  | none =>
    rw [loaded_absent blank stored] at cached
    cases cached
  | some sub =>
    rw [loaded_card blank stored] at cached
    split at cached
    · next loaded =>
      cases cached
      have active := (mem_activeSubs w.store u sub).mp (getSubs_active loaded)
      exact ⟨sub.entry, by simp [World.roster, stored], by simp [Subscription.entry, active.2], rfl⟩
    · cases cached

end

/-- The `sys` topic before its subscribers are loaded: it has no owner, and its default modes are
fixed. -/
def Topic.blankSys (s : Store) : Topic where
  cat := .sys
  xoriginal := "sys"
  lastID := s.seqId
  accessAuth := modeWrite
  accessAnon := modeWrite

def initTopicSys (cfg : Config) (order : RowOrder) (s : Store) : Topic :=
  ((Topic.blankSys s).loadSubscribers (s.getSubs cfg order)).computePerUserAcsUnion

end LastochkaServer.Source
