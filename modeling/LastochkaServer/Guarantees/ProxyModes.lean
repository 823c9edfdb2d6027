import LastochkaServer.Lib.Run
import LastochkaServer.Source.Topic.Proxy

/-!
# A proxy topic follows its master

The want and given modes of the subscribers of a master topic change one at a time: a user
subscribes or is invited, modes are granted, changed or banned to `N`, a subscription is deleted.
Each change is announced by `notifySubChange` with the old and the new modes that its callers pass
(`server/topic.go:1826, 1863, 2078, 3465, 3548`). A proxy that applies the announcements in order
has the modes of the master after every history (`proxy_follows_master`).

The modes of the master are made of permissions; a user who is not subscribed has no access at the
proxy. Channel readers are not announced to other users and are left out.
-/

namespace LastochkaServer.Guarantees.ProxyModes

open Lib Lib.Run Source Source.AccessMode

/-- The modes of a subscription. -/
structure Modes where
  want : AccessMode
  given : AccessMode
  want_valid : want.Valid
  given_valid : given.Valid

/-- The modes that a subscription gives, none if there is no subscription. -/
def wantOf (modes : Option Modes) : AccessMode := modes.elim modeNone (·.want)
def givenOf (modes : Option Modes) : AccessMode := modes.elim modeNone (·.given)

/-- What happens to the subscription of a user. -/
inductive Change
  /-- The user subscribes, for the first time or again. -/
  | subscribed (modes : Modes)
  /-- Another user invites the user. -/
  | invited (modes : Modes)
  /-- Modes are changed by the user or by an approver. -/
  | changed (modes : Modes)
  | unsubscribed

structure SubChange where
  uid : Uid
  actor : Uid
  what : Change

/-- The subscriptions of the master topic. -/
abbrev Master := Uid → Option Modes

def Change.after : Change → Option Modes
  | .subscribed modes | .invited modes | .changed modes => some modes
  | .unsubscribed => none

def Master.apply (m : Master) (c : SubChange) : Master := Function.update m c.uid c.what.after

/-- The announcement of a change, with the modes that the callers of `notifySubChange` pass. -/
def announcement (name : String) (m : Master) (c : SubChange) : Wire.MsgServerPres :=
  let old := m c.uid
  match c.what with
  | .subscribed modes => acsPres name c.uid c.actor modeNone modeNone modes.want modes.given
  | .invited modes => acsPres name c.uid c.actor modeUnset modeUnset modes.want modes.given
  | .changed modes => acsPres name c.uid c.actor (wantOf old) (givenOf old) modes.want modes.given
  | .unsubscribed => acsPres name c.uid c.actor (wantOf old) (givenOf old) modeUnset modeUnset

/-- A master and one of its proxies. -/
structure Pair where
  master : Master
  proxy : Topic

def Pair.step (name : String) (p : Pair) (c : SubChange) : Pair where
  master := p.master.apply c
  proxy := p.proxy.receivePres (announcement name p.master c)

/-- The modes that a proxy has for one user. -/
def proxyModes (t : Topic) (uid : Uid) : AccessMode × AccessMode :=
  ((t.pud uid).modeWant, (t.pud uid).modeGiven)

/-- The proxy has the modes of the master. -/
def InSync (p : Pair) : Prop :=
  ∀ uid, uid ≠ 0 → proxyModes p.proxy uid = (wantOf (p.master uid), givenOf (p.master uid))

theorem wantOf_valid (modes : Option Modes) : (wantOf modes).Valid := by
  cases modes with
  | none => decide
  | some modes => exact modes.want_valid

theorem givenOf_valid (modes : Option Modes) : (givenOf modes).Valid := by
  cases modes with
  | none => decide
  | some modes => exact modes.given_valid

theorem pud_setPud (t : Topic) (uid v : Uid) (pud : PerUserData) :
    (t.setPud uid pud).pud v = if v = uid then pud else t.pud v := by
  unfold Topic.setPud Topic.pud GoMap.getD
  split_ifs with same
  · rw [same, AList.lookup_insert]
    rfl
  · rw [AList.lookup_insert_ne same]

variable {t : Topic} {name : String} {p : Pair}

/-- The proxy applies both texts of an announcement to the modes of the user it names. -/
theorem receivePres_modes {uid actor : Uid}
    {oldWant oldGiven newWant newGiven want given : AccessMode} (someone : uid ≠ 0)
    (wanted : (t.pud uid).modeWant.applyMutation (changeText oldWant newWant) = .ok want)
    (granted : (t.pud uid).modeGiven.applyMutation (changeText oldGiven newGiven) = .ok given)
    (v : Uid) :
    proxyModes (t.receivePres (acsPres name uid actor oldWant oldGiven newWant newGiven)) v =
      if v = uid then (want, given) else proxyModes t v := by
  by_cases empty : changeText oldWant newWant ≠ "" ∨ changeText oldGiven newGiven ≠ ""
  · have received : t.receivePres (acsPres name uid actor oldWant oldGiven newWant newGiven) =
        t.setPud uid { t.pud uid with modeWant := want, modeGiven := given } := by
      simp only [Topic.receivePres, acsPres, packAcs, if_pos empty, if_true,
        Topic.updateAcsFromPresMsg, parseUserId_userId someone, if_neg someone, wanted, granted]
    rw [received, proxyModes, pud_setPud]
    split_ifs <;> rfl
  · -- Nothing has changed and nothing is sent.
    obtain ⟨no_want, no_given⟩ := not_or.mp empty
    rw [not_not.mp no_want] at wanted
    rw [not_not.mp no_given] at granted
    cases wanted
    cases granted
    have received : t.receivePres (acsPres name uid actor oldWant oldGiven newWant newGiven) = t := by
      simp [Topic.receivePres, acsPres, packAcs, if_neg empty]
    rw [received]
    split_ifs with same
    · rw [same]
      rfl
    · rfl

theorem announcement_src (name : String) (m : Master) (c : SubChange) :
    (announcement name m c).src = userId c.uid := by
  obtain ⟨uid, actor, what⟩ := c
  cases what <;> rfl

theorem receivePres_nobody {pres : Wire.MsgServerPres} (nobody : pres.src = userId 0) :
    t.receivePres pres = t := by
  have zero : parseUserId (userId 0) = 0 := by decide
  unfold Topic.receivePres Topic.updateAcsFromPresMsg
  cases pres.acs with
  | none => rfl
  | some dacs => simp [nobody, zero]

theorem step_modes (synced : InSync p) (c : SubChange) (someone : c.uid ≠ 0) (v : Uid) :
    proxyModes (p.step name c).proxy v =
      if v = c.uid then (wantOf c.what.after, givenOf c.what.after) else proxyModes p.proxy v := by
  obtain ⟨uid, actor, what⟩ := c
  have same := synced uid someone
  have want : (p.proxy.pud uid).modeWant = wantOf (p.master uid) := congrArg Prod.fst same
  have given : (p.proxy.pud uid).modeGiven = givenOf (p.master uid) := congrArg Prod.snd same
  have want_valid := wantOf_valid (p.master uid)
  have given_valid := givenOf_valid (p.master uid)
  cases what with
  | subscribed modes =>
    exact receivePres_modes someone (applyMutation_changeText_fresh (.inl rfl) modes.want_valid _)
      (applyMutation_changeText_fresh (.inl rfl) modes.given_valid _) v
  | invited modes =>
    exact receivePres_modes someone (applyMutation_changeText_fresh (.inr rfl) modes.want_valid _)
      (applyMutation_changeText_fresh (.inr rfl) modes.given_valid _) v
  | changed modes =>
    refine receivePres_modes someone ?_ ?_ v
    · rw [want]
      exact applyMutation_changeText want_valid modes.want_valid
    · rw [given]
      exact applyMutation_changeText given_valid modes.given_valid
  | unsubscribed =>
    exact receivePres_modes someone (applyMutation_changeText_unset _ _)
      (applyMutation_changeText_unset _ _) v

theorem step_inSync (c : SubChange) (synced : InSync p) : InSync (p.step name c) := by
  intro v other
  have master : (p.step name c).master v = if v = c.uid then c.what.after else p.master v :=
    Function.update_apply ..
  have proxy : proxyModes (p.step name c).proxy v =
      if v = c.uid then (wantOf c.what.after, givenOf c.what.after) else proxyModes p.proxy v := by
    by_cases someone : c.uid = 0
    · have ignored : (p.step name c).proxy = p.proxy :=
        receivePres_nobody ((announcement_src name p.master c).trans (congrArg userId someone))
      rw [ignored, someone, if_neg other]
    · exact step_modes synced c someone v
  rw [master, proxy]
  split_ifs
  · rfl
  · exact synced v other

/-- After every history of changes the proxy has the modes of the master, and a second copy of an
announcement changes nothing. -/
theorem proxy_follows_master (name : String) (p : Pair) (synced : InSync p)
    (history : List SubChange) :
    InSync (run (Pair.step name) p history) ∧
      ∀ c, let pres := announcement name (run (Pair.step name) p history).master c
        let received := (run (Pair.step name) p history).proxy.receivePres pres
        received.receivePres pres = received :=
  ⟨run_preserves (fun _ c => step_inSync c) synced history, fun _ => receivePres_again _ _⟩

/-- A topic without subscribers and its proxy. -/
def vacant : Pair where
  master _ := none
  proxy := { cat := .grp }

theorem vacant_inSync : InSync vacant := fun _ _ => rfl

/-- A user subscribes, is banned, unsubscribes and subscribes again with other modes. -/
def banAndReturn : List SubChange :=
  let user : Uid := 1
  let owner : Uid := 2
  let full : Modes := ⟨modeCPublic, modeCPublic, by decide, by decide⟩
  let banned : Modes := ⟨modeCPublic, modeNone, by decide, by decide⟩
  let reader : Modes := ⟨modeJoin ||| modeRead, modeCPublic, by decide, by decide⟩
  [⟨user, user, .subscribed full⟩, ⟨user, owner, .changed banned⟩, ⟨user, user, .unsubscribed⟩,
    ⟨user, user, .subscribed reader⟩]

theorem banAndReturn_follows : InSync vacant ∧ InSync (run (Pair.step "grpA") vacant banAndReturn) :=
  ⟨vacant_inSync, (proxy_follows_master "grpA" vacant vacant_inSync banAndReturn).1⟩

end LastochkaServer.Guarantees.ProxyModes
