import LastochkaServer.Source.AccessDelta
import LastochkaServer.Source.TopicName
import LastochkaServer.Source.Wire.Messages

/-!
# Access modes at a proxy topic

A topic lives at its master node; the other nodes of a cluster that have sessions attached to it
keep a proxy topic with a copy of the access modes. `notifySubChange` of the master
(`server/topic.go:3631-3675`) announces every change, and `proxyMasterResponse` and
`updateAcsFromPresMsg` of the proxy (`server/topic_proxy.go:177-183, 287-310`) apply it.

Modelled here is the announcement that names the user in `src`. The others that `notifySubChange`
sends name no user and are ignored by a proxy.
-/

namespace LastochkaServer.Source

open AccessMode

/-- How `notifySubChange` writes the change of a mode: as a delta if there is something to start
from. -/
def changeText (old new : AccessMode) : String :=
  if new.isDefined then
    if old.isDefined && !old.isZero then old.delta new else new.string
  else modeNone.string

def packAcs (dWant dGiven : String) : Option Wire.MsgAccessMode :=
  if dWant ≠ "" ∨ dGiven ≠ "" then some { want := dWant, given := dGiven } else none

/-- The announcement that `notifySubChange` makes with `presSubsOnline`; the target is the
source. -/
def acsPres (xoriginal : String) (uid actor : Uid) (oldWant oldGiven newWant newGiven : AccessMode) :
    Wire.MsgServerPres :=
  { topic := xoriginal
    what := "acs"
    src := userId uid
    acs := packAcs (changeText oldWant newWant) (changeText oldGiven newGiven)
    acsActor := if userId actor = userId uid then "" else userId actor }

/-- `updateAcsFromPresMsg`; a user who is not cached has the zero modes. -/
def Topic.updateAcsFromPresMsg (t : Topic) (src : String) (dacs : Wire.MsgAccessMode) : Topic :=
  let uid := parseUserId src
  if uid = 0 then t
  else
    let pud := t.pud uid
    match pud.modeWant.applyMutation dacs.want, pud.modeGiven.applyMutation dacs.given with
    | .ok want, .ok given => t.setPud uid { pud with modeWant := want, modeGiven := given }
    | _, _ => t

/-- What `proxyMasterResponse` does to the modes. -/
def Topic.receivePres (t : Topic) (pres : Wire.MsgServerPres) : Topic :=
  match pres.acs with
  | some dacs => if pres.what = "acs" then t.updateAcsFromPresMsg pres.src dacs else t
  | none => t

/-- Whatever the notification says, a second copy of it changes nothing. -/
theorem updateAcsFromPresMsg_again (t : Topic) (src : String) (dacs : Wire.MsgAccessMode) :
    (t.updateAcsFromPresMsg src dacs).updateAcsFromPresMsg src dacs =
    t.updateAcsFromPresMsg src dacs := by
  unfold Topic.updateAcsFromPresMsg
  dsimp only
  by_cases nobody : parseUserId src = 0
  · rw [if_pos nobody, if_pos nobody]
  · rw [if_neg nobody, if_neg nobody]
    cases want : (t.pud (parseUserId src)).modeWant.applyMutation dacs.want with
    | error e => simp [want]
    | ok newWant =>
      cases given : (t.pud (parseUserId src)).modeGiven.applyMutation dacs.given with
      | error e => simp [given]
      | ok newGiven =>
        simp [Topic.pud, Topic.setPud, Lib.GoMap.getD, applyMutation_again want,
          applyMutation_again given]

theorem receivePres_again (t : Topic) (pres : Wire.MsgServerPres) :
    (t.receivePres pres).receivePres pres = t.receivePres pres := by
  unfold Topic.receivePres
  cases pres.acs with
  | none => rfl
  | some dacs =>
    split_ifs
    · exact updateAcsFromPresMsg_again t pres.src dacs
    · rfl

theorem applyMutation_changeText {old new : AccessMode} (from_valid : old.Valid)
    (to_valid : new.Valid) :
    old.applyMutation (changeText old new) = .ok new := by
  rw [changeText, if_pos to_valid.isDefined, from_valid.isDefined, Bool.true_and]
  split_ifs
  · exact applyMutation_delta from_valid to_valid
  · exact applyMutation_string to_valid old

/-- Where there is nothing to start from, the mode itself is sent. -/
theorem applyMutation_changeText_fresh {old new : AccessMode}
    (fresh : old = modeNone ∨ old = modeUnset)
    (to_valid : new.Valid) (m : AccessMode) : m.applyMutation (changeText old new) = .ok new := by
  have whole : changeText old new = new.string := by
    rw [changeText, if_pos to_valid.isDefined]
    rcases fresh with rfl | rfl <;> exact if_neg (by decide)
  rw [whole]
  exact applyMutation_string to_valid m

theorem applyMutation_changeText_unset (old m : AccessMode) :
    m.applyMutation (changeText old modeUnset) = .ok modeNone := by
  have none_left : changeText old modeUnset = modeNone.string := if_neg (by decide)
  rw [none_left]
  exact applyMutation_string (by decide) m

end LastochkaServer.Source
