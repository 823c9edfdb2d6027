import LastochkaServer.Source.Topic.Calls

/-!
# Calls and sessions

A topic whose users call each other from several devices: publishes, call events, the timeout of a
call and everything that sessions do, with the parts of `registerSession` and `unregisterSession`
(`server/topic.go:306-380`) that concern the call.

Requests that touch neither sessions nor calls are left out, and so is the reply to a session that
leaves after the end of its call has already detached it.
-/

namespace LastochkaServer.Source

open Lib

structure Line where
  service : Service
  saves : Nat := 0
  casts : Nat := 0

inductive LineEvent
  | publish (r : PubRequest)
  | note (r : CallNote)
  | session (fail : Faults) (e : SessionEvent)
  /-- Nobody has answered in time. -/
  | callTimeout

namespace Line

def topic (l : Line) : Topic := l.service.world.topic

def call (l : Line) : Option VideoCall := l.topic.currentCall

def server (l : Line) : Server := { world := l.service.world, saves := l.saves, casts := l.casts }

/-- The line after a handler of the topic. A session that has been dropped has lost its link. -/
def setServer (l : Line) (v : Server) : Line :=
  let dropped (s : SessionKey) : Bool :=
    (l.topic.sessions.lookup s).isSome && (v.topic.sessions.lookup s).isNone
  { service :=
      { l.service with world := v.world, linked := fun s => l.service.linked s && !dropped s }
    saves := v.saves
    casts := v.casts }

end Line

/-- `registerSession`, which also binds a participant of a call to the session. -/
def Line.register (cfg : Config) (fail : Faults) (l : Line) (r : SubRequest) : Line :=
  let registered := registerSession cfg fail l.service r
  let service := registered.1
  if registered.2 then
    let topic := refreshCallPartySession service.world.topic r.sess r.asUid
    { l with service := { service with world := service.world.setTopic topic } }
  else { l with service := service }

/-- The request with which a session leaves at an event, as `unregisterSession` gets it. -/
def SessionEvent.leaving (v : Service) : SessionEvent → Option LeaveRequest
  | .leave sess asUid original unsub _ =>
    let sess := v.own sess
    if sess.isMultiplex ∨ (sess.multi.isNone ∧ !v.linked sess.toSessionKey) then none
    else some { sess := sess, asUid := asUid, original := original, unsub := unsub }
  | .lost s =>
    (Service.keyed s false).bind fun sess =>
      if s.isMultiplex ∨ v.linked s then some { sess := sess, init := false } else none
  | .dropped s => (Service.keyed s (v.background s)).map fun sess => { sess := sess, init := false }
  | _ => none

/-- `unregisterSession`, with the session's link. -/
def Line.unregister (env : Env) (cast : Cast) (fail : Faults) (l : Line) (r : LeaveRequest) :
    Handler Line := do
  let v ← endCallOf env cast l.server r.sess.toSessionKey
  let l := l.setServer v
  return { l with service := leaveTopic fail l.service r }

/-- Whatever a session does but subscribe. -/
def Line.attend (cfg : Config) (env : Env) (cast : Cast) (fail : Faults) (l : Line)
    (e : SessionEvent) : Handler Line :=
  match e.leaving l.service with
  | none => .ok { l with service := Source.attend cfg fail l.service e }
  | some r => l.unregister env cast fail r

def lineStep (cfg : Config) (env : Env) (fuel : Nat) (l : Line) : LineEvent → Handler Line
  | .publish r => (fun out => l.setServer out.1) <$> handlePubBroadcast env fuel l.server r
  | .note r => l.setServer <$> handleCallNote env (broadcastToSessions env fuel) l.server r
  | .callTimeout =>
    l.setServer <$> terminateCallInProgress env (broadcastToSessions env fuel) l.server true
  | .session fail (.subscribe r _) =>
    .ok (if r.sess.isMultiplex then l
      else l.register cfg fail { r with sess := l.service.own r.sess })
  | .session fail e => l.attend cfg env (broadcastToSessions env fuel) fail e

end LastochkaServer.Source
