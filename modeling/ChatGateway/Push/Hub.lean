import ChatGateway.Push.Frame
import ChatGateway.Push.Metrics
import ChatGateway.Push.Pool
import ChatGateway.Settings.Basic

namespace ChatGateway.Push

structure Hub where
  settings : PushSettings := {}
  pool : Pool := {}
  /-- Every connection ever opened; one that is no longer registered can still be drained. -/
  handles : List (Handle Frame) := []
  metrics : Metrics := {}

namespace Hub

def handle? (hub : Hub) (id : ConnectionId) : Option (Handle Frame) :=
  Keyed.find? Handle.id id hub.handles

def modifyHandle (hub : Hub) (id : ConnectionId) (change : Handle Frame → Handle Frame) : Hub :=
  { hub with handles := Keyed.modify Handle.id id change hub.handles }

def connect (hub : Hub) (id : ConnectionId) : Hub :=
  { hub with
    pool := hub.pool.add id
    handles := Keyed.put Handle.id { id := id, capacity := max hub.settings.bufferSize 1 }
      hub.handles
    metrics := hub.metrics.opened }

def disconnect (hub : Hub) (id : ConnectionId) : Hub :=
  let (pool, existed) := hub.pool.remove id
  if existed then
    { hub.modifyHandle id Handle.markDead with pool := pool, metrics := hub.metrics.closed }
  else { hub with pool := pool }

def bindToken (hub : Hub) (id : ConnectionId) (token : String) : Hub × Bool :=
  let (pool, added) := hub.pool.bind id token
  ({ hub with pool := pool, metrics := if added then hub.metrics.bound else hub.metrics }, added)

def reply (hub : Hub) (id : ConnectionId) (frame : Frame) : Hub :=
  if hub.pool.isRegistered id then hub.modifyHandle id fun h => (h.send frame).1 else hub

/-- A frame from a client: a request to be bound to a known token is granted, and every frame is
answered. Gives the token bound. -/
def inbound (hub : Hub) (id : ConnectionId) (raw : String) (known : String → Bool) :
    Hub × Option String :=
  match bindRequest raw with
  | .error fault => (hub.reply id (.error "INVALID_MESSAGE" fault.message), none)
  | .ok token =>
    if known token then (((hub.bindToken id token).1).reply id (.bound token), some token)
    else (hub.reply id (.error "UNKNOWN_TOKEN" "Token not found"), none)

def sendAll (frame : Frame) (ids : List ConnectionId) (handles : List (Handle Frame)) :
    List (Handle Frame) × Nat :=
  ids.foldl (fun (hs, n) id =>
    match Keyed.find? Handle.id id hs with
    | none => (hs, n)
    | some h =>
      let (h', outcome) := h.send frame
      (Keyed.put Handle.id h' hs, if outcome = .sent then n + 1 else n)) (handles, 0)

/-- Push a record to the connections bound to a token; gives the number that took it. -/
def dispatch (hub : Hub) (token : String) (m : Message) : Hub × Nat :=
  let ids := hub.pool.reached token
  let (handles, taken) := sendAll (.record hub.settings.messageTarget m) ids hub.handles
  ({ hub with
      handles := handles
      metrics := (hub.metrics.pushed (.ofNat taken)).dropped (.ofNat (ids.length - taken)) }, taken)

def closeAll (hub : Hub) : Hub := hub.pool.registered.foldl disconnect hub

def abandon (hub : Hub) (id : ConnectionId) : Hub := hub.modifyHandle id Handle.abandon

def receive (hub : Hub) (id : ConnectionId) : Hub × List Frame :=
  match hub.handle? id with
  | none => (hub, [])
  | some h => (hub.modifyHandle id fun h => h.drain.1, h.drain.2)

def connectionCount (hub : Hub) : Nat := hub.pool.connectionCount

def tokensOf (hub : Hub) (id : ConnectionId) : List String :=
  (hub.pool.tokens id).mergeSort (· ≤ ·)

def isAlive? (hub : Hub) (id : ConnectionId) : Option Bool := (hub.handle? id).map Handle.alive

end Hub

end ChatGateway.Push
