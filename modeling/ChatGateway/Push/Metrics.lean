import ChatGateway.Json.Basic

namespace ChatGateway.Push

/-- The counters wrap around, but for the number of open connections, which does not go below
zero. -/
structure Metrics where
  connectionsTotal : UInt64 := 0
  connectionsActive : UInt64 := 0
  bindingsTotal : UInt64 := 0
  framesPushed : UInt64 := 0
  framesDropped : UInt64 := 0
  deriving DecidableEq, Repr

namespace Metrics

def opened (m : Metrics) : Metrics :=
  { m with connectionsTotal := m.connectionsTotal + 1
           connectionsActive := m.connectionsActive + 1 }

def closed (m : Metrics) : Metrics :=
  { m with connectionsActive := if m.connectionsActive = 0 then 0 else m.connectionsActive - 1 }

def bound (m : Metrics) : Metrics := { m with bindingsTotal := m.bindingsTotal + 1 }

def pushed (m : Metrics) (n : UInt64) : Metrics := { m with framesPushed := m.framesPushed + n }

def dropped (m : Metrics) (n : UInt64) : Metrics := { m with framesDropped := m.framesDropped + n }

def toJson (m : Metrics) : Json :=
  .obj [("connections_total", .ofNat m.connectionsTotal.toNat),
    ("connections_active", .ofNat m.connectionsActive.toNat),
    ("bindings_total", .ofNat m.bindingsTotal.toNat),
    ("frames_pushed", .ofNat m.framesPushed.toNat),
    ("frames_dropped", .ofNat m.framesDropped.toNat)]

end Metrics

end ChatGateway.Push
