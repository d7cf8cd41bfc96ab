import ChatGateway.Json.Basic
import ChatGateway.Failure

namespace ChatGateway.Delivery

inductive Outcome where
  | sent
  | skipped
  | transient (cause : String)
  | permanent (cause : String)
  | internal (failure : Failure)
  deriving DecidableEq, Repr

def Outcome.fault? : Outcome → Option String
  | .sent | .skipped => none
  | .transient cause => some ("Transient delivery failure: " ++ cause)
  | .permanent cause => some ("Permanent delivery failure: " ++ cause)
  | .internal failure => some ("Internal error: " ++ failure.display)

structure Metrics where
  submitted : UInt64 := 0
  sent : UInt64 := 0
  skipped : UInt64 := 0
  failed : UInt64 := 0
  dropped : UInt64 := 0
  deriving DecidableEq, Repr

namespace Metrics

def finished (k : Metrics) : Outcome → Metrics
  | .sent => { k with sent := k.sent + 1 }
  | .skipped => { k with skipped := k.skipped + 1 }
  | .transient _ | .permanent _ | .internal _ => { k with failed := k.failed + 1 }

def accepted (k : Metrics) : Metrics := { k with submitted := k.submitted + 1 }

def refused (k : Metrics) : Metrics := { k with dropped := k.dropped + 1 }

def toJson (k : Metrics) : Json :=
  .obj [("submitted", .ofNat k.submitted.toNat), ("sent", .ofNat k.sent.toNat),
    ("skipped", .ofNat k.skipped.toNat), ("failed", .ofNat k.failed.toNat),
    ("dropped", .ofNat k.dropped.toNat)]

end Metrics

end ChatGateway.Delivery
