import ChatGateway.Failure

namespace ChatGateway

/-- A member that breaks its rule. -/
structure Violation where
  member : String
  reason : String
  deriving DecidableEq, Repr

namespace Violation

def tooLong (member text : String) (max : Nat) : List Violation :=
  if max < text.length then [⟨member, "Validation error: length"⟩] else []

def missing (member text reason : String) : List Violation :=
  if text.isEmpty then [⟨member, reason⟩] else []

def line (v : Violation) : String := v.member ++ ": " ++ v.reason

/-- Nothing, or a failure with a line for each member at fault, in order. -/
def check (vs : List Violation) : Except Failure Unit :=
  if vs.isEmpty then .ok ()
  else .error (.validation ("\n".intercalate ((vs.map line).mergeSort (· ≤ ·))))

end Violation

end ChatGateway
