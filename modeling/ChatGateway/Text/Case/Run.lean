
namespace ChatGateway.Text.Case

/-- The code points `first, first + step, …, last`, each mapped to itself plus `shift`. -/
structure Run where
  first : Nat
  last : Nat
  step : Nat
  shift : Int
  deriving DecidableEq, Repr

namespace Run

def contains (r : Run) (n : Nat) : Bool :=
  r.first ≤ n && n ≤ r.last && (n - r.first) % r.step == 0

def apply (r : Run) (n : Nat) : Nat := (n + r.shift).toNat

end Run

/-- The image of `n` under the first run that holds it, or `n` itself. -/
def mapRuns (runs : List Run) (n : Nat) : Nat :=
  match runs.find? (·.contains n) with
  | some r => r.apply n
  | none => n

/-- Whether one of the closed ranges holds `n`. -/
def inRanges (ranges : List (Nat × Nat)) (n : Nat) : Bool :=
  ranges.any fun r => r.1 ≤ n && n ≤ r.2

end ChatGateway.Text.Case
