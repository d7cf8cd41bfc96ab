import ChatGateway.Time.Calendar

namespace ChatGateway

/-- An instant of universal time, to the nanosecond. A leap second is the second before it with a
thousand million nanoseconds more. -/
structure Instant where
  second : Int
  nano : Nat
  deriving DecidableEq, Repr, Inhabited

namespace Instant

def epoch : Instant := ⟨0, 0⟩

def nanosPerSecond : Nat := 1000000000

def before (a b : Instant) : Bool :=
  a.second < b.second || (a.second == b.second && a.nano < b.nano)

/-- `a` is not after `b`. -/
def notAfter (a b : Instant) : Bool := !b.before a

def minSecond : Int := -8334601228800
def maxSecond : Int := 8210266876799

/-- The instant a count of seconds stands for, within the calendar. -/
def ofSeconds? (s : Int) : Option Instant :=
  if minSecond ≤ s ∧ s ≤ maxSecond then some ⟨s, 0⟩ else none

end Instant

/-- A supply of clock readings: each reading is later than the ones before it. -/
structure Clock where
  next : Instant
  deriving DecidableEq, Repr, Inhabited

namespace Clock

/-- One microsecond after `t`. -/
def after (t : Instant) : Instant :=
  if t.nano + 1000 < Instant.nanosPerSecond then ⟨t.second, t.nano + 1000⟩
  else ⟨t.second + 1, 0⟩

def read (c : Clock) : Instant × Clock := (c.next, ⟨after c.next⟩)

end Clock

end ChatGateway
