import ChatGateway.Json.Decode

namespace ChatGateway

inductive TenantStatus where
  | unprepared
  | pairing
  | ready
  | disconnected
  /-- The session was ended by the network; only pairing again helps. -/
  | loggedOut
  deriving DecidableEq, Repr, Inhabited

namespace TenantStatus

def all : List TenantStatus := [unprepared, pairing, ready, disconnected, loggedOut]

def name : TenantStatus → String
  | unprepared => "unprepared"
  | pairing => "pairing"
  | ready => "ready"
  | disconnected => "disconnected"
  | loggedOut => "loggedout"

def ofName? (s : String) : Option TenantStatus := all.find? (·.name == s)

def startsItself : TenantStatus → Bool
  | unprepared | disconnected | ready => true
  | pairing | loggedOut => false

def isReady (s : TenantStatus) : Bool := s == ready

/-- Whether `next` may follow. Every state may follow itself. -/
def allows : TenantStatus → TenantStatus → Bool
  | unprepared, pairing | unprepared, ready => true
  | loggedOut, pairing | loggedOut, ready => true
  | pairing, ready | pairing, unprepared => true
  | ready, disconnected | ready, loggedOut => true
  | disconnected, ready | disconnected, loggedOut => true
  | current, next => current == next

def decode : Decoder TenantStatus := Decoder.variant ofName?

def toJson (s : TenantStatus) : Json := .str s.name

end TenantStatus

end ChatGateway
