import ChatGateway.Proofs.Gateway.Deeds
import ChatGateway.Proofs.Tenant.Hush

/-!
A gateway in single steps. Every tenant ever loaded is still there, as someone may still hold it,
and so is every pump, the task that takes the events of one session. What clients ask for comes
apart into steps, and other steps may come between any two of them.
-/

namespace ChatGateway

open Session (LinkId)

/-- A task that hands the events of one session to a tenant. -/
structure Pump where
  session : LinkId
  tenant : Nat
  stopped : Bool := false
  deriving DecidableEq

namespace Pump

/-- The pump of the session is told to stop. -/
def quit (session : Option LinkId) (p : Pump) : Pump :=
  if session = some p.session then { p with stopped := true } else p

/-- What becomes of the pumps when something is done at the tenant of a number. -/
def after (pumps : List Pump) (n : Nat) (h : Hosted) : Hosted.Action → List Pump
  | .start => match h.start.2 with
    | .ok _ =>
      pumps.map (quit h.tenant.pump) ++ [{ session := h.host.exchange.nextId, tenant := n }]
    | .error _ => pumps
  | .stop => pumps.map (quit h.tenant.pump)
  | _ => pumps

end Pump

structure Engine where
  host : Host
  /-- Every tenant that was made, by number, also those that were taken out. -/
  made : List Tenant := []
  loaded : List (String × Nat) := []
  pumps : List Pump := []
  closing : Bool := false

namespace Engine

/-- A pump works until it is told to stop, or its tenant is. -/
def live (e : Engine) (p : Pump) : Bool := !p.stopped && e.made[p.tenant]?.any (!·.cancelled)

/-- Do something at the tenant of a number. -/
def act (e : Engine) (n : Nat) (a : Hosted.Action) : Engine :=
  match e.made[n]? with
  | none => e
  | some t =>
    let h : Hosted := ⟨t, e.host⟩
    { e with
      host := (h.act a).host
      made := e.made.set n (h.act a).tenant
      pumps := Pump.after e.pumps n h a }

def work (e : Engine) (n : Nat) (subscriber : String) (s : Hosted.WorkerStep) : Engine :=
  match e.made[n]? with
  | none => e
  | some t =>
    let h := Hosted.work ⟨t, e.host⟩ subscriber s
    { e with host := h.host, made := e.made.set n h.tenant }

/-- Do something at the loaded tenant of a token. -/
def atLoaded (e : Engine) (token : String) (a : Hosted.Action) : Engine :=
  match e.loaded.lookup token with
  | none => e
  | some n => e.act n a

/-- Make a tenant with its webhooks, in place of the one loaded before, which is shut down. -/
def load (e : Engine) (p : Profile) (ws : List Webhook) : Engine :=
  let e := e.atLoaded p.token .shutdown
  let h := Hosted.attachAll ⟨Tenant.ofProfile e.host.settings p e.closing, e.host⟩ ws
  { e with
    host := h.host
    made := e.made ++ [h.tenant]
    loaded := Keyed.put Prod.fst (p.token, e.made.length) e.loaded }

/-- Take a tenant out and log it out. -/
def unload (e : Engine) (token : String) : Engine :=
  let e := e.atLoaded token .logout
  { e with loaded := Keyed.erase Prod.fst token e.loaded }

/-- Tell every tenant to stop, and take all of them out. -/
def close (e : Engine) : Engine :=
  { e with made := e.made.map Tenant.cancel, loaded := [], closing := true }

def withExchange (e : Engine) (x : Session.Exchange) : Engine :=
  { e with host := { e.host with exchange := x } }

def inject (e : Engine) (id : LinkId) (event : Session.Event) : Engine :=
  match e.host.exchange.link? id with
  | none => e
  | some l => e.withExchange (e.host.exchange.update (l.inject event).1)

/-- What waits on a session is lost, and it takes no more. -/
def hush (e : Engine) (id : LinkId) : Engine := e.withExchange (e.host.exchange.hush id)

/-- A pump hands on the event that waits longest. -/
def receive (e : Engine) (p : Pump) : Engine :=
  match e.host.exchange.link? p.session with
  | none => e
  | some l => match l.mailbox with
    | [] => e
    | event :: rest =>
      (e.withExchange (e.host.exchange.update { l with mailbox := rest })).act p.tenant
        (.event event)

/-- It is the turn of the pump of a session. One that was told to stop leaves, and takes what waits
with it. -/
def turn (e : Engine) (id : LinkId) : Engine :=
  match Keyed.find? Pump.session id e.pumps with
  | none => e
  | some p => if e.live p then e.receive p else e.hush id

inductive Step where
  | load (p : Profile) (ws : List Webhook)
  | unload (token : String)
  | close
  | act (n : Nat) (a : Hosted.Action)
  | work (n : Nat) (subscriber : String) (s : Hosted.WorkerStep)
  | tick
  | save (p : Profile)
  | erase (token : String)
  | push (change : Push.Hub → Push.Hub)
  | inject (id : LinkId) (event : Session.Event)
  | turn (id : LinkId)

def step (e : Engine) : Step → Engine
  | .load p ws => e.load p ws
  | .unload token => e.unload token
  | .close => e.close
  | .act n a => e.act n a
  | .work n subscriber s => e.work n subscriber s
  | .tick => { e with host := e.host.now.2 }
  | .save p => { e with host := e.host.save p }
  | .erase token =>
    { e with host := { e.host with repository := (e.host.repository.delete token).1 } }
  | .push change => { e with host := { e.host with hub := change e.host.hub } }
  | .inject id event => e.inject id event
  | .turn id => e.turn id

def run (e : Engine) (steps : List Step) : Engine := steps.foldl step e

end Engine

end ChatGateway
