import ChatGateway.Proofs.Gateway.Consistent

namespace ChatGateway

open Hosted (Quiet)

namespace Gateway

/-- The network reports an event on the latest session of a token. -/
def inject (g : Gateway) (token : String) (e : Session.Event) : Gateway :=
  match g.host.exchange.latest? token with
  | none => g
  | some l => { g with host := { g.host with exchange := g.host.exchange.update (l.inject e).1 } }

/-- What is done at a gateway, by its users, by the network and by itself. -/
inductive Action where
  | loadAll
  | pair (token wid : String)
  | delete (token : String)
  | send (token : String) (r : Outbound.Request)
  | addWebhook (token : String) (w : Webhook)
  | removeWebhook (token url : String)
  | toggleWebhook (token url : String) (option : WebhookOption)
  | inject (token : String) (e : Session.Event)
  | settle (net : Network)
  | atTenant (token : String) (a : Hosted.Action)
  | shutdown

/-- Every identity that the network confirms is one. -/
def Action.Named : Action → Prop
  | inject _ e => e.Names Proper
  | atTenant _ a => a.Names Proper
  | _ => True

def act (g : Gateway) : Action → Gateway
  | .loadAll => g.loadAll.1
  | .pair token wid => (g.pair token wid).1
  | .delete token => (g.delete token).1
  | .send token r => (g.send token r).1
  | .addWebhook token w => (g.addWebhook token w).1
  | .removeWebhook token url => (g.removeWebhook token url).1
  | .toggleWebhook token url option => (g.toggleWebhook token url option).1
  | .inject token e => g.inject token e
  | .settle net => g.settle net
  | .atTenant token a => (g.withTenant token fun h => (h.act a, .ok ())).1
  | .shutdown => g.shutdown

def run (g : Gateway) (actions : List Action) : Gateway := actions.foldl act g

/-- A gateway that was just opened on a store. -/
structure Fresh (g : Gateway) : Prop where
  tenants : g.tenants = []
  mail : g.host.exchange.mail = []
  rows : Keyed.Distinct Profile.token g.host.repository.tenants

theorem Fresh.consistent {g : Gateway} (fresh : g.Fresh) : g.Consistent := by
  refine ⟨?_, fresh.rows, ?_, ?_⟩
  · rw [fresh.tenants]
    exact List.nodup_nil
  · rw [fresh.mail]
    exact fun e waiting => by cases waiting
  · rw [fresh.tenants]
    exact fun t member => by cases member

namespace Consistent

variable {g : Gateway}

theorem inject (consistent : g.Consistent) (token : String) {e : Session.Event}
    (named : e.Names Proper) : (g.inject token e).Consistent := by
  unfold Gateway.inject
  cases found : g.host.exchange.latest? token with
  | none => exact consistent
  | some l =>
      apply consistent.with_host
      · exact consistent.rows
      · intro waiting member
        rcases Session.Exchange.update_mail member with here | there
        · rcases Session.Link.inject_mail here with rfl | before
          · exact named
          · exact consistent.hears waiting (Session.Exchange.latest?_mail found before)
        · exact consistent.hears waiting there
      · exact fun _ _ => rfl

theorem settle (consistent : g.Consistent) (net : Network) : (g.settle net).Consistent := by
  have taken := consistent.forEach fun _ => Hosted.takeEvents_leads
  unfold Gateway.settle
  dsimp only
  apply Keeps.forEach
  · exact taken.with_quiet_host rfl (Session.Exchange.dropUnheard_mail _ _)
  · exact fun h _ => .of_quiet (h.deliver_quiet net)

theorem send (consistent : g.Consistent) (token : String) (r : Outbound.Request) :
    (g.send token r).1.Consistent := by
  apply consistent.withTenant
  intro h _
  dsimp only
  split
  · exact .of_quiet (Quiet.refl h)
  · exact .of_quiet ((Hosted.now_quiet h).trans (Hosted.send_quiet _ _))

theorem act (consistent : g.Consistent) {a : Action} (named : a.Named) :
    (g.act a).Consistent := by
  cases a with
  | loadAll => exact consistent.loadAll
  | pair token wid => exact consistent.pair token wid
  | delete token => exact consistent.delete token
  | send token r => exact consistent.send token r
  | addWebhook token w =>
      exact consistent.withTenant token fun h _ => .of_quiet (h.addWebhook_quiet w)
  | removeWebhook token url =>
      exact consistent.withTenant token fun h _ => .of_quiet (h.removeWebhook_quiet url)
  | toggleWebhook token url option =>
      exact consistent.withTenant token fun h _ => .of_quiet (h.toggleWebhook_quiet url option)
  | inject token e => exact consistent.inject token named
  | settle net => exact consistent.settle net
  | atTenant token a =>
      exact consistent.withTenant token fun h hears =>
        Hosted.act_leads (fun _ => id) hears named
  | shutdown => exact consistent.shutdown

theorem run (consistent : g.Consistent) {actions : List Action}
    (named : ∀ a ∈ actions, a.Named) : (g.run actions).Consistent := by
  induction actions generalizing g with
  | nil => exact consistent
  | cons a rest ih =>
      have first := consistent.act (named a List.mem_cons_self)
      exact ih first fun b later => named b (List.mem_cons_of_mem a later)

end Consistent

end Gateway

end ChatGateway
