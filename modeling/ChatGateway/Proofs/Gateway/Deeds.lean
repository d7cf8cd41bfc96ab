import ChatGateway.Proofs.Gateway.Steady

namespace ChatGateway.Gateway

/-- One thing that happens at a gateway. -/
inductive Deed where
  | act (a : Action)
  | work (token id : String) (s : Hosted.WorkerStep)
  | push (change : Push.Hub → Push.Hub)

namespace Deed

/-- A tenant is attached to its stored webhooks when it is loaded, and shut down or logged out for
good when it is unloaded; nobody does so in between. -/
def Orderly : Deed → Prop
  | act (.atTenant _ a) => a.Orderly
  | _ => True

/-- The token that a deed is about, if it is about one. -/
def addressee : Deed → Option String
  | act (.pair token _) => some (Text.trim token)
  | act (.delete token) | act (.send token _) | act (.addWebhook token _)
  | act (.removeWebhook token _) | act (.toggleWebhook token _ _) | act (.inject token _)
  | act (.atTenant token _) | work token _ _ => some token
  | act .loadAll | act (.settle _) | act .shutdown | push _ => none

end Deed

def perform (g : Gateway) : Deed → Gateway
  | .act a => g.act a
  | .work token id s => (g.withTenant token fun h => (h.work id s, .ok ())).1
  | .push change => { g with host := { g.host with hub := change g.host.hub } }

/-- The gateway after some deeds. -/
def after (g : Gateway) (deeds : List Deed) : Gateway := deeds.foldl perform g

/-- A gateway that was just opened, on whatever the store has been given before. -/
structure Opened (g : Gateway) : Prop where
  tenants : g.tenants = []
  latest : g.host.exchange.latest = []
  written : g.host.repository.Written

theorem Opened.sound {g : Gateway} (opened : g.Opened) : g.Sound := by
  have none : ∀ token id, ¬g.holds token id := by
    rintro token id (⟨t, found, _⟩ | last)
    · rw [opened.tenants] at found
      cases found
    · rw [opened.latest] at last
      cases last
  refine ⟨?_, opened.written.sound, ?_, ?_, ?_⟩
  · rw [opened.tenants]
    exact List.nodup_nil
  · rw [opened.tenants]
    exact fun t member => by cases member
  · exact fun token _ id held => (none token id held).elim
  · exact fun token id held => (none token id held).elim

namespace Sound

variable {g : Gateway}

theorem perform_steady (sound : g.Sound) {d : Deed} (orderly : d.Orderly) {token : String}
    (addressed : d.addressee = some token) : Steady token g (g.perform d) := by
  cases d with
  | act a =>
      cases a with
      | pair token wid => exact Option.some.inj addressed ▸ sound.pair token wid
      | delete token => exact Option.some.inj addressed ▸ sound.delete token
      | send token r => exact Option.some.inj addressed ▸ sound.send token r
      | inject token e => exact Option.some.inj addressed ▸ sound.inject token e
      | addWebhook token w =>
          exact Option.some.inj addressed ▸ sound.withTenant token fun _ _ =>
            .single (.addWebhook w)
      | removeWebhook token url =>
          exact Option.some.inj addressed ▸ sound.withTenant token fun _ _ =>
            .single (.removeWebhook url)
      | toggleWebhook token url option =>
          exact Option.some.inj addressed ▸ sound.withTenant token fun _ _ =>
            .single (.toggleWebhook url option)
      | atTenant token a =>
          exact Option.some.inj addressed ▸ sound.withTenant token fun _ agreed =>
            Hosted.act_moves agreed.distinct orderly
      | loadAll => cases addressed
      | settle net => cases addressed
      | shutdown => cases addressed
  | work token id s =>
      exact Option.some.inj addressed ▸ sound.withTenant token fun _ _ => .single (.work id s)
  | push change => cases addressed

theorem perform (sound : g.Sound) {d : Deed} (orderly : d.Orderly) : (g.perform d).Sound := by
  cases addressed : d.addressee with
  | some token => exact (sound.perform_steady orderly addressed).sound
  | none =>
      cases d with
      | act a =>
          cases a with
          | loadAll => exact sound.loadAll
          | settle net => exact sound.settle net
          | shutdown => exact sound.shutdown
          | _ => cases addressed
      | work token id s => cases addressed
      | push change => exact sound.with_host _ rfl rfl rfl

theorem after (sound : g.Sound) {deeds : List Deed} (orderly : ∀ d ∈ deeds, d.Orderly) :
    (g.after deeds).Sound := by
  induction deeds generalizing g with
  | nil => exact sound
  | cons d rest ih =>
      have first := sound.perform (orderly d List.mem_cons_self)
      exact ih first fun e later => orderly e (List.mem_cons_of_mem d later)

end Sound

end ChatGateway.Gateway
