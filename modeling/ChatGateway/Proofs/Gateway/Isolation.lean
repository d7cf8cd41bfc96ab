import ChatGateway.Proofs.Gateway.Deeds

namespace ChatGateway.Gateway

/-- All there is of a tenant is the same: the tenant itself with its records, webhooks and queues,
what is stored of it, and its sessions. -/
structure SameAt (token : String) (g g' : Gateway) : Prop where
  tenant : Keyed.find? Tenant.token token g'.tenants = Keyed.find? Tenant.token token g.tenants
  row : g'.host.repository.find? token = g.host.repository.find? token
  webhooks : g'.host.repository.webhooksOf token = g.host.repository.webhooksOf token
  latest : g'.host.exchange.latest? token = g.host.exchange.latest? token
  sessions : ∀ t, Keyed.find? Tenant.token token g.tenants = some t → ∀ id, t.uses id →
    g'.host.exchange.link? id = g.host.exchange.link? id

theorem Spares.same {g g' : Gateway} {token other : String} (spares : g.Spares token g')
    (sound : g.Sound) (different : other ≠ token) : g.SameAt other g' := by
  have foreign : ∀ id, g.holds other id →
      g'.host.exchange.link? id = g.host.exchange.link? id := by
    intro id held
    apply spares.host.links id (sound.opened other id held)
    exact fun own => different (sound.owned other token id held own)
  refine ⟨spares.tenants other different, spares.host.rows other different,
    spares.host.webhooks other different, ?_, ?_⟩
  · unfold Session.Exchange.latest?
    rw [spares.host.latest other different]
    cases last : g.host.exchange.latest.lookup other with
    | none => rfl
    | some id => exact foreign id (Or.inr last)
  · exact fun t found id used => foreign id (Or.inl ⟨t, found, used⟩)

/-- Whatever happened before, a deed about one token changes nothing of any other: not its tenant,
not what is stored of it, not its sessions. Of the push connections only those bound to the token
can notice, and none is bound or let go. -/
theorem tenants_are_isolated {g : Gateway} (opened : g.Opened) {deeds : List Deed}
    (orderly : ∀ d ∈ deeds, d.Orderly) {d : Deed} (next : d.Orderly) {a b : String}
    (addressed : d.addressee = some a) (different : b ≠ a) :
    (g.after deeds).SameAt b ((g.after deeds).perform d) ∧
      ((g.after deeds).perform d).host.hub.pool = (g.after deeds).host.hub.pool ∧
      ∀ id, id ∉ (g.after deeds).host.hub.pool.boundTo a →
        ((g.after deeds).perform d).host.hub.handle? id = (g.after deeds).host.hub.handle? id := by
  have sound := opened.sound.after orderly
  have spares := (sound.perform_steady next addressed).spares
  exact ⟨spares.same sound different, spares.host.pool, spares.host.handles⟩

/-- Deleting a tenant leaves the other one its webhook, its row and its session. -/
theorem neighbour_outlives_deletion :
    let host : Host := { settings := {}, office := ⟨""⟩, hub := {}, clock := ⟨.epoch⟩ }
    let deeds : List Deed :=
      [.act (.pair "a" "1@s.whatsapp.net"), .act (.pair "b" "2@s.whatsapp.net"),
        .act (.addWebhook "b" { url := "https://b.example" })]
    let g := after { host := host } deeds
    g.SameAt "b" (g.perform (.act (.delete "a"))) ∧
      g.has "b" = true ∧ (g.perform (.act (.delete "a"))).has "a" = false ∧
      (g.host.repository.webhooksOf "b").map Webhook.url = ["https://b.example"] := by
  intro host deeds g
  have opened : Opened { host := host } := ⟨rfl, rfl, .empty⟩
  have orderly : ∀ d ∈ deeds, d.Orderly := by
    intro d member
    simp only [deeds, List.mem_cons, List.not_mem_nil, or_false] at member
    rcases member with rfl | rfl | rfl <;> trivial
  have isolated := tenants_are_isolated opened orderly (d := .act (.delete "a")) trivial rfl
    (show "b" ≠ "a" by decide)
  exact ⟨isolated.1, by decide +kernel, by decide +kernel, by decide +kernel⟩

end ChatGateway.Gateway
