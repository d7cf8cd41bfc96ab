import ChatGateway.Proofs.Gateway.Deeds

namespace ChatGateway

/-- The stored webhooks have different addresses; the tenant has webhooks of just these addresses
and settings, and just they receive its records. -/
structure Tenant.Shows (t : Tenant) (stored : List Webhook) : Prop where
  distinct : (stored.map Webhook.url).Nodup
  urls : t.webhooks.map Webhook.url = stored.map Webhook.url
  settings : ∀ url, (t.webhook? url).map Webhook.settings =
    (Keyed.find? Webhook.url url stored).map Webhook.settings
  subscribers : t.fanout.subscriberIds = stored.map fun w => "webhook:" ++ w.url

namespace Hosted

variable {h : Hosted}

theorem Agreed.shows (agreed : h.Agreed) :
    h.tenant.Shows (h.host.repository.webhooksOf h.tenant.token) :=
  ⟨agreed.store.urls h.tenant.token, agreed.attached.urls, agreed.attached.find?,
    agreed.attached.subscribers⟩

theorem Agreed.unknown (agreed : h.Agreed) {url : String}
    (absent : url ∉ (h.host.repository.webhooksOf h.tenant.token).map Webhook.url) :
    url ∉ h.tenant.webhooks.map Webhook.url ∧
      "webhook:" ++ url ∉ h.tenant.fanout.subscriberIds := by
  constructor
  · rw [agreed.attached.urls]
    exact absent
  · intro subscribed
    obtain ⟨w, stored, same⟩ := Keyed.has_iff.mp (agreed.attached.subscribes.mp subscribed)
    exact absent (same ▸ List.mem_map_of_mem stored)

theorem Agreed.removed_iff (agreed : h.Agreed) (url : String) :
    (h.removeWebhook url).2 = true ↔
      url ∈ (h.host.repository.webhooksOf h.tenant.token).map Webhook.url := by
  have found := h.host.repository.removeWebhook_count h.tenant.token url
  rw [List.mem_map, ← Keyed.has_iff]
  unfold Hosted.removeWebhook
  dsimp only
  split
  · next present =>
    rw [agreed.attached.has] at present
    simp only [Bool.or_eq_true, decide_eq_true_eq, found, present, or_true]
  · simp only [decide_eq_true_eq, found]

theorem removeWebhook_gone (h : Hosted) (url : String) :
    url ∉ ((h.removeWebhook url).1.host.repository.webhooksOf h.tenant.token).map Webhook.url := by
  rw [removeWebhook_rows, List.mem_map]
  rintro ⟨w, member, same⟩
  exact (Keyed.mem_erase.mp member).2 same

end Hosted

namespace Gateway

/-- However a gateway is used, the webhooks of each loaded tenant are the same in the store, at the
tenant and among its subscribers, in the same order and with the same settings. Removing a webhook
tells whether there was one, and then it is in none of the three. -/
theorem webhook_views_agree {g : Gateway} (opened : g.Opened) {deeds : List Deed}
    (orderly : ∀ d ∈ deeds, d.Orderly) {t : Tenant} (loaded : t ∈ (g.after deeds).tenants) :
    t.Shows ((g.after deeds).host.repository.webhooksOf t.token) ∧
    ∀ url, ∃ g' removed t',
      (g.after deeds).removeWebhook t.token url = (g', .ok removed) ∧
      (removed = true ↔
        url ∈ ((g.after deeds).host.repository.webhooksOf t.token).map Webhook.url) ∧
      Keyed.find? Tenant.token t.token g'.tenants = some t' ∧
      t'.Shows (g'.host.repository.webhooksOf t.token) ∧
      url ∉ (g'.host.repository.webhooksOf t.token).map Webhook.url ∧
      url ∉ t'.webhooks.map Webhook.url ∧ "webhook:" ++ url ∉ t'.fanout.subscriberIds := by
  have sound := opened.sound.after orderly
  generalize g.after deeds = g at sound loaded
  have agreed := sound.agreed loaded
  refine ⟨agreed.shows, fun url => ?_⟩
  have found := find?_some ((Keyed.find?_eq_some sound.tokens).mpr ⟨loaded, rfl⟩)
  have after := agreed.removeWebhook url
  have own : (Hosted.removeWebhook ⟨t, g.host⟩ url).1.tenant.token = t.token :=
    (Hosted.Spares.removeWebhook ⟨t, g.host⟩ url).token
  have gone := Hosted.removeWebhook_gone ⟨t, g.host⟩ url
  refine ⟨g.put (Hosted.removeWebhook ⟨t, g.host⟩ url).1, (Hosted.removeWebhook ⟨t, g.host⟩ url).2,
    (Hosted.removeWebhook ⟨t, g.host⟩ url).1.tenant, ?_, agreed.removed_iff url, g.put_found own,
    ?_, gone, ?_⟩
  · simp only [removeWebhook, withTenant, get, found]
  · exact own ▸ after.shows
  · exact after.unknown (own ▸ gone)

/-- Two webhooks are added; the second is toggled and the first removed. -/
theorem second_webhook_stays :
    let host : Host := { settings := {}, office := ⟨""⟩, hub := {}, clock := ⟨.epoch⟩ }
    let deeds : List Deed :=
      [.act (.pair "tok" "1@s.whatsapp.net"), .act (.addWebhook "tok" { url := "http://one" }),
        .act (.addWebhook "tok" { url := "http://two" }),
        .act (.toggleWebhook "tok" "http://two" .groups), .act (.settle Network.down),
        .act (.removeWebhook "tok" "http://one")]
    let g := after { host := host } deeds
    (g.host.repository.webhooksOf "tok").map Webhook.url = ["http://two"] ∧
    ∃ t ∈ g.tenants, t.token = "tok" ∧ t.Shows (g.host.repository.webhooksOf "tok") ∧
      t.fanout.subscriberIds = ["webhook:http://two"] ∧
      (t.webhook? "http://two").map (·.groups) = some (some true) ∧
      (g.removeWebhook "tok" "http://two").2 = .ok true := by
  intro host deeds g
  have opened : Opened { host := host } := ⟨rfl, rfl, .empty⟩
  have orderly : ∀ d ∈ deeds, d.Orderly := by
    intro d member
    simp only [deeds, List.mem_cons, List.not_mem_nil, or_false] at member
    rcases member with rfl | rfl | rfl | rfl | rfl | rfl <;> trivial
  have stored : (g.host.repository.webhooksOf "tok").map Webhook.url = ["http://two"] := by
    decide +kernel
  have toggled : (Keyed.find? Webhook.url "http://two" (g.host.repository.webhooksOf "tok")).map
      (·.groups) = some (some true) := by
    decide +kernel
  have ready : g.has "tok" = true := by
    decide +kernel
  have views {t : Tenant} := webhook_views_agree (t := t) opened orderly
  rw [show after { host := host } deeds = g from rfl] at views
  -- What is left is about the views alone; `g` need not be computed again.
  clear_value g
  obtain ⟨t, loaded, own⟩ := Keyed.has_iff.mp ready
  obtain ⟨shows, removal⟩ := views loaded
  obtain ⟨g', removed, _, result, there, _⟩ := removal "http://two"
  rw [own] at shows result there
  have named : t.fanout.subscriberIds = ["webhook:http://two"] := by
    have ids := congrArg (List.map fun url => "webhook:" ++ url) stored
    rw [List.map_map] at ids
    exact (shows.subscribers.trans ids).trans (by decide +kernel)
  have groups : (t.webhook? "http://two").map (·.groups) = some (some true) := by
    have settings := congrArg (Option.map Webhook.groups) (shows.settings "http://two")
    rw [Option.map_map, Option.map_map] at settings
    exact settings.trans toggled
  refine ⟨stored, t, loaded, own, shows, named, groups, ?_⟩
  rw [stored] at there
  rw [result, there.mpr (List.mem_singleton_self _)]

end Gateway

end ChatGateway
