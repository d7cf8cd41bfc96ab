import ChatGateway.Proofs.Store.Webhooks
import ChatGateway.Proofs.Tenant.Moves

/-!
The webhooks of a tenant, seen three ways: as they are stored, as the tenant has them with their
delivery times, and as subscribers of its records. Whatever is done at the tenant, the three agree.
-/

namespace ChatGateway

namespace Webhook

/-- What was asked of a webhook, without its delivery times. -/
def settings (w : Webhook) : Webhook := { w with failure := none, success := none }

theorem settings_url (w : Webhook) : w.settings.url = w.url := rfl

theorem applySettings_url (v w : Webhook) : (v.applySettings w).url = v.url := rfl

theorem toggle_token (w : Webhook) (option : WebhookOption) :
    (w.toggle option).1.token = w.token := by
  cases option <;> rfl

theorem toggle_url (w : Webhook) (option : WebhookOption) : (w.toggle option).1.url = w.url := by
  cases option <;> rfl

theorem settings_applySettings (v w : Webhook) :
    v.settings.applySettings w = (v.applySettings w).settings := rfl

theorem subscriberId_inj {a b : String} : subscriberId a = subscriberId b ↔ a = b := by
  simp [subscriberId]

theorem find?_subscriber (url : String) (ws : List Webhook) :
    ws.find? (subscriberId ·.url == subscriberId url) = Keyed.find? Webhook.url url ws := by
  rw [Keyed.find?]
  congr 1
  funext v
  exact Bool.eq_iff_iff.mpr (by simp [subscriberId_inj])

theorem deliver_settings (w : Webhook) (office : PostOffice) (net : Network) (wid : Option String)
    (m : Message) (clock : Clock) :
    (w.deliver office net wid m clock).2.1.settings = w.settings := by
  unfold deliver
  split
  · rfl
  · dsimp only
    split <;> rfl

theorem deliver_url (w : Webhook) (office : PostOffice) (net : Network) (wid : Option String)
    (m : Message) (clock : Clock) : (w.deliver office net wid m clock).2.1.url = w.url := by
  rw [← settings_url, deliver_settings, settings_url]

/-- A delivery changes no more than the delivery times of a webhook. -/
theorem deliverTo_settings {office : PostOffice} {net : Network} {wid : Option String}
    {id : String} {m : Message} {before after : List Webhook × Clock} {outcome : Delivery.Outcome}
    (done : deliverTo office net wid id m before = some (outcome, after)) :
    after.1.map settings = before.1.map settings := by
  obtain ⟨webhooks, clock⟩ := before
  unfold deliverTo at done
  dsimp only at done
  split at done
  · cases done
    rfl
  · next w found =>
    cases done
    have named : subscriberId w.url = id := by simpa using List.find?_some found
    rw [← named, find?_subscriber, ← w.deliver_url office net wid m clock] at found
    exact Keyed.map_put found (w.deliver_settings office net wid m clock)

end Webhook

namespace Delivery.Fanout

theorem trigger_ids (f : Fanout) (hub : Push.Hub) (token : String) (m : Message) (k : Metrics) :
    (f.trigger hub token m k).1.subscriberIds = f.subscriberIds := by
  rw [trigger_eq, subscriberIds, List.map_map]
  rfl

theorem modify_ids (f : Fanout) (id : String) (change : Queue → Queue) :
    (f.modify id change).subscriberIds = f.subscriberIds := by
  rw [modify, subscriberIds, Keyed.modify_keys]
  · rfl
  · exact fun _ => rfl

theorem cancel_ids (f : Fanout) : f.cancel.subscriberIds = f.subscriberIds := by
  rw [cancel, subscriberIds, List.map_map]
  rfl

theorem register_ids {f : Fanout} {id : String} (absent : id ∉ f.subscriberIds) :
    (f.register id).1.subscriberIds = f.subscriberIds ++ [id] := by
  have test : ¬Keyed.has Registration.id id f.registrations = true := by
    intro present
    obtain ⟨r, member, rfl⟩ := Keyed.has_iff.mp present
    exact absent (List.mem_map_of_mem member)
  rw [register, if_neg test, subscriberIds, List.map_append]
  rfl

theorem unregister_ids (f : Fanout) (id : String) :
    (f.unregister id).1.subscriberIds = f.subscriberIds.filter (· != id) := by
  rw [unregister, subscriberIds, subscriberIds, Keyed.erase, List.filter_map]
  rfl

end Delivery.Fanout

namespace Tenant

/-- The tenant has these webhooks, and each of them receives its records. -/
structure Attached (t : Tenant) (ws : List Webhook) : Prop where
  settings : t.webhooks.map Webhook.settings = ws.map Webhook.settings
  subscribers : t.fanout.subscriberIds = ws.map (Webhook.subscriberId ·.url)

namespace Attached

variable {t : Tenant} {ws : List Webhook} (attached : t.Attached ws)

include attached

theorem has (url : String) :
    Keyed.has Webhook.url url t.webhooks = Keyed.has Webhook.url url ws := by
  have through := Keyed.has_through Webhook.settings_url url
  rw [← through, attached.settings, through]

theorem find? (url : String) :
    (t.webhook? url).map Webhook.settings =
      (Keyed.find? Webhook.url url ws).map Webhook.settings := by
  have through := Keyed.find?_through Webhook.settings_url url
  rw [webhook?, ← through, attached.settings, through]

theorem urls : t.webhooks.map Webhook.url = ws.map Webhook.url := by
  have same := congrArg (List.map Webhook.url) attached.settings
  rwa [List.map_map, List.map_map] at same

theorem owners {token : String} (own : ∀ w ∈ ws, w.token = token) :
    ∀ w ∈ t.webhooks, w.token = token := by
  have same := congrArg (List.map Webhook.token) attached.settings
  rw [List.map_map, List.map_map] at same
  intro w member
  have there : w.token ∈ ws.map Webhook.token := same ▸ List.mem_map_of_mem member
  obtain ⟨v, stored, equal⟩ := List.mem_map.mp there
  exact equal ▸ own v stored

theorem subscribes {url : String} :
    Webhook.subscriberId url ∈ t.fanout.subscriberIds ↔ Keyed.has Webhook.url url ws = true := by
  rw [attached.subscribers, List.mem_map, Keyed.has_iff]
  simp only [Webhook.subscriberId_inj]

theorem distinct (urls : Keyed.Distinct Webhook.url ws) :
    Keyed.Distinct Delivery.Registration.id t.fanout.registrations := by
  have named := List.Nodup.map (fun _ _ => Webhook.subscriberId_inj.mp) urls
  have ids := attached.subscribers
  rw [List.map_map] at named
  rw [Delivery.Fanout.subscriberIds] at ids
  rw [Keyed.Distinct, ids]
  exact named

theorem of_eq {t' : Tenant} (settings : t'.webhooks.map Webhook.settings =
    t.webhooks.map Webhook.settings) (ids : t'.fanout.subscriberIds = t.fanout.subscriberIds) :
    t'.Attached ws :=
  ⟨settings.trans attached.settings, ids.trans attached.subscribers⟩

theorem modify {t' : Tenant} (url : String) (w : Webhook)
    (webhooks : t'.webhooks = Keyed.modify Webhook.url url (·.applySettings w) t.webhooks)
    (ids : t'.fanout.subscriberIds = t.fanout.subscriberIds) :
    t'.Attached (Keyed.modify Webhook.url url (·.applySettings w) ws) := by
  have through : ∀ vs, Keyed.modify Webhook.url url (·.applySettings w) (vs.map Webhook.settings) =
      (Keyed.modify Webhook.url url (·.applySettings w) vs).map Webhook.settings :=
    Keyed.modify_through Webhook.settings_url (fun v => v.settings_applySettings w) url
  constructor
  · rw [webhooks, ← through, attached.settings, through]
  · have urls := Keyed.modify_keys (fun v => v.applySettings_url w) url ws
    have named := congrArg (List.map Webhook.subscriberId) urls
    rw [List.map_map, List.map_map] at named
    exact (ids.trans attached.subscribers).trans named.symm

theorem erase {t' : Tenant} {url : String}
    (webhooks : t'.webhooks = Keyed.erase Webhook.url url t.webhooks)
    (ids : t'.fanout.subscriberIds =
      t.fanout.subscriberIds.filter (· != Webhook.subscriberId url)) :
    t'.Attached (Keyed.erase Webhook.url url ws) := by
  have through := Keyed.erase_through Webhook.settings_url url
  constructor
  · rw [webhooks, ← through, attached.settings, through]
  · rw [ids, attached.subscribers, List.filter_map, Keyed.erase]
    congr 2
    funext w
    exact Bool.eq_iff_iff.mpr (by simp [Webhook.subscriberId_inj])

end Attached

end Tenant

namespace Hosted

open Store (Repository)

theorem attach_host (h : Hosted) (w : Webhook) : (h.attach w).host = h.host := by
  unfold attach
  dsimp only
  split <;> rfl

theorem attach_profile (h : Hosted) (w : Webhook) :
    (h.attach w).tenant.profile = h.tenant.profile := by
  unfold attach
  dsimp only
  split <;> rfl

theorem attachAll_host (h : Hosted) (ws : List Webhook) : (h.attachAll ws).host = h.host := by
  unfold attachAll
  induction ws generalizing h with
  | nil => rfl
  | cons w rest ih => exact (ih (h.attach w)).trans (h.attach_host w)

/-- Attaching a webhook does to what is attached as storing it does to what is stored. -/
theorem attach_attached {h : Hosted} {ws : List Webhook} (attached : h.tenant.Attached ws)
    (distinct : Keyed.Distinct Webhook.url ws) (w : Webhook) :
    (h.attach w).tenant.Attached (Repository.upsert w ws) := by
  unfold attach
  dsimp only
  cases present : Keyed.has Webhook.url w.url ws with
  | true =>
      rw [Repository.upsert_present distinct present, if_pos ((attached.has w.url).trans present)]
      exact attached.modify w.url w rfl rfl
  | false =>
      have absent : ∀ v ∈ ws, v.url ≠ w.url := by simpa [Keyed.has] using present
      have test : ¬Keyed.has Webhook.url w.url h.tenant.webhooks = true := by
        rw [attached.has, present]
        exact Bool.false_ne_true
      have unknown : Webhook.subscriberId w.url ∉ h.tenant.fanout.subscriberIds := by
        rw [attached.subscribes, present]
        exact Bool.false_ne_true
      rw [Repository.upsert_absent absent, if_neg test]
      constructor
      · rw [List.map_append, List.map_append, attached.settings]
      · rw [Delivery.Fanout.register_ids unknown, attached.subscribers, List.map_append]
        rfl

theorem attachAll_attached {h : Hosted} {front rest : List Webhook}
    (attached : h.tenant.Attached front) (distinct : Keyed.Distinct Webhook.url (front ++ rest)) :
    (h.attachAll rest).tenant.Attached (front ++ rest) := by
  induction rest generalizing h front with
  | nil =>
      rw [List.append_nil]
      exact attached
  | cons w rest ih =>
      have joined : front ++ w :: rest = (front ++ [w]) ++ rest := by simp
      have known : Keyed.Distinct Webhook.url (front ++ [w] ++ rest) := joined ▸ distinct
      rw [Keyed.Distinct, List.map_append, List.map_append] at known
      obtain ⟨first, _, _⟩ := List.nodup_append.mp known
      obtain ⟨before, _, apart⟩ := List.nodup_append.mp first
      have absent : ∀ v ∈ front, v.url ≠ w.url := fun v member =>
        apart v.url (List.mem_map_of_mem member) w.url (List.mem_singleton_self _)
      have one := attach_attached attached before w
      rw [Repository.upsert_absent absent] at one
      rw [joined]
      exact ih one (joined ▸ distinct)

/-- The webhooks are left alone: at the tenant, in the store and among the subscribers. -/
structure Untouched (h h' : Hosted) : Prop where
  token : h'.tenant.token = h.tenant.token
  stored : h'.host.repository.webhooks = h.host.repository.webhooks
  webhooks : h'.tenant.webhooks = h.tenant.webhooks
  ids : h'.tenant.fanout.subscriberIds = h.tenant.fanout.subscriberIds

theorem Untouched.trans {h₁ h₂ h₃ : Hosted} (first : Untouched h₁ h₂)
    (second : Untouched h₂ h₃) : Untouched h₁ h₃ :=
  ⟨second.token.trans first.token, second.stored.trans first.stored,
    second.webhooks.trans first.webhooks, second.ids.trans first.ids⟩

theorem Turn.untouched {h h' : Hosted} (turn : h.Turn h') : Untouched h h' := by
  cases turn with
  | clock => exact ⟨rfl, congrArg Repository.webhooks h.host.now_repository, rfl, rfl⟩
  | profile change own =>
      have kept :
          (h.updateProfile change).host.repository.webhooks = h.host.repository.webhooks := by
        simp only [updateProfile, Host.save_repository, Host.now_repository, Repository.save]
      exact ⟨own h.tenant.profile, kept, rfl, rfl⟩
  | cancel => exact ⟨rfl, rfl, rfl, Delivery.Fanout.cancel_ids _⟩
  | trigger m =>
      exact ⟨rfl, rfl, rfl, h.tenant.fanout.trigger_ids h.host.hub h.tenant.token m h.host.metrics⟩
  | hangUp =>
      rw [dropLink_eq]
      exact ⟨rfl, rfl, rfl, rfl⟩
  | start =>
      rcases h.start_eq with same | ⟨exchange, link, _, same⟩
      · rw [same]
        exact ⟨rfl, rfl, rfl, rfl⟩
      · rw [same]
        exact ⟨rfl, rfl, rfl, rfl⟩
  | _ => exact ⟨rfl, rfl, rfl, rfl⟩

theorem Turns.untouched {h h' : Hosted} (turns : Turns h h') : Untouched h h' := by
  induction turns with
  | refl => exact ⟨rfl, rfl, rfl, rfl⟩
  | tail _ turn ih => exact ih.trans turn.untouched

theorem removeWebhook_rows (h : Hosted) (url : String) :
    (h.removeWebhook url).1.host.repository.webhooksOf h.tenant.token =
      Keyed.erase Webhook.url url (h.host.repository.webhooksOf h.tenant.token) := by
  rw [← h.host.repository.removeWebhook_self]
  unfold removeWebhook
  dsimp only
  split <;> rfl

/-- What is stored for the tenant is attached to it. -/
structure Agreed (h : Hosted) : Prop where
  store : h.host.repository.Sound
  attached : h.tenant.Attached (h.host.repository.webhooksOf h.tenant.token)

namespace Agreed

variable {h h' : Hosted}

theorem of_eq (agreed : h.Agreed) (token : h'.tenant.token = h.tenant.token)
    (stored : h'.host.repository.webhooks = h.host.repository.webhooks)
    (settings : h'.tenant.webhooks.map Webhook.settings = h.tenant.webhooks.map Webhook.settings)
    (ids : h'.tenant.fanout.subscriberIds = h.tenant.fanout.subscriberIds) : h'.Agreed := by
  have same : ∀ owner,
      h'.host.repository.webhooksOf owner = h.host.repository.webhooksOf owner := by
    intro owner
    rw [Repository.webhooksOf, stored, Repository.webhooksOf]
  constructor
  · constructor
    · exact fun owner => same owner ▸ agreed.store.urls owner
    · exact fun owner => same owner ▸ agreed.store.owners owner
  · rw [token, same]
    exact agreed.attached.of_eq settings ids

/-- A webhook is stored for the tenant and attached to it. -/
theorem storeAndAttach (agreed : h.Agreed) {w : Webhook} (own : w.token = h.tenant.token) :
    (Hosted.attach { h with host := { h.host with
      repository := h.host.repository.putWebhook w } } w).Agreed := by
  have attached := agreed.attached
  have distinct := agreed.store.urls h.tenant.token
  constructor
  · rw [attach_host]
    exact agreed.store.putWebhook w
  · rw [attach_host, Tenant.token, attach_profile]
    change Tenant.Attached _ ((h.host.repository.putWebhook w).webhooksOf h.tenant.token)
    rw [h.host.repository.putWebhook_own own]
    refine attach_attached ?_ distinct w
    exact attached

theorem addWebhook (agreed : h.Agreed) (w : Webhook) : (h.addWebhook w).1.Agreed := by
  unfold Hosted.addWebhook
  dsimp only
  split
  · exact agreed
  · exact agreed.storeAndAttach rfl

theorem removeWebhook (agreed : h.Agreed) (url : String) : (h.removeWebhook url).1.Agreed := by
  have store := agreed.store.removeWebhook h.tenant.token url
  have left := h.host.repository.removeWebhook_self h.tenant.token url
  unfold Hosted.removeWebhook
  dsimp only
  split
  · refine ⟨store, ?_⟩
    change Tenant.Attached _ ((Repository.removeWebhook _ h.tenant.token url).1.webhooksOf
      h.tenant.token)
    rw [left]
    exact agreed.attached.erase rfl (Delivery.Fanout.unregister_ids _ _)
  · next missing =>
    refine ⟨store, ?_⟩
    change Tenant.Attached _ ((Repository.removeWebhook _ h.tenant.token url).1.webhooksOf
      h.tenant.token)
    rw [agreed.attached.has, Bool.not_eq_true, Keyed.has_eq_false] at missing
    rw [left, Keyed.erase_of_absent missing]
    exact agreed.attached

theorem toggleWebhook (agreed : h.Agreed) (url : String) (option : WebhookOption) :
    (h.toggleWebhook url option).1.Agreed := by
  unfold Hosted.toggleWebhook
  split
  · exact agreed
  · next w found =>
    obtain ⟨member, here⟩ := Keyed.find?_some found
    -- What is stored is the tenant's own webhook, so it has to carry the tenant's token.
    have owned := agreed.attached.owners (agreed.store.owners h.tenant.token) w member
    have own : (w.toggle option).1.token = h.tenant.token := (w.toggle_token option).trans owned
    have address : (w.toggle option).1.url = url := (w.toggle_url option).trans here
    have present : Keyed.has Webhook.url (w.toggle option).1.url
        (h.host.repository.webhooksOf h.tenant.token) = true := by
      rw [address, ← agreed.attached.has]
      exact Keyed.has_of_find? found
    dsimp only
    refine ⟨agreed.store.putWebhook _, ?_⟩
    change Tenant.Attached _ ((Repository.putWebhook _ (w.toggle option).1).webhooksOf
      h.tenant.token)
    rw [Repository.putWebhook_own _ own,
      Repository.upsert_present (agreed.store.urls _) present, address]
    exact agreed.attached.modify url _ rfl rfl

theorem work (agreed : h.Agreed) (id : String) (s : WorkerStep) : (h.work id s).Agreed := by
  cases s with
  | take => exact agreed.of_eq rfl rfl rfl (Delivery.Fanout.modify_ids _ _ _)
  | halt => exact agreed.of_eq rfl rfl rfl (Delivery.Fanout.modify_ids _ _ _)
  | finish net =>
      unfold Hosted.work
      dsimp only
      split
      · exact agreed
      · split
        · exact agreed
        · next done =>
          exact agreed.of_eq rfl rfl (Webhook.deliverTo_settings done)
            (Delivery.Fanout.modify_ids _ _ _)

theorem of_untouched (agreed : h.Agreed) (untouched : Untouched h h') : h'.Agreed :=
  agreed.of_eq untouched.token untouched.stored (congrArg _ untouched.webhooks) untouched.ids

/-- Whatever is done at a tenant, its webhooks stay as they are stored. -/
theorem move (agreed : h.Agreed) (move : h.Move h') : h'.Agreed := by
  cases move with
  | turn t => exact agreed.of_untouched t.untouched
  | addWebhook w => exact agreed.addWebhook w
  | removeWebhook url => exact agreed.removeWebhook url
  | toggleWebhook url option => exact agreed.toggleWebhook url option
  | work id s => exact agreed.work id s

theorem distinct (agreed : h.Agreed) :
    Keyed.Distinct Delivery.Registration.id h.tenant.fanout.registrations :=
  agreed.attached.distinct (agreed.store.urls h.tenant.token)

end Agreed

end Hosted

end ChatGateway
